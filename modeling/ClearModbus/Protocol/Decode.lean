import ClearModbus.Protocol.Registry

/-!
# `decode_request_pdu` and `decode_response_pdu`

One function for the payload of each branch, and the two dispatchers over the function code.
-/

namespace ClearModbus

def decodeReadRequest (functionCode : Int) (payload : Bytes) : Except PyError BuiltinRequest :=
  if payload.length ≠ 4 then .error (.valueError "read request payload must be 4 bytes")
  else do
    let (address, count) ← unpackHH payload
    if functionCode = FunctionCode.readCoils.code then
      .readCoils <$> ReadRequest.postInit 0x01 maxReadBits address count
    else if functionCode = FunctionCode.readDiscreteInputs.code then
      .readDiscreteInputs <$> ReadRequest.postInit 0x02 maxReadBits address count
    else if functionCode = FunctionCode.readHoldingRegisters.code then
      .readHoldingRegisters <$> ReadRequest.postInit 0x03 maxReadRegisters address count
    else
      .readInputRegisters <$> ReadRequest.postInit 0x04 maxReadRegisters address count

def decodeWriteSingleCoilRequest (payload : Bytes) : Except PyError WriteSingleCoilRequest :=
  if payload.length ≠ 4 then
    .error (.valueError "write single coil request payload must be 4 bytes")
  else do
    let (address, encodedValue) ← unpackHH payload
    if encodedValue = coilOn then WriteSingleCoilRequest.postInit address (.bool true)
    else if encodedValue = coilOff then WriteSingleCoilRequest.postInit address (.bool false)
    else throw (.valueError "single coil value must be 0xFF00 or 0x0000")

def decodeWriteSingleRegisterRequest (payload : Bytes) :
    Except PyError WriteSingleRegisterRequest :=
  if payload.length ≠ 4 then
    .error (.valueError "write single register request payload must be 4 bytes")
  else do
    let (address, value) ← unpackHH payload
    WriteSingleRegisterRequest.postInit address value

def decodeWriteMultipleCoilsRequest (payload : Bytes) : Except PyError WriteMultipleCoilsRequest :=
  if payload.length < 5 then
    .error (.valueError "write multiple coils request payload is too short")
  else do
    let (address, count) ← unpackFromHH payload
    let byteCount ← getItem payload 4
    let bitBytes := payload.drop 5
    if (byteCount.toNat : Int) ≠ bitBytes.length then
      throw (.valueError "coil byte count does not match payload length")
    else if (byteCount.toNat : Int) < (count + 7) / 8 then
      throw (.valueError "coil byte count is too short for requested count")
    else
      let values ← unpackBits bitBytes count
      WriteMultipleCoilsRequest.postInit address (values.map .bool)

/-- The checks the two multiple-register branches share: the register bytes of a byte count that
agrees with the payload and with the count field. -/
def decodeRegisterValues (count : Int) (byteCount : UInt8) (registerBytes : Bytes) :
    Except PyError (List Int) :=
  if (byteCount.toNat : Int) ≠ registerBytes.length then
    .error (.valueError "register byte count does not match payload length")
  else if (byteCount.toNat : Int) % 2 ≠ 0 then
    .error (.valueError "register byte count must be even")
  else if count ≠ (byteCount.toNat : Int) / 2 then
    .error (.valueError "register count does not match byte count")
  else unpackWords ((byteCount.toNat : Int) / 2) registerBytes

def decodeWriteMultipleRegistersRequest (payload : Bytes) :
    Except PyError WriteMultipleRegistersRequest :=
  if payload.length < 5 then
    .error (.valueError "write multiple registers request payload is too short")
  else do
    let (address, count) ← unpackFromHH payload
    let byteCount ← getItem payload 4
    let registerBytes := payload.drop 5
    let values ← decodeRegisterValues count byteCount registerBytes
    WriteMultipleRegistersRequest.postInit address values

def decodeMaskWriteRegisterRequest (payload : Bytes) : Except PyError MaskWriteRegisterRequest :=
  if payload.length ≠ 6 then
    .error (.valueError "mask write register request payload must be 6 bytes")
  else do
    let (address, andMask, orMask) ← unpackHHH payload
    MaskWriteRegisterRequest.postInit address andMask orMask

def decodeReadWriteMultipleRegistersRequest (payload : Bytes) :
    Except PyError ReadWriteMultipleRegistersRequest :=
  if payload.length < 9 then
    .error (.valueError "read/write multiple registers request payload is too short")
  else do
    let (readAddress, readCount, writeAddress, writeCount) ← unpackFromHHHH payload
    let byteCount ← getItem payload 8
    let registerBytes := payload.drop 9
    let values ← decodeRegisterValues writeCount byteCount registerBytes
    ReadWriteMultipleRegistersRequest.postInit readAddress readCount writeAddress values

/-- The end of the dispatch: the custom decoders, then the unsupported function code. -/
def decodeCustomRequest (registry : CustomFunctionCodeRegistry) (functionCode : Int)
    (payload : Bytes) : Except PyError RequestPDU := do
  match ← registry.decodeRequest functionCode payload with
  | some customRequest => return customRequest
  | none =>
      throw (.modbusPDUError ("Unsupported function code: " ++ toString functionCode))

/-- The `0x2B` branch; a payload that does not start with the MEI type falls through. -/
def decodeEncapsulatedRequest (registry : CustomFunctionCodeRegistry) (functionCode : Int)
    (payload : Bytes) : Except PyError RequestPDU :=
  match payload with
  | [meiType, readCode, objectId] =>
      if (meiType.toNat : Int) = readDeviceIdentificationMeiType then do
        let request ← ReadDeviceIdentificationRequest.postInit readCode.toNat objectId.toNat
          meiType.toNat
        return .builtin (.readDeviceIdentification request)
      else decodeCustomRequest registry functionCode payload
  | meiType :: _ =>
      if (meiType.toNat : Int) = readDeviceIdentificationMeiType then
        .error (.valueError "read device identification request payload must be 3 bytes")
      else decodeCustomRequest registry functionCode payload
  | [] => decodeCustomRequest registry functionCode payload

def decodeRequestPdu (registry : CustomFunctionCodeRegistry) (data : Bytes) :
    Except PyError RequestPDU :=
  match data with
  | [] => .error (.valueError "PDU is empty")
  | head :: payload =>
      let functionCode : Int := head.toNat
      if functionCode = FunctionCode.readCoils.code ∨
          functionCode = FunctionCode.readDiscreteInputs.code ∨
          functionCode = FunctionCode.readHoldingRegisters.code ∨
          functionCode = FunctionCode.readInputRegisters.code then
        .builtin <$> decodeReadRequest functionCode payload
      else if functionCode = FunctionCode.writeSingleCoil.code then
        (.builtin ∘ .writeSingleCoil) <$> decodeWriteSingleCoilRequest payload
      else if functionCode = FunctionCode.writeSingleRegister.code then
        (.builtin ∘ .writeSingleRegister) <$> decodeWriteSingleRegisterRequest payload
      else if functionCode = FunctionCode.writeMultipleCoils.code then
        (.builtin ∘ .writeMultipleCoils) <$> decodeWriteMultipleCoilsRequest payload
      else if functionCode = FunctionCode.writeMultipleRegisters.code then
        (.builtin ∘ .writeMultipleRegisters) <$> decodeWriteMultipleRegistersRequest payload
      else if functionCode = FunctionCode.maskWriteRegister.code then
        (.builtin ∘ .maskWriteRegister) <$> decodeMaskWriteRegisterRequest payload
      else if functionCode = FunctionCode.readWriteMultipleRegisters.code then
        (.builtin ∘ .readWriteMultipleRegisters) <$> decodeReadWriteMultipleRegistersRequest payload
      else if functionCode = FunctionCode.encapsulatedInterfaceTransport.code then
        decodeEncapsulatedRequest registry functionCode payload
      else
        decodeCustomRequest registry functionCode payload

def decodeCustomResponse (registry : CustomFunctionCodeRegistry) (functionCode : Int)
    (payload : Bytes) (request : RequestPDU) : Except PyError ResponsePDU := do
  match ← registry.decodeResponse functionCode payload request with
  | some customResponse => return customResponse
  | none => throw (.valueError "")

def decodeReadBitsResponse (functionCode : Int) (payload : Bytes) (request : RequestPDU) :
    Except PyError ResponsePDU :=
  match request with
  | .builtin (.readCoils request) =>
      .readBits <$> ReadBitsResponse.decode functionCode payload request.count
  | .builtin (.readDiscreteInputs request) =>
      .readBits <$> ReadBitsResponse.decode functionCode payload request.count
  | _ => .error (.valueError "")

/-- The read/write branch: the only register read that compares the count with the request. -/
def decodeReadWriteMultipleRegistersResponse (functionCode : Int) (payload : Bytes)
    (request : RequestPDU) : Except PyError ResponsePDU :=
  match request with
  | .builtin (.readWriteMultipleRegisters request) => do
      let response ← ReadRegistersResponse.decode functionCode payload
      if (response.values.length : Int) ≠ request.readCount then
        throw (.valueError "read register response count does not match request")
      else
        return .readRegisters response
  | _ => .error (.valueError "")

def decodeEncapsulatedResponse (registry : CustomFunctionCodeRegistry) (functionCode : Int)
    (payload : Bytes) (request : RequestPDU) : Except PyError ResponsePDU :=
  match request with
  | .builtin (.readDeviceIdentification deviceRequest) => do
      let response ← ReadDeviceIdentificationResponse.decode payload
      if response.readCode ≠ deviceRequest.readCode then
        throw (.valueError "read device identification response code mismatch")
      else
        return .readDeviceIdentification response
  | _ => decodeCustomResponse registry functionCode payload request

def decodeNormalResponse (registry : CustomFunctionCodeRegistry) (functionCode : Int)
    (payload : Bytes) (request : RequestPDU) : Except PyError ResponsePDU :=
  if functionCode = FunctionCode.readCoils.code ∨
      functionCode = FunctionCode.readDiscreteInputs.code then
    decodeReadBitsResponse functionCode payload request
  else if functionCode = FunctionCode.readHoldingRegisters.code ∨
      functionCode = FunctionCode.readInputRegisters.code then
    .readRegisters <$> ReadRegistersResponse.decode functionCode payload
  else if functionCode = FunctionCode.readWriteMultipleRegisters.code then
    decodeReadWriteMultipleRegistersResponse functionCode payload request
  else if functionCode = FunctionCode.encapsulatedInterfaceTransport.code then
    decodeEncapsulatedResponse registry functionCode payload request
  else if functionCode = FunctionCode.writeSingleCoil.code then
    .writeSingleCoil <$> WriteSingleCoilResponse.decode payload
  else if functionCode = FunctionCode.writeSingleRegister.code then
    .writeSingleRegister <$> WriteSingleRegisterResponse.decode payload
  else if functionCode = FunctionCode.writeMultipleCoils.code then
    .writeMultipleCoils <$> WriteMultipleCoilsResponse.decode payload
  else if functionCode = FunctionCode.writeMultipleRegisters.code then
    .writeMultipleRegisters <$> WriteMultipleRegistersResponse.decode payload
  else if functionCode = FunctionCode.maskWriteRegister.code then
    .maskWriteRegister <$> MaskWriteRegisterResponse.decode payload
  else
    decodeCustomResponse registry functionCode payload request

def decodeResponsePdu (registry : CustomFunctionCodeRegistry) (data : Bytes)
    (request : RequestPDU) : Except PyError ResponsePDU :=
  match data with
  | [] => .error (.valueError "")
  | head :: payload =>
      let functionCode : Int := head.toNat
      if Int.land functionCode 0x80 ≠ 0 then
        if Int.land functionCode 0x7F ≠ request.functionCode then .error (.valueError "")
        else .exception <$> ExceptionResponse.decode functionCode payload
      else if functionCode ≠ request.functionCode then .error (.valueError "")
      else decodeNormalResponse registry functionCode payload request

end ClearModbus
