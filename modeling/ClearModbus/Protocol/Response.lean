import ClearModbus.Protocol.Request

/-!
# Response PDUs

Only the device-identification response validates its fields; the other response classes hold
whatever they are built with, and their encoders raise on a field that does not fit.
-/

namespace ClearModbus

structure ReadBitsResponse where
  functionCode : Int
  values : List Bool
  deriving DecidableEq, Repr

def ReadBitsResponse.encode (response : ReadBitsResponse) : Except PyError Bytes := do
  let packedValues ← packBits response.values
  let head ← bytesOf [response.functionCode, packedValues.length]
  return head ++ packedValues

def ReadBitsResponse.decode (functionCode : Int) (payload : Bytes) (count : Int) :
    Except PyError ReadBitsResponse :=
  match payload with
  | [] => .error (.valueError "Length of payload is 0.")
  | byteCount :: bitBytes =>
      if (byteCount.toNat : Int) ≠ bitBytes.length then
        .error (.valueError "Bit byte count does not match payload length")
      else if (byteCount.toNat : Int) < (count + 7) / 8 then
        .error (.valueError "Bit byte count is too short for requested count")
      else do
        let values ← unpackBits bitBytes count
        return ⟨functionCode, values⟩

structure ReadRegistersResponse where
  functionCode : Int
  values : List Int
  deriving DecidableEq, Repr

def ReadRegistersResponse.encode (response : ReadRegistersResponse) : Except PyError Bytes :=
  let byteCount : Int := response.values.length * 2
  pack ([.u8 response.functionCode, .u8 byteCount] ++ response.values.map .u16)

def ReadRegistersResponse.decode (functionCode : Int) (payload : Bytes) :
    Except PyError ReadRegistersResponse :=
  match payload with
  | [] => .error (.valueError "Length of payload is 0.")
  | byteCount :: registerBytes =>
      if (byteCount.toNat : Int) ≠ registerBytes.length then
        .error (.valueError "Register byte count does not match payload length")
      else if (byteCount.toNat : Int) % 2 ≠ 0 then
        .error (.valueError "Register byte count must be even")
      else do
        let values ← unpackWords ((byteCount.toNat : Int) / 2) registerBytes
        return ⟨functionCode, values⟩

structure WriteSingleRegisterResponse where
  functionCode : Int
  address : Int
  value : Int
  deriving DecidableEq, Repr

def WriteSingleRegisterResponse.encode (response : WriteSingleRegisterResponse) :
    Except PyError Bytes :=
  pack [.u8 response.functionCode, .u16 response.address, .u16 response.value]

def WriteSingleRegisterResponse.decode (payload : Bytes) :
    Except PyError WriteSingleRegisterResponse :=
  if payload.length ≠ 4 then .error (.valueError "")
  else do
    let (address, value) ← unpackHH payload
    return ⟨0x06, address, value⟩

structure WriteSingleCoilResponse where
  functionCode : Int
  address : Int
  value : Bool
  deriving DecidableEq, Repr

def WriteSingleCoilResponse.encode (response : WriteSingleCoilResponse) : Except PyError Bytes :=
  let encodedValue := if response.value then coilOn else coilOff
  pack [.u8 response.functionCode, .u16 response.address, .u16 encodedValue]

def WriteSingleCoilResponse.decode (payload : Bytes) : Except PyError WriteSingleCoilResponse :=
  if payload.length ≠ 4 then .error (.valueError "")
  else do
    let (address, encodedValue) ← unpackHH payload
    if encodedValue = coilOn then return ⟨0x05, address, true⟩
    else if encodedValue = coilOff then return ⟨0x05, address, false⟩
    else throw (.valueError "single coil echo value must be 0xFF00 or 0x0000")

/-- The echo of a multiple write: function code, address and count. -/
structure WriteMultipleResponse where
  functionCode : Int
  address : Int
  count : Int
  deriving DecidableEq, Repr

def WriteMultipleResponse.encode (response : WriteMultipleResponse) : Except PyError Bytes :=
  pack [.u8 response.functionCode, .u16 response.address, .u16 response.count]

def WriteMultipleResponse.decode (functionCode : Int) (payload : Bytes) :
    Except PyError WriteMultipleResponse :=
  if payload.length ≠ 4 then .error (.valueError "")
  else do
    let (address, count) ← unpackHH payload
    return ⟨functionCode, address, count⟩

abbrev WriteMultipleRegistersResponse := WriteMultipleResponse
abbrev WriteMultipleCoilsResponse := WriteMultipleResponse

def WriteMultipleRegistersResponse.decode (payload : Bytes) :
    Except PyError WriteMultipleRegistersResponse := WriteMultipleResponse.decode 0x10 payload

def WriteMultipleCoilsResponse.decode (payload : Bytes) :
    Except PyError WriteMultipleCoilsResponse := WriteMultipleResponse.decode 0x0F payload

structure MaskWriteRegisterResponse where
  functionCode : Int
  address : Int
  andMask : Int
  orMask : Int
  deriving DecidableEq, Repr

def MaskWriteRegisterResponse.encode (response : MaskWriteRegisterResponse) :
    Except PyError Bytes :=
  pack [.u8 response.functionCode, .u16 response.address, .u16 response.andMask,
    .u16 response.orMask]

def MaskWriteRegisterResponse.decode (payload : Bytes) :
    Except PyError MaskWriteRegisterResponse :=
  if payload.length ≠ 6 then .error (.valueError "")
  else do
    let (address, andMask, orMask) ← unpackHHH payload
    return ⟨0x16, address, andMask, orMask⟩

structure ExceptionResponse where
  functionCode : Int
  exceptionCode : Int
  deriving DecidableEq, Repr

def ExceptionResponse.encode (response : ExceptionResponse) : Except PyError Bytes :=
  bytesOf [Int.lor response.functionCode 0x80, response.exceptionCode]

def ExceptionResponse.decode (functionCode : Int) (payload : Bytes) :
    Except PyError ExceptionResponse :=
  match payload with
  | [exceptionCode] => .ok ⟨Int.land functionCode 0x7F, exceptionCode.toNat⟩
  | _ => .error (.valueError "")

inductive ResponsePDU where
  | readBits (response : ReadBitsResponse)
  | readRegisters (response : ReadRegistersResponse)
  | writeSingleRegister (response : WriteSingleRegisterResponse)
  | writeSingleCoil (response : WriteSingleCoilResponse)
  | writeMultipleRegisters (response : WriteMultipleRegistersResponse)
  | writeMultipleCoils (response : WriteMultipleCoilsResponse)
  | maskWriteRegister (response : MaskWriteRegisterResponse)
  | readDeviceIdentification (response : ReadDeviceIdentificationResponse)
  | exception (response : ExceptionResponse)
  | custom (response : CustomPDU)
  deriving DecidableEq

def ResponsePDU.encode : ResponsePDU → Except PyError Bytes
  | .readBits response => response.encode
  | .readRegisters response => response.encode
  | .writeSingleRegister response => response.encode
  | .writeSingleCoil response => response.encode
  | .writeMultipleRegisters response => response.encode
  | .writeMultipleCoils response => response.encode
  | .maskWriteRegister response => response.encode
  | .readDeviceIdentification response => response.encode
  | .exception response => response.encode
  | .custom response => response.encode

end ClearModbus
