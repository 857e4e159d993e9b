import ClearModbus.Protocol.Mbap
import ClearModbus.Datastore.Base
import ClearModbus.DeviceIdentification

/-!
# The TCP server

`handleRequest` answers one decoded request; the datastore is its state, and an exception leaves the
datastore as it was when it was raised. `handleClient` is the loop over one connection. Both are
about the memory datastore; `handleRequestOver` is what they are over any other.
-/

namespace ClearModbus

variable {σ : Type}

structure ModbusTcpServer where
  deviceIdentification : DeviceIdentification

def ModbusTcpServer.init (deviceIdentification : DeviceIdentificationConfig) :
    Except PyError ModbusTcpServer := do
  let objects ← normalizeDeviceIdentification deviceIdentification
  return ⟨objects⟩

namespace ModbusTcpServer

def maskedValue (value andMask orMask : Int) : Int :=
  Int.lor (Int.land value andMask) (Int.land orMask (Int.land (Int.lnot andMask) 0xFFFF))

/-- The body of the `try` of `handle_request`, over whatever datastore the server was given. -/
def dispatchOver (datastore : ModbusDataStore σ) (server : ModbusTcpServer) :
    RequestPDU → Exec PyError σ ResponsePDU
  | .builtin (.readCoils request) => do
      let values ← datastore.getCoils request.address request.count
      return .readBits ⟨0x01, values⟩
  | .builtin (.readDiscreteInputs request) => do
      let values ← datastore.getDiscreteInputs request.address request.count
      return .readBits ⟨0x02, values⟩
  | .builtin (.readHoldingRegisters request) => do
      let values ← datastore.getHoldingRegisters request.address request.count
      return .readRegisters ⟨0x03, values⟩
  | .builtin (.readInputRegisters request) => do
      let values ← datastore.getInputRegisters request.address request.count
      return .readRegisters ⟨0x04, values⟩
  | .builtin (.writeSingleCoil request) => do
      datastore.setCoils request.address [.bool request.value]
      return .writeSingleCoil ⟨0x05, request.address, request.value⟩
  | .builtin (.writeSingleRegister request) => do
      datastore.setHoldingRegisters request.address [.int request.value]
      return .writeSingleRegister ⟨0x06, request.address, request.value⟩
  | .builtin (.writeMultipleCoils request) => do
      datastore.setCoils request.address (request.values.map .bool)
      return .writeMultipleCoils ⟨0x0F, request.address, request.values.length⟩
  | .builtin (.writeMultipleRegisters request) => do
      datastore.setHoldingRegisters request.address (request.values.map .int)
      return .writeMultipleRegisters ⟨0x10, request.address, request.values.length⟩
  | .builtin (.maskWriteRegister request) => do
      let registers ← datastore.getHoldingRegisters request.address 1
      let value ← getItem registers 0
      let masked := maskedValue value request.andMask request.orMask
      datastore.setHoldingRegisters request.address [.int masked]
      return .maskWriteRegister ⟨0x16, request.address, request.andMask, request.orMask⟩
  | .builtin (.readWriteMultipleRegisters request) => do
      -- Read first only to reject a bad read range before anything is written.
      let _ ← datastore.getHoldingRegisters request.readAddress request.readCount
      datastore.setHoldingRegisters request.writeAddress (request.values.map .int)
      let values ← datastore.getHoldingRegisters request.readAddress request.readCount
      return .readRegisters ⟨0x17, values⟩
  | .builtin (.readDeviceIdentification request) =>
      liftM (readDeviceIdentification request server.deviceIdentification)
  | .custom request =>
      return .exception ⟨request.functionCode, ExceptionCode.illegalFunction.code⟩

def handleRequestOver (datastore : ModbusDataStore σ) (server : ModbusTcpServer)
    (request : RequestPDU) : Exec PyError σ ResponsePDU :=
  tryCatch (server.dispatchOver datastore request) fun error =>
    match error with
    | .invalidAddressError _ _ =>
        return .exception ⟨request.functionCode, ExceptionCode.illegalDataAddress.code⟩
    | .readOnlyDataBlockError _ =>
        return .exception ⟨request.functionCode, ExceptionCode.illegalDataAddress.code⟩
    | .invalidValueError _ =>
        return .exception ⟨request.functionCode, ExceptionCode.illegalDataValue.code⟩
    | error => throw error

abbrev dispatch (server : ModbusTcpServer) :
    RequestPDU → Exec PyError MemoryDataStore ResponsePDU :=
  server.dispatchOver MemoryDataStore.methods

def handleRequest (server : ModbusTcpServer) (request : RequestPDU) :
    Exec PyError MemoryDataStore ResponsePDU :=
  server.handleRequestOver MemoryDataStore.methods request

def encodeExceptionResponse (data : Bytes) (exceptionCode : ExceptionCode) : Except PyError Bytes :=
  let functionCode : Int := match data with
    | [] => 0
    | head :: _ => head.toNat
  ExceptionResponse.encode ⟨functionCode, exceptionCode.code⟩

/-- The PDU written back for one request PDU: the response, or the exception response of a decoding
or encoding failure. Only `ModbusPDUError` and `ValueError` are caught. -/
def replyPdu (registry : CustomFunctionCodeRegistry) (server : ModbusTcpServer) (pdu : Bytes) :
    Exec PyError MemoryDataStore Bytes :=
  tryCatch
    (do
      let request ← decodeRequestPdu registry pdu
      let response ← server.handleRequest request
      response.encode)
    fun error =>
      match error with
      | .modbusPDUError _ => encodeExceptionResponse pdu .illegalFunction
      | .valueError _ => encodeExceptionResponse pdu .illegalDataValue
      | error => throw error

/-- Why the loop of `_handle_client` ended. All but `raised` are a `break`. -/
inductive LoopExit where
  | noHeader
  | badHeader
  | noBody
  | raised (error : PyError)
  deriving DecidableEq, Repr

def LoopExit.IsBreak : LoopExit → Prop
  | .raised _ => False
  | _ => True

def readExactly (stream : Bytes) (size : Nat) : Except PyError (Bytes × Bytes) :=
  if stream.length < size then .error .incompleteReadError
  else .ok (stream.take size, stream.drop size)

def decodeHeader (headerData : Bytes) : Except PyError MBAPHeader := do
  let header ← MBAPHeader.decode headerData
  if header.protocolId ≠ modbusTcpProtocolId then
    throw (.valueError "unsupported MBAP protocol id")
  else if header.length < 1 then
    throw (.valueError "MBAP length must include unit id")
  else
    return header

def serveOne (registry : CustomFunctionCodeRegistry) (server : ModbusTcpServer) (stream : Bytes)
    (store : MemoryDataStore) :
    LoopExit × Bytes × MemoryDataStore ⊕ Bytes × Bytes × MemoryDataStore :=
  match readExactly stream 7 with
  | .error _ => .inl (.noHeader, [], store)
  | .ok (headerData, stream) =>
      match decodeHeader headerData with
      | .error (.valueError _) => .inl (.badHeader, stream, store)
      | .error error => .inl (.raised error, stream, store)
      | .ok header =>
          match readExactly stream (header.length - 1).toNat with
          | .error _ => .inl (.noBody, [], store)
          | .ok (pdu, stream) =>
              match Exec.runOn (server.replyPdu registry pdu) store with
              | (.error error, store) => .inl (.raised error, stream, store)
              | (.ok responsePdu, store) =>
                  let frame : ModbusTCPFrame :=
                    { transactionId := header.transactionId, unitId := header.unitId,
                      pdu := responsePdu, protocolId := header.protocolId }
                  match frame.encode with
                  | .error error => .inl (.raised error, stream, store)
                  | .ok written => .inr (written, stream, store)

theorem length_lt_of_serveOne {registry : CustomFunctionCodeRegistry} {server : ModbusTcpServer}
    {stream rest written : Bytes} {store after : MemoryDataStore}
    (h : serveOne registry server stream store = .inr (written, rest, after)) :
    rest.length < stream.length := by
  unfold serveOne readExactly at h
  split at h
  · cases h
  · rename_i headerData body hheader
    split at hheader
    · cases hheader
    · cases hheader
      repeat' split at h
      all_goals grind

structure ClientRun where
  written : List Bytes
  loopExit : LoopExit
  unread : Bytes
  store : MemoryDataStore

/-- `_handle_client` on a stream that ends after `stream`. Others may change the datastore while the
loop is suspended: `others turn` is what happens to it before the reply of that turn. -/
def handleClient (registry : CustomFunctionCodeRegistry) (server : ModbusTcpServer)
    (others : Nat → MemoryDataStore → MemoryDataStore) (turn : Nat) (stream : Bytes)
    (store : MemoryDataStore) : ClientRun :=
  match h : serveOne registry server stream (others turn store) with
  | .inl (loopExit, unread, store) => ⟨[], loopExit, unread, store⟩
  | .inr (frame, rest, store) =>
      let run := handleClient registry server others (turn + 1) rest store
      { run with written := frame :: run.written }
termination_by stream.length
decreasing_by exact length_lt_of_serveOne h

end ModbusTcpServer

end ClearModbus
