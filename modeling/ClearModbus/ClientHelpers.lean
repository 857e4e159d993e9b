import ClearModbus.Protocol.Decode
import ClearModbus.Lib.Exec

/-!
# The high-level client operations

Every operation builds its request, executes it, raises on an exception response, and checks the
class of the response; a write operation also compares the echo. `execute` is the client's.
-/

namespace ClearModbus

variable {σ : Type}

abbrev Execute (σ : Type) := RequestPDU → Option Int → Exec PyError σ ResponsePDU

def raiseForExceptionResponse : ResponsePDU → Except PyError Unit
  | .exception response =>
      .error (.modbusExceptionResponseError response.functionCode response.exceptionCode)
  | _ => .ok ()

def requireEcho {α : Type} [DecidableEq α] (echoed expected : α) (message : String) :
    Except PyError Unit :=
  if echoed ≠ expected then .error (.modbusResponseMismatchError message) else .ok ()

abbrev addressMismatch : String := "Response address does not match expected address."
abbrev valueMismatch : String := "Response value does not match expected value."
abbrev countMismatch : String := "Response count does not match expected count."

def expectReadBits : ResponsePDU → Except PyError ReadBitsResponse
  | .readBits response => .ok response
  | _ => .error (.modbusResponseMismatchError "Expected ReadBitsResponse.")

def expectReadRegisters : ResponsePDU → Except PyError ReadRegistersResponse
  | .readRegisters response => .ok response
  | _ => .error (.modbusResponseMismatchError "Expected ReadRegistersResponse.")

namespace ModbusClientOperations

def request (execute : Execute σ) (request : BuiltinRequest) (unitId : Option Int) :
    Exec PyError σ ResponsePDU := do
  let response ← execute (.builtin request) unitId
  raiseForExceptionResponse response
  return response

def readCoils (execute : Execute σ) (address count : Int) (unitId : Option Int) :
    Exec PyError σ ReadBitsResponse := do
  let pdu ← ReadRequest.postInit 0x01 maxReadBits address count
  let response ← request execute (.readCoils pdu) unitId
  expectReadBits response

def readDiscreteInputs (execute : Execute σ) (address count : Int) (unitId : Option Int) :
    Exec PyError σ ReadBitsResponse := do
  let pdu ← ReadRequest.postInit 0x02 maxReadBits address count
  let response ← request execute (.readDiscreteInputs pdu) unitId
  expectReadBits response

def readHoldingRegisters (execute : Execute σ) (address count : Int) (unitId : Option Int) :
    Exec PyError σ ReadRegistersResponse := do
  let pdu ← ReadRequest.postInit 0x03 maxReadRegisters address count
  let response ← request execute (.readHoldingRegisters pdu) unitId
  expectReadRegisters response

def readInputRegisters (execute : Execute σ) (address count : Int) (unitId : Option Int) :
    Exec PyError σ ReadRegistersResponse := do
  let pdu ← ReadRequest.postInit 0x04 maxReadRegisters address count
  let response ← request execute (.readInputRegisters pdu) unitId
  expectReadRegisters response

def readWriteMultipleRegisters (execute : Execute σ) (readAddress readCount writeAddress : Int)
    (values : List Int) (unitId : Option Int) : Exec PyError σ ReadRegistersResponse := do
  let pdu ← ReadWriteMultipleRegistersRequest.postInit readAddress readCount writeAddress values
  let response ← request execute (.readWriteMultipleRegisters pdu) unitId
  expectReadRegisters response

def writeSingleRegister (execute : Execute σ) (address value : Int) (unitId : Option Int) :
    Exec PyError σ WriteSingleRegisterResponse := do
  let pdu ← WriteSingleRegisterRequest.postInit address value
  let response ← request execute (.writeSingleRegister pdu) unitId
  match response with
  | .writeSingleRegister response => do
      requireEcho response.address address addressMismatch
      requireEcho response.value value valueMismatch
      return response
  | _ => throw (.modbusResponseMismatchError "Expected WriteSingleRegisterResponse.")

/-- The constructor accepts a `bool` only, so the echo is compared with the request's. -/
def writeSingleCoil (execute : Execute σ) (address : Int) (value : PyObject)
    (unitId : Option Int) : Exec PyError σ WriteSingleCoilResponse := do
  let pdu ← WriteSingleCoilRequest.postInit address value
  let response ← request execute (.writeSingleCoil pdu) unitId
  match response with
  | .writeSingleCoil response => do
      requireEcho response.address address addressMismatch
      requireEcho response.value pdu.value valueMismatch
      return response
  | _ => throw (.modbusResponseMismatchError "Expected WriteSingleCoilResponse.")

def writeMultipleRegisters (execute : Execute σ) (address : Int) (values : List Int)
    (unitId : Option Int) : Exec PyError σ WriteMultipleRegistersResponse := do
  let pdu ← WriteMultipleRegistersRequest.postInit address values
  let response ← request execute (.writeMultipleRegisters pdu) unitId
  match response with
  | .writeMultipleRegisters response => do
      requireEcho response.address address addressMismatch
      requireEcho response.count values.length countMismatch
      return response
  | _ => throw (.modbusResponseMismatchError "Expected WriteMultipleRegistersResponse.")

def writeMultipleCoils (execute : Execute σ) (address : Int) (values : List PyObject)
    (unitId : Option Int) : Exec PyError σ WriteMultipleCoilsResponse := do
  let pdu ← WriteMultipleCoilsRequest.postInit address values
  let response ← request execute (.writeMultipleCoils pdu) unitId
  match response with
  | .writeMultipleCoils response => do
      requireEcho response.address address addressMismatch
      requireEcho response.count values.length countMismatch
      return response
  | _ => throw (.modbusResponseMismatchError "Expected WriteMultipleCoilsResponse.")

def maskWriteRegister (execute : Execute σ) (address andMask orMask : Int)
    (unitId : Option Int) : Exec PyError σ MaskWriteRegisterResponse := do
  let pdu ← MaskWriteRegisterRequest.postInit address andMask orMask
  let response ← request execute (.maskWriteRegister pdu) unitId
  match response with
  | .maskWriteRegister response => do
      requireEcho response.address address addressMismatch
      requireEcho response.andMask andMask "Response AND mask does not match expected AND mask."
      requireEcho response.orMask orMask "Response OR mask does not match expected OR mask."
      return response
  | _ => throw (.modbusResponseMismatchError "Expected MaskWriteRegisterResponse.")

def readDeviceIdentification (execute : Execute σ) (readCode objectId : Int)
    (unitId : Option Int) : Exec PyError σ ReadDeviceIdentificationResponse := do
  let pdu ← ReadDeviceIdentificationRequest.postInit readCode objectId
  let response ← request execute (.readDeviceIdentification pdu) unitId
  match response with
  | .readDeviceIdentification response => return response
  | _ => throw (.modbusResponseMismatchError "Expected ReadDeviceIdentificationResponse.")

end ModbusClientOperations

end ClearModbus
