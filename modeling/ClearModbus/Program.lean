import ClearModbus.Connection
import ClearModbus.Network
import ClearModbus.Proof.Helpers

/-!
# Programs on both ends of a connection

An application calls the high-level operations of a connected client one after the other, with
whatever arguments, and catches what they raise; in between, code of the server's process works on
the datastore. The abstract server tells what each of these statements gives.
-/

namespace ClearModbus

inductive ClientCall where
  | data (call : HelperCall)
  | readDeviceIdentification (readCode objectId : Int)

namespace ClientCall

def request : ClientCall → Except PyError BuiltinRequest
  | .data call => call.request
  | .readDeviceIdentification readCode objectId =>
      .readDeviceIdentification <$> ReadDeviceIdentificationRequest.postInit readCode objectId

def run {σ : Type} (execute : Execute σ) (unitId : Option Int) :
    ClientCall → Exec PyError σ ResponsePDU
  | .data call => call.run execute unitId
  | .readDeviceIdentification readCode objectId => do
      let response ← ModbusClientOperations.readDeviceIdentification execute readCode objectId
        unitId
      return .readDeviceIdentification response

end ClientCall

inductive Statement where
  | remote (call : ClientCall) (unitId : Option Int)
  | direct (operation : Operation)

inductive Observation where
  | remote (outcome : Except PyError ResponsePDU)
  | direct (output : Output)

def Statement.execute (registry serverRegistry : CustomFunctionCodeRegistry)
    (server : ModbusTcpServer) (state : ModbusTcpClient × Connection) :
    Statement → Observation × (ModbusTcpClient × Connection)
  | .remote call unitId =>
      (Exec.runOn (call.run (ModbusTcpClient.execute registry
        (Connection.transport serverRegistry server)) unitId) state).map .remote id
  | .direct operation =>
      let (output, store) := server.perform state.2.store operation
      (.direct output, (state.1, { state.2 with store }))

namespace ModbusTcpServer

def respond (server : ModbusTcpServer) (device : Device) (request : BuiltinRequest) :
    Except PyError ResponsePDU × Device :=
  match request.separate with
  | .inl request =>
      let (response, after) := device.request request
      (.ok response, after)
  | .inr request => (readDeviceIdentification request server.deviceIdentification, device)

def returned (response : ResponsePDU) : Except PyError ResponsePDU := do
  raiseForExceptionResponse response
  return response

/-- What a statement gives and leaves. Arguments that make no request and a unit id that fits no
frame are raised before anything is sent. -/
def observe (server : ModbusTcpServer) (unitId : Int) (device : Device) :
    Statement → Observation × Device
  | .remote call given =>
      match call.request with
      | .error error => (.remote (.error error), device)
      | .ok request =>
          if IsByte (given.getD unitId) then
            let (response, after) := server.respond device request
            (.remote (response >>= returned), after)
          else (.remote (.error .structError), device)
  | .direct operation =>
      let (output, after) := device.perform operation
      (.direct output, after)

end ModbusTcpServer

end ClearModbus
