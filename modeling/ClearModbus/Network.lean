import ClearModbus.Lib.Linearizable
import ClearModbus.Device
import ClearModbus.Handler
import ClearModbus.Session

/-!
# Clients, strangers and direct callers of one server

One server with any number of connections. At the other end of a connection is a client of the
package, or a stranger that sends whatever it likes; other code of the server's process works on the
datastore directly. All of them take their turns in any order, and bytes arrive in pieces of any
size.
-/

namespace ClearModbus

open Linearizable

inductive CallKey where
  | call (link index : Nat)
  | outside (number : Nat)
  deriving DecidableEq

inductive Input where
  | request (request : BuiltinRequest)
  | direct (operation : Operation)

def BuiltinRequest.separate : BuiltinRequest → DataRequest ⊕ ReadDeviceIdentificationRequest
  | .readCoils request => .inl ⟨.readCoils request, trivial⟩
  | .readDiscreteInputs request => .inl ⟨.readDiscreteInputs request, trivial⟩
  | .readHoldingRegisters request => .inl ⟨.readHoldingRegisters request, trivial⟩
  | .readInputRegisters request => .inl ⟨.readInputRegisters request, trivial⟩
  | .writeSingleCoil request => .inl ⟨.writeSingleCoil request, trivial⟩
  | .writeSingleRegister request => .inl ⟨.writeSingleRegister request, trivial⟩
  | .writeMultipleCoils request => .inl ⟨.writeMultipleCoils request, trivial⟩
  | .writeMultipleRegisters request => .inl ⟨.writeMultipleRegisters request, trivial⟩
  | .maskWriteRegister request => .inl ⟨.maskWriteRegister request, trivial⟩
  | .readWriteMultipleRegisters request => .inl ⟨.readWriteMultipleRegisters request, trivial⟩
  | .readDeviceIdentification request => .inr request

def ModbusTcpServer.serve (server : ModbusTcpServer) (device : Device) : Input → Output × Device
  | .direct operation => device.perform operation
  | .request request =>
      match request.separate with
      | .inl request => device.perform (.request request)
      | .inr request => (.response (readDeviceIdentification request server.deviceIdentification),
          device)

abbrev NetworkEvent := Event CallKey Input Output

structure Link where
  /-- The other end, when it is a client of the package. -/
  client : Option Session
  toServer : Bytes
  /-- The other end has closed the connection. -/
  closing : Bool
  handler : ClientHandler

/-- The server with its connections, what its callers have seen, and the calls in the order in which
they took effect. -/
structure Network where
  store : MemoryDataStore
  links : List Link
  history : List NetworkEvent
  order : List (CallKey × Input)

inductive NetworkAction where
  | connect (unitId : Int)
  | connectStranger
  /-- A client starts a call. -/
  | call (link : Nat) (request : BuiltinRequest) (unitId : Option Int)
  /-- A receive of a call goes on. -/
  | receive (link index : Nat)
  | timeout (link index : Nat)
  /-- Bytes arrive at a client. -/
  | arrive (link count : Nat)
  /-- A client finds that its connection was closed. -/
  | closed (link : Nat)
  /-- A stranger sends bytes. -/
  | write (link : Nat) (data : Bytes)
  | hangUp (link : Nat)
  /-- Bytes arrive at the server. -/
  | deliver (link count : Nat)
  | eof (link : Nat)
  /-- A handler of the server goes on. -/
  | resume (link : Nat)
  /-- Other code of the server's process works on the datastore. -/
  | direct (operation : Operation)

namespace Network

def start (store : MemoryDataStore) : Network := ⟨store, [], [], []⟩

def setLink (network : Network) (index : Nat) (link : Link) : Network :=
  { network with links := network.links.set index link }

def client? (network : Network) (index : Nat) : Option (Link × Session) :=
  (network.links[index]?).bind fun link => link.client.map fun session => (link, session)

def returned (index number : Nat) (session : Session) : List NetworkEvent :=
  match (session.calls[number]?).map Call.progress with
  | some (.returned response) => [.respond (.call index number) (.response (.ok response))]
  | _ => []

def builtin? (registry : CustomFunctionCodeRegistry) (pdu : Bytes) : Option BuiltinRequest :=
  match decodeRequestPdu registry pdu with
  | .ok (.builtin request) => some request
  | _ => none

def atOnce (network : Network) (input : Input) (output : Output) : Network :=
  { network with
    history := network.history ++ [.invoke (.outside network.history.length) input,
      .respond (.outside network.history.length) output]
    order := network.order ++ [(.outside network.history.length, input)] }

/-- A handler has written a frame to its client, for the oldest request it has of it. -/
def replyToClient (serverRegistry : CustomFunctionCodeRegistry) (network : Network) (index : Nat)
    (link : Link) (session : Session) (reply : ClientHandler.Reply) : Option Network :=
  (Session.transmit { session with unanswered := session.unanswered.tail } session.unanswered.head?
      reply.2).map fun next =>
    { network.setLink index { link with client := some next } with
      order := network.order ++ (builtin? serverRegistry reply.1).toList.map fun request =>
        (.call index (session.unanswered.headD 0), .request request) }

def replyToStranger (serverRegistry : CustomFunctionCodeRegistry) (server : ModbusTcpServer)
    (before after : Network) (reply : ClientHandler.Reply) : Network :=
  match builtin? serverRegistry reply.1 with
  | none => after
  | some request =>
      after.atOnce (.request request)
        (.response (Exec.runOn (server.handleRequest (.builtin request)) before.store).1)

def resume (serverRegistry : CustomFunctionCodeRegistry) (server : ModbusTcpServer)
    (network : Network) (index : Nat) (link : Link) : Option Network :=
  (link.handler.resume serverRegistry server network.store).bind fun (reply, handler, store) =>
    let link := { link with handler }
    let after := { network.setLink index link with store }
    match reply, link.client with
    | none, _ => some after
    | some reply, none => some (replyToStranger serverRegistry server network after reply)
    | some reply, some session => replyToClient serverRegistry after index link session reply

def step (registry serverRegistry : CustomFunctionCodeRegistry) (server : ModbusTcpServer)
    (network : Network) : NetworkAction → Option Network
  | .connect unitId =>
      some { network with
        links := network.links ++ [⟨some (.fresh unitId), [], false, .accepted⟩] }
  | .connectStranger =>
      some { network with links := network.links ++ [⟨none, [], false, .accepted⟩] }
  | .call index request unitId =>
      (network.client? index).map fun (link, session) =>
        let next := session.call (.builtin request) unitId
        -- What the call has written goes on its way to the server.
        let sent := next.stream.written.drop session.stream.written.length
        { network.setLink index
            { link with client := some next, toServer := link.toServer ++ sent } with
          history := network.history ++
            [.invoke (.call index session.calls.length) (.request request)] }
  | .receive index number =>
      (network.client? index).bind fun (link, session) =>
        (session.step registry (.receive number)).map fun next =>
          { network.setLink index { link with client := some next } with
            history := network.history ++ returned index number next }
  | .timeout index number =>
      (network.client? index).bind fun (link, session) =>
        (session.step registry (.timeout number)).map fun next =>
          network.setLink index { link with client := some next }
  | .arrive index count =>
      (network.client? index).bind fun (link, session) =>
        (session.step registry (.arrive count)).map fun next =>
          network.setLink index { link with client := some next }
  | .closed index =>
      (network.client? index).bind fun (link, session) =>
        match link.handler.progress with
        | .exited _ =>
            if session.inTransit = [] then
              some (network.setLink index { link with
                client := some { session with stream := { session.stream with atEof := true } } })
            else none
        | _ => none
  | .write index data =>
      (network.links[index]?).bind fun link =>
        if link.client.isSome ∨ link.closing then none
        else some (network.setLink index { link with toServer := link.toServer ++ data })
  | .hangUp index =>
      (network.links[index]?).bind fun link =>
        if link.client.isSome then none
        else some (network.setLink index { link with closing := true })
  | .deliver index count =>
      (network.links[index]?).map fun link =>
        network.setLink index { link with
          toServer := link.toServer.drop count
          handler := { link.handler with
            incoming := link.handler.incoming ++ link.toServer.take count } }
  | .eof index =>
      (network.links[index]?).bind fun link =>
        if link.closing ∧ link.toServer = [] then
          some (network.setLink index { link with handler := { link.handler with atEof := true } })
        else none
  | .resume index => (network.links[index]?).bind (network.resume serverRegistry server index)
  | .direct operation =>
      let (output, store) := server.perform network.store operation
      some ({ network with store }.atOnce (.direct operation) output)

def onSession : NetworkAction → Option (Nat × SessionAction)
  | .call index request unitId => some (index, .call (.builtin request) unitId)
  | .receive index number => some (index, .receive number)
  | .timeout index number => some (index, .timeout number)
  | .arrive index count => some (index, .arrive count)
  | _ => none

end Network

end ClearModbus
