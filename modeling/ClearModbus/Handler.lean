import ClearModbus.Server

/-!
# One connection of the server

`_handle_client` is cut at its awaits: it waits for a header, for the rest of a frame, or for its
reply to be drained, and the other connections, the direct callers and the network take their turns
in between.
-/

namespace ClearModbus

open ModbusTcpServer

inductive HandlerProgress where
  | awaitingHeader
  | awaitingBody (header : MBAPHeader)
  | draining
  | exited (loopExit : LoopExit)
  deriving DecidableEq

structure ClientHandler where
  incoming : Bytes
  atEof : Bool
  progress : HandlerProgress
  deriving DecidableEq

namespace ClientHandler

def accepted : ClientHandler := ⟨[], false, .awaitingHeader⟩

/-- What a suspended `readexactly` comes back with, unless it goes on waiting. A short buffer is
dropped at the end of the stream. -/
def readExactly (handler : ClientHandler) (size : Nat) : Option (Except PyError (Bytes × Bytes)) :=
  if handler.incoming.length < size ∧ ¬handler.atEof then none
  else some (ModbusTcpServer.readExactly handler.incoming size)

def ofHeader : Except PyError MBAPHeader → HandlerProgress
  | .ok header => .awaitingBody header
  | .error (.valueError _) => .exited .badHeader
  | .error error => .exited (.raised error)

def answer (registry : CustomFunctionCodeRegistry) (server : ModbusTcpServer) (header : MBAPHeader)
    (pdu : Bytes) (store : MemoryDataStore) : Except LoopExit ModbusTCPFrame × MemoryDataStore :=
  match Exec.runOn (server.replyPdu registry pdu) store with
  | (.error error, store) => (.error (.raised error), store)
  | (.ok responsePdu, store) =>
      let frame : ModbusTCPFrame :=
        { transactionId := header.transactionId, unitId := header.unitId,
          pdu := responsePdu, protocolId := header.protocolId }
      match frame.encode with
      | .error error => (.error (.raised error), store)
      | .ok _ => (.ok frame, store)

abbrev Reply := Bytes × ModbusTCPFrame

/-- The handler goes on to its next suspension. It has no next state while it waits, or once it has
left the loop. -/
def resume (registry : CustomFunctionCodeRegistry) (server : ModbusTcpServer)
    (handler : ClientHandler) (store : MemoryDataStore) :
    Option (Option Reply × ClientHandler × MemoryDataStore) :=
  match handler.progress with
  | .awaitingHeader =>
      (handler.readExactly 7).map fun
        | .error _ => (none, { handler with incoming := [], progress := .exited .noHeader }, store)
        | .ok (headerData, incoming) =>
            (none, { handler with incoming, progress := ofHeader (decodeHeader headerData) }, store)
  | .awaitingBody header =>
      (handler.readExactly (header.length - 1).toNat).map fun
        | .error _ => (none, { handler with incoming := [], progress := .exited .noBody }, store)
        | .ok (pdu, incoming) =>
            match answer registry server header pdu store with
            | (.error loopExit, store) =>
                (none, { handler with incoming, progress := .exited loopExit }, store)
            | (.ok frame, store) =>
                (some (pdu, frame), { handler with incoming, progress := .draining }, store)
  | .draining => some (none, { handler with progress := .awaitingHeader }, store)
  | .exited _ => none

end ClientHandler

structure HandlerRun where
  handler : ClientHandler
  store : MemoryDataStore
  received : Bytes
  replies : List ClientHandler.Reply
  /-- The datastore as each finished turn of the loop found it. -/
  found : List MemoryDataStore
  /-- The datastore as the last finished turn left it. -/
  left : MemoryDataStore

inductive HandlerAction where
  | arrive (data : Bytes)
  | eof
  | resume
  /-- Someone else leaves the datastore as `store`. -/
  | others (store : MemoryDataStore)

namespace HandlerRun

def start (store : MemoryDataStore) : HandlerRun := ⟨.accepted, store, [], [], [], store⟩

def finish (run : HandlerRun) (reply : Option ClientHandler.Reply) (handler : ClientHandler)
    (store : MemoryDataStore) : HandlerRun :=
  match reply, handler.progress with
  | some reply, _ =>
      { run with handler, store, replies := run.replies ++ [reply]
                 found := run.found ++ [run.store], left := store }
  | none, .exited _ => { run with handler, store, found := run.found ++ [run.store], left := store }
  | none, _ => { run with handler, store }

def step (registry : CustomFunctionCodeRegistry) (server : ModbusTcpServer) (run : HandlerRun) :
    HandlerAction → Option HandlerRun
  | .arrive data =>
      if run.handler.atEof then none
      else
        some { run with
          handler := { run.handler with incoming := run.handler.incoming ++ data }
          received := run.received ++ data }
  | .eof => some { run with handler := { run.handler with atEof := true } }
  | .resume =>
      (run.handler.resume registry server run.store).map fun (reply, handler, store) =>
        run.finish reply handler store
  | .others store => some { run with store }

end HandlerRun

end ClearModbus
