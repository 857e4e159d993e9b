import ClearModbus.Client
import ClearModbus.Server

/-!
# A client and a server on one connection

The two directions of the stream hold the bytes on their way. The server loop takes its turns
whenever it is scheduled, and takes a frame once it has arrived whole; a client that waits for bytes
gives the loop all the turns it can use.
-/

namespace ClearModbus

/-- The bytes sent and not yet read in each direction, the datastore of the server, and the number
of turns the loop is scheduled for before each of the coming transport calls of the client. -/
structure Connection where
  toServer : Bytes
  toClient : Bytes
  store : MemoryDataStore
  schedule : List Nat

namespace Connection

variable (registry : CustomFunctionCodeRegistry) (server : ModbusTcpServer)

def serverTurn (connection : Connection) : Connection :=
  match ModbusTcpServer.serveOne registry server connection.toServer connection.store with
  | .inl _ => connection
  | .inr (frame, rest, store) =>
      { connection with toServer := rest, toClient := connection.toClient ++ frame, store := store }

def scheduled (connection : Connection) : Connection :=
  { (serverTurn registry server)^[connection.schedule.headD 0] connection with
    schedule := connection.schedule.tail }

def send (data : Bytes) : Exec PyError Connection Unit :=
  modify fun connection =>
    let connection := scheduled registry server connection
    { connection with toServer := connection.toServer ++ data }

/-- The connection once the client has waited for `size` bytes. A turn takes at least one byte, so
the loop has no more turns to take than there are bytes on their way to it. -/
def awaited (size : Int) (connection : Connection) : Connection :=
  let connection := scheduled registry server connection
  if (connection.toClient.length : Int) < size then
    (serverTurn registry server)^[connection.toServer.length] connection
  else connection

def receive (size : Int) : Exec PyError Connection Bytes := do
  modify (awaited registry server size)
  let connection ← get
  if size ≤ 0 then throw (.valueError "")
  else if size ≤ connection.toClient.length then do
    set { connection with toClient := connection.toClient.drop size.toNat }
    return connection.toClient.take size.toNat
  else throw .modbusTimeoutError

def transport : Transport Connection := ⟨send registry server, receive registry server⟩

end Connection

end ClearModbus
