import ClearModbus.Python

/-!
# Byte transports

A transport sends all bytes or raises, and receives exactly the bytes asked for or raises. The two
concrete transports read from what the remote side has delivered so far: the TCP stream leaves a
short buffer in place when a read times out and drops it at the end of the stream, the serial port
consumes what there is.
-/

namespace ClearModbus

structure Transport (σ : Type) where
  send : Bytes → Exec PyError σ Unit
  receive : Int → Exec PyError σ Bytes

/-- A TCP stream: what has arrived, whether the remote side has closed, and what was written. -/
structure TCPStream where
  connected : Bool
  incoming : Bytes
  atEof : Bool
  written : Bytes
  deriving DecidableEq, Repr

namespace TCPTransport

def send (data : Bytes) : Exec PyError TCPStream Unit := do
  let stream ← get
  if !stream.connected then throw .modbusConnectionError
  else set { stream with written := stream.written ++ data }

def receive (size : Int) : Exec PyError TCPStream Bytes := do
  let stream ← get
  if !stream.connected then throw .modbusConnectionError
  else if size ≤ 0 then throw (.valueError "")
  else if size ≤ stream.incoming.length then do
    set { stream with incoming := stream.incoming.drop size.toNat }
    return stream.incoming.take size.toNat
  else if stream.atEof then do
    set { stream with incoming := [] }
    throw .modbusTransportError
  else throw .modbusTimeoutError

end TCPTransport

def tcpTransport : Transport TCPStream := ⟨TCPTransport.send, TCPTransport.receive⟩

/-- A serial port: what has arrived, what was written, and the sizes it was asked for. -/
structure SerialPort where
  connected : Bool
  incoming : Bytes
  written : Bytes
  requested : List Int
  /-- When a read comes up short, does `asyncio.timeout` end before the timeout of the port
  itself? -/
  timeoutFirst : Bool
  deriving DecidableEq, Repr

def SerialPort.shortReadError (port : SerialPort) : PyError :=
  if port.timeoutFirst then .modbusTimeoutError else .modbusTransportError

namespace SerialTransport

def send (data : Bytes) : Exec PyError SerialPort Unit := do
  let port ← get
  if !port.connected then throw .modbusConnectionError
  else set { port with written := port.written ++ data }

def receive (size : Int) : Exec PyError SerialPort Bytes := do
  modify fun port => { port with requested := port.requested ++ [size] }
  let port ← get
  if !port.connected then throw .modbusConnectionError
  else if size ≤ 0 then throw (.valueError "")
  else do
    let data := port.incoming.take size.toNat
    -- The thread that reads takes what there is, whoever ends first.
    set { port with incoming := port.incoming.drop size.toNat }
    if (data.length : Int) ≠ size then throw port.shortReadError
    else return data

end SerialTransport

def serialTransport : Transport SerialPort := ⟨SerialTransport.send, SerialTransport.receive⟩

end ClearModbus
