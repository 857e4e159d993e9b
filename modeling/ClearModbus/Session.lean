import ClearModbus.Client

/-!
# The calls of one TCP client

`execute` is cut at its awaits: a call sends its request, receives a header and receives the rest of
the frame, and other calls, the server and the network take their turns in between.
-/

namespace ClearModbus

namespace ModbusTcpClient

variable {σ : Type}

def sendRequest (transport : Transport σ) (request : RequestPDU) (transactionId unitId : Int) :
    Exec PyError σ Unit := do
  let payload ← ModbusTCPCodec.encodeRequest request transactionId unitId
  transport.send payload

def receiveHeader (transport : Transport σ) : Exec PyError σ MBAPHeader := do
  let data ← transport.receive 7
  MBAPHeader.decode data

def receiveResponse (registry : CustomFunctionCodeRegistry) (transport : Transport σ)
    (request : RequestPDU) (transactionId unitId : Int) (header : MBAPHeader) :
    Exec PyError σ ResponsePDU := do
  let pdu ← transport.receive (header.length - 1)
  let head ← header.encode
  ModbusTCPCodec.decodeResponse registry (head ++ pdu) request transactionId unitId

/-- One after the other, without a turn of anything else, the parts are the whole. -/
theorem exchange_eq (registry : CustomFunctionCodeRegistry) (transport : Transport σ)
    (request : RequestPDU) (transactionId unitId : Int) :
    exchange registry transport request transactionId unitId = (do
      sendRequest transport request transactionId unitId
      let header ← receiveHeader transport
      receiveResponse registry transport request transactionId unitId header) := by
  simp only [exchange, sendRequest, receiveHeader, receiveResponse, bind_assoc]

end ModbusTcpClient

def TCPStream.waits (stream : TCPStream) (size : Int) : Bool :=
  stream.connected && 0 < size && stream.incoming.length < size && !stream.atEof

/-- Where a call of `execute` is: at one of its receives, or over. -/
inductive Progress where
  | awaitingHeader
  | awaitingBody (header : MBAPHeader)
  | returned (response : ResponsePDU)
  | raised (error : PyError)
  deriving DecidableEq

def Progress.ofHeader : Except PyError MBAPHeader → Progress
  | .ok header => .awaitingBody header
  | .error error => .raised error

def Progress.ofResponse : Except PyError ResponsePDU → Progress
  | .ok response => .returned response
  | .error error => .raised error

structure Call where
  request : RequestPDU
  transactionId : Int
  unitId : Int
  progress : Progress
  deriving DecidableEq

structure Session where
  client : ModbusTcpClient
  stream : TCPStream
  calls : List Call
  /-- What was sent to the client and has not arrived. -/
  inTransit : Bytes
  /-- The calls whose requests the server has neither answered nor passed over, oldest first. -/
  unanswered : List Nat
  /-- The frames sent to the client, each with the call it answers. -/
  frames : List (Option Nat × ModbusTCPFrame)
  deriving DecidableEq

inductive SessionAction where
  | call (request : RequestPDU) (unitId : Option Int)
  /-- A receive of a call goes on with the bytes that have arrived. -/
  | receive (index : Nat)
  /-- A receive of a call times out, with nothing consumed. -/
  | timeout (index : Nat)
  /-- The server answers the oldest request. -/
  | answer (pdu : Bytes)
  /-- The server passes the oldest request over. -/
  | ignore
  /-- A frame is sent to the client that answers none of its requests. -/
  | intrude (frame : ModbusTCPFrame)
  | arrive (count : Nat)
  deriving DecidableEq

namespace Session

def fresh (unitId : Int) : Session :=
  { client := ⟨unitId, 1⟩, stream := ⟨true, [], false, []⟩, calls := [], inTransit := [],
    unanswered := [], frames := [] }

def setProgress (session : Session) (index : Nat) (progress : Progress) : Session :=
  { session with calls := session.calls.modify index fun call => { call with progress } }

def call (session : Session) (request : RequestPDU) (unitId : Option Int) : Session :=
  let unitId := unitId.getD session.client.unitId
  let (transactionId, client) := session.client.nextTransactionId
  match Exec.runOn (ModbusTcpClient.sendRequest tcpTransport request transactionId unitId)
      session.stream with
  | (.ok (), stream) =>
      { session with client, stream
                     calls := session.calls ++ [⟨request, transactionId, unitId, .awaitingHeader⟩]
                     unanswered := session.unanswered ++ [session.calls.length] }
  | (.error error, stream) =>
      { session with client, stream
                     calls := session.calls ++ [⟨request, transactionId, unitId, .raised error⟩] }

def receive (registry : CustomFunctionCodeRegistry) (session : Session) (index : Nat)
    (call : Call) :
    Option Session :=
  match call.progress with
  | .awaitingHeader =>
      if session.stream.waits 7 then none
      else
        let (outcome, stream) :=
          Exec.runOn (ModbusTcpClient.receiveHeader tcpTransport) session.stream
        some (setProgress { session with stream } index (.ofHeader outcome))
  | .awaitingBody header =>
      if session.stream.waits (header.length - 1) then none
      else
        let (outcome, stream) := Exec.runOn (ModbusTcpClient.receiveResponse registry tcpTransport
          call.request call.transactionId call.unitId header) session.stream
        some (setProgress { session with stream } index (.ofResponse outcome))
  | .returned _ => none
  | .raised _ => none

/-- A receive that is not for a positive size raises before it waits. -/
def timeout (session : Session) (index : Nat) (call : Call) : Option Session :=
  match call.progress with
  | .awaitingHeader => some (session.setProgress index (.raised .modbusTimeoutError))
  | .awaitingBody header =>
      if header.length - 1 ≤ 0 then none
      else some (session.setProgress index (.raised .modbusTimeoutError))
  | .returned _ => none
  | .raised _ => none

def transmit (session : Session) (answered : Option Nat) (frame : ModbusTCPFrame) :
    Option Session :=
  match frame.encode with
  | .ok data =>
      some { session with inTransit := session.inTransit ++ data
                          frames := session.frames ++ [(answered, frame)] }
  | .error _ => none

def step (registry : CustomFunctionCodeRegistry) (session : Session) :
    SessionAction → Option Session
  | .call request unitId => some (session.call request unitId)
  | .receive index => (session.calls[index]?).bind (session.receive registry index)
  | .timeout index => (session.calls[index]?).bind (session.timeout index)
  | .answer pdu =>
      match session.unanswered with
      | [] => none
      | index :: unanswered =>
          (session.calls[index]?).bind fun call =>
            transmit { session with unanswered } (some index)
              { transactionId := call.transactionId, unitId := call.unitId, pdu }
  | .ignore =>
      match session.unanswered with
      | [] => none
      | _ :: unanswered => some { session with unanswered }
  | .intrude frame => session.transmit none frame
  | .arrive count =>
      some { session with
        stream := { session.stream with
          incoming := session.stream.incoming ++ session.inTransit.take count }
        inTransit := session.inTransit.drop count }

end Session

end ClearModbus
