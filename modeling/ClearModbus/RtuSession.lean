import ClearModbus.Proof.ResponseCodec
import ClearModbus.RtuClient

/-!
# The calls of one RTU client on a serial line

The slave takes the requests in their order and answers each of them at most once and in its own
time. Its moves, and the bytes that arrive, come between the calls and before each receive of a
call. A send or a receive that times out leaves its write or read going on in a thread: such a read
takes bytes that arrive later, and such a write may still reach the slave.
-/

namespace ClearModbus

/-- The PDUs of the responses to a request. The client takes the size of a response to a custom
function code from its byte count. -/
inductive ValidResponse : RequestPDU → Bytes → Prop where
  | builtin {request : BuiltinRequest} {response : ResponsePDU} (h : Answers request response) :
      ValidResponse (.builtin request) response.wire
  | custom (request : CustomPDU) (head byteCount : UInt8) (data : Bytes)
      (hhead : isExceptionFunctionCode head.toNat = false)
      (hcode : (head.toNat : Int) = request.functionCode)
      (hlength : data.length = byteCount.toNat) :
      ValidResponse (.custom request) (head :: byteCount :: data)
  | customException (request : CustomPDU) (head code : UInt8)
      (hhead : isExceptionFunctionCode head.toNat = true)
      (hcode : Int.land head.toNat 0x7F = request.functionCode) :
      ValidResponse (.custom request) [head, code]

structure SlaveAnswer where
  request : RequestPDU
  pdu : Bytes
  valid : ValidResponse request pdu

inductive LineMove where
  /-- The slave answers the oldest request, if it is the one of the answer. -/
  | answer (answer : SlaveAnswer)
  /-- The slave passes the oldest request over. -/
  | ignore
  | arrive (count : Nat)
  /-- A read that was left going on takes bytes, behind those that a waiting receive has. -/
  | strayRead (read skip count : Nat)
  | strayReadEnds (read : Nat)
  | strayWriteArrives (write : Nat)
  | strayWriteFails (write : Nat)

/-- The moves before a receive, and whether `asyncio.timeout` then ends it. -/
structure LineTurn where
  moves : List LineMove
  timesOut : Bool

structure SentRequest where
  index : Nat
  request : RequestPDU
  unitId : Int
  deriving DecidableEq

structure RtuLine where
  port : SerialPort
  inTransit : Bytes
  /-- The requests the slave has neither answered nor passed over, oldest first. -/
  unanswered : List SentRequest
  /-- The frames of the slave, each with the number of the call it answers. -/
  frames : List (Nat × ModbusRTUFrame)
  /-- How many bytes each of the reads still wants that a timeout has left going on. -/
  strayReads : List Nat
  strayWrites : List SentRequest
  /-- What happens before each of the coming receives. -/
  turns : List LineTurn

namespace RtuLine

def answer (line : RtuLine) (answer : SlaveAnswer) : RtuLine :=
  match line.unanswered with
  | [] => line
  | oldest :: unanswered =>
      if oldest.request = answer.request then
        match ModbusRTUFrame.encode ⟨oldest.unitId, answer.pdu⟩ with
        | .ok data =>
            { line with unanswered
                        inTransit := line.inTransit ++ data
                        frames := line.frames ++ [(oldest.index, ⟨oldest.unitId, answer.pdu⟩)] }
        | .error _ => line
      else line

def strayRead (line : RtuLine) (read skip count : Nat) : RtuLine :=
  match line.strayReads[read]? with
  | none => line
  | some wanted =>
      let behind := line.port.incoming.drop skip
      let taken := min count (min wanted behind.length)
      { line with
        port := { line.port with
          incoming := line.port.incoming.take skip ++ behind.drop taken }
        strayReads := if taken = wanted then line.strayReads.eraseIdx read
          else line.strayReads.set read (wanted - taken) }

def move (line : RtuLine) : LineMove → RtuLine
  | .answer answer => line.answer answer
  | .ignore => { line with unanswered := line.unanswered.tail }
  | .arrive count =>
      { line with
        port := { line.port with incoming := line.port.incoming ++ line.inTransit.take count }
        inTransit := line.inTransit.drop count }
  | .strayRead read skip count => line.strayRead read skip count
  | .strayReadEnds read => { line with strayReads := line.strayReads.eraseIdx read }
  | .strayWriteArrives write =>
      { line with
        unanswered := line.unanswered ++ (line.strayWrites[write]?).toList
        strayWrites := line.strayWrites.eraseIdx write }
  | .strayWriteFails write => { line with strayWrites := line.strayWrites.eraseIdx write }

def onPort {α : Type} (program : Exec PyError SerialPort α) : Exec PyError RtuLine α := fun line =>
  let (outcome, port) := Exec.runOn program line.port
  (outcome, { line with port })

def send (request : SentRequest) (timesOut : Bool) (data : Bytes) : Exec PyError RtuLine Unit := do
  let line ← get
  if line.port.connected && timesOut then
    set { line with strayWrites := line.strayWrites ++ [request] }
    throw .modbusTimeoutError
  else
    onPort (SerialTransport.send data)
    modify fun line => { line with unanswered := line.unanswered ++ [request] }

def receive (size : Int) : Exec PyError RtuLine Bytes := do
  let line ← get
  let turn := line.turns.headD ⟨[], false⟩
  let moved := { turn.moves.foldl move line with turns := line.turns.tail }
  if line.port.connected && 0 < size && turn.timesOut then
    set { moved with strayReads := moved.strayReads ++ [size.toNat] }
    throw .modbusTimeoutError
  else
    set moved
    onPort (SerialTransport.receive size)

def transport (request : SentRequest) (sendTimesOut : Bool) : Transport RtuLine :=
  ⟨send request sendTimesOut, receive⟩

end RtuLine

structure RtuCall where
  request : RequestPDU
  outcome : Except PyError ResponsePDU

structure RtuSession where
  client : ModbusRtuClient
  line : RtuLine
  calls : List RtuCall

inductive RtuAction where
  | call (request : RequestPDU) (unitId : Option Int) (sendTimesOut : Bool) (turns : List LineTurn)
  | move (move : LineMove)

namespace RtuSession

def fresh (unitId : Int) : RtuSession :=
  { client := ⟨unitId⟩
    line :=
      { port := ⟨true, [], [], [], false⟩, inTransit := [], unanswered := [], frames := [],
        strayReads := [], strayWrites := [], turns := [] }
    calls := [] }

def call (registry : CustomFunctionCodeRegistry) (session : RtuSession) (request : RequestPDU)
    (unitId : Option Int) (sendTimesOut : Bool) (turns : List LineTurn) : RtuSession :=
  let sent : SentRequest := ⟨session.calls.length, request, unitId.getD session.client.unitId⟩
  let (outcome, line) := Exec.runOn
    (ModbusRtuClient.execute registry session.client (RtuLine.transport sent sendTimesOut) request
      unitId) { session.line with turns }
  { session with line, calls := session.calls ++ [⟨request, outcome⟩] }

def step (registry : CustomFunctionCodeRegistry) (session : RtuSession) :
    RtuAction → Option RtuSession
  | .call request unitId sendTimesOut turns =>
      some (session.call registry request unitId sendTimesOut turns)
  | .move move => some { session with line := session.line.move move }

end RtuSession

end ClearModbus
