import ClearModbus.Proof.ClientExchange
import ClearModbus.Session
import ClearModbus.Lib.Transition

/-!
# The frames of a session

While every header is read at the start of a frame, the bytes a client has not consumed are the
frames it has not read, behind the PDU of the one a call is reading. What is known of that frame
when its header is read still holds when its PDU is.
-/

namespace ClearModbus

variable {registry : CustomFunctionCodeRegistry}

theorem TCPTransport.runOn_receive_of_nonpos {stream : TCPStream} {size : Int}
    (hconnected : stream.connected = true) (hsize : size ≤ 0) :
    Exec.runOn (receive size) stream = (.error (.valueError ""), stream) := by
  rw [receive, Exec.runOn_bind, Exec.runOn_get]
  dsimp only
  rw [hconnected, if_neg (by decide), if_pos hsize]
  rfl

theorem TCPStream.waits_eq_false_iff {stream : TCPStream} {size : Int}
    (hconnected : stream.connected = true) (hopen : stream.atEof = false) :
    stream.waits size = false ↔ size ≤ 0 ∨ size ≤ stream.incoming.length := by
  simp only [waits, hconnected, hopen, Bool.true_and, Bool.not_false, Bool.and_true,
    Bool.and_eq_false_iff, decide_eq_false_iff_not, Int.not_lt]

namespace ModbusTcpClient

theorem runOn_sendRequest (stream : TCPStream) (request : RequestPDU) (transactionId unitId : Int) :
    ∃ outcome written, Exec.runOn (sendRequest tcpTransport request transactionId unitId) stream =
      (outcome, { stream with written }) := by
  rw [sendRequest, Exec.runOn_liftM_bind]
  cases ModbusTCPCodec.encodeRequest request transactionId unitId with
  | ok payload =>
      dsimp only [tcpTransport]
      by_cases hconnected : stream.connected = true
      · exact ⟨_, _, TCPTransport.runOn_send hconnected payload⟩
      · refine ⟨.error .modbusConnectionError, stream.written, ?_⟩
        rw [TCPTransport.send, Exec.runOn_bind, Exec.runOn_get]
        dsimp only
        rw [if_pos (by simpa using hconnected)]
        rfl
  | error error => exact ⟨.error error, stream.written, rfl⟩

theorem runOn_receiveHeader {stream : TCPStream} (hconnected : stream.connected = true)
    {header : MBAPHeader} (hfits : header.Fits) {rest : Bytes}
    (hincoming : stream.incoming = header.wire ++ rest) :
    Exec.runOn (receiveHeader tcpTransport) stream =
      (.ok header, { stream with incoming := rest }) := by
  have hreceive : Exec.runOn (tcpTransport.receive 7) stream =
      (.ok header.wire, { stream with incoming := rest }) :=
    TCPTransport.runOn_receive_eq_ok_iff.mpr
      ⟨hconnected, by decide, by simp, rest, hincoming, rfl⟩
  rw [receiveHeader, Exec.runOn_bind_ok hreceive, MBAPHeader.decode_wire hfits, Exec.runOn_liftM]

/-- A frame without a PDU raises before anything is read, any other one is decoded whole. -/
theorem runOn_receiveResponse {stream : TCPStream} (hconnected : stream.connected = true)
    {frame : ModbusTCPFrame} (hfits : frame.header.Fits) {rest : Bytes}
    (hincoming : stream.incoming = frame.pdu ++ rest) (request : RequestPDU)
    (transactionId unitId : Int) :
    ∃ outcome, Exec.runOn (receiveResponse registry tcpTransport request transactionId unitId
        frame.header) stream = (outcome, { stream with incoming := rest }) ∧
      ∀ response, outcome = .ok response →
        ModbusTCPCodec.decodeResponse registry frame.wire request transactionId unitId =
          .ok response := by
  have hlength : frame.header.length - 1 = frame.pdu.length := by
    change (1 : Int) + frame.pdu.length - 1 = _
    omega
  rw [receiveResponse, hlength]
  cases hpdu : frame.pdu with
  | nil =>
      rw [hpdu, List.nil_append] at hincoming
      have hraise : Exec.runOn (tcpTransport.receive (([] : Bytes).length : Int)) stream =
          (.error (.valueError ""), stream) :=
        TCPTransport.runOn_receive_of_nonpos hconnected (Int.le_refl 0)
      refine ⟨.error (.valueError ""), ?_, ?_⟩
      · rw [Exec.runOn_bind_error hraise, ← hincoming]
      · intro response h
        cases h
  | cons head tail =>
      rw [hpdu] at hincoming
      have hreceive : Exec.runOn (tcpTransport.receive ((head :: tail).length : Int)) stream =
          (.ok (head :: tail), { stream with incoming := rest }) :=
        TCPTransport.runOn_receive_eq_ok_iff.mpr
          ⟨hconnected, by simp, rfl, rest, hincoming, rfl⟩
      refine ⟨_, ?_, fun _ h => h⟩
      rw [Exec.runOn_bind_ok hreceive, MBAPHeader.encode_eq hfits, Exec.runOn_liftM_bind,
        ModbusTCPFrame.wire, hpdu]
      rfl

end ModbusTcpClient

def Call.InBody (call : Call) : Prop := ∃ header, call.progress = .awaitingBody header

instance : DecidablePred Call.InBody := fun call =>
  match h : call.progress with
  | .awaitingBody header => .isTrue ⟨header, h⟩
  | .awaitingHeader => .isFalse fun ⟨_, hbody⟩ => Progress.noConfusion (h.symm.trans hbody)
  | .returned _ => .isFalse fun ⟨_, hbody⟩ => Progress.noConfusion (h.symm.trans hbody)
  | .raised _ => .isFalse fun ⟨_, hbody⟩ => Progress.noConfusion (h.symm.trans hbody)

def Call.Over (call : Call) : Prop :=
  match call.progress with
  | .awaitingHeader => False
  | .awaitingBody _ => False
  | .returned _ => True
  | .raised _ => True

instance : DecidablePred Call.Over := fun call => by
  unfold Call.Over
  split <;> infer_instance

theorem Call.not_over_of_awaitingHeader {call : Call} (h : call.progress = .awaitingHeader) :
    ¬ call.Over := by
  rw [Over, h]
  exact id

theorem Call.not_over_of_awaitingBody {call : Call} {header : MBAPHeader}
    (h : call.progress = .awaitingBody header) : ¬ call.Over := by
  rw [Over, h]
  exact id

namespace Session

def wires (frames : List (Option Nat × ModbusTCPFrame)) : Bytes :=
  frames.flatMap fun entry => entry.2.wire

@[simp] theorem wires_cons (entry : Option Nat × ModbusTCPFrame)
    (frames : List (Option Nat × ModbusTCPFrame)) :
    wires (entry :: frames) = entry.2.wire ++ wires frames := List.flatMap_cons

theorem wires_append (frames others : List (Option Nat × ModbusTCPFrame)) :
    wires (frames ++ others) = wires frames ++ wires others := List.flatMap_append

def pending (session : Session) : Bytes := session.stream.incoming ++ session.inTransit

def lastFrames (size : Nat) :
    List (Option Nat × ModbusTCPFrame) → List (Option Nat × ModbusTCPFrame)
  | [] => []
  | entry :: rest =>
      if (wires (entry :: rest)).length ≤ size then entry :: rest else lastFrames size rest

def unread (session : Session) : List (Option Nat × ModbusTCPFrame) :=
  lastFrames session.pending.length session.frames

theorem length_wire_pos (frame : ModbusTCPFrame) : 0 < frame.wire.length := by
  simp only [ModbusTCPFrame.wire, List.length_append, MBAPHeader.length_wire]
  omega

theorem lastFrames_append (read frames : List (Option Nat × ModbusTCPFrame)) :
    lastFrames (wires frames).length (read ++ frames) = frames := by
  induction read with
  | nil =>
      cases frames with
      | nil => rfl
      | cons entry frames => rw [List.nil_append, lastFrames, if_pos (Nat.le_refl _)]
  | cons entry read ih =>
      have hpos := length_wire_pos entry.2
      rw [List.cons_append, lastFrames, if_neg, ih]
      rw [wires_cons, wires_append, List.length_append, List.length_append]
      omega

theorem unread_eq {session : Session} {frames : List (Option Nat × ModbusTCPFrame)}
    (hsuffix : frames <:+ session.frames) (hpending : session.pending = wires frames) :
    session.unread = frames := by
  obtain ⟨read, hread⟩ := hsuffix
  rw [unread, hpending, ← hread, lastFrames_append]

/-- No call is between its header and the rest of its frame. -/
def NoneInBody (session : Session) : Prop := ∀ call ∈ session.calls, ¬ call.InBody

instance (session : Session) : Decidable session.NoneInBody :=
  inferInstanceAs (Decidable (∀ call ∈ session.calls, ¬ call.InBody))

def AtBoundary (session : Session) : Prop :=
  ∃ frames, frames <:+ session.frames ∧ session.pending = wires frames

/-- What is known of a call and the frame whose header it has read: its number and transaction id,
the call the frame answers, and the frame. -/
abbrev Ownership := Nat → Int → Option Nat → ModbusTCPFrame → Prop

structure Reading (own : Ownership) (session : Session) (index : Nat) (call : Call)
    (answered : Option Nat) (frame : ModbusTCPFrame)
    (frames : List (Option Nat × ModbusTCPFrame)) : Prop where
  suffix : (answered, frame) :: frames <:+ session.frames
  pending : session.pending = frame.pdu ++ wires frames
  lookup : session.calls[index]? = some call
  progress : call.progress = .awaitingBody frame.header
  alone : ∀ other reader header, session.calls[other]? = some reader →
    reader.progress = .awaitingBody header → other = index
  own : own index call.transactionId answered frame

/-- The connection is up, and the client is at a frame boundary or in the middle of one frame. -/
structure Framed (own : Ownership) (session : Session) : Prop where
  connected : session.stream.connected = true
  notAtEof : session.stream.atEof = false
  fits : ∀ entry ∈ session.frames, entry.2.header.Fits
  framing : session.NoneInBody ∧ session.AtBoundary ∨
    ∃ index call answered frame frames, session.Reading own index call answered frame frames

/-- Headers are read by no call while another one is in a body, and only when the frame and the call
satisfy `own`; and no call times out in a body. -/
def Reads (own : Ownership) (session : Session) : SessionAction → Prop
  | .receive index => ∀ call ∈ session.calls[index]?, call.progress = .awaitingHeader →
      session.NoneInBody ∧ ∀ entry ∈ session.unread.head?,
        own index call.transactionId entry.1 entry.2
  | .timeout index => ∀ call ∈ session.calls[index]?, ¬ call.InBody
  | _ => True

instance [∀ index transactionId answered frame,
    Decidable (own index transactionId answered frame)] (session : Session) :
    DecidablePred (session.Reads own)
  | .receive index => inferInstanceAs (Decidable (∀ call ∈ session.calls[index]?, _ → _))
  | .timeout index => inferInstanceAs (Decidable (∀ call ∈ session.calls[index]?, _))
  | .call _ _ => .isTrue trivial
  | .answer _ => .isTrue trivial
  | .ignore => .isTrue trivial
  | .intrude _ => .isTrue trivial
  | .arrive _ => .isTrue trivial

variable {own : Ownership} {session next : Session} {index : Nat} {call : Call}

theorem getElem?_setProgress (progress : Progress) (other : Nat) :
    (session.setProgress index progress).calls[other]? =
      if index = other then (fun call => { call with progress }) <$> session.calls[other]?
      else session.calls[other]? := by
  rw [setProgress, List.getElem?_modify]
  split
  · rfl
  · exact id_map _

/-- Once its reader is over, nobody is in a body. -/
theorem Reading.noneInBody {answered : Option Nat} {frame : ModbusTCPFrame}
    {frames : List (Option Nat × ModbusTCPFrame)}
    (h : session.Reading own index call answered frame frames) {progress : Progress}
    (hprogress : ∀ header, progress ≠ .awaitingBody header) :
    (session.setProgress index progress).NoneInBody := by
  rintro reader hreader ⟨header, hbody⟩
  obtain ⟨other, hother⟩ := List.mem_iff_getElem?.mp hreader
  rw [getElem?_setProgress] at hother
  split at hother
  · obtain ⟨before, -, rfl⟩ := Option.map_eq_some_iff.mp hother
    exact hprogress header hbody
  · rename_i hne
    exact hne (h.alone other reader header hother hbody).symm

theorem Framed.reading_of_body (h : session.Framed own) (hcall : session.calls[index]? = some call)
    {header : MBAPHeader} (hbody : call.progress = .awaitingBody header) :
    ∃ answered frame frames, session.Reading own index call answered frame frames := by
  rcases h.framing with ⟨hnone, -⟩ | ⟨reader, other, answered, frame, frames, hreading⟩
  · exact absurd ⟨header, hbody⟩ (hnone call (List.mem_of_getElem? hcall))
  · obtain rfl := hreading.alone index call header hcall hbody
    cases hreading.lookup.symm.trans hcall
    exact ⟨answered, frame, frames, hreading⟩

theorem Framed.atBoundary (h : session.Framed own) (hnone : session.NoneInBody) :
    session.AtBoundary := by
  rcases h.framing with ⟨-, hboundary⟩ | ⟨index, call, answered, frame, frames, hreading⟩
  · exact hboundary
  · exact absurd ⟨_, hreading.progress⟩ (hnone call (List.mem_of_getElem? hreading.lookup))

/-- A front that has arrived is the front of what has arrived. -/
theorem exists_of_append_eq {arrived later front rest : Bytes}
    (h : arrived ++ later = front ++ rest) (hlength : front.length ≤ arrived.length) :
    ∃ behind, arrived = front ++ behind ∧ rest = behind ++ later := by
  refine ⟨arrived.drop front.length, ?_, ?_⟩
  · have htake := congrArg (List.take front.length) h
    rw [List.take_append_of_le_length hlength, List.take_left] at htake
    rw [← htake, List.length_take, min_eq_left hlength, List.take_append_drop]
  · have hdrop := congrArg (List.drop front.length) h
    rw [List.drop_append_of_le_length hlength, List.drop_left] at hdrop
    exact hdrop.symm

/-- A receive that goes on runs one of the two halves of `execute` on what has arrived. -/
theorem receive_eq (h : session.receive registry index call = some next) :
    (call.progress = .awaitingHeader ∧ session.stream.waits 7 = false ∧
      next = setProgress { session with stream := (Exec.runOn
          (ModbusTcpClient.receiveHeader tcpTransport) session.stream).2 } index
        (.ofHeader (Exec.runOn (ModbusTcpClient.receiveHeader tcpTransport) session.stream).1)) ∨
    ∃ header, call.progress = .awaitingBody header ∧
      session.stream.waits (header.length - 1) = false ∧
      next = setProgress { session with stream := (Exec.runOn
          (ModbusTcpClient.receiveResponse registry tcpTransport call.request call.transactionId
            call.unitId header) session.stream).2 } index
        (.ofResponse (Exec.runOn (ModbusTcpClient.receiveResponse registry tcpTransport call.request
          call.transactionId call.unitId header) session.stream).1) := by
  rw [receive] at h
  cases hprogress : call.progress with
  | awaitingHeader =>
      rw [hprogress] at h
      dsimp only at h
      split at h
      · cases h
      · rename_i hwaits
        cases h
        exact .inl ⟨rfl, Bool.not_eq_true _ |>.mp hwaits, rfl⟩
  | awaitingBody header =>
      rw [hprogress] at h
      dsimp only at h
      split at h
      · cases h
      · rename_i hwaits
        cases h
        exact .inr ⟨header, rfl, Bool.not_eq_true _ |>.mp hwaits, rfl⟩
  | returned response =>
      rw [hprogress] at h
      cases h
  | raised error =>
      rw [hprogress] at h
      cases h

/-- A receive that times out was waiting, and the call raises. -/
theorem timeout_eq (h : session.timeout index call = some next) :
    (call.progress = .awaitingHeader ∨ ∃ header, call.progress = .awaitingBody header) ∧
      next = session.setProgress index (.raised .modbusTimeoutError) := by
  rw [timeout] at h
  cases hprogress : call.progress with
  | awaitingHeader =>
      rw [hprogress] at h
      cases h
      exact ⟨.inl rfl, rfl⟩
  | awaitingBody header =>
      rw [hprogress] at h
      dsimp only at h
      split at h
      · cases h
      · cases h
        exact ⟨.inr ⟨header, rfl⟩, rfl⟩
  | returned response =>
      rw [hprogress] at h
      cases h
  | raised error =>
      rw [hprogress] at h
      cases h

/-- What a receive does in a framed session: it reads the header of the first unread frame, or the
PDU of the frame whose header the call has read. -/
theorem receive_cases (hframed : session.Framed own) (hreads : session.Reads own (.receive index))
    (hcall : session.calls[index]? = some call)
    (h : session.receive registry index call = some next) :
    (∃ answered frame frames incoming, call.progress = .awaitingHeader ∧ session.NoneInBody ∧
      (answered, frame) :: frames <:+ session.frames ∧
      own index call.transactionId answered frame ∧
      incoming ++ session.inTransit = frame.pdu ++ wires frames ∧
      next = setProgress { session with stream := { session.stream with incoming } } index
        (.awaitingBody frame.header)) ∨
    ∃ answered frame frames incoming outcome,
      session.Reading own index call answered frame frames ∧
      incoming ++ session.inTransit = wires frames ∧
      next = setProgress { session with stream := { session.stream with incoming } } index
        (.ofResponse outcome) ∧
      ∀ response, outcome = .ok response →
        ModbusTCPCodec.decodeResponse registry frame.wire call.request call.transactionId
          call.unitId = .ok response := by
  rcases receive_eq h with ⟨hprogress, hwaits, rfl⟩ | ⟨header, hprogress, hwaits, rfl⟩
  · obtain ⟨hnone, hown⟩ := hreads call hcall hprogress
    obtain ⟨frames, hsuffix, hpending⟩ := hframed.atBoundary hnone
    have hsize := (TCPStream.waits_eq_false_iff hframed.connected hframed.notAtEof).mp hwaits
    -- Seven bytes have arrived, so there is a first unread frame.
    cases frames with
    | nil =>
        have hnothing : session.stream.incoming = [] := (List.append_eq_nil_iff.mp hpending).1
        rw [hnothing] at hsize
        exact absurd hsize (by decide)
    | cons entry frames =>
        obtain ⟨answered, frame⟩ := entry
        have hfits := hframed.fits _ (hsuffix.subset List.mem_cons_self)
        have hfront := hpending
        rw [pending, wires_cons, ModbusTCPFrame.wire, List.append_assoc] at hfront
        obtain ⟨incoming, hincoming, hrest⟩ := exists_of_append_eq hfront
          (by rw [MBAPHeader.length_wire]; omega)
        rw [ModbusTcpClient.runOn_receiveHeader hframed.connected hfits hincoming]
        exact .inl ⟨answered, frame, frames, incoming, hprogress, hnone, hsuffix,
          hown _ (by rw [unread_eq hsuffix hpending]; rfl), hrest.symm, rfl⟩
  · obtain ⟨answered, frame, frames, hreading⟩ := hframed.reading_of_body hcall hprogress
    obtain rfl : header = frame.header :=
      Progress.awaitingBody.inj (hprogress.symm.trans hreading.progress)
    have hsize := (TCPStream.waits_eq_false_iff hframed.connected hframed.notAtEof).mp hwaits
    have hlength : frame.header.length - 1 = frame.pdu.length := by
      change (1 : Int) + frame.pdu.length - 1 = _
      omega
    obtain ⟨incoming, hincoming, hrest⟩ := exists_of_append_eq hreading.pending (by omega)
    obtain ⟨outcome, hrun, houtcome⟩ := ModbusTcpClient.runOn_receiveResponse hframed.connected
      (hframed.fits _ (hreading.suffix.subset List.mem_cons_self)) hincoming call.request
      call.transactionId call.unitId
    rw [hrun]
    exact .inr ⟨answered, frame, frames, incoming, outcome, hreading, hrest.symm, rfl, houtcome⟩

structure Quiet (session next : Session) : Prop where
  connected : next.stream.connected = session.stream.connected
  atEof : next.stream.atEof = session.stream.atEof
  sent : ∃ sent, next.frames = session.frames ++ sent ∧
    next.pending = session.pending ++ wires sent ∧ ∀ entry ∈ sent, entry.2.header.Fits
  calls : ∀ (other : Nat) (call : Call), next.calls[other]? = some call →
    session.calls[other]? = some call ∨
    call.progress = .awaitingHeader ∨ ∃ error, call.progress = .raised error
  kept : ∀ (other : Nat) (call : Call) (header : MBAPHeader), session.calls[other]? = some call →
    call.progress = .awaitingBody header → next.calls[other]? = some call

/-- A call that has got further was already there. -/
theorem Quiet.before (h : session.Quiet next) (hcall : next.calls[index]? = some call)
    (hheader : call.progress ≠ .awaitingHeader) (hraised : ∀ error, call.progress ≠ .raised error) :
    session.calls[index]? = some call := by
  rcases h.calls index call hcall with hbefore | hprogress | ⟨error, hprogress⟩
  · exact hbefore
  · exact absurd hprogress hheader
  · exact absurd hprogress (hraised error)

theorem Quiet.before_of_body (h : session.Quiet next) (hcall : next.calls[index]? = some call)
    {header : MBAPHeader} (hbody : call.progress = .awaitingBody header) :
    session.calls[index]? = some call := by
  apply h.before hcall
  · rw [hbody]
    exact Progress.noConfusion
  · intro error
    rw [hbody]
    exact Progress.noConfusion

theorem Quiet.of_calls_eq (hconnected : next.stream.connected = session.stream.connected)
    (hatEof : next.stream.atEof = session.stream.atEof) (hcalls : next.calls = session.calls)
    (hsent : ∃ sent, next.frames = session.frames ++ sent ∧
      next.pending = session.pending ++ wires sent ∧ ∀ entry ∈ sent, entry.2.header.Fits) :
    session.Quiet next := by
  refine ⟨hconnected, hatEof, hsent, ?_, ?_⟩
  · intro other call hcall
    exact .inl (hcalls ▸ hcall)
  · intro other call header hcall _
    exact hcalls ▸ hcall

theorem nothing_sent (hframes : next.frames = session.frames)
    (hpending : next.pending = session.pending) :
    ∃ sent, next.frames = session.frames ++ sent ∧ next.pending = session.pending ++ wires sent ∧
      ∀ entry ∈ sent, entry.2.header.Fits := by
  refine ⟨[], ?_, ?_, fun _ h => absurd h List.not_mem_nil⟩
  · rw [hframes, List.append_nil]
  · rw [hpending]
    exact (List.append_nil _).symm

theorem call_eq (session : Session) (request : RequestPDU) (unitId : Option Int) :
    ∃ added written unanswered,
      session.call request unitId =
        { session with client := session.client.nextTransactionId.2
                       stream := { session.stream with written }
                       calls := session.calls ++ [added]
                       unanswered } ∧
      added.transactionId = session.client.transactionId ∧
      (added.progress = .awaitingHeader ∨ ∃ error, added.progress = .raised error) ∧
      (unanswered = session.unanswered ∨
        unanswered = session.unanswered ++ [session.calls.length]) := by
  obtain ⟨outcome, written, hrun⟩ := ModbusTcpClient.runOn_sendRequest session.stream request
    session.client.transactionId (unitId.getD session.client.unitId)
  rw [Session.call]
  dsimp only [ModbusTcpClient.nextTransactionId]
  rw [hrun]
  cases outcome with
  | ok _ => exact ⟨_, written, _, rfl, rfl, .inl rfl, .inr rfl⟩
  | error error => exact ⟨_, written, _, rfl, rfl, .inr ⟨error, rfl⟩, .inl rfl⟩

theorem quiet_call (request : RequestPDU) (unitId : Option Int) :
    session.Quiet (session.call request unitId) := by
  obtain ⟨added, written, unanswered, hcall, -, hprogress, -⟩ := session.call_eq request unitId
  rw [hcall]
  refine ⟨rfl, rfl, nothing_sent rfl rfl, ?_, ?_⟩
  · intro other reader hreader
    rcases Transition.getElem?_append_singleton hreader with hbefore | ⟨-, rfl⟩
    · exact .inl hbefore
    · exact .inr hprogress
  · intro other reader header hreader _
    rw [List.getElem?_append_left (List.getElem?_eq_some_iff.mp hreader).1]
    exact hreader

theorem quiet_timeout (hcall : session.calls[index]? = some call)
    (hwaiting : ¬ call.InBody)
    (h : session.timeout index call = some next) : session.Quiet next := by
  obtain ⟨-, rfl⟩ := timeout_eq h
  refine ⟨rfl, rfl, nothing_sent rfl rfl, ?_, ?_⟩
  · intro other reader hreader
    rw [getElem?_setProgress] at hreader
    split at hreader
    · obtain ⟨before, -, rfl⟩ := Option.map_eq_some_iff.mp hreader
      exact .inr (.inr ⟨_, rfl⟩)
    · exact .inl hreader
  · intro other reader header hreader hbody
    rw [getElem?_setProgress, if_neg]
    · exact hreader
    · rintro rfl
      cases hcall.symm.trans hreader
      exact hwaiting ⟨header, hbody⟩

theorem transmit_eq {answered : Option Nat} {frame : ModbusTCPFrame}
    (h : session.transmit answered frame = some next) :
    frame.header.Fits ∧
      next = { session with inTransit := session.inTransit ++ frame.wire
                            frames := session.frames ++ [(answered, frame)] } := by
  rw [transmit] at h
  split at h
  · rename_i data hencode
    have hfits := ModbusTCPFrame.fits_of_encode hencode
    rw [ModbusTCPFrame.encode_eq hfits] at hencode
    cases hencode
    cases h
    exact ⟨hfits, rfl⟩
  · cases h

inductive Stepped (registry : CustomFunctionCodeRegistry) (session : Session) :
    SessionAction → Session → Prop where
  | call (request : RequestPDU) (unitId : Option Int) :
      Stepped registry session (.call request unitId) (session.call request unitId)
  | receive {index : Nat} {call : Call} {next : Session} (hcall : session.calls[index]? = some call)
      (h : session.receive registry index call = some next) :
      Stepped registry session (.receive index) next
  | timeout {index : Nat} {call : Call} {next : Session} (hcall : session.calls[index]? = some call)
      (h : session.timeout index call = some next) : Stepped registry session (.timeout index) next
  | answer {index : Nat} {unanswered : List Nat} {call : Call} {frame : ModbusTCPFrame}
      (hunanswered : session.unanswered = index :: unanswered)
      (hcall : session.calls[index]? = some call) (hecho : frame.transactionId = call.transactionId)
      (hfits : frame.header.Fits) :
      Stepped registry session (.answer frame.pdu) { session with
        unanswered
        inTransit := session.inTransit ++ frame.wire
        frames := session.frames ++ [(some index, frame)] }
  | ignore {index : Nat} {unanswered : List Nat}
      (hunanswered : session.unanswered = index :: unanswered) :
      Stepped registry session .ignore { session with unanswered }
  | intrude {frame : ModbusTCPFrame} (hfits : frame.header.Fits) :
      Stepped registry session (.intrude frame) { session with
        inTransit := session.inTransit ++ frame.wire
        frames := session.frames ++ [(none, frame)] }
  | arrive (count : Nat) :
      Stepped registry session (.arrive count) { session with
        stream := { session.stream with
          incoming := session.stream.incoming ++ session.inTransit.take count }
        inTransit := session.inTransit.drop count }

theorem stepped_of_step {action : SessionAction} (h : session.step registry action = some next) :
    Stepped registry session action next := by
  cases action with
  | call request unitId =>
      cases h
      exact .call request unitId
  | receive index =>
      obtain ⟨call, hcall, h⟩ := Option.bind_eq_some_iff.mp h
      exact .receive hcall h
  | timeout index =>
      obtain ⟨call, hcall, h⟩ := Option.bind_eq_some_iff.mp h
      exact .timeout hcall h
  | answer pdu =>
      rw [step] at h
      split at h
      · cases h
      · rename_i index unanswered hunanswered
        obtain ⟨call, hcall, h⟩ := Option.bind_eq_some_iff.mp h
        obtain ⟨hfits, rfl⟩ := transmit_eq h
        exact .answer hunanswered hcall rfl hfits
  | ignore =>
      rw [step] at h
      split at h
      · cases h
      · rename_i index unanswered hunanswered
        cases h
        exact .ignore hunanswered
  | intrude frame =>
      obtain ⟨hfits, rfl⟩ := transmit_eq h
      exact .intrude hfits
  | arrive count =>
      cases h
      exact .arrive count

theorem quiet_of_transmitted {answered : Option Nat} {frame : ModbusTCPFrame}
    {unanswered : List Nat} (hfits : frame.header.Fits) :
    session.Quiet { session with unanswered
                                 inTransit := session.inTransit ++ frame.wire
                                 frames := session.frames ++ [(answered, frame)] } := by
  refine .of_calls_eq rfl rfl rfl ⟨[(answered, frame)], rfl, ?_, ?_⟩
  · rw [pending, pending, wires_cons, wires, List.flatMap_nil, List.append_nil, List.append_assoc]
  · exact List.forall_mem_singleton.mpr hfits

/-- A step reads a header, reads a PDU, or reads nothing. -/
theorem step_cases {action : SessionAction} (hreads : session.Reads own action)
    (h : session.step registry action = some next) :
    session.Quiet next ∨
    ∃ index call, session.calls[index]? = some call ∧
      session.receive registry index call = some next ∧ session.Reads own (.receive index) := by
  cases stepped_of_step h with
  | call request unitId => exact .inl (quiet_call request unitId)
  | receive hcall h => exact .inr ⟨_, _, hcall, h, hreads⟩
  | timeout hcall h => exact .inl (quiet_timeout hcall (hreads _ hcall) h)
  | answer hunanswered hcall hecho hfits => exact .inl (quiet_of_transmitted hfits)
  | ignore hunanswered => exact .inl (.of_calls_eq rfl rfl rfl (nothing_sent rfl rfl))
  | intrude hfits => exact .inl (quiet_of_transmitted hfits)
  | arrive count =>
      refine .inl (.of_calls_eq rfl rfl rfl (nothing_sent rfl ?_))
      rw [pending, pending, List.append_assoc, List.take_append_drop]

theorem Framed.of_quiet (hframed : session.Framed own) (hquiet : session.Quiet next) :
    next.Framed own := by
  obtain ⟨sent, hframes, hpending, hfits⟩ := hquiet.sent
  refine ⟨hquiet.connected.trans hframed.connected, hquiet.atEof.trans hframed.notAtEof, ?_, ?_⟩
  · rw [hframes]
    exact List.forall_mem_append.mpr ⟨hframed.fits, hfits⟩
  · rcases hframed.framing with ⟨hnone, frames, hsuffix, hbytes⟩ |
      ⟨index, call, answered, frame, frames, hreading⟩
    · refine .inl ⟨?_, frames ++ sent, ?_, ?_⟩
      · rintro call hcall ⟨header, hbody⟩
        obtain ⟨other, hother⟩ := List.mem_iff_getElem?.mp hcall
        have hbefore := hquiet.before_of_body hother hbody
        exact hnone call (List.mem_of_getElem? hbefore) ⟨header, hbody⟩
      · rw [hframes]
        exact List.suffix_append_self_iff.mpr hsuffix
      · rw [hpending, hbytes, wires_append]
    · refine .inr ⟨index, call, answered, frame, frames ++ sent, ?_, ?_, ?_, hreading.progress, ?_,
        hreading.own⟩
      · rw [hframes]
        exact List.suffix_append_self_iff.mpr hreading.suffix
      · rw [hpending, hreading.pending, wires_append, List.append_assoc]
      · exact hquiet.kept index call _ hreading.lookup hreading.progress
      · intro other reader header hreader hbody
        exact hreading.alone other reader header (hquiet.before_of_body hreader hbody) hbody

theorem Progress.ofResponse_ne_awaitingBody (outcome : Except PyError ResponsePDU)
    (header : MBAPHeader) : Progress.ofResponse outcome ≠ .awaitingBody header := by
  cases outcome <;> exact Progress.noConfusion

theorem Framed.receive (hframed : session.Framed own) (hreads : session.Reads own (.receive index))
    (hcall : session.calls[index]? = some call)
    (h : session.receive registry index call = some next) : next.Framed own := by
  rcases receive_cases hframed hreads hcall h with
    ⟨answered, frame, frames, incoming, hprogress, hnone, hsuffix, hown, hpending, rfl⟩ |
    ⟨answered, frame, frames, incoming, outcome, hreading, hpending, rfl, -⟩
  · refine ⟨hframed.connected, hframed.notAtEof, hframed.fits, .inr ⟨index,
      { call with progress := .awaitingBody frame.header }, answered, frame, frames, hsuffix,
      hpending, ?_, rfl, ?_, hown⟩⟩
    · rw [getElem?_setProgress, if_pos rfl]
      change Option.map _ session.calls[index]? = _
      rw [hcall]
      rfl
    · intro other reader header hreader hbody
      rw [getElem?_setProgress] at hreader
      split at hreader
      · rename_i heq
        exact heq.symm
      · exact absurd ⟨header, hbody⟩ (hnone reader (List.mem_of_getElem? hreader))
  · refine ⟨hframed.connected, hframed.notAtEof, hframed.fits, .inl ⟨?_, frames, ?_, hpending⟩⟩
    · exact hreading.noneInBody (Progress.ofResponse_ne_awaitingBody outcome)
    · exact (List.suffix_cons _ _).trans hreading.suffix

theorem framed_step {action : SessionAction} (hframed : session.Framed own)
    (hreads : session.Reads own action) (h : session.step registry action = some next) :
    next.Framed own := by
  rcases step_cases hreads h with hquiet | ⟨index, call, hcall, hreceive, hreads⟩
  · exact hframed.of_quiet hquiet
  · exact hframed.receive hreads hcall hreceive

theorem framed_fresh (unitId : Int) : (fresh unitId).Framed own := by
  refine ⟨rfl, rfl, fun _ h => absurd h List.not_mem_nil, .inl ⟨?_, [], List.nil_suffix, rfl⟩⟩
  exact fun _ h => absurd h List.not_mem_nil

def Sequential (session : Session) : SessionAction → Prop
  | .call _ _ => ∀ call ∈ session.calls, call.Over
  | _ => True

instance (session : Session) : DecidablePred session.Sequential
  | .call _ _ => inferInstanceAs (Decidable (∀ call ∈ session.calls, call.Over))
  | .receive _ => .isTrue trivial
  | .timeout _ => .isTrue trivial
  | .answer _ => .isTrue trivial
  | .ignore => .isTrue trivial
  | .intrude _ => .isTrue trivial
  | .arrive _ => .isTrue trivial

/-- A receive does not time out once the header has been read. -/
def BodyFollows (session : Session) : SessionAction → Prop
  | .timeout index => ∀ call ∈ session.calls[index]?, ¬ call.InBody
  | _ => True

instance (session : Session) : DecidablePred session.BodyFollows
  | .timeout index => inferInstanceAs (Decidable (∀ call ∈ session.calls[index]?, ¬ call.InBody))
  | .call _ _ => .isTrue trivial
  | .receive _ => .isTrue trivial
  | .answer _ => .isTrue trivial
  | .ignore => .isTrue trivial
  | .intrude _ => .isTrue trivial
  | .arrive _ => .isTrue trivial

def LastOpen (session : Session) : Prop :=
  ∀ index call, session.calls[index]? = some call → index + 1 < session.calls.length → call.Over

theorem setProgress_of_receive (h : session.receive registry index call = some next) :
    ¬ call.Over ∧ ∃ stream progress,
      next = setProgress { session with stream } index progress := by
  rcases receive_eq h with ⟨hprogress, -, hnext⟩ | ⟨header, hprogress, -, hnext⟩
  · exact ⟨Call.not_over_of_awaitingHeader hprogress, _, _, hnext⟩
  · exact ⟨Call.not_over_of_awaitingBody hprogress, _, _, hnext⟩

theorem setProgress_of_timeout (h : session.timeout index call = some next) :
    ¬ call.Over ∧ ∃ stream progress,
      next = setProgress { session with stream } index progress := by
  obtain ⟨hprogress | ⟨header, hprogress⟩, hnext⟩ := timeout_eq h
  · exact ⟨Call.not_over_of_awaitingHeader hprogress, session.stream, _, hnext⟩
  · exact ⟨Call.not_over_of_awaitingBody hprogress, session.stream, _, hnext⟩

theorem index_of_not_over (h : session.LastOpen) (hcall : session.calls[index]? = some call)
    (hopen : ¬ call.Over) : index + 1 = session.calls.length := by
  have hlt := (List.getElem?_eq_some_iff.mp hcall).1
  by_contra hne
  exact hopen (h index call hcall (by omega))

@[simp] theorem length_calls_setProgress (progress : Progress) :
    (session.setProgress index progress).calls.length = session.calls.length :=
  List.length_modify ..

theorem LastOpen.setProgress (h : session.LastOpen) (hcall : session.calls[index]? = some call)
    (hopen : ¬ call.Over) (stream : TCPStream) (progress : Progress) :
    (Session.setProgress { session with stream } index progress).LastOpen := by
  have hlast := index_of_not_over h hcall hopen
  intro other reader hreader hlt
  rw [length_calls_setProgress] at hlt
  rw [getElem?_setProgress, if_neg (by dsimp only at hlt; omega)] at hreader
  exact h other reader hreader hlt

theorem lastOpen_step {action : SessionAction} (hlast : session.LastOpen)
    (hsequential : session.Sequential action) (h : session.step registry action = some next) :
    next.LastOpen := by
  cases stepped_of_step h with
  | call request unitId =>
      obtain ⟨added, written, unanswered, hcall, -⟩ := session.call_eq request unitId
      rw [hcall]
      intro index call hindex hlt
      rcases Transition.getElem?_append_singleton hindex with hbefore | ⟨rfl, -⟩
      · exact hsequential call (List.mem_of_getElem? hbefore)
      · rw [List.length_append] at hlt
        exact absurd hlt (Nat.lt_irrefl _)
  | receive hcall h =>
      obtain ⟨hopen, stream, progress, rfl⟩ := setProgress_of_receive h
      exact hlast.setProgress hcall hopen stream progress
  | timeout hcall h =>
      obtain ⟨hopen, stream, progress, rfl⟩ := setProgress_of_timeout h
      exact hlast.setProgress hcall hopen stream progress
  | answer hunanswered hcall hecho hfits => exact hlast
  | ignore hunanswered => exact hlast
  | intrude hfits => exact hlast
  | arrive count => exact hlast

/-- A call that waits for its header has no other call in a body beside it. -/
theorem noneInBody_of_lastOpen (h : session.LastOpen) (hcall : session.calls[index]? = some call)
    (hheader : call.progress = .awaitingHeader) : session.NoneInBody := by
  rintro reader hreader ⟨header, hbody⟩
  obtain ⟨other, hother⟩ := List.mem_iff_getElem?.mp hreader
  have hindex := index_of_not_over h hcall (Call.not_over_of_awaitingHeader hheader)
  have hotherIndex := index_of_not_over h hother (Call.not_over_of_awaitingBody hbody)
  obtain rfl : index = other := by omega
  cases hcall.symm.trans hother
  exact Progress.noConfusion (hheader.symm.trans hbody)

theorem getElem?_setProgress_self (hcall : session.calls[index]? = some call) (stream : TCPStream)
    (progress : Progress) :
    (Session.setProgress { session with stream } index progress).calls[index]? =
      some { call with progress } := by
  rw [getElem?_setProgress, if_pos rfl]
  exact congrArg (Option.map _) hcall

theorem sent_of_not_over {request : RequestPDU} {unitId : Option Int}
    (hcall : (session.call request unitId).calls[session.calls.length]? = some call)
    (hopen : ¬ call.Over) :
    ∃ stream, Exec.runOn (ModbusTcpClient.sendRequest tcpTransport request
        session.client.transactionId (unitId.getD session.client.unitId)) session.stream =
          (.ok (), stream) ∧
      (session.call request unitId).client = session.client.nextTransactionId.2 ∧
      (session.call request unitId).stream = stream ∧
      call = ⟨request, session.client.transactionId, unitId.getD session.client.unitId,
        .awaitingHeader⟩ := by
  rw [Session.call] at hcall ⊢
  dsimp only [ModbusTcpClient.nextTransactionId] at hcall ⊢
  cases hsend : Exec.runOn (ModbusTcpClient.sendRequest tcpTransport request
      session.client.transactionId (unitId.getD session.client.unitId)) session.stream with
  | mk outcome stream =>
      rw [hsend] at hcall
      cases outcome with
      | ok _ =>
          dsimp only at hcall
          rw [List.getElem?_concat_length] at hcall
          cases hcall
          exact ⟨stream, rfl, rfl, rfl, rfl⟩
      | error error =>
          dsimp only at hcall
          rw [List.getElem?_concat_length] at hcall
          cases hcall
          exact absurd trivial hopen

/-- A call and its two receives, with nothing else in between, are one run of `execute`. -/
theorem runOn_execute_of_steps {request : RequestPDU} {unitId : Option Int} {headed final : Session}
    (hheader : (session.call request unitId).step registry (.receive session.calls.length) =
      some headed)
    (hbody : headed.step registry (.receive session.calls.length) = some final) :
    ∃ outcome,
      Exec.runOn (ModbusTcpClient.execute registry tcpTransport request unitId)
        (session.client, session.stream) = (outcome, (final.client, final.stream)) ∧
      ∃ call, final.calls[session.calls.length]? = some call ∧
        call.progress = .ofResponse outcome := by
  obtain ⟨call, hcall, hheader⟩ := Option.bind_eq_some_iff.mp hheader
  obtain ⟨reader, hreader, hbody⟩ := Option.bind_eq_some_iff.mp hbody
  obtain ⟨stream, hsend, hclient, hstream, rfl⟩ :=
    sent_of_not_over hcall (setProgress_of_receive hheader).1
  rcases receive_eq hheader with ⟨-, -, rfl⟩ | ⟨_, hprogress, -⟩
  · rw [hstream] at hreader hbody
    cases hreceived : Exec.runOn (ModbusTcpClient.receiveHeader tcpTransport) stream with
    | mk outcome middle =>
        rw [hreceived] at hreader hbody
        cases hreader.symm.trans (getElem?_setProgress_self hcall middle (.ofHeader outcome))
        cases outcome with
        | error error => cases hbody
        | ok header =>
            rcases receive_eq hbody with ⟨hprogress, -⟩ | ⟨_, hprogress, -, rfl⟩
            · cases hprogress
            · cases hprogress
              refine ⟨_, ?_, _, getElem?_setProgress_self hreader _ _, rfl⟩
              rw [ModbusTcpClient.runOn_execute, ModbusTcpClient.exchange_eq,
                Exec.runOn_bind_ok hsend, Exec.runOn_bind_ok hreceived, ← hclient]
              rfl
  · cases hprogress

end Session

end ClearModbus
