import ClearModbus.Lib.Transition
import ClearModbus.Proof.Delivered
import ClearModbus.RtuSession

/-!
# Late responses on a serial line

RTU frames carry no transaction id, and the client throws nothing away before it sends a request. A
late answer to an earlier request of the same kind is taken for the answer to the next one, and a
read that a timeout has left going on takes bytes out of it. A call whose first two bytes can only
come from the answer to its own request, with no such read about, takes exactly that frame.
-/

namespace ClearModbus

variable {registry : CustomFunctionCodeRegistry}

def RequestPDU.AnsweredBy (request : RequestPDU) (head : UInt8) : Prop :=
  Int.land head.toNat 0x7F = request.functionCode

instance (request : RequestPDU) (head : UInt8) : Decidable (request.AnsweredBy head) :=
  inferInstanceAs (Decidable (_ = _))

theorem land_of_not_exception (head : UInt8) (h : ¬Int.land head.toNat 0x80 ≠ 0) :
    Int.land head.toNat 0x7F = head.toNat := by
  have hall : ∀ code < 256, ¬Int.land (code : Nat) 0x80 ≠ 0 →
      Int.land (code : Nat) 0x7F = (code : Nat) := by decide +kernel
  exact hall head.toNat head.toNat_lt h

theorem answeredBy_of_decodeResponsePdu {head : UInt8} {payload : Bytes} {request : RequestPDU}
    {response : ResponsePDU}
    (h : decodeResponsePdu registry (head :: payload) request = .ok response) :
    request.AnsweredBy head := by
  rw [decodeResponsePdu] at h
  split at h
  · split at h
    · cases h
    · rename_i hcode
      exact not_not.mp hcode
  · rename_i hnormal
    split at h
    · cases h
    · rename_i hcode
      exact (land_of_not_exception head hnormal).trans (not_not.mp hcode)

theorem ValidResponse.exists_cons {request : RequestPDU} {pdu : Bytes}
    (h : ValidResponse request pdu) :
    ∃ head payload, pdu = head :: payload ∧ request.AnsweredBy head := by
  cases h with
  | @builtin request response h =>
      cases hwire : response.wire with
      | nil => exact absurd hwire h.wire_ne_nil
      | cons head payload =>
          have hdecode := h.decode_wire .empty
          rw [hwire] at hdecode
          exact ⟨head, payload, rfl, answeredBy_of_decodeResponsePdu hdecode⟩
  | custom request head byteCount data hhead hcode _ =>
      refine ⟨head, _, rfl, (land_of_not_exception head ?_).trans hcode⟩
      exact of_decide_eq_false hhead
  | customException request head code _ hcode => exact ⟨head, _, rfl, hcode⟩

def SentRequest.SameKind (other request : SentRequest) : Prop :=
  other.unitId = request.unitId ∧ other.request.functionCode = request.request.functionCode

instance (other request : SentRequest) : Decidable (other.SameKind request) :=
  inferInstanceAs (Decidable (_ ∧ _))

def SentRequest.Refuses (request : SentRequest) : Bytes → Prop
  | [] => False
  | [first] => (first.toNat : Int) ≠ request.unitId
  | first :: second :: _ => (first.toNat : Int) ≠ request.unitId ∨
      ¬ request.request.AnsweredBy second

instance (request : SentRequest) : DecidablePred request.Refuses
  | [] => .isFalse id
  | [first] => inferInstanceAs (Decidable ((first.toNat : Int) ≠ request.unitId))
  | first :: second :: _ => inferInstanceAs
      (Decidable ((first.toNat : Int) ≠ request.unitId ∨ ¬ request.request.AnsweredBy second))

theorem SentRequest.Refuses.append {request : SentRequest} {data : Bytes} (h : request.Refuses data)
    (more : Bytes) : request.Refuses (data ++ more) := by
  match data, more, h with
  | [first], [], h => exact h
  | [first], second :: more, h => exact .inl h
  | first :: second :: rest, more, h => exact h

theorem SentRequest.refuses_wire {other request : SentRequest} (h : ¬ other.SameKind request)
    (hunit : IsByte other.unitId) {pdu : Bytes} (hvalid : ValidResponse other.request pdu) :
    request.Refuses (ModbusRTUFrame.wire ⟨other.unitId, pdu⟩) := by
  obtain ⟨head, payload, rfl, hhead⟩ := hvalid.exists_cons
  by_cases hsame : other.unitId = request.unitId
  · refine .inr fun hrequest => h ⟨hsame, ?_⟩
    exact hhead.symm.trans hrequest
  · refine .inl fun hfirst => hsame ?_
    rw [← hfirst]
    exact (toNat_byte hunit).symm

namespace RtuLine

def pending (line : RtuLine) : Bytes := line.port.incoming ++ line.inTransit

structure Quiet (line : RtuLine) : Prop where
  strayReads : line.strayReads = []
  strayWrites : line.strayWrites = []

/-- What is left on the line is not taken for an answer to the request: no read or write that timed
out is still going on, and either the next bytes are refused, or there are none, and no request of
the same kind can still be answered. -/
structure TellsApart (request : SentRequest) (line : RtuLine) : Prop where
  quiet : line.Quiet
  pending : request.Refuses line.pending ∨
    (∀ other ∈ line.unanswered, ¬ other.SameKind request) ∧ line.pending = []

/-- What is on the line while a call waits, once it has consumed some bytes: no byte yet, behind
requests of other kinds, or none at all; the answer to its request; or bytes that it refuses. -/
inductive Serves (request : SentRequest) (frames : List (Nat × ModbusRTUFrame)) (consumed : Bytes)
    (line : RtuLine) : Prop where
  | waiting (others : List SentRequest) (hothers : ∀ other ∈ others, ¬ other.SameKind request)
      (hunanswered : line.unanswered = others ++ [request]) (hframes : line.frames = frames)
      (hbytes : consumed ++ line.pending = [])
  | ignored (hunanswered : line.unanswered = []) (hframes : line.frames = frames)
      (hbytes : consumed ++ line.pending = [])
  | answered (pdu : Bytes) (hvalid : ValidResponse request.request pdu)
      (hunanswered : line.unanswered = [])
      (hframes : line.frames = frames ++ [(request.index, ⟨request.unitId, pdu⟩)])
      (hunit : IsByte request.unitId)
      (hbytes : consumed ++ line.pending = ModbusRTUFrame.wire ⟨request.unitId, pdu⟩)
  | refused (hbytes : request.Refuses (consumed ++ line.pending))

variable {request : SentRequest} {frames : List (Nat × ModbusRTUFrame)} {consumed : Bytes}
  {line next : RtuLine}

theorem Serves.congr (h : line.Serves request frames consumed)
    (hunanswered : next.unanswered = line.unanswered) (hframes : next.frames = line.frames)
    {data : Bytes} (hpending : line.pending = data ++ next.pending) :
    next.Serves request frames (consumed ++ data) := by
  have hbytes : consumed ++ data ++ next.pending = consumed ++ line.pending := by
    rw [hpending, List.append_assoc]
  cases h with
  | waiting others hothers hwaiting hsent hnothing =>
      exact .waiting others hothers (hunanswered.trans hwaiting) (hframes.trans hsent)
        (hbytes.trans hnothing)
  | ignored hnone hsent hnothing =>
      exact .ignored (hunanswered.trans hnone) (hframes.trans hsent) (hbytes.trans hnothing)
  | answered pdu hvalid hnone hsent hunit hwire =>
      exact .answered pdu hvalid (hunanswered.trans hnone) (hframes.trans hsent) hunit
        (hbytes.trans hwire)
  | refused hrefused =>
      rw [← hbytes] at hrefused
      exact .refused hrefused

theorem Serves.unchanged (h : line.Serves request frames consumed)
    (hunanswered : next.unanswered = line.unanswered) (hframes : next.frames = line.frames)
    (hpending : next.pending = line.pending) : next.Serves request frames consumed := by
  have hnothing : line.pending = [] ++ next.pending := hpending.symm
  rw [← List.append_nil consumed]
  exact h.congr hunanswered hframes hnothing

/-- An answer of the slave is the frame of the oldest request, or nothing. -/
theorem answer_cases (line : RtuLine) (answer : SlaveAnswer) :
    line.answer answer = line ∨
    ∃ oldest unanswered, line.unanswered = oldest :: unanswered ∧
      ValidResponse oldest.request answer.pdu ∧ IsByte oldest.unitId ∧
      line.answer answer = { line with
        unanswered
        inTransit := line.inTransit ++ ModbusRTUFrame.wire ⟨oldest.unitId, answer.pdu⟩
        frames := line.frames ++ [(oldest.index, ⟨oldest.unitId, answer.pdu⟩)] } := by
  rw [RtuLine.answer]
  split
  · exact .inl rfl
  · rename_i oldest unanswered hunanswered
    split
    · rename_i hrequest
      split
      · rename_i data hencode
        obtain ⟨hunit, rfl⟩ := ModbusRTUFrame.encode_eq_ok_iff.mp hencode
        exact .inr ⟨oldest, unanswered, hunanswered, hrequest ▸ answer.valid, hunit, rfl⟩
      · exact .inl rfl
    · exact .inl rfl

theorem Serves.answer (h : line.Serves request frames consumed) (answer : SlaveAnswer) :
    (line.answer answer).Serves request frames consumed := by
  rcases line.answer_cases answer with hsame | ⟨oldest, unanswered, holdest, hvalid, hunit, hanswer⟩
  · rw [hsame]
    exact h
  · rw [hanswer]
    cases h with
    | waiting others hothers hwaiting hsent hnothing =>
        obtain ⟨hconsumed, hpending⟩ := List.append_eq_nil_iff.mp hnothing
        obtain ⟨hincoming, hinTransit⟩ := List.append_eq_nil_iff.mp hpending
        have hbytes : consumed ++ (line.port.incoming ++ (line.inTransit ++
            ModbusRTUFrame.wire ⟨oldest.unitId, answer.pdu⟩)) =
              ModbusRTUFrame.wire ⟨oldest.unitId, answer.pdu⟩ := by
          rw [hconsumed, hincoming, hinTransit]
          rfl
        -- The first frame on the line answers another request, or this one.
        cases others with
        | nil =>
            cases holdest.symm.trans hwaiting
            exact .answered answer.pdu hvalid rfl (by rw [hsent]) hunit hbytes
        | cons other others =>
            cases holdest.symm.trans hwaiting
            have hrefused := SentRequest.refuses_wire (hothers oldest List.mem_cons_self) hunit
              hvalid
            rw [← hbytes] at hrefused
            exact .refused hrefused
    | ignored hnone hsent hnothing => cases holdest.symm.trans hnone
    | answered pdu hvalid hnone hsent hunit hwire => cases holdest.symm.trans hnone
    | refused hrefused =>
        refine .refused ?_
        rw [pending, ← List.append_assoc, ← List.append_assoc, List.append_assoc consumed]
        exact hrefused.append _

theorem strayRead_of_quiet (h : line.Quiet) (read skip count : Nat) :
    line.strayRead read skip count = line := by
  rw [RtuLine.strayRead, h.strayReads]
  rfl

theorem Quiet.move (h : line.Quiet) (move : LineMove) : (line.move move).Quiet := by
  cases move with
  | answer answer =>
      rcases line.answer_cases answer with hsame | ⟨oldest, unanswered, -, -, -, hanswer⟩
      · rw [RtuLine.move, hsame]
        exact h
      · rw [RtuLine.move, hanswer]
        exact ⟨h.strayReads, h.strayWrites⟩
  | ignore => exact ⟨h.strayReads, h.strayWrites⟩
  | arrive count => exact ⟨h.strayReads, h.strayWrites⟩
  | strayRead read skip count =>
      rw [RtuLine.move, strayRead_of_quiet h]
      exact h
  | strayReadEnds read => exact ⟨by rw [RtuLine.move, h.strayReads]; rfl, h.strayWrites⟩
  | strayWriteArrives write => exact ⟨h.strayReads, by rw [RtuLine.move, h.strayWrites]; rfl⟩
  | strayWriteFails write => exact ⟨h.strayReads, by rw [RtuLine.move, h.strayWrites]; rfl⟩

theorem Quiet.moves (h : line.Quiet) (moves : List LineMove) :
    (moves.foldl RtuLine.move line).Quiet := by
  induction moves generalizing line with
  | nil => exact h
  | cons move moves ih => exact ih (h.move move)

theorem Serves.move (hquiet : line.Quiet) (h : line.Serves request frames consumed)
    (move : LineMove) : (line.move move).Serves request frames consumed := by
  cases move with
  | answer answer => exact h.answer answer
  | ignore =>
      cases h with
      | waiting others hothers hwaiting hsent hnothing =>
          cases others with
          | nil => exact .ignored (congrArg List.tail hwaiting) hsent hnothing
          | cons other others =>
              exact .waiting others (List.forall_mem_cons.mp hothers).2
                (congrArg List.tail hwaiting) hsent hnothing
      | ignored hnone hsent hnothing => exact .ignored (congrArg List.tail hnone) hsent hnothing
      | answered pdu hvalid hnone hsent hunit hwire =>
          exact .answered pdu hvalid (congrArg List.tail hnone) hsent hunit hwire
      | refused hrefused => exact .refused hrefused
  | arrive count =>
      have hpending : (line.move (.arrive count)).pending = line.pending := by
        rw [pending, pending, RtuLine.move, List.append_assoc, List.take_append_drop]
      exact h.unchanged rfl rfl hpending
  | strayRead read skip count =>
      rw [RtuLine.move, strayRead_of_quiet hquiet]
      exact h
  | strayReadEnds read => exact h.unchanged rfl rfl rfl
  | strayWriteArrives write =>
      have hunanswered : (line.move (.strayWriteArrives write)).unanswered = line.unanswered := by
        rw [RtuLine.move, hquiet.strayWrites]
        exact List.append_nil _
      exact h.unchanged hunanswered rfl rfl
  | strayWriteFails write => exact h.unchanged rfl rfl rfl

theorem Serves.moves (hquiet : line.Quiet) (h : line.Serves request frames consumed)
    (moves : List LineMove) :
    (moves.foldl RtuLine.move line).Serves request frames consumed := by
  induction moves generalizing line with
  | nil => exact h
  | cons move moves ih => exact ih (hquiet.move move) (h.move hquiet move)

theorem frames_prefix_move (line : RtuLine) (move : LineMove) :
    line.frames <+: (line.move move).frames := by
  cases move with
  | answer answer =>
      rw [RtuLine.move, RtuLine.answer]
      split
      · exact List.prefix_rfl
      · split
        · split
          · exact List.prefix_append _ _
          · exact List.prefix_rfl
        · exact List.prefix_rfl
  | ignore => exact List.prefix_rfl
  | arrive count => exact List.prefix_rfl
  | strayRead read skip count =>
      rw [RtuLine.move, RtuLine.strayRead]
      split <;> exact List.prefix_rfl
  | strayReadEnds read => exact List.prefix_rfl
  | strayWriteArrives write => exact List.prefix_rfl
  | strayWriteFails write => exact List.prefix_rfl

theorem frames_prefix_moves (line : RtuLine) (moves : List LineMove) :
    line.frames <+: (moves.foldl RtuLine.move line).frames := by
  induction moves generalizing line with
  | nil => exact List.prefix_rfl
  | cons move moves ih => exact (frames_prefix_move line move).trans (ih (line.move move))

def Grows {α : Type} (program : Exec PyError RtuLine α) : Prop :=
  ∀ line : RtuLine, line.frames <+: (Exec.runOn program line).2.frames

theorem Grows.liftM {α : Type} (result : Except PyError α) :
    Grows (MonadLiftT.monadLift result : Exec PyError RtuLine α) := fun _ => List.prefix_rfl

theorem Grows.bind {α β : Type} {program : Exec PyError RtuLine α}
    {next : α → Exec PyError RtuLine β} (h : Grows program) (hnext : ∀ value, Grows (next value)) :
    Grows (program >>= next) := by
  intro line
  have hfirst := h line
  rw [Exec.runOn_bind]
  split
  · rename_i value middle hrun
    rw [hrun] at hfirst
    exact hfirst.trans (hnext value middle)
  · rename_i error middle hrun
    rw [hrun] at hfirst
    exact hfirst

/-- The program takes no frame back, and what it returns on the line it returns on a port, for the
bytes it has consumed. -/
structure Mirrors {α : Type} (program : Exec PyError RtuLine α)
    (onPort : Exec PyError SerialPort α) :
    Prop where
  grows : Grows program
  returns : ∀ (request : SentRequest) (frames : List (Nat × ModbusRTUFrame)) (consumed : Bytes)
    (line final : RtuLine) (value : α), line.Quiet → line.Serves request frames consumed →
    Exec.runOn program line = (.ok value, final) →
      final.Quiet ∧
        ∃ data, final.Serves request frames (consumed ++ data) ∧ Consumes onPort value data

theorem runOn_onPort {α : Type} (program : Exec PyError SerialPort α) (line : RtuLine) :
    Exec.runOn (onPort program) line = ((Exec.runOn program line.port).1,
      { line with port := (Exec.runOn program line.port).2 }) := rfl

namespace Mirrors

variable {α β : Type}

theorem pure (value : α) : Mirrors (Pure.pure value) (Pure.pure value) where
  grows line := List.prefix_rfl
  returns request frames consumed line final result hquiet hserves h := by
    cases h
    exact ⟨hquiet, [], by rwa [List.append_nil], .pure value⟩

theorem bind {program : Exec PyError RtuLine α} {onPort : Exec PyError SerialPort α}
    {next : α → Exec PyError RtuLine β} {nextOnPort : α → Exec PyError SerialPort β}
    (h : Mirrors program onPort) (hnext : ∀ value, Mirrors (next value) (nextOnPort value)) :
    Mirrors (program >>= next) (onPort >>= nextOnPort) where
  grows := h.grows.bind fun value => (hnext value).grows
  returns request frames consumed line final result hquiet hserves hrun := by
    obtain ⟨value, middle, hfirst, hsecond⟩ := Exec.runOn_bind_eq_ok_iff.mp hrun
    obtain ⟨hcalm, front, hmiddle, hfront⟩ :=
      h.returns request frames consumed line middle value hquiet hserves hfirst
    obtain ⟨hlast, back, hfinal, hback⟩ := (hnext value).returns request frames (consumed ++ front)
      middle final result hcalm hmiddle hsecond
    exact ⟨hlast, front ++ back, by rwa [← List.append_assoc], hfront.bind hback⟩

theorem liftM_bind (result : Except PyError α) {next : α → Exec PyError RtuLine β}
    {nextOnPort : α → Exec PyError SerialPort β}
    (hnext : ∀ value, Mirrors (next value) (nextOnPort value)) :
    Mirrors (liftM result >>= next) (liftM result >>= nextOnPort) where
  grows := (Grows.liftM result).bind fun value => (hnext value).grows
  returns request frames consumed line final last hquiet hserves hrun := by
    obtain ⟨value, hvalue, hsecond⟩ := Exec.runOn_liftM_bind_eq_ok_iff.mp hrun
    obtain ⟨hcalm, data, hfinal, hdata⟩ :=
      (hnext value).returns request frames consumed line final last hquiet hserves hsecond
    exact ⟨hcalm, data, hfinal, .liftM_bind hvalue hdata⟩

theorem receive (sent : SentRequest) (timesOut : Bool) (size : Int) :
    Mirrors ((transport sent timesOut).receive size) (serialTransport.receive size) where
  grows line := by
    have hmoves := frames_prefix_moves line (line.turns.headD ⟨[], false⟩).moves
    change _ <+: (Exec.runOn (RtuLine.receive size) line).2.frames
    rw [RtuLine.receive, Exec.runOn_bind, Exec.runOn_get]
    dsimp only
    split
    · exact hmoves
    · rw [Exec.runOn_bind, Exec.runOn_set]
      dsimp only
      rw [runOn_onPort]
      exact hmoves
  returns request frames consumed line final data hquiet hserves hrun := by
    change Exec.runOn (RtuLine.receive size) line = _ at hrun
    rw [RtuLine.receive, Exec.runOn_bind, Exec.runOn_get] at hrun
    dsimp only at hrun
    split at hrun
    · cases hrun
    · rw [Exec.runOn_bind, Exec.runOn_set] at hrun
      dsimp only at hrun
      rw [runOn_onPort] at hrun
      obtain ⟨hport, rfl⟩ := Prod.mk.inj hrun
      obtain ⟨-, hpos, hlength, hincoming⟩ :=
        SerialTransport.taken_of_runOn_receive (Prod.ext hport rfl)
      have hcalm := hquiet.moves (line.turns.headD ⟨[], false⟩).moves
      have hmoved := hserves.moves hquiet (line.turns.headD ⟨[], false⟩).moves
      refine ⟨⟨hcalm.strayReads, hcalm.strayWrites⟩, data, ?_, .receive hlength hpos⟩
      refine hmoved.congr ?_ ?_ ?_
      · rfl
      · rfl
      · rw [pending, pending, ← List.append_assoc]
        exact congrArg (· ++ _) hincoming

end Mirrors

theorem mirrors_receiveObjects (sent : SentRequest) (timesOut : Bool) (count : Nat) :
    Mirrors (ModbusRtuClient.receiveObjects (transport sent timesOut) count)
      (ModbusRtuClient.receiveObjects serialTransport count) := by
  induction count with
  | zero => exact .pure []
  | succ count ih =>
      refine .bind (.receive sent timesOut 2) fun objectHeader => .liftM_bind _ fun valueLength =>
        ?_
      refine .bind ?_ fun value => .bind ih fun rest => .pure _
      split
      · exact .receive sent timesOut _
      · exact .pure []

theorem mirrors_receiveReadDeviceIdentificationResponse (sent : SentRequest) (timesOut : Bool) :
    Mirrors (ModbusRtuClient.receiveReadDeviceIdentificationResponse (transport sent timesOut))
      (ModbusRtuClient.receiveReadDeviceIdentificationResponse serialTransport) :=
  .bind (.receive sent timesOut 6) fun _ => .liftM_bind _ fun _ =>
    .bind (mirrors_receiveObjects sent timesOut _) fun _ =>
      .bind (.receive sent timesOut 2) fun _ => .pure _

theorem mirrors_receiveResponse (sent : SentRequest) (timesOut : Bool) (request : RequestPDU) :
    Mirrors (ModbusRtuClient.receiveResponse (transport sent timesOut) request)
      (ModbusRtuClient.receiveResponse serialTransport request) := by
  refine .bind (.receive sent timesOut _) fun prefixData => .liftM_bind _ fun responseSize => ?_
  split
  · exact .bind (mirrors_receiveReadDeviceIdentificationResponse sent timesOut) fun body => .pure _
  · exact .bind (.receive sent timesOut 1) fun byteCountData => .liftM_bind _ fun byteCount =>
      .liftM_bind _ fun responseSize => .bind (.receive sent timesOut _) fun rest => .pure _
  · exact .bind (.receive sent timesOut _) fun rest => .pure _

theorem consumes_of_validResponse {request : RequestPDU} {pdu : Bytes}
    (h : ValidResponse request pdu) (unitId : Int) :
    Consumes (ModbusRtuClient.receiveResponse serialTransport request)
      (ModbusRTUFrame.wire ⟨unitId, pdu⟩) (ModbusRTUFrame.wire ⟨unitId, pdu⟩) := by
  cases h with
  | builtin h => exact ModbusRtuClient.consumes_receiveResponse h unitId
  | custom request head byteCount data hhead _ hlength =>
      have hsize : rtuResponseSizeFromPrefix [byte unitId, head] (.custom request) = .ok none := by
        change (if isExceptionFunctionCode head.toNat then _ else _) = _
        rw [hhead]
        rfl
      exact ModbusRtuClient.consumes_receiveResponse_of_byteCount hsize (fun _ => nofun) hlength
        (length_crcBytes _)
  | customException request head code hhead _ =>
      have hsize : rtuResponseSizeFromPrefix [byte unitId, head] (.custom request) =
          .ok (some rtuExceptionResponseSize) := by
        change (if isExceptionFunctionCode head.toNat then _ else _) = _
        rw [hhead]
        rfl
      exact ModbusRtuClient.consumes_receiveResponse_of_size hsize rfl (by decide)

theorem grows_send (sent : SentRequest) (timesOut : Bool) (payload : Bytes) :
    Grows ((transport sent timesOut).send payload) := by
  intro line
  change _ <+: (Exec.runOn (RtuLine.send sent timesOut payload) line).2.frames
  rw [RtuLine.send, Exec.runOn_bind, Exec.runOn_get]
  dsimp only
  split
  · exact List.prefix_rfl
  · refine Grows.bind (fun line => ?_) (fun _ line => ?_) line
    · rw [runOn_onPort]
    · rw [Exec.runOn_modify]

theorem serves_of_send {request : SentRequest} {timesOut : Bool} {line sent : RtuLine}
    {payload : Bytes} (hapart : line.TellsApart request)
    (h : Exec.runOn ((transport request timesOut).send payload) line = (.ok (), sent)) :
    sent.Quiet ∧ sent.Serves request line.frames [] := by
  change Exec.runOn (RtuLine.send request timesOut payload) line = _ at h
  rw [RtuLine.send, Exec.runOn_bind, Exec.runOn_get] at h
  dsimp only at h
  split at h
  · cases h
  · obtain ⟨_, middle, hport, h⟩ := Exec.runOn_bind_eq_ok_iff.mp h
    rw [runOn_onPort] at hport
    obtain ⟨hwritten, rfl⟩ := Prod.mk.inj hport
    obtain ⟨-, hincoming⟩ := SerialTransport.incoming_of_runOn_send (Prod.ext hwritten rfl)
    cases h
    have hpending : pending { line with
        port := (Exec.runOn (SerialTransport.send payload) line.port).2
        unanswered := line.unanswered ++ [request] } = line.pending :=
      congrArg (· ++ line.inTransit) hincoming
    refine ⟨⟨hapart.quiet.strayReads, hapart.quiet.strayWrites⟩, ?_⟩
    rcases hapart.pending with hrefused | ⟨hothers, hnothing⟩
    · rw [← hpending] at hrefused
      exact .refused hrefused
    · exact .waiting line.unanswered hothers rfl rfl (hpending.trans hnothing)

/-- A call that tells apart what is left on the line decodes, when it returns, the answer to its own
request. -/
theorem execute_of_tellsApart {client : ModbusRtuClient} {request : RequestPDU}
    {unitId : Option Int}
    {timesOut : Bool} {index : Nat} {line final : RtuLine} {response : ResponsePDU}
    (hapart : line.TellsApart ⟨index, request, unitId.getD client.unitId⟩)
    (h : Exec.runOn (ModbusRtuClient.execute registry client
      (transport ⟨index, request, unitId.getD client.unitId⟩ timesOut) request unitId) line =
        (.ok response, final)) :
    ∃ frame, (index, frame) ∈ final.frames ∧
      decodeResponsePdu registry frame.pdu request = .ok response := by
  rw [ModbusRtuClient.execute] at h
  obtain ⟨payload, -, h⟩ := Exec.runOn_liftM_bind_eq_ok_iff.mp h
  obtain ⟨_, sent, hsent, h⟩ := Exec.runOn_bind_eq_ok_iff.mp h
  obtain ⟨data, received, hreceived, h⟩ := Exec.runOn_bind_eq_ok_iff.mp h
  obtain ⟨hresponse, rfl⟩ := Exec.runOn_liftM_eq_ok_iff.mp h
  obtain ⟨frame, hframe, hunit, hdecode⟩ := ModbusRTUCodec.decodeResponse_eq_ok_iff.mp hresponse
  obtain ⟨hbyte, hne, hdata⟩ := ModbusRTUFrame.decode_eq_ok_iff.mp hframe
  obtain ⟨hquiet, hstart⟩ := serves_of_send hapart hsent
  obtain ⟨-, bytes, hserves, hconsumes⟩ :=
    (mirrors_receiveResponse _ timesOut request).returns _ _ _ _ _ _ hquiet hstart hreceived
  rw [List.nil_append] at hserves
  -- The same bytes on a port of their own give the same data.
  obtain ⟨sizes, -, hrun⟩ := hconsumes ⟨true, bytes ++ received.pending, [], [], false⟩ _ rfl rfl
  obtain ⟨-, htaken⟩ := ModbusRtuClient.incoming_of_receiveResponse hrun
  have hnothing : bytes ++ received.pending ≠ [] := by
    intro hempty
    rw [hdata] at htaken
    exact List.cons_ne_nil _ _ (List.append_eq_nil_iff.mp (htaken.symm.trans hempty)).1
  cases hserves with
  | waiting _ _ _ _ hempty => exact absurd hempty hnothing
  | ignored _ _ hempty => exact absurd hempty hnothing
  | refused hrefused =>
      obtain ⟨frameUnit, pdu⟩ := frame
      cases pdu with
      | nil => exact absurd rfl hne
      | cons head tail =>
          have hfront : bytes ++ received.pending = byte frameUnit :: head :: _ :=
            htaken.trans (congrArg (· ++ _) hdata)
          rw [hfront] at hrefused
          rcases hrefused with hfirst | hsecond
          · exact absurd ((toNat_byte hbyte).trans hunit) hfirst
          · exact absurd (answeredBy_of_decodeResponsePdu hdecode) hsecond
  | answered pdu hvalid _ hframes hown hwire =>
      obtain ⟨sizes, -, hwhole⟩ := consumes_of_validResponse hvalid (unitId.getD client.unitId)
        ⟨true, ModbusRTUFrame.wire ⟨unitId.getD client.unitId, pdu⟩, [], [], false⟩ [] rfl
        (List.append_nil _).symm
      rw [hwire] at hrun
      have hsame : data = ModbusRTUFrame.wire ⟨unitId.getD client.unitId, pdu⟩ :=
        Except.ok.inj (congrArg Prod.fst (hrun.symm.trans hwhole))
      obtain ⟨head, payload, rfl, -⟩ := hvalid.exists_cons
      have hdecoded : ModbusRTUFrame.decode data =
          .ok ⟨unitId.getD client.unitId, head :: payload⟩ :=
        ModbusRTUFrame.decode_eq_ok_iff.mpr ⟨hown, List.cons_ne_nil _ _, hsame⟩
      cases hframe.symm.trans hdecoded
      refine ⟨_, ?_, hdecode⟩
      rw [hframes]
      exact List.mem_append_right _ (List.mem_singleton.mpr rfl)

theorem grows_execute (registry : CustomFunctionCodeRegistry) (client : ModbusRtuClient)
    (sent : SentRequest) (timesOut : Bool) (request : RequestPDU) (unitId : Option Int) :
    Grows (ModbusRtuClient.execute registry client (transport sent timesOut) request unitId) :=
  (Grows.liftM _).bind fun payload => (grows_send sent timesOut payload).bind fun _ =>
    (mirrors_receiveResponse sent timesOut request).grows.bind fun _ => .liftM _

end RtuLine

namespace RtuSession

variable {session next : RtuSession}

def Attributed (registry : CustomFunctionCodeRegistry) (session : RtuSession) : Prop :=
  ∀ index call response, session.calls[index]? = some call → call.outcome = .ok response →
    ∃ frame, (index, frame) ∈ session.line.frames ∧
      decodeResponsePdu registry frame.pdu call.request = .ok response

def ToldApart (session : RtuSession) : RtuAction → Prop
  | .call request unitId _ _ =>
      session.line.TellsApart ⟨session.calls.length, request, unitId.getD session.client.unitId⟩
  | .move _ => True

theorem attributed_call (hattributed : session.Attributed registry) (request : RequestPDU)
    (unitId : Option Int) (sendTimesOut : Bool) (turns : List LineTurn)
    (hapart : session.ToldApart (.call request unitId sendTimesOut turns)) :
    (session.call registry request unitId sendTimesOut turns).Attributed registry := by
  intro index call response hcall hreturned
  rcases Transition.getElem?_append_singleton hcall with hbefore | ⟨rfl, hadded⟩
  · obtain ⟨frame, hmem, hdecode⟩ := hattributed index call response hbefore hreturned
    have hgrows := RtuLine.grows_execute registry session.client
      ⟨session.calls.length, request, unitId.getD session.client.unitId⟩ sendTimesOut request unitId
      { session.line with turns }
    exact ⟨frame, hgrows.subset hmem, hdecode⟩
  · have hrequest : call.request = request := congrArg RtuCall.request hadded
    have houtcome : (Exec.runOn (ModbusRtuClient.execute registry session.client
        (RtuLine.transport ⟨session.calls.length, request, unitId.getD session.client.unitId⟩
          sendTimesOut) request unitId) { session.line with turns }).1 = .ok response :=
      (congrArg RtuCall.outcome hadded).symm.trans hreturned
    have hline : RtuLine.TellsApart
        ⟨session.calls.length, request, unitId.getD session.client.unitId⟩
        { session.line with turns } :=
      ⟨⟨hapart.quiet.strayReads, hapart.quiet.strayWrites⟩, hapart.pending⟩
    rw [hrequest]
    exact RtuLine.execute_of_tellsApart hline (Prod.ext houtcome rfl)

theorem attributed_step {action : RtuAction} (hattributed : session.Attributed registry)
    (hguard : session.ToldApart action) (h : session.step registry action = some next) :
    next.Attributed registry := by
  cases action with
  | call request unitId sendTimesOut turns =>
      cases h
      exact attributed_call hattributed request unitId sendTimesOut turns hguard
  | move move =>
      cases h
      intro index call response hcall hreturned
      obtain ⟨frame, hmem, hdecode⟩ := hattributed index call response hcall hreturned
      exact ⟨frame, (RtuLine.frames_prefix_move session.line move).subset hmem, hdecode⟩

/-- **No stale response is misattributed** in every run in which no call is made while a read or
write that timed out is still going on, or while what is left on the line begins like its answer, or
is nothing yet and may still become the answer to an earlier request of its kind. -/
theorem attributed_of_toldApart (registry : CustomFunctionCodeRegistry) (unitId : Int)
    (session : RtuSession)
    (h : Transition.Reaches (step registry) ToldApart (fresh unitId) session) :
    session.Attributed registry := by
  have hstart : (fresh unitId).Attributed registry := fun index call response hcall => nomatch hcall
  exact h.invariant hstart fun _ _ _ hinv hguard hstep => attributed_step hinv hguard hstep

instance (request : SentRequest) (line : RtuLine) : Decidable (line.TellsApart request) :=
  decidable_of_iff ((line.strayReads = [] ∧ line.strayWrites = []) ∧
      (request.Refuses line.pending ∨
        (∀ other ∈ line.unanswered, ¬ other.SameKind request) ∧ line.pending = []))
    ⟨fun h => ⟨⟨h.1.1, h.1.2⟩, h.2⟩, fun h =>
      ⟨⟨h.quiet.strayReads, h.quiet.strayWrites⟩, h.pending⟩⟩

instance (session : RtuSession) : DecidablePred session.ToldApart
  | .call request unitId _ _ => inferInstanceAs (Decidable (session.line.TellsApart
      ⟨session.calls.length, request, unitId.getD session.client.unitId⟩))
  | .move _ => .isTrue trivial

def readRegister (address : Int) (h : IsRegisterValue address) : RequestPDU :=
  .builtin (.readHoldingRegisters ⟨address, 1, h, by decide⟩)

def registerAnswer (address value : Int) (h : IsRegisterValue address)
    (hvalue : IsRegisterValue value) : SlaveAnswer where
  request := readRegister address h
  pdu := (ResponsePDU.readRegisters ⟨0x03, [value]⟩).wire
  valid := .builtin (.readHoldingRegisters _ [value] rfl (List.forall_mem_singleton.mpr hvalue))

def readInputRegister (address : Int) (h : IsRegisterValue address) : RequestPDU :=
  .builtin (.readInputRegisters ⟨address, 1, h, by decide⟩)

def inputRegisterAnswer (address value : Int) (h : IsRegisterValue address)
    (hvalue : IsRegisterValue value) : SlaveAnswer where
  request := readInputRegister address h
  pdu := (ResponsePDU.readRegisters ⟨0x04, [value]⟩).wire
  valid := .builtin (.readInputRegisters _ [value] rfl (List.forall_mem_singleton.mpr hvalue))

/-- A read of an input register times out, and its answer, which has the size of the answer to the
next read, is refused by that one; the request of that one is lost, and a third read gets its own
answer. -/
theorem attributed_of_toldApart_late_answer :
    ∃ session : RtuSession, session.calls.map RtuCall.outcome =
        [.error .modbusTimeoutError, .error (.valueError ""), .ok (.readRegisters ⟨0x03, [9]⟩)] ∧
      session.Attributed .empty := by
  have hrun : ∃ session ∈ Transition.run (step .empty) ToldApart (fresh 1)
      [.call (readInputRegister 0 (by decide)) none false [⟨[], true⟩],
        .move (.strayReadEnds 0),
        .call (readRegister 0 (by decide)) none false
          [⟨[.answer (inputRegisterAnswer 0 7 (by decide) (by decide)), .arrive 7], false⟩],
        .move .ignore,
        .call (readRegister 5 (by decide)) none false
          [⟨[.answer (registerAnswer 5 9 (by decide) (by decide)), .arrive 7], false⟩]],
      session.calls.map RtuCall.outcome = [.error .modbusTimeoutError, .error (.valueError ""),
        .ok (.readRegisters ⟨0x03, [9]⟩)] := by decide +kernel
  obtain ⟨session, hsession, hcalls⟩ := hrun
  exact ⟨session, hcalls, attributed_of_toldApart .empty 1 session
    (Transition.reaches_of_run .refl hsession)⟩

/-- The answer to the read of register 0 comes after its timeout and is returned by the read of
register 5. -/
theorem not_attributed_late_answer :
    ¬ ∀ session : RtuSession, Transition.Reaches (step .empty) (fun _ _ => True) (fresh 1) session →
      session.Attributed .empty := by
  intro hall
  have hrun : ∃ session ∈ Transition.run (step .empty) (fun _ _ => True) (fresh 1)
      [.call (readRegister 0 (by decide)) none false [⟨[], true⟩],
        .move (.strayReadEnds 0),
        .call (readRegister 5 (by decide)) none false
          [⟨[.answer (registerAnswer 0 7 (by decide) (by decide)), .arrive 7], false⟩]],
      (∃ call ∈ session.calls[1]?, call.outcome = .ok (.readRegisters ⟨0x03, [7]⟩)) ∧
      session.line.frames.map Prod.fst = [0] := by decide +kernel
  obtain ⟨session, hsession, ⟨call, hcall, houtcome⟩, hframes⟩ := hrun
  obtain ⟨frame, hmem, -⟩ := hall session (Transition.reaches_of_run .refl hsession) 1 call _
    hcall houtcome
  have hanswered : 1 ∈ session.line.frames.map Prod.fst := List.mem_map_of_mem hmem
  rw [hframes] at hanswered
  exact absurd hanswered (by decide)

end RtuSession

end ClearModbus
