import ClearModbus.Proof.Framing

/-!
# Does every call get its own response?

A call returns what it decodes from one frame with its transaction id and its unit id. The frame is
the answer to its own request when headers are only read at the start of a frame, and none of an
answer to another call with the same id.
-/

namespace ClearModbus

variable {registry : CustomFunctionCodeRegistry}

namespace Session

def Attributed (registry : CustomFunctionCodeRegistry) (session : Session) : Prop :=
  ∀ index call response, session.calls[index]? = some call → call.progress = .returned response →
    ∃ frame, (some index, frame) ∈ session.frames ∧
      decodeResponsePdu registry frame.pdu call.request = .ok response

def Owned : Ownership := fun index transactionId answered frame =>
  frame.transactionId = transactionId → answered = some index

variable {session next : Session} {index : Nat} {call : Call}

theorem attributed_of_quiet (hattributed : session.Attributed registry)
    (hquiet : session.Quiet next) : next.Attributed registry := by
  intro index call response hcall hreturned
  have hbefore : session.calls[index]? = some call := by
    apply hquiet.before hcall
    · rw [hreturned]
      exact Progress.noConfusion
    · intro error
      rw [hreturned]
      exact Progress.noConfusion
  obtain ⟨frame, hmem, hdecode⟩ := hattributed index call response hbefore hreturned
  obtain ⟨sent, hframes, -, -⟩ := hquiet.sent
  refine ⟨frame, ?_, hdecode⟩
  rw [hframes]
  exact List.mem_append_left sent hmem

theorem attributed_setProgress (hattributed : session.Attributed registry)
    (hcall : session.calls[index]? = some call) (stream : TCPStream) {progress : Progress}
    (hprogress : ∀ response, progress = .returned response →
      ∃ frame, (some index, frame) ∈ session.frames ∧
        decodeResponsePdu registry frame.pdu call.request = .ok response) :
    (setProgress { session with stream } index progress).Attributed registry := by
  intro other reader response hreader hreturned
  rw [getElem?_setProgress] at hreader
  split at hreader
  · rename_i heq
    subst heq
    obtain ⟨before, hbefore, rfl⟩ := Option.map_eq_some_iff.mp hreader
    cases hcall.symm.trans hbefore
    exact hprogress response hreturned
  · exact hattributed other reader response hreader hreturned

theorem attributed_receive (hframed : session.Framed Owned)
    (hattributed : session.Attributed registry)
    (hreads : session.Reads Owned (.receive index)) (hcall : session.calls[index]? = some call)
    (h : session.receive registry index call = some next) : next.Attributed registry := by
  rcases receive_cases hframed hreads hcall h with
    ⟨answered, frame, frames, incoming, -, -, -, -, -, rfl⟩ |
    ⟨answered, frame, frames, incoming, outcome, hreading, -, rfl, houtcome⟩
  · exact attributed_setProgress hattributed hcall _ fun _ h => Progress.noConfusion h
  · refine attributed_setProgress hattributed hcall _ fun response hreturned => ?_
    cases outcome with
    | error error => exact Progress.noConfusion hreturned
    | ok value =>
        cases hreturned
        obtain ⟨decoded, hdecoded, htransaction, -, hresponse⟩ :=
          ModbusTCPCodec.decodeResponse_eq_ok_iff.mp (houtcome _ rfl)
        obtain ⟨hfits, -, hwire⟩ := ModbusTCPFrame.decode_eq_ok_iff.mp hdecoded
        have hmem := hreading.suffix.subset List.mem_cons_self
        obtain rfl := ModbusTCPFrame.eq_of_wire_eq (hframed.fits _ hmem) hfits hwire
        cases hreading.lookup.symm.trans hcall
        refine ⟨frame, ?_, hresponse⟩
        rw [← hreading.own htransaction]
        exact hmem

theorem attributed_step {action : SessionAction} (hframed : session.Framed Owned)
    (hattributed : session.Attributed registry) (hreads : session.Reads Owned action)
    (h : session.step registry action = some next) : next.Attributed registry := by
  rcases step_cases hreads h with hquiet | ⟨index, call, hcall, hreceive, hreads⟩
  · exact attributed_of_quiet hattributed hquiet
  · exact attributed_receive hframed hattributed hreads hcall hreceive

theorem attributed_of_reads {unitId : Int}
    (h : Transition.Reaches (step registry) (Reads Owned) (fresh unitId) session) :
    session.Framed Owned ∧ session.Attributed registry := by
  have hstart : (fresh unitId).Framed Owned ∧ (fresh unitId).Attributed registry := by
    refine ⟨framed_fresh unitId, fun index call response hcall => ?_⟩
    cases hcall
  refine h.invariant (p := fun session => session.Framed Owned ∧ session.Attributed registry)
    hstart fun session action next hinv hreads hstep => ?_
  exact ⟨framed_step hinv.1 hreads hstep, attributed_step hinv.1 hinv.2 hreads hstep⟩

instance (index : Nat) (transactionId : Int) (answered : Option Nat) (frame : ModbusTCPFrame) :
    Decidable (Owned index transactionId answered frame) :=
  inferInstanceAs (Decidable (_ → _))

/-- The server answers the requests in their order and sends nothing else, and no receive times
out. -/
def Answering : SessionAction → Prop
  | .timeout _ => False
  | .ignore => False
  | .intrude _ => False
  | _ => True

instance : DecidablePred Answering
  | .timeout _ => .isFalse id
  | .ignore => .isFalse id
  | .intrude _ => .isFalse id
  | .call _ _ => .isTrue trivial
  | .receive _ => .isTrue trivial
  | .answer _ => .isTrue trivial
  | .arrive _ => .isTrue trivial

/-- **Concurrent calls get their own responses** in every run in which no header is read while
another call is between its header and the rest of its frame, or from the answer to another call
with the same transaction id. -/
theorem attributed_of_answering (registry : CustomFunctionCodeRegistry) (unitId : Int)
    (session : Session) (h : Transition.Reaches (step registry)
      (fun session action => Answering action ∧ session.Reads Owned action)
      (fresh unitId) session) :
    session.Attributed registry :=
  (attributed_of_reads (h.mono fun _ _ hguard => hguard.2)).2

def readFourRegisters : RequestPDU :=
  .builtin (.readHoldingRegisters ⟨0, 4, by decide, by decide⟩)

/-- Two reads in flight at once, answered and read one after the other. -/
theorem attributed_of_answering_two_reads :
    ∃ session : Session, session.calls.map Call.progress =
        [.returned (.readRegisters ⟨0x03, [1, 2, 3, 4]⟩),
          .returned (.readRegisters ⟨0x03, [5, 6, 7, 8]⟩)] ∧
      session.Attributed .empty := by
  have hrun : ∃ session ∈ Transition.run (step .empty)
      (fun session action => Answering action ∧ session.Reads Owned action) (fresh 1)
      [.call readFourRegisters none, .call readFourRegisters none,
        .answer [0x03, 8, 0, 1, 0, 2, 0, 3, 0, 4], .answer [0x03, 8, 0, 5, 0, 6, 0, 7, 0, 8],
        .arrive 34, .receive 0, .receive 0, .receive 1, .receive 1],
      session.calls.map Call.progress = [.returned (.readRegisters ⟨0x03, [1, 2, 3, 4]⟩),
        .returned (.readRegisters ⟨0x03, [5, 6, 7, 8]⟩)] := by decide +kernel
  obtain ⟨session, hsession, hcalls⟩ := hrun
  exact ⟨session, hcalls, attributed_of_answering .empty 1 session
    (Transition.reaches_of_run .refl hsession)⟩

/-- The second call takes eight bytes of the PDU for the first one as its header and its PDU, and
the first call goes on with the last two and the front of the second frame. -/
theorem not_attributed_header_in_body :
    ¬ ∀ session : Session, Transition.Reaches (step .empty) (fun _ action => Answering action)
      (fresh 1) session → session.Attributed .empty := by
  intro hall
  have hrun : ∃ session ∈ Transition.run (step .empty) (fun _ action => Answering action) (fresh 1)
      [.call readFourRegisters none, .call readFourRegisters none,
        .answer [0x03, 8, 0, 1, 0, 2, 0, 3, 3, 8], .answer [0x03, 8, 0, 5, 0, 6, 0, 7, 0, 8],
        .arrive 7, .receive 0, .arrive 27, .receive 1, .receive 1, .receive 0],
      (∃ call ∈ session.calls[0]?, call.request = readFourRegisters ∧
        call.progress = .returned (.readRegisters ⟨0x03, [2, 0, 11, 0x103]⟩)) ∧
      session.frames =
        [(some 0, { transactionId := 1, unitId := 1, pdu := [0x03, 8, 0, 1, 0, 2, 0, 3, 3, 8] }),
          (some 1,
            { transactionId := 2, unitId := 1, pdu := [0x03, 8, 0, 5, 0, 6, 0, 7, 0, 8] })] := by
    decide +kernel
  obtain ⟨session, hsession, ⟨call, hcall, hrequest, hprogress⟩, hframes⟩ := hrun
  obtain ⟨frame, hmem, hdecode⟩ := hall session (Transition.reaches_of_run .refl hsession) 0 call _
    hcall hprogress
  rw [hframes] at hmem
  rw [hrequest] at hdecode
  obtain rfl : frame =
      { transactionId := 1, unitId := 1, pdu := [0x03, 8, 0, 1, 0, 2, 0, 3, 3, 8] } := by
    simpa using hmem
  revert hdecode
  decide +kernel

end Session

end ClearModbus
