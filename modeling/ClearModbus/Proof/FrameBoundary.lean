import ClearModbus.Proof.Framing

/-!
# Does a failed call leave the stream usable?

Every exit of `execute` after the header comes behind the rest of the frame, but for one: a timeout
of the second receive leaves the PDU in the stream, the client keeps the connection open, and the
next call takes the PDU for a header.
-/

namespace ClearModbus.Session

variable {registry : CustomFunctionCodeRegistry} {session : Session}

/-- When no call is going on, the connection is closed or what was consumed are whole frames. -/
def UsableAfterCalls (session : Session) : Prop :=
  (∀ call ∈ session.calls, call.Over) → session.stream.connected = false ∨ session.AtBoundary

theorem Framed.usableAfterCalls {own : Ownership} (h : session.Framed own) :
    session.UsableAfterCalls := by
  intro hover
  refine .inr (h.atBoundary ?_)
  rintro call hcall ⟨header, hbody⟩
  exact Call.not_over_of_awaitingBody hbody (hover call hcall)

abbrev Unattributed : Ownership := fun _ _ _ _ => True

theorem reads_of_bodyFollows {action : SessionAction} (hlast : session.LastOpen)
    (h : session.BodyFollows action) : session.Reads Unattributed action := by
  cases action with
  | receive index =>
      intro call hcall hheader
      exact ⟨noneInBody_of_lastOpen hlast hcall hheader, fun _ _ => trivial⟩
  | timeout index => exact h
  | _ => trivial

/-- **A failed call leaves the stream usable** in every run in which no receive times out once the
header of its frame has been read. -/
theorem usableAfterCalls_of_bodyFollows (registry : CustomFunctionCodeRegistry) (unitId : Int)
    (session : Session) (h : Transition.Reaches (step registry)
      (fun session action => session.Sequential action ∧ session.BodyFollows action)
      (fresh unitId) session) : session.UsableAfterCalls := by
  have hlast : (fresh unitId).LastOpen := fun index call hcall _ => nomatch hcall
  have hreads : Transition.Reaches (step registry) (Reads Unattributed) (fresh unitId) session :=
    h.strengthen (p := LastOpen) hlast
      (fun _ _ _ hinv hguard hstep => lastOpen_step hinv hguard.1 hstep)
      fun _ _ hinv hguard => reads_of_bodyFollows hinv hguard.2
  have hframed : session.Framed Unattributed :=
    hreads.invariant (framed_fresh unitId) fun _ _ _ hinv hguard hstep =>
      framed_step hinv hguard hstep
  exact hframed.usableAfterCalls

def readTwoRegisters : RequestPDU :=
  .builtin (.readHoldingRegisters ⟨4, 2, by decide, by decide⟩)

/-- A timeout of the first receive and a frame with another transaction id leave the stream
usable. -/
theorem usableAfterCalls_of_bodyFollows_two_errors :
    ∃ session : Session, session.calls.map Call.progress =
        [.raised .modbusTimeoutError, .raised (.modbusResponseMismatchError
          "Response transaction id does not match request.")] ∧
      session.UsableAfterCalls := by
  have hrun : ∃ session ∈ Transition.run (step .empty)
      (fun session action => session.Sequential action ∧ session.BodyFollows action) (fresh 1)
      [.call readTwoRegisters none, .timeout 0, .call readTwoRegisters none,
        .intrude { transactionId := 1, unitId := 1, pdu := [0x03, 4, 0, 7, 0, 8] }, .arrive 13,
        .receive 1, .receive 1],
      session.calls.map Call.progress = [.raised .modbusTimeoutError,
        .raised (.modbusResponseMismatchError
          "Response transaction id does not match request.")] := by decide +kernel
  obtain ⟨session, hsession, hcalls⟩ := hrun
  exact ⟨session, hcalls, usableAfterCalls_of_bodyFollows .empty 1 session
    (Transition.reaches_of_run .refl hsession)⟩

/-- The header has arrived and the PDU comes after the timeout: six bytes are left of the frame. -/
theorem not_usableAfterCalls_timeout_in_body :
    ¬ ∀ session : Session, Transition.Reaches (step .empty)
      (fun session action => session.Sequential action) (fresh 1) session →
        session.UsableAfterCalls := by
  intro hall
  have hrun : ∃ session ∈ Transition.run (step .empty)
      (fun session action => session.Sequential action) (fresh 1)
      [.call readTwoRegisters none, .answer [0x03, 4, 0, 7, 0, 8], .arrive 7, .receive 0,
        .timeout 0, .arrive 6],
      session.calls.map Call.progress = [.raised .modbusTimeoutError] ∧
      session.stream.connected = true ∧ session.pending = [0x03, 4, 0, 7, 0, 8] ∧
      session.frames =
        [(some 0, { transactionId := 1, unitId := 1, pdu := [0x03, 4, 0, 7, 0, 8] })] := by
    decide +kernel
  obtain ⟨session, hsession, hcalls, hconnected, hpending, hframes⟩ := hrun
  have hover : ∀ call ∈ session.calls, call.Over := by
    intro call hcall
    have hprogress := List.mem_map_of_mem (f := Call.progress) hcall
    rw [hcalls, List.mem_singleton] at hprogress
    rw [Call.Over, hprogress]
    trivial
  rcases hall session (Transition.reaches_of_run .refl hsession) hover with hclosed | hboundary
  · exact Bool.false_ne_true (hclosed.symm.trans hconnected)
  · obtain ⟨frames, hsuffix, hbytes⟩ := hboundary
    rw [hframes, List.suffix_cons_iff, List.suffix_nil] at hsuffix
    rw [hpending] at hbytes
    rcases hsuffix with rfl | rfl
    · revert hbytes
      decide
    · revert hbytes
      decide

end ClearModbus.Session
