import ClearModbus.Handler
import ClearModbus.Proof.ServerLoop

/-!
# The turns of a handler

What one turn of a handler does, with everything it has checked before.
-/

namespace ClearModbus

/-- An accepted header fits its format, has protocol id 0, and was read from its own bytes. -/
theorem ModbusTcpServer.decodeHeader_eq_ok {data : Bytes} {header : MBAPHeader}
    (h : decodeHeader data = .ok header) :
    header.Fits ∧ header.protocolId = 0 ∧ header.wire = data := by
  obtain ⟨decoded, hdecode, hchecks⟩ := Except.bind_eq_ok_iff.mp h
  obtain ⟨hfits, hwire⟩ := MBAPHeader.decode_eq_ok_iff.mp hdecode
  split at hchecks
  · cases hchecks
  · rename_i hprotocol
    split at hchecks
    · cases hchecks
    · cases hchecks
      exact ⟨hfits, not_not.mp hprotocol, hwire.symm⟩

namespace ClientHandler

open ModbusTcpServer

variable {registry : CustomFunctionCodeRegistry} {server : ModbusTcpServer}
  {handler next : ClientHandler} {store after : MemoryDataStore} {reply : Option Reply}

inductive Resumed (registry : CustomFunctionCodeRegistry) (server : ModbusTcpServer)
    (handler : ClientHandler) (store : MemoryDataStore) :
    Option Reply → ClientHandler → MemoryDataStore → Prop where
  | noHeader (hprogress : handler.progress = .awaitingHeader) (hshort : handler.incoming.length < 7)
      (hatEof : handler.atEof = true) :
      Resumed registry server handler store none
        { handler with incoming := [], progress := .exited .noHeader } store
  | badHeader {error : PyError} {loopExit : LoopExit}
      (hprogress : handler.progress = .awaitingHeader) (hseven : 7 ≤ handler.incoming.length)
      (hdecode : decodeHeader (handler.incoming.take 7) = .error error)
      (hexit : ofHeader (.error error) = .exited loopExit) :
      Resumed registry server handler store none
        { handler with incoming := handler.incoming.drop 7, progress := .exited loopExit } store
  | header {header : MBAPHeader} (hprogress : handler.progress = .awaitingHeader)
      (hseven : 7 ≤ handler.incoming.length)
      (hdecode : decodeHeader (handler.incoming.take 7) = .ok header) :
      Resumed registry server handler store none
        { handler with incoming := handler.incoming.drop 7, progress := .awaitingBody header } store
  | noBody {header : MBAPHeader} (hprogress : handler.progress = .awaitingBody header)
      (hshort : handler.incoming.length < (header.length - 1).toNat)
      (hatEof : handler.atEof = true) :
      Resumed registry server handler store none
        { handler with incoming := [], progress := .exited .noBody } store
  | raised {header : MBAPHeader} {loopExit : LoopExit} {after : MemoryDataStore}
      (hprogress : handler.progress = .awaitingBody header)
      (hbody : (header.length - 1).toNat ≤ handler.incoming.length)
      (hanswer : answer registry server header
        (handler.incoming.take (header.length - 1).toNat) store = (.error loopExit, after)) :
      Resumed registry server handler store none
        { handler with
          incoming := handler.incoming.drop (header.length - 1).toNat
          progress := .exited loopExit } after
  | replied {header : MBAPHeader} {frame : ModbusTCPFrame} {after : MemoryDataStore}
      (hprogress : handler.progress = .awaitingBody header)
      (hbody : (header.length - 1).toNat ≤ handler.incoming.length)
      (hanswer : answer registry server header
        (handler.incoming.take (header.length - 1).toNat) store = (.ok frame, after)) :
      Resumed registry server handler store
        (some (handler.incoming.take (header.length - 1).toNat, frame))
        { handler with
          incoming := handler.incoming.drop (header.length - 1).toNat
          progress := .draining } after
  | drained (hprogress : handler.progress = .draining) :
      Resumed registry server handler store none { handler with progress := .awaitingHeader } store

theorem exists_exit_ofHeader (error : PyError) :
    ∃ loopExit, ofHeader (.error error) = .exited loopExit := by
  cases error <;> exact ⟨_, rfl⟩

theorem readExactly_cases {size : Nat} {outcome : Except PyError (Bytes × Bytes)}
    (h : handler.readExactly size = some outcome) :
    handler.incoming.length < size ∧ handler.atEof = true ∧ outcome = .error .incompleteReadError ∨
      size ≤ handler.incoming.length ∧
        outcome = .ok (handler.incoming.take size, handler.incoming.drop size) := by
  rw [readExactly] at h
  split at h
  · cases h
  · rename_i hwaits
    cases h
    by_cases hshort : handler.incoming.length < size
    · left
      refine ⟨hshort, ?_, readExactly_of_short hshort⟩
      by_contra hopen
      exact hwaits ⟨hshort, hopen⟩
    · exact .inr ⟨Nat.not_lt.mp hshort, readExactly_of_le (Nat.not_lt.mp hshort)⟩

theorem resumed_of_resume (h : handler.resume registry server store = some (reply, next, after)) :
    Resumed registry server handler store reply next after := by
  rw [resume] at h
  split at h
  · rename_i hprogress
    obtain ⟨outcome, hread, h⟩ := Option.map_eq_some_iff.mp h
    rcases readExactly_cases hread with ⟨hshort, hatEof, rfl⟩ | ⟨hseven, rfl⟩
    · cases h
      exact .noHeader hprogress hshort hatEof
    · dsimp only at h
      cases hdecode : decodeHeader (handler.incoming.take 7) with
      | error error =>
          obtain ⟨loopExit, hexit⟩ := exists_exit_ofHeader error
          rw [hdecode, hexit] at h
          cases h
          exact .badHeader hprogress hseven hdecode hexit
      | ok header =>
          rw [hdecode] at h
          cases h
          exact .header hprogress hseven hdecode
  · rename_i header hprogress
    obtain ⟨outcome, hread, h⟩ := Option.map_eq_some_iff.mp h
    rcases readExactly_cases hread with ⟨hshort, hatEof, rfl⟩ | ⟨hbody, rfl⟩
    · cases h
      exact .noBody hprogress hshort hatEof
    · dsimp only at h
      split at h
      · rename_i loopExit final hanswer
        cases h
        exact .raised hprogress hbody hanswer
      · rename_i frame final hanswer
        cases h
        exact .replied hprogress hbody hanswer
  · rename_i hprogress
    cases h
    exact .drained hprogress
  · cases h

def Sound (handler : ClientHandler) : Prop :=
  ∀ header, handler.progress = .awaitingBody header → decodeHeader header.wire = .ok header

theorem sound_accepted : accepted.Sound := fun _ hprogress => HandlerProgress.noConfusion hprogress

theorem sound_resume (h : handler.resume registry server store = some (reply, next, after)) :
    next.Sound := by
  cases resumed_of_resume h with
  | header hprogress hseven hdecode =>
      intro found hfound
      cases hfound
      rw [(decodeHeader_eq_ok hdecode).2.2, hdecode]
  | _ => exact fun _ hfound => HandlerProgress.noConfusion hfound

end ClientHandler

end ClearModbus
