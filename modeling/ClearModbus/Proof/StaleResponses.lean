import ClearModbus.Proof.Attribution

/-!
# Late responses of sequential calls

The transaction ids run through 1 to 65535 and start over, so an answer that comes fewer than 65535
calls late carries the id of no other call, and the call that reads it refuses it.
-/

namespace ClearModbus

def nthTransactionId (n : Nat) : Int := (n % 65535 : Nat) + 1

theorem nthTransactionId_range (n : Nat) :
    1 ≤ nthTransactionId n ∧ nthTransactionId n ≤ 0xFFFF := by
  rw [nthTransactionId]
  omega

/-- Two calls with one id are a whole cycle apart. -/
theorem eq_of_nthTransactionId_eq {m n : Nat} (hle : m ≤ n) (hlt : n < m + 65535)
    (h : nthTransactionId m = nthTransactionId n) : m = n := by
  rw [nthTransactionId, nthTransactionId] at h
  omega

theorem ModbusTcpClient.nextTransactionId_range {client : ModbusTcpClient}
    (h : 1 ≤ client.transactionId ∧ client.transactionId ≤ 0xFFFF) :
    1 ≤ client.nextTransactionId.2.transactionId ∧
      client.nextTransactionId.2.transactionId ≤ 0xFFFF := by
  rw [nextTransactionId]
  dsimp only
  split <;> omega

theorem ModbusTcpClient.nextTransactionId_nth {client : ModbusTcpClient} {n : Nat}
    (h : client.transactionId = nthTransactionId n) :
    client.nextTransactionId.2.transactionId = nthTransactionId (n + 1) := by
  rw [nextTransactionId, h]
  dsimp only
  rw [nthTransactionId, nthTransactionId]
  split <;> omega

namespace Session

variable {registry : CustomFunctionCodeRegistry} {session next : Session} {index : Nat}
  {call : Call}

structure Numbered (session : Session) : Prop where
  counter : session.client.transactionId = nthTransactionId session.calls.length
  calls : ∀ (index : Nat) (call : Call), session.calls[index]? = some call →
    call.transactionId = nthTransactionId index
  unanswered : ∀ index ∈ session.unanswered, index < session.calls.length
  frames : ∀ entry ∈ session.frames, ∃ index, entry.1 = some index ∧
    index < session.calls.length ∧ entry.2.transactionId = nthTransactionId index

def OnlyAnswers : SessionAction → Prop
  | .intrude _ => False
  | _ => True

theorem numbered_setProgress (h : session.Numbered) (stream : TCPStream) (index : Nat)
    (progress : Progress) :
      (Session.setProgress { session with stream } index progress).Numbered := by
  have hlength : (Session.setProgress { session with stream } index progress).calls.length =
      session.calls.length := length_calls_setProgress progress
  refine ⟨?_, ?_, ?_, ?_⟩
  · rw [hlength]
    exact h.counter
  · intro other reader hreader
    rw [getElem?_setProgress] at hreader
    split at hreader
    · obtain ⟨before, hbefore, rfl⟩ := Option.map_eq_some_iff.mp hreader
      exact h.calls other before hbefore
    · exact h.calls other reader hreader
  · rw [hlength]
    exact h.unanswered
  · rw [hlength]
    exact h.frames

theorem numbered_call (h : session.Numbered) (request : RequestPDU) (unitId : Option Int) :
    (session.call request unitId).Numbered := by
  obtain ⟨added, written, unanswered, hcall, hadded, -, hunanswered⟩ :=
    session.call_eq request unitId
  rw [hcall]
  have hlength : (session.calls ++ [added]).length = session.calls.length + 1 :=
    List.length_append
  refine ⟨?_, ?_, ?_, ?_⟩
  · rw [hlength]
    exact ModbusTcpClient.nextTransactionId_nth h.counter
  · intro index call hindex
    rcases Transition.getElem?_append_singleton hindex with hbefore | ⟨rfl, rfl⟩
    · exact h.calls index call hbefore
    · exact hadded.trans h.counter
  · intro index hmem
    rw [hlength]
    rcases hunanswered with rfl | rfl
    · exact Nat.lt_succ_of_lt (h.unanswered index hmem)
    · rcases List.mem_append.mp hmem with hbefore | hnew
      · exact Nat.lt_succ_of_lt (h.unanswered index hbefore)
      · rw [List.mem_singleton.mp hnew]
        exact Nat.lt_succ_self _
  · intro entry hmem
    obtain ⟨index, hanswered, hlt, hid⟩ := h.frames entry hmem
    exact ⟨index, hanswered, by rw [hlength]; exact Nat.lt_succ_of_lt hlt, hid⟩

theorem numbered_step {action : SessionAction} (hnumbered : session.Numbered)
    (hanswers : OnlyAnswers action) (h : session.step registry action = some next) :
    next.Numbered := by
  cases stepped_of_step h with
  | call request unitId => exact numbered_call hnumbered request unitId
  | receive hcall h =>
      obtain ⟨-, stream, progress, rfl⟩ := setProgress_of_receive h
      exact numbered_setProgress hnumbered stream _ progress
  | timeout hcall h =>
      obtain ⟨-, stream, progress, rfl⟩ := setProgress_of_timeout h
      exact numbered_setProgress hnumbered stream _ progress
  | @answer index unanswered call frame hunanswered hcall hecho hfits =>
      refine ⟨hnumbered.counter, hnumbered.calls, ?_, ?_⟩
      · exact fun other hmem =>
          hnumbered.unanswered other (hunanswered ▸ List.mem_cons_of_mem index hmem)
      · refine List.forall_mem_append.mpr ⟨hnumbered.frames, List.forall_mem_singleton.mpr ?_⟩
        exact ⟨index, rfl, (List.getElem?_eq_some_iff.mp hcall).1,
          hecho.trans (hnumbered.calls index call hcall)⟩
  | @ignore index unanswered hunanswered =>
      refine ⟨hnumbered.counter, hnumbered.calls, ?_, hnumbered.frames⟩
      exact fun other hmem =>
        hnumbered.unanswered other (hunanswered ▸ List.mem_cons_of_mem index hmem)
  | intrude hfits => exact hanswers.elim
  | arrive count =>
      exact ⟨hnumbered.counter, hnumbered.calls, hnumbered.unanswered, hnumbered.frames⟩

theorem numbered_fresh (unitId : Int) : (fresh unitId).Numbered :=
  ⟨rfl, fun _ _ hcall => (nomatch hcall), fun _ hmem => absurd hmem List.not_mem_nil,
    fun _ hmem => absurd hmem List.not_mem_nil⟩

/-- Any 65535 consecutive calls have distinct ids. -/
theorem Numbered.nodup_window (h : session.Numbered) (start : Nat) :
    (((session.calls.map Call.transactionId).drop start).take 65535).Nodup := by
  have hid : ∀ offset id,
    (((session.calls.map Call.transactionId).drop start).take 65535)[offset]? =
      some id → offset < 65535 ∧ id = nthTransactionId (start + offset) := by
    intro offset id hoffset
    rw [List.getElem?_take, Option.ite_none_right_eq_some, List.getElem?_drop,
      List.getElem?_map] at hoffset
    obtain ⟨call, hcall, rfl⟩ := Option.map_eq_some_iff.mp hoffset.2
    exact ⟨hoffset.1, h.calls _ call hcall⟩
  rw [List.nodup_iff_getElem?_ne_getElem?]
  intro first second hlt hsecond heq
  obtain ⟨hbound, hsecondId⟩ := hid second _ (List.getElem?_eq_getElem hsecond)
  obtain ⟨-, hfirstId⟩ := hid first _ (heq.trans (List.getElem?_eq_getElem hsecond))
  have hsame := eq_of_nthTransactionId_eq (by omega) (by omega) (hfirstId.symm.trans hsecondId)
  omega

/-- A header is read fewer than 65535 calls after the call its frame answers. -/
def AnswersInTime (session : Session) : SessionAction → Prop
  | .receive index => ∀ call ∈ session.calls[index]?, call.progress = .awaitingHeader →
      ∀ entry ∈ session.unread.head?, ∀ answered ∈ entry.1, index < answered + 65535
  | _ => True

structure InTime (session : Session) (action : SessionAction) : Prop where
  sequential : session.Sequential action
  bodyFollows : session.BodyFollows action
  onlyAnswers : OnlyAnswers action
  answersInTime : session.AnswersInTime action

instance : DecidablePred OnlyAnswers
  | .intrude _ => .isFalse id
  | .call _ _ => .isTrue trivial
  | .receive _ => .isTrue trivial
  | .timeout _ => .isTrue trivial
  | .answer _ => .isTrue trivial
  | .ignore => .isTrue trivial
  | .arrive _ => .isTrue trivial

instance (session : Session) : DecidablePred session.AnswersInTime
  | .receive index => inferInstanceAs (Decidable (∀ call ∈ session.calls[index]?,
      call.progress = .awaitingHeader → ∀ entry ∈ session.unread.head?, ∀ answered ∈ entry.1,
        index < answered + 65535))
  | .call _ _ => .isTrue trivial
  | .timeout _ => .isTrue trivial
  | .answer _ => .isTrue trivial
  | .ignore => .isTrue trivial
  | .intrude _ => .isTrue trivial
  | .arrive _ => .isTrue trivial

instance (session : Session) (action : SessionAction) : Decidable (session.InTime action) :=
  decidable_of_iff (session.Sequential action ∧ session.BodyFollows action ∧ OnlyAnswers action ∧
      session.AnswersInTime action)
    ⟨fun h => ⟨h.1, h.2.1, h.2.2.1, h.2.2.2⟩,
      fun h => ⟨h.sequential, h.bodyFollows, h.onlyAnswers, h.answersInTime⟩⟩

theorem mem_frames_of_mem_unread {entry : Option Nat × ModbusTCPFrame}
    (h : entry ∈ session.unread.head?) : entry ∈ session.frames := by
  have hsub : ∀ frames : List (Option Nat × ModbusTCPFrame),
      lastFrames session.pending.length frames <:+ frames := by
    intro frames
    induction frames with
    | nil => exact List.suffix_rfl
    | cons other frames ih =>
        rw [lastFrames]
        split
        · exact List.suffix_rfl
        · exact ih.trans (List.suffix_cons _ _)
  exact (hsub _).subset (List.mem_of_head? h)

/-- The call that reads a header is the last one made, and an answer in time with its id is its
own. -/
theorem reads_of_inTime {action : SessionAction} (hnumbered : session.Numbered)
    (hlast : session.LastOpen) (h : session.InTime action) : session.Reads Owned action := by
  cases action with
  | receive index =>
      intro call hcall hheader
      refine ⟨noneInBody_of_lastOpen hlast hcall hheader, ?_⟩
      intro entry hentry hid
      obtain ⟨answered, hanswered, hlt, hecho⟩ :=
        hnumbered.frames entry (mem_frames_of_mem_unread hentry)
      have hindex := index_of_not_over hlast hcall (Call.not_over_of_awaitingHeader hheader)
      have hlate := h.answersInTime call hcall hheader entry hentry answered hanswered
      have hsame : answered = index := by
        apply eq_of_nthTransactionId_eq (by omega) hlate
        rw [← hecho, hid, hnumbered.calls index call hcall]
      rw [hanswered, hsame]
  | timeout index => exact h.bodyFollows
  | _ => trivial

end Session

end ClearModbus
