import ClearModbus.Lib.Machine

/-!
# Linearizable histories

Callers of a shared object overlap: a call is invoked, takes effect, and returns later or never.
What the callers see is the history of invocations and responses. It is linearizable when the calls
that took effect have an order in which the object, one call at a time, gives every response, and in
which a call that had returned comes before every call invoked afterwards.

The rule is the one of commit points: a system that appends to the order when a call takes effect,
between its invocation and its response, has linearizable histories.
-/

namespace Linearizable

variable {κ σ ι ο : Type*}

inductive Event (κ ι ο : Type*) where
  | invoke (call : κ) (input : ι)
  | respond (call : κ) (output : ο)

def Committed (step : σ → ι → ο × σ) (start : σ) (order : List (κ × ι)) (call : κ) (input : ι)
    (output : ο) : Prop :=
  ∃ place : ℕ, order[place]? = some (call, input) ∧
    (Machine.run step start (order.map Prod.snd)).1[place]? = some output

/-- The order explains the history. -/
structure Linearization (step : σ → ι → ο × σ) (start : σ) (history : List (Event κ ι ο))
    (order : List (κ × ι)) : Prop where
  /-- No call takes effect twice. -/
  once : (order.map Prod.fst).Nodup
  /-- Only what was invoked takes effect. -/
  invoked : ∀ entry ∈ order, .invoke entry.1 entry.2 ∈ history
  responded : ∀ call output, .respond call output ∈ history →
    ∃ input, Committed step start order call input output
  realTime : ∀ first output second invoked taken,
    [Event.respond first output, .invoke second invoked].Sublist history → (second, taken) ∈ order →
      ∃ input, [(first, input), (second, taken)].Sublist order

variable {step : σ → ι → ο × σ} {start state : σ} {history : List (Event κ ι ο)}
  {order : List (κ × ι)} {call : κ} {input : ι} {output : ο}

/-- A history, the order in which calls took effect so far, and the state they left. -/
inductive Runs (step : σ → ι → ο × σ) (start : σ) :
    List (Event κ ι ο) → List (κ × ι) → σ → Prop where
  | nil : Runs step start [] [] start
  | invoke {history : List (Event κ ι ο)} {order : List (κ × ι)} {state : σ} (call : κ) (input : ι)
      (h : Runs step start history order state)
      (hfresh : ∀ other, Event.invoke call other ∉ history) :
      Runs step start (history ++ [.invoke call input]) order state
  | commit {history : List (Event κ ι ο)} {order : List (κ × ι)} {state : σ} {call : κ} {input : ι}
      (h : Runs step start history order state) (hinvoked : .invoke call input ∈ history)
      (hnew : call ∉ order.map Prod.fst) :
      Runs step start history (order ++ [(call, input)]) (step state input).2
  | respond {history : List (Event κ ι ο)} {order : List (κ × ι)} {state : σ} {call : κ} {input : ι}
      {output : ο} (h : Runs step start history order state)
      (hcommitted : Committed step start order call input output) :
      Runs step start (history ++ [.respond call output]) order state

theorem Committed.append (h : Committed step start order call input output)
    (later : List (κ × ι)) : Committed step start (order ++ later) call input output := by
  obtain ⟨place, hplace, houtput⟩ := h
  have hlength := (List.getElem?_eq_some_iff.mp hplace).1
  refine ⟨place, ?_, ?_⟩
  · rw [List.getElem?_append_left hlength, hplace]
  · rw [List.map_append, Machine.run_append]
    have hout : place < (Machine.run step start (order.map Prod.snd)).1.length :=
      (List.getElem?_eq_some_iff.mp houtput).1
    rw [List.getElem?_append_left hout, houtput]

theorem Committed.mem (h : Committed step start order call input output) :
    (call, input) ∈ order := by
  obtain ⟨place, hplace, -⟩ := h
  exact List.mem_of_getElem? hplace

theorem committed_append_singleton (call : κ) (input : ι)
    (hstate : state = (Machine.run step start (order.map Prod.snd)).2) :
    Committed step start (order ++ [(call, input)]) call input (step state input).1 := by
  refine ⟨order.length, List.getElem?_concat_length, ?_⟩
  rw [List.map_append, Machine.run_append, ← hstate]
  have hlength : order.length = (Machine.run step start (order.map Prod.snd)).1.length := by
    rw [Machine.length_run, List.length_map]
  rw [hlength]
  exact List.getElem?_concat_length

theorem sublist_append_singleton {β : Type*} {first second added : β} {log : List β}
    (h : [first, second].Sublist (log ++ [added])) :
    [first, second].Sublist log ∨ second = added := by
  obtain ⟨front, last, hsplit, hfront, hlast⟩ := List.sublist_append_iff.mp h
  rcases List.sublist_singleton.mp hlast with rfl | rfl
  · rw [List.append_nil] at hsplit
    exact .inl (hsplit ▸ hfront)
  · have hsingle : [first] ++ [second] = front ++ [added] := hsplit
    obtain ⟨-, hlast⟩ := List.append_inj' hsingle rfl
    exact .inr (List.singleton_inj.mp hlast)

theorem Runs.state_eq (h : Runs step start history order state) :
    state = (Machine.run step start (order.map Prod.snd)).2 := by
  induction h with
  | nil => rfl
  | invoke call input h hfresh ih => exact ih
  | commit h hinvoked hnew ih =>
      rw [List.map_append, Machine.run_append, ← ih]
      rfl
  | respond h hcommitted ih => exact ih

/-- **A system with commit points is linearizable.** -/
theorem Runs.linearization (h : Runs step start history order state) :
    Linearization step start history order := by
  induction h with
  | nil =>
      refine ⟨List.nodup_nil, ?_, ?_, ?_⟩
      · exact fun _ hmem => absurd hmem List.not_mem_nil
      · exact fun _ _ hmem => absurd hmem List.not_mem_nil
      · exact fun _ _ _ _ _ _ hmem => absurd hmem List.not_mem_nil
  | @invoke history order state call input h hfresh ih =>
      refine ⟨ih.once, ?_, ?_, ?_⟩
      · exact fun entry hmem => List.mem_append_left _ (ih.invoked entry hmem)
      · intro other output hmem
        rcases List.mem_append.mp hmem with hmem | hmem
        · exact ih.responded other output hmem
        · cases List.mem_singleton.mp hmem
      · intro first output second invoked taken hsub htaken
        rcases sublist_append_singleton hsub with hsub | hinvoke
        · exact ih.realTime first output second invoked taken hsub htaken
        · -- A call that is invoked only now has not taken effect.
          cases hinvoke
          exact absurd (ih.invoked _ htaken) (hfresh taken)
  | @commit history order state call input h hinvoked hnew ih =>
      refine ⟨?_, ?_, ?_, ?_⟩
      · rw [List.map_append]
        apply List.nodup_append.mpr
        refine ⟨ih.once, List.nodup_singleton _, ?_⟩
        intro other hother found hfound heq
        rw [List.map_singleton, List.mem_singleton] at hfound
        rw [heq, hfound] at hother
        exact hnew hother
      · intro entry hmem
        rcases List.mem_append.mp hmem with hmem | hmem
        · exact ih.invoked entry hmem
        · rw [List.mem_singleton.mp hmem]
          exact hinvoked
      · intro other output hmem
        obtain ⟨found, hfound⟩ := ih.responded other output hmem
        exact ⟨found, hfound.append _⟩
      · intro first output second invoked taken hsub htaken
        rcases List.mem_append.mp htaken with hmem | hmem
        · obtain ⟨found, hfound⟩ := ih.realTime first output second invoked taken hsub hmem
          exact ⟨found, hfound.trans (List.sublist_append_left _ _)⟩
        · have hresponse : .respond first output ∈ history := hsub.subset List.mem_cons_self
          obtain ⟨found, hfound⟩ := ih.responded first output hresponse
          rw [List.mem_singleton.mp hmem]
          exact ⟨found, (List.singleton_sublist.mpr hfound.mem).append (List.Sublist.refl _)⟩
  | @respond history order state call input output h hcommitted ih =>
      refine ⟨ih.once, ?_, ?_, ?_⟩
      · exact fun entry hmem => List.mem_append_left _ (ih.invoked entry hmem)
      · intro other found hmem
        rcases List.mem_append.mp hmem with hmem | hmem
        · exact ih.responded other found hmem
        · cases List.mem_singleton.mp hmem
          exact ⟨input, hcommitted⟩
      · intro first given second invoked taken hsub htaken
        rcases sublist_append_singleton hsub with hsub | hrespond
        · exact ih.realTime first given second invoked taken hsub htaken
        · cases hrespond

end Linearizable
