import Mathlib.Tactic

/-!
# Runs of guarded actions

A system takes one action after the other, and an action that is not enabled has no next state. Runs
are the ones whose actions all meet a guard, so that what holds under a condition is an invariant of
them.
-/

namespace Transition

variable {σ α : Type*} {step : σ → α → Option σ} {guard guard' : σ → α → Prop} {start : σ}

/-- The states of the runs from `start` all of whose actions meet the guard. -/
inductive Reaches (step : σ → α → Option σ) (guard : σ → α → Prop) (start : σ) : σ → Prop where
  | refl : Reaches step guard start start
  | tail {state next : σ} (action : α) (hreach : Reaches step guard start state)
      (hguard : guard state action) (hstep : step state action = some next) :
      Reaches step guard start next

theorem Reaches.trans {state final : σ} (h : Reaches step guard start state)
    (hrest : Reaches step guard state final) : Reaches step guard start final := by
  induction hrest with
  | refl => exact h
  | tail action _ hguard hnext ih => exact ih.tail action hguard hnext

/-- What one guarded action preserves holds in every state of the guarded runs. -/
theorem Reaches.invariant {p : σ → Prop} (hstart : p start)
    (hstep : ∀ state action next, p state → guard state action →
      step state action = some next → p next)
    {state : σ} (h : Reaches step guard start state) : p state := by
  induction h with
  | refl => exact hstart
  | tail action _ hguard hnext ih => exact hstep _ action _ ih hguard hnext

theorem Reaches.mono (hguard : ∀ state action, guard state action → guard' state action) {state : σ}
    (h : Reaches step guard start state) : Reaches step guard' start state := by
  induction h with
  | refl => exact .refl
  | tail action _ hmeets hnext ih => exact .tail action ih (hguard _ _ hmeets) hnext

/-- Runs that keep to a guard and to an invariant keep to what the two of them imply. -/
theorem Reaches.strengthen {p : σ → Prop} (hstart : p start)
    (hstep : ∀ state action next, p state → guard state action →
      step state action = some next → p next)
    (hguard : ∀ state action, p state → guard state action → guard' state action) {state : σ}
    (h : Reaches step guard start state) : Reaches step guard' start state := by
  induction h with
  | refl => exact .refl
  | tail action hreach hmeets hnext ih =>
      exact .tail action ih (hguard _ _ (hreach.invariant hstart hstep) hmeets) hnext

def run (step : σ → α → Option σ) (guard : σ → α → Prop)
    [∀ state action, Decidable (guard state action)] : σ → List α → Option σ
  | state, [] => some state
  | state, action :: actions =>
      if guard state action then (step state action).bind (run step guard · actions) else none

theorem run_cons [∀ state action, Decidable (guard state action)] {state next : σ} {action : α}
    (hguard : guard state action) (hstep : step state action = some next) (actions : List α) :
    run step guard state (action :: actions) = run step guard next actions := by
  rw [run, if_pos hguard, hstep, Option.bind_some]

theorem reaches_of_run [∀ state action, Decidable (guard state action)] {state final : σ}
    {actions : List α} (hreach : Reaches step guard start state)
    (hrun : run step guard state actions = some final) : Reaches step guard start final := by
  induction actions generalizing state with
  | nil =>
      cases hrun
      exact hreach
  | cons action actions ih =>
      rw [run] at hrun
      split at hrun
      · rename_i hguard
        obtain ⟨next, hstep, hrest⟩ := Option.bind_eq_some_iff.mp hrun
        exact ih (.tail action hreach hguard hstep) hrest
      · cases hrun

theorem getElem?_append_singleton {β : Type*} {log : List β} {added found : β} {index : Nat}
    (h : (log ++ [added])[index]? = some found) :
    log[index]? = some found ∨ index = log.length ∧ found = added := by
  rcases Nat.lt_trichotomy index log.length with hlt | rfl | hgt
  · rw [List.getElem?_append_left hlt] at h
    exact .inl h
  · rw [List.getElem?_concat_length] at h
    exact .inr ⟨rfl, (Option.some.inj h).symm⟩
  · rw [List.getElem?_eq_none (by rw [List.length_append]; exact hgt)] at h
    cases h

end Transition
