import ClearModbus.Lib.Exec

/-!
# Pre- and postconditions of programs

A triple has one postcondition for a program that returns and one for a program that raises. The
rules follow the program bind by bind; what a raised exception leaves is what was there when it was
raised.
-/

namespace Exec

variable {ε σ τ α β : Type}

def Meets (returns : α → σ → Prop) (raises : ε → σ → Prop) : Except ε α × σ → Prop
  | (.ok value, after) => returns value after
  | (.error error, after) => raises error after

def Triple (pre : σ → Prop) (program : Exec ε σ α) (returns : α → σ → Prop)
    (raises : ε → σ → Prop) : Prop :=
  ∀ state, pre state → Meets returns raises (runOn program state)

namespace Triple

variable {pre pre' : σ → Prop} {program : Exec ε σ α} {returns returns' : α → σ → Prop}
  {raises raises' : ε → σ → Prop}

theorem conseq (h : Triple pre' program returns' raises') (hpre : ∀ state, pre state → pre' state)
    (hreturns : ∀ value state, returns' value state → returns value state)
    (hraises : ∀ error state, raises' error state → raises error state) :
    Triple pre program returns raises := by
  intro state hstate
  have hmeets := h state (hpre state hstate)
  revert hmeets
  rcases runOn program state with ⟨_ | value, after⟩
  · exact hraises _ _
  · exact hreturns _ _

theorem pure {value : α} (h : ∀ state, pre state → returns value state) :
    Triple pre (Pure.pure value : Exec ε σ α) returns raises :=
  fun state hstate => h state hstate

theorem throw {error : ε} (h : ∀ state, pre state → raises error state) :
    Triple pre (MonadExcept.throw error : Exec ε σ α) returns raises :=
  fun state hstate => h state hstate

theorem set {next : σ} {returns : PUnit → σ → Prop} (h : ∀ state, pre state → returns ⟨⟩ next) :
    Triple pre (set next : Exec ε σ PUnit) returns raises :=
  fun state hstate => h state hstate

theorem liftM {result : Except ε α}
    (hreturns : ∀ value, result = .ok value → ∀ state, pre state → returns value state)
    (hraises : ∀ error, result = .error error → ∀ state, pre state → raises error state) :
    Triple pre (MonadLiftT.monadLift result : Exec ε σ α) returns raises := by
  intro state hstate
  change Meets returns raises (result, state)
  cases result with
  | ok value => exact hreturns value rfl state hstate
  | error error => exact hraises error rfl state hstate

theorem bind {next : α → Exec ε σ β} {final : β → σ → Prop}
    (h : Triple pre program returns raises)
    (hnext : ∀ value, Triple (returns value) (next value) final raises) :
    Triple pre (program >>= next) final raises := by
  intro state hstate
  have hmeets := h state hstate
  rw [runOn_bind]
  revert hmeets
  rcases runOn program state with ⟨error | value, after⟩
  · exact id
  · exact hnext value after

/-- A precondition can be assumed in the proof about the program. -/
theorem of_pre (h : ∀ state, pre state → Triple (· = state) program returns raises) :
    Triple pre program returns raises :=
  fun state hstate => h state hstate state rfl

section FirstStep

variable {final : β → σ → Prop}

theorem get_bind {next : σ → Exec ε σ β}
    (h : ∀ state, pre state → Triple (· = state) (next state) final raises) :
    Triple pre (get >>= next) final raises :=
  fun state hstate => h state hstate state rfl

theorem set_bind {updated : σ} {next : PUnit → Exec ε σ β}
    (h : ∀ state, pre state → Triple (· = updated) (next ⟨⟩) final raises) :
    Triple pre (MonadStateOf.set updated >>= next) final raises :=
  fun state hstate => h state hstate updated rfl

theorem modify_bind {update : σ → σ} {next : PUnit → Exec ε σ β}
    (h : ∀ state, pre state → Triple (· = update state) (next ⟨⟩) final raises) :
    Triple pre (modify update >>= next) final raises :=
  fun state hstate => h state hstate (update state) rfl

theorem liftM_bind {result : Except ε α} {next : α → Exec ε σ β}
    (hnext : ∀ value, result = .ok value → Triple pre (next value) final raises)
    (hraises : ∀ error, result = .error error → ∀ state, pre state → raises error state) :
    Triple pre (MonadLiftT.monadLift result >>= next) final raises := by
  intro state hstate
  rw [runOn_liftM_bind]
  cases result with
  | ok value => exact hnext value rfl state hstate
  | error error => exact hraises error rfl state hstate

end FirstStep

theorem onFst {pre : σ × τ → Prop} {returns : α → σ × τ → Prop} {raises : ε → σ × τ → Prop}
    (h : ∀ other, Triple (fun state => pre (state, other)) program
      (fun value state => returns value (state, other))
      fun error state => raises error (state, other)) :
    Triple pre (onFst program : Exec ε (σ × τ) α) returns raises := by
  rintro ⟨state, other⟩ hstate
  have hmeets := h other state hstate
  change Meets returns raises ((runOn program state).1, ((runOn program state).2, other))
  revert hmeets
  rcases runOn program state with ⟨_ | value, after⟩
  · exact id
  · exact id

end Triple

end Exec
