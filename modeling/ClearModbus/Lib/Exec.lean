import Mathlib.Tactic

/-!
# Programs with state and exceptions

An exception leaves the state as it was when it was raised: nothing is rolled back. The rules below
run a program one bind at a time, forwards (`runOn_bind_ok`, `runOn_bind_error`) and backwards from
a normal result (`runOn_bind_eq_ok_iff`).
-/

abbrev Exec (ε σ : Type) := ExceptT ε (StateM σ)

namespace Exec

variable {ε σ α β : Type}

def runOn (program : Exec ε σ α) (state : σ) : Except ε α × σ :=
  StateT.run (ExceptT.run program) state

@[simp]
theorem runOn_pure (value : α) (state : σ) :
    runOn (pure value : Exec ε σ α) state = (.ok value, state) := rfl

@[simp]
theorem runOn_get (state : σ) : runOn (get : Exec ε σ σ) state = (.ok state, state) := rfl

@[simp]
theorem runOn_set (next state : σ) :
    runOn (set next : Exec ε σ PUnit) state = (.ok ⟨⟩, next) := rfl

@[simp]
theorem runOn_modify (update : σ → σ) (state : σ) :
    runOn (modify update : Exec ε σ PUnit) state = (.ok ⟨⟩, update state) := rfl

@[simp]
theorem runOn_liftM (result : Except ε α) (state : σ) :
    runOn (liftM result : Exec ε σ α) state = (result, state) := rfl

theorem runOn_bind (program : Exec ε σ α) (next : α → Exec ε σ β) (state : σ) :
    runOn (program >>= next) state =
      match runOn program state with
      | (.ok value, after) => runOn (next value) after
      | (.error error, after) => (.error error, after) := by
  unfold runOn ExceptT.run StateT.run
  simp only [bind, ExceptT.bind, ExceptT.mk, StateT.bind]
  rcases program state with ⟨_ | _, _⟩ <;> rfl

theorem runOn_bind_ok {program : Exec ε σ α} {next : α → Exec ε σ β} {state after : σ} {value : α}
    (h : runOn program state = (.ok value, after)) :
    runOn (program >>= next) state = runOn (next value) after := by
  rw [runOn_bind, h]

theorem runOn_bind_error {program : Exec ε σ α} {next : α → Exec ε σ β} {state after : σ}
    {error : ε} (h : runOn program state = (.error error, after)) :
    runOn (program >>= next) state = (.error error, after) := by
  rw [runOn_bind, h]

theorem runOn_bind_eq_ok_iff {program : Exec ε σ α} {next : α → Exec ε σ β} {state final : σ}
    {value : β} :
    runOn (program >>= next) state = (.ok value, final) ↔
      ∃ middle after, runOn program state = (.ok middle, after) ∧
        runOn (next middle) after = (.ok value, final) := by
  rw [runOn_bind]
  rcases runOn program state with ⟨_ | middle, after⟩ <;> simp

theorem runOn_tryCatch (program : Exec ε σ α) (handler : ε → Exec ε σ α) (state : σ) :
    runOn (tryCatch program handler) state =
      match runOn program state with
      | (.ok value, after) => (.ok value, after)
      | (.error error, after) => runOn (handler error) after := by
  unfold runOn ExceptT.run StateT.run
  change ExceptT.tryCatch program handler state = _
  simp only [ExceptT.tryCatch, ExceptT.mk, bind, StateT.bind]
  rcases program state with ⟨_ | _, _⟩ <;> rfl

/-- A program that does not touch the state commutes with the outcome: `Except` binds run alike. -/
theorem runOn_liftM_bind (result : Except ε α) (next : α → Exec ε σ β) (state : σ) :
    runOn (liftM result >>= next) state =
      match result with
      | .ok value => runOn (next value) state
      | .error error => (.error error, state) := by
  rw [runOn_bind, runOn_liftM]
  cases result <;> rfl

theorem runOn_liftM_bind_eq_ok_iff {result : Except ε α} {next : α → Exec ε σ β} {state final : σ}
    {value : β} :
    runOn (liftM result >>= next) state = (.ok value, final) ↔
      ∃ middle, result = .ok middle ∧ runOn (next middle) state = (.ok value, final) := by
  rw [runOn_liftM_bind]
  cases result <;> simp

theorem runOn_liftM_eq_ok_iff {result : Except ε α} {state final : σ} {value : α} :
    runOn (liftM result : Exec ε σ α) state = (.ok value, final) ↔
      result = .ok value ∧ state = final := by
  rw [runOn_liftM, Prod.mk.injEq]

/-- The outcome and the state of a replacement, which keeps the old state when there is no new
one. -/
def replaced (state : σ) : Except ε σ → Except ε PUnit × σ
  | .ok next => (.ok ⟨⟩, next)
  | .error error => (.error error, state)

theorem replaced_eq_ok_iff {state final : σ} {result : Except ε σ} :
    replaced state result = (.ok ⟨⟩, final) ↔ result = .ok final := by
  cases result <;> simp [replaced]

theorem replaced_invariant {p : σ → Prop} {state : σ} {result : Except ε σ} (hstate : p state)
    (hnext : ∀ next, result = .ok next → p next) : p (replaced state result).2 := by
  cases result with
  | ok next => exact hnext next rfl
  | error error => exact hstate

theorem runOn_get_set (compute : σ → Except ε α) (install : σ → α → σ) (state : σ) :
    runOn (do
      let current ← get
      let value ← compute current
      set (install current value) : Exec ε σ PUnit) state =
      replaced state (install state <$> compute state) := by
  rw [runOn_bind, runOn_get]
  dsimp only
  rw [runOn_liftM_bind]
  cases compute state with
  | ok value => rfl
  | error error => rfl

variable {τ : Type}

def onFst (program : Exec ε σ α) : Exec ε (σ × τ) α := fun state =>
  let (outcome, after) := runOn program state.1
  (outcome, (after, state.2))

def onSnd (program : Exec ε τ α) : Exec ε (σ × τ) α := fun state =>
  let (outcome, after) := runOn program state.2
  (outcome, (state.1, after))

section Simulation

variable {rel : σ → τ → Prop}

/-- From related states both programs have the same outcome and end in related states. -/
def Simulates (rel : σ → τ → Prop) (program : Exec ε σ α) (program' : Exec ε τ α) : Prop :=
  ∀ state state', rel state state' →
    (runOn program state).1 = (runOn program' state').1 ∧
      rel (runOn program state).2 (runOn program' state').2

theorem Simulates.pure (value : α) :
    Simulates rel (Pure.pure value : Exec ε σ α) (Pure.pure value) :=
  fun _ _ hrel => ⟨rfl, hrel⟩

theorem Simulates.liftM (result : Except ε α) :
    Simulates rel (MonadLiftT.monadLift result : Exec ε σ α) (MonadLiftT.monadLift result) :=
  fun _ _ hrel => ⟨rfl, hrel⟩

theorem Simulates.throw (error : ε) :
    Simulates rel (MonadExcept.throw error : Exec ε σ α) (MonadExcept.throw error) :=
  fun _ _ hrel => ⟨rfl, hrel⟩

theorem Simulates.bind {program : Exec ε σ α} {program' : Exec ε τ α} {next : α → Exec ε σ β}
    {next' : α → Exec ε τ β} (h : Simulates rel program program')
    (hnext : ∀ value, Simulates rel (next value) (next' value)) :
    Simulates rel (program >>= next) (program' >>= next') := by
  intro state state' hrel
  obtain ⟨houtcome, hafter⟩ := h state state' hrel
  rw [runOn_bind, runOn_bind]
  revert houtcome hafter
  rcases runOn program state with ⟨outcome, after⟩
  rcases runOn program' state' with ⟨outcome', after'⟩
  rintro rfl hafter
  cases outcome with
  | ok value => exact hnext value after after' hafter
  | error error => exact ⟨rfl, hafter⟩

theorem Simulates.tryCatch {program : Exec ε σ α} {program' : Exec ε τ α}
    {handler : ε → Exec ε σ α} {handler' : ε → Exec ε τ α} (h : Simulates rel program program')
    (hhandler : ∀ error, Simulates rel (handler error) (handler' error)) :
    Simulates rel (MonadExcept.tryCatch program handler)
    (MonadExcept.tryCatch program' handler') := by
  intro state state' hrel
  obtain ⟨houtcome, hafter⟩ := h state state' hrel
  rw [runOn_tryCatch, runOn_tryCatch]
  revert houtcome hafter
  rcases runOn program state with ⟨outcome, after⟩
  rcases runOn program' state' with ⟨outcome', after'⟩
  rintro rfl hafter
  cases outcome with
  | ok value => exact ⟨rfl, hafter⟩
  | error error => exact hhandler error after after' hafter

end Simulation

end Exec

namespace Except

variable {ε α β : Type}

theorem bind_eq_ok_iff {result : Except ε α} {next : α → Except ε β} {value : β} :
    (result >>= next) = .ok value ↔ ∃ middle, result = .ok middle ∧ next middle = .ok value := by
  cases result <;> simp [bind, Except.bind]

@[simp]
theorem ok_bind (value : α) (next : α → Except ε β) : (Except.ok value >>= next) = next value := rfl

theorem map_eq_ok_iff {f : α → β} {result : Except ε α} {value : β} :
    f <$> result = .ok value ↔ ∃ inner, result = .ok inner ∧ f inner = value := by
  cases result <;> simp

theorem ite_throw_eq_ok_iff {p : Prop} [Decidable p] {raised : ε} {result : Except ε α}
    {value : α} :
    (if p then throw raised else result) = .ok value ↔ ¬p ∧ result = .ok value := by
  by_cases hp : p
  · simp [hp, throw, throwThe, MonadExceptOf.throw]
  · simp [hp]

def RaisesOnly (p : ε → Prop) : Except ε α → Prop
  | .ok _ => True
  | .error raised => p raised

theorem raisesOnly_iff {p : ε → Prop} {result : Except ε α} :
    result.RaisesOnly p ↔ ∀ raised, result = .error raised → p raised := by
  cases result <;> simp [RaisesOnly]

theorem RaisesOnly.mono {p q : ε → Prop} {result : Except ε α} (h : result.RaisesOnly p)
    (himp : ∀ raised, p raised → q raised) : result.RaisesOnly q := by
  cases result with
  | ok value => exact trivial
  | error raised => exact himp raised h

theorem RaisesOnly.bind {p : ε → Prop} {result : Except ε α} {next : α → Except ε β}
    (h : result.RaisesOnly p) (hnext : ∀ value, (next value).RaisesOnly p) :
    (result >>= next).RaisesOnly p := by
  cases result with
  | ok value => exact hnext value
  | error raised => exact h

theorem RaisesOnly.map {p : ε → Prop} {result : Except ε α} (f : α → β)
    (h : result.RaisesOnly p) : (f <$> result).RaisesOnly p := by
  cases result with
  | ok value => exact trivial
  | error raised => exact h

theorem mapM_eq_ok {f : α → Except ε β} {g : α → β} {values : List α}
    (h : ∀ value ∈ values, f value = .ok (g value)) : values.mapM f = .ok (values.map g) := by
  induction values with
  | nil => rfl
  | cons value values ih =>
      rw [List.mapM_cons, h value List.mem_cons_self,
        ih fun other hother => h other (List.mem_cons_of_mem _ hother)]
      rfl

end Except
