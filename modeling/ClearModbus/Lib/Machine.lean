import Mathlib.Tactic

/-!
# Runs of a deterministic machine

A machine answers every input with an output and a next state. Two machines whose steps answer alike
and keep a relation answer alike over whole runs.
-/

namespace Machine

variable {σ τ ι ο : Type*}

def run (step : σ → ι → ο × σ) : σ → List ι → List ο × σ
  | state, [] => ([], state)
  | state, input :: inputs =>
      let (output, next) := step state input
      let (outputs, final) := run step next inputs
      (output :: outputs, final)

theorem run_cons (step : σ → ι → ο × σ) (state : σ) (input : ι) (inputs : List ι) :
    run step state (input :: inputs) =
      ((step state input).1 :: (run step (step state input).2 inputs).1,
        (run step (step state input).2 inputs).2) := rfl

theorem run_append (step : σ → ι → ο × σ) (state : σ) (inputs later : List ι) :
    run step state (inputs ++ later) =
      ((run step state inputs).1 ++ (run step (run step state inputs).2 later).1,
        (run step (run step state inputs).2 later).2) := by
  induction inputs generalizing state with
  | nil => rfl
  | cons input inputs ih => rw [List.cons_append, run_cons, ih, run_cons, List.cons_append]

theorem length_run (step : σ → ι → ο × σ) (state : σ) (inputs : List ι) :
    (run step state inputs).1.length = inputs.length := by
  induction inputs generalizing state with
  | nil => rfl
  | cons input inputs ih => rw [run_cons, List.length_cons, ih, List.length_cons]

/-- A step-wise simulation with equal outputs is a simulation of whole runs. -/
theorem run_simulation {step : σ → ι → ο × σ} {step' : τ → ι → ο × τ} {rel : σ → τ → Prop}
    (hstep : ∀ left right input, rel left right →
      (step left input).1 = (step' right input).1 ∧
        rel (step left input).2 (step' right input).2)
    {left : σ} {right : τ} (hrel : rel left right) (inputs : List ι) :
    (run step left inputs).1 = (run step' right inputs).1 ∧
      rel (run step left inputs).2 (run step' right inputs).2 := by
  induction inputs generalizing left right with
  | nil => exact ⟨rfl, hrel⟩
  | cons input inputs ih =>
      obtain ⟨houtput, hnext⟩ := hstep left right input hrel
      obtain ⟨houtputs, hfinal⟩ := ih hnext
      rw [run_cons, run_cons]
      exact ⟨by rw [houtput, houtputs], hfinal⟩

end Machine
