import Mathlib

/-!
# Machines with outputs

A machine takes one input at a time, changes its state and gives an output.

* `after`, `outputs`  the state and the outputs of a run;
* `after_inv`         what every step keeps holds after every run;
* `outputs_eq`        two runs that correspond step by step have the same outputs;
* `outputs_get`       one output, from the state after the inputs before it.
-/

set_option linter.unusedVariables false

namespace Machine
variable {S I O : Type*} (step : S → I → S × O)

def after (s : S) (inputs : List I) : S := inputs.foldl (fun s i => (step s i).1) s

def outputs (s : S) : List I → List O
  | [] => []
  | i :: inputs => (step s i).2 :: outputs (step s i).1 inputs

variable {step}

theorem after_inv {P : S → Prop} (hstep : ∀ s i, P s → P (step s i).1) {s : S} (h : P s)
    (inputs : List I) : P (after step s inputs) := by
  induction inputs generalizing s with
  | nil => exact h
  | cons i inputs ih => exact ih (hstep s i h)

/-- `R` ties the states and `A` the inputs of two runs. -/
theorem outputs_eq {R : S → S → Prop} {A : I → I → Prop}
    (hstep : ∀ s t i j, R s t → A i j → R (step s i).1 (step t j).1 ∧ (step s i).2 = (step t j).2)
    {s t : S} {inputs inputs' : List I} (h : R s t) (ha : List.Forall₂ A inputs inputs') :
    outputs step s inputs = outputs step t inputs' := by
  induction ha generalizing s t with
  | nil => rfl
  | @cons i j inputs inputs' hij ha ih =>
    obtain ⟨hr, ho⟩ := hstep s t i j h hij
    rw [outputs, outputs, ho, ih hr]

theorem after_concat (s : S) (inputs : List I) (i : I) :
    after step s (inputs ++ [i]) = (step (after step s inputs) i).1 := by
  rw [after, List.foldl_concat]
  rfl

theorem outputs_length (s : S) (inputs : List I) : (outputs step s inputs).length = inputs.length := by
  induction inputs generalizing s with
  | nil => rfl
  | cons i inputs ih => exact congrArg (· + 1) (ih _)

theorem outputs_get (s : S) (inputs : List I) (k : Nat) :
    (outputs step s inputs)[k]? = inputs[k]?.map fun i => (step (after step s (inputs.take k)) i).2 := by
  induction inputs generalizing s k with
  | nil => rfl
  | cons i inputs ih =>
    cases k with
    | zero => rfl
    | succ k => exact ih (step s i).1 k

end Machine
