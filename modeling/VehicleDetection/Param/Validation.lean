import VehicleDetection.Base.Ieee
import VehicleDetection.Base.Decimal

/-!
# `parameter_validation.cpp`

The validators and their reasons.  Each `validate_*` is false exactly where the comparison that
guards its message is true; for doubles this is the IEEE comparison, so `validatePositiveDouble`
fails on NaN.
-/

set_option linter.unusedVariables false

namespace VD
open BStr

structure ValidationResult where
  ok : Bool
  reason : Bytes
deriving DecidableEq

def ValidationResult.success : ValidationResult := ⟨true, []⟩
def ValidationResult.failure (reason : Bytes) : ValidationResult := ⟨false, reason⟩

def validateNonEmptyString (name : String) (value : Bytes) : ValidationResult :=
  if value.isEmpty then .failure (lit "parameter '" ++ lit name ++ lit "' must not be empty")
  else .success

def validatePositiveDouble (name : String) (value : Float) : ValidationResult :=
  if ¬ value > 0.0 then
    .failure (lit "parameter '" ++ lit name ++ lit "' must be > 0.0 (got " ++ ostream value ++ lit ")")
  else .success

def validateIntMin (name : String) (value minInclusive : Int64) : ValidationResult :=
  if value < minInclusive then
    .failure (lit "parameter '" ++ lit name ++ lit "' must be >= " ++ decimalInt minInclusive.toInt ++
      lit " (got " ++ decimalInt value.toInt ++ lit ")")
  else .success

theorem validateNonEmptyString_ok {name : String} {value : Bytes} :
    (validateNonEmptyString name value).ok = true ↔ value ≠ [] := by
  unfold validateNonEmptyString
  cases value with
  | nil => simp [ValidationResult.failure]
  | cons x value => simp [ValidationResult.success]

theorem validatePositiveDouble_ok {name : String} {value : Float} :
    (validatePositiveDouble name value).ok = true ↔ value > 0.0 := by
  unfold validatePositiveDouble
  by_cases h : value > 0.0 <;> simp [h, ValidationResult.failure, ValidationResult.success]

theorem validateIntMin_ok {name : String} {value minInclusive : Int64} :
    (validateIntMin name value minInclusive).ok = true ↔ minInclusive ≤ value := by
  unfold validateIntMin
  by_cases h : value < minInclusive
  · simp [h, ValidationResult.failure]
  · simp only [if_neg h, ValidationResult.success, true_iff]
    exact Int64.not_lt.mp h

/-- the loop over an initialiser list of results: the first failure gives the reason -/
def firstFailure (checks : List ValidationResult) : Except Bytes Unit :=
  match checks.find? fun r => !r.ok with
  | some r => .error r.reason
  | none => .ok ()

theorem firstFailure_ok (checks : List ValidationResult) :
    firstFailure checks = .ok () ↔ ∀ r ∈ checks, r.ok = true := by
  unfold firstFailure
  cases hf : checks.find? fun r => !r.ok with
  | some r =>
    refine iff_of_false (fun h => by cases h) fun h => ?_
    have hr := List.find?_some hf
    rw [h r (List.mem_of_find?_eq_some hf)] at hr
    cases hr
  | none => simpa [List.find?_eq_none] using hf

end VD
