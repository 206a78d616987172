import VehicleDetection.Base.Double
import VehicleDetection.Param.Json

/-!
# Integer parameters from JSON

* `Json.number?`       the exact number that a JSON number or truth value is;
* `truncInt_iff`       a finite double is an integer exactly when `std::trunc` gives it back;
* `jsonToInt_ok`       `json_to_int` returns that number where it is an integer of 64 bits;
* `integers_exact`     what this means for integers and for arrays of integers.
-/

set_option linter.unusedVariables false

namespace VD
open BStr Double

/-- the exact number; truth values are 0 and 1 -/
def Json.number? : Json → Option ℚ
  | .unsigned u => some (u.toNat : ℚ)
  | .integer i => some (i.toInt : ℚ)
  | .float d => if d.isFinite then some (exact d) else none
  | .bool b => some (if b then 1 else 0)
  | _ => none

/-! ## integers among the doubles -/

/-- the integer part of a finite double has at most 53 significant bits -/
theorem truncInt_natAbs (d : Float) :
    ∃ m k, (truncInt d).natAbs = m * 2 ^ k ∧ m < 2 ^ 53 ∧ k ≤ 971 := by
  have habs : (truncInt d).natAbs = (magnitude d).1 / (magnitude d).2 := by
    unfold truncInt
    dsimp only
    split
    · rw [Int.natAbs_neg, Int.natAbs_natCast]
    · rw [Int.natAbs_natCast]
  rw [habs]
  unfold magnitude
  split
  · rename_i s m e hm hx
    obtain ⟨hm', -, hmax, -⟩ := canon_of_unpack hx
    have h971 : Binary.maxExponent Float.Model.Format.binary64 = 971 := rfl
    by_cases he : 0 ≤ e
    · refine ⟨m, e.toNat, ?_, hm', by omega⟩
      rw [show (-e).toNat = 0 by omega, Nat.pow_zero, Nat.div_one]
    · refine ⟨m / 2 ^ (-e).toNat, 0, ?_, (Nat.div_le_self _ _).trans_lt hm', Nat.zero_le _⟩
      rw [show e.toNat = 0 by omega, Nat.pow_zero, Nat.mul_one, Nat.mul_one]
  · exact ⟨0, 0, by norm_num, by norm_num, by norm_num⟩

theorem value_trunc (d : Float) : value (trunc d) = some ((truncInt d : ℝ) : EReal) := by
  obtain ⟨m, k, h, hm, hk⟩ := truncInt_natAbs d
  exact value_ofInt h hm hk

/-- an integer is its own integer part -/
theorem truncInt_of_exact {d : Float} {n : Int} (h : exact d = n) : truncInt d = n := by
  have hq := magnitude_pos d
  have hq' : ((magnitude d).2 : ℚ) ≠ 0 := by exact_mod_cast hq.ne'
  have key : ∀ z : Int, ((magnitude d).1 : ℚ) / (magnitude d).2 = z →
      (((magnitude d).1 / (magnitude d).2 : Nat) : Int) = z := by
    intro z hz
    rw [div_eq_iff hq'] at hz
    have hz' : ((magnitude d).1 : Int) = z * (magnitude d).2 := by exact_mod_cast hz
    rw [Int.natCast_ediv, hz', Int.mul_ediv_cancel _ (by exact_mod_cast hq.ne')]
  unfold exact signed at h
  unfold truncInt
  dsimp only
  cases hs : isNegative d with
  | true =>
    rw [hs, if_pos rfl] at h
    rw [if_pos rfl, key (-n) (by push_cast; linarith), neg_neg]
  | false =>
    rw [hs, if_neg nofun] at h
    rw [if_neg nofun, key n h]

/-- `std::trunc` gives back a finite double exactly when it is an integer. -/
theorem trunc_iff {d : Float} (hd : d.isFinite = true) :
    (trunc d != d) = false ↔ exact d = truncInt d := by
  show (!(trunc d == d)) = false ↔ _
  rw [Bool.not_eq_false', beq_iff, value_trunc, value_exact hd]
  simp only [Option.mem_some_iff, exists_eq_left', EReal.coe_eq_coe_iff]
  norm_cast
  exact eq_comm

/-- the exclusive upper bound of `json_to_int`; the lower one is its negation -/
theorem value_upper : value 9223372036854775808.0 = some ((2 ^ 63 : ℝ) : EReal) := by
  have h : (9223372036854775808.0 : Float) = Float.ofNat (1 * 2 ^ 63) := by decide +kernel
  rw [h, value_ofNat (by norm_num) (by norm_num), ← EReal.coe_natCast]
  norm_num

theorem value_min : value (-9223372036854775808.0) = some ((-2 ^ 63 : ℝ) : EReal) := by
  rw [value_neg, value_upper]
  rfl

theorem lt_lowest_iff {d : Float} (hd : d.isFinite = true) :
    d < -9223372036854775808.0 ↔ exact d < -2 ^ 63 := by
  rw [reads, value_min, value_exact hd]
  simp only [Option.mem_some_iff, exists_eq_left', EReal.coe_lt_coe_iff]
  norm_cast

theorem ge_upper_iff {d : Float} (hd : d.isFinite = true) :
    d ≥ 9223372036854775808.0 ↔ 2 ^ 63 ≤ exact d := by
  rw [ge_iff_le, le_iff, value_upper, value_exact hd]
  simp only [Option.mem_some_iff, exists_eq_left', EReal.coe_le_coe_iff]
  norm_cast

/-! ## one value -/

section
variable {dump : Json → Bytes}

/-- the range check, on an integer -/
theorem range_iff {d : Float} (hd : d.isFinite = true) {n : Int} (h : exact d = n) :
    (d < -9223372036854775808.0 ∨ d ≥ 9223372036854775808.0) ↔ ¬ (-2 ^ 63 ≤ n ∧ n < 2 ^ 63) := by
  rw [lt_lowest_iff hd, ge_upper_iff hd, h, not_and_or, not_le, not_lt]
  norm_cast

theorem toInt_range (i : Int64) : -2 ^ 63 ≤ i.toInt ∧ i.toInt < 2 ^ 63 :=
  ⟨i.le_toInt, i.toInt_lt⟩

theorem ofInt_toInt_iff {n : Int} (h : -2 ^ 63 ≤ n ∧ n < 2 ^ 63) {i : Int64} :
    Int64.ofInt n = i ↔ n = i.toInt := by
  constructor
  · rintro rfl
    exact (Int64.toInt_ofInt_of_le h.1 h.2).symm
  · rintro rfl
    exact Int64.ofInt_toInt i

theorem jsonToInt_float {d : Float} {i : Int64} :
    jsonToInt dump (.float d) = .ok i ↔ d.isFinite = true ∧ exact d = i.toInt := by
  unfold jsonToInt
  dsimp only
  by_cases hd : d.isFinite = true
  · by_cases ht : (trunc d != d) = false
    · have hexact := (trunc_iff hd).mp ht
      rw [if_neg (by simp [hd, ht])]
      by_cases hr : -2 ^ 63 ≤ truncInt d ∧ truncInt d < 2 ^ 63
      · rw [if_neg (not_not.mpr hr ∘ (range_iff hd hexact).mp), Except.ok.injEq, ofInt_toInt_iff hr, hexact,
          Int.cast_inj]
        exact (and_iff_right hd).symm
      · rw [if_pos ((range_iff hd hexact).mpr hr)]
        refine iff_of_false nofun fun ⟨_, h⟩ => hr ?_
        rw [truncInt_of_exact h]
        exact toInt_range i
    · rw [if_pos (Or.inr (by simpa using ht))]
      refine iff_of_false nofun fun ⟨_, h⟩ => ht ((trunc_iff hd).mpr ?_)
      rw [truncInt_of_exact h, h]
  · rw [if_pos (Or.inl hd)]
    exact iff_of_false nofun fun h => hd h.1

theorem jsonToInt_unsigned {u : UInt64} {i : Int64} :
    jsonToInt dump (.unsigned u) = .ok i ↔ (u.toNat : Int) = i.toInt := by
  have hmax : Int64.maxValue.toUInt64.toNat = 2 ^ 63 - 1 := by decide
  have hlt := u.toNat_lt
  unfold jsonToInt
  dsimp only
  by_cases hu : u > Int64.maxValue.toUInt64
  · rw [if_pos hu]
    refine iff_of_false nofun fun h => ?_
    have hi := i.toInt_lt
    rw [gt_iff_lt, UInt64.lt_iff_toNat_lt, hmax] at hu
    omega
  · rw [if_neg hu, Except.ok.injEq, ← Int64.toInt_inj]
    rw [gt_iff_lt, UInt64.lt_iff_toNat_lt, hmax] at hu
    rw [toInt64_toInt, Int.bmod_eq_of_le (by omega) (by omega)]

/-- `json_to_int` returns the exact number where it is an integer of 64 bits. -/
theorem jsonToInt_ok {v : Json} {i : Int64} :
    jsonToInt dump v = .ok i ↔ v.number? = some (i.toInt : ℚ) := by
  cases v with
  | unsigned u =>
    rw [jsonToInt_unsigned, Json.number?, Option.some.injEq]
    norm_cast
  | integer j =>
    rw [jsonToInt, Json.number?, Except.ok.injEq, Option.some.injEq, Int.cast_inj, Int64.toInt_inj]
  | float d =>
    rw [jsonToInt_float, Json.number?]
    by_cases hd : d.isFinite = true
    · rw [if_pos hd, and_iff_right hd, Option.some.injEq]
    · rw [if_neg hd]
      exact iff_of_false (fun h => hd h.1) fun h => by cases h
  | bool b =>
    rw [jsonToInt, Json.number?, Except.ok.injEq, Option.some.injEq, ← Int64.toInt_inj]
    cases b <;> norm_cast
  | null => exact iff_of_false (fun h => by cases h) fun h => by cases h
  | string s => exact iff_of_false (fun h => by cases h) fun h => by cases h
  | array elems => exact iff_of_false (fun h => by cases h) fun h => by cases h
  | object members => exact iff_of_false (fun h => by cases h) fun h => by cases h

/-- in every other case it throws -/
theorem jsonToInt_error (v : Json) :
    (∃ i, jsonToInt dump v = .ok i) ∨ jsonToInt dump v = .error (conversionError dump v "integer") := by
  cases v with
  | unsigned u =>
    unfold jsonToInt
    dsimp only
    split
    · exact Or.inr rfl
    · exact Or.inl ⟨_, rfl⟩
  | integer j => exact Or.inl ⟨j, rfl⟩
  | float d =>
    unfold jsonToInt
    dsimp only
    split
    · exact Or.inr rfl
    · split
      · exact Or.inr rfl
      · exact Or.inl ⟨_, rfl⟩
  | bool b => exact Or.inl ⟨_, rfl⟩
  | null => exact Or.inr rfl
  | string s => exact Or.inr rfl
  | array elems => exact Or.inr rfl
  | object members => exact Or.inr rfl

/-! ## parameters -/

/-- the integer of 64 bits that a JSON value is exactly -/
def Json.IsInteger (v : Json) (n : Int) : Prop := v.number? = some (n : ℚ) ∧ -2 ^ 63 ≤ n ∧ n < 2 ^ 63

theorem isInteger_toInt {v : Json} {i : Int64} : v.IsInteger i.toInt ↔ jsonToInt dump v = .ok i := by
  rw [jsonToInt_ok]
  exact and_iff_left (toInt_range i)

theorem exists_toInt {n : Int} (h : -2 ^ 63 ≤ n ∧ n < 2 ^ 63) : ∃ i : Int64, i.toInt = n :=
  ⟨Int64.ofInt n, Int64.toInt_ofInt_of_le h.1 h.2⟩

/-- what is no integer throws, and the text names it -/
theorem jsonToInt_rejects {v : Json} (h : ¬ ∃ n, v.IsInteger n) :
    jsonToInt dump v = .error (conversionError dump v "integer") := by
  apply (jsonToInt_error v).resolve_left
  rintro ⟨i, hi⟩
  exact h ⟨_, isInteger_toInt.mpr hi⟩

theorem toInteger_eq (v : Json) :
    jsonToParameterValue dump v ParameterType.integer.code = (jsonToInt dump v).map .integer := rfl

theorem toIntegerArray_eq (elems : List Json) :
    jsonToParameterValue dump (.array elems) ParameterType.integerArray.code =
      (elems.mapM (jsonToInt dump)).map .integerArray := rfl

/-- an array is converted element by element -/
theorem toIntegerArray_ok {elems : List Json} {a : List Int64} :
    jsonToParameterValue dump (.array elems) ParameterType.integerArray.code = .ok (.integerArray a) ↔
      List.Forall₂ (fun v i => v.IsInteger i.toInt) elems a := by
  simp only [toIntegerArray_eq, map_ok, mapM_ok, ParameterValue.integerArray.injEq, exists_eq_right,
    ← isInteger_toInt]

/-- one element that is no integer, and the whole array throws -/
theorem toIntegerArray_rejects {elems : List Json} (h : ∃ v ∈ elems, ¬ ∃ n, v.IsInteger n) :
    ∃ v ∈ elems, (¬ ∃ n, v.IsInteger n) ∧
      jsonToParameterValue dump (.array elems) ParameterType.integerArray.code =
        .error (conversionError dump v "integer") := by
  rw [toIntegerArray_eq]
  cases hm : elems.mapM (jsonToInt dump) with
  | error e =>
    obtain ⟨v, hv, he⟩ := mapM_error hm
    rcases @jsonToInt_error dump v with ⟨i, hi⟩ | hr
    · rw [hi] at he
      cases he
    · refine ⟨v, hv, ?_, ?_⟩
      · rintro ⟨n, hn⟩
        obtain ⟨i, rfl⟩ := exists_toInt hn.2
        rw [isInteger_toInt.mp hn] at he
        cases he
      · rw [hr] at he
        cases he
        rfl
  | ok a =>
    exfalso
    obtain ⟨v, hv, hn⟩ := h
    obtain ⟨i, hi⟩ := mapM_ok_mem hm v hv
    exact hn ⟨_, isInteger_toInt.mpr hi⟩

/-- **Integers.**  A JSON value converted to an integer gives `n` exactly when its exact value is `n`
and `n` has 64 bits, and throws in every other case; an array gives the integers of its elements, and
throws as soon as one of them does, or when there is no array. -/
theorem integers_exact (v : Json) :
    (∀ n : Int, (∃ i : Int64, i.toInt = n ∧
        jsonToParameterValue dump v ParameterType.integer.code = .ok (.integer i)) ↔ v.IsInteger n) ∧
    ((¬ ∃ n, v.IsInteger n) → jsonToParameterValue dump v ParameterType.integer.code =
        .error (conversionError dump v "integer")) ∧
    (∀ a, jsonToParameterValue dump v ParameterType.integerArray.code = .ok (.integerArray a) ↔
        ∃ elems, v = .array elems ∧ List.Forall₂ (fun e i => e.IsInteger i.toInt) elems a) ∧
    ((¬ ∃ elems, v = .array elems) → jsonToParameterValue dump v ParameterType.integerArray.code =
        .error (conversionError dump v "integer_array")) ∧
    (∀ elems, v = .array elems → (∃ e ∈ elems, ¬ ∃ n, e.IsInteger n) →
      ∃ e ∈ elems, (¬ ∃ n, e.IsInteger n) ∧
        jsonToParameterValue dump v ParameterType.integerArray.code =
          .error (conversionError dump e "integer")) := by
  have hother : (¬ ∃ elems, v = .array elems) →
      jsonToParameterValue dump v ParameterType.integerArray.code =
        .error (conversionError dump v "integer_array") := by
    intro h
    cases v with
    | array elems => exact absurd ⟨elems, rfl⟩ h
    | _ => rfl
  refine ⟨fun n => ?_, fun h => ?_, fun a => ?_, hother, ?_⟩
  · simp only [toInteger_eq, map_ok, ParameterValue.integer.injEq, exists_eq_right, ← isInteger_toInt]
    constructor
    · rintro ⟨i, rfl, hi⟩
      exact hi
    · intro hn
      obtain ⟨i, rfl⟩ := exists_toInt hn.2
      exact ⟨i, rfl, hn⟩
  · rw [toInteger_eq, jsonToInt_rejects h]
    rfl
  · by_cases hv : ∃ elems, v = .array elems
    · obtain ⟨elems, rfl⟩ := hv
      rw [toIntegerArray_ok]
      constructor
      · exact fun h => ⟨elems, rfl, h⟩
      · rintro ⟨elems', h, ha⟩
        cases h
        exact ha
    · rw [hother hv]
      exact iff_of_false nofun fun ⟨elems, h, _⟩ => hv ⟨elems, h⟩
  · rintro elems rfl h
    exact toIntegerArray_rejects h

end

end VD
