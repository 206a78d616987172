import Mathlib

/-!
# IEEE comparisons

`double` is Lean's `Float`, whose comparisons are defined on the unpacked number.  Here is the
one thing the validators of the nodes rest on: two numbers that are not NaN are ordered
(`lt_of_not_ge`), and every comparison with NaN is false (`not_lt_of_isNaN`).
-/

namespace Ieee
open Float.Model

theorem lt_iff (a b : Float) :
    a < b ↔ a.toModel.unpack.compare b.toModel.unpack = some .lt := by
  show decide (a.toModel < b.toModel) = true ↔ _
  rw [decide_eq_true_iff]
  show (a.toModel.unpack.compare b.toModel.unpack == some .lt) = true ↔ _
  rw [beq_iff_eq]

theorem le_iff (a b : Float) :
    a ≤ b ↔ ∃ o, a.toModel.unpack.compare b.toModel.unpack = some o ∧ o.isLE = true := by
  show decide (a.toModel ≤ b.toModel) = true ↔ _
  rw [decide_eq_true_iff]
  show (a.toModel.unpack.compare b.toModel.unpack).any (·.isLE) = true ↔ _
  cases a.toModel.unpack.compare b.toModel.unpack with
  | none => simp
  | some o => simp

private theorem then_swap (m₁ m₂ : Nat) (e₁ e₂ : Int) :
    (compare e₂ e₁).then (compare m₂ m₁) = ((compare e₁ e₂).then (compare m₁ m₂)).swap := by
  rw [Ordering.swap_then, ← Std.OrientedCmp.eq_swap, ← Std.OrientedCmp.eq_swap]

/-- the two directions of a comparison mirror each other -/
theorem compare_swap (x y : UnpackedFloat) : y.compare x = (x.compare y).map Ordering.swap := by
  cases x with
  | notANumber => cases y with
    | infinity t => cases t <;> rfl
    | finite t => cases t <;> rfl
    | _ => rfl
  | infinity s => cases y with
    | infinity t => cases s <;> cases t <;> rfl
    | finite t => cases s <;> cases t <;> rfl
    | _ => cases s <;> rfl
  | zero s => cases y with
    | infinity t => cases t <;> rfl
    | finite t => cases t <;> rfl
    | _ => rfl
  | finite s m₁ e₁ => cases y with
    | infinity t => cases s <;> cases t <;> rfl
    | finite t m₂ e₂ =>
      cases s <;> cases t
      · exact congrArg some (congrArg Ordering.swap (then_swap m₁ m₂ e₁ e₂))
      · rfl
      · rfl
      · exact congrArg some (then_swap m₁ m₂ e₁ e₂)
    | _ => cases s <;> rfl

theorem compare_none {x y : UnpackedFloat} (h : x.compare y = none) :
    x.isNaN = true ∨ y.isNaN = true := by
  cases x with
  | notANumber => exact Or.inl rfl
  | infinity s => cases y with
    | notANumber => exact Or.inr rfl
    | infinity t => cases h
    | _ => cases s <;> cases h
  | zero s => cases y with
    | notANumber => exact Or.inr rfl
    | zero t => cases h
    | infinity t => cases t <;> cases h
    | finite t => cases t <;> cases h
  | finite s => cases y with
    | notANumber => exact Or.inr rfl
    | zero t => cases s <;> cases h
    | infinity t => cases s <;> cases t <;> cases h
    | finite t => cases s <;> cases t <;> cases h

theorem compare_nan {x y : UnpackedFloat} (h : x.isNaN = true ∨ y.isNaN = true) :
    x.compare y = none := by
  have hx : ∀ z : UnpackedFloat, z.isNaN = true → z = .notANumber := by
    intro z hz
    cases z <;> first | rfl | cases hz
  rcases h with h | h
  · rw [hx x h]; cases y <;> rfl
  · rw [hx y h]
    cases x with
    | infinity s => cases s <;> rfl
    | finite s => cases s <;> rfl
    | _ => rfl

/-- two numbers, neither of them NaN, are ordered -/
theorem lt_of_not_ge {a b : Float} (ha : a.isNaN = false) (hb : b.isNaN = false)
    (h : ¬ a ≥ b) : a < b := by
  rw [ge_iff_le, le_iff] at h
  rw [lt_iff, compare_swap]
  cases hc : b.toModel.unpack.compare a.toModel.unpack with
  | none =>
    rcases compare_none hc with e | e
    · exact absurd ((show b.isNaN = true from e).symm.trans hb) Bool.noConfusion
    · exact absurd ((show a.isNaN = true from e).symm.trans ha) Bool.noConfusion
  | some o =>
    cases o with
    | gt => rfl
    | lt => exact absurd ⟨_, hc, rfl⟩ h
    | eq => exact absurd ⟨_, hc, rfl⟩ h

theorem not_lt_of_isNaN {a b : Float} (h : a.isNaN = true ∨ b.isNaN = true) : ¬ a < b := by
  rw [lt_iff, compare_nan h]
  intro e
  cases e

theorem not_isNaN_of_lt {a b : Float} (h : a < b) : a.isNaN = false ∧ b.isNaN = false := by
  constructor
  · by_contra hn
    exact not_lt_of_isNaN (Or.inl (Bool.not_eq_false _ ▸ hn)) h
  · by_contra hn
    exact not_lt_of_isNaN (Or.inr (Bool.not_eq_false _ ▸ hn)) h

end Ieee
