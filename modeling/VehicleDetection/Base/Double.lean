import VehicleDetection.Base.Binary
import VehicleDetection.Base.Extrema
import VehicleDetection.Base.Ieee
import VehicleDetection.Base.Number

/-!
# The numbers that doubles are

`Float` is IEEE `binary64`, `Float32` is `binary32`.

* `value`, `value32`  the number that a float is (`none` for NaN);
* `reads`, `beq_iff`  `<` and `==` compare these numbers;
* `value_exact`       on finite doubles it is `exact`;
* `eq_of_exact`       which determines the double, but for the sign of a zero;
* `value_ofInt`       an integer of 53 bits, and its multiples by powers of two, become doubles exactly;
* `infinity`          the positive infinity;
* `widen`             the conversion from `float` to `double`, which changes no number;
* `narrow`            the conversion back, which rounds.
-/

set_option linter.unusedVariables false

namespace Double
open BStr Binary Float.Model Float.Model.UnpackedFloat

noncomputable def value (x : Float) : Option EReal := Binary.value x.toModel.unpack

noncomputable def value32 (x : Float32) : Option EReal := Binary.value x.toModel.unpack

theorem isCanon (x : Float) : IsCanon Format.binary64 x.toModel.unpack :=
  unpack_canon (by decide) _

theorem isCanon32 (x : Float32) : IsCanon Format.binary32 x.toModel.unpack :=
  unpack_canon (by decide) _

/-! ## comparison -/

theorem compare_value (a b : Float) :
    a.toModel.unpack.compare b.toModel.unpack = (value a).bind fun x => (value b).map fun y => cmp x y :=
  compare_eq (isCanon a) (isCanon b)

theorem compare_some {a b : Float} {o : Ordering} :
    a.toModel.unpack.compare b.toModel.unpack = some o ↔
      ∃ x ∈ value a, ∃ y ∈ value b, cmp x y = o := by
  rw [compare_value, Option.bind_eq_some_iff]
  simp only [Option.map_eq_some_iff]
  rfl

/-- `<` compares the numbers; it is false where one side is none. -/
theorem reads : Extrema.Reads value := by
  intro a b
  show decide (a.toModel < b.toModel) = true ↔ _
  rw [decide_eq_true_iff]
  show (a.toModel.unpack.compare b.toModel.unpack == some .lt) = true ↔ _
  rw [beq_iff_eq, compare_some]
  simp only [cmp_eq_lt_iff]

theorem reads32 : Extrema.Reads value32 := by
  intro a b
  show decide (a.toModel < b.toModel) = true ↔ _
  rw [decide_eq_true_iff]
  show (a.toModel.unpack.compare b.toModel.unpack == some .lt) = true ↔ _
  rw [beq_iff_eq, compare_eq (isCanon32 a) (isCanon32 b), Option.bind_eq_some_iff]
  simp only [Option.map_eq_some_iff, cmp_eq_lt_iff]
  rfl

theorem beq_iff {a b : Float} : (a == b) = true ↔ ∃ x ∈ value a, ∃ y ∈ value b, x = y := by
  show (a.toModel.unpack.compare b.toModel.unpack == some .eq) = true ↔ _
  rw [beq_iff_eq, compare_some]
  simp only [cmp_eq_eq_iff]

theorem le_iff {a b : Float} : a ≤ b ↔ ∃ x ∈ value a, ∃ y ∈ value b, x ≤ y := by
  rw [Ieee.le_iff]
  constructor
  · rintro ⟨o, ho, hle⟩
    obtain ⟨x, hx, y, hy, rfl⟩ := compare_some.mp ho
    refine ⟨x, hx, y, hy, not_lt.mp fun hlt => ?_⟩
    rw [(cmp_eq_gt_iff x y).mpr hlt] at hle
    cases hle
  · rintro ⟨x, hx, y, hy, hle⟩
    refine ⟨_, compare_some.mpr ⟨x, hx, y, hy, rfl⟩, ?_⟩
    rcases hle.lt_or_eq with h | rfl
    · rw [(cmp_eq_lt_iff x y).mpr h]
      rfl
    · rw [cmp_self_eq_eq]
      rfl

/-! ## finite doubles -/

theorem finiteValue_rat (s : Sign) (m : Nat) (e : Int) :
    finiteValue s m e = ((signed (s == .negative) ((m * 2 ^ e.toNat : Nat) / (2 ^ (-e).toNat : Nat)) : ℚ) : ℝ) := by
  have h : (2 : ℝ) ^ e = 2 ^ e.toNat / 2 ^ (-e).toNat := by
    rw [← zpow_natCast, ← zpow_natCast, ← zpow_sub₀ (by norm_num)]
    congr 1
    omega
  cases s with
  | negative =>
    rw [finiteValue_negative, h]
    show _ = ((-_ : ℚ) : ℝ)
    push_cast
    ring
  | positive =>
    rw [finiteValue_positive, h]
    show _ = (((m * 2 ^ e.toNat : Nat) / (2 ^ (-e).toNat : Nat) : ℚ) : ℝ)
    push_cast
    ring

/-- the parts of a finite double that is not zero -/
theorem canon_of_unpack {x : Float} {s : Sign} {m : Nat} {e : Int} {hm : 0 < m}
    (h : x.toModel.unpack = .finite s m e hm) : Canon Format.binary64 m e := by
  have hx := isCanon x
  rwa [h] at hx

theorem value_exact {x : Float} (h : x.isFinite = true) : value x = some ((exact x : ℝ) : EReal) := by
  have h' : x.toModel.unpack.isFinite = true := h
  unfold value exact isNegative magnitude
  cases hx : x.toModel.unpack with
  | notANumber =>
    rw [hx] at h'
    cases h'
  | infinity s =>
    rw [hx] at h'
    cases h'
  | zero s => simp [Binary.value, signed]
  | finite s m e hm =>
    rw [Binary.value, finiteValue_rat]

/-- a double whose value is a rational number -/
theorem exact_of_value {x : Float} {q : ℚ} (h : value x = some ((q : ℝ) : EReal)) :
    x.isFinite = true ∧ exact x = q := by
  have hfin : x.isFinite = true := by
    show x.toModel.unpack.isFinite = true
    unfold value at h
    cases hx : x.toModel.unpack with
    | notANumber =>
      rw [hx] at h
      cases h
    | infinity s =>
      rw [hx] at h
      cases s with
      | positive => exact absurd (Option.some.inj h).symm (EReal.coe_ne_top _)
      | negative => exact absurd (Option.some.inj h).symm (EReal.coe_ne_bot _)
    | zero s => rfl
    | finite s m e hm => rfl
  refine ⟨hfin, ?_⟩
  rw [value_exact hfin] at h
  exact_mod_cast EReal.coe_eq_coe_iff.mp (Option.some.inj h)

theorem toBits_inj {a b : Float} (h : a.toModel.toBits.toBitVec = b.toModel.toBits.toBitVec) : a = b := by
  obtain ⟨⟨x, hx⟩⟩ := a
  obtain ⟨⟨y, hy⟩⟩ := b
  obtain rfl : x = y := UInt64.toBitVec_inj.mp h
  rfl

/-- the two doubles that are zero -/
theorem zero_of_exact {a : Float} (ha : a.isFinite = true) (h : exact a = 0) : a = 0.0 ∨ a = -0.0 := by
  have hv := value_exact ha
  rw [h, Rat.cast_zero, EReal.coe_zero, value] at hv
  cases hu : a.toModel.unpack with
  | notANumber =>
    rw [hu] at hv
    cases hv
  | infinity s =>
    rw [hu] at hv
    cases s with
    | positive => exact absurd (Option.some.inj hv) EReal.top_ne_zero
    | negative => exact absurd (Option.some.inj hv) EReal.bot_ne_zero
  | zero s =>
    cases s with
    | positive => exact .inl (toBits_inj (eq_of_unpack_zero hu rfl))
    | negative => exact .inr (toBits_inj (eq_of_unpack_zero hu rfl))
  | finite s m e hm =>
    rw [hu] at hv
    have hzero : ((finiteValue s m e : ℝ) : EReal) = 0 := Option.some.inj hv
    cases s with
    | positive => exact absurd hzero (finiteValue_pos hm e).ne'
    | negative => exact absurd hzero (finiteValue_neg hm e).ne

/-- Finite doubles that are the same number are equal, or both are zero. -/
theorem eq_of_exact {a b : Float} (ha : a.isFinite = true) (hb : b.isFinite = true) (h : exact a = exact b) :
    a = b ∨ exact a = 0 := by
  have hva := value_exact ha
  have hvb := value_exact hb
  unfold value at hva hvb
  have hzero : ∀ q : ℚ, some (0 : EReal) = some ((q : ℝ) : EReal) → q = 0 := by
    intro q hq
    exact_mod_cast (EReal.coe_eq_zero.mp (Option.some.inj hq).symm)
  have hfinite : ∀ {x : Float}, x.isFinite = true → (∃ s, x.toModel.unpack = .zero s) ∨
      ∃ s m e hm, x.toModel.unpack = .finite s m e hm := by
    intro x hx
    have hx' : x.toModel.unpack.isFinite = true := hx
    cases hu : x.toModel.unpack with
    | notANumber =>
      rw [hu] at hx'
      cases hx'
    | infinity s =>
      rw [hu] at hx'
      cases hx'
    | zero s => exact .inl ⟨s, rfl⟩
    | finite s m e hm => exact .inr ⟨s, m, e, hm, rfl⟩
  rcases hfinite ha with ⟨s, hua⟩ | ⟨s₁, m₁, e₁, hm₁, hua⟩
  · rw [hua] at hva
    exact .inr (hzero _ hva)
  rcases hfinite hb with ⟨s, hub⟩ | ⟨s₂, m₂, e₂, hm₂, hub⟩
  · rw [hub] at hvb
    exact .inr (h.trans (hzero _ hvb))
  rw [hua] at hva
  rw [hub] at hvb
  have hreal : finiteValue s₁ m₁ e₁ = finiteValue s₂ m₂ e₂ := by
    have hva := EReal.coe_eq_coe_iff.mp (Option.some.inj hva)
    have hvb := EReal.coe_eq_coe_iff.mp (Option.some.inj hvb)
    rw [hva, hvb, h]
  obtain ⟨rfl, rfl, rfl⟩ := finiteValue_inj hm₁ hm₂ (canon_of_unpack hua) (canon_of_unpack hub) hreal
  exact .inl (toBits_inj (eq_of_unpack hua hub))

/-! ## integers -/

/-- the double that stores a canonical number -/
def store (x : UnpackedFloat) : Float := .ofModel (.pack x)

theorem unpack_store {x : UnpackedFloat} (h : IsCanon Format.binary64 x) :
    (store x).toModel.unpack = x :=
  unpack_pack h

theorem value_store {x : UnpackedFloat} (h : IsCanon Format.binary64 x) :
    value (store x) = Binary.value x :=
  congrArg Binary.value (unpack_store h)

theorem unpack_store_finite (s : Sign) {m : Nat} {e : Int} (hm : 0 < m)
    (h : Canon Format.binary64 m e) :
    (store (.finite s m e hm)).toModel.unpack = .finite s m e hm :=
  unpack_pack_finite s hm h

theorem value_store_finite (s : Sign) {m : Nat} {e : Int} (hm : 0 < m)
    (h : Canon Format.binary64 m e) :
    value (store (.finite s m e hm)) = some ((finiteValue s m e : ℝ) : EReal) :=
  congrArg Binary.value (unpack_store_finite s hm h)

theorem unpack_one : (Float.ofBits 0x3FF0000000000000).toModel.unpack =
    .finite .positive (2 ^ 52) (-(52 : Nat)) (by norm_num) := by
  rfl

theorem mul_one_eq {m : Nat} {e : Int} (hm : 0 < m) (h : Canon Format.binary64 m e) :
    store (.finite .positive m e hm) * Float.ofBits 0x3FF0000000000000 = store (.finite .positive m e hm) := by
  show store (UnpackedFloat.mul Format.binary64 (store (.finite .positive m e hm)).toModel.unpack
    (Float.ofBits 0x3FF0000000000000).toModel.unpack) = _
  rw [unpack_store_finite _ hm h, unpack_one]
  show store (roundWithAccuracy Format.binary64 .positive (m * 2 ^ 52) (e + -(52 : Nat)) .exact) = _
  rw [← sub_eq_add_neg, roundWithAccuracy_exact .positive hm h]

theorem toFloat_eq (n : Nat) (h : n < 2 ^ 64) :
    n.toUInt64.toFloat = store (UnpackedFloat.ofInt Format.binary64 n) := by
  have hn : n.toUInt64.toNat = n := by
    rw [Nat.toUInt64_eq, UInt64.toNat_ofNat', Nat.mod_eq_of_lt h]
  show store (UnpackedFloat.ofInt Format.binary64 (n.toUInt64.toNat : Nat)) = _
  rw [hn]

theorem ofInt_pos {n : Nat} (hn : 0 < n) :
    UnpackedFloat.ofInt Format.binary64 n = UnpackedFloat.round Format.binary64 .positive n 0 := by
  have h : compare (n : Int) 0 = .gt := Int.compare_eq_gt.mpr (by omega)
  rw [UnpackedFloat.ofInt, UnpackedFloat.normalize, h]
  rfl

/-- an integer of 53 bits -/
theorem ofNat_small {n : Nat} (hn : 0 < n) (h : n < 2 ^ 53) :
    ∃ k : Nat, Canon Format.binary64 (n * 2 ^ k) (-k) ∧ Float.ofNat n =
      store (.finite .positive (n * 2 ^ k) (-k) (Nat.mul_pos hn (Nat.two_pow_pos k))) := by
  obtain ⟨k, hc, hr⟩ := round_exact (F := Format.binary64) (e := 0) .positive hn h (by decide)
    (by decide)
  simp only [zero_sub] at hc hr
  refine ⟨k, hc, ?_⟩
  show Float.ofScientific n false 0 = _
  rw [Float.ofScientific, dif_pos ⟨h, Nat.zero_le _⟩]
  show n.toUInt64.toFloat * Float.ofBits 0x3FF0000000000000 = _
  rw [toFloat_eq n (h.trans (by norm_num)), ofInt_pos hn, hr, mul_one_eq _ hc]

/-- a larger integer with 53 significant bits -/
theorem ofNat_large {m k : Nat} (h : 2 ^ 53 ≤ m * 2 ^ k) (hc : Canon Format.binary64 m k) (hm : 0 < m) :
    Float.ofNat (m * 2 ^ k) = store (.finite .positive m k hm) := by
  have h0 : m * 2 ^ k ≠ 0 := by omega
  show Float.ofScientific (m * 2 ^ k) false 0 = _
  rw [Float.ofScientific, dif_neg (by omega)]
  show store (UnpackedFloat.ofScientific Format.binary64 (m * 2 ^ k) 0) = _
  congr 1
  rw [UnpackedFloat.ofScientific, dif_neg h0, if_neg (by decide), if_neg (by simp), if_pos le_rfl]
  show roundWithAccuracy Format.binary64 .positive ((m * 2 ^ k) <<< 53 * 1) (-(53 : Nat) + 0) .exact = _
  have hr := roundWithAccuracy_exact (F := Format.binary64) .positive hm hc (k + 53)
  have e₁ : (m * 2 ^ k) <<< 53 * 1 = m * 2 ^ (k + 53) := by
    rw [Nat.shiftLeft_eq, Nat.mul_one, Nat.mul_assoc, ← Nat.pow_add]
  have e₂ : (-(53 : Nat) + 0 : Int) = k - (k + 53 : Nat) := by
    push_cast
    ring
  rw [e₁, e₂, hr]

/-- An integer with 53 significant bits becomes a double exactly. -/
theorem value_ofNat {m k : Nat} (hm : m < 2 ^ 53) (hk : k ≤ 971) :
    value (Float.ofNat (m * 2 ^ k)) = some ((m * 2 ^ k : Nat) : EReal) := by
  rcases Nat.eq_zero_or_pos m with rfl | hpos
  · have h : (Float.ofNat 0).toModel.unpack = .zero .positive := rfl
    rw [Nat.zero_mul, value, h]
    simp [Binary.value]
  have hn : 0 < m * 2 ^ k := Nat.mul_pos hpos (Nat.two_pow_pos k)
  rcases Nat.lt_or_ge (m * 2 ^ k) (2 ^ 53) with h | h
  · obtain ⟨j, hc, he⟩ := ofNat_small hn h
    have hv := finiteValue_shift .positive (m * 2 ^ k) j 0
    rw [zero_sub] at hv
    rw [he, value_store_finite _ _ hc, hv, finiteValue_positive, zpow_zero, mul_one]
    rfl
  · have hmin : Format.binary64.minExponent = -1074 := rfl
    have hmax : maxExponent Format.binary64 = 971 := rfl
    have hp : Format.binary64.mantissaBits = 53 := rfl
    obtain ⟨j, hc, ht⟩ := exists_canon (F := Format.binary64) (e := k) hpos hm (by omega) (by omega)
    have hjk : j ≤ k := by
      have hlog := (Nat.le_log2 hn.ne').mpr h
      rw [log2_mul_two_pow hpos] at hlog
      unfold Format.targetExponent totalExponent at ht
      omega
    obtain ⟨i, rfl⟩ := Nat.exists_eq_add_of_le hjk
    have e : m * 2 ^ (j + i) = m * 2 ^ j * 2 ^ i := by rw [Nat.pow_add, Nat.mul_assoc]
    have hi : ((j + i : Nat) : Int) - j = i := by
      push_cast
      ring
    rw [hi] at hc
    rw [e] at h ⊢
    rw [ofNat_large h hc (Nat.mul_pos hpos (Nat.two_pow_pos j)), value_store_finite _ _ hc,
      finiteValue_positive, zpow_natCast, ← EReal.coe_natCast]
    norm_cast

theorem value_neg (x : Float) : value (-x) = (value x).map (- ·) := by
  show value (store x.toModel.unpack.neg) = _
  rw [value_store (isCanon x).neg, Binary.value_neg]
  rfl

theorem value_ofInt {z : Int} {m k : Nat} (hz : z.natAbs = m * 2 ^ k) (hm : m < 2 ^ 53) (hk : k ≤ 971) :
    value (Float.ofInt z) = some ((z : ℝ) : EReal) := by
  cases z with
  | ofNat n =>
    obtain rfl : n = m * 2 ^ k := hz
    show value (Float.ofNat (m * 2 ^ k)) = _
    rw [value_ofNat hm hk]
    rfl
  | negSucc n =>
    have hz' : n + 1 = m * 2 ^ k := hz
    show value (-Float.ofNat (n + 1)) = _
    rw [value_neg, hz', value_ofNat hm hk, ← hz', Option.map_some, Int.cast_negSucc, EReal.coe_neg,
      EReal.coe_natCast]

/-! ## infinity -/

def infinity : Float := store (.infinity .positive)

theorem value_infinity : value infinity = some ⊤ := value_store trivial

theorem value_neg_infinity : value (-infinity) = some ⊥ := by
  rw [value_neg, value_infinity, Option.map_some, EReal.neg_top]

/-! ## from `float` to `double` -/

/-- `static_cast<double>` of a `float` -/
def widen (x : Float32) : Float :=
  store (match x.toModel.unpack with
    | .finite s m e _ => UnpackedFloat.round Format.binary64 s m e
    | u => u)

/-- The conversion changes no number. -/
theorem value_widen (x : Float32) : value (widen x) = value32 x := by
  have hx := isCanon32 x
  unfold widen value32
  cases hu : x.toModel.unpack with
  | notANumber => exact value_store trivial
  | infinity s => exact value_store trivial
  | zero s => exact value_store trivial
  | finite s m e hm =>
    rw [hu] at hx
    obtain ⟨hm', hlo, hhi, -⟩ : Canon Format.binary32 m e := hx
    have h₁ : Format.binary32.minExponent = -149 := rfl
    have h₂ : maxExponent Format.binary32 = 104 := rfl
    have h₃ : Format.binary64.minExponent = -1074 := rfl
    have h₄ : maxExponent Format.binary64 = 971 := rfl
    obtain ⟨k, hc, hr⟩ := round_exact (F := Format.binary64) (e := e) s hm (hm'.trans (by decide)) (by omega)
      (by omega)
    show value (store (UnpackedFloat.round Format.binary64 s m e)) = _
    rw [hr, value_store_finite _ _ hc, finiteValue_shift]
    rfl

example : widen 1.5 = 1.5 := by decide +kernel
example : widen (1.0 / 0.0) = infinity := by decide +kernel

/-! ## from `double` to `float` -/

/-- `static_cast<float>` of a `double` -/
def narrow (x : Float) : Float32 :=
  .ofModel (.pack (match x.toModel.unpack with
    | .finite s m e _ => UnpackedFloat.round Format.binary32 s m e
    | u => u))

example : narrow 80.0 = 80.0 := by decide +kernel
example : widen (narrow 0.1) ≠ 0.1 := by decide +kernel

end Double
