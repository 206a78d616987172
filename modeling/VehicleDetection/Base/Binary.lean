import Mathlib

/-!
# Binary floating-point numbers

The unpacked numbers of a binary format `F`: signed zeros and infinities, NaN, and finite numbers
`± m * 2 ^ e`.  A finite number is in the form `Canon` when it is the one that the format stores.

* `value`              the number that an unpacked float is, if it is one;
* `unpack_canon`       what is stored is canonical;
* `compare_eq`         the comparison of canonical floats is the comparison of their values;
* `finiteValue_inj`, `eq_of_unpack`  a number that is not zero is stored in one way;
* `unpack_pack`        a canonical float is stored without a change;
* `roundWithAccuracy_exact`, `round_exact`  a number that the format can hold is not changed by rounding.
-/

set_option linter.unusedVariables false

namespace Binary
open Float.Model Float.Model.UnpackedFloat

/-! ## values -/

/-- `± m * 2 ^ e` -/
noncomputable def finiteValue (s : Sign) (m : Nat) (e : Int) : ℝ := (s.apply m : ℝ) * ((2 : ℕ) : ℝ) ^ e

noncomputable def value : UnpackedFloat → Option EReal
  | .infinity .positive => some ⊤
  | .infinity .negative => some ⊥
  | .notANumber => none
  | .zero _ => some 0
  | .finite s m e _ => some (finiteValue s m e : ℝ)

theorem finiteValue_positive (m : Nat) (e : Int) : finiteValue .positive m e = m * 2 ^ e := by
  simp [finiteValue, Sign.apply]

theorem finiteValue_negative (m : Nat) (e : Int) : finiteValue .negative m e = -(m * 2 ^ e) := by
  simp [finiteValue, Sign.apply]

theorem magnitude_pos {m : Nat} (hm : 0 < m) (e : Int) : (0 : ℝ) < m * 2 ^ e := by positivity

/-- the same number with the exponent lowered by `k` -/
theorem finiteValue_shift (s : Sign) (m k : Nat) (e : Int) :
    finiteValue s (m * 2 ^ k) (e - k) = finiteValue s m e := by
  have h : (2 : ℝ) ^ e = 2 ^ (e - k) * 2 ^ k := by
    rw [← zpow_natCast, ← zpow_add₀ (by norm_num : (2 : ℝ) ≠ 0), sub_add_cancel]
  cases s with
  | positive =>
    rw [finiteValue_positive, finiteValue_positive, h]
    push_cast
    ring
  | negative =>
    rw [finiteValue_negative, finiteValue_negative, h]
    push_cast
    ring

theorem value_neg (x : UnpackedFloat) : value x.neg = (value x).map (- ·) := by
  cases x with
  | notANumber => rfl
  | infinity s =>
    cases s
    · exact congrArg some EReal.neg_bot.symm
    · exact congrArg some EReal.neg_top.symm
  | zero s => exact congrArg some neg_zero.symm
  | finite s m e hm =>
    cases s
    · show some ((finiteValue .positive m e : ℝ) : EReal) = some (-((finiteValue .negative m e : ℝ) : EReal))
      rw [finiteValue_negative, finiteValue_positive, EReal.coe_neg, neg_neg]
    · show some ((finiteValue .negative m e : ℝ) : EReal) = some (-((finiteValue .positive m e : ℝ) : EReal))
      rw [finiteValue_negative, finiteValue_positive, EReal.coe_neg]

/-! ## the canonical form -/

variable {F : Format}

/-- the largest exponent of a finite number -/
def maxExponent (F : Format) : Int := F.exponentBias - F.mantissaBitsWithoutImplicit

structure Canon (F : Format) (m : Nat) (e : Int) : Prop where
  mantissa : m < 2 ^ F.mantissaBits
  min : F.minExponent ≤ e
  max : e ≤ maxExponent F
  normal : 2 ^ F.mantissaBitsWithoutImplicit ≤ m ∨ e = F.minExponent

/-- finite numbers in canonical form, and all that is not a finite number -/
def IsCanon (F : Format) : UnpackedFloat → Prop
  | .finite _ m e _ => Canon F m e
  | _ => True

theorem IsCanon.neg {x : UnpackedFloat} (h : IsCanon F x) : IsCanon F x.neg := by
  cases x with
  | finite s m e hm => exact h
  | _ => trivial

theorem pow_mantissaBits (F : Format) : 2 ^ F.mantissaBits = 2 * 2 ^ F.mantissaBitsWithoutImplicit := by
  rw [Format.mantissaBits, Nat.add_comm, Nat.pow_succ, Nat.mul_comm]

theorem pow_exponentBits (F : Format) : 2 ^ F.exponentBits = 2 * F.exponentBias + 2 := by
  obtain ⟨k, hk⟩ := Nat.exists_eq_add_of_lt F.he
  have hp : 1 ≤ 2 ^ k := Nat.one_le_two_pow
  rw [Format.exponentBias, hk, Nat.zero_add, Nat.add_sub_cancel, Nat.pow_succ]
  omega

theorem minExponent_eq (F : Format) :
    F.minExponent = 1 - (F.exponentBias : Int) - F.mantissaBitsWithoutImplicit := by
  have hp : 1 ≤ 2 ^ (F.exponentBits - 1) := Nat.one_le_two_pow
  have hc : ((F.exponentBias : Nat) : Int) = 2 ^ (F.exponentBits - 1) - 1 := by
    rw [Format.exponentBias, Nat.cast_sub hp]
    norm_num
  rw [hc, Format.minExponent, Format.mantissaBits]
  push_cast
  ring

/-- a canonical number has the exponent that the format wants for it -/
theorem Canon.target {m : Nat} {e : Int} (hm : 0 < m) (h : Canon F m e) :
    F.targetExponent (totalExponent m e) = e := by
  have hlog : m.log2 < F.mantissaBits := (Nat.log2_lt hm.ne').mpr h.mantissa
  have hmin := h.min
  unfold Format.targetExponent totalExponent
  rcases h.normal with hn | hn
  · have hge := (Nat.le_log2 hm.ne').mpr hn
    unfold Format.mantissaBits at hlog ⊢
    omega
  · unfold Format.mantissaBits at hlog ⊢
    omega

theorem toNat_implicit (v : BitVec F.mantissaBitsWithoutImplicit) :
    (1#1 ++ v).toNat = 2 ^ F.mantissaBitsWithoutImplicit + v.toNat := by
  rw [BitVec.toNat_append, ← Nat.shiftLeft_add_eq_or_of_lt v.isLt, Nat.shiftLeft_eq]
  simp

/-- What is stored is in canonical form. -/
theorem unpack_canon (hF : 1 ≤ F.exponentBias) (b : BitVec F.numBits) : IsCanon F (UnpackedFloat.unpack F b) := by
  have hmin := minExponent_eq F
  have hcap := pow_exponentBits F
  have hman := pow_mantissaBits F
  unfold UnpackedFloat.unpack
  dsimp only
  split
  · split <;> trivial
  · rename_i hinf
    -- the exponent field is not all ones
    have hexp : (unpackExponent b).toNat + 1 < 2 ^ F.exponentBits := by
      have hlt := (unpackExponent b).isLt
      have hne : (unpackExponent b).toNat ≠ 2 ^ F.exponentBits - 1 := by
        intro h
        apply hinf
        apply BitVec.eq_of_toNat_eq
        rw [BitVec.neg_one_eq_allOnes, BitVec.toNat_allOnes, h]
      omega
    split
    · rename_i hzero
      split
      · trivial
      · have hlt := (unpackMantissa b).isLt
        refine ⟨by omega, ?_, ?_, Or.inr ?_⟩
        all_goals
          rw [hzero, BitVec.toNat_zero]
          unfold maxExponent at *
          push_cast
          omega
    · rename_i hzero
      have hpos : 0 < (unpackExponent b).toNat := by
        refine Nat.pos_of_ne_zero fun h => hzero (BitVec.eq_of_toNat_eq ?_)
        rw [h, BitVec.toNat_zero]
      have hlt := (unpackMantissa b).isLt
      refine ⟨?_, ?_, ?_, Or.inl ?_⟩
      · rw [toNat_implicit]
        omega
      · omega
      · unfold maxExponent
        omega
      · rw [toNat_implicit]
        exact Nat.le_add_right _ _

/-! ## comparison -/

/-- of two canonical numbers the one with the larger exponent is larger -/
theorem Canon.lt_of_exponent {m₁ m₂ : Nat} {e₁ e₂ : Int} (h₁ : Canon F m₁ e₁) (h₂ : Canon F m₂ e₂)
    (he : e₁ < e₂) : (m₁ : ℝ) * 2 ^ e₁ < m₂ * 2 ^ e₂ := by
  have hn : 2 ^ F.mantissaBitsWithoutImplicit ≤ m₂ := by
    rcases h₂.normal with h | h
    · exact h
    · have := h₁.min
      omega
  have hm : m₁ < 2 * m₂ := by
    have := h₁.mantissa
    rw [pow_mantissaBits] at this
    omega
  have hm' : (m₁ : ℝ) < 2 * m₂ := by exact_mod_cast hm
  calc (m₁ : ℝ) * 2 ^ e₁ < 2 * m₂ * 2 ^ e₁ := by gcongr
    _ = m₂ * 2 ^ (e₁ + 1) := by
      rw [zpow_add_one₀ (by norm_num)]
      ring
    _ ≤ m₂ * 2 ^ e₂ := by
      gcongr
      · norm_num
      · omega

theorem Canon.compare {m₁ m₂ : Nat} {e₁ e₂ : Int} (h₁ : Canon F m₁ e₁) (h₂ : Canon F m₂ e₂) :
    (compare e₁ e₂).then (compare m₁ m₂) = cmp ((m₁ : ℝ) * 2 ^ e₁) (m₂ * 2 ^ e₂) := by
  symm
  rcases lt_trichotomy e₁ e₂ with he | rfl | he
  · rw [compare_lt_iff_lt.mpr he]
    exact (cmp_eq_lt_iff _ _).mpr (h₁.lt_of_exponent h₂ he)
  · have hp : (0 : ℝ) < 2 ^ e₁ := by positivity
    rw [compare_eq_iff_eq.mpr rfl, Ordering.eq_then]
    rcases lt_trichotomy m₁ m₂ with hm | rfl | hm
    · rw [compare_lt_iff_lt.mpr hm, cmp_eq_lt_iff]
      exact mul_lt_mul_of_pos_right (by exact_mod_cast hm) hp
    · rw [compare_eq_iff_eq.mpr rfl, cmp_eq_eq_iff]
    · rw [compare_gt_iff_gt.mpr hm, cmp_eq_gt_iff]
      exact mul_lt_mul_of_pos_right (by exact_mod_cast hm) hp
  · rw [compare_gt_iff_gt.mpr he]
    exact (cmp_eq_gt_iff _ _).mpr (h₂.lt_of_exponent h₁ he)

theorem cmp_coe (a b : ℝ) : cmp (a : EReal) b = cmp a b :=
  EReal.coe_strictMono.cmp_map_eq a b

theorem cmp_neg (a b : ℝ) : cmp (-a) (-b) = (cmp a b).swap := by
  rw [cmp_swap]
  exact (OrderIso.neg ℝ).strictMono.cmp_map_eq b a

theorem cmp_lt {a b : EReal} (h : a < b) : some Ordering.lt = some (cmp a b) := by
  rw [(cmp_eq_lt_iff a b).mpr h]

theorem cmp_gt {a b : EReal} (h : b < a) : some Ordering.gt = some (cmp a b) := by
  rw [(cmp_eq_gt_iff a b).mpr h]

theorem finiteValue_pos {m : Nat} (hm : 0 < m) (e : Int) :
    (0 : EReal) < (finiteValue .positive m e : ℝ) := by
  rw [finiteValue_positive]
  exact EReal.coe_pos.mpr (magnitude_pos hm e)

theorem finiteValue_neg {m : Nat} (hm : 0 < m) (e : Int) :
    ((finiteValue .negative m e : ℝ) : EReal) < 0 := by
  rw [finiteValue_negative]
  exact EReal.coe_neg'.mpr (neg_neg_of_pos (magnitude_pos hm e))

theorem compare_finite {s₁ s₂ : Sign} {m₁ m₂ : Nat} {e₁ e₂ : Int} (hm₁ : 0 < m₁) (hm₂ : 0 < m₂)
    (h₁ : Canon F m₁ e₁) (h₂ : Canon F m₂ e₂) :
    (UnpackedFloat.finite s₁ m₁ e₁ hm₁).compare (.finite s₂ m₂ e₂ hm₂) =
      some (cmp ((finiteValue s₁ m₁ e₁ : ℝ) : EReal) (finiteValue s₂ m₂ e₂ : ℝ)) := by
  cases s₁ <;> cases s₂
  · rw [cmp_coe, finiteValue_negative, finiteValue_negative, cmp_neg, ← h₁.compare h₂]
    rfl
  · exact cmp_lt ((finiteValue_neg hm₁ e₁).trans (finiteValue_pos hm₂ e₂))
  · exact cmp_gt ((finiteValue_neg hm₂ e₂).trans (finiteValue_pos hm₁ e₁))
  · rw [cmp_coe, finiteValue_positive, finiteValue_positive, ← h₁.compare h₂]
    rfl

/-- The comparison of canonical floats is the comparison of their values. -/
theorem compare_eq {x y : UnpackedFloat} (hx : IsCanon F x) (hy : IsCanon F y) :
    x.compare y = (value x).bind fun a => (value y).map fun b => cmp a b := by
  cases x with
  | notANumber => cases y <;> rfl
  | infinity s =>
    cases y with
    | notANumber => cases s <;> rfl
    | infinity t =>
      cases s <;> cases t
      · exact congrArg some (cmp_self_eq_eq (⊥ : EReal)).symm
      · exact cmp_lt bot_lt_top
      · exact cmp_gt bot_lt_top
      · exact congrArg some (cmp_self_eq_eq (⊤ : EReal)).symm
    | zero t =>
      cases s
      · exact cmp_lt EReal.bot_lt_zero
      · exact cmp_gt EReal.zero_lt_top
    | finite t m e h =>
      cases s
      · exact cmp_lt (EReal.bot_lt_coe _)
      · exact cmp_gt (EReal.coe_lt_top _)
  | zero s =>
    cases y with
    | notANumber => rfl
    | infinity t =>
      cases t
      · exact cmp_gt EReal.bot_lt_zero
      · exact cmp_lt EReal.zero_lt_top
    | zero t => exact congrArg some (cmp_self_eq_eq (0 : EReal)).symm
    | finite t m e h =>
      cases t
      · exact cmp_gt (finiteValue_neg h e)
      · exact cmp_lt (finiteValue_pos h e)
  | finite s m e h =>
    cases y with
    | notANumber => cases s <;> rfl
    | infinity t =>
      cases t
      · cases s <;> exact cmp_gt (EReal.bot_lt_coe _)
      · cases s <;> exact cmp_lt (EReal.coe_lt_top _)
    | zero t =>
      cases s
      · exact cmp_lt (finiteValue_neg h e)
      · exact cmp_gt (finiteValue_pos h e)
    | finite t m' e' h' => exact compare_finite h h' hx hy

/-- a magnitude has one canonical form -/
theorem Canon.inj {m₁ m₂ : Nat} {e₁ e₂ : Int} (h₁ : Canon F m₁ e₁) (h₂ : Canon F m₂ e₂)
    (h : (m₁ : ℝ) * 2 ^ e₁ = m₂ * 2 ^ e₂) : m₁ = m₂ ∧ e₁ = e₂ := by
  have hcmp := h₁.compare h₂
  rw [(cmp_eq_eq_iff _ _).mpr h, Ordering.then_eq_eq, compare_eq_iff_eq, compare_eq_iff_eq] at hcmp
  exact hcmp.symm

/-- a finite number that is not zero has one canonical form -/
theorem finiteValue_inj {s₁ s₂ : Sign} {m₁ m₂ : Nat} {e₁ e₂ : Int} (hm₁ : 0 < m₁)
    (hm₂ : 0 < m₂) (h₁ : Canon F m₁ e₁) (h₂ : Canon F m₂ e₂)
    (h : finiteValue s₁ m₁ e₁ = finiteValue s₂ m₂ e₂) :
    s₁ = s₂ ∧ m₁ = m₂ ∧ e₁ = e₂ := by
  have hpos₁ := magnitude_pos hm₁ e₁
  have hpos₂ := magnitude_pos hm₂ e₂
  cases s₁ with
  | positive =>
    cases s₂ with
    | positive =>
      rw [finiteValue_positive, finiteValue_positive] at h
      exact ⟨rfl, h₁.inj h₂ h⟩
    | negative =>
      rw [finiteValue_positive, finiteValue_negative] at h
      linarith
  | negative =>
    cases s₂ with
    | positive =>
      rw [finiteValue_positive, finiteValue_negative] at h
      linarith
    | negative =>
      rw [finiteValue_negative, finiteValue_negative, neg_inj] at h
      exact ⟨rfl, h₁.inj h₂ h⟩

/-! ## one way to store a number -/

theorem ofBitVec_inj {a b : BitVec 1} (h : Sign.ofBitVec a = Sign.ofBitVec b) : a = b := by
  have hbit : ∀ c : BitVec 1, c ≠ 0#1 → c = 1#1 := by decide
  unfold Sign.ofBitVec at h
  by_cases ha : a = 0#1
  · by_cases hb : b = 0#1
    · rw [ha, hb]
    · rw [if_pos ha, if_neg hb] at h
      cases h
  · by_cases hb : b = 0#1
    · rw [if_neg ha, if_pos hb] at h
      cases h
    · rw [hbit a ha, hbit b hb]

/-- the three fields of a stored float are all of it -/
theorem eq_of_fields {x y : BitVec F.numBits} (hs : unpackSign x = unpackSign y)
    (he : unpackExponent x = unpackExponent y) (hm : unpackMantissa x = unpackMantissa y) : x = y := by
  have hpos := F.hm
  have hpos' := F.he
  have hbits : F.numBits = 1 + F.exponentBits + F.mantissaBitsWithoutImplicit := rfl
  refine BitVec.eq_of_getLsbD_eq fun i hi => ?_
  have bit {n : Nat} {u v : BitVec n} (h : u = v) (j : Nat) : u.getLsbD j = v.getLsbD j := by rw [h]
  have hs := bit hs (i - (F.mantissaBitsWithoutImplicit + F.exponentBits))
  have he := bit he (i - F.mantissaBitsWithoutImplicit)
  have hm := bit hm i
  simp only [unpackSign, unpackExponent, unpackMantissa, BitVec.getLsbD_cast, BitVec.getLsbD_extractLsb] at hs he hm
  rcases Nat.lt_or_ge i F.mantissaBitsWithoutImplicit with h | h
  · simpa [show i ≤ F.mantissaBitsWithoutImplicit - 1 by omega] using hm
  · rw [Nat.add_sub_cancel' h] at he
    rcases Nat.lt_or_ge i (F.mantissaBitsWithoutImplicit + F.exponentBits) with h' | h'
    · simpa [show i - F.mantissaBitsWithoutImplicit ≤
        F.mantissaBitsWithoutImplicit + F.exponentBits - 1 - F.mantissaBitsWithoutImplicit by omega] using he
    · rw [Nat.add_sub_cancel' h'] at hs
      simpa [show i - (F.mantissaBitsWithoutImplicit + F.exponentBits) = 0 by omega] using hs

/-- A finite number that is not zero is stored in one way. -/
theorem eq_of_unpack {x y : BitVec F.numBits} {s : Sign} {m : Nat} {e : Int} {hm hm' : 0 < m}
    (hx : UnpackedFloat.unpack F x = .finite s m e hm) (hy : UnpackedFloat.unpack F y = .finite s m e hm') : x = y := by
  have hmant (v : BitVec F.mantissaBitsWithoutImplicit) : v.toNat < 2 ^ F.mantissaBitsWithoutImplicit := v.isLt
  unfold UnpackedFloat.unpack at hx hy
  dsimp only at hx hy
  split at hx
  · split at hx <;> cases hx
  split at hx
  · rename_i hxe
    split at hx
    · cases hx
    obtain ⟨hxs, hxm, hxe'⟩ := UnpackedFloat.finite.inj hx
    split at hy
    · split at hy <;> cases hy
    split at hy
    · rename_i hye
      split at hy
      · cases hy
      obtain ⟨hys, hym, -⟩ := UnpackedFloat.finite.inj hy
      exact eq_of_fields (ofBitVec_inj (hxs.trans hys.symm)) (hxe.trans hye.symm)
        (BitVec.eq_of_toNat_eq (hxm.trans hym.symm))
    · obtain ⟨-, hym, -⟩ := UnpackedFloat.finite.inj hy
      rw [toNat_implicit] at hym
      have := hmant (unpackMantissa x)
      omega
  · obtain ⟨hxs, hxm, hxe⟩ := UnpackedFloat.finite.inj hx
    rw [toNat_implicit] at hxm
    split at hy
    · split at hy <;> cases hy
    split at hy
    · split at hy
      · cases hy
      obtain ⟨-, hym, -⟩ := UnpackedFloat.finite.inj hy
      have := hmant (unpackMantissa y)
      omega
    · obtain ⟨hys, hym, hye⟩ := UnpackedFloat.finite.inj hy
      rw [toNat_implicit] at hym
      exact eq_of_fields (ofBitVec_inj (hxs.trans hys.symm)) (BitVec.eq_of_toNat_eq (by omega))
        (BitVec.eq_of_toNat_eq (by omega))

/-- So is each zero. -/
theorem eq_of_unpack_zero {x y : BitVec F.numBits} {s : Sign} (hx : UnpackedFloat.unpack F x = .zero s)
    (hy : UnpackedFloat.unpack F y = .zero s) : x = y := by
  have fields {z : BitVec F.numBits} (h : UnpackedFloat.unpack F z = .zero s) :
      Sign.ofBitVec (unpackSign z) = s ∧ unpackExponent z = 0#_ ∧ unpackMantissa z = 0#_ := by
    unfold UnpackedFloat.unpack at h
    dsimp only at h
    split at h
    · split at h <;> cases h
    split at h
    · rename_i he
      split at h
      · rename_i hm
        exact ⟨UnpackedFloat.zero.inj h, he, hm⟩
      · cases h
    · cases h
  obtain ⟨hxs, hxe, hxm⟩ := fields hx
  obtain ⟨hys, hye, hym⟩ := fields hy
  exact eq_of_fields (ofBitVec_inj (hxs.trans hys.symm)) (hxe.trans hye.symm) (hxm.trans hym.symm)

/-! ## storing -/

theorem unpackSign_packComponents (s : Sign) (e : BitVec F.exponentBits)
    (m : BitVec F.mantissaBitsWithoutImplicit) : unpackSign (packComponents F s e m) = s.toBitVec := by
  refine BitVec.eq_of_getLsbD_eq fun i hi => ?_
  obtain rfl : i = 0 := by omega
  simp [unpackSign, packComponents, BitVec.getLsbD_append, BitVec.getElem_append]

theorem ofBitVec_toBitVec (s : Sign) : Sign.ofBitVec s.toBitVec = s := by
  cases s <;> rfl

theorem zero_ne_ones : (0#F.exponentBits) ≠ -1#_ := by
  intro h
  have h := congrArg BitVec.toNat h
  have hcap := pow_exponentBits F
  rw [BitVec.neg_one_eq_allOnes, BitVec.toNat_allOnes, BitVec.toNat_zero] at h
  omega

/-- a stored number with a leading bit -/
theorem unpack_normal (s : Sign) (e : BitVec F.exponentBits) (m : BitVec F.mantissaBitsWithoutImplicit)
    (h₀ : e ≠ 0#_) (h₁ : e ≠ -1#_) :
    UnpackedFloat.unpack F (packComponents F s e m) =
      .finite s (1#1 ++ m).toNat (e.toNat - (F.exponentBias + F.mantissaBitsWithoutImplicit)) (by simp) := by
  unfold UnpackedFloat.unpack
  simp only [unpackMantissa_packComponents, unpackExponent_packComponents, unpackSign_packComponents,
    ofBitVec_toBitVec, if_neg h₀, if_neg h₁]

/-- a stored number without one -/
theorem unpack_subnormal (s : Sign) (m : BitVec F.mantissaBitsWithoutImplicit) (h : m ≠ 0#_) :
    UnpackedFloat.unpack F (packComponents F s 0#_ m) =
      .finite s m.toNat F.minExponent (by simpa [BitVec.toNat_pos, BitVec.pos_iff_ne_zero]) := by
  unfold UnpackedFloat.unpack
  simp only [unpackMantissa_packComponents, unpackExponent_packComponents, unpackSign_packComponents,
    ofBitVec_toBitVec, if_neg zero_ne_ones, dif_neg h, if_true, BitVec.toNat_zero]
  congr 1
  rw [minExponent_eq]
  push_cast
  ring

theorem unpack_zero (s : Sign) : UnpackedFloat.unpack F (packedZero F s) = .zero s := by
  have h₁ : ¬ (0 : BitVec F.exponentBits) = -1#_ := zero_ne_ones
  have h₀ : (0 : BitVec F.exponentBits) = 0#_ := rfl
  have hm : (0 : BitVec F.mantissaBitsWithoutImplicit) = 0#_ := rfl
  unfold UnpackedFloat.unpack packedZero
  simp only [unpackMantissa_packComponents, unpackExponent_packComponents, unpackSign_packComponents,
    ofBitVec_toBitVec]
  rw [if_neg h₁, if_pos h₀, dif_pos hm]

theorem unpack_infinity (s : Sign) : UnpackedFloat.unpack F (packedInfinity F s) = .infinity s := by
  have hm : (0 : BitVec F.mantissaBitsWithoutImplicit) = 0#_ := rfl
  unfold UnpackedFloat.unpack packedInfinity
  simp only [unpackMantissa_packComponents, unpackExponent_packComponents, unpackSign_packComponents,
    ofBitVec_toBitVec]
  rw [if_pos trivial, if_pos hm]

theorem unpack_nan : UnpackedFloat.unpack F (packedNaN F) = .notANumber := by
  have hone : (1#F.mantissaBitsWithoutImplicit <<< (F.mantissaBitsWithoutImplicit - 1)).toNat =
      2 ^ (F.mantissaBitsWithoutImplicit - 1) := by
    have hm := F.hm
    have hlt : 2 ^ (F.mantissaBitsWithoutImplicit - 1) < 2 ^ F.mantissaBitsWithoutImplicit :=
      Nat.pow_lt_pow_right (by norm_num) (by omega)
    have h1 : 1 < 2 ^ F.mantissaBitsWithoutImplicit := Nat.one_lt_two_pow hm.ne'
    rw [BitVec.toNat_shiftLeft, BitVec.toNat_ofNat, Nat.mod_eq_of_lt h1, Nat.shiftLeft_eq, one_mul,
      Nat.mod_eq_of_lt hlt]
  have h : ¬ 1#F.mantissaBitsWithoutImplicit <<< (F.mantissaBitsWithoutImplicit - 1) = 0#_ := by
    intro h
    rw [h, BitVec.toNat_zero] at hone
    exact (Nat.two_pow_pos _).ne hone
  unfold UnpackedFloat.unpack packedNaN
  simp only [unpackMantissa_packComponents, unpackExponent_packComponents]
  rw [if_pos trivial, if_neg h]

/-- a finite number in canonical form is stored without a change -/
theorem unpack_pack_finite (s : Sign) {m : Nat} {e : Int} (hm : 0 < m) (h : Canon F m e) :
    UnpackedFloat.unpack F (UnpackedFloat.pack F (.finite s m e hm)) = .finite s m e hm := by
  have hmin := minExponent_eq F
  have hcap := pow_exponentBits F
  have hman := pow_mantissaBits F
  obtain ⟨hm', hlo, hhi, hn⟩ := h
  unfold maxExponent at hhi
  have hlog : m.log2 < F.mantissaBits := (Nat.log2_lt hm.ne').mpr hm'
  unfold UnpackedFloat.pack
  dsimp only
  rw [if_neg (by omega)]
  by_cases hl : m.log2 + 1 = F.mantissaBits
  · -- the leading bit is left out, and the exponent field is neither all zeros nor all ones
    have hlead : 2 ^ F.mantissaBitsWithoutImplicit ≤ m := by
      apply (Nat.le_log2 hm.ne').mp
      unfold Format.mantissaBits at hl
      omega
    have hmant : (1#1 ++ BitVec.ofNat F.mantissaBitsWithoutImplicit m).toNat = m := by
      rw [toNat_implicit, BitVec.toNat_ofNat, Nat.mod_eq_sub_mod hlead, Nat.mod_eq_of_lt (by omega)]
      omega
    have hexp : (BitVec.ofNat F.exponentBits
        (e + F.exponentBias + F.mantissaBitsWithoutImplicit).toNat).toNat =
          (e + F.exponentBias + F.mantissaBitsWithoutImplicit).toNat := by
      rw [BitVec.toNat_ofNat, Nat.mod_eq_of_lt (by omega)]
    rw [if_pos hl, unpack_normal]
    · simp only [hmant, hexp]
      congr 1
      omega
    · intro h
      rw [h, BitVec.toNat_zero] at hexp
      omega
    · intro h
      rw [h, BitVec.neg_one_eq_allOnes, BitVec.toNat_allOnes] at hexp
      omega
  · have hlt : m < 2 ^ F.mantissaBitsWithoutImplicit := by
      apply (Nat.log2_lt hm.ne').mp
      unfold Format.mantissaBits at hl hlog
      omega
    have he : e = F.minExponent := hn.resolve_left (by omega)
    have hmant : (BitVec.ofNat F.mantissaBitsWithoutImplicit m).toNat = m := by
      rw [BitVec.toNat_ofNat, Nat.mod_eq_of_lt hlt]
    rw [if_neg hl, unpack_subnormal]
    · simp only [hmant, he]
    · intro h
      rw [h, BitVec.toNat_zero] at hmant
      omega

/-- What is in canonical form is stored without a change. -/
theorem unpack_pack {x : UnpackedFloat} (h : IsCanon F x) :
    UnpackedFloat.unpack F (UnpackedFloat.pack F x) = x := by
  cases x with
  | notANumber => exact unpack_nan
  | infinity s => exact unpack_infinity s
  | zero s => exact unpack_zero s
  | finite s m e hm => exact unpack_pack_finite s hm h

/-! ## numbers that the format can hold -/

theorem log2_mul_two_pow {m : Nat} (hm : 0 < m) (k : Nat) : (m * 2 ^ k).log2 = m.log2 + k := by
  have hp : 0 < 2 ^ k := Nat.two_pow_pos k
  refine (Nat.log2_eq_iff (Nat.mul_pos hm hp).ne').mpr ⟨?_, ?_⟩
  · rw [Nat.pow_add]
    exact Nat.mul_le_mul_right _ (Nat.log2_self_le hm.ne')
  · rw [Nat.add_right_comm, Nat.pow_add]
    exact Nat.mul_lt_mul_of_pos_right Nat.lt_log2_self hp

theorem totalExponent_shift {m : Nat} (hm : 0 < m) (k : Nat) (e : Int) :
    totalExponent (m * 2 ^ k) (e - k) = totalExponent m e := by
  rw [totalExponent, totalExponent, log2_mul_two_pow hm]
  push_cast
  ring

/-- zeros are shifted out without a trace -/
theorem shiftRight_exact (m k : Nat) :
    (ExtendedMantissa.mk (m * 2 ^ k) false false >>> k) = ⟨m, false, false⟩ := by
  induction k generalizing m with
  | zero =>
    rw [Nat.pow_zero, Nat.mul_one]
    rfl
  | succ k ih =>
    have h := ih (m * 2)
    rw [Nat.mul_assoc, ← Nat.pow_succ'] at h
    show ((ExtendedMantissa.mk (m * 2 ^ (k + 1)) false false >>> k).shiftRightOne) = _
    rw [h]
    simp [ExtendedMantissa.shiftRightOne]

theorem shiftToTargetExponent_exact {m : Nat} {e : Int} (hm : 0 < m) (h : Canon F m e) (k : Nat) :
    shiftToTargetExponent F (m * 2 ^ k) (e - k) .exact = (⟨m, false, false⟩, e) := by
  have hk : (e - (e - k)).toNat = k := by omega
  unfold shiftToTargetExponent shiftToExponent
  simp only [totalExponent_shift hm, h.target hm, hk, ExtendedMantissa.ofMantissaAndAccuracy,
    shiftRight_exact]
  congr 1
  omega

/-- A canonical number with a longer mantissa is rounded to itself. -/
theorem roundWithAccuracy_exact (s : Sign) {m : Nat} {e : Int} (hm : 0 < m) (h : Canon F m e) (k : Nat) :
    roundWithAccuracy F s (m * 2 ^ k) (e - k) .exact = .finite s m e hm := by
  have h₁ := shiftToTargetExponent_exact hm h k
  have h₂ := shiftToTargetExponent_exact hm h 0
  rw [Nat.pow_zero, Nat.mul_one, Nat.cast_zero, sub_zero] at h₂
  unfold roundWithAccuracy
  rw [h₁]
  show (match shiftToTargetExponent F m e .exact with
    | (em, e') => if h : em.mantissa = 0 then UnpackedFloat.zero s
      else .finite s em.mantissa e' (Nat.pos_of_ne_zero h)) = _
  rw [h₂]
  exact dif_neg hm.ne'

/-- A number with a mantissa and an exponent in range has a canonical form. -/
theorem exists_canon {m : Nat} {e : Int} (hm : 0 < m) (hm' : m < 2 ^ F.mantissaBits)
    (hlo : F.minExponent ≤ e) (hhi : e ≤ maxExponent F) :
    ∃ k : Nat, Canon F (m * 2 ^ k) (e - k) ∧
      F.targetExponent (totalExponent m e) = e - k := by
  have hlog : m.log2 < F.mantissaBits := (Nat.log2_lt hm.ne').mpr hm'
  have hle : F.targetExponent (totalExponent m e) ≤ e := by
    unfold Format.targetExponent totalExponent
    omega
  obtain ⟨k, hk⟩ := Int.le.dest hle
  have hlog' := log2_mul_two_pow hm k
  have hpos : 0 < m * 2 ^ k := Nat.mul_pos hm (Nat.two_pow_pos k)
  have ht : F.targetExponent (totalExponent m e) =
      max ((m.log2 : Int) + 1 + e - F.mantissaBits) F.minExponent := rfl
  refine ⟨k, ⟨?_, by omega, by omega, ?_⟩, by omega⟩
  · rw [← Nat.log2_lt hpos.ne']
    omega
  · by_cases hmin : e - k = F.minExponent
    · exact Or.inr hmin
    · refine Or.inl ((Nat.le_log2 hpos.ne').mp ?_)
      unfold Format.mantissaBits at *
      omega

/-- A number in range is not changed by rounding. -/
theorem round_exact (s : Sign) {m : Nat} {e : Int} (hm : 0 < m) (hm' : m < 2 ^ F.mantissaBits)
    (hlo : F.minExponent ≤ e) (hhi : e ≤ maxExponent F) :
    ∃ k : Nat, Canon F (m * 2 ^ k) (e - k) ∧
      UnpackedFloat.round F s m e = .finite s (m * 2 ^ k) (e - k) (Nat.mul_pos hm (Nat.two_pow_pos k)) := by
  obtain ⟨k, hc, ht⟩ := exists_canon hm hm' hlo hhi
  refine ⟨k, hc, ?_⟩
  have hk : (e - (e - k)).toNat = k := by omega
  unfold UnpackedFloat.round decreaseExponent
  simp only [ht, hk, Nat.shiftLeft_eq]
  have h := roundWithAccuracy_exact s (Nat.mul_pos hm (Nat.two_pow_pos k)) hc 0
  rwa [Nat.pow_zero, Nat.mul_one, Nat.cast_zero, sub_zero] at h

end Binary
