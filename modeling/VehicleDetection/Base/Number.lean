import VehicleDetection.Base.Decimal

/-!
# Number tokens

* `NumberToken`       a JSON number with a fraction and without an exponent: its text and its value;
* `exact`             the value of a finite double;
* `rounded6`          that value rounded to six decimals;
* `fixed6Token`       what `%.6f` prints, as a token: its value is `rounded6`, at most half a millionth
                      from `exact`;
* `fixed6_length_le`  how long the text is, by the size of the number.
-/

set_option linter.unusedVariables false

namespace BStr

/-! ## digits -/

theorem readDigits_decimal (n : Nat) : readDigits (decimal n) = n := by
  have h := readDecimal_decimal n
  rw [readDecimal, if_neg (by simpa [decimal_ne_nil] using decimal_isDigit n)] at h
  exact Option.some.inj h

theorem decimal_length_le {n k : Nat} (hk : 0 < k) : (decimal n).length ≤ k ↔ n < 10 ^ k := by
  unfold decimal
  split
  · rename_i h
    subst h
    exact iff_of_true hk (Nat.pow_pos (by norm_num))
  · rw [List.length_map, List.length_reverse]
    exact Nat.digits_length_le_iff (by norm_num) n

/-- only zero begins with a zero -/
theorem decimal_head {n : Nat} (h : (decimal n).head? = some 48) : decimal n = [48] := by
  by_cases hn : n = 0
  · subst hn
    rfl
  · exfalso
    have hne : Nat.digits 10 n ≠ [] := Nat.digits_ne_nil_iff_ne_zero.mpr hn
    have hlast := Nat.getLast_digit_ne_zero 10 hn
    have hlt : (Nat.digits 10 n).getLast hne < 10 :=
      Nat.digits_lt_base (by norm_num) (List.getLast_mem hne)
    rw [decimal, if_neg hn, List.head?_map, List.head?_reverse, List.getLast?_eq_some_getLast hne] at h
    have hd : digit ((Nat.digits 10 n).getLast hne) = 48 := Option.some.inj h
    have := digit_toNat hlt
    rw [hd] at this
    exact hlast this.symm

theorem readDigits_zeroPad (w : Nat) (s : Bytes) : readDigits (zeroPad w s) = readDigits s := by
  have hz : ∀ k, (List.replicate k (48 : UInt8)).foldl (fun n b => 10 * n + (b.toNat - 48)) 0 = 0 := by
    intro k
    induction k with
    | zero => rfl
    | succ k ih => rw [List.replicate_succ, List.foldl_cons]; exact ih
  unfold readDigits zeroPad
  rw [List.foldl_append, hz]

theorem zeroPad_length {w : Nat} {s : Bytes} (h : s.length ≤ w) : (zeroPad w s).length = w := by
  rw [zeroPad, List.length_append, List.length_replicate]
  omega

/-! ## tokens -/

structure NumberToken where
  negative : Bool
  int : Bytes
  frac : Bytes
  int_digits : int ≠ [] ∧ ∀ b ∈ int, isDigit b = true
  no_leading_zero : int.head? = some 48 → int = [48]
  frac_digits : frac ≠ [] ∧ ∀ b ∈ frac, isDigit b = true

def NumberToken.text (t : NumberToken) : Bytes :=
  (if t.negative then [45] else []) ++ t.int ++ 46 :: t.frac

def signed (negative : Bool) (q : ℚ) : ℚ := if negative then -q else q

def NumberToken.value (t : NumberToken) : ℚ :=
  signed t.negative (readDigits t.int + readDigits t.frac / 10 ^ t.frac.length)

theorem abs_signed (negative : Bool) {q : ℚ} (h : 0 ≤ q) : |signed negative q| = q := by
  cases negative with
  | false => exact abs_of_nonneg h
  | true => exact (abs_neg q).trans (abs_of_nonneg h)

theorem signed_sub (negative : Bool) (q r : ℚ) : |signed negative q - signed negative r| = |q - r| := by
  cases negative with
  | false => rfl
  | true =>
    show |-q - -r| = _
    rw [neg_sub_neg, abs_sub_comm]

/-! ## rounding -/

theorem roundHalfEven_cases (p q : Nat) :
    roundHalfEven p q = p / q ∧ 2 * (p % q) ≤ q ∨ roundHalfEven p q = p / q + 1 ∧ q ≤ 2 * (p % q) := by
  unfold roundHalfEven
  split
  · left
    omega
  · right
    omega

theorem abs_roundHalfEven_sub_le (p : Nat) {q : Nat} (hq : 0 < q) :
    |(roundHalfEven p q : ℚ) - p / q| ≤ 1 / 2 := by
  have hq' : (0 : ℚ) < q := by exact_mod_cast hq
  have hp : (p : ℚ) = q * (p / q : Nat) + (p % q : Nat) := by exact_mod_cast (Nat.div_add_mod p q).symm
  rw [hp, add_div, mul_div_cancel_left₀ _ hq'.ne']
  have h0 : (0 : ℚ) ≤ (p % q : Nat) / q := by positivity
  have h1 : ((p % q : Nat) : ℚ) / q < 1 := (div_lt_one hq').mpr (by exact_mod_cast Nat.mod_lt p hq)
  rcases roundHalfEven_cases p q with ⟨e, h⟩ | ⟨e, h⟩
  · have hh : ((p % q : Nat) : ℚ) / q ≤ 1 / 2 := by
      rw [div_le_div_iff₀ hq' (by norm_num)]
      exact_mod_cast (by omega : p % q * 2 ≤ 1 * q)
    rw [e, abs_le]
    constructor <;> linarith
  · have hh : (1 : ℚ) / 2 ≤ ((p % q : Nat) : ℚ) / q := by
      rw [div_le_div_iff₀ (by norm_num) hq']
      exact_mod_cast (by omega : 1 * q ≤ p % q * 2)
    rw [e, abs_le]
    push_cast
    constructor <;> linarith

/-- what is rounded stays on its side of an integer -/
theorem le_roundHalfEven {p q n : Nat} (hq : 0 < q) (h : n * q ≤ p) : n ≤ roundHalfEven p q := by
  have hn : n ≤ p / q := (Nat.le_div_iff_mul_le hq).mpr h
  rcases roundHalfEven_cases p q with ⟨e, -⟩ | ⟨e, -⟩ <;> omega

theorem roundHalfEven_le {p q n : Nat} (hq : 0 < q) (h : p ≤ n * q) : roundHalfEven p q ≤ n := by
  rcases h.lt_or_eq with h | rfl
  · have hn : p / q < n := (Nat.div_lt_iff_lt_mul hq).mpr h
    rcases roundHalfEven_cases p q with ⟨e, -⟩ | ⟨e, -⟩ <;> omega
  · rcases roundHalfEven_cases (n * q) q with ⟨e, -⟩ | ⟨e, h⟩
    · rw [e, Nat.mul_div_cancel _ hq]
    · rw [Nat.mul_mod_left] at h
      omega

/-! ## doubles -/

/-- the exact value of a finite double -/
def exact (x : Float) : ℚ := signed (isNegative x) ((magnitude x).1 / (magnitude x).2)

/-- the millionths it is rounded to -/
def millionths (x : Float) : Nat := roundHalfEven ((magnitude x).1 * 10 ^ 6) (magnitude x).2

def rounded6 (x : Float) : ℚ := signed (isNegative x) (millionths x / 10 ^ 6)

theorem magnitude_pos (x : Float) : 0 < (magnitude x).2 := by
  unfold magnitude
  split
  · exact Nat.pow_pos (by norm_num)
  · norm_num

/-- rounding to six decimals moves a number by at most half a millionth -/
theorem abs_rounded6_sub_exact (x : Float) : |rounded6 x - exact x| ≤ 1 / 2000000 := by
  have hq := magnitude_pos x
  have h := abs_roundHalfEven_sub_le ((magnitude x).1 * 10 ^ 6) hq
  have e : (millionths x : ℚ) / 10 ^ 6 - (magnitude x).1 / (magnitude x).2 =
      (millionths x - ((magnitude x).1 * 10 ^ 6 : Nat) / (magnitude x).2) / 10 ^ 6 := by
    push_cast
    field_simp
    ring
  rw [rounded6, exact, signed_sub, e, abs_div, abs_of_pos (by norm_num : (0 : ℚ) < 10 ^ 6),
    div_le_iff₀ (by norm_num)]
  exact h.trans (by norm_num)

/-- what `%.6f` prints -/
def fixed6Token (x : Float) : NumberToken where
  negative := isNegative x
  int := decimal (millionths x / 10 ^ 6)
  frac := zeroPad 6 (decimal (millionths x % 10 ^ 6))
  int_digits := ⟨decimal_ne_nil _, decimal_isDigit _⟩
  no_leading_zero := decimal_head
  frac_digits := ⟨by simp [zeroPad, decimal_ne_nil], zeroPad_isDigit 6 (decimal_isDigit _)⟩

theorem text_fixed6Token (x : Float) : (fixed6Token x).text = fixed6 x := rfl

theorem frac_length (x : Float) : (fixed6Token x).frac.length = 6 :=
  zeroPad_length ((decimal_length_le (by norm_num)).mpr (Nat.mod_lt _ (by norm_num)))

theorem value_fixed6Token (x : Float) : (fixed6Token x).value = rounded6 x := by
  rw [NumberToken.value, frac_length]
  show signed (isNegative x) (readDigits (decimal (millionths x / 10 ^ 6)) +
    readDigits (zeroPad 6 (decimal (millionths x % 10 ^ 6))) / 10 ^ 6) = rounded6 x
  rw [readDigits_decimal, readDigits_zeroPad, readDigits_decimal, rounded6]
  congr 1
  have h : ((millionths x / 10 ^ 6 : Nat) : ℚ) * 10 ^ 6 + (millionths x % 10 ^ 6 : Nat) = millionths x := by
    exact_mod_cast Nat.div_add_mod' (millionths x) (10 ^ 6)
  rw [← h, add_div, mul_div_cancel_right₀ _ (by norm_num)]

/-! ## its length -/

/-- the mantissa of a double has 53 bits -/
theorem mantissa_lt {x : Float} {s m e h} (hx : x.toModel.unpack = .finite s m e h) : m < 2 ^ 53 := by
  unfold Float.Model.unpack Float.Model.UnpackedFloat.unpack at hx
  dsimp only at hx
  split at hx
  · split at hx <;> cases hx
  · split at hx
    · split at hx
      · cases hx
      · obtain ⟨-, rfl, -⟩ := Float.Model.UnpackedFloat.finite.inj hx
        exact (BitVec.isLt _).trans_le (by norm_num)
    · obtain ⟨-, rfl, -⟩ := Float.Model.UnpackedFloat.finite.inj hx
      exact BitVec.isLt _

/-- a double is an integer or below `2^53` -/
theorem integer_or_small (x : Float) : (magnitude x).2 = 1 ∨ (magnitude x).1 < 2 ^ 53 := by
  unfold magnitude
  split
  · rename_i s m e h hx
    by_cases he : 0 ≤ e
    · left
      rw [show (-e).toNat = 0 by omega, Nat.pow_zero]
    · right
      rw [show e.toNat = 0 by omega, Nat.pow_zero, Nat.mul_one]
      exact mantissa_lt hx
  · exact .inl rfl

theorem millionths_lt {x : Float} {n : Nat} (hn : 2 ^ 53 ≤ n) :
    millionths x < n * 10 ^ 6 ↔ (magnitude x).1 < n * (magnitude x).2 := by
  have hq := magnitude_pos x
  rcases integer_or_small x with h | h
  · have e : millionths x = (magnitude x).1 * 10 ^ 6 := by
      rw [millionths, h]
      exact le_antisymm (roundHalfEven_le Nat.one_pos (Nat.mul_one _).ge)
        (le_roundHalfEven Nat.one_pos (Nat.mul_one _).le)
    rw [e, h, Nat.mul_one]
    exact Nat.mul_lt_mul_right (by norm_num)
  · have hle : millionths x ≤ (magnitude x).1 * 10 ^ 6 :=
      roundHalfEven_le hq (Nat.le_mul_of_pos_right _ hq)
    refine iff_of_true ?_ ((h.trans_le hn).trans_le (Nat.le_mul_of_pos_right _ hq))
    exact hle.trans_lt (Nat.mul_lt_mul_of_pos_right (h.trans_le hn) (by norm_num))

/-- the limit from which on `%.6f` needs more than 31 characters -/
def limit31 (x : Float) : Nat := if isNegative x then 10 ^ 23 else 10 ^ 24

/-- `%.6f` has at most 31 characters for the numbers below the limit, and for no others. -/
theorem fixed6_length_le (x : Float) : (fixed6 x).length ≤ 31 ↔ |exact x| < limit31 x := by
  have hq : (0 : ℚ) < (magnitude x).2 := by exact_mod_cast magnitude_pos x
  have habs : |exact x| = (magnitude x).1 / (magnitude x).2 := abs_signed _ (by positivity)
  have hlen : (fixed6 x).length = (if isNegative x then 1 else 0) +
      (decimal (millionths x / 10 ^ 6)).length + 7 := by
    have hf := frac_length x
    rw [← text_fixed6Token, NumberToken.text, List.length_append, List.length_append, List.length_cons, hf]
    show (if isNegative x then [45] else [] : Bytes).length + _ + 7 = _
    split <;> rfl
  have hint : ∀ k, 0 < k → 2 ^ 53 ≤ 10 ^ k →
      ((decimal (millionths x / 10 ^ 6)).length ≤ k ↔ |exact x| < (10 ^ k : Nat)) := by
    intro k hk hk'
    rw [decimal_length_le hk, Nat.div_lt_iff_lt_mul (by norm_num), millionths_lt hk', habs,
      div_lt_iff₀ hq]
    exact_mod_cast Iff.rfl
  rw [hlen, limit31]
  cases isNegative x with
  | false =>
    rw [if_neg nofun, if_neg nofun, ← hint 24 (by norm_num) (by norm_num)]
    omega
  | true =>
    rw [if_pos rfl, if_pos rfl, ← hint 23 (by norm_num) (by norm_num)]
    omega

end BStr
