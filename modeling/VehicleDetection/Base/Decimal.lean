import VehicleDetection.Base.Bytes

/-!
# Numbers as text

The number formats the C++ code prints: `%u`/`%d` (`decimal`, `decimalInt`), `%0wu` (`zeroPad`),
`%.6f` (`fixed6`) and the default `operator<<` for a double (`ostream`, six significant digits).
A finite double is the exact quotient `magnitude`; both double formats round it half to even,
once, at the last digit they print.

`readDecimal` and `stoi` read numbers back; `readDecimal_decimal` says that the digits of a
number denote it.
-/

set_option linter.unusedVariables false

namespace BStr

def digit (d : Nat) : UInt8 := UInt8.ofNat (48 + d)

def isDigit (b : UInt8) : Bool := 48 ≤ b && b ≤ 57

def decimal (n : Nat) : Bytes :=
  if n = 0 then [48] else (Nat.digits 10 n).reverse.map digit

def decimalInt (n : Int) : Bytes :=
  if n < 0 then 45 :: decimal n.natAbs else decimal n.natAbs

/-- lower-case hexadecimal digits (`%x`) -/
def hexadecimal (n : Nat) : Bytes :=
  if n = 0 then [48] else (Nat.digits 16 n).reverse.map fun d => if d < 10 then digit d else digit (d + 39)

def zeroPad (w : Nat) (s : Bytes) : Bytes := List.replicate (w - s.length) 48 ++ s

/-- the text of a number: digits, sign and point -/
def isNumeric (b : UInt8) : Bool := isDigit b || b == 45 || b == 46

theorem isDigit_digit {d : Nat} (h : d < 10) : isDigit (digit d) = true := by
  interval_cases d <;> decide

theorem decimal_isDigit (n : Nat) : ∀ b ∈ decimal n, isDigit b = true := by
  intro b hb
  unfold decimal at hb
  split at hb
  · rw [List.mem_singleton] at hb
    subst hb
    decide
  · obtain ⟨d, hd, rfl⟩ := List.mem_map.mp hb
    exact isDigit_digit (Nat.digits_lt_base (by norm_num) (List.mem_reverse.mp hd))

theorem decimal_ne_nil (n : Nat) : decimal n ≠ [] := by
  unfold decimal
  split
  · simp
  · rename_i h
    simpa [Nat.digits_eq_nil_iff_eq_zero] using h

theorem zeroPad_isDigit (w : Nat) {s : Bytes} (h : ∀ b ∈ s, isDigit b = true) :
    ∀ b ∈ zeroPad w s, isDigit b = true := by
  intro b hb
  rcases List.mem_append.mp hb with hb | hb
  · rw [(List.mem_replicate.mp hb).2]
    decide
  · exact h b hb

theorem isNumeric_of_isDigit {b : UInt8} (h : isDigit b = true) : isNumeric b = true := by
  simp [isNumeric, h]

/-- no number text holds a control byte or a blank -/
theorem le_of_isNumeric {b : UInt8} (h : isNumeric b = true) : 45 ≤ b.toNat := by
  simp only [isNumeric, isDigit, Bool.or_eq_true, Bool.and_eq_true, decide_eq_true_eq,
    beq_iff_eq, UInt8.le_iff_toNat_le] at h
  rcases h with (⟨h, -⟩ | rfl) | rfl
  · exact le_trans (by decide) h
  · decide
  · decide

/-! ## reading numbers -/

def readDigits (s : Bytes) : Nat := s.foldl (fun n b => 10 * n + (b.toNat - 48)) 0

def readDecimal (s : Bytes) : Option Nat :=
  if s = [] ∨ ¬ s.all isDigit then none else some (readDigits s)

theorem digit_toNat {d : Nat} (h : d < 10) : (digit d).toNat - 48 = d := by
  interval_cases d <;> rfl

theorem readDigits_digits (l : List Nat) (h : ∀ d ∈ l, d < 10) :
    readDigits (l.reverse.map digit) = Nat.ofDigits 10 l := by
  induction l with
  | nil => rfl
  | cons d l ih =>
    have ih' := ih fun x hx => h x (List.mem_cons_of_mem _ hx)
    unfold readDigits at ih' ⊢
    rw [List.reverse_cons, List.map_append, List.foldl_append, ih', Nat.ofDigits_cons]
    show 10 * Nat.ofDigits 10 l + ((digit d).toNat - 48) = _
    rw [digit_toNat (h d List.mem_cons_self)]
    omega

theorem readDecimal_decimal (n : Nat) : readDecimal (decimal n) = some n := by
  have hd : (decimal n).all isDigit = true := List.all_eq_true.mpr (decimal_isDigit n)
  rw [readDecimal, if_neg (by simp [decimal_ne_nil, hd])]
  congr 1
  by_cases h : n = 0
  · subst h; rfl
  · rw [decimal, if_neg h, readDigits_digits _ fun d => Nat.digits_lt_base (by norm_num),
      Nat.ofDigits_digits]

/-- the blanks `std::stoi` skips (`isspace` in the C locale) -/
def isSpace (b : UInt8) : Bool := b == 32 || (9 ≤ b && b ≤ 13)

/-- `std::stoi`: skip blanks, an optional sign, at least one digit, the rest is ignored;
`none` where it throws (no digits, or out of the range of `int`) -/
def stoi (s : Bytes) : Option Int :=
  let t := s.dropWhile isSpace
  let neg := t.head? == some 45
  let u := if neg || t.head? == some 43 then t.tail else t
  let ds := u.takeWhile isDigit
  if ds = [] then none
  else
    let n : Int := if neg then -(readDigits ds : Int) else readDigits ds
    if -2147483648 ≤ n ∧ n ≤ 2147483647 then some n else none

theorem not_space_of_isDigit {b : UInt8} (h : isDigit b = true) :
    isSpace b = false ∧ b ≠ 45 ∧ b ≠ 43 := by
  simp only [isDigit, Bool.and_eq_true, decide_eq_true_eq, UInt8.le_iff_toNat_le] at h
  have h48 : (48 : UInt8).toNat = 48 := by decide
  have h13 : (13 : UInt8).toNat = 13 := by decide
  rw [h48] at h
  refine ⟨?_, fun e => by subst e; exact absurd h.1 (by decide), fun e => by
    subst e; exact absurd h.1 (by decide)⟩
  simp only [isSpace, Bool.or_eq_false_iff, Bool.and_eq_false_iff, decide_eq_false_iff_not,
    beq_eq_false_iff_ne, UInt8.le_iff_toNat_le]
  refine ⟨fun e => by subst e; exact absurd h.1 (by decide), Or.inr ?_⟩
  omega

/-- the digits of a number in the range of `int` are read back -/
theorem stoi_decimal {n : Nat} (h : n ≤ 2147483647) : stoi (decimal n) = some (n : Int) := by
  obtain ⟨d, ds, hd⟩ := List.exists_cons_of_ne_nil (decimal_ne_nil n)
  have hdigits := decimal_isDigit n
  have hread := readDecimal_decimal n
  rw [readDecimal, if_neg (by simp [decimal_ne_nil, List.all_eq_true.mpr hdigits])] at hread
  have hn : readDigits (decimal n) = n := Option.some.inj hread
  have htake : (decimal n).takeWhile isDigit = decimal n := List.takeWhile_eq_self_iff.mpr hdigits
  obtain ⟨hs, h45, h43⟩ := not_space_of_isDigit (hdigits d (by rw [hd]; exact List.mem_cons_self))
  have hdrop : (decimal n).dropWhile isSpace = decimal n := by
    rw [hd, List.dropWhile_cons_of_neg (by simp [hs])]
  have hhead : (decimal n).head? = some d := by rw [hd]; rfl
  unfold stoi
  simp only [hdrop, hhead, htake, beq_eq_false_iff_ne.mpr (fun e => h45 (Option.some.inj e)),
    beq_eq_false_iff_ne.mpr (fun e => h43 (Option.some.inj e)), decimal_ne_nil, Bool.or_self,
    Bool.false_eq_true, if_false, hn]
  rw [if_pos ⟨by omega, by omega⟩]

/-- the text that `std::stoi` reads, and what it leaves -/
structure IntText (s blanks sign digits rest : Bytes) : Prop where
  text : s = blanks ++ (sign ++ (digits ++ rest))
  blanks : ∀ b ∈ blanks, isSpace b = true
  sign : sign = [] ∨ sign = [43] ∨ sign = [45]
  some : digits ≠ []
  digits : ∀ d ∈ digits, isDigit d = true
  rest : ∀ d ∈ rest.head?, isDigit d = false

theorem takeWhile_head {p : UInt8 → Bool} {a b : Bytes} (ha : ∀ x ∈ a, p x = true)
    (hb : ∀ x ∈ b.head?, p x = false) : (a ++ b).takeWhile p = a ∧ (a ++ b).dropWhile p = b := by
  rw [List.takeWhile_append_of_pos ha, List.dropWhile_append_of_pos ha]
  cases b with
  | nil => exact ⟨List.append_nil a, rfl⟩
  | cons x b =>
    have hx := hb x rfl
    rw [List.takeWhile_cons_of_neg (by rw [hx]; exact Bool.noConfusion),
      List.dropWhile_cons_of_neg (by rw [hx]; exact Bool.noConfusion)]
    exact ⟨List.append_nil a, rfl⟩

theorem stoi_text {s blanks sign digits rest : Bytes} (h : IntText s blanks sign digits rest) :
    stoi s =
      let n : Int := if sign = [45] then -(readDigits digits : Int) else readDigits digits
      if -2147483648 ≤ n ∧ n ≤ 2147483647 then some n else none := by
  obtain ⟨rfl, hb, hs, hne, hd, hr⟩ := h
  obtain ⟨d, ds, rfl⟩ := List.exists_cons_of_ne_nil hne
  obtain ⟨h32, h45, h43⟩ := not_space_of_isDigit (hd d List.mem_cons_self)
  have htake := (takeWhile_head hd hr).1
  have hdrop : (blanks ++ (sign ++ (d :: ds ++ rest))).dropWhile isSpace = sign ++ (d :: ds ++ rest) := by
    refine (takeWhile_head hb fun x hx => ?_).2
    rcases hs with rfl | rfl | rfl
    · cases hx
      exact h32
    · cases hx
      rfl
    · cases hx
      rfl
  unfold stoi
  rw [hdrop]
  rcases hs with rfl | rfl | rfl
  · have e45 : ((d :: ds ++ rest).head? == some 45) = false := by simpa using h45
    have e43 : ((d :: ds ++ rest).head? == some 43) = false := by simpa using h43
    simp only [List.nil_append, e45, e43, Bool.or_self, Bool.false_eq_true, if_false, htake]
    rw [if_neg hne]
    rfl
  · have e45 : (([43] ++ (d :: ds ++ rest)).head? == some 45) = false := rfl
    have e43 : (([43] ++ (d :: ds ++ rest)).head? == some 43) = true := rfl
    have etail : ([43] ++ (d :: ds ++ rest)).tail = d :: ds ++ rest := rfl
    simp only [e45, e43, etail, Bool.or_true, if_true, Bool.false_eq_true, if_false, htake]
    rw [if_neg hne]
    rfl
  · have e45 : (([45] ++ (d :: ds ++ rest)).head? == some 45) = true := rfl
    have e43 : (([45] ++ (d :: ds ++ rest)).head? == some 43) = false := rfl
    have etail : ([45] ++ (d :: ds ++ rest)).tail = d :: ds ++ rest := rfl
    simp only [e45, e43, etail, Bool.true_or, if_true, htake]
    rw [if_neg hne]

/-- Where `std::stoi` does not throw, it has read such a text. -/
theorem exists_intText {s : Bytes} {z : Int} (h : stoi s = some z) :
    ∃ blanks sign digits rest, IntText s blanks sign digits rest := by
  let t := s.dropWhile isSpace
  have hs : s = s.takeWhile isSpace ++ t := List.takeWhile_append_dropWhile.symm
  let sign : Bytes := if t.head? = some 45 ∨ t.head? = some 43 then t.take 1 else []
  let u := if t.head? = some 45 ∨ t.head? = some 43 then t.tail else t
  have ht : t = sign ++ u := by
    by_cases hc : t.head? = some 45 ∨ t.head? = some 43
    · simp only [sign, u, if_pos hc]
      rw [← List.drop_one, List.take_append_drop]
    · simp only [sign, u, if_neg hc]
      rfl
  refine ⟨s.takeWhile isSpace, sign, u.takeWhile isDigit, u.dropWhile isDigit, ?_, ?_, ?_, ?_, ?_, ?_⟩
  · rw [List.takeWhile_append_dropWhile, ← ht]
    exact hs
  · intro b hb
    exact List.mem_takeWhile_imp hb
  · by_cases hc : t.head? = some 45 ∨ t.head? = some 43
    · simp only [sign, if_pos hc]
      rcases hc with hc | hc
      · obtain ⟨v, hv⟩ := List.head?_eq_some_iff.mp hc
        rw [hv]
        exact .inr (.inr rfl)
      · obtain ⟨v, hv⟩ := List.head?_eq_some_iff.mp hc
        rw [hv]
        exact .inr (.inl rfl)
    · simp only [sign, if_neg hc]
      exact .inl trivial
  · intro hnil
    have hu : (if t.head? == some 45 || t.head? == some 43 then t.tail else t) = u := by
      simp only [u, Bool.or_eq_true, beq_iff_eq]
    simp only [t] at hu
    simp only [stoi, hu, hnil, if_true] at h
    cases h
  · intro d hd
    exact List.mem_takeWhile_imp hd
  · intro d hd
    have hne : u.dropWhile isDigit ≠ [] := by
      intro he
      rw [he] at hd
      cases hd
    rw [List.head?_eq_some_head hne] at hd
    cases hd
    exact List.head_dropWhile_not isDigit hne
/-! ## doubles -/

/-- `p / q` rounded to an integer, half to even -/
def roundHalfEven (p q : Nat) : Nat :=
  if 2 * (p % q) < q ∨ (2 * (p % q) = q ∧ p / q % 2 = 0) then p / q else p / q + 1

def isNegative (x : Float) : Bool :=
  match x.toModel.unpack with
  | .infinity s => s == .negative
  | .notANumber => false
  | .zero s => s == .negative
  | .finite s _ _ _ => s == .negative

/-- the absolute value of a finite double as an exact quotient -/
def magnitude (x : Float) : Nat × Nat :=
  match x.toModel.unpack with
  | .finite _ m e _ => (m * 2 ^ e.toNat, 2 ^ (-e).toNat)
  | _ => (0, 1)

/-- `%.6f` of a finite double -/
def fixed6 (x : Float) : Bytes :=
  let n := roundHalfEven ((magnitude x).1 * 10 ^ 6) (magnitude x).2
  (if isNegative x then [45] else []) ++ decimal (n / 10 ^ 6) ++ 46 :: zeroPad 6 (decimal (n % 10 ^ 6))

theorem fixed6_isNumeric (x : Float) : ∀ b ∈ fixed6 x, isNumeric b = true := by
  intro b hb
  simp only [fixed6, List.mem_append, List.mem_cons] at hb
  rcases hb with (hb | hb) | rfl | hb
  · split at hb
    · rw [List.mem_singleton] at hb
      subst hb
      decide
    · simp at hb
  · exact isNumeric_of_isDigit (decimal_isDigit _ b hb)
  · decide
  · exact isNumeric_of_isDigit (zeroPad_isDigit 6 (decimal_isDigit _) b hb)

/-- the fraction of a `%g` text: trailing zeros go, and the point with them -/
def fraction (ds : Bytes) : Bytes :=
  match ds.rdropWhile (· == 48) with
  | [] => []
  | f => 46 :: f

/-- the decimal exponent of `p / q > 0`: `10^x ≤ p / q < 10^(x+1)` -/
def decimalExponent (p q : Nat) : Int :=
  if q ≤ p then Nat.log 10 (p / q) else -(Nat.clog 10 ((q + p - 1) / p) : Int)

/-- `%g` of `p / q > 0`: six significant digits, fixed or scientific by the exponent -/
def general6 (p q : Nat) : Bytes :=
  let x := decimalExponent p q
  let n := roundHalfEven (p * 10 ^ (5 - x).toNat) (q * 10 ^ (x - 5).toNat)
  let (n, x) := if n = 10 ^ 6 then (10 ^ 5, x + 1) else (n, x)
  let ds := decimal n
  if -4 ≤ x ∧ x < 0 then 48 :: fraction (List.replicate (-x - 1).toNat 48 ++ ds)
  else if 0 ≤ x ∧ x < 6 then ds.take (x.toNat + 1) ++ fraction (ds.drop (x.toNat + 1))
  else ds.take 1 ++ fraction (ds.drop 1) ++ 101 :: (if x < 0 then 45 else 43) ::
    zeroPad 2 (decimal x.natAbs)

/-- `operator<<` of a double with the default flags. There is one NaN here: of one with the sign bit C++ prints
`-nan`. -/
def ostream (x : Float) : Bytes :=
  let sign : Bytes := if isNegative x then [45] else []
  match x.toModel.unpack with
  | .notANumber => lit "nan"
  | .infinity _ => sign ++ lit "inf"
  | .zero _ => sign ++ [48]
  | .finite _ _ _ _ => sign ++ general6 (magnitude x).1 (magnitude x).2

example : ostream 0.0001 = lit "0.0001" := by decide +kernel
example : ostream (-1234567.0) = lit "-1.23457e+06" := by decide +kernel
example : fixed6 0.8 = lit "0.800000" := by decide +kernel

end BStr
