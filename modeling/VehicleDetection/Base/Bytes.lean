import Mathlib

/-!
# Byte strings

`std::string` as a list of bytes, with the searches the C++ code is written in:

* `lit s`            the bytes of a literal (UTF-8);
* `find c s`         index of the first byte `c` (`none` is `npos`);
* `rfind c s`        index of the last byte `c`;
* `findSub pat s`    index of the first occurrence of `pat`;
* `cutLine s`        the text before the first CRLF and the text after it;
* `trim s`           a header value without the blanks around it.

Every search comes with the decomposition of the string it finds.
-/

set_option linter.unusedVariables false

namespace BStr

abbrev Bytes := List UInt8

def lit (s : String) : Bytes := s.toList.flatMap String.utf8EncodeChar

/-! ## single bytes -/

def find (c : UInt8) (s : Bytes) : Option Nat := s.findIdx? (· == c)

def rfind (c : UInt8) (s : Bytes) : Option Nat :=
  (find c s.reverse).map fun i => s.length - 1 - i

theorem find_none {c : UInt8} {s : Bytes} (h : c ∉ s) : find c s = none := by
  unfold find
  rw [List.findIdx?_eq_none_iff]
  intro x hx
  have hne : x ≠ c := fun e => h (e ▸ hx)
  simpa using hne

theorem find_append {c : UInt8} {a : Bytes} (b : Bytes) (h : c ∉ a) :
    find c (a ++ c :: b) = some a.length := by
  induction a with
  | nil => simp [find, List.findIdx?_cons]
  | cons x a ih =>
    have hx : x ≠ c := fun e => h (e ▸ List.mem_cons_self)
    have ih' := ih (fun m => h (List.mem_cons_of_mem _ m))
    unfold find at ih' ⊢
    rw [List.cons_append, List.findIdx?_cons, ih']
    simp [hx]

/-- a hit of `find` cuts the string at its first `c` -/
theorem find_some {c : UInt8} {s : Bytes} {i : Nat} (h : find c s = some i) :
    ∃ a b, s = a ++ c :: b ∧ c ∉ a ∧ a.length = i := by
  have hm : c ∈ s := by
    by_contra hc
    rw [find_none hc] at h
    cases h
  obtain ⟨a, b, rfl, ha⟩ := List.eq_append_cons_of_mem hm
  rw [find_append b ha] at h
  exact ⟨a, b, rfl, ha, Option.some.inj h⟩

theorem rfind_none {c : UInt8} {s : Bytes} (h : c ∉ s) : rfind c s = none := by
  have hr : c ∉ s.reverse := fun m => h (List.mem_reverse.mp m)
  rw [rfind, find_none hr]
  rfl

theorem rfind_append {c : UInt8} (a : Bytes) {b : Bytes} (h : c ∉ b) :
    rfind c (a ++ c :: b) = some a.length := by
  have e : (a ++ c :: b).reverse = b.reverse ++ c :: a.reverse := by simp
  have hr : c ∉ b.reverse := fun m => h (List.mem_reverse.mp m)
  rw [rfind, e, find_append _ hr]
  simp only [Option.map_some, List.length_append, List.length_cons, List.length_reverse]
  congr 1
  omega

/-- a hit of `rfind` cuts the string at its last `c` -/
theorem rfind_some {c : UInt8} {s : Bytes} {i : Nat} (h : rfind c s = some i) :
    ∃ a b, s = a ++ c :: b ∧ c ∉ b ∧ a.length = i := by
  have hm : c ∈ s.reverse := by
    by_contra hc
    rw [rfind, find_none hc] at h
    cases h
  obtain ⟨b', a', e, hb⟩ := List.eq_append_cons_of_mem hm
  have e' : s = a'.reverse ++ c :: b'.reverse := by
    rw [← List.reverse_reverse s, e]
    simp
  have hb' : c ∉ b'.reverse := fun m => hb (List.mem_reverse.mp m)
  rw [e', rfind_append _ hb'] at h
  exact ⟨_, _, e', hb', Option.some.inj h⟩

theorem not_mem_of_rfind {c : UInt8} {s : Bytes} (h : rfind c s = none) : c ∉ s := by
  intro hm
  obtain ⟨b, a, e, hb⟩ := List.eq_append_cons_of_mem (List.mem_reverse.mpr hm)
  rw [rfind, e, find_append _ hb] at h
  cases h

/-- splitting at a byte that does not occur gives the string back -/
theorem splitOn_of_not_mem {c : UInt8} {s : Bytes} (h : c ∉ s) : s.splitOn c = [s] := by
  rw [List.splitOn_eq_splitOnP]
  apply List.splitOnP_eq_singleton
  intro x hx
  have hne : x ≠ c := fun e => h (e ▸ hx)
  simpa using hne

theorem splitOn_append (c : UInt8) (a b : Bytes) :
    (a ++ c :: b).splitOn c = a.splitOn c ++ b.splitOn c := by
  simp only [List.splitOn_eq_splitOnP]
  exact List.splitOnP_append_cons a b (by simp)

theorem not_mem_of_splitOn {c : UInt8} {s t : Bytes} (h : s.splitOn c = [t]) : c ∉ s := by
  intro hm
  obtain ⟨a, b, rfl, -⟩ := List.eq_append_cons_of_mem hm
  rw [splitOn_append] at h
  have hl := congrArg List.length h
  have ha := List.length_pos_iff.mpr (List.splitOn_ne_nil c a)
  have hb := List.length_pos_iff.mpr (List.splitOn_ne_nil c b)
  simp only [List.length_append, List.length_singleton] at hl
  omega

/-! ## substrings -/

def findSub (pat : Bytes) : Bytes → Option Nat
  | [] => if pat.isPrefixOf [] then some 0 else none
  | b :: s => if pat.isPrefixOf (b :: s) then some 0 else (findSub pat s).map (· + 1)

def crlf : Bytes := [13, 10]

/-- no CR directly followed by LF -/
def NoCrlf (s : Bytes) : Prop := findSub crlf s = none

instance (s : Bytes) : Decidable (NoCrlf s) := inferInstanceAs (Decidable (_ = _))

theorem findSub_crlf_cons (x : UInt8) (s : Bytes) :
    findSub crlf (x :: s) =
      if x = 13 ∧ s.head? = some 10 then some 0 else (findSub crlf s).map (· + 1) := by
  cases s with
  | nil => simp [findSub, crlf, List.isPrefixOf]
  | cons y s =>
    have e : crlf.isPrefixOf (x :: y :: s) = (13 == x && 10 == y) := by
      simp [crlf, List.isPrefixOf]
    have e' : (crlf.isPrefixOf (x :: y :: s) = true) ↔ (x = 13 ∧ (y :: s).head? = some 10) := by
      rw [e, Bool.and_eq_true, beq_iff_eq, beq_iff_eq, List.head?_cons, Option.some.injEq]
      exact and_congr eq_comm eq_comm
    rw [findSub]
    simp only [e']

theorem NoCrlf.cons {x : UInt8} {s : Bytes} :
    NoCrlf (x :: s) ↔ ¬ (x = 13 ∧ s.head? = some 10) ∧ NoCrlf s := by
  unfold NoCrlf
  rw [findSub_crlf_cons]
  by_cases h : x = 13 ∧ s.head? = some 10
  · simp [h]
  · rw [if_neg h, Option.map_eq_none_iff]
    simp [h]

theorem NoCrlf.nil : NoCrlf [] := by decide

theorem NoCrlf.append {a b : Bytes} (hb : b.head? ≠ some 10) :
    NoCrlf (a ++ b) ↔ NoCrlf a ∧ NoCrlf b := by
  induction a with
  | nil => simp [NoCrlf.nil]
  | cons x a ih =>
    rw [List.cons_append, NoCrlf.cons, NoCrlf.cons, ih]
    cases a with
    | nil => simp [hb]
    | cons y a => simp only [List.cons_append, List.head?_cons, and_assoc]

/-- a string without CR or without LF has no line end -/
theorem NoCrlf.of_not_mem {s : Bytes} (h : (10 : UInt8) ∉ s) : NoCrlf s := by
  induction s with
  | nil => exact NoCrlf.nil
  | cons x s ih =>
    refine NoCrlf.cons.mpr ⟨fun hx => ?_, ih fun m => h (List.mem_cons_of_mem _ m)⟩
    exact h (List.mem_cons_of_mem _ (List.mem_of_mem_head? hx.2))

theorem findSub_crlf_append {a : Bytes} (b : Bytes) (h : NoCrlf a) :
    findSub crlf (a ++ 13 :: 10 :: b) = some a.length := by
  induction a with
  | nil => rw [List.nil_append, findSub_crlf_cons]; simp
  | cons x a ih =>
    obtain ⟨hx, ha⟩ := NoCrlf.cons.mp h
    have hx' : ¬ (x = 13 ∧ (a ++ 13 :: 10 :: b).head? = some 10) := by
      cases a with
      | nil => simp
      | cons y a => simpa using hx
    rw [List.cons_append, findSub_crlf_cons, if_neg hx', ih ha]
    rfl

/-- the first line end of a string that has one -/
theorem exists_crlf {s : Bytes} (h : ¬ NoCrlf s) :
    ∃ a b, s = a ++ 13 :: 10 :: b ∧ NoCrlf a := by
  induction s with
  | nil => exact absurd NoCrlf.nil h
  | cons x s ih =>
    by_cases hx : x = 13 ∧ s.head? = some 10
    · obtain ⟨rfl, hs⟩ := hx
      obtain ⟨t, rfl⟩ := List.head?_eq_some_iff.mp hs
      exact ⟨[], t, rfl, NoCrlf.nil⟩
    · have hs : ¬ NoCrlf s := fun hs => h (NoCrlf.cons.mpr ⟨hx, hs⟩)
      obtain ⟨a, b, rfl, ha⟩ := ih hs
      refine ⟨x :: a, b, rfl, NoCrlf.cons.mpr ⟨fun e => hx ⟨e.1, ?_⟩, ha⟩⟩
      cases a with
      | nil => simp at e
      | cons y a => exact e.2

/-- the text before the first CRLF and the text after it -/
def cutLine (s : Bytes) : Option (Bytes × Bytes) :=
  (findSub crlf s).map fun i => (s.take i, s.drop (i + 2))

theorem cutLine_append {a : Bytes} (b : Bytes) (h : NoCrlf a) :
    cutLine (a ++ 13 :: 10 :: b) = some (a, b) := by
  rw [cutLine, findSub_crlf_append b h, Option.map_some, List.take_left]
  have e : a ++ 13 :: 10 :: b = (a ++ [13, 10]) ++ b := by simp
  have hl : a.length + 2 = (a ++ [(13 : UInt8), 10]).length := by simp
  rw [e, hl, List.drop_left]

/-! ## blanks around a value -/

def isBlank (b : UInt8) : Bool := b == 32 || b == 9

def trim (s : Bytes) : Bytes := (s.dropWhile isBlank).rdropWhile isBlank

theorem trim_length_le (s : Bytes) : (trim s).length ≤ s.length :=
  le_trans (List.rdropWhile_prefix _ _).length_le (List.dropWhile_suffix _).length_le

theorem trim_eq_of_length {s : Bytes} (h : s.length ≤ (trim s).length) : trim s = s := by
  have h1 := (List.rdropWhile_prefix isBlank (s.dropWhile isBlank)).length_le
  have h2 := (List.dropWhile_suffix isBlank (l := s)).length_le
  have e2 : s.dropWhile isBlank = s :=
    (List.dropWhile_suffix isBlank).eq_of_length (le_antisymm h2 (le_trans h h1))
  have e1 := (List.rdropWhile_prefix isBlank (s.dropWhile isBlank)).eq_of_length
    (le_antisymm h1 (le_trans h2 h))
  rw [trim, e1, e2]

/-- nothing is trimmed when neither end is a blank -/
theorem trim_eq_self_iff {s : Bytes} :
    trim s = s ↔ s.head?.all (fun b => !isBlank b) ∧ s.getLast?.all (fun b => !isBlank b) := by
  have hh : s.dropWhile isBlank = s ↔ s.head?.all (fun b => !isBlank b) = true := by
    cases s with
    | nil => simp
    | cons x s => simp [List.dropWhile_eq_self_iff]
  have hl : s.rdropWhile isBlank = s ↔ s.getLast?.all (fun b => !isBlank b) = true := by
    rw [List.rdropWhile_eq_self_iff]
    by_cases hs : s = []
    · simp [hs]
    · simp [hs, List.getLast?_eq_some_getLast hs]
  rw [← hh, ← hl]
  constructor
  · intro h
    have h1 := (List.rdropWhile_prefix isBlank (s.dropWhile isBlank)).length_le
    have h2 := (List.dropWhile_suffix isBlank (l := s)).length_le
    have h3 : s.length = ((s.dropWhile isBlank).rdropWhile isBlank).length :=
      congrArg List.length h.symm
    have e : s.dropWhile isBlank = s :=
      (List.dropWhile_suffix isBlank).eq_of_length (by omega)
    rw [trim, e] at h
    exact ⟨e, h⟩
  · rintro ⟨e1, e2⟩
    rw [trim, e1, e2]

end BStr
