import VehicleDetection.Base.Bytes
import VehicleDetection.Base.Glob

/-!
# `wildcard_match` of `pcd_playlist.cpp`

The two indices, and the two indices kept at the last `*`, are what is left of the pattern and of the
text there. 42 is the star and 63 the question mark.

* `wildcardLoop`     the loop;
* `wildcardMatch`    the matcher;
* `wildcardMatch_iff`  it accepts what the pattern reads with every `*` in front of a `*` taken for
                       itself.
-/

set_option linter.unusedVariables false

namespace VD
open BStr Glob

/-- how much of the text there was at the last `*` -/
def starLeft (t : Bytes) : Option (Bytes × Bytes) → Nat
  | none => t.length + 1
  | some (_, st) => st.length

theorem le_starLeft_none (t : Bytes) : t.length ≤ starLeft t none := Nat.le_succ _

theorem le_starLeft_self (sp t : Bytes) : t.length ≤ starLeft t (some (sp, t)) := le_rfl

theorem le_starLeft_tail {c : UInt8} {t : Bytes} {star : Option (Bytes × Bytes)}
    (h : (c :: t).length ≤ starLeft (c :: t) star) : t.length ≤ starLeft t star := by
  cases star with
  | none => exact le_starLeft_none t
  | some s => exact (Nat.le_succ _).trans h

/-- `p` and `t` are left of the pattern and of the text; `star` is what was left behind the last `*`,
and of the text when that `*` was met. -/
def wildcardLoop (p t : Bytes) (star : Option (Bytes × Bytes)) (h : t.length ≤ starLeft t star) :
    Bool :=
  match t with
  | [] => (p.dropWhile (· == 42)).isEmpty
  | c :: t' =>
    if p.head? = some 63 ∨ p.head? = some c then
      wildcardLoop p.tail t' star (le_starLeft_tail h)
    else if p.head? = some 42 then
      wildcardLoop p.tail (c :: t') (some (p.tail, c :: t')) (le_starLeft_self _ _)
    else
      match star with
      | none => false
      | some (sp, st) => wildcardLoop sp st.tail (some (sp, st.tail)) (le_starLeft_self _ _)
termination_by (starLeft t star, t.length, p.length)
decreasing_by
  · refine Prod.Lex.right' _ ?_ (Prod.Lex.left _ _ (Nat.lt_succ_self _))
    cases star with
    | none => exact Nat.le_succ _
    | some s => exact le_rfl
  · rename_i hp
    refine Prod.Lex.right' _ h (Prod.Lex.right _ ?_)
    cases p with
    | nil => cases hp
    | cons d p => exact Nat.lt_succ_self _
  · -- the text behind the last `*` is not empty, and one byte of it is given up
    rename_i h
    have hst : 0 < st.length := (Nat.succ_pos _).trans_le h
    apply Prod.Lex.left _ _
    show st.tail.length < st.length
    rw [List.length_tail]
    omega

def wildcardMatch (pattern text : Bytes) : Bool :=
  wildcardLoop pattern text none (le_starLeft_none text)

/-! ## what it accepts -/

/-- A later start of the pattern behind the last `*`: this is what the loop can still turn to. -/
def Again : Option (Bytes × Bytes) → Prop
  | none => False
  | some (sp, st) => ∃ r, r <:+ st.tail ∧ Narrow 42 63 sp r

/-- since the last `*` pattern and text have been taken byte by byte -/
def Since (p t : Bytes) : Option (Bytes × Bytes) → Prop
  | none => True
  | some (sp, st) => ∃ q w, Aligned 63 q w ∧ sp = q ++ p ∧ st = w ++ t

theorem question_ne_star : (63 : UInt8) ≠ 42 := by decide

theorem Since.step {p t : Bytes} {d c : UInt8} {star : Option (Bytes × Bytes)}
    (h : Since (d :: p) (c :: t) star) (hd : d = 63 ∨ d = c) : Since p t star := by
  cases star with
  | none => trivial
  | some s =>
    obtain ⟨q, w, hq, e₁, e₂⟩ := h
    refine ⟨q ++ [d], w ++ [c], List.rel_append hq (.cons hd .nil), ?_, ?_⟩
    · rw [e₁, List.append_assoc, List.singleton_append]
    · rw [e₂, List.append_assoc, List.singleton_append]

/-- the pattern behind a `*` tried on the whole text, and after that on every later end of it -/
theorem again_or {sp st : Bytes} :
    (∃ r, r <:+ st ∧ Narrow 42 63 sp r) ↔ Narrow 42 63 sp st ∨ Again (some (sp, st)) := by
  constructor
  · rintro ⟨r, hr, hn⟩
    cases st with
    | nil => exact .inl (List.suffix_nil.mp hr ▸ hn)
    | cons x st =>
      rcases List.suffix_cons_iff.mp hr with rfl | hr
      · exact .inl hn
      · exact .inr ⟨r, hr, hn⟩
  · rintro (hn | ⟨r, hr, hn⟩)
    · exact ⟨st, List.suffix_rfl, hn⟩
    · exact ⟨r, hr.trans (List.tail_suffix st), hn⟩

/-- nothing is lost by forgetting a `*` when the next one is met -/
theorem Again.forget {p t : Bytes} {star : Option (Bytes × Bytes)} (hs : Since p t star)
    (h : Again star) : ∃ r, r <:+ t ∧ Narrow 42 63 p r := by
  cases star with
  | none => exact h.elim
  | some s =>
    obtain ⟨q, w, hq, e₁, e₂⟩ := hs
    obtain ⟨r, hr, hn⟩ := h
    rw [e₁] at hn
    rw [e₂] at hr
    exact hn.restart question_ne_star hq (hr.trans (List.tail_suffix _))

theorem dropWhile_star (p : Bytes) :
    (p.dropWhile (· == 42)).isEmpty = true ↔ Narrow 42 63 p [] := by
  rw [narrow_empty question_ne_star, List.isEmpty_iff, List.dropWhile_eq_nil_iff]
  simp

/-- where neither of the first two branches is taken, the pattern reads nothing there -/
theorem not_narrow_of_head {p t : Bytes} {c : UInt8}
    (hp : ¬ (p.head? = some 63 ∨ p.head? = some c)) (hstar : ¬ p.head? = some 42) :
    ¬ Narrow 42 63 p (c :: t) := by
  cases p with
  | nil => simp
  | cons d p =>
    rw [not_or, List.head?_cons, Option.some.injEq, Option.some.injEq] at hp
    exact not_narrow_cons hp.1 hp.2 fun e => hstar (congrArg some e)

theorem wildcardLoop_iff {p t : Bytes} {star : Option (Bytes × Bytes)}
    (h : t.length ≤ starLeft t star) (hs : Since p t star) :
    wildcardLoop p t star h = true ↔ Narrow 42 63 p t ∨ Again star := by
  fun_induction wildcardLoop p t star h with
  | case1 p star h h' =>
    rw [dropWhile_star]
    refine ⟨.inl, fun hn => hn.elim id fun ha => ?_⟩
    obtain ⟨r, hr, hn⟩ := ha.forget hs
    rwa [List.suffix_nil.mp hr] at hn
  | case2 p star c t' h hp h' ih =>
    obtain ⟨d, p, rfl⟩ : ∃ d q, p = d :: q := by
      cases p with
      | nil => simp at hp
      | cons d p => exact ⟨d, p, rfl⟩
    have hd : d = 63 ∨ d = c := by simpa using hp
    rw [ih (hs.step hd), narrow_same question_ne_star hd, List.tail_cons]
  | case3 p star c t' h hp hstar h' ih =>
    obtain ⟨p, rfl⟩ := List.head?_eq_some_iff.mp hstar
    have hc : (c :: t').head? ≠ some 42 := by
      intro e
      rw [Option.some.inj e] at hp
      exact hp (.inr rfl)
    rw [ih ⟨[], [], .nil, rfl, rfl⟩, List.tail_cons, ← again_or, narrow_star hc question_ne_star]
    refine ⟨.inl, fun hn => hn.elim id fun ha => ?_⟩
    obtain ⟨r, hr, hn⟩ := ha.forget hs
    obtain ⟨r', hr', hn'⟩ := hn.of_star question_ne_star
    exact ⟨r', hr'.trans hr, hn'⟩
  | case4 p c t' hp hstar h h' =>
    have hn := not_narrow_of_head hp hstar (t := t')
    exact ⟨nofun, fun ha => absurd ha (by simpa [Again] using hn)⟩
  | case5 p c t' hp hstar sp st h h' ih =>
    rw [ih ⟨[], [], .nil, rfl, rfl⟩, ← again_or, or_iff_right (not_narrow_of_head hp hstar)]
    rfl

/-- The matcher accepts what the pattern reads with every `*` that meets a `*` taken for itself. -/
theorem wildcardMatch_iff (pattern text : Bytes) :
    wildcardMatch pattern text = true ↔ Narrow 42 63 pattern text := by
  have h : Since pattern text none := trivial
  exact (wildcardLoop_iff _ h).trans (or_iff_left id)

theorem wildcardMatch_nil (text : Bytes) : wildcardMatch [] text = true ↔ text = [] := by
  rw [wildcardMatch_iff, narrow_nil]

/-! ## against the documented language -/

/-- what is accepted is in the language of the pattern -/
theorem wildcardMatch_sound {pattern text : Bytes} (h : wildcardMatch pattern text = true) :
    Language 42 63 pattern text :=
  ((wildcardMatch_iff pattern text).mp h).language

/-- on a text without a `*` it decides the language of the pattern -/
theorem wildcardMatch_of_no_star {text : Bytes} (h : 42 ∉ text) (pattern : Bytes) :
    wildcardMatch pattern text = true ↔ Language 42 63 pattern text :=
  ⟨wildcardMatch_sound, fun hl => (wildcardMatch_iff pattern text).mpr (hl.narrow h)⟩

/-- The matcher agrees with the language of the pattern exactly where the text is outside it or has a
reading in which every `*` of the pattern that meets a `*` of the text stands for just that byte. -/
theorem wildcardMatch_agrees_iff (pattern text : Bytes) :
    (wildcardMatch pattern text = true ↔ Language 42 63 pattern text) ↔
      (Language 42 63 pattern text → Narrow 42 63 pattern text) := by
  rw [wildcardMatch_iff]
  exact ⟨fun h => h.mpr, fun h => ⟨Narrow.language, h⟩⟩

/-- the pattern `*` does not match `*a` -/
theorem wildcardMatch_star_lost :
    ¬ (wildcardMatch (lit "*") (lit "*a") = true ↔ Language 42 63 (lit "*") (lit "*a")) := by
  have hp : lit "*" = [42] := by decide
  have ht : lit "*a" = [42, 97] := by decide
  rw [hp, ht]
  intro h
  have hm := h.mpr ⟨[[42, 97]], .star _ .nil, rfl⟩
  simp [wildcardMatch, wildcardLoop] at hm

end VD
