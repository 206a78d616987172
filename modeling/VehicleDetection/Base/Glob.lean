import Mathlib

/-!
# Wildcard patterns

Over any alphabet, with a letter `star` for any string and a letter `any` for any one letter:

* `Reading p us`       the strings `us` are what the letters of `p` stand for;
* `Language p t`       `t` is read by `p` in some way;
* `Alone p us`         a `star` that stands in front of a `star` of the text takes just that letter;
* `Narrow p t`         `t` is read by `p` in some way with `Alone`;
* `Narrow.restart`     what a later start of a pattern can read, its first letters being matched letter
                       by letter, the rest of the pattern reads as well.
-/

set_option linter.unusedVariables false

namespace Glob
variable {α : Type*} (star any : α)

/-- What each letter of the pattern stands for, in order. -/
inductive Reading : List α → List (List α) → Prop
  | nil : Reading [] []
  | star (u : List α) {p us} (h : Reading p us) : Reading (star :: p) (u :: us)
  | any (c : α) {p us} (h : Reading p us) : Reading (any :: p) ([c] :: us)
  | letter {c : α} {p us} (hs : c ≠ star) (ha : c ≠ any) (h : Reading p us) :
      Reading (c :: p) ([c] :: us)

def Language (p t : List α) : Prop := ∃ us, Reading star any p us ∧ us.flatten = t

/-- A `star` of the pattern that meets a `star` of the text stands for that letter and nothing else. -/
def Alone : List α → List (List α) → Prop
  | d :: p, u :: us =>
    (d = star → (u ++ us.flatten).head? = some star → u = [star]) ∧ Alone p us
  | _, _ => True

/-- the strings with a reading of that kind -/
def Narrow (p t : List α) : Prop :=
  ∃ us, Reading star any p us ∧ Alone star p us ∧ us.flatten = t

variable {star any}

theorem Narrow.language {p t : List α} (h : Narrow star any p t) : Language star any p t := by
  obtain ⟨us, hr, -, e⟩ := h
  exact ⟨us, hr, e⟩

theorem Reading.alone_of_not_mem {p : List α} {us : List (List α)} (hr : Reading star any p us)
    (h : star ∉ us.flatten) : Alone star p us := by
  induction hr with
  | nil => trivial
  | star u hr ih | any u hr ih | letter _ _ hr ih =>
    rw [List.flatten_cons] at h
    exact ⟨fun _ e => absurd (List.mem_of_mem_head? e) h,
      ih fun m => h (List.mem_append_right _ m)⟩

/-- where the text has no `star`, every reading is of that kind -/
theorem Language.narrow {p t : List α} (h : Language star any p t) (ht : star ∉ t) :
    Narrow star any p t := by
  obtain ⟨us, hr, rfl⟩ := h
  exact ⟨us, hr, hr.alone_of_not_mem ht, rfl⟩

/-! ## the narrow language letter by letter -/

@[simp] theorem narrow_nil {t : List α} : Narrow star any [] t ↔ t = [] := by
  constructor
  · rintro ⟨us, hr, -, rfl⟩
    cases hr
    rfl
  · rintro rfl
    exact ⟨[], .nil, trivial, rfl⟩

/-- a pattern letter that is `any` or the text's own letter takes just that letter -/
theorem narrow_same (hne : any ≠ star) {d c : α} (h : d = any ∨ d = c) {p t : List α} :
    Narrow star any (d :: p) (c :: t) ↔ Narrow star any p t := by
  constructor
  · rintro ⟨us, hr, ha, e⟩
    cases hr with
    | star u hr =>
      obtain rfl : star = c := h.resolve_left hne.symm
      obtain rfl := ha.1 rfl (by rw [← List.flatten_cons, e]; rfl)
      exact ⟨_, hr, ha.2, (List.cons.inj e).2⟩
    | any c' hr => exact ⟨_, hr, ha.2, (List.cons.inj e).2⟩
    | letter _ _ hr => exact ⟨_, hr, ha.2, (List.cons.inj e).2⟩
  · rintro ⟨us, hr, ha, rfl⟩
    refine ⟨[c] :: us, ?_, ⟨fun hd e => ?_, ha⟩, rfl⟩
    · by_cases hs : d = star
      · subst hs
        exact .star [c] hr
      · by_cases hd : d = any
        · subst hd
          exact .any c hr
        · obtain rfl := h.resolve_left hd
          exact .letter hs hd hr
    · rw [Option.some.inj e]

theorem not_narrow_cons {d c : α} (ha : d ≠ any) (hc : d ≠ c) (hs : d ≠ star) {p t : List α} :
    ¬ Narrow star any (d :: p) (c :: t) := by
  rintro ⟨us, hr, -, e⟩
  cases hr with
  | star => exact hs rfl
  | any => exact ha rfl
  | letter => exact hc (List.cons.inj e).1

/-- a `star` in front of another letter, or of the end, skips any beginning of the text -/
theorem narrow_star {p t : List α} (ht : t.head? ≠ some star) (hne : any ≠ star) :
    Narrow star any (star :: p) t ↔ ∃ r, r <:+ t ∧ Narrow star any p r := by
  constructor
  · rintro ⟨us, hr, ha, rfl⟩
    cases hr with
    | star u hr => exact ⟨_, ⟨u, rfl⟩, _, hr, ha.2, rfl⟩
    | any => exact absurd rfl hne
    | letter hs => exact absurd rfl hs
  · rintro ⟨_, ⟨u, rfl⟩, us, hr, ha, rfl⟩
    exact ⟨u :: us, .star u hr, ⟨fun _ e => absurd e ht, ha⟩, rfl⟩

/-- whatever a `star` takes, the rest of the pattern reads an end of the text -/
theorem Narrow.of_star (hne : any ≠ star) {p t : List α} (h : Narrow star any (star :: p) t) :
    ∃ r, r <:+ t ∧ Narrow star any p r := by
  by_cases ht : t.head? = some star
  · obtain ⟨t, rfl⟩ := List.head?_eq_some_iff.mp ht
    exact ⟨t, List.suffix_cons star t, (narrow_same hne (.inr rfl)).mp h⟩
  · exact (narrow_star ht hne).mp h

/-- the empty text is read by a row of `star`s only -/
theorem narrow_empty (hne : any ≠ star) {p : List α} :
    Narrow star any p [] ↔ ∀ d ∈ p, d = star := by
  induction p with
  | nil => simp
  | cons d p ih =>
    rw [List.forall_mem_cons, ← ih]
    constructor
    · rintro ⟨us, hr, ha, e⟩
      cases hr with
      | star u hr => exact ⟨rfl, _, hr, ha.2, (List.append_eq_nil_iff.mp e).2⟩
      | any => cases e
      | letter => cases e
    · rintro ⟨rfl, h⟩
      exact (narrow_star (by simp) hne).mpr ⟨[], List.suffix_rfl, h⟩

/-! ## starting again -/

/-- the letters of the text taken one by one: `any`, or the same letter -/
abbrev Aligned (any : α) (q w : List α) : Prop :=
  List.Forall₂ (fun d c => d = any ∨ d = c) q w

/-- The beginning `q` of a pattern matched letter by letter, what the whole pattern reads of any end
of the text is also read, as to its rest, behind that beginning: no start is lost. -/
theorem Narrow.restart (hne : any ≠ star) {q w p t r : List α} (hq : Aligned any q w)
    (hs : r <:+ w ++ t) (h : Narrow star any (q ++ p) r) :
    ∃ r', r' <:+ t ∧ Narrow star any p r' := by
  induction hq generalizing r with
  | nil => exact ⟨r, hs, h⟩
  | @cons d c q w hd hq ih =>
    rcases List.suffix_cons_iff.mp hs with rfl | hs
    · -- the same place: the letter is taken the same way
      exact ih List.suffix_rfl ((narrow_same hne hd).mp h)
    · by_cases hstar : d = star
      · subst hstar
        obtain ⟨r', hr', h'⟩ := h.of_star hne
        exact ih (hr'.trans hs) h'
      · cases r with
        | nil => exact absurd ((narrow_empty hne).mp h d List.mem_cons_self) hstar
        | cons e r =>
          by_cases hde : d = any ∨ d = e
          · exact ih ((List.suffix_cons e r).trans hs) ((narrow_same hne hde).mp h)
          · rw [not_or] at hde
            exact absurd h (not_narrow_cons hde.1 hde.2 hstar)

end Glob
