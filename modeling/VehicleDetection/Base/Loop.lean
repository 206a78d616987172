import Mathlib.Order.OrderIsoNat
import Mathlib.Data.Sum.Basic

/-!
# Loops

A round of a loop takes a state to the next one (`inl`) or leaves the loop with a result (`inr`).

* `state n`      the state before round `n`, if the loop gets there;
* `state_inv`    what every round keeps holds in every state;
* `state_lt`     a measure that every round decreases decreases along the run;
* `state_inj`    then no state occurs twice;
* `ends`         and the loop is left;
* `ends_or_settles`  with a measure that no round increases the loop is left, or the measure settles.
-/

set_option linter.unusedVariables false

namespace Loop
variable {S R : Type*} (round : S → S ⊕ R)

def state (s : S) : Nat → Option S
  | 0 => some s
  | n + 1 => (state s n).bind fun s => (round s).getLeft?

variable {round}

theorem state_succ {s t : S} {n : Nat} :
    state round s (n + 1) = some t ↔ ∃ u, state round s n = some u ∧ round u = .inl t := by
  rw [state, Option.bind_eq_some_iff]
  simp only [Sum.getLeft?_eq_some_iff]

/-- the run from the second state on -/
theorem state_next {s t : S} (h : round s = .inl t) (n : Nat) :
    state round s (n + 1) = state round t n := by
  induction n with
  | zero => rw [state, state, state, Option.bind_some, h, Sum.getLeft?_inl]
  | succ n ih => rw [state, ih, state]

theorem state_inv {P : S → Prop} (hround : ∀ s t, P s → round s = .inl t → P t) {s : S} (h : P s)
    {n : Nat} {t : S} (ht : state round s n = some t) : P t := by
  induction n generalizing t with
  | zero => exact Option.some.inj ht ▸ h
  | succ n ih =>
    obtain ⟨u, hu, hut⟩ := state_succ.mp ht
    exact hround u t (ih hu) hut

section
variable {M : Type*} [Preorder M] {P : S → Prop} {f : S → M}

/-- The measure decreases from every state to every later one. -/
theorem state_lt (hround : ∀ s t, P s → round s = .inl t → P t)
    (hlt : ∀ s t, P s → round s = .inl t → f t < f s) {s : S} (h : P s) {n m : Nat} {t u : S}
    (ht : state round s n = some t) (hu : state round s (n + m + 1) = some u) : f u < f t := by
  induction m generalizing u with
  | zero =>
    obtain ⟨v, hv, hvu⟩ := state_succ.mp hu
    obtain rfl : v = t := Option.some.inj (hv.symm.trans ht)
    exact hlt v u (state_inv hround h hv) hvu
  | succ m ih =>
    obtain ⟨v, hv, hvu⟩ := state_succ.mp hu
    exact (hlt v u (state_inv hround h hv) hvu).trans (ih hv)

/-- No state occurs twice. -/
theorem state_inj (hround : ∀ s t, P s → round s = .inl t → P t)
    (hlt : ∀ s t, P s → round s = .inl t → f t < f s) {s : S} (h : P s) {n m : Nat} {t : S}
    (hn : state round s n = some t) (hm : state round s m = some t) : n = m := by
  have key : ∀ i j, i < j → state round s i = some t → state round s j ≠ some t := by
    intro i j hij hi hj
    obtain ⟨k, rfl⟩ := Nat.exists_eq_add_of_lt hij
    exact lt_irrefl _ (state_lt hround hlt h hi hj)
  rcases Nat.lt_trichotomy n m with hlt | rfl | hlt
  · exact absurd hm (key n m hlt hn)
  · rfl
  · exact absurd hn (key m n hlt hm)

/-- A loop with a measure in a well-founded order is left. -/
theorem ends [WellFoundedLT M] (hround : ∀ s t, P s → round s = .inl t → P t)
    (hlt : ∀ s t, P s → round s = .inl t → f t < f s) {s : S} (h : P s) :
    ∃ n t r, state round s n = some t ∧ round t = .inr r := by
  induction hm : f s using WellFoundedLT.induction generalizing s with
  | ind m ih =>
    cases hr : round s with
    | inr r => exact ⟨0, s, r, rfl, hr⟩
    | inl t =>
      obtain ⟨n, u, r, hu, hur⟩ := ih (f t) (hm ▸ hlt s t h hr) (hround s t h hr) rfl
      exact ⟨n + 1, u, r, (state_next hr n).trans hu, hur⟩

end

/-- A loop is left, or there is a state before every round. -/
theorem ends_or_runs (round : S → S ⊕ R) (s : S) :
    (∃ n t r, state round s n = some t ∧ round t = .inr r) ∨
      ∃ run : Nat → S, ∀ n, state round s n = some (run n) := by
  by_cases h : ∃ n t r, state round s n = some t ∧ round t = .inr r
  · exact .inl h
  · have hall : ∀ n, ∃ t, state round s n = some t := by
      intro n
      induction n with
      | zero => exact ⟨s, rfl⟩
      | succ n ih =>
        obtain ⟨t, ht⟩ := ih
        cases hr : round t with
        | inl u => exact ⟨u, state_succ.mpr ⟨t, ht, hr⟩⟩
        | inr r => exact absurd ⟨n, t, r, ht, hr⟩ h
    choose run hrun using hall
    exact .inr ⟨run, hrun⟩

/-- With a measure in a well-founded order that no round increases: the loop is left, or from some round on
the measure stays. -/
theorem ends_or_settles {M : Type*} [PartialOrder M] [WellFoundedLT M] {P : S → Prop} {f : S → M}
    (hround : ∀ s t, P s → round s = .inl t → P t) (hle : ∀ s t, P s → round s = .inl t → f t ≤ f s)
    {s : S} (h : P s) :
    (∃ n t r, state round s n = some t ∧ round t = .inr r) ∨
      ∃ run : Nat → S, (∀ n, state round s n = some (run n)) ∧ ∃ n, ∀ m, n ≤ m → f (run n) = f (run m) := by
  rcases ends_or_runs round s with hend | ⟨run, hrun⟩
  · exact .inl hend
  · refine .inr ⟨run, hrun, WellFoundedLT.antitone_chain_condition (antitone_nat_of_succ_le fun n => ?_)⟩
    obtain ⟨t, ht, hnext⟩ := state_succ.mp (hrun (n + 1))
    obtain rfl : t = run n := Option.some.inj (ht.symm.trans (hrun n))
    exact hle _ _ (state_inv hround h ht) hnext

end Loop
