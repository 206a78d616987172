import Mathlib.Order.Bounds.Basic
import Mathlib.Order.OrderDual
import Mathlib.Data.List.Basic

/-!
# Running extrema

A loop keeps the smallest of the values it meets: a value replaces the kept one where it is `<` it.  Some
values may be no numbers (NaN): they are `<` nothing and nothing is `<` them.

* `least`, `greatest`      the value kept at the end;
* `Reads val`              `val` reads the numbers, and `<` compares what is read;
* `Reads.least`            the kept value is the least number met, the one at the start included;
* `Reads.greatest`         the same in the dual order;
* `isLeast_of_insert`     a start beyond all values is not among the extrema of the others;
* `least_of_le`, `greatest_of_ge`  a loop that starts beyond all values ends at one of them.
-/

set_option linter.unusedVariables false
set_option linter.unusedSectionVars false

namespace Extrema
variable {V L : Type*} [LT V] [DecidableLT V] [LinearOrder L]

def least (m : V) (l : List V) : V := l.foldl (fun m x => if x < m then x else m) m

def greatest (m : V) (l : List V) : V := l.foldl (fun m x => if m < x then x else m) m

/-- `val v` is the number that `v` is, if it is one. -/
def Reads (val : V → Option L) : Prop := ∀ a b : V, a < b ↔ ∃ x ∈ val a, ∃ y ∈ val b, x < y

/-- in an order every value is a number -/
theorem reads_some : Reads (V := L) (some : L → Option L) := by
  intro a b
  simp

variable {val : V → Option L}

theorem Reads.dual (h : Reads val) : Reads (V := Vᵒᵈ) (L := Lᵒᵈ) val := by
  intro a b
  refine (h b a).trans ⟨?_, ?_⟩
  · rintro ⟨x, hx, y, hy, hlt⟩
    exact ⟨y, hy, x, hx, hlt⟩
  · rintro ⟨x, hx, y, hy, hlt⟩
    exact ⟨y, hy, x, hx, hlt⟩

theorem Reads.least (h : Reads val) {m : V} {a : L} (hm : val m = some a) (l : List V) :
    ∃ b, val (least m l) = some b ∧ IsLeast (insert a {x | ∃ v ∈ l, val v = some x}) b := by
  induction l generalizing m a with
  | nil => exact ⟨a, hm, by simp⟩
  | cons v l ih =>
    by_cases hv : v < m
    · obtain ⟨x, hx, y, hy, hlt⟩ := (h v m).mp hv
      obtain rfl : y = a := Option.some.inj (hy.symm.trans hm)
      obtain ⟨b, hb, hleast⟩ := ih hx
      refine ⟨b, by rw [← hb, Extrema.least, List.foldl_cons, if_pos hv]; rfl, ?_, ?_⟩
      · rcases hleast.1 with rfl | ⟨w, hw, hwb⟩
        · exact .inr ⟨v, List.mem_cons_self, hx⟩
        · exact .inr ⟨w, List.mem_cons_of_mem _ hw, hwb⟩
      · rintro z (rfl | ⟨w, hw, hwz⟩)
        · exact (hleast.2 (.inl rfl)).trans hlt.le
        · rcases List.mem_cons.mp hw with rfl | hw
          · exact hleast.2 (.inl (Option.some.inj (hwz.symm.trans hx)))
          · exact hleast.2 (.inr ⟨w, hw, hwz⟩)
    · obtain ⟨b, hb, hleast⟩ := ih hm
      refine ⟨b, by rw [← hb, Extrema.least, List.foldl_cons, if_neg hv]; rfl, ?_, ?_⟩
      · rcases hleast.1 with rfl | ⟨w, hw, hwb⟩
        · exact .inl rfl
        · exact .inr ⟨w, List.mem_cons_of_mem _ hw, hwb⟩
      · rintro z (rfl | ⟨w, hw, hwz⟩)
        · exact hleast.2 (.inl rfl)
        · rcases List.mem_cons.mp hw with rfl | hw
          · have hle : a ≤ z := not_lt.mp fun hlt => hv ((h w m).mpr ⟨z, hwz, a, hm, hlt⟩)
            exact (hleast.2 (.inl rfl)).trans hle
          · exact hleast.2 (.inr ⟨w, hw, hwz⟩)

theorem Reads.greatest (h : Reads val) {m : V} {a : L} (hm : val m = some a) (l : List V) :
    ∃ b, val (greatest m l) = some b ∧ IsGreatest (insert a {x | ∃ v ∈ l, val v = some x}) b :=
  Reads.least h.dual hm l

/-! ## from beyond all values -/

/-- A start beyond all values is the extremum of no other set. -/
theorem isLeast_of_insert [OrderTop L] {s : Set L} {x : L} (h : s.Nonempty)
    (hx : IsLeast (insert ⊤ s) x) : IsLeast s x := by
  refine ⟨?_, fun y hy => hx.2 (.inr hy)⟩
  rcases hx.1 with rfl | hmem
  · obtain ⟨y, hy⟩ := h
    obtain rfl : y = ⊤ := top_le_iff.mp (hx.2 (.inr hy))
    exact hy
  · exact hmem

theorem isGreatest_of_insert [OrderBot L] {s : Set L} {x : L}
    (h : s.Nonempty) (hx : IsGreatest (insert ⊥ s) x) : IsGreatest s x :=
  isLeast_of_insert (L := Lᵒᵈ) h hx

variable {A : Type*} [LinearOrder A] {f : A → L}

/-- The loop that starts at a bound of the values ends at one of them. -/
theorem least_of_le (hf : StrictMono f) {m : L} (hm : ∀ a, f a ≤ m) {xs : List A} (h : xs ≠ []) :
    ∃ r, least m (xs.map f) = f r ∧ IsLeast {x | x ∈ xs} r := by
  obtain ⟨b, hb, hmem, hlow⟩ := reads_some.least rfl (m := m) (xs.map f)
  have hb : least m (xs.map f) = b := Option.some.inj hb
  have hle : ∀ x ∈ xs, b ≤ f x := fun x hx => hlow (.inr ⟨f x, List.mem_map_of_mem hx, rfl⟩)
  obtain ⟨r, hr, rfl⟩ : ∃ r ∈ xs, f r = b := by
    rcases hmem with rfl | ⟨v, hv, hvb⟩
    · obtain ⟨x, hx⟩ := List.exists_mem_of_ne_nil xs h
      exact ⟨x, hx, (hm x).antisymm (hle x hx)⟩
    · obtain rfl := Option.some.inj hvb
      exact List.mem_map.mp hv
  exact ⟨r, hb, hr, fun x hx => hf.le_iff_le.mp (hle x hx)⟩

theorem greatest_of_ge (hf : StrictMono f) {m : L} (hm : ∀ a, m ≤ f a) {xs : List A} (h : xs ≠ []) :
    ∃ r, greatest m (xs.map f) = f r ∧ IsGreatest {x | x ∈ xs} r :=
  least_of_le (A := Aᵒᵈ) (L := Lᵒᵈ) hf.dual hm h

end Extrema
