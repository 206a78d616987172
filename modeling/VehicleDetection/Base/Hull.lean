import Mathlib

/-!
# Boxes around points

A box has a lower and an upper side on each axis; a point has a coordinate on an axis, or none there.

* `Box`         boxes, ordered by containment (the lower sides in the dual order);
* `Contains`    a point lies between the sides on the axes where it has a coordinate;
* `hull`        the infima and suprema of the coordinates;
* `isLeast_hull`  it is the least box that contains the points;
* `hull_union`  and turns unions into joins.
-/

set_option linter.unusedVariables false

namespace Hull
open OrderDual

variable {A P L : Type*}

abbrev Box (A L : Type*) := A → Lᵒᵈ × L

section
variable (coord : P → A → Option L)

/-- the coordinates of these points on an axis -/
def coords (s : Set P) (a : A) : Set L := {x | ∃ p ∈ s, coord p a = some x}

def Contains [LE L] (b : Box A L) (p : P) : Prop :=
  ∀ a, ∀ x ∈ coord p a, ofDual (b a).1 ≤ x ∧ x ≤ (b a).2

end

variable [CompleteLattice L] (coord : P → A → Option L)

def hull (s : Set P) : Box A L := fun a => (toDual (sInf (coords coord s a)), sSup (coords coord s a))

variable {coord}

theorem hull_le {s : Set P} {b : Box A L} : hull coord s ≤ b ↔ ∀ p ∈ s, Contains coord b p := by
  constructor
  · intro h p hp a x hx
    have hmem : x ∈ coords coord s a := ⟨p, hp, hx⟩
    exact ⟨(toDual_le.mp (h a).1).trans (sInf_le hmem), (le_sSup hmem).trans (h a).2⟩
  · intro h a
    refine ⟨le_toDual.mp (le_sInf ?_), sSup_le ?_⟩
    · rintro x ⟨p, hp, hx⟩
      exact (h p hp a x hx).1
    · rintro x ⟨p, hp, hx⟩
      exact (h p hp a x hx).2

theorem isLeast_hull (s : Set P) : IsLeast {b | ∀ p ∈ s, Contains coord b p} (hull coord s) :=
  ⟨hull_le.mp le_rfl, fun b hb => hull_le.mpr hb⟩

theorem hull_union (s t : Set P) : hull coord (s ∪ t) = hull coord s ⊔ hull coord t := by
  refine eq_of_forall_ge_iff fun b => ?_
  rw [sup_le_iff, hull_le, hull_le, hull_le]
  constructor
  · intro h
    exact ⟨fun p hp => h p (.inl hp), fun p hp => h p (.inr hp)⟩
  · rintro ⟨hs, ht⟩ p (hp | hp)
    · exact hs p hp
    · exact ht p hp

end Hull
