import VehicleDetection.Base.Double
import VehicleDetection.Base.Hull
import VehicleDetection.Detector.Boxes

/-!
# `compute_aabb` in floating point

`Boxes` has the loop over any numbers.  Here its points are of `float` and its box is of `double`, with
NaN and the infinities among the coordinates.

* `reached`            the points at the indices that are in range;
* `number`             the number that a coordinate is, if it is one;
* `Denotes`            the sides of a box of `double` are the sides of a box of numbers;
* `computeAabb64_denotes`  the loop computes the hull of the reached points;
* `computeAabb64_hull`     minimum and maximum on each axis, containment, independence of the order, join.
-/

set_option linter.unusedVariables false

namespace VD
open BStr OrderDual

inductive Axis
  | x
  | y
  | z
deriving DecidableEq

def PointXYZ.coord {S : Type} (p : PointXYZ S) : Axis → S
  | .x => p.x
  | .y => p.y
  | .z => p.z

namespace AxisAlignedBox
variable {R : Type} (box : AxisAlignedBox R)

def lower : Axis → R
  | .x => box.minX
  | .y => box.minY
  | .z => box.minZ

def upper : Axis → R
  | .x => box.maxX
  | .y => box.maxY
  | .z => box.maxZ

end AxisAlignedBox

section
variable {S R : Type} [LT R] [DecidableLT R] [Neg R] (widen : S → R) (infinity : R)
  (cloud : List (PointXYZ S)) (indices : PointIndices)

theorem computeAabb_lower (a : Axis) :
    (computeAabb widen infinity cloud indices).lower a
      = Extrema.least infinity ((pointsAt cloud indices).map fun p => widen (p.coord a)) := by
  rw [computeAabb_eq]
  cases a with
  | x => rfl
  | y => rfl
  | z => rfl

theorem computeAabb_upper (a : Axis) :
    (computeAabb widen infinity cloud indices).upper a
      = Extrema.greatest (-infinity) ((pointsAt cloud indices).map fun p => widen (p.coord a)) := by
  rw [computeAabb_eq]
  cases a with
  | x => rfl
  | y => rfl
  | z => rfl

end

/-- the loop as it is compiled -/
def computeAabb64 (cloud : List (PointXYZ Float32)) (indices : PointIndices) : AxisAlignedBox Float :=
  computeAabb Double.widen Double.infinity cloud indices

/-- the points at the indices that are in range -/
def reached (cloud : List (PointXYZ Float32)) (indices : PointIndices) : Set (PointXYZ Float32) :=
  {p | ∃ idx ∈ indices.indices, 0 ≤ idx.toInt ∧ cloud[idx.toInt.toNat]? = some p}

/-- NaN is no number -/
noncomputable def number (p : PointXYZ Float32) (a : Axis) : Option EReal := Double.value32 (p.coord a)

/-- the numbers of these points on an axis -/
def numbers (points : Set (PointXYZ Float32)) (a : Axis) : Set EReal := Hull.coords number points a

structure Denotes (box : AxisAlignedBox Float) (b : Hull.Box Axis EReal) : Prop where
  lower : ∀ a, Double.value (box.lower a) = some (ofDual (b a).1)
  upper : ∀ a, Double.value (box.upper a) = some (b a).2

/-- the six sides compare equal -/
def AxisAlignedBox.Same (box box' : AxisAlignedBox Float) : Prop :=
  ∀ a, (box.lower a == box'.lower a) = true ∧ (box.upper a == box'.upper a) = true

theorem Denotes.same {box box' : AxisAlignedBox Float} {b : Hull.Box Axis EReal} (h : Denotes box b)
    (h' : Denotes box' b) : box.Same box' := by
  intro a
  rw [Double.beq_iff, Double.beq_iff]
  exact ⟨⟨_, h.lower a, _, h'.lower a, rfl⟩, ⟨_, h.upper a, _, h'.upper a, rfl⟩⟩

theorem Denotes.unique {box : AxisAlignedBox Float} {b b' : Hull.Box Axis EReal} (h : Denotes box b)
    (h' : Denotes box b') : b = b' := by
  funext a
  have hlo := Option.some.inj ((h.lower a).symm.trans (h'.lower a))
  have hhi := Option.some.inj ((h.upper a).symm.trans (h'.upper a))
  exact Prod.ext hlo hhi

section
variable (cloud : List (PointXYZ Float32)) (indices : PointIndices)

theorem pointAt_eq_some {idx : Int32} {p : PointXYZ Float32} :
    pointAt cloud idx = some p ↔ 0 ≤ idx.toInt ∧ cloud[idx.toInt.toNat]? = some p := by
  unfold pointAt
  by_cases h : idx.toInt < 0
  · rw [if_pos h]
    exact ⟨nofun, fun hp => absurd hp.1 (by omega)⟩
  · rw [if_neg h]
    exact ⟨fun hp => ⟨by omega, hp⟩, fun hp => hp.2⟩

theorem mem_reached {p : PointXYZ Float32} : p ∈ reached cloud indices ↔ p ∈ pointsAt cloud indices := by
  rw [pointsAt, List.mem_filterMap]
  simp only [pointAt_eq_some]
  rfl

theorem numbers_eq (a : Axis) :
    numbers (reached cloud indices) a
      = {x | ∃ v ∈ (pointsAt cloud indices).map (fun p => Double.widen (p.coord a)),
          Double.value v = some x} := by
  ext x
  constructor
  · rintro ⟨p, hp, hx⟩
    refine ⟨_, List.mem_map_of_mem ((mem_reached cloud indices).mp hp), ?_⟩
    rw [Double.value_widen]
    exact hx
  · rintro ⟨v, hv, hx⟩
    obtain ⟨p, hp, rfl⟩ := List.mem_map.mp hv
    rw [Double.value_widen] at hx
    exact ⟨p, (mem_reached cloud indices).mpr hp, hx⟩

/-- On each axis the loop ends at the least number that it met, its start included. -/
theorem computeAabb64_lower (a : Axis) :
    ∃ lo, Double.value ((computeAabb64 cloud indices).lower a) = some lo ∧
      IsLeast (insert ⊤ (numbers (reached cloud indices) a)) lo := by
  rw [computeAabb64, computeAabb_lower, numbers_eq]
  exact Double.reads.least Double.value_infinity _

theorem computeAabb64_upper (a : Axis) :
    ∃ hi, Double.value ((computeAabb64 cloud indices).upper a) = some hi ∧
      IsGreatest (insert ⊥ (numbers (reached cloud indices) a)) hi := by
  rw [computeAabb64, computeAabb_upper, numbers_eq]
  exact Double.reads.greatest Double.value_neg_infinity _

/-- The loop computes the hull of the points that it reaches. -/
theorem computeAabb64_denotes :
    Denotes (computeAabb64 cloud indices) (Hull.hull number (reached cloud indices)) := by
  constructor
  · intro a
    obtain ⟨lo, hv, hlo⟩ := computeAabb64_lower cloud indices a
    have he : sInf (insert ⊤ (numbers (reached cloud indices) a)) = lo := hlo.isGLB.sInf_eq
    rw [sInf_insert, top_inf_eq] at he
    rw [hv, ← he]
    rfl
  · intro a
    obtain ⟨hi, hv, hhi⟩ := computeAabb64_upper cloud indices a
    have he : sSup (insert ⊥ (numbers (reached cloud indices) a)) = hi := hhi.isLUB.sSup_eq
    rw [sSup_insert, bot_sup_eq] at he
    rw [hv, ← he]
    rfl

theorem reached_append (indices' : PointIndices) :
    reached cloud ⟨indices.indices ++ indices'.indices⟩
      = reached cloud indices ∪ reached cloud indices' := by
  ext p
  simp only [reached, List.mem_append, or_and_right, exists_or]
  rfl

variable {indices} in
theorem reached_congr {indices' : PointIndices}
    (h : ∀ idx, idx ∈ indices'.indices ↔ idx ∈ indices.indices) :
    reached cloud indices' = reached cloud indices := by
  ext p
  simp only [reached, h]

end

/-- For every cloud and every list of indices: on each axis the box has the minimum and the maximum of the
numbers at the indices in range, and `+∞`, `-∞` where there are none; it contains the points there and is
the least box that does; lists with the same indices, in any order and number, give the same box; and two
lists behind each other give the join of their boxes. -/
theorem computeAabb64_hull (cloud : List (PointXYZ Float32)) (indices : PointIndices) :
    (∀ a, numbers (reached cloud indices) a = ∅ →
      Double.value ((computeAabb64 cloud indices).lower a) = some ⊤ ∧
      Double.value ((computeAabb64 cloud indices).upper a) = some ⊥) ∧
    (∀ a, (numbers (reached cloud indices) a).Nonempty →
      (∃ lo, Double.value ((computeAabb64 cloud indices).lower a) = some lo ∧
        IsLeast (numbers (reached cloud indices) a) lo) ∧
      ∃ hi, Double.value ((computeAabb64 cloud indices).upper a) = some hi ∧
        IsGreatest (numbers (reached cloud indices) a) hi) ∧
    (∃ b, Denotes (computeAabb64 cloud indices) b ∧
      IsLeast {b | ∀ p ∈ reached cloud indices, Hull.Contains number b p} b) ∧
    (∀ indices' : PointIndices, (∀ idx, idx ∈ indices'.indices ↔ idx ∈ indices.indices) →
      (computeAabb64 cloud indices').Same (computeAabb64 cloud indices)) ∧
    ∀ (indices' : PointIndices) b b', Denotes (computeAabb64 cloud indices) b →
      Denotes (computeAabb64 cloud indices') b' →
      Denotes (computeAabb64 cloud ⟨indices.indices ++ indices'.indices⟩) (b ⊔ b') := by
  refine ⟨?_, ?_, ?_, ?_, ?_⟩
  · intro a h
    obtain ⟨lo, hlo, hleast⟩ := computeAabb64_lower cloud indices a
    obtain ⟨hi, hhi, hgreatest⟩ := computeAabb64_upper cloud indices a
    rw [h] at hleast hgreatest
    rw [hlo, hhi]
    obtain rfl | h := hleast.1
    · obtain rfl | h := hgreatest.1
      · exact ⟨rfl, rfl⟩
      · exact absurd h (Set.notMem_empty hi)
    · exact absurd h (Set.notMem_empty lo)
  · intro a h
    obtain ⟨lo, hlo, hleast⟩ := computeAabb64_lower cloud indices a
    obtain ⟨hi, hhi, hgreatest⟩ := computeAabb64_upper cloud indices a
    exact ⟨⟨lo, hlo, Extrema.isLeast_of_insert h hleast⟩, ⟨hi, hhi, Extrema.isGreatest_of_insert h hgreatest⟩⟩
  · exact ⟨_, computeAabb64_denotes cloud indices, Hull.isLeast_hull _⟩
  · intro indices' h
    have hd := computeAabb64_denotes cloud indices'
    rw [reached_congr cloud h] at hd
    exact hd.same (computeAabb64_denotes cloud indices)
  · intro indices' b b' hb hb'
    obtain rfl := hb.unique (computeAabb64_denotes cloud indices)
    obtain rfl := hb'.unique (computeAabb64_denotes cloud indices')
    have hd := computeAabb64_denotes cloud ⟨indices.indices ++ indices'.indices⟩
    rw [reached_append, Hull.hull_union] at hd
    exact hd

end VD
