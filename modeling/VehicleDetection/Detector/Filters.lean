import VehicleDetection.Detector.Clusters
import VehicleDetection.Detector.Extent

/-!
# `point_cloud_processing.cpp`: the filters

What is called of the point cloud library is a `Pcl`; `Documented` is what its documentation says of it.

* `voxelDownsample`, `cropRoi`, `removeGroundPlane`   the filters;
* `cropRoi_inside`               no point that is left is outside the region;
* `removeGroundPlane_partition`  the ground and the rest are the points that there were;
* `computeAabb64_within`         a box around points of the region is in the region.

The bounds of the region are `double` and become `float`.
-/

set_option linter.unusedVariables false

namespace VD
open VehicleDetectorNode

abbrev PointCloudXYZ := List (PointXYZ Float32)

/-- the filters and the segmentation, with the values that are set for them -/
structure Pcl where
  voxelGrid : Float32 → PointCloudXYZ → PointCloudXYZ
  cropBox : PointXYZ Float32 → PointXYZ Float32 → PointCloudXYZ → PointCloudXYZ
  segment : Float → PointCloudXYZ → PointIndices
  extractIndices : Bool → PointIndices → PointCloudXYZ → PointCloudXYZ
  components : PointCloudXYZ → Float → List PointIndices

structure GroundRemovalResult where
  nonGround : PointCloudXYZ := []
  ground : PointCloudXYZ := []
  succeeded : Bool := false
  inliers : Nat := 0

namespace RoiBounds
variable (roi : RoiBounds)

/-- the corners of the region as `crop_roi` sets them -/
def castMin : PointXYZ Float32 := ⟨Double.narrow roi.minX, Double.narrow roi.minY, Double.narrow roi.minZ⟩
def castMax : PointXYZ Float32 := ⟨Double.narrow roi.maxX, Double.narrow roi.maxY, Double.narrow roi.maxZ⟩

end RoiBounds

namespace Pcl
variable (pcl : Pcl)

def voxelDownsample (input : Option PointCloudXYZ) (leafSize : Float) : PointCloudXYZ :=
  match input with
  | none => []
  | some cloud =>
    if cloud.isEmpty then []
    else if ¬ leafSize > 0.0 then cloud
    else pcl.voxelGrid (Double.narrow leafSize) cloud

def cropRoi (input : Option PointCloudXYZ) (roi : RoiBounds) : PointCloudXYZ :=
  match input with
  | none => []
  | some cloud => if cloud.isEmpty then [] else pcl.cropBox roi.castMin roi.castMax cloud

def removeGroundPlane (input : Option PointCloudXYZ) (distanceThreshold : Float) (skipThreshold : UInt64) :
    GroundRemovalResult :=
  match input with
  | none => {}
  | some cloud =>
    if cloud.isEmpty then {}
    else if cloud.length < skipThreshold.toNat then { nonGround := cloud }
    else
      let inliers := pcl.segment distanceThreshold cloud
      if inliers.indices.isEmpty then { nonGround := cloud }
      else {
        ground := pcl.extractIndices false inliers cloud
        nonGround := pcl.extractIndices true inliers cloud
        succeeded := true
        inliers := inliers.indices.length }

end Pcl

/-! ## what is documented -/

/-- no coordinate is outside; one that is no number is not -/
def Inside (min max p : PointXYZ Float32) : Prop := ∀ a, ¬ p.coord a < min.coord a ∧ ¬ max.coord a < p.coord a

/-- these are indices of points of the cloud, each of them once -/
structure PointIndices.Indexes (indices : PointIndices) (cloud : PointCloudXYZ) : Prop where
  nodup : indices.indices.Nodup
  inRange : ∀ idx ∈ indices.indices, 0 ≤ idx.toInt ∧ idx.toInt.toNat < cloud.length

/-- the points whose index is not in the list -/
def pointsBeside (cloud : PointCloudXYZ) (indices : PointIndices) : PointCloudXYZ :=
  (cloud.zipIdx.filter fun x => ¬ ∃ idx ∈ indices.indices, idx.toInt = x.2).map Prod.fst

structure Pcl.Documented (pcl : Pcl) : Prop where
  cropBox : ∀ min max input, ∀ p ∈ pcl.cropBox min max input, p ∈ input ∧ Inside min max p
  segment : ∀ threshold input, (pcl.segment threshold input).Indexes input
  indexed : ∀ indices input, pcl.extractIndices false indices input = pointsAt input indices
  others : ∀ indices input, pcl.extractIndices true indices input = pointsBeside input indices

/-! ## the ground -/

section
variable {cloud : PointCloudXYZ} {indices : PointIndices}

/-- the points at the indices, with their places in the cloud -/
def placed (cloud : PointCloudXYZ) (indices : PointIndices) : List (PointXYZ Float32 × Nat) :=
  indices.indices.filterMap fun idx => (pointAt cloud idx).map fun p => (p, idx.toInt.toNat)

theorem mem_placed {x : PointXYZ Float32 × Nat} :
    x ∈ placed cloud indices ↔ cloud[x.2]? = some x.1 ∧ ∃ idx ∈ indices.indices, idx.toInt = x.2 := by
  simp only [placed, List.mem_filterMap, Option.map_eq_some_iff, pointAt_eq_some]
  constructor
  · rintro ⟨idx, hm, p, ⟨h₀, hp⟩, rfl⟩
    exact ⟨hp, idx, hm, (Int.toNat_of_nonneg h₀).symm⟩
  · rintro ⟨hp, idx, hm, hidx⟩
    have hplace : idx.toInt.toNat = x.2 := by omega
    exact ⟨idx, hm, x.1, ⟨by omega, hplace ▸ hp⟩, Prod.ext rfl hplace⟩

theorem placed_nodup (h : indices.indices.Nodup) : (placed cloud indices).Nodup := by
  refine h.filterMap fun idx idx' x hx hx' => ?_
  obtain ⟨p, hp, rfl⟩ := Option.map_eq_some_iff.mp hx
  obtain ⟨p', hp', he⟩ := Option.map_eq_some_iff.mp hx'
  obtain ⟨h₀, -⟩ := (pointAt_eq_some cloud).mp hp
  obtain ⟨h₀', -⟩ := (pointAt_eq_some cloud).mp hp'
  have hplace : idx'.toInt.toNat = idx.toInt.toNat := congrArg Prod.snd he
  exact Int32.toInt_inj.mp (by omega)

/-- Indices that are each there once, and the other indices: every point is on one side. -/
theorem pointsAt_append_pointsBeside (h : indices.indices.Nodup) :
    (pointsAt cloud indices ++ pointsBeside cloud indices).Perm cloud := by
  have hplaced : (placed cloud indices).Perm
      (cloud.zipIdx.filter fun x => ∃ idx ∈ indices.indices, idx.toInt = x.2) := by
    rw [List.perm_ext_iff_of_nodup (placed_nodup h) ((List.Nodup.of_map _ (List.nodup_zipIdx_map_snd cloud)).filter _)]
    rintro ⟨p, n⟩
    rw [mem_placed, List.mem_filter, List.mk_mem_zipIdx_iff_getElem?, decide_eq_true_iff]
  have hpoints : (placed cloud indices).map Prod.fst = pointsAt cloud indices := by
    rw [placed, List.map_filterMap, pointsAt]
    refine List.filterMap_congr fun idx _ => ?_
    rw [Option.map_map]
    exact Option.map_id'
  have hsplit := (List.filter_append_perm
    (fun x : PointXYZ Float32 × Nat => decide (∃ idx ∈ indices.indices, idx.toInt = x.2)) cloud.zipIdx).map Prod.fst
  rw [List.zipIdx_map_fst] at hsplit
  rw [← hpoints, pointsBeside, ← List.map_append]
  simp only [decide_not]
  exact ((hplaced.append_right _).map _).trans hsplit

theorem pointsAt_length (h : indices.Indexes cloud) :
    (pointsAt cloud indices).length = indices.indices.length := by
  rw [pointsAt, List.filterMap_length_eq_length]
  intro idx hm
  obtain ⟨h₀, h₁⟩ := h.inRange idx hm
  rw [(pointAt_eq_some cloud).mpr ⟨h₀, List.getElem?_eq_getElem h₁⟩]
  rfl

end

namespace Pcl
variable {pcl : Pcl}

theorem cropRoi_inside (hp : pcl.Documented) (input : Option PointCloudXYZ) (roi : RoiBounds) :
    ∀ p ∈ pcl.cropRoi input roi, Inside roi.castMin roi.castMax p := by
  intro p hm
  unfold cropRoi at hm
  split at hm
  · cases hm
  · split at hm
    · cases hm
    · exact (hp.cropBox _ _ _ p hm).2

/-- Ground and rest are the points of the cloud; a cloud with fewer points than `skipThreshold` has no
ground. -/
theorem removeGroundPlane_partition (hp : pcl.Documented) (cloud : PointCloudXYZ) (distanceThreshold : Float)
    (skipThreshold : UInt64) :
    let r := pcl.removeGroundPlane (some cloud) distanceThreshold skipThreshold
    (r.ground ++ r.nonGround).Perm cloud ∧ r.inliers = r.ground.length ∧
      (r.succeeded = true ↔ r.ground ≠ []) ∧
      (cloud.length < skipThreshold.toNat → r.nonGround = cloud) := by
  have hkept : let r : GroundRemovalResult := { nonGround := cloud }
      (r.ground ++ r.nonGround).Perm cloud ∧ r.inliers = r.ground.length ∧
        (r.succeeded = true ↔ r.ground ≠ []) ∧ (cloud.length < skipThreshold.toNat → r.nonGround = cloud) :=
    ⟨List.Perm.refl _, rfl, iff_of_false Bool.noConfusion (fun h => h rfl), fun _ => rfl⟩
  unfold removeGroundPlane
  dsimp only
  split
  · rename_i he
    rw [List.isEmpty_iff.mp he] at hkept ⊢
    exact hkept
  · split
    · exact hkept
    · rename_i hlong
      split
      · exact hkept
      · rename_i hinliers
        have hi := hp.segment distanceThreshold cloud
        dsimp only
        rw [hp.indexed, hp.others]
        have hlen := pointsAt_length hi
        refine ⟨pointsAt_append_pointsBeside hi.nodup, hlen.symm, iff_of_true rfl fun hnil => ?_,
          fun h => absurd h hlong⟩
        rw [hnil] at hlen
        exact hinliers (List.isEmpty_iff.mpr (List.length_eq_zero_iff.mp hlen.symm))

end Pcl

/-! ## boxes in the region -/

/-- no side is outside -/
def AxisAlignedBox.Within (box : AxisAlignedBox Float) (min max : PointXYZ Float32) : Prop :=
  ∀ a, ¬ box.lower a < Double.widen (min.coord a) ∧ ¬ Double.widen (max.coord a) < box.upper a

/-- A box is no further out than the points it is made of. -/
theorem computeAabb64_within {cloud : PointCloudXYZ} {min max : PointXYZ Float32}
    (h : ∀ p ∈ cloud, Inside min max p) (indices : PointIndices) :
    (computeAabb64 cloud indices).Within min max := by
  have hreached : ∀ p ∈ reached cloud indices, Inside min max p := by
    rintro p ⟨idx, -, -, hp⟩
    exact h p (List.mem_of_getElem? hp)
  intro a
  constructor
  · obtain ⟨lo, hlo, hleast⟩ := computeAabb64_lower cloud indices a
    intro hlt
    obtain ⟨x, hx, y, hy, hxy⟩ := (Double.reads _ _).mp hlt
    rw [Double.value_widen] at hy
    cases hx.symm.trans hlo
    rcases hleast.1 with rfl | ⟨p, hp, hv⟩
    · exact absurd hxy not_top_lt
    · exact (hreached p hp a).1 ((Double.reads32 _ _).mpr ⟨_, hv, y, hy, hxy⟩)
  · obtain ⟨hi, hhi, hgreatest⟩ := computeAabb64_upper cloud indices a
    intro hlt
    obtain ⟨x, hx, y, hy, hxy⟩ := (Double.reads _ _).mp hlt
    rw [Double.value_widen] at hx
    cases hy.symm.trans hhi
    rcases hgreatest.1 with rfl | ⟨p, hp, hv⟩
    · exact absurd hxy not_lt_bot
    · exact (hreached p hp a).2 ((Double.reads32 _ _).mpr ⟨x, hx, _, hv, hxy⟩)

/-- a library for clouds of one point: there is no plane, and the point is a cluster -/
def onePointPcl : Pcl where
  voxelGrid _ cloud := cloud
  cropBox min max cloud := cloud.filter fun p => [Axis.x, .y, .z].all fun a =>
    !(p.coord a < min.coord a : Bool) && !(max.coord a < p.coord a : Bool)
  segment _ _ := ⟨[]⟩
  extractIndices negative indices cloud :=
    if negative then pointsBeside cloud indices else pointsAt cloud indices
  components := wholeCloud

theorem onePointPcl_documented : onePointPcl.Documented where
  cropBox min max cloud p hm := by
    obtain ⟨hp, hall⟩ := List.mem_filter.mp hm
    refine ⟨hp, fun a => ?_⟩
    have ha := List.all_eq_true.mp hall a (by cases a <;> decide)
    rw [Bool.and_eq_true, Bool.not_eq_true', Bool.not_eq_true', decide_eq_false_iff_not,
      decide_eq_false_iff_not] at ha
    exact ha
  segment _ _ := ⟨List.nodup_nil, fun _ h => absurd h List.not_mem_nil⟩
  indexed _ _ := rfl
  others _ _ := rfl

end VD
