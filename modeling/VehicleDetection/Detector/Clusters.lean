import VehicleDetection.Detector.Bounds
import VehicleDetection.Detector.Boxes

/-!
# `extract_clusters` and its two sizes

The sizes are `int64` parameters, `size_t` in the snapshot and `int` for the clustering, which compares
the number of points of a cluster with them.

* `extractClusters`   the clusters that are kept;
* `KeepsExactly`      these are the clusters between the two parameters;
* `SizesSurvive`      when the two parameters come through the conversion to `int`;
* `keepsExactly_iff`  for accepted parameters the two are the same.
-/

set_option linter.unusedVariables false

namespace VD
open VehicleDetectorNode

/-- `static_cast<int>` of a `size_t` -/
def castInt (size : UInt64) : Int32 := size.toUInt32.toInt32

section
variable (components : List (PointXYZ Float32) → Float → List PointIndices)

/-- `components` are the clusters of a cloud under a tolerance, before their sizes are compared. -/
def extractClusters (input : Option (List (PointXYZ Float32))) (params : EuclideanClusteringParams) :
    List PointIndices :=
  match input with
  | none => []
  | some cloud =>
    if cloud.isEmpty then []
    else (components cloud params.tolerance).filter fun cluster =>
      (castInt params.minSize).toInt ≤ cluster.indices.length &&
        cluster.indices.length ≤ (castInt params.maxSize).toInt

theorem mem_extractClusters {cloud : List (PointXYZ Float32)} (hne : cloud ≠ [])
    {params : EuclideanClusteringParams} {cluster : PointIndices}
    (h : cluster ∈ components cloud params.tolerance) :
    cluster ∈ extractClusters components (some cloud) params ↔
      (castInt params.minSize).toInt ≤ cluster.indices.length ∧
        cluster.indices.length ≤ (castInt params.maxSize).toInt := by
  show cluster ∈ (if cloud.isEmpty then [] else _) ↔ _
  rw [if_neg (by rwa [List.isEmpty_iff]), List.mem_filter, Bool.and_eq_true, decide_eq_true_iff,
    decide_eq_true_iff]
  exact and_iff_right h

end

/-- Whatever the clusters of a cloud are, those of `n` points, `1 ≤ n < 2 ^ 31`, are kept exactly when `n`
is between the two parameters. -/
def KeepsExactly (params : EuclideanClusteringParams) (minSize maxSize : Int64) : Prop :=
  ∀ components cloud cluster, cloud ≠ [] → cluster ∈ components cloud params.tolerance →
    1 ≤ cluster.indices.length → cluster.indices.length < 2 ^ 31 →
      (cluster ∈ extractClusters components (some cloud) params ↔
        minSize.toInt ≤ cluster.indices.length ∧ cluster.indices.length ≤ maxSize.toInt)

/-! ## the conversion -/

theorem castInt_toUInt64 (x : Int64) : (castInt x.toUInt64).toInt = x.toInt.bmod (2 ^ 32) := by
  have e : castInt x.toUInt64 = x.toInt32 := by
    apply Int32.toBitVec_inj.mp
    rw [Int64.toBitVec_toInt32, BitVec.signExtend_eq_setWidth_of_le _ (by decide)]
    rfl
  rw [e, Int64.toInt_toInt32]

/-- Either both sizes are `int`s, or the cast of the larger one is the largest `int`, or no cluster has as
many points and the casts are out of order or below 1. -/
def SizesSurvive (minSize maxSize : Int) : Prop :=
  maxSize < 2 ^ 31 ∨
  minSize < 2 ^ 31 ∧ maxSize.bmod (2 ^ 32) = 2 ^ 31 - 1 ∨
  2 ^ 31 ≤ minSize ∧ (maxSize.bmod (2 ^ 32) < 1 ∨ maxSize.bmod (2 ^ 32) < minSize.bmod (2 ^ 32))

/-- Two pairs of bounds admit the same sizes. -/
theorem sizes_agree_iff {minSize maxSize : Int} (hmin : 1 ≤ minSize) (hle : minSize ≤ maxSize) :
    (∀ n : Nat, 1 ≤ n → n < 2 ^ 31 →
      (minSize.bmod (2 ^ 32) ≤ n ∧ n ≤ maxSize.bmod (2 ^ 32) ↔ minSize ≤ n ∧ n ≤ maxSize)) ↔
    SizesSurvive minSize maxSize := by
  have hlo := @Int.le_bmod maxSize (2 ^ 32) (by decide)
  have hhi := @Int.bmod_lt maxSize (2 ^ 32) (by decide)
  have hlo' := @Int.le_bmod minSize (2 ^ 32) (by decide)
  have hhi' := @Int.bmod_lt minSize (2 ^ 32) (by decide)
  have hid : ∀ x : Int, 0 ≤ x → x < 2 ^ 31 → x.bmod (2 ^ 32) = x := by
    intro x h₁ h₂
    exact Int.bmod_eq_of_le (by omega) (by omega)
  unfold SizesSurvive
  by_cases hmax : maxSize < 2 ^ 31
  · rw [hid maxSize (by omega) hmax, hid minSize (by omega) (by omega)]
    exact iff_of_true (fun n _ _ => Iff.rfl) (.inl hmax)
  by_cases hmin' : minSize < 2 ^ 31
  · rw [hid minSize (by omega) hmin']
    constructor
    · intro h
      -- the largest size is between the parameters
      have h₁ := (h (2 ^ 31 - 1) (by omega) (by omega)).mpr ⟨by omega, by omega⟩
      exact .inr (.inl ⟨hmin', by omega⟩)
    · rintro (h | ⟨-, h⟩ | ⟨h, -⟩) n h₁ h₂
      · omega
      · omega
      · omega
  · constructor
    · intro h
      refine .inr (.inr ⟨by omega, ?_⟩)
      by_contra hc
      -- otherwise the cast of the upper size is itself a size between the casts
      have h₁ := (h (maxSize.bmod (2 ^ 32)).toNat (by omega) (by omega)).mp ⟨by omega, by omega⟩
      omega
    · rintro (h | ⟨h, -⟩ | ⟨-, h⟩) n h₁ h₂
      · omega
      · omega
      · omega

/-! ## accepted parameters -/

/-- a snapshot with these two parameters -/
def withSizes (s : Snapshot) (minSize maxSize : Int64) : Snapshot :=
  { s with clustering.minSize := minSize.toUInt64, clustering.maxSize := maxSize.toUInt64 }

theorem sizes_of_checked {s : Snapshot} {minSize maxSize : Int64}
    (h : checkCandidate (withSizes s minSize maxSize) = .ok ()) :
    1 ≤ minSize.toInt ∧ minSize.toInt ≤ maxSize.toInt := by
  obtain ⟨⟨-, -, -, -, hmin, hmax⟩, -, -⟩ := enforce_ok.mp h
  exact ⟨Int64.le_iff_toInt_le.mp hmin, Int64.le_iff_toInt_le.mp hmax⟩

def allIndices (cloud : List (PointXYZ Float32)) : PointIndices :=
  ⟨(List.range cloud.length).map fun i => Int32.ofNat i⟩

/-- the whole cloud as one cluster, as where its points are close together -/
def wholeCloud (cloud : List (PointXYZ Float32)) (tolerance : Float) : List PointIndices :=
  [allIndices cloud]

/-- the same point again and again -/
def coincident (n : Nat) : List (PointXYZ Float32) := List.replicate n ⟨0, 0, 0⟩

theorem allIndices_coincident (n : Nat) : (allIndices (coincident n)).indices.length = n := by
  show ((List.range (List.replicate n _).length).map _).length = n
  rw [List.length_map, List.length_range, List.length_replicate]

/-- For every snapshot and every pair of sizes that the checks accept: the clusters are kept by the two
parameters exactly when these come through the conversion to `int`. -/
theorem keepsExactly_iff (s : Snapshot) (minSize maxSize : Int64)
    (h : checkCandidate (withSizes s minSize maxSize) = .ok ()) :
    KeepsExactly (withSizes s minSize maxSize).clustering minSize maxSize ↔
      SizesSurvive minSize.toInt maxSize.toInt := by
  obtain ⟨hmin, hmax⟩ := sizes_of_checked h
  rw [← sizes_agree_iff hmin hmax, ← castInt_toUInt64, ← castInt_toUInt64]
  constructor
  · intro hk n h₁ h₂
    have hlen := allIndices_coincident n
    have hne : coincident n ≠ [] := by
      rw [coincident, Ne, List.replicate_eq_nil_iff]
      omega
    have hmem : allIndices (coincident n) ∈
        wholeCloud (coincident n) (withSizes s minSize maxSize).clustering.tolerance :=
      List.mem_singleton_self _
    have hkeep := hk wholeCloud (coincident n) _ hne hmem
    rw [mem_extractClusters wholeCloud hne hmem, hlen] at hkeep
    exact hkeep h₁ h₂
  · intro ha components cloud cluster hne hmem h₁ h₂
    rw [mem_extractClusters components hne hmem]
    exact ha _ h₁ h₂

/-- with the default of 20 points at least -/
theorem keepsExactly_iff_default :
    KeepsExactly (withSizes defaultNode.state 20 (2 ^ 31 - 1)).clustering 20 (2 ^ 31 - 1) ↔
      SizesSurvive (Int64.toInt 20) (Int64.toInt (2 ^ 31 - 1)) :=
  keepsExactly_iff defaultNode.state 20 (2 ^ 31 - 1) (by decide +kernel)

/-- Up to `2 ^ 32` points are to be kept, and a cluster of 20 points is dropped. -/
theorem keepsExactly_lost :
    checkCandidate (withSizes defaultNode.state 20 (2 ^ 32)) = .ok () ∧
      ¬ KeepsExactly (withSizes defaultNode.state 20 (2 ^ 32)).clustering 20 (2 ^ 32) := by
  refine ⟨by decide +kernel, fun h => ?_⟩
  have hne : coincident 20 ≠ [] := List.cons_ne_nil _ _
  have hmem : allIndices (coincident 20) ∈
      wholeCloud (coincident 20) (withSizes defaultNode.state 20 (2 ^ 32)).clustering.tolerance :=
    List.mem_singleton_self _
  have hkeep := h wholeCloud (coincident 20) _ hne hmem (by decide) (by decide)
  rw [mem_extractClusters wholeCloud hne hmem] at hkeep
  exact absurd (hkeep.mpr (by decide)) (by decide)

end VD
