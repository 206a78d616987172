import VehicleDetection.Detector.Run

/-!
# What every accepted snapshot satisfies

* `enforce_ok`    the checks, as a conjunction of comparisons;
* `Sane`          what the rest of the node relies on;
* `sane_iff`      a snapshot that has passed the checks is sane exactly when no bound is NaN;
* `sane_run_iff`  so it is sane all the time exactly when no start value and no batch that passes the
  checks leaves NaN in a bound.

`validatePositiveDouble` compares with `>`, and fails on NaN; the bounds are compared with `≥`, which
is false on NaN, so they pass.
-/

set_option linter.unusedVariables false

namespace VD.VehicleDetectorNode
open BStr

structure Sane (s : Snapshot) : Prop where
  roi_x : s.roi.minX < s.roi.maxX
  roi_y : s.roi.minY < s.roi.maxY
  roi_z : s.roi.minZ < s.roi.maxZ
  length : s.vehicleLimits.minLength < s.vehicleLimits.maxLength
  width : s.vehicleLimits.minWidth < s.vehicleLimits.maxWidth
  height : s.vehicleLimits.minHeight < s.vehicleLimits.maxHeight
  voxel : s.voxelLeafSize > 0.0
  ground : s.groundDistanceThreshold > 0.0
  tolerance : s.clustering.tolerance > 0.0
  frame : s.targetFrameId ≠ []
  min_size : 1 ≤ s.clustering.minSize
  max_size : s.clustering.minSize ≤ s.clustering.maxSize

/-- the twelve parameters that are compared with each other -/
def boundNames : List String := [
  "roi_min_x", "roi_max_x", "roi_min_y", "roi_max_y", "roi_min_z", "roi_max_z",
  "vehicle_min_length", "vehicle_max_length", "vehicle_min_width", "vehicle_max_width",
  "vehicle_min_height", "vehicle_max_height"]

/-- a value a bound can have and be compared -/
def NotNaN (v : ParameterValue) : Prop := ∀ d, v = .double d → d.isNaN = false

/-! ## the checks -/

theorem enforce_ok {s : Snapshot} : enforceInitialParameters s = .ok () ↔
    (s.targetFrameId ≠ [] ∧ s.voxelLeafSize > 0.0 ∧ s.groundDistanceThreshold > 0.0 ∧
      s.clustering.tolerance > 0.0 ∧ 1 ≤ s.clustering.minSize.toInt64 ∧
      s.clustering.minSize.toInt64 ≤ s.clustering.maxSize.toInt64) ∧
    ¬ (s.roi.minX ≥ s.roi.maxX ∨ s.roi.minY ≥ s.roi.maxY ∨ s.roi.minZ ≥ s.roi.maxZ) ∧
    ¬ (s.vehicleLimits.minLength ≥ s.vehicleLimits.maxLength ∨
      s.vehicleLimits.minWidth ≥ s.vehicleLimits.maxWidth ∨
      s.vehicleLimits.minHeight ≥ s.vehicleLimits.maxHeight) := by
  have hchecks := firstFailure_ok [
    validateNonEmptyString "target_frame_id" s.targetFrameId,
    validatePositiveDouble "voxel_leaf_size" s.voxelLeafSize,
    validatePositiveDouble "ground_distance_threshold" s.groundDistanceThreshold,
    validatePositiveDouble "cluster_tolerance" s.clustering.tolerance,
    validateIntMin "cluster_min_size" s.clustering.minSize.toInt64 1,
    validateIntMin "cluster_max_size" s.clustering.maxSize.toInt64 s.clustering.minSize.toInt64]
  simp only [List.forall_mem_cons, validateNonEmptyString_ok, validatePositiveDouble_ok,
    validateIntMin_ok, List.not_mem_nil, false_implies, implies_true, and_true] at hchecks
  rw [← hchecks]
  unfold enforceInitialParameters
  split
  · rename_i reason hr
    rw [hr]
    simp
  · rename_i u hu
    rw [hu]
    split
    · rename_i hroi
      simp [hroi]
    · rename_i hroi
      split
      · rename_i hv
        simp [hv]
      · rename_i hv
        simp [hroi, hv]

/-- sizes that are ordered as signed numbers from 1 on are ordered as `size_t` -/
theorem size_le_of_toInt64 {x y : UInt64} (hx : (1 : Int64) ≤ x.toInt64)
    (hxy : x.toInt64 ≤ y.toInt64) : 1 ≤ x ∧ x ≤ y := by
  have e₁ : (1 : Int64).toInt = 1 := by decide
  have e₂ : (1 : UInt64).toNat = 1 := by decide
  rw [Int64.le_iff_toInt_le, toInt64_toInt] at hx hxy
  rw [toInt64_toInt] at hxy
  rw [UInt64.le_iff_toNat_le, UInt64.le_iff_toNat_le]
  have hx' := x.toNat_lt
  have hy' := y.toNat_lt
  simp only [Int.bmod_def] at hx hxy
  rw [e₁] at hx
  omega

/-- A snapshot that has passed the checks is sane exactly when none of its bounds is NaN. -/
theorem sane_iff {s : Snapshot} (h : enforceInitialParameters s = .ok ()) :
    Sane s ↔ ∀ e ∈ s.view, e.1 ∈ boundNames → NotNaN e.2 := by
  obtain ⟨⟨hf, hv, hg, ht, hmin, hmax⟩, hroi, hsize⟩ := enforce_ok.mp h
  obtain ⟨h₁, h₂⟩ := size_le_of_toInt64 hmin hmax
  simp only [not_or] at hroi hsize
  obtain ⟨hx, hy, hz⟩ := hroi
  obtain ⟨hl, hw, hh⟩ := hsize
  have hnan : (∀ e ∈ s.view, e.1 ∈ boundNames → NotNaN e.2) ↔
      (s.roi.minX.isNaN = false ∧ s.roi.maxX.isNaN = false) ∧
      (s.roi.minY.isNaN = false ∧ s.roi.maxY.isNaN = false) ∧
      (s.roi.minZ.isNaN = false ∧ s.roi.maxZ.isNaN = false) ∧
      (s.vehicleLimits.minLength.isNaN = false ∧ s.vehicleLimits.maxLength.isNaN = false) ∧
      (s.vehicleLimits.minWidth.isNaN = false ∧ s.vehicleLimits.maxWidth.isNaN = false) ∧
      (s.vehicleLimits.minHeight.isNaN = false ∧ s.vehicleLimits.maxHeight.isNaN = false) := by
    simp only [Snapshot.view, List.forall_mem_cons, boundNames]
    simp [NotNaN]
    tauto
  rw [hnan]
  constructor
  · intro hs
    exact ⟨Ieee.not_isNaN_of_lt hs.roi_x, Ieee.not_isNaN_of_lt hs.roi_y,
      Ieee.not_isNaN_of_lt hs.roi_z, Ieee.not_isNaN_of_lt hs.length,
      Ieee.not_isNaN_of_lt hs.width, Ieee.not_isNaN_of_lt hs.height⟩
  · rintro ⟨⟨a₁, b₁⟩, ⟨a₂, b₂⟩, ⟨a₃, b₃⟩, ⟨a₄, b₄⟩, ⟨a₅, b₅⟩, a₆, b₆⟩
    exact ⟨Ieee.lt_of_not_ge a₁ b₁ hx, Ieee.lt_of_not_ge a₂ b₂ hy, Ieee.lt_of_not_ge a₃ b₃ hz,
      Ieee.lt_of_not_ge a₄ b₄ hl, Ieee.lt_of_not_ge a₅ b₅ hw, Ieee.lt_of_not_ge a₆ b₆ hh,
      hv, hg, ht, hf, h₁, h₂⟩

/-! ## runs -/

/-- no bound has the value NaN here -/
def BoundsCompare (params : ParameterStore) : Prop :=
  ∀ k ∈ boundNames, ∀ v, params k = some v → NotNaN v

/-- what counts of a batch is the last value that it has for a bound -/
theorem BoundsCompare.setAll {params : ParameterStore} (h : BoundsCompare params) (batch : List Parameter) :
    BoundsCompare (Mirror.setAll params batch) ↔ BoundsCompare (Mirror.setAll (fun _ => none) batch) := by
  refine forall₂_congr fun k hk => forall_congr' fun v => ?_
  rw [Mirror.setAll_eq params batch k]
  cases hlast : Mirror.setAll (fun _ => none) batch k with
  | some u => rw [Option.some_or]
  | none =>
    rw [Option.none_or]
    refine iff_of_true (h k hk v) fun hv => ?_
    cases hv

theorem boundNames_declared : ∀ k ∈ boundNames, ∃ d ∈ declared, k = d.1 := by
  have h : ∀ k ∈ boundNames, k ∈ declared.map Prod.fst := by decide
  intro k hk
  obtain ⟨d, hd, e⟩ := List.mem_map.mp (h k hk)
  exact ⟨d, hd, e.symm⟩

theorem declared_notNaN : ∀ d ∈ declared, NotNaN d.2 := by
  simp only [declared, List.forall_mem_cons, NotNaN]
  simp
  decide +kernel

theorem start_boundsCompare {others overrides : ParameterStore} {n : Node}
    (h : start others overrides = .ok (.ok n)) : BoundsCompare n.params ↔ BoundsCompare overrides := by
  obtain ⟨params, s, hp, -, -, rfl⟩ := startNode_ok.mp h
  constructor
  · intro hn k hk v hv
    obtain ⟨d, hd, rfl⟩ := boundNames_declared k hk
    obtain ⟨-, hall⟩ := declareParameters_all (Q := fun k v => ∀ u, overrides k = some u → u = v) hp
      (fun d _ hnone u hu => absurd (hnone.symm.trans hu).symm (Option.some_ne_none u))
      fun d _ v hv _ u hu => Option.some.inj (hu.symm.trans hv)
    obtain ⟨u, hu, hsame⟩ := hall d hd
    exact hsame v hv ▸ hn d.1 hk u hu
  · intro hs k hk v hv
    obtain ⟨d, hd, rfl⟩ := boundNames_declared k hk
    obtain ⟨-, hall⟩ := declareParameters_all (Q := fun k v => k ∈ boundNames → NotNaN v) hp
      (fun d hd _ _ => declared_notNaN d hd) fun d _ v hv _ hk => hs _ hk v hv
    obtain ⟨u, hu, hq⟩ := hall d hd
    obtain rfl : u = v := Option.some.inj (hu.symm.trans hv)
    exact hq hk

theorem step_boundsCompare {n : Node} (hinv : Inv n) (h : BoundsCompare n.params) (batch : List Parameter) :
    BoundsCompare (step n batch).params ↔ (Mirror.Passes record ParameterValue.type n.params batch →
      BoundsCompare (Mirror.setAll (fun _ => none) batch)) := by
  show BoundsCompare (toState (step n batch)).store ↔ _
  rw [step_mirror]
  rcases hinv.mirror.step_cases lawful batch with ⟨hpasses, hstored⟩ | ⟨hfails, hsame⟩
  · rw [hstored]
    exact (h.setAll batch).trans ⟨fun hlast _ => hlast, fun hlast => hlast hpasses⟩
  · rw [hsame]
    exact iff_of_true h fun hp => absurd hp hfails

/-- the bounds of the snapshot are those of the parameters -/
theorem Inv.sane_iff {n : Node} (h : Inv n) : Sane n.state ↔ BoundsCompare n.params := by
  have hview : ∀ k ∈ boundNames, k ∈ n.state.view.map Prod.fst := by
    simp [boundNames, Snapshot.view]
  apply (VehicleDetectorNode.sane_iff h.mirror.checked).trans
  constructor
  · intro hs k hk v hv
    obtain ⟨e, he, rfl⟩ := List.mem_map.mp (hview k hk)
    have hshown : n.params e.1 = some e.2 := h.mirror.upToDate e he
    obtain rfl : e.2 = v := Option.some.inj (hshown.symm.trans hv)
    exact hs e he hk
  · intro hs e he hk
    exact hs e.1 hk e.2 (h.mirror.upToDate e he)

theorem run_concat (n : Node) (before : List (List Parameter)) (batch : List Parameter) :
    run n (before ++ [batch]) = step (run n before) batch := by
  rw [run, List.foldl_concat]
  rfl

/-- **Sanity of the snapshot.**  In a run the snapshot is sane all the time exactly when no start value of
a bound is NaN and no batch leaves NaN in one, apart from batches that the checks reject. -/
theorem sane_run_iff (others overrides : ParameterStore) (n : Node) (batches : List (List Parameter))
    (h : start others overrides = .ok (.ok n)) :
    (∀ before, before <+: batches → Sane (run n before).state) ↔
      BoundsCompare overrides ∧ ∀ before batch, before ++ [batch] <+: batches →
        Mirror.Passes record ParameterValue.type (run n before).params batch →
          BoundsCompare (Mirror.setAll (fun _ => none) batch) := by
  have hinv (before : List (List Parameter)) : Inv (run n before) := run_inv before (start_inv h)
  constructor
  · intro hs
    have hcompare (before : List (List Parameter)) (hb : before <+: batches) :
        BoundsCompare (run n before).params := (hinv before).sane_iff.mp (hs before hb)
    refine ⟨(start_boundsCompare h).mp (hcompare [] (List.nil_prefix)), fun before batch hb => ?_⟩
    have hlast := hcompare _ hb
    rw [run_concat] at hlast
    exact (step_boundsCompare (hinv before)
      (hcompare before ((List.prefix_append before [batch]).trans hb)) batch).mp hlast
  · rintro ⟨hstart, hbatches⟩ before hb
    apply (hinv before).sane_iff.mpr
    induction before using List.reverseRecOn with
    | nil => exact (start_boundsCompare h).mpr hstart
    | append_singleton before batch ih =>
      rw [run_concat]
      exact (step_boundsCompare (hinv before) (ih ((List.prefix_append before [batch]).trans hb)) batch).mpr
        (hbatches before batch hb)

/-- NaN is overwritten within a batch, and comes in one that does not pass the checks. -/
def nanBatches : List (List Parameter) := [
  [("roi_min_x", .double Float.nan), ("roi_min_x", .double 10.0)],
  [("roi_max_y", .double Float.nan), ("voxel_leaf_size", .double 0.0)]]

theorem sane_run_overwritten :
    Sane (run defaultNode (nanBatches.take 1)).state ∧ Sane (run defaultNode nanBatches).state := by
  have hs := (sane_run_iff (fun _ => none) (fun _ => none) defaultNode nanBatches start_default).mpr ⟨?_, ?_⟩
  · exact ⟨hs _ (List.take_prefix 1 nanBatches), hs _ List.prefix_rfl⟩
  · intro k _ v hv
    cases hv
  · intro before batch hb hp
    rcases before with _ | ⟨first, _ | ⟨second, before⟩⟩
    · obtain rfl : batch = _ := (List.cons_prefix_cons.mp hb).1
      have hlast : ∀ k ∈ boundNames, Mirror.setAll (fun _ => none)
          [("roi_min_x", .double Float.nan), ("roi_min_x", .double 10.0)] k ∈
            [none, some (ParameterValue.double 10.0)] := by decide +kernel
      intro k hk v hv d hd
      have hmem := hlast k hk
      rw [hv, hd] at hmem
      obtain rfl : d = 10.0 := by simpa using hmem
      decide +kernel
    · obtain ⟨rfl, hrest⟩ := List.cons_prefix_cons.mp hb
      obtain rfl : batch = _ := (List.cons_prefix_cons.mp hrest).1
      obtain ⟨-, s, hbuild, hcheck⟩ := hp
      have hfails : (buildSnapshotFromParameters (Mirror.setAll
          (run defaultNode [[("roi_min_x", .double Float.nan), ("roi_min_x", .double 10.0)]]).params
          [("roi_max_y", .double Float.nan), ("voxel_leaf_size", .double 0.0)])).map
            (fun s => decide (enforceInitialParameters s = .ok ())) = .ok false := by decide +kernel
      have hbuild : buildSnapshotFromParameters _ = .ok s := hbuild
      rw [hbuild] at hfails
      exact absurd hcheck (of_decide_eq_false (Except.ok.inj hfails))
    · obtain ⟨-, hrest⟩ := List.cons_prefix_cons.mp hb
      obtain ⟨-, hnil⟩ := List.cons_prefix_cons.mp hrest
      exact absurd (List.prefix_nil.mp hnil) (List.append_ne_nil_of_right_ne_nil _ (List.cons_ne_nil _ _))

/-- From the defaults, a batch that sets `roi_min_x` to NaN is accepted, and the snapshot is not sane
afterwards: `NaN >= 80.0` is false, and so is `NaN < 80.0`. -/
theorem sane_nan :
    start (fun _ => none) (fun _ => none) = .ok (.ok defaultNode) ∧
      (onParameterChange defaultNode.state [("roi_min_x", .double Float.nan)]).map
        (fun r => r.1.successful) = .ok true ∧
      ¬ Sane (run defaultNode [[("roi_min_x", .double Float.nan)]]).state := by
  refine ⟨start_default, by decide +kernel, fun h => ?_⟩
  have hx := h.roi_x
  revert hx
  decide +kernel

end VD.VehicleDetectorNode
