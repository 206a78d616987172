import VehicleDetection.Base.Linked
import VehicleDetection.Detector.Bounds
import VehicleDetection.Param.Services

/-!
# The detector's checks as constraints between parameters

* `links`          the seven pairs of a lower and an upper end;
* `constraints`    the checks of a snapshot, said of the stored parameters;
* `holds_iff`      they say the same;
* `UpperEndsFit`   the new upper ends of a request go with the old lower ends;
* `one_at_a_time`  when a request that is valid as a whole is taken as a whole.
-/

set_option linter.unusedVariables false

namespace VD.VehicleDetectorNode
open BStr

/-- lower end, upper end -/
def links : List (String × String) := [
  ("roi_min_x", "roi_max_x"), ("roi_min_y", "roi_max_y"), ("roi_min_z", "roi_max_z"),
  ("cluster_min_size", "cluster_max_size"),
  ("vehicle_min_length", "vehicle_max_length"), ("vehicle_min_width", "vehicle_max_width"),
  ("vehicle_min_height", "vehicle_max_height")]

/-- a lower and an upper end that pass the checks together -/
def Compatible : ParameterValue → ParameterValue → Prop
  | .double lo, .double hi => ¬ lo ≥ hi
  | .integer lo, .integer hi => lo ≤ hi
  | _, _ => True

instance (a b : ParameterValue) : Decidable (Compatible a b) := by
  unfold Compatible
  split <;> infer_instance

/-- what a value must satisfy by itself -/
def OwnCheck (name : String) (v : ParameterValue) : Prop :=
  (name = "target_frame_id" → v ≠ .string []) ∧
  (name ∈ ["voxel_leaf_size", "ground_distance_threshold", "cluster_tolerance"] →
    ∀ d, v = .double d → d > 0.0) ∧
  (name = "cluster_min_size" → ∀ i, v = .integer i → 1 ≤ i)

def constraints : Linked.Constraints String ParameterValue where
  own := OwnCheck
  links := links
  linked := Compatible
  distinct := by decide

theorem upper_lt_lower : ∀ l ∈ links, l.2 < l.1 := by decide

section
variable {params : ParameterStore} {s : Snapshot}

theorem own_iff (h : UpToDate params s) : (∀ k v, params k = some v → OwnCheck k v) ↔
    s.targetFrameId ≠ [] ∧ s.voxelLeafSize > 0.0 ∧ s.groundDistanceThreshold > 0.0 ∧
      s.clustering.tolerance > 0.0 ∧ 1 ≤ s.clustering.minSize.toInt64 := by
  simp only [UpToDate, Mirror.Shows, Snapshot.view, List.forall_mem_cons] at h
  obtain ⟨hframe, hvoxel, -, -, -, -, -, -, hground, htolerance, hmin, -⟩ := h
  constructor
  · intro hall
    refine ⟨fun e => (hall _ _ hframe).1 rfl (congrArg _ e), ?_, ?_, ?_, ?_⟩
    · exact (hall _ _ hvoxel).2.1 (by simp) _ rfl
    · exact (hall _ _ hground).2.1 (by simp) _ rfl
    · exact (hall _ _ htolerance).2.1 (by simp) _ rfl
    · exact (hall _ _ hmin).2.2 rfl _ rfl
  · rintro ⟨hf, hv, hg, ht, hm⟩ k v hk
    refine ⟨?_, ?_, ?_⟩
    · rintro rfl rfl
      rw [hframe] at hk
      exact hf (ParameterValue.string.inj (Option.some.inj hk))
    · intro hmem d hd
      subst hd
      simp only [List.mem_cons, List.not_mem_nil, or_false] at hmem
      rcases hmem with rfl | rfl | rfl
      · rw [hvoxel] at hk
        cases hk
        exact hv
      · rw [hground] at hk
        cases hk
        exact hg
      · rw [htolerance] at hk
        cases hk
        exact ht
    · rintro rfl i rfl
      rw [hmin] at hk
      cases hk
      exact hm

theorem compatible_at {lo hi : String} {a b : ParameterValue} (ha : params lo = some a)
    (hb : params hi = some b) :
    (∀ x y, params lo = some x → params hi = some y → Compatible x y) ↔ Compatible a b := by
  rw [ha, hb]
  exact ⟨fun h => h a b rfl rfl, fun h x y hx hy => by cases hx; cases hy; exact h⟩

/-- The checks of an up-to-date snapshot are the constraints of the stored parameters. -/
theorem holds_iff (h : UpToDate params s) :
    Linked.Holds constraints params ↔ enforceInitialParameters s = .ok () := by
  have hown := own_iff h
  simp only [UpToDate, Mirror.Shows, Snapshot.view, List.forall_mem_cons] at h
  obtain ⟨-, -, hx₁, hy₁, hz₁, hx₂, hy₂, hz₂, -, -, hs₁, hs₂, hl₁, hl₂, hw₁, hw₂, hh₁, hh₂, -⟩ := h
  have hlinked : (∀ l ∈ links, ∀ a b, params l.1 = some a → params l.2 = some b → Compatible a b) ↔
      (¬ s.roi.minX ≥ s.roi.maxX ∧ ¬ s.roi.minY ≥ s.roi.maxY ∧ ¬ s.roi.minZ ≥ s.roi.maxZ) ∧
      s.clustering.minSize.toInt64 ≤ s.clustering.maxSize.toInt64 ∧
      ¬ s.vehicleLimits.minLength ≥ s.vehicleLimits.maxLength ∧
      ¬ s.vehicleLimits.minWidth ≥ s.vehicleLimits.maxWidth ∧
      ¬ s.vehicleLimits.minHeight ≥ s.vehicleLimits.maxHeight := by
    simp only [links, List.forall_mem_cons, compatible_at hx₁ hx₂, compatible_at hy₁ hy₂,
      compatible_at hz₁ hz₂, compatible_at hs₁ hs₂, compatible_at hl₁ hl₂, compatible_at hw₁ hw₂,
      compatible_at hh₁ hh₂, List.not_mem_nil, false_implies, implies_true, and_true, and_assoc]
    rfl
  rw [enforce_ok]
  constructor
  · intro hc
    obtain ⟨hf, hv, hg, ht, hm⟩ := hown.mp hc.own
    obtain ⟨⟨hx, hy, hz⟩, hs, hl, hw, hh⟩ := hlinked.mp hc.linked
    exact ⟨⟨hf, hv, hg, ht, hm, hs⟩, by simp only [not_or]; exact ⟨hx, hy, hz⟩,
      by simp only [not_or]; exact ⟨hl, hw, hh⟩⟩
  · rintro ⟨⟨hf, hv, hg, ht, hm, hs⟩, hroi, hsize⟩
    simp only [not_or] at hroi hsize
    exact ⟨hown.mpr ⟨hf, hv, hg, ht, hm⟩, hlinked.mpr ⟨hroi, hs, hsize⟩⟩

end

/-- For every pair with both ends in the request, the new upper end goes with the old lower end. -/
def UpperEndsFit (s : Snapshot) (batch : List Parameter) : Prop :=
  ∀ l ∈ links, l.1 ∈ batch.map Prod.fst →
    ∀ x ∈ s.view, x.1 = l.1 → ∀ y ∈ batch, y.1 = l.2 → Compatible x.2 y.2

instance (s : Snapshot) (batch : List Parameter) : Decidable (UpperEndsFit s batch) :=
  inferInstanceAs (Decidable (∀ l ∈ links, _))

theorem lower_ends_shown (s : Snapshot) : ∀ l ∈ links, ∃ x ∈ s.view, x.1 = l.1 := by
  simp [links, Snapshot.view]

theorem clear_iff {params : ParameterStore} {s : Snapshot} (h : UpToDate params s)
    (batch : List Parameter) : Linked.Clear constraints params batch ↔ UpperEndsFit s batch := by
  refine forall₂_congr fun l hl => imp_congr_right fun hlo => ?_
  constructor
  · rintro hc x hx hxl y hy hyl
    have hstored : params l.1 = some x.2 := hxl ▸ h x hx
    exact hc x.2 y.2 hstored (hyl ▸ hy)
  · intro hf a b ha hb
    obtain ⟨x, hx, hxl⟩ := lower_ends_shown s l hl
    have hstored : params l.1 = some x.2 := hxl ▸ h x hx
    rw [ha] at hstored
    cases hstored
    exact hf x hx hxl _ hb rfl

/-! ## one parameter at a time -/

theorem accepted_change {s c : Snapshot} {batch : List Parameter} {result : SetParametersResult}
    (h : onParameterChange s batch = .ok (result, c)) (hs : result.successful = true) :
    record.patchAll s batch = .ok c ∧ record.check c = .ok () := by
  rw [onParameterChange_eq, Mirror.Record.change] at h
  cases hp : record.patchAll s batch with
  | error e =>
    rw [hp] at h
    cases h
  | ok c' =>
    rw [hp] at h
    have hj : answer (fun _ c => c) s (record.judge c') = (result, c) := Except.ok.inj h
    unfold Mirror.Record.judge at hj
    cases hc : record.check c' with
    | error reason =>
      rw [hc] at hj
      cases hj
      cases hs
    | ok u =>
      rw [hc] at hj
      cases hj
      exact ⟨rfl, hc⟩

/-- A request in the order of its names that is valid as a whole: every parameter is accepted
exactly when the upper ends fit, and then the snapshot is the one of the whole request. -/
theorem one_at_a_time {m : Node} (hinv : Inv m) (refusal : Parameter → Bytes)
    {batch : List Parameter} (ht : Mirror.Typed ParameterValue.type m.params batch)
    (hsorted : (batch.map Prod.fst).Pairwise (· < ·)) {result : SetParametersResult} {c : Snapshot}
    (hjoint : onParameterChange m.state batch = .ok (result, c)) (hs : result.successful = true) :
    let out := setParameters onParameterChange refusal m batch
    ((∀ r ∈ out.1, r.successful = true) ↔ UpperEndsFit m.state batch) ∧
      ((∀ r ∈ out.1, r.successful = true) → out.2.state = c) := by
  have hup : UpToDate m.params m.state := hinv.mirror.upToDate
  obtain ⟨hpatch, hcheck⟩ := accepted_change hjoint hs
  obtain ⟨hall, hstate⟩ := setParameters_all lawful (fun _ _ => rfl)
    (fun x b => onParameterChange_eq b x) refusal batch hup hinv.mirror.checked ht
  have hgood : ∀ pre post, batch = pre ++ post →
      (Good record (Mirror.setAll m.params pre) ↔
        Linked.Holds constraints (Mirror.setAll m.params pre)) := by
    rintro pre post rfl
    obtain ⟨s', -, hrel⟩ := lawful.patchAll_rel hup fun e he => ht e (List.mem_append_left _ he)
    exact (good_iff lawful hrel).trans (holds_iff hrel).symm
  have hnew : Linked.Holds constraints (Mirror.setAll m.params batch) := by
    obtain ⟨s', hs', hrel⟩ := lawful.patchAll_rel hup ht
    rw [hpatch] at hs'
    cases hs'
    exact (holds_iff hrel).mpr hcheck
  have hold : Linked.Holds constraints m.params := (holds_iff hup).mpr hinv.mirror.checked
  refine ⟨hall.trans ?_, fun h => ?_⟩
  · rw [← clear_iff hup, ← Linked.prefixes_iff (hsorted.imp ne_of_lt)
      (Linked.UpperFirst.of_sorted hsorted upper_lt_lower) hold hnew]
    exact forall₃_congr hgood
  · have hlast := hstate h
    rw [hpatch] at hlast
    exact (Except.ok.inj hlast).symm

end VD.VehicleDetectorNode
