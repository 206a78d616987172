import VehicleDetection.Detector.Node

/-!
# The detector's snapshot over whole runs

* `view`       the fields of the snapshot as parameters;
* `record`     the snapshot as a record beside the parameters (`Mirror`), with its laws;
* `snapshot_mirrors`  the snapshot is what a new start would read, batches are accepted as a new start
  would accept them, and a rejected batch changes nothing.
-/

set_option linter.unusedVariables false

namespace VD.VehicleDetectorNode
open BStr

/-- the fields of a snapshot under the names of their parameters -/
def Snapshot.view (s : Snapshot) : List Parameter := [
  ("target_frame_id", .string s.targetFrameId),
  ("voxel_leaf_size", .double s.voxelLeafSize),
  ("roi_min_x", .double s.roi.minX),
  ("roi_min_y", .double s.roi.minY),
  ("roi_min_z", .double s.roi.minZ),
  ("roi_max_x", .double s.roi.maxX),
  ("roi_max_y", .double s.roi.maxY),
  ("roi_max_z", .double s.roi.maxZ),
  ("ground_distance_threshold", .double s.groundDistanceThreshold),
  ("cluster_tolerance", .double s.clustering.tolerance),
  ("cluster_min_size", .integer s.clustering.minSize.toInt64),
  ("cluster_max_size", .integer s.clustering.maxSize.toInt64),
  ("vehicle_min_length", .double s.vehicleLimits.minLength),
  ("vehicle_max_length", .double s.vehicleLimits.maxLength),
  ("vehicle_min_width", .double s.vehicleLimits.minWidth),
  ("vehicle_max_width", .double s.vehicleLimits.maxWidth),
  ("vehicle_min_height", .double s.vehicleLimits.minHeight),
  ("vehicle_max_height", .double s.vehicleLimits.maxHeight)]

def record : Mirror.Record String ParameterValue ParameterError Bytes Snapshot :=
  ⟨buildSnapshotFromParameters, applyParameter, enforceInitialParameters⟩

/-- the snapshot is up to date: each field is the stored parameter of its name -/
abbrev UpToDate : ParameterStore → Snapshot → Prop := Mirror.Shows Snapshot.view

theorem buildSnapshot_iff {params : ParameterStore} {s : Snapshot} :
    buildSnapshotFromParameters params = .ok s ↔ UpToDate params s := by
  constructor
  · intro h
    simp only [buildSnapshotFromParameters, bind_ok, getString_ok, getDouble_ok, getInt_ok] at h
    obtain ⟨v₁, h₁, v₂, h₂, v₃, h₃, v₄, h₄, v₅, h₅, v₆, h₆, v₇, h₇, v₈, h₈, v₉, h₉, v₁₀, h₁₀, v₁₁,
      h₁₁, v₁₂, h₁₂, v₁₃, h₁₃, v₁₄, h₁₄, v₁₅, h₁₅, v₁₆, h₁₆, v₁₇, h₁₇, v₁₈, h₁₈, h⟩ := h
    cases h
    simp [UpToDate, Mirror.Shows, Snapshot.view, *]
  · intro h
    simp only [UpToDate, Mirror.Shows, Snapshot.view, List.forall_mem_cons] at h
    obtain ⟨h₁, h₂, h₃, h₄, h₅, h₆, h₇, h₈, h₉, h₁₀, h₁₁, h₁₂, h₁₃, h₁₄, h₁₅, h₁₆, h₁₇, h₁₈, -⟩ := h
    simp [buildSnapshotFromParameters, getString_ok.mpr h₁, getDouble_ok.mpr h₂, getDouble_ok.mpr h₃,
      getDouble_ok.mpr h₄, getDouble_ok.mpr h₅, getDouble_ok.mpr h₆, getDouble_ok.mpr h₇,
      getDouble_ok.mpr h₈, getDouble_ok.mpr h₉, getDouble_ok.mpr h₁₀, getInt_ok.mpr h₁₁,
      getInt_ok.mpr h₁₂, getDouble_ok.mpr h₁₃, getDouble_ok.mpr h₁₄, getDouble_ok.mpr h₁₅,
      getDouble_ok.mpr h₁₆, getDouble_ok.mpr h₁₇, getDouble_ok.mpr h₁₈]
    rfl

/-! ## one entry -/

/-- An entry of the type of its field replaces that field and no other; an entry that names no
field is ignored. -/
theorem applyParameter_view (s : Snapshot) (e : Parameter)
    (h : Mirror.Fits Snapshot.view ParameterValue.type s e) :
    (applyParameter s e).map Snapshot.view = .ok (Mirror.overwrite e s.view) := by
  let P : Except ParameterError Snapshot → Prop :=
    fun x => x.map Snapshot.view = .ok (Mirror.overwrite e s.view)
  have fs := fun k f => Mirror.Fits.field .string ParameterValue.asString
    (fun v => ParameterValue.asString_of_type) (fun a => rfl) h k f
  have fd := fun k f => Mirror.Fits.field .double ParameterValue.asDouble
    (fun v => ParameterValue.asDouble_of_type) (fun a => rfl) h k f
  have fi := fun k f => Mirror.Fits.field .integer ParameterValue.asInt
    (fun v => ParameterValue.asInt_of_type) (fun a => rfl) h k f
  unfold applyParameter
  refine iteInduction (motive := P) (fs _ _ rfl fun v => rfl) fun h₁ => ?_
  refine iteInduction (motive := P) (fd _ _ rfl fun v => rfl) fun h₂ => ?_
  refine iteInduction (motive := P) (fd _ _ rfl fun v => rfl) fun h₃ => ?_
  refine iteInduction (motive := P) (fd _ _ rfl fun v => rfl) fun h₄ => ?_
  refine iteInduction (motive := P) (fd _ _ rfl fun v => rfl) fun h₅ => ?_
  refine iteInduction (motive := P) (fd _ _ rfl fun v => rfl) fun h₆ => ?_
  refine iteInduction (motive := P) (fd _ _ rfl fun v => rfl) fun h₇ => ?_
  refine iteInduction (motive := P) (fd _ _ rfl fun v => rfl) fun h₈ => ?_
  refine iteInduction (motive := P) (fd _ _ rfl fun v => rfl) fun h₉ => ?_
  refine iteInduction (motive := P) (fd _ _ rfl fun v => rfl) fun h₁₀ => ?_
  refine iteInduction (motive := P)
    (fi _ _ rfl fun v => by simp [Mirror.overwrite, Snapshot.view]) fun h₁₁ => ?_
  refine iteInduction (motive := P)
    (fi _ _ rfl fun v => by simp [Mirror.overwrite, Snapshot.view]) fun h₁₂ => ?_
  refine iteInduction (motive := P) (fd _ _ rfl fun v => rfl) fun h₁₃ => ?_
  refine iteInduction (motive := P) (fd _ _ rfl fun v => rfl) fun h₁₄ => ?_
  refine iteInduction (motive := P) (fd _ _ rfl fun v => rfl) fun h₁₅ => ?_
  refine iteInduction (motive := P) (fd _ _ rfl fun v => rfl) fun h₁₆ => ?_
  refine iteInduction (motive := P) (fd _ _ rfl fun v => rfl) fun h₁₇ => ?_
  refine iteInduction (motive := P) (fd _ _ rfl fun v => rfl) fun h₁₈ => ?_
  refine congrArg Except.ok (Mirror.overwrite_of_ne ?_).symm
  simp [Snapshot.view, *]

/-- the two copies of the checks say the same -/
theorem checkCandidate_eq : checkCandidate = enforceInitialParameters := rfl

theorem lawful : Mirror.Lawful record ParameterValue.type UpToDate where
  build_rel h := buildSnapshot_iff.mp h
  rel_build h := ⟨_, buildSnapshot_iff.mpr h, rfl⟩
  patch_rel := by
    intro params s e h ht
    have hv := applyParameter_view s e (h.fits ht)
    cases ha : applyParameter s e with
    | error err => rw [ha] at hv; cases hv
    | ok s' =>
      rw [ha] at hv
      exact ⟨s', ha, h.set e (Except.ok.inj hv)⟩

/-! ## the node -/

theorem onParameterChange_eq (batch : List Parameter) (s : Snapshot) :
    onParameterChange s batch = (record.change s batch).map (answer (fun _ c => c) s) := by
  show (record.patchAll s batch).map _ = ((record.patchAll s batch).map record.judge).map _
  cases record.patchAll s batch with
  | error e => rfl
  | ok c =>
    simp only [Except.map, Mirror.Record.judge, record, checkCandidate_eq]
    cases enforceInitialParameters c with
    | error r => rfl
    | ok u => rfl

def toState (n : Node) : Mirror.State String ParameterValue Snapshot := ⟨n.params, n.state⟩

theorem step_mirror (n : Node) (batch : List Parameter) :
    toState (step n batch) = Mirror.step record ParameterValue.type (toState n) batch :=
  setParametersAtomically_mirror (fun _ _ => rfl) (onParameterChange_eq batch) n

/-- what holds in every reachable state -/
structure Inv (n : Node) : Prop where
  mirror : Mirror.Inv record UpToDate (toState n)
  declares : Declares declared n.params

theorem declared_nodup : (declared.map Prod.fst).Nodup := by decide

theorem start_inv {others overrides : ParameterStore} {n : Node}
    (h : start others overrides = .ok (.ok n)) : Inv n := by
  obtain ⟨params, s, hp, hb, hc, rfl⟩ := startNode_ok.mp h
  exact ⟨⟨buildSnapshot_iff.mp hb, hc⟩, Declares.start declared_nodup hp⟩

theorem step_inv {n : Node} (h : Inv n) (batch : List Parameter) : Inv (step n batch) := by
  refine ⟨?_, h.declares.set onParameterChange batch⟩
  rw [step_mirror]
  exact h.mirror.step lawful batch

theorem run_inv (batches : List (List Parameter)) : ∀ {n : Node}, Inv n → Inv (run n batches) := by
  induction batches with
  | nil => exact fun h => h
  | cons batch batches ih => exact fun h => ih (step_inv h batch)

/-! ## the defaults -/

def defaultSnapshot : Snapshot where
  targetFrameId := lit "map"
  voxelLeafSize := 0.2
  roi := ⟨0.0, -30.0, -3.0, 80.0, 30.0, 3.0⟩
  groundDistanceThreshold := 0.2
  clustering := ⟨0.8, 20, 5000⟩
  vehicleLimits := ⟨2.0, 6.0, 1.2, 2.8, 1.0, 3.0⟩

def defaultNode : Node := ⟨Mirror.setAll (fun _ => none) declared, defaultSnapshot⟩

/-- every default passes the checks: the node starts without overrides -/
theorem start_default : start (fun _ => none) (fun _ => none) = .ok (.ok defaultNode) := by
  have hup : UpToDate defaultNode.params defaultSnapshot := by
    simp only [UpToDate, Mirror.Shows, Snapshot.view, List.forall_mem_cons]
    refine ⟨rfl, rfl, rfl, rfl, rfl, rfl, rfl, rfl, rfl, rfl, rfl, rfl, rfl, rfl, rfl, rfl, rfl, rfl, ?_⟩
    exact fun x hx => absurd hx List.not_mem_nil
  have hcheck : enforceInitialParameters defaultSnapshot = .ok () := by decide +kernel
  exact startNode_ok.mpr ⟨_, _, rfl, buildSnapshot_iff.mpr hup, hcheck, rfl⟩

/-! ## acceptance -/

/-- only declared parameters are read -/
theorem build_reads (p q : ParameterStore) (h : ∀ d ∈ declared, p d.1 = q d.1) :
    buildSnapshotFromParameters p = buildSnapshotFromParameters q := by
  simp only [declared, List.forall_mem_cons] at h
  simp only [buildSnapshotFromParameters, getString, getDouble, getInt, getParameter, h]

/-- **The snapshot mirrors the parameters.**  In every reachable state the snapshot is what a new
start would read; a batch of the declared types is accepted exactly when a node would start with the
parameters after it; a rejected batch leaves the snapshot as it was. -/
theorem snapshot_mirrors (others overrides : ParameterStore) (n : Node)
    (batches : List (List Parameter)) (h : start others overrides = .ok (.ok n)) :
    let m := run n batches
    buildSnapshotFromParameters m.params = .ok m.state ∧
    ∀ batch, Mirror.Typed ParameterValue.type m.params batch →
      ∃ result next, onParameterChange m.state batch = .ok (result, next) ∧
        (result.successful = true ↔
          ∃ n', start others (Mirror.setAll m.params batch) = .ok (.ok n')) ∧
        (result.successful = false → next = m.state) := by
  intro m
  have hinv := run_inv batches (start_inv h)
  have hup : UpToDate m.params m.state := hinv.mirror.upToDate
  refine ⟨buildSnapshot_iff.mpr hup, fun batch ht => ?_⟩
  obtain ⟨result, next, hcb, hacc, hrej⟩ :=
    callback_accepts lawful (onParameterChange_eq batch) hup ht
  have hrestart : (∃ n', start others (Mirror.setAll m.params batch) = .ok (.ok n')) ↔
      ∃ s, record.build (Mirror.setAll m.params batch) = .ok s ∧ record.check s = .ok () :=
    startNode_restart enforceInitialParameters _ (hinv.declares.setAll ht) build_reads others
  exact ⟨result, next, hcb, hacc.trans hrestart.symm, hrej⟩

theorem snapshot_mirrors_default :
    let m := run defaultNode [[("roi_max_x", .double 100.0)], [("roi_min_x", .double 200.0)]]
    buildSnapshotFromParameters m.params = .ok m.state :=
  (snapshot_mirrors (fun _ => none) (fun _ => none) defaultNode
    [[("roi_max_x", .double 100.0)], [("roi_min_x", .double 200.0)]] start_default).1

end VD.VehicleDetectorNode
