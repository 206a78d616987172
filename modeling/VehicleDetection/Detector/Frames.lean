import VehicleDetection.Base.TwoPhase
import VehicleDetection.Detector.Frame
import VehicleDetection.Detector.Run

/-!
# Frames and batches of parameters

A frame copies the snapshot when it begins. Batches of parameters come in while it is processed, and other
frames as well.

* `Job`     a cloud or a batch, with its two phases;
* `frames`  every frame goes by one snapshot, which was that of the stored parameters after it began.
-/

set_option linter.unusedVariables false

namespace VD.VehicleDetectorNode
open BStr

inductive Job (D T : Type) where
  | cloud (out : Outside D T) (msg : CloudMessage D)
  | batch (params : List Parameter)

inductive JobResult (D : Type) where
  | frame (published : Option (Publications D))
  | result (result : Option SetParametersResult)

section
variable {D T I : Type} (jobs : I → Job D T)

/-- `copy_snapshot` -/
def asking (i : I) (n : Node) : Option Snapshot :=
  match jobs i with
  | .cloud _ _ => some n.state
  | .batch _ => none

def acting (i : I) (told : Option Snapshot) (n : Node) : JobResult D × Node :=
  match jobs i, told with
  | .cloud out msg, some snap => (.frame (onCloud out snap msg), n)
  | .cloud _ _, none => (.frame none, n)
  | .batch params, _ =>
    (.result (setParametersAtomically onParameterChange n params).1, step n params)

theorem blind : TwoPhase.Blind (acting jobs) := by
  intro i q q' n
  unfold acting
  cases jobs i with
  | cloud out msg =>
    cases q with
    | none =>
      cases q' with
      | none => rfl
      | some s' => rfl
    | some s =>
      cases q' with
      | none => rfl
      | some s' => rfl
  | batch params => rfl

/-- the batches among these jobs -/
def batches (l : List I) : List (List Parameter) := l.filterMap fun i =>
  match jobs i with
  | .cloud _ _ => none
  | .batch params => some params

/-- Only batches change the node. -/
theorem serially_batches (l : List I) : ∀ n : Node,
    TwoPhase.serially (asking jobs) (acting jobs) n l = run n (batches jobs l) := by
  induction l with
  | nil => exact fun n => rfl
  | cons i l ih =>
    intro n
    have hfirst : TwoPhase.serially (asking jobs) (acting jobs) n (i :: l) =
        TwoPhase.serially (asking jobs) (acting jobs) (TwoPhase.alone (asking jobs) (acting jobs) i n).2 l := rfl
    rw [hfirst, ih, batches, batches, List.filterMap_cons]
    unfold TwoPhase.alone asking acting
    cases jobs i with
    | cloud out msg => rfl
    | batch params => rfl

/-- **Frames and batches.** In every interleaving of any number of clouds and batches, what is published for
a cloud is what the callback makes of one snapshot. It is that of the parameters stored after some of the
batches, with all that were through before the cloud came and none that came after the frame was done, and
it passes the checks of a start. With the point cloud library as documented the four messages belong
together. -/
theorem frames [DecidableEq I] {others overrides : ParameterStore} {n : Node}
    (hstart : start others overrides = .ok (.ok n))
    (hp : ∀ i out msg, jobs i = .cloud out msg → out.pcl.Documented)
    {events later : List I} {y x : TwoPhase.State I Node (Option Snapshot) (JobResult D)}
    (h : Steps.run (TwoPhase.step (asking jobs) (acting jobs)) (TwoPhase.initial n) events = some y)
    (hlater : Steps.run (TwoPhase.step (asking jobs) (acting jobs)) y later = some x) {i : I}
    {out : Outside D T} {msg : CloudMessage D} (hjob : jobs i = .cloud out msg)
    (hi : y.phase i = .waiting) {r : JobResult D} (hr : x.phase i = .finished r) :
    ∃ before between after, x.acted = before ++ between ++ i :: after ∧ y.acted <+: before ∧
      let m := run n (batches jobs before)
      buildSnapshotFromParameters m.params = .ok m.state ∧ enforceInitialParameters m.state = .ok () ∧
      r = .frame (onCloud out m.state msg) ∧
      ∀ p, onCloud out m.state msg = some p → ∃ t, transformed out m.state msg = some t ∧
        ∃ clusters boxes, Framed out m.state (inTargetFrame m.state t).header
          (forClustering out m.state (inTargetFrame m.state t)) clusters boxes p := by
  obtain ⟨before, between, after, hacted, hbefore, hresult⟩ := TwoPhase.run_seen (blind jobs) h hlater hi hr
  have hinv := run_inv (batches jobs before) (start_inv hstart)
  refine ⟨before, between, after, hacted, hbefore, buildSnapshot_iff.mpr hinv.mirror.upToDate,
    hinv.mirror.checked, ?_, fun p hpub => onCloud_framed out _ (hp i out msg hjob) msg p hpub⟩
  rw [hresult, serially_batches]
  simp only [acting, asking, hjob]

end

def onePoint : Outside Unit Unit where
  pcl := onePointPcl
  fromROSMsg _ := [⟨1, 1, 1⟩]
  toROSMsg _ := ()
  lookupTransform _ _ := .error (lit "no transform")
  doTransform msg _ := msg

/-- a cloud in the target frame, and a batch -/
def oneFrame : Bool → Job Unit Unit
  | true => .cloud onePoint ⟨⟨0, 0, lit "map"⟩, ()⟩
  | false => .batch [("target_frame_id", .string (lit "odom"))]

/-- The batch comes while the frame is processed. -/
theorem frames_between : ∃ x r, Steps.run (TwoPhase.step (asking oneFrame) (acting oneFrame))
      (TwoPhase.initial defaultNode) [true, false, true] = some x ∧ x.phase true = .finished r ∧
    ∃ before between after, x.acted = before ++ between ++ true :: after ∧
      r = .frame (onCloud onePoint (run defaultNode (batches oneFrame before)).state
        ⟨⟨0, 0, lit "map"⟩, ()⟩) := by
  refine ⟨_, _, rfl, rfl, ?_⟩
  obtain ⟨before, between, after, hacted, -, -, -, hr, -⟩ := frames oneFrame start_default
    (fun i out msg hjob => by
      cases i with
      | true =>
        cases hjob
        exact onePointPcl_documented
      | false => cases hjob)
    (rfl : Steps.run (TwoPhase.step (asking oneFrame) (acting oneFrame)) (TwoPhase.initial defaultNode) [] = some _)
    (rfl : Steps.run (TwoPhase.step (asking oneFrame) (acting oneFrame)) _ [true, false, true] = some _)
    (rfl : oneFrame true = .cloud onePoint ⟨⟨0, 0, lit "map"⟩, ()⟩) rfl rfl
  exact ⟨before, between, after, hacted, hr⟩

end VD.VehicleDetectorNode
