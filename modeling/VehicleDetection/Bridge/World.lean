import VehicleDetection.Base.TwoPhase
import VehicleDetection.Bridge.Get
import VehicleDetection.Detector.Run
import VehicleDetection.Param.Services
import VehicleDetection.Player.Node
import VehicleDetection.Sender.Run

/-!
# The nodes behind the bridge

The HTTP server handles requests in several threads, and other clients of the parameter services come in
between.  A node answers one service call at a time.  What becomes of a call is data (`Fates`).

* `PackageNode`      the three nodes with their callbacks;
* `Running`, `World` a node with the names of its parameters, and the nodes by name;
* `postAsk`, `postAct`  `handle_post_parameters` up to the descriptors, and from there on;
* `Job`              a request or a call of another client, with its two phases.
-/

set_option linter.unusedVariables false

namespace VD
open BStr

/-! ## nodes -/

inductive PackageNode where
  | loader (node : ParameterNode Unit)
  | detector (node : VehicleDetectorNode.Node)
  | sender (node : DetectionSenderNode.Node)

namespace PackageNode

def params : PackageNode → ParameterStore
  | .loader node => node.params
  | .detector node => node.params
  | .sender node => node.params

/-- `opened`: whether the file opens that a batch makes the sender open -/
def setParameters (refusal : Parameter → Bytes) (opened : List Parameter → Bool) (batch : List Parameter) :
    PackageNode → List SetParametersResult × PackageNode
  | .loader node => (VD.setParameters noCallback refusal node batch).map id .loader
  | .detector node => (VD.setParameters VehicleDetectorNode.onParameterChange refusal node batch).map id .detector
  | .sender node =>
    (VD.setParameters (fun self b => DetectionSenderNode.onParameterChange (opened b) self b) refusal node
      batch).map id .sender

def setParametersAtomically (opened : List Parameter → Bool) (batch : List Parameter) :
    PackageNode → Option SetParametersResult × PackageNode
  | .loader node => (VD.setParametersAtomically noCallback node batch).map id .loader
  | .detector node =>
    (VD.setParametersAtomically VehicleDetectorNode.onParameterChange node batch).map id .detector
  | .sender node =>
    (VD.setParametersAtomically (fun self b => DetectionSenderNode.onParameterChange (opened b) self b) node
      batch).map id .sender

end PackageNode

/-- every parameter keeps its type, and none is added or lost -/
def SameTypes (p q : ParameterStore) : Prop :=
  ∀ name, (q name).map ParameterValue.type = (p name).map ParameterValue.type

theorem SameTypes.trans {p q r : ParameterStore} (h : SameTypes p q) (h' : SameTypes q r) : SameTypes p r :=
  fun name => (h' name).trans (h name)

theorem SameTypes.isSome {p q : ParameterStore} (h : SameTypes p q) (name : String) :
    (q name).isSome = (p name).isSome := by
  rw [← Option.isSome_map (f := ParameterValue.type), h name, Option.isSome_map]

section
variable {σ : Type} (callback : σ → List Parameter → Except ParameterError (SetParametersResult × σ))

theorem setParametersAtomically_types (node : ParameterNode σ) (batch : List Parameter) :
    SameTypes node.params (setParametersAtomically callback node batch).2.params := by
  intro name
  rcases setParametersAtomically_params callback node batch with e | ⟨ht, e⟩
  · rw [e]
  · rw [e, Mirror.setAll_type ht]

theorem setParameters_types (refusal : Parameter → Bytes) (batch : List Parameter) :
    ∀ node : ParameterNode σ, SameTypes node.params (setParameters callback refusal node batch).2.params := by
  induction batch with
  | nil => exact fun node name => rfl
  | cons p rest ih =>
    exact fun node => (setParametersAtomically_types callback node [p]).trans
      (ih (setParameter callback refusal node p).2)

end

namespace PackageNode

theorem setParameters_types (refusal : Parameter → Bytes) (opened : List Parameter → Bool)
    (batch : List Parameter) (n : PackageNode) :
    SameTypes n.params (n.setParameters refusal opened batch).2.params := by
  cases n with
  | loader node => exact VD.setParameters_types noCallback refusal batch node
  | detector node => exact VD.setParameters_types VehicleDetectorNode.onParameterChange refusal batch node
  | sender node =>
    exact VD.setParameters_types (fun self b => DetectionSenderNode.onParameterChange (opened b) self b)
      refusal batch node

theorem setParametersAtomically_types (opened : List Parameter → Bool) (batch : List Parameter)
    (n : PackageNode) : SameTypes n.params (n.setParametersAtomically opened batch).2.params := by
  cases n with
  | loader node => exact VD.setParametersAtomically_types noCallback node batch
  | detector node => exact VD.setParametersAtomically_types VehicleDetectorNode.onParameterChange node batch
  | sender node =>
    exact VD.setParametersAtomically_types (fun self b => DetectionSenderNode.onParameterChange (opened b) self b)
      node batch

end PackageNode

/-- a node, the names of its parameters, as `list_parameters` gives them, and their descriptors -/
structure Running where
  node : PackageNode
  names : List String
  descriptor : String → ParameterDescriptor := fun _ => ⟨[], [], false⟩
  nodup : names.Nodup
  listed : ∀ name, name ∈ names ↔ (node.params name).isSome = true

namespace Running

/-- the node after a step that leaves the types of the parameters as they are -/
def become (r : Running) (n : PackageNode) (h : SameTypes r.node.params n.params) : Running where
  node := n
  names := r.names
  descriptor := r.descriptor
  nodup := r.nodup
  listed name := by rw [h.isSome, r.listed]

def setParameters (refusal : Parameter → Bytes) (opened : List Parameter → Bool) (batch : List Parameter)
    (r : Running) : List SetParametersResult × Running :=
  ((r.node.setParameters refusal opened batch).1,
    r.become (r.node.setParameters refusal opened batch).2
      (r.node.setParameters_types refusal opened batch))

def setParametersAtomically (opened : List Parameter → Bool) (batch : List Parameter) (r : Running) :
    Option SetParametersResult × Running :=
  ((r.node.setParametersAtomically opened batch).1,
    r.become (r.node.setParametersAtomically opened batch).2
      (r.node.setParametersAtomically_types opened batch))

/-- the node as far as its services read it -/
def store (r : Running) : ParameterNode Unit := ⟨r.node.params, ()⟩

/-- the values of the named parameters, and none at all when one of them is not declared -/
def getParameters (r : Running) (names : List String) : List Parameter :=
  (names.mapM fun name => (r.node.params name).map fun v => (name, v)).getD []

/-- the same with the descriptors -/
def describe (r : Running) (names : List String) : List ParameterDescriptor :=
  (names.mapM fun name => (r.node.params name).map fun _ => r.descriptor name).getD []

end Running

/-- the nodes that run, by name -/
abbrev World := Bytes → Option Running

/-! ## service calls -/

/-- What becomes of a call: it is answered in time, or the caller stops waiting, or waiting throws; the call
may have been carried out all the same. -/
inductive Fate where
  | inTime
  | timedOut (reached : Bool)
  | failed (what : Bytes) (reached : Bool)

/-- the call has been carried out -/
def Fate.reaches : Fate → Bool
  | .inTime => true
  | .timedOut reached => reached
  | .failed _ reached => reached

/-- what the caller gets; `none`: there is no node -/
def Fate.answer {A : Type} : Fate → Option A → ServiceAnswer A
  | .failed what _, _ => .failed what
  | .inTime, some a => .answered a
  | _, _ => .timedOut

/-- `discovered`: whether the service is found in time, where there is a node -/
structure Fates where
  discovered : Bool := true
  list : Fate := .inTime
  get : Fate := .inTime
  describe : Fate := .inTime
  set : Fate := .inTime

section
variable (refusal : Parameter → Bytes)

def parametersClient (opened : List Parameter → Bool) (fates : Fates) (target : Bytes) :
    ParametersClient World where
  ready w := fates.discovered && (w target).isSome
  describeParameters w names :=
    fates.describe.answer ((w target).map fun r => describeParameters r.store names)
  setParameters w batch :=
    match w target with
    | none => (fates.set.answer none, w)
    | some r =>
      (fates.set.answer (some (r.setParameters refusal opened batch).1),
        if fates.set.reaches then
          Function.update w target (some (r.setParameters refusal opened batch).2)
        else w)

end

def snapshotClient (fates : Fates) (target : Bytes) : SnapshotClient World where
  ready w := fates.discovered && (w target).isSome
  listParameters w := fates.list.answer ((w target).map fun r => r.names)
  getParameters w names := fates.get.answer ((w target).map fun r => r.getParameters names)
  describeParameters w names := fates.describe.answer ((w target).map fun r => r.describe names)

/-! ## the two phases of a request -/

section
variable {σ : Type} (parse : Bytes → Except Bytes Json) (dump : Json → Bytes)
  (paramClients : Bytes → Option (ParametersClient σ))

/-- what `handle_post_parameters` still has to do when the target has described the parameters -/
structure ToSet where
  target : Bytes
  tally : Tally
  batch : List Parameter

/-- up to the descriptors; an answer may be found on the way -/
def postAsk (body : Bytes) (s : σ) : Response ⊕ ToSet :=
  match parse body with
  | .error what => .inl (.error 400 (lit "invalid JSON: " ++ what))
  | .ok payload =>
    match postShape payload with
    | none =>
      .inl (.error 400 (lit
        "expected JSON of the form \x7b\"node\": \"/...\", \"parameters\": \x7b...\x7d\x7d"))
    | some (target, params) =>
      match paramClients target with
      | none => .inl (.error 503 (lit "node '" ++ target ++ lit "' is not in target_nodes"))
      | some client =>
        if ¬ client.ready s then
          .inl (.error 503 (lit "parameter service for '" ++ target ++ lit "' is not available"))
        else if params.keys.isEmpty then .inl (.error 400 (lit "'parameters' object is empty"))
        else match client.describeParameters s params.keys with
          | .timedOut => .inl (.error 504 (lit "describe_parameters timed out for '" ++ target ++ lit "'"))
          | .failed what => .inl (.error 502 (lit "describe_parameters failed: " ++ what))
          | .answered descriptors =>
            if (convertAll dump descriptors params).2.isEmpty then
              .inl (.body ((convertAll dump descriptors params).1.body target))
            else .inr ⟨target, (convertAll dump descriptors params).1, (convertAll dump descriptors params).2⟩

def postAct (client : Bytes → ParametersClient σ) : Response ⊕ ToSet → σ → Response × σ
  | .inl answer, s => (answer, s)
  | .inr todo, s => setAnswer todo.tally todo.batch todo.target ((client todo.target).setParameters s todo.batch)

/-- The handler is its two phases. -/
theorem handlePostParameters_phases (client : Bytes → ParametersClient σ)
    (hclient : ∀ target c, paramClients target = some c → c = client target) (body : Bytes) (s : σ) :
    handlePostParameters parse dump paramClients body s
      = postAct client (postAsk parse dump paramClients body s) s := by
  unfold handlePostParameters postAsk
  cases parse body with
  | error what => rfl
  | ok payload =>
    dsimp only
    cases postShape payload with
    | none => rfl
    | some shape =>
      obtain ⟨target, params⟩ := shape
      dsimp only
      cases hc : paramClients target with
      | none => rfl
      | some c =>
        obtain rfl := hclient target c hc
        dsimp only
        by_cases hready : ¬ (client target).ready s
        · rw [if_pos hready, if_pos hready]
          rfl
        rw [if_neg hready, if_neg hready]
        by_cases hempty : params.keys.isEmpty = true
        · rw [if_pos hempty, if_pos hempty]
          rfl
        rw [if_neg hempty, if_neg hempty, postParameters]
        cases (client target).describeParameters s params.keys with
        | timedOut => rfl
        | failed what => rfl
        | answered descriptors =>
          dsimp only
          split
          · rfl
          · rfl

end

section
variable {σ : Type} (paramClients : Bytes → Option (SnapshotClient σ))

/-- up to the names -/
def snapshotAsk (nodeName : Bytes) (s : σ) : NodeSnapshot ⊕ List String :=
  match paramClients nodeName with
  | none => .inl { name := nodeName, error := some (lit "no client") }
  | some client =>
    if ¬ client.ready s then
      .inl { name := nodeName, error := some (lit "parameter service not available") }
    else match client.listParameters s with
      | .timedOut => .inl { name := nodeName, error := some (lit "list_parameters timed out") }
      | .failed what => .inl { name := nodeName, error := some what }
      | .answered names => .inr names

def snapshotAct (client : Bytes → SnapshotClient σ) (nodeName : Bytes) :
    NodeSnapshot ⊕ List String → σ → NodeSnapshot
  | .inl answer, s => answer
  | .inr names, s => snapshotNamed (client nodeName) nodeName names s

theorem snapshotNode_phases (client : Bytes → SnapshotClient σ)
    (hclient : ∀ target c, paramClients target = some c → c = client target) (nodeName : Bytes) (s : σ) :
    snapshotNode paramClients nodeName s
      = snapshotAct client nodeName (snapshotAsk paramClients nodeName s) s := by
  unfold snapshotNode snapshotAsk
  cases hc : paramClients nodeName with
  | none => rfl
  | some c =>
    obtain rfl := hclient nodeName c hc
    dsimp only
    split
    · rfl
    · cases (client nodeName).listParameters s with
      | timedOut => rfl
      | failed what => rfl
      | answered names => rfl

end

/-! ## jobs -/

/-- A `POST`, one target of a `GET`, or a call of another client. -/
inductive Job where
  | post (body : Bytes) (opened : List Parameter → Bool) (fates : Fates)
  | snapshot (nodeName : Bytes) (fates : Fates)
  | set (target : Bytes) (batch : List Parameter) (opened : List Parameter → Bool)
  | setAtomically (target : Bytes) (batch : List Parameter) (opened : List Parameter → Bool)

inductive JobAnswer where
  | response (r : Response)
  | snapshot (s : NodeSnapshot)
  | results (results : Option (List SetParametersResult))
  | result (result : Option SetParametersResult)

/-- what a job has been told -/
inductive Told where
  | post (asked : Response ⊕ ToSet)
  | snapshot (asked : NodeSnapshot ⊕ List String)
  | nothing

section
variable (parse : Bytes → Except Bytes Json) (dump : Json → Bytes) (refusal : Parameter → Bytes)
  (targetNodes : List Bytes)

/-- `param_clients_`: one client for each name of `target_nodes` -/
def clientsOf {C : Type} (client : Bytes → C) (target : Bytes) : Option C :=
  if target ∈ targetNodes then some (client target) else none

theorem clientsOf_some {C : Type} {client : Bytes → C} {target : Bytes} {c : C}
    (h : clientsOf targetNodes client target = some c) : target ∈ targetNodes ∧ c = client target := by
  unfold clientsOf at h
  split at h
  · rename_i hm
    exact ⟨hm, (Option.some.inj h).symm⟩
  · cases h

def Job.ask (job : Job) (w : World) : Told :=
  match job with
  | .post body opened fates =>
    .post (postAsk parse dump (clientsOf targetNodes (parametersClient refusal opened fates)) body w)
  | .snapshot nodeName fates =>
    .snapshot (snapshotAsk (clientsOf targetNodes (snapshotClient fates)) nodeName w)
  | .set _ _ _ => .nothing
  | .setAtomically _ _ _ => .nothing

def Job.act (job : Job) (told : Told) (w : World) : JobAnswer × World :=
  match job, told with
  | .post _ opened fates, .post asked =>
    (postAct (parametersClient refusal opened fates) asked w).map .response id
  | .snapshot nodeName fates, .snapshot asked =>
    (.snapshot (snapshotAct (snapshotClient fates) nodeName asked w), w)
  | .set target batch opened, _ =>
    match w target with
    | none => (.results none, w)
    | some r =>
      (.results (some (r.setParameters refusal opened batch).1),
        Function.update w target (some (r.setParameters refusal opened batch).2))
  | .setAtomically target batch opened, _ =>
    match w target with
    | none => (.result none, w)
    | some r =>
      (.result (r.setParametersAtomically opened batch).1,
        Function.update w target (some (r.setParametersAtomically opened batch).2))
  | _, _ => (.result none, w)

end

end VD
