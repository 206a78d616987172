import VehicleDetection.Bridge.World

/-!
# Requests at the same time

A `POST` asks for the types of parameters, a target of a `GET` for their names, and acts later.  No call changes a
type or adds a name, so what it has been told still holds then.

* `Alike`              nodes under the same names, with the same parameters of the same types;
* `ask_congr`          a job is told the same;
* `act_alike`          no act makes a difference to that;
* `requests_serial`    whatever the interleaving, nodes and answers are those of the jobs one after another.
-/

set_option linter.unusedVariables false

namespace VD
open BStr

/-- the same names and the same types -/
structure AlikeRunning (r r' : Running) : Prop where
  names : r'.names = r.names
  types : SameTypes r.node.params r'.node.params

/-- nodes run under the same names, and are alike -/
def Alike (w w' : World) : Prop := ∀ target, Option.Rel AlikeRunning (w target) (w' target)

theorem Alike.refl (w : World) : Alike w w := by
  intro target
  cases w target with
  | none => exact .none
  | some r => exact .some ⟨rfl, fun _ => rfl⟩

theorem Alike.update {w : World} {target : Bytes} {r r' : Running} (hr : w target = some r)
    (h : AlikeRunning r r') : Alike w (Function.update w target (some r')) := by
  intro t
  by_cases ht : t = target
  · subst ht
    rw [Function.update_self, hr]
    exact .some h
  · rw [Function.update_of_ne ht]
    exact Alike.refl w t

/-- what only depends on names and types is the same -/
theorem Alike.map {w w' : World} (h : Alike w w') (target : Bytes) {B : Type} (f : Running → B)
    (hf : ∀ r r', AlikeRunning r r' → f r' = f r) : (w' target).map f = (w target).map f := by
  have ht := h target
  revert ht
  cases w target with
  | none =>
    intro ht
    cases hw : w' target with
    | none => rfl
    | some r =>
      rw [hw] at ht
      cases ht
  | some r =>
    intro ht
    cases hw : w' target with
    | none =>
      rw [hw] at ht
      cases ht
    | some r' =>
      rw [hw] at ht
      cases ht with
      | some hrel => exact congrArg some (hf r r' hrel)

theorem Alike.isSome {w w' : World} (h : Alike w w') (target : Bytes) :
    (w' target).isSome = (w target).isSome := by
  have hm := h.map target (fun _ => ()) fun _ _ _ => rfl
  rw [← Option.isSome_map (f := fun _ => ()), hm, Option.isSome_map]

theorem describeParameters_congr {σ : Type} {n n' : ParameterNode σ} (h : SameTypes n.params n'.params)
    (names : List String) : describeParameters n' names = describeParameters n names := by
  have hf : ∀ name, (n'.params name).map (fun v => v.type.code) = (n.params name).map fun v => v.type.code := by
    intro name
    have ht := congrArg (Option.map ParameterType.code) (h name)
    rwa [Option.map_map, Option.map_map] at ht
  simp only [describeParameters, hf]

/-! ## the first phase -/

/-- what a request reads before it sets -/
theorem postAsk_congr {σ : Type} (parse : Bytes → Except Bytes Json) (dump : Json → Bytes)
    {paramClients : Bytes → Option (ParametersClient σ)} {s s' : σ}
    (h : ∀ target client, paramClients target = some client → client.ready s' = client.ready s ∧
      ∀ names, client.describeParameters s' names = client.describeParameters s names) (body : Bytes) :
    postAsk parse dump paramClients body s' = postAsk parse dump paramClients body s := by
  unfold postAsk
  cases parse body with
  | error what => rfl
  | ok payload =>
    dsimp only
    cases postShape payload with
    | none => rfl
    | some shape =>
      dsimp only
      cases hc : paramClients shape.1 with
      | none => rfl
      | some client =>
        obtain ⟨hready, hdescribe⟩ := h shape.1 client hc
        dsimp only
        rw [hready, hdescribe]

theorem snapshotAsk_congr {σ : Type} {paramClients : Bytes → Option (SnapshotClient σ)} {s s' : σ}
    (h : ∀ target client, paramClients target = some client → client.ready s' = client.ready s ∧
      client.listParameters s' = client.listParameters s) (nodeName : Bytes) :
    snapshotAsk paramClients nodeName s' = snapshotAsk paramClients nodeName s := by
  unfold snapshotAsk
  cases hc : paramClients nodeName with
  | none => rfl
  | some client =>
    obtain ⟨hready, hlist⟩ := h nodeName client hc
    dsimp only
    rw [hready, hlist]

section
variable (parse : Bytes → Except Bytes Json) (dump : Json → Bytes) (refusal : Parameter → Bytes)
  (targetNodes : List Bytes)

theorem ask_congr {w w' : World} (h : Alike w w') (job : Job) :
    job.ask parse dump refusal targetNodes w' = job.ask parse dump refusal targetNodes w := by
  cases job with
  | post body opened fates =>
    refine congrArg Told.post (postAsk_congr parse dump (fun target client hc => ?_) body)
    obtain ⟨-, rfl⟩ := clientsOf_some targetNodes hc
    refine ⟨congrArg (fates.discovered && ·) (h.isSome target), fun names => ?_⟩
    refine congrArg fates.describe.answer (h.map target _ fun r r' hrel => ?_)
    have htypes : SameTypes r.store.params r'.store.params := hrel.types
    exact describeParameters_congr htypes names
  | snapshot nodeName fates =>
    refine congrArg Told.snapshot (snapshotAsk_congr (fun target client hc => ?_) nodeName)
    obtain ⟨-, rfl⟩ := clientsOf_some targetNodes hc
    exact ⟨congrArg (fates.discovered && ·) (h.isSome target),
      congrArg fates.list.answer (h.map target _ fun r r' hrel => hrel.names)⟩
  | set target batch opened => rfl
  | setAtomically target batch opened => rfl

/-! ## the second phase -/

theorem parametersClient_alike (opened : List Parameter → Bool) (fates : Fates) (target : Bytes) (w : World)
    (batch : List Parameter) :
    Alike w ((parametersClient refusal opened fates target).setParameters w batch).2 := by
  unfold parametersClient
  dsimp only
  cases hr : w target with
  | none => exact Alike.refl w
  | some r =>
    dsimp only
    split
    · exact Alike.update hr ⟨rfl, r.node.setParameters_types refusal opened batch⟩
    · exact Alike.refl w

/-- Whatever a job has been told, it leaves the nodes alike. -/
theorem act_alike (job : Job) (told : Told) (w : World) : Alike w (job.act refusal told w).2 := by
  cases job with
  | post body opened fates =>
    cases told with
    | post asked =>
      cases asked with
      | inl answer => exact Alike.refl w
      | inr todo =>
        have h := parametersClient_alike refusal opened fates todo.target w todo.batch
        show Alike w (setAnswer _ _ _ _).2
        generalize (parametersClient refusal opened fates todo.target).setParameters w todo.batch = answer at h ⊢
        obtain ⟨a, w'⟩ := answer
        cases a with
        | timedOut => exact h
        | failed what => exact h
        | answered results => exact h
    | snapshot asked => exact Alike.refl w
    | nothing => exact Alike.refl w
  | snapshot nodeName fates =>
    cases told with
    | snapshot asked => exact Alike.refl w
    | post asked => exact Alike.refl w
    | nothing => exact Alike.refl w
  | set target batch opened =>
    unfold Job.act
    dsimp only
    cases hr : w target with
    | none => exact Alike.refl w
    | some r => exact Alike.update hr ⟨rfl, r.node.setParameters_types refusal opened batch⟩
  | setAtomically target batch opened =>
    unfold Job.act
    dsimp only
    cases hr : w target with
    | none => exact Alike.refl w
    | some r => exact Alike.update hr ⟨rfl, r.node.setParametersAtomically_types opened batch⟩

/-! ## interleavings -/

section
variable {I : Type} (jobs : I → Job)

/-- the first phase of the job with this number -/
def asking (i : I) (w : World) : Told := (jobs i).ask parse dump refusal targetNodes w

/-- the second one -/
def acting (i : I) (told : Told) (w : World) : JobAnswer × World := (jobs i).act refusal told w

/-- a job reads no other text than its body -/
theorem asking_congr (parse' : Bytes → Except Bytes Json)
    (h : ∀ i body opened fates, jobs i = .post body opened fates → parse body = parse' body) :
    asking parse dump refusal targetNodes jobs = asking parse' dump refusal targetNodes jobs := by
  funext i w
  unfold asking Job.ask
  cases hi : jobs i with
  | post body opened fates =>
    dsimp only
    rw [postAsk, h i body opened fates hi]
    rfl
  | snapshot nodeName fates => rfl
  | set target batch opened => rfl
  | setAtomically target batch opened => rfl

theorem steady : TwoPhase.Steady (asking parse dump refusal targetNodes jobs) (acting refusal jobs) :=
  fun i j told w => ask_congr parse dump refusal targetNodes (act_alike refusal (jobs j) told w) (jobs i)

end

/-- a job that nobody comes between -/
def Job.handle (job : Job) (w : World) : JobAnswer × World :=
  job.act refusal (job.ask parse dump refusal targetNodes w) w

/-- A `POST` alone is the handler. -/
theorem handle_post (body : Bytes) (opened : List Parameter → Bool) (fates : Fates) (w : World) :
    (Job.post body opened fates).handle parse dump refusal targetNodes w
      = (handlePostParameters parse dump (clientsOf targetNodes (parametersClient refusal opened fates)) body
          w).map .response id := by
  rw [handlePostParameters_phases parse dump _ (parametersClient refusal opened fates)
    fun target c hc => (clientsOf_some targetNodes hc).2]
  rfl

/-- One target of a `GET` alone is the function for it. -/
theorem handle_snapshot (nodeName : Bytes) (fates : Fates) (w : World) :
    (Job.snapshot nodeName fates).handle parse dump refusal targetNodes w
      = (.snapshot (snapshotNode (clientsOf targetNodes (snapshotClient fates)) nodeName w), w) := by
  rw [snapshotNode_phases _ (snapshotClient fates) fun target c hc => (clientsOf_some targetNodes hc).2]
  rfl

/-- the jobs one after another, each of them alone -/
def handleAll {I : Type} (jobs : I → Job) (w : World) (order : List I) : World :=
  order.foldl (fun w i => ((jobs i).handle parse dump refusal targetNodes w).2) w

/-- **Requests at the same time.** Any number of `POST`s, of single targets of `GET`s and of calls of other
clients may run at once, and each call may be answered in time, too late or not at all. Whatever the
interleaving, the nodes are in the state, and each finished job has the answer, that the jobs give one after
another in the order in which they have acted; a job that had acted before another one began comes before it.
The targets of one `GET` are jobs of their own: others may act between them. -/
theorem requests_serial {I : Type} [DecidableEq I] (jobs : I → Job) (w : World) (events : List I)
    (x : TwoPhase.State I World Told JobAnswer)
    (h : Steps.run (TwoPhase.step (asking parse dump refusal targetNodes jobs) (acting refusal jobs))
      (TwoPhase.initial w) events = some x) :
    x.shared = handleAll parse dump refusal targetNodes jobs w x.acted ∧ x.acted.Nodup ∧
    (∀ i answer, x.phase i = .finished answer → ∃ before after, x.acted = before ++ i :: after ∧
      answer = ((jobs i).handle parse dump refusal targetNodes
        (handleAll parse dump refusal targetNodes jobs w before)).1) ∧
    ∀ later y, Steps.run (TwoPhase.step (asking parse dump refusal targetNodes jobs) (acting refusal jobs))
        x later = some y →
      ∀ i j, i ∈ x.acted → x.phase j = .waiting →
        ∃ before after, y.acted = before ++ after ∧ i ∈ before ∧ j ∉ before := by
  have hsteady := steady parse dump refusal targetNodes jobs
  have hserial := TwoPhase.run_serial hsteady h
  exact ⟨hserial.shared, hserial.once, hserial.finished,
    fun later y hlater i j hi hj => TwoPhase.run_ordered hsteady h hlater hi hj⟩

end

theorem isSome_setAll (batch : List Parameter) : ∀ (p : ParameterStore) (name : String),
    (Mirror.setAll p batch name).isSome = true ↔ name ∈ batch.map Prod.fst ∨ (p name).isSome = true := by
  induction batch with
  | nil => exact fun p name => (or_iff_right List.not_mem_nil).symm
  | cons e batch ih =>
    intro p name
    show (Mirror.setAll (Mirror.set p e) batch name).isSome = true ↔ _
    rw [ih, List.map_cons, List.mem_cons]
    by_cases h : name = e.1
    · subst h
      rw [Mirror.set_self]
      exact iff_of_true (.inr rfl) (.inl (.inl rfl))
    · rw [Mirror.set_of_ne p h, or_iff_right h]

/-- the detector with its defaults, and no other node -/
def detectorAlone : World := fun target =>
  if target = lit "/vehicle_detector_node" then some {
    node := .detector VehicleDetectorNode.defaultNode
    names := VehicleDetectorNode.declared.map Prod.fst
    nodup := VehicleDetectorNode.declared_nodup
    listed := fun name =>
      ((isSome_setAll VehicleDetectorNode.declared (fun _ => none) name).trans
        (or_iff_left Bool.noConfusion)).symm }
  else none

def minText : Bytes :=
  lit "\x7b\"node\":\"/vehicle_detector_node\",\"parameters\":\x7b\"roi_min_x\":90\x7d\x7d"

def minPayload : Json := .object [("node", .string (lit "/vehicle_detector_node")),
  ("parameters", .object [("roi_min_x", .unsigned 90)])]

theorem minText_read : readJson minText = .ok minPayload :=
  request_read "/vehicle_detector_node" [(lit "roi_min_x", .bare (lit "90"))] (by decide +kernel)
    (ofMembers_one "roi_min_x" rfl)

/-- a `POST` and a call of another client -/
def twoJobs : Bool → Job
  | true => .post minText (fun _ => true) {}
  | false => .set (lit "/vehicle_detector_node") [("roi_max_x", .double 85.0)] fun _ => true

theorem twoJobs_asking : asking readJson (fun _ => []) (fun _ => []) [lit "/vehicle_detector_node"] twoJobs =
    asking (fun _ => .ok minPayload) (fun _ => []) (fun _ => []) [lit "/vehicle_detector_node"] twoJobs := by
  refine asking_congr _ _ _ _ _ _ fun i body opened fates hi => ?_
  cases i with
  | true =>
    cases hi
    exact minText_read
  | false => cases hi

/-- The call comes while the `POST` waits for the descriptors. -/
theorem twoJobs_run : ∃ x r, Steps.run (TwoPhase.step
      (asking readJson (fun _ => []) (fun _ => []) [lit "/vehicle_detector_node"] twoJobs)
      (acting (fun _ => []) twoJobs)) (TwoPhase.initial detectorAlone) [true, false, false, true] = some x ∧
    x.acted = [false, true] ∧ x.shared (lit "/vehicle_detector_node") = some r ∧
    r.names = VehicleDetectorNode.declared.map Prod.fst ∧
    r.node.params "cluster_min_size" = some (.integer 20) ∧ r.node.params "roi_max_x" = some (.double 85.0) ∧
    r.node.params "target_frame_id" = some (.string (lit "map")) := by
  rw [twoJobs_asking]
  exact ⟨_, _, rfl, rfl, rfl, rfl, rfl, rfl, rfl⟩

theorem requests_serial_between :
    ∃ x, Steps.run (TwoPhase.step
        (asking readJson (fun _ => []) (fun _ => []) [lit "/vehicle_detector_node"] twoJobs)
        (acting (fun _ => []) twoJobs)) (TwoPhase.initial detectorAlone) [true, false, false, true] = some x ∧
      x.acted = [false, true] ∧
      x.shared = handleAll readJson (fun _ => []) (fun _ => []) [lit "/vehicle_detector_node"]
        twoJobs detectorAlone x.acted := by
  obtain ⟨x, -, hrun, hacted, -⟩ := twoJobs_run
  exact ⟨x, hrun, hacted, (requests_serial readJson (fun _ => []) (fun _ => [])
    [lit "/vehicle_detector_node"] twoJobs detectorAlone [true, false, false, true] x hrun).1⟩

end VD
