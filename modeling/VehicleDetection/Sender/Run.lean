import VehicleDetection.Sender.Node

/-!
# The sender's snapshot over whole runs

* `view`              the directly stored fields of the snapshot as parameters;
* `UrlFresh`          the parsed URL is that of the endpoint string beside it;
* `record`            the snapshot as a record beside the parameters (`Mirror`), with its laws;
* `Agrees`            what a reachable snapshot says about the stored parameters;
* `sender_mirrors`    it holds in every reachable state, batches are accepted as a new start would
                      accept them, and a rejected batch changes nothing.
-/

set_option linter.unusedVariables false

namespace VD.DetectionSenderNode
open BStr

def Snapshot.view (s : Snapshot) : List Parameter := [
  ("send_mode", .string s.sendMode),
  ("http_endpoint_url", .string s.httpEndpointUrl),
  ("http_timeout_ms", .integer s.httpTimeoutMs),
  ("http_retry_count", .integer s.httpRetryCount),
  ("http_auth_type", .string s.httpAuthType),
  ("save_results", .bool s.saveResults),
  ("result_output_path", .string s.resultOutputPath),
  ("result_output_format", .string s.resultOutputFormat)]

/-- the parsed URL is that of the endpoint string; a failed parse leaves any URL behind -/
def UrlFresh (s : Snapshot) : Prop :=
  (s.httpUrlValid = true ↔ ∃ u, parseHttpUrl s.httpEndpointUrl = some u) ∧
    (s.httpUrlValid = true → parseHttpUrl s.httpEndpointUrl = some s.httpUrl)

structure UpToDate (params : ParameterStore) (s : Snapshot) : Prop where
  shows : Mirror.Shows Snapshot.view params s
  url : UrlFresh s

def record : Mirror.Record String ParameterValue ParameterError Bytes Snapshot :=
  ⟨buildSnapshotFromParameters, applyParameter, enforceInitialParameters⟩

theorem parseInto_fresh (url : Bytes) (target : HttpUrl) :
    ((parseInto url target).1 = true ↔ ∃ u, parseHttpUrl url = some u) ∧
      ((parseInto url target).1 = true → parseHttpUrl url = some (parseInto url target).2) := by
  unfold parseInto
  cases parseHttpUrl url with
  | none => simp
  | some u => simp

/-- the snapshot a start would build: the parsed URL is empty when the string is not accepted -/
def rebuilt (s : Snapshot) : Snapshot :=
  { s with
    httpUrlValid := (parseInto s.httpEndpointUrl {}).1
    httpUrl := (parseInto s.httpEndpointUrl {}).2 }

theorem UrlFresh.valid_rebuilt {s : Snapshot} (h : UrlFresh s) :
    (rebuilt s).httpUrlValid = s.httpUrlValid :=
  Bool.eq_iff_iff.mpr ((parseInto_fresh s.httpEndpointUrl {}).1.trans h.1.symm)

theorem buildSnapshot_iff {params : ParameterStore} {s : Snapshot} :
    buildSnapshotFromParameters params = .ok s ↔
      Mirror.Shows Snapshot.view params s ∧ rebuilt s = s := by
  constructor
  · intro h
    simp only [buildSnapshotFromParameters, bind_ok, getString_ok, getInt_ok, getBool_ok] at h
    obtain ⟨v₁, h₁, v₂, h₂, v₃, h₃, v₄, h₄, v₅, h₅, v₆, h₆, v₇, h₇, v₈, h₈, h⟩ := h
    cases h
    exact ⟨by simp [Mirror.Shows, Snapshot.view, *], rfl⟩
  · rintro ⟨h, hr⟩
    simp only [Mirror.Shows, Snapshot.view, List.forall_mem_cons] at h
    obtain ⟨h₁, h₂, h₃, h₄, h₅, h₆, h₇, h₈, -⟩ := h
    rw [← hr]
    simp [buildSnapshotFromParameters, getString_ok.mpr h₁, getString_ok.mpr h₂, getInt_ok.mpr h₃,
      getInt_ok.mpr h₄, getString_ok.mpr h₅, getBool_ok.mpr h₆, getString_ok.mpr h₇,
      getString_ok.mpr h₈]
    rfl

/-! ## one entry -/

/-- An entry of the type of its field replaces that field and no other; an entry that names no
field is ignored. -/
theorem applyParameter_view (s : Snapshot) (e : Parameter)
    (h : Mirror.Fits Snapshot.view ParameterValue.type s e) :
    (applyParameter s e).map Snapshot.view = .ok (Mirror.overwrite e s.view) := by
  let P : Except ParameterError Snapshot → Prop :=
    fun x => x.map Snapshot.view = .ok (Mirror.overwrite e s.view)
  have fs := fun k f => Mirror.Fits.field .string ParameterValue.asString
    (fun v => ParameterValue.asString_of_type) (fun a => rfl) h k f
  have fi := fun k f => Mirror.Fits.field .integer ParameterValue.asInt
    (fun v => ParameterValue.asInt_of_type) (fun a => rfl) h k f
  have fb := fun k f => Mirror.Fits.field .bool ParameterValue.asBool
    (fun v => ParameterValue.asBool_of_type) (fun a => rfl) h k f
  unfold applyParameter
  refine iteInduction (motive := P) (fs _ _ rfl fun v => rfl) fun h₁ => ?_
  refine iteInduction (motive := P) (fs _ _ rfl fun v => rfl) fun h₂ => ?_
  refine iteInduction (motive := P) (fi _ _ rfl fun v => rfl) fun h₃ => ?_
  refine iteInduction (motive := P) (fi _ _ rfl fun v => rfl) fun h₄ => ?_
  refine iteInduction (motive := P) (fs _ _ rfl fun v => rfl) fun h₅ => ?_
  refine iteInduction (motive := P) (fb _ _ rfl fun v => rfl) fun h₆ => ?_
  refine iteInduction (motive := P) (fs _ _ rfl fun v => rfl) fun h₇ => ?_
  refine iteInduction (motive := P) (fs _ _ rfl fun v => rfl) fun h₈ => ?_
  refine congrArg Except.ok (Mirror.overwrite_of_ne ?_).symm
  simp [Snapshot.view, *]

/-- the parsed URL is refreshed with the string, and by no other entry -/
theorem applyParameter_url {s s' : Snapshot} {e : Parameter} (h : applyParameter s e = .ok s')
    (hs : UrlFresh s) : UrlFresh s' := by
  let P : Except ParameterError Snapshot → Prop := fun x => ∀ s', x = .ok s' → UrlFresh s'
  have keep : ∀ {α : Type} (x : Except ParameterError α) (f : α → Snapshot),
      (∀ a, UrlFresh (f a)) → P (x.map f) := by
    intro α x f hf s' hx
    obtain ⟨a, -, rfl⟩ := map_ok.mp hx
    exact hf a
  suffices hP : P (applyParameter s e) from hP s' h
  unfold applyParameter
  refine iteInduction (motive := P) (fun _ => keep _ _ fun v => hs) fun _ => ?_
  refine iteInduction (motive := P) (fun _ => keep _ _ fun v => ?_) fun _ => ?_
  · exact parseInto_fresh v s.httpUrl
  refine iteInduction (motive := P) (fun _ => keep _ _ fun v => hs) fun _ => ?_
  refine iteInduction (motive := P) (fun _ => keep _ _ fun v => hs) fun _ => ?_
  refine iteInduction (motive := P) (fun _ => keep _ _ fun v => hs) fun _ => ?_
  refine iteInduction (motive := P) (fun _ => keep _ _ fun v => hs) fun _ => ?_
  refine iteInduction (motive := P) (fun _ => keep _ _ fun v => hs) fun _ => ?_
  refine iteInduction (motive := P) (fun _ => keep _ _ fun v => hs) fun _ => ?_
  intro s' hx
  cases hx
  exact hs

/-- the two copies of the checks say the same -/
theorem checkCandidate_eq : checkCandidate = enforceInitialParameters := rfl

/-- the checks read whether the URL is valid, not the URL -/
theorem enforce_congr {s t : Snapshot} (hm : s.sendMode = t.sendMode)
    (hv : s.httpUrlValid = t.httpUrlValid) (ht : s.httpTimeoutMs = t.httpTimeoutMs)
    (hr : s.httpRetryCount = t.httpRetryCount) (hf : s.resultOutputFormat = t.resultOutputFormat) :
    enforceInitialParameters s = enforceInitialParameters t := by
  unfold enforceInitialParameters
  rw [hm, hv, ht, hr, hf]

theorem lawful : Mirror.Lawful record ParameterValue.type UpToDate where
  build_rel := by
    intro params s h
    obtain ⟨hs, hr⟩ := buildSnapshot_iff.mp h
    have hu : UrlFresh (rebuilt s) := parseInto_fresh s.httpEndpointUrl {}
    exact ⟨hs, hr ▸ hu⟩
  rel_build := by
    intro params s h
    refine ⟨rebuilt s, buildSnapshot_iff.mpr ⟨h.shows, rfl⟩, ?_⟩
    exact enforce_congr rfl h.url.valid_rebuilt rfl rfl rfl
  patch_rel := by
    intro params s e h ht
    have hv := applyParameter_view s e (h.shows.fits ht)
    cases ha : applyParameter s e with
    | error err => rw [ha] at hv; cases hv
    | ok s' =>
      rw [ha] at hv
      exact ⟨s', ha, h.shows.set e (Except.ok.inj hv), applyParameter_url ha h.url⟩

/-! ## the node -/

/-- the members after an accepted batch -/
def commit (opened : Bool) (batch : List Parameter) (self : Members) (candidate : Snapshot) :
    Members where
  snapshot := candidate
  workerStarted := ensureHttpWorkerStarted self.workerStarted candidate.sendMode
  writer := if batch.any isWriterInput then applyWriterConfig self.writer candidate opened
    else self.writer

theorem onParameterChange_eq (opened : Bool) (batch : List Parameter) (self : Members) :
    onParameterChange opened self batch
      = (record.change self.snapshot batch).map (answer (commit opened batch) self) := by
  show (record.patchAll self.snapshot batch).map _
    = ((record.patchAll self.snapshot batch).map record.judge).map _
  cases record.patchAll self.snapshot batch with
  | error e => rfl
  | ok c =>
    simp only [Except.map, Mirror.Record.judge, record, checkCandidate_eq]
    cases enforceInitialParameters c with
    | error r => rfl
    | ok u => rfl

def toState (n : Node) : Mirror.State String ParameterValue Snapshot := ⟨n.params, n.state.snapshot⟩

theorem step_mirror (n : Node) (batch : List Parameter × Bool) :
    toState (step n batch) = Mirror.step record ParameterValue.type (toState n) batch.1 :=
  setParametersAtomically_mirror (fun _ _ => rfl) (onParameterChange_eq batch.2 batch.1) n

/-- the worker has been started if the mode needs it -/
def WorkerReady (m : Members) : Prop :=
  sendModeUsesHttp m.snapshot.sendMode = true → m.workerStarted = true

theorem ensureHttpWorkerStarted_eq (started : Bool) (mode : Bytes) :
    ensureHttpWorkerStarted started mode = (started || sendModeUsesHttp mode) := by
  unfold ensureHttpWorkerStarted
  cases started <;> cases sendModeUsesHttp mode <;> rfl

/-- what holds in every reachable state -/
structure Inv (n : Node) : Prop where
  mirror : Mirror.Inv record UpToDate (toState n)
  declares : Declares declared n.params
  worker : WorkerReady n.state

theorem declared_nodup : (declared.map Prod.fst).Nodup := by decide

theorem start_inv {others overrides : ParameterStore} {opened : Bool} {n : Node}
    (h : start others overrides opened = .ok (.ok n)) : Inv n := by
  obtain ⟨params, s, hp, hb, hc, rfl⟩ := startNode_ok.mp h
  refine ⟨⟨lawful.build_rel hb, hc⟩, Declares.start declared_nodup hp, fun hm => ?_⟩
  show ensureHttpWorkerStarted false s.sendMode = true
  rw [ensureHttpWorkerStarted_eq]
  exact hm

theorem step_worker {n : Node} (h : WorkerReady n.state) (batch : List Parameter × Bool) :
    WorkerReady (step n batch).state := by
  unfold step setParametersAtomically
  split
  · rw [onParameterChange_eq]
    cases record.change n.state.snapshot batch.1 with
    | error e => exact h
    | ok r =>
      cases r with
      | error reason => exact h
      | ok c =>
        intro hm
        show ensureHttpWorkerStarted n.state.workerStarted c.sendMode = true
        have hm' : sendModeUsesHttp c.sendMode = true := hm
        rw [ensureHttpWorkerStarted_eq, hm', Bool.or_true]
  · exact h

theorem step_inv {n : Node} (h : Inv n) (batch : List Parameter × Bool) : Inv (step n batch) := by
  refine ⟨?_, h.declares.set (onParameterChange batch.2) batch.1, step_worker h.worker batch⟩
  rw [step_mirror]
  exact h.mirror.step lawful batch.1

theorem run_inv (batches : List (List Parameter × Bool)) :
    ∀ {n : Node}, Inv n → Inv (run n batches) := by
  induction batches with
  | nil => exact fun h => h
  | cons batch batches ih => exact fun h => ih (step_inv h batch)

/-! ## the defaults -/

def defaultNode : Node where
  params := Mirror.setAll (fun _ => none) declared
  state := {
    snapshot := {
      sendMode := lit "ros_topic"
      httpEndpointUrl := lit "http://host.docker.internal:8080/detections"
      httpUrl := ⟨lit "host.docker.internal", lit "8080", lit "/detections"⟩
      httpUrlValid := true
      httpTimeoutMs := 1000
      httpRetryCount := 0
      httpAuthType := lit "none"
      saveResults := false
      resultOutputPath := []
      resultOutputFormat := lit "jsonl" } }

/-- every default passes the checks: the node starts without overrides -/
theorem start_default : start (fun _ => none) (fun _ => none) true = .ok (.ok defaultNode) := by
  have hshows : Mirror.Shows Snapshot.view defaultNode.params defaultNode.state.snapshot := by
    simp only [Mirror.Shows, Snapshot.view, List.forall_mem_cons]
    exact ⟨rfl, rfl, rfl, rfl, rfl, rfl, rfl, rfl, fun x hx => absurd hx List.not_mem_nil⟩
  have hurl : rebuilt defaultNode.state.snapshot = defaultNode.state.snapshot := by decide
  have hcheck : enforceInitialParameters defaultNode.state.snapshot = .ok () := by decide
  exact startNode_ok.mpr ⟨_, _, rfl, buildSnapshot_iff.mpr ⟨hshows, hurl⟩, hcheck, rfl⟩

/-! ## what a reachable state is -/

/-- the snapshot agrees with the stored parameters, and the parsed URL with the stored string -/
structure Agrees (params : ParameterStore) (s : Snapshot) : Prop where
  send_mode : params "send_mode" = some (.string s.sendMode)
  http_endpoint_url : params "http_endpoint_url" = some (.string s.httpEndpointUrl)
  http_timeout_ms : params "http_timeout_ms" = some (.integer s.httpTimeoutMs)
  http_retry_count : params "http_retry_count" = some (.integer s.httpRetryCount)
  http_auth_type : params "http_auth_type" = some (.string s.httpAuthType)
  save_results : params "save_results" = some (.bool s.saveResults)
  result_output_path : params "result_output_path" = some (.string s.resultOutputPath)
  result_output_format : params "result_output_format" = some (.string s.resultOutputFormat)
  url_valid : s.httpUrlValid = true ↔ ∃ u, parseHttpUrl s.httpEndpointUrl = some u
  url : s.httpUrlValid = true → parseHttpUrl s.httpEndpointUrl = some s.httpUrl

theorem UpToDate.agrees {params : ParameterStore} {s : Snapshot} (h : UpToDate params s) :
    Agrees params s := by
  have hs := h.shows
  simp only [Mirror.Shows, Snapshot.view, List.forall_mem_cons] at hs
  obtain ⟨h₁, h₂, h₃, h₄, h₅, h₆, h₇, h₈, -⟩ := hs
  exact ⟨h₁, h₂, h₃, h₄, h₅, h₆, h₇, h₈, h.url.1, h.url.2⟩

/-- a snapshot that has passed the checks has a valid URL if it needs one -/
theorem enforce_url {s : Snapshot} (h : enforceInitialParameters s = .ok ())
    (hm : sendModeUsesHttp s.sendMode = true) : s.httpUrlValid = true := by
  by_contra hv
  unfold enforceInitialParameters at h
  split at h
  · cases h
  · split at h
    · cases h
    · rw [if_pos ⟨hm, hv⟩] at h
      cases h

/-- only declared parameters are read -/
theorem build_reads (p q : ParameterStore) (h : ∀ d ∈ declared, p d.1 = q d.1) :
    buildSnapshotFromParameters p = buildSnapshotFromParameters q := by
  simp only [declared, List.forall_mem_cons] at h
  simp only [buildSnapshotFromParameters, getString, getBool, getInt, getParameter, h]

/-- **The sender's snapshot mirrors the parameters.**  In every reachable state the snapshot agrees
with the stored parameters and with the URL they name; a mode that posts has a valid URL and a
started worker; a batch of the declared types is accepted exactly when a node would start with the
parameters after it; a rejected batch changes no member. -/
theorem sender_mirrors (others overrides : ParameterStore) (opened : Bool) (n : Node)
    (batches : List (List Parameter × Bool)) (h : start others overrides opened = .ok (.ok n)) :
    let m := run n batches
    Agrees m.params m.state.snapshot ∧
    (sendModeUsesHttp m.state.snapshot.sendMode = true →
      m.state.snapshot.httpUrlValid = true ∧ m.state.workerStarted = true) ∧
    ∀ batch opened, Mirror.Typed ParameterValue.type m.params batch →
      ∃ result next, onParameterChange opened m.state batch = .ok (result, next) ∧
        (result.successful = true ↔
          ∃ n', start others (Mirror.setAll m.params batch) opened = .ok (.ok n')) ∧
        (result.successful = false → next = m.state) := by
  intro m
  have hinv := run_inv batches (start_inv h)
  have hup : UpToDate m.params m.state.snapshot := hinv.mirror.upToDate
  refine ⟨hup.agrees, fun hm => ⟨enforce_url hinv.mirror.checked hm, hinv.worker hm⟩, ?_⟩
  intro batch opened ht
  obtain ⟨result, next, hcb, hacc, hrej⟩ :=
    callback_accepts lawful (onParameterChange_eq opened batch) hup ht
  have hrestart : (∃ n', start others (Mirror.setAll m.params batch) opened = .ok (.ok n')) ↔
      ∃ s, record.build (Mirror.setAll m.params batch) = .ok s ∧ record.check s = .ok () :=
    startNode_restart enforceInitialParameters _ (hinv.declares.setAll ht) build_reads others
  exact ⟨result, next, hcb, hacc.trans hrestart.symm, hrej⟩

/-- an invalid URL is stored while nothing is posted, and the mode that would post is refused -/
theorem sender_mirrors_default :
    let m := run defaultNode [([("http_endpoint_url", .string (lit "ftp://x"))], true),
      ([("send_mode", .string (lit "http"))], true)]
    Agrees m.params m.state.snapshot :=
  (sender_mirrors (fun _ => none) (fun _ => none) true defaultNode
    [([("http_endpoint_url", .string (lit "ftp://x"))], true),
      ([("send_mode", .string (lit "http"))], true)] start_default).1

end VD.DetectionSenderNode
