import VehicleDetection.Bridge.Post
import VehicleDetection.Detector.Links
import VehicleDetection.Param.Services

/-!
# Several detector parameters in one `POST`

The bridge hands the parameters of a request to the detector, whose services store them one at a
time, in the order of their names.

* `detectorClient`       the services of the detector, which answer in time;
* `convertDeclared`      a payload as parameters of the detector;
* `settable_declared`    the handler asks for just these parameters;
* `joint_update_iff`     an update that is valid as a whole is taken as a whole exactly when the new
  upper ends go with the old lower ends: an upper end is stored before its lower end.
-/

set_option linter.unusedVariables false

namespace VD
open BStr VehicleDetectorNode

def detectorClient (refusal : Parameter → Bytes) : ParametersClient Node where
  ready _ := true
  describeParameters node names := .answered (VD.describeParameters node names)
  setParameters node batch :=
    let (results, node) := VD.setParameters onParameterChange refusal node batch
    (.answered results, node)

def declaredType (name : String) : Option ParameterType :=
  (declared.find? fun d => d.1 = name).map fun d => d.2.type

/-- `none`: a name is not declared, or a value does not convert to its type -/
def convertDeclared (dump : Json → Bytes) (params : SortedMap String Json) :
    Option (List Parameter) :=
  params.items.mapM fun item => do
    let type ← declaredType item.1
    let value ← (jsonToParameterValue dump item.2 type.code).toOption
    return (item.1, value)

def Response.Updates (r : Response) (name : String) : Prop := ∃ b, r = .body b ∧ name ∈ b.updated

/-! ## what the handler asks for -/

theorem mapM_forall₂ {A B : Type} {f : A → Option B} : ∀ {l : List A} {bs : List B},
    l.mapM f = some bs → List.Forall₂ (fun a b => f a = some b) l bs := by
  intro l
  induction l with
  | nil =>
    intro bs h
    cases h
    exact .nil
  | cons a l ih =>
    intro bs h
    rw [List.mapM_cons] at h
    obtain ⟨b, hb, h⟩ := Option.bind_eq_some_iff.mp h
    obtain ⟨bs', hbs, h⟩ := Option.bind_eq_some_iff.mp h
    cases h
    exact .cons hb (ih hbs)

theorem declaredType_some {name : String} {t : ParameterType} (h : declaredType name = some t) :
    ∃ d ∈ declared, d.1 = name ∧ d.2.type = t := by
  obtain ⟨d, hd, ht⟩ := Option.map_eq_some_iff.mp h
  exact ⟨d, List.mem_of_find?_eq_some hd, by simpa using List.find?_some hd, ht⟩

/-- an item and its parameter -/
structure Converts (dump : Json → Bytes) (item : String × Json) (p : Parameter) : Prop where
  name : p.1 = item.1
  type : declaredType item.1 = some p.2.type
  value : jsonToParameterValue dump item.2 p.2.type.code = .ok p.2

theorem convertDeclared_spec {dump : Json → Bytes} {params : SortedMap String Json}
    {batch : List Parameter} (h : convertDeclared dump params = some batch) :
    List.Forall₂ (Converts dump) params.items batch := by
  refine (mapM_forall₂ h).imp fun item p hp => ?_
  obtain ⟨t, ht, hp⟩ := Option.bind_eq_some_iff.mp hp
  obtain ⟨v, hv, hp⟩ := Option.bind_eq_some_iff.mp hp
  cases hp
  have hok : jsonToParameterValue dump item.2 t.code = .ok v := by
    cases hj : jsonToParameterValue dump item.2 t.code with
    | error what =>
      rw [hj] at hv
      cases hv
    | ok v' =>
      rw [hj] at hv
      exact congrArg Except.ok (Option.some.inj hv)
  obtain rfl := jsonToParameterValue_type hok
  exact ⟨rfl, ht, hok⟩

section
variable {dump : Json → Bytes} {node : Node} {items : List (String × Json)} {batch : List Parameter}

theorem converts_names (h : List.Forall₂ (Converts dump) items batch) :
    batch.map Prod.fst = items.map Prod.fst := by
  induction h with
  | nil => rfl
  | cons hp _ ih => rw [List.map_cons, List.map_cons, ih, hp.name]

theorem Converts.stored {item : String × Json} {p : Parameter} (h : Converts dump item p)
    (hd : Declares declared node.params) :
    (node.params item.1).map ParameterValue.type = some p.2.type := by
  obtain ⟨d, hm, hname, ht⟩ := declaredType_some h.type
  rw [← hname, ← ht]
  exact hd d hm

theorem converts_typed (h : List.Forall₂ (Converts dump) items batch)
    (hd : Declares declared node.params) : Mirror.Typed ParameterValue.type node.params batch := by
  induction h with
  | nil => exact fun e he => absurd he List.not_mem_nil
  | cons hp _ ih => exact List.forall_mem_cons.mpr ⟨hp.name ▸ hp.stored hd, ih⟩

theorem describe_declared (h : List.Forall₂ (Converts dump) items batch)
    (hd : Declares declared node.params) :
    VD.describeParameters node (items.map Prod.fst) = batch.map fun p => p.2.type.code := by
  have hall : ((items.map Prod.fst).mapM fun name => (node.params name).map fun v => v.type.code) =
      some (batch.map fun p => p.2.type.code) := by
    induction h with
    | nil => rfl
    | cons hp _ ih =>
      obtain ⟨v, hv, ht⟩ := Option.map_eq_some_iff.mp (hp.stored hd)
      rw [List.map_cons, List.mapM_cons, ih, hv, List.map_cons, ← ht]
      rfl
  rw [VD.describeParameters, hall]
  rfl

theorem Converts.settableItem_eq {item : String × Json} {p : Parameter} (h : Converts dump item p)
    {descriptors : List UInt8} {n : Nat} (hn : descriptors[n]? = some p.2.type.code) :
    settableItem dump descriptors (item, n) = some p := by
  have hset : p.2.type.code ≠ ParameterType.notSet.code := by
    intro e
    have hv := h.value
    rw [e] at hv
    cases hv
  rw [VD.settableItem, hn, convertParameter]
  simp only [if_neg hset, h.value]
  exact congrArg some (Prod.ext h.name.symm rfl)

/-- the descriptors before `pre` belong to earlier items -/
theorem converts_settable (h : List.Forall₂ (Converts dump) items batch) : ∀ pre : List UInt8,
    (items.zipIdx pre.length).filterMap
      (settableItem dump (pre ++ batch.map fun p => p.2.type.code)) = batch := by
  induction h with
  | nil => exact fun _ => rfl
  | @cons item p items batch hp _ ih =>
    intro pre
    have hitem : settableItem dump (pre ++ (p :: batch).map fun p => p.2.type.code)
        (item, pre.length) = some p := hp.settableItem_eq (by simp)
    have ih' := ih (pre ++ [p.2.type.code])
    rw [List.zipIdx_cons, List.filterMap_cons, hitem]
    rw [List.length_append, List.length_singleton, List.append_assoc] at ih'
    exact congrArg (p :: ·) ih'

/-- For a payload of declared names and values that convert, the handler asks to set just these. -/
theorem settable_declared {params : SortedMap String Json}
    (h : convertDeclared dump params = some batch) (hd : Declares declared node.params) :
    settable dump (VD.describeParameters node params.keys) params = batch := by
  have hf := convertDeclared_spec h
  rw [SortedMap.keys, describe_declared hf hd]
  exact converts_settable hf []

end

/-! ## the request as a whole -/

section
variable {parse : Bytes → Except Bytes Json} {dump : Json → Bytes}
  {paramClients : Bytes → Option (ParametersClient Node)} {refusal : Parameter → Bytes}
  {body target : Bytes} {payload : Json} {params : SortedMap String Json} {batch : List Parameter}
  {result : SetParametersResult} {m : Node} {c : Snapshot}

/-- what the handler answers to a request of declared names and values that convert -/
theorem handle_declared (hinv : Inv m) (hparse : parse body = .ok payload)
    (hshape : postShape payload = some (target, params))
    (hclient : paramClients target = some (detectorClient refusal))
    (hconv : convertDeclared dump params = some batch) (hne : params.keys ≠ []) :
    let answer := VD.setParameters onParameterChange refusal m batch
    handlePostParameters parse dump paramClients body m =
      (.body ((addResults (convertAll dump (VD.describeParameters m params.keys) params).1 batch
        answer.1).body target), answer.2) := by
  intro answer
  have hset := settable_declared hconv hinv.declares
  have hbatch : batch ≠ [] := by
    rintro rfl
    exact hne (converts_names (convertDeclared_spec hconv)).symm
  have hdescribe : (detectorClient refusal).describeParameters m params.keys =
      .answered (VD.describeParameters m params.keys) := rfl
  rw [handlePostParameters_eq hparse hshape hclient rfl hne,
    postParameters_set target hdescribe (by rw [hset]; exact hbatch), hset]
  rfl

/-- an empty request is answered with an error and changes nothing -/
theorem handle_empty (hparse : parse body = .ok payload)
    (hshape : postShape payload = some (target, params))
    (hclient : paramClients target = some (detectorClient refusal)) (hne : params.keys = []) :
    (handlePostParameters parse dump paramClients body m).2 = m := by
  simp only [handlePostParameters, hparse, hshape, hclient, hne]
  rfl

theorem joint_update (hinv : Inv m) (hparse : parse body = .ok payload)
    (hshape : postShape payload = some (target, params))
    (hclient : paramClients target = some (detectorClient refusal))
    (hconv : convertDeclared dump params = some batch)
    (hjoint : onParameterChange m.state batch = .ok (result, c)) (hs : result.successful = true) :
    let out := handlePostParameters parse dump paramClients body m
    ((∀ name ∈ params.keys, out.1.Updates name) ∧ out.2.state = c) ↔ UpperEndsFit m.state batch := by
  intro out
  have hf := convertDeclared_spec hconv
  have hnames : batch.map Prod.fst = params.keys := converts_names hf
  obtain ⟨hall, hstate⟩ := one_at_a_time hinv refusal (converts_typed hf hinv.declares)
    (hnames ▸ params.sorted) hjoint hs
  by_cases hne : params.keys = []
  · have hout : out.2 = m := handle_empty hparse hshape hclient hne
    rw [hne] at hnames
    obtain rfl := List.map_eq_nil_iff.mp hnames
    have hc : m.state = c := Except.ok.inj (accepted_change hjoint hs).1
    rw [hne, hout]
    refine iff_of_true ⟨fun _ hn => absurd hn List.not_mem_nil, hc⟩ fun l hl hlo => ?_
    exact absurd hlo List.not_mem_nil
  · have hset := settable_declared hconv hinv.declares
    have hupdated := all_updated_iff dump (VD.describeParameters m params.keys) params
      (VD.setParameters onParameterChange refusal m batch).1 (hset ▸ hnames)
      (by rw [hset]; exact setParameters_length refusal batch m)
    rw [hset] at hupdated
    have hreport : (∀ name ∈ params.keys, out.1.Updates name) ↔
        ∀ r ∈ (VD.setParameters onParameterChange refusal m batch).1, r.successful = true := by
      rw [← hupdated]
      refine forall₂_congr fun name hn => ?_
      show (handlePostParameters parse dump paramClients body m).1.Updates name ↔ _
      rw [handle_declared hinv hparse hshape hclient hconv hne]
      exact ⟨fun ⟨b, hb, hu⟩ => by cases hb; exact hu, fun hu => ⟨_, rfl, hu⟩⟩
    rw [hreport, ← hall, and_iff_left_iff_imp]
    intro hok
    show (handlePostParameters parse dump paramClients body m).2.state = c
    rw [handle_declared hinv hparse hshape hclient hconv hne]
    exact hstate hok

end

/-- **Several parameters at once.**  In every reachable state of the detector, a request whose
values are all accepted together is taken as a whole (every name is reported as updated, and the
snapshot has all the values) exactly when, for each pair with both ends in the request, the new upper
end goes with the old lower end. -/
theorem joint_update_iff (others overrides : ParameterStore) (n : Node)
    (batches : List (List Parameter)) (parse : Bytes → Except Bytes Json) (dump : Json → Bytes)
    (paramClients : Bytes → Option (ParametersClient Node)) (refusal : Parameter → Bytes)
    (body : Bytes) (payload : Json) (target : Bytes) (params : SortedMap String Json)
    (batch : List Parameter) (result : SetParametersResult) (c : Snapshot)
    (h : start others overrides = .ok (.ok n))
    (hparse : parse body = .ok payload) (hshape : postShape payload = some (target, params))
    (hclient : paramClients target = some (detectorClient refusal))
    (hconv : convertDeclared dump params = some batch)
    (hjoint : onParameterChange (run n batches).state batch = .ok (result, c))
    (hs : result.successful = true) :
    let out := handlePostParameters parse dump paramClients body (run n batches)
    ((∀ name ∈ params.keys, out.1.Updates name) ∧ out.2.state = c) ↔
      UpperEndsFit (run n batches).state batch :=
  joint_update (run_inv batches (start_inv h)) hparse hshape hclient hconv hjoint hs

/-- `roi_max_x` and `roi_min_x` in one payload -/
def roiPayload (max min : Json) : Json := .object [("node", .string (lit "/vehicle_detector_node")),
  ("parameters", .object [("roi_min_x", min), ("roi_max_x", max)])]

def roiClients : Bytes → Option (ParametersClient Node) := fun _ => some (detectorClient fun _ => [])

def forwardText : Bytes :=
  lit "\x7b\"node\":\"/vehicle_detector_node\",\"parameters\":\x7b\"roi_min_x\":90,\"roi_max_x\":100\x7d\x7d"

theorem forward_read : readJson forwardText = .ok (roiPayload (.unsigned 100) (.unsigned 90)) :=
  request_read "/vehicle_detector_node"
    [(lit "roi_min_x", .bare (lit "90")), (lit "roi_max_x", .bare (lit "100"))] (by decide +kernel)
    (ofMembers_cons "roi_min_x" rfl (ofMembers_one "roi_max_x" rfl))

/-- After `roi_max_x` has been set to 85, both ends are moved behind it. -/
theorem joint_update_forward :
    let out := handlePostParameters readJson (fun _ => []) roiClients forwardText
      (run defaultNode [[("roi_max_x", .double 85.0)]])
    (∀ name ∈ ["roi_max_x", "roi_min_x"], out.1.Updates name) ∧
      out.2.state = { defaultSnapshot with roi := ⟨90.0, -30.0, -3.0, 100.0, 30.0, 3.0⟩ } := by
  refine (joint_update_iff (fun _ => none) (fun _ => none) defaultNode [[("roi_max_x", .double 85.0)]]
    readJson (fun _ => []) roiClients (fun _ => []) forwardText (roiPayload (.unsigned 100) (.unsigned 90))
    (lit "/vehicle_detector_node")
    (.ofList [("roi_min_x", .unsigned 90), ("roi_max_x", .unsigned 100)])
    [("roi_max_x", .double 100.0), ("roi_min_x", .double 90.0)] {} _ start_default forward_read rfl rfl
    ?_ ?_ rfl).mpr ?_
  · decide +kernel
  · decide +kernel
  · decide +kernel

def backwardText : Bytes :=
  lit "\x7b\"node\":\"/vehicle_detector_node\",\"parameters\":\x7b\"roi_min_x\":-200,\"roi_max_x\":-100\x7d\x7d"

theorem backward_read : readJson backwardText = .ok (roiPayload (.integer (-100)) (.integer (-200))) :=
  request_read "/vehicle_detector_node"
    [(lit "roi_min_x", .bare (lit "-200")), (lit "roi_max_x", .bare (lit "-100"))] (by decide +kernel)
    (ofMembers_cons "roi_min_x" rfl (ofMembers_one "roi_max_x" rfl))

/-- Both ends moved below the old lower end: the new upper end meets the old lower end first. -/
theorem joint_update_backward :
    start (fun _ => none) (fun _ => none) = .ok (.ok defaultNode) ∧
    convertDeclared (fun _ => []) (.ofList [("roi_min_x", .integer (-200)), ("roi_max_x", .integer (-100))])
      = some [("roi_max_x", .double (-100.0)), ("roi_min_x", .double (-200.0))] ∧
    (onParameterChange defaultNode.state
      [("roi_max_x", .double (-100.0)), ("roi_min_x", .double (-200.0))]).map
        (fun r => r.1.successful) = .ok true ∧
    (handlePostParameters readJson (fun _ => []) roiClients backwardText defaultNode).1 =
      .body ⟨false, lit "/vehicle_detector_node", ["roi_min_x"],
        [("roi_max_x", lit "ROI bounds must satisfy min_* < max_* on all axes")]⟩ := by
  refine ⟨start_default, ?_, ?_, ?_⟩
  · decide +kernel
  · decide +kernel
  · rw [handlePostParameters_eq backward_read rfl rfl rfl (by decide)]
    decide +kernel

end VD
