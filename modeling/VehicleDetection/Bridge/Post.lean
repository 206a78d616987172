import VehicleDetection.Param.Node
import VehicleDetection.Param.Text

/-!
# `parameter_bridge_node.cpp`: `POST /api/parameters`

The handler, with every answer it gives.  `parse` and `dump` are the reader and the printer of the
JSON library; what `dump` quotes here has been parsed, and does not make it throw.  The services of a
target node may answer anything, or not at all.  Answers are given before they are printed, which may
throw (`Bridge.Answer`).

* `convertAll`            the names that are rejected at once, and the parameters to set;
* `addResults`            the answers of the target, parameter by parameter;
* `handlePostParameters`  the handler;
* `listed_perm`           which names a body lists;
* `accounted_iff`         a body accounts for every name exactly when the target gave an answer for
  every parameter it was asked to set.
-/

set_option linter.unusedVariables false

namespace VD
open BStr

inductive ServiceAnswer (A : Type) where
  | timedOut
  | failed (what : Bytes)
  | answered (a : A)

/-- The parameter services of a target; `σ` is the state behind them.  Of a descriptor only its type
is read. -/
structure ParametersClient (σ : Type) where
  ready : σ → Bool
  describeParameters : σ → List String → ServiceAnswer (List UInt8)
  setParameters : σ → List Parameter → ServiceAnswer (List SetParametersResult) × σ

structure PostBody where
  ok : Bool
  node : Bytes
  updated : List String
  rejected : List (String × Bytes)
deriving DecidableEq

inductive Response where
  | error (status : Nat) (msg : Bytes)
  | body (b : PostBody)
deriving DecidableEq

/-! ## the handler -/

/-- `updated`, `rejected` and `overall_ok` while the handler runs -/
structure Tally where
  updated : List String := []
  rejected : List (String × Bytes) := []
  overallOk : Bool := true

def Tally.accept (t : Tally) (name : String) : Tally := { t with updated := t.updated ++ [name] }

def Tally.reject (t : Tally) (name : String) (reason : Bytes) : Tally :=
  { t with rejected := t.rejected ++ [(name, reason)], overallOk := false }

def Tally.body (t : Tally) (node : Bytes) : PostBody := ⟨t.overallOk, node, t.updated, t.rejected⟩

section
variable (dump : Json → Bytes)

def convertParameter (descriptor : Option UInt8) (raw : Json) : Except Bytes ParameterValue :=
  match descriptor with
  | none => .error (lit "parameter is not declared on the target node")
  | some type =>
    if type = ParameterType.notSet.code then
      .error (lit "parameter is not declared on the target node")
    else jsonToParameterValue dump raw type

def convertOne (descriptors : List UInt8) (acc : Tally × List Parameter)
    (item : (String × Json) × Nat) : Tally × List Parameter :=
  match convertParameter dump descriptors[item.2]? item.1.2 with
  | .ok value => (acc.1, acc.2 ++ [(item.1.1, value)])
  | .error what => (acc.1.reject item.1.1 what, acc.2)

def convertAll (descriptors : List UInt8) (params : SortedMap String Json) :
    Tally × List Parameter :=
  params.items.zipIdx.foldl (convertOne dump descriptors) ({}, [])

end

def addResult (t : Tally) (x : Parameter × SetParametersResult) : Tally :=
  if x.2.successful then t.accept x.1.getName
  else t.reject x.1.getName (if x.2.reason = [] then lit "rejected by node" else x.2.reason)

/-- the loop ends with the shorter of the two lists -/
def addResults (t : Tally) (toSet : List Parameter) (results : List SetParametersResult) : Tally :=
  (toSet.zip results).foldl addResult t

/-- the target and the parameters of a well-formed payload -/
def postShape (payload : Json) : Option (Bytes × SortedMap String Json) := do
  let object ← payload.asObject?
  let node ← object.find? "node"
  let target ← node.asString?
  let parameters ← object.find? "parameters"
  let params ← parameters.asObject?
  return (target, params)

/-- what is answered when the target has been asked -/
def setAnswer {σ : Type} (t : Tally) (toSet : List Parameter) (target : Bytes) :
    ServiceAnswer (List SetParametersResult) × σ → Response × σ
  | (.timedOut, s) => (.error 504 (lit "set_parameters timed out for '" ++ target ++ lit "'"), s)
  | (.failed what, s) => (.error 502 (lit "set_parameters failed: " ++ what), s)
  | (.answered results, s) => (.body ((addResults t toSet results).body target), s)

/-- from `describe_parameters` on -/
def postParameters {σ : Type} (dump : Json → Bytes) (client : ParametersClient σ) (target : Bytes)
    (params : SortedMap String Json) (s : σ) : Response × σ :=
  match client.describeParameters s params.keys with
  | .timedOut => (.error 504 (lit "describe_parameters timed out for '" ++ target ++ lit "'"), s)
  | .failed what => (.error 502 (lit "describe_parameters failed: " ++ what), s)
  | .answered descriptors =>
    let (tally, toSet) := convertAll dump descriptors params
    if toSet.isEmpty then (.body (tally.body target), s)
    else setAnswer tally toSet target (client.setParameters s toSet)

def handlePostParameters {σ : Type} (parse : Bytes → Except Bytes Json) (dump : Json → Bytes)
    (paramClients : Bytes → Option (ParametersClient σ)) (body : Bytes) (s : σ) : Response × σ :=
  match parse body with
  | .error what => (.error 400 (lit "invalid JSON: " ++ what), s)
  | .ok payload =>
    match postShape payload with
    | none =>
      (.error 400 (lit
        "expected JSON of the form \x7b\"node\": \"/...\", \"parameters\": \x7b...\x7d\x7d"), s)
    | some (target, params) =>
      match paramClients target with
      | none => (.error 503 (lit "node '" ++ target ++ lit "' is not in target_nodes"), s)
      | some client =>
        if ¬ client.ready s then
          (.error 503 (lit "parameter service for '" ++ target ++ lit "' is not available"), s)
        else if params.keys.isEmpty then (.error 400 (lit "'parameters' object is empty"), s)
        else postParameters dump client target params s

/-! ## what a tally lists -/

namespace Tally

/-- every name of the two lists -/
def listed (t : Tally) : List String := t.updated ++ t.rejected.map Prod.fst

/-- the flag says that nothing was rejected -/
def Honest (t : Tally) : Prop := t.overallOk = true ↔ t.rejected = []

theorem accept_listed (t : Tally) (name : String) : (t.accept name).listed.Perm (t.listed ++ [name]) := by
  unfold listed accept
  rw [List.append_assoc, List.append_assoc]
  exact List.perm_append_comm.append_left _

theorem reject_listed (t : Tally) (name : String) (reason : Bytes) :
    (t.reject name reason).listed = t.listed ++ [name] := by
  simp [listed, reject]

theorem Honest.accept {t : Tally} (h : t.Honest) (name : String) : (t.accept name).Honest := h

theorem honest_reject (t : Tally) (name : String) (reason : Bytes) :
    (t.reject name reason).Honest := by
  simp [Honest, reject]

end Tally

section
variable (dump : Json → Bytes) (descriptors : List UInt8)

/-- the parameter to set for an item, if its value converts -/
def settableItem (item : (String × Json) × Nat) : Option Parameter :=
  (convertParameter dump descriptors[item.2]? item.1.2).toOption.map fun v => (item.1.1, v)

def settable (params : SortedMap String Json) : List Parameter :=
  params.items.zipIdx.filterMap (settableItem dump descriptors)

/-- An item is rejected at once or set: its name goes to one side. -/
theorem convertOne_spec (acc : Tally × List Parameter) (item : (String × Json) × Nat) :
    let next := convertOne dump descriptors acc item
    (next.1.listed ++ next.2.map Prod.fst).Perm
        (acc.1.listed ++ acc.2.map Prod.fst ++ [item.1.1]) ∧
      next.1.updated = acc.1.updated ∧ (acc.1.Honest → next.1.Honest) ∧
      next.2 = acc.2 ++ (settableItem dump descriptors item).toList := by
  unfold convertOne settableItem
  cases convertParameter dump descriptors[item.2]? item.1.2 with
  | ok value =>
    refine ⟨?_, rfl, id, rfl⟩
    rw [List.map_append, ← List.append_assoc]
    exact List.Perm.refl _
  | error what =>
    refine ⟨?_, rfl, fun _ => Tally.honest_reject _ _ _, (List.append_nil _).symm⟩
    show ((acc.1.reject item.1.1 what).listed ++ acc.2.map Prod.fst).Perm _
    rw [Tally.reject_listed, List.append_assoc, List.append_assoc]
    exact List.perm_append_comm.append_left _

theorem foldl_convertOne (items : List ((String × Json) × Nat)) :
    ∀ acc : Tally × List Parameter,
      let out := items.foldl (convertOne dump descriptors) acc
      (out.1.listed ++ out.2.map Prod.fst).Perm
          (acc.1.listed ++ acc.2.map Prod.fst ++ items.map fun x => x.1.1) ∧
        out.1.updated = acc.1.updated ∧ (acc.1.Honest → out.1.Honest) ∧
        out.2 = acc.2 ++ items.filterMap (settableItem dump descriptors) := by
  induction items with
  | nil => exact fun acc => ⟨by simp, rfl, id, (List.append_nil _).symm⟩
  | cons item items ih =>
    intro acc
    obtain ⟨hperm, hupd, hhon, hset⟩ := convertOne_spec dump descriptors acc item
    obtain ⟨ihperm, ihupd, ihhon, ihset⟩ := ih (convertOne dump descriptors acc item)
    refine ⟨?_, ihupd.trans hupd, ihhon ∘ hhon, ?_⟩
    · apply ihperm.trans
      rw [List.map_cons, ← List.singleton_append, ← List.append_assoc (_ ++ _) [_]]
      exact hperm.append_right _
    · rw [List.foldl_cons, ihset, hset, List.append_assoc]
      cases hs : settableItem dump descriptors item <;> simp [hs]

/-- after the first loop: every name is rejected or about to be set -/
theorem convertAll_spec (params : SortedMap String Json) :
    let out := convertAll dump descriptors params
    (out.1.listed ++ out.2.map Prod.fst).Perm params.keys ∧ out.1.updated = [] ∧ out.1.Honest ∧
      out.2 = settable dump descriptors params := by
  have hkeys : (params.items.zipIdx.map fun x => x.1.1) = params.keys := by
    rw [SortedMap.keys]
    conv_rhs => rw [← List.zipIdx_map_fst 0 params.items, List.map_map]
    rfl
  obtain ⟨hperm, hupd, hhon, hset⟩ :=
    foldl_convertOne dump descriptors params.items.zipIdx ({}, [])
  rw [hkeys] at hperm
  exact ⟨hperm, hupd, hhon (iff_of_true rfl rfl), hset⟩

end

/-- the second loop: every answer puts its name on one of the lists -/
theorem foldl_addResult (answers : List (Parameter × SetParametersResult)) : ∀ t : Tally,
    let out := answers.foldl addResult t
    out.listed.Perm (t.listed ++ answers.map fun x => x.1.1) ∧ (t.Honest → out.Honest) ∧
      ∀ name ∈ out.updated, name ∈ t.updated ∨
        ∃ x ∈ answers, x.1.1 = name ∧ x.2.successful = true := by
  induction answers with
  | nil => exact fun t => ⟨by simp, id, fun name h => Or.inl h⟩
  | cons x answers ih =>
    intro t
    obtain ⟨ihperm, ihhon, ihupd⟩ := ih (addResult t x)
    have hstep : (addResult t x).listed.Perm (t.listed ++ [x.1.1]) ∧
        (t.Honest → (addResult t x).Honest) ∧
        ∀ name ∈ (addResult t x).updated, name ∈ t.updated ∨ x.1.1 = name ∧ x.2.successful = true := by
      unfold addResult
      by_cases hs : x.2.successful = true
      · rw [if_pos hs]
        refine ⟨t.accept_listed _, fun h => h.accept _, fun name h => ?_⟩
        rcases List.mem_append.mp h with h | h
        · exact Or.inl h
        · exact Or.inr ⟨(List.mem_singleton.mp h).symm, hs⟩
      · rw [if_neg hs, Tally.reject_listed]
        exact ⟨List.Perm.refl _, fun _ => Tally.honest_reject _ _ _, fun name h => Or.inl h⟩
    obtain ⟨hperm, hhon, hupd⟩ := hstep
    refine ⟨?_, ihhon ∘ hhon, fun name h => ?_⟩
    · apply ihperm.trans
      rw [List.map_cons, ← List.singleton_append, ← List.append_assoc]
      exact hperm.append_right _
    · rcases ihupd name h with h | ⟨y, hy, hname⟩
      · rcases hupd name h with h | hname
        · exact Or.inl h
        · exact Or.inr ⟨x, List.mem_cons_self, hname⟩
      · exact Or.inr ⟨y, List.mem_cons_of_mem _ hy, hname⟩

theorem foldl_accept (answers : List (Parameter × SetParametersResult))
    (h : ∀ x ∈ answers, x.2.successful = true) : ∀ t : Tally,
    (answers.foldl addResult t).rejected = t.rejected := by
  induction answers with
  | nil => exact fun _ => rfl
  | cons x answers ih =>
    intro t
    rw [List.foldl_cons, ih fun y hy => h y (List.mem_cons_of_mem _ hy), addResult,
      if_pos (h x List.mem_cons_self)]
    rfl

/-- the answered names are the first ones of the request -/
theorem zip_names (toSet : List Parameter) (results : List SetParametersResult) :
    (toSet.zip results).map (fun x => x.1.1) = (toSet.take results.length).map Prod.fst := by
  induction toSet generalizing results with
  | nil => simp
  | cons p toSet ih => cases results with
    | nil => simp
    | cons r results => simp [ih]

/-! ## what a body accounts for -/

/-- `own name`: the answer of the target for this very parameter was successful -/
structure Accounted (names : List String) (own : String → Prop) (b : PostBody) : Prop where
  once : ∀ name, (b.updated ++ b.rejected.map Prod.fst).count name = if name ∈ names then 1 else 0
  earned : ∀ name ∈ b.updated, own name
  ok_iff : b.ok = true ↔ ∀ name ∈ names, name ∈ b.updated

/-- the `i`-th answer belongs to the `i`-th parameter of the request -/
def Successful (toSet : List Parameter) (results : List SetParametersResult) (name : String) : Prop :=
  ∃ (i : Nat) (p : Parameter) (r : SetParametersResult),
    toSet[i]? = some p ∧ p.getName = name ∧ results[i]? = some r ∧ r.successful = true

theorem successful_of_mem_zip {toSet : List Parameter} {results : List SetParametersResult}
    {x : Parameter × SetParametersResult} (hx : x ∈ toSet.zip results)
    (hs : x.2.successful = true) : Successful toSet results x.1.getName := by
  obtain ⟨i, hi⟩ := List.mem_iff_getElem?.mp hx
  obtain ⟨hp, hr⟩ := List.getElem?_zip_eq_some.mp hi
  exact ⟨i, x.1, x.2, hp, rfl, hr, hs⟩

/-- names that occur once each: a list counts them so exactly when it is a rearrangement of them -/
theorem count_iff_perm {names listed : List String} (hn : names.Nodup) :
    (∀ name, listed.count name = if name ∈ names then 1 else 0) ↔ listed.Perm names := by
  rw [List.perm_iff_count]
  refine forall_congr' fun name => ?_
  by_cases hm : name ∈ names
  · rw [if_pos hm, List.count_eq_one_of_mem hn hm]
  · rw [if_neg hm, List.count_eq_zero_of_not_mem hm]

/-- when every name is listed, the flag says that every name is updated -/
theorem Tally.Honest.ok_iff {t : Tally} (h : t.Honest) {names : List String} (hn : names.Nodup)
    (hperm : t.listed.Perm names) :
    t.overallOk = true ↔ ∀ name ∈ names, name ∈ t.updated := by
  refine Iff.trans h ⟨?_, ?_⟩
  · intro hr name hm
    have hl : name ∈ t.listed := hperm.mem_iff.mpr hm
    rw [Tally.listed, hr] at hl
    simpa using hl
  · intro hall
    rw [List.eq_nil_iff_forall_not_mem]
    intro x hx
    have hx' : x.1 ∈ t.rejected.map Prod.fst := List.mem_map_of_mem hx
    have hm : x.1 ∈ names := hperm.mem_iff.mp (List.mem_append_right _ hx')
    exact (List.nodup_append.mp (hperm.nodup_iff.mpr hn)).2.2 _ (hall _ hm) _ hx' rfl

/-- The two lists together: the names of the request, less those the target gave no answer for. -/
theorem listed_perm (dump : Json → Bytes) (descriptors : List UInt8)
    (params : SortedMap String Json) (results : List SetParametersResult) :
    let toSet := settable dump descriptors params
    let t := addResults (convertAll dump descriptors params).1 toSet results
    (t.listed ++ (toSet.drop results.length).map Prod.fst).Perm params.keys ∧ t.Honest ∧
      ∀ name ∈ t.updated, Successful toSet results name := by
  intro toSet t
  obtain ⟨hperm, hupd, hhon, hset⟩ := convertAll_spec dump descriptors params
  obtain ⟨rperm, rhon, rupd⟩ :=
    foldl_addResult (toSet.zip results) (convertAll dump descriptors params).1
  rw [hset] at hperm
  refine ⟨?_, rhon hhon, fun name h => ?_⟩
  · rw [zip_names] at rperm
    apply (rperm.append_right _).trans
    rw [List.append_assoc, ← List.map_append, List.take_append_drop]
    exact hperm
  · rcases rupd name h with h | ⟨x, hx, rfl, hs⟩
    · rw [hupd] at h
      cases h
    · exact successful_of_mem_zip hx hs

/-- With nothing to set the target is not asked. -/
theorem postParameters_nothing {σ : Type} {dump : Json → Bytes} {client : ParametersClient σ}
    {params : SortedMap String Json} {s : σ} {descriptors : List UInt8} (target : Bytes)
    (hd : client.describeParameters s params.keys = .answered descriptors)
    (hset : settable dump descriptors params = []) :
    postParameters dump client target params s =
      (.body ((convertAll dump descriptors params).1.body target), s) := by
  obtain ⟨-, -, -, hspec⟩ := convertAll_spec dump descriptors params
  unfold postParameters
  rw [hd]
  dsimp only
  rw [hspec, hset]
  rfl

theorem postParameters_set {σ : Type} {dump : Json → Bytes} {client : ParametersClient σ}
    {params : SortedMap String Json} {s : σ} {descriptors : List UInt8} (target : Bytes)
    (hd : client.describeParameters s params.keys = .answered descriptors)
    (hset : settable dump descriptors params ≠ []) :
    postParameters dump client target params s =
      setAnswer (convertAll dump descriptors params).1 (settable dump descriptors params) target
        (client.setParameters s (settable dump descriptors params)) := by
  obtain ⟨-, -, -, hspec⟩ := convertAll_spec dump descriptors params
  have hisEmpty : (settable dump descriptors params).isEmpty = false := by simpa using hset
  unfold postParameters
  rw [hd]
  dsimp only
  rw [hspec, hisEmpty]
  rfl

/-- what a body that is answered stands for -/
theorem postParameters_body {σ : Type} {dump : Json → Bytes} {client : ParametersClient σ}
    {target : Bytes} {params : SortedMap String Json} {s : σ} {descriptors : List UInt8}
    {results : List SetParametersResult} {b : PostBody}
    (hd : client.describeParameters s params.keys = .answered descriptors)
    (hr : settable dump descriptors params ≠ [] →
      (client.setParameters s (settable dump descriptors params)).1 = .answered results)
    (h : (postParameters dump client target params s).1 = .body b) :
    b = (addResults (convertAll dump descriptors params).1 (settable dump descriptors params)
      results).body target := by
  by_cases he : settable dump descriptors params = []
  · rw [postParameters_nothing target hd he] at h
    rw [he]
    exact (Response.body.inj h).symm
  · have hans := hr he
    rw [postParameters_set target hd he] at h
    generalize client.setParameters s (settable dump descriptors params) = answer at h hans
    obtain ⟨a, s'⟩ := answer
    cases hans
    exact (Response.body.inj h).symm

/-- When every name is asked for and answered, every name is updated exactly when every answer is
successful. -/
theorem all_updated_iff (dump : Json → Bytes) (descriptors : List UInt8)
    (params : SortedMap String Json) (results : List SetParametersResult)
    (hset : (settable dump descriptors params).map Prod.fst = params.keys)
    (hlen : results.length = (settable dump descriptors params).length) :
    (∀ name ∈ params.keys, name ∈
        (addResults (convertAll dump descriptors params).1 (settable dump descriptors params)
          results).updated) ↔ ∀ r ∈ results, r.successful = true := by
  obtain ⟨hperm, hhon, hown⟩ := listed_perm dump descriptors params results
  rw [List.drop_eq_nil_of_le hlen.ge, List.map_nil, List.append_nil] at hperm
  constructor
  · intro hall r hr
    obtain ⟨i, hi⟩ := List.mem_iff_getElem?.mp hr
    have hlt : i < (settable dump descriptors params).length :=
      hlen ▸ (List.getElem?_eq_some_iff.mp hi).1
    have hq := List.getElem?_eq_getElem hlt
    obtain ⟨j, p, r', hp, hpn, hr', hs⟩ := hown _ (hall _ (hset ▸ List.mem_map_of_mem (List.getElem_mem hlt)))
    have hjlt : j < ((settable dump descriptors params).map Prod.fst).length := by
      rw [List.length_map]
      exact (List.getElem?_eq_some_iff.mp hp).1
    have hji : j = i := by
      refine (List.getElem?_inj hjlt (hset ▸ params.keys_nodup)).mp ?_
      rw [List.getElem?_map, List.getElem?_map, hp, hq]
      exact congrArg some hpn
    rw [hji, hi] at hr'
    cases hr'
    exact hs
  · intro hall
    refine (hhon.ok_iff params.keys_nodup hperm).mp (hhon.mpr ?_)
    rw [addResults, foldl_accept _ fun x hx => hall _ (List.of_mem_zip hx).2]
    obtain ⟨hkeys, -, -, hspec⟩ := convertAll_spec dump descriptors params
    rw [hspec, hset] at hkeys
    have hlength := hkeys.length_eq
    rw [List.length_append] at hlength
    have hnil : (convertAll dump descriptors params).1.listed = [] :=
      List.eq_nil_of_length_eq_zero (by omega)
    simpa using (List.append_eq_nil_iff.mp hnil).2

/-- the handler goes by what is read of the body -/
theorem handlePostParameters_parsed {σ : Type} {parse : Bytes → Except Bytes Json} {dump : Json → Bytes}
    {paramClients : Bytes → Option (ParametersClient σ)} {body : Bytes} {s : σ} {payload : Json}
    (hparse : parse body = .ok payload) : handlePostParameters parse dump paramClients body s =
      handlePostParameters (fun _ => .ok payload) dump paramClients [] s := by
  unfold handlePostParameters
  rw [hparse]

theorem handlePostParameters_eq {σ : Type} {parse : Bytes → Except Bytes Json} {dump : Json → Bytes}
    {paramClients : Bytes → Option (ParametersClient σ)} {body : Bytes} {s : σ} {payload : Json}
    {target : Bytes} {params : SortedMap String Json} {client : ParametersClient σ}
    (hparse : parse body = .ok payload) (hshape : postShape payload = some (target, params))
    (hclient : paramClients target = some client) (hready : client.ready s = true)
    (hne : params.keys ≠ []) :
    handlePostParameters parse dump paramClients body s = postParameters dump client target params s := by
  simp only [handlePostParameters, hparse, hshape, hclient]
  rw [if_neg (by simp [hready]), if_neg (by simpa using hne)]

/-- a request that is answered with a body has passed the two checks before `describe_parameters` -/
theorem ready_of_body {σ : Type} {parse : Bytes → Except Bytes Json} {dump : Json → Bytes}
    {paramClients : Bytes → Option (ParametersClient σ)} {body : Bytes} {s : σ} {payload : Json}
    {target : Bytes} {params : SortedMap String Json} {client : ParametersClient σ} {b : PostBody}
    (hparse : parse body = .ok payload) (hshape : postShape payload = some (target, params))
    (hclient : paramClients target = some client)
    (h : (handlePostParameters parse dump paramClients body s).1 = .body b) :
    client.ready s = true ∧ params.keys ≠ [] := by
  simp only [handlePostParameters, hparse, hshape, hclient] at h
  by_cases hready : client.ready s = true
  · rw [if_neg (by simp [hready])] at h
    refine ⟨hready, fun he => ?_⟩
    rw [he, List.isEmpty_nil, if_pos rfl] at h
    cases h
  · rw [if_pos hready] at h
    cases h

/-- **The body accounts for every name** exactly when the target answers for every parameter it is
asked to set: the loop over the answers ends with the shorter list, and the names after that are
neither updated nor rejected. -/
theorem accounted_iff {σ : Type} (parse : Bytes → Except Bytes Json) (dump : Json → Bytes)
    (paramClients : Bytes → Option (ParametersClient σ)) (body : Bytes) (s : σ) (payload : Json)
    (target : Bytes) (params : SortedMap String Json) (client : ParametersClient σ)
    (descriptors : List UInt8) (results : List SetParametersResult) (b : PostBody)
    (hparse : parse body = .ok payload) (hshape : postShape payload = some (target, params))
    (hclient : paramClients target = some client)
    (hd : client.describeParameters s params.keys = .answered descriptors)
    (hr : settable dump descriptors params ≠ [] →
      (client.setParameters s (settable dump descriptors params)).1 = .answered results)
    (h : (handlePostParameters parse dump paramClients body s).1 = .body b) :
    Accounted params.keys (Successful (settable dump descriptors params) results) b ↔
      (settable dump descriptors params).length ≤ results.length := by
  obtain ⟨hready, hne⟩ := ready_of_body hparse hshape hclient h
  rw [handlePostParameters_eq hparse hshape hclient hready hne] at h
  have hb := postParameters_body hd hr h
  obtain ⟨hperm, hhon, hown⟩ := listed_perm dump descriptors params results
  have hn := params.keys_nodup
  rw [hb]
  constructor
  · intro hacc
    have hlen := ((count_iff_perm hn).mp hacc.once).length_eq
    have htotal := hperm.length_eq
    rw [List.length_append, List.length_map, List.length_drop] at htotal
    have hlisted : (addResults (convertAll dump descriptors params).1
        (settable dump descriptors params) results).listed.length = params.keys.length := hlen
    omega
  · intro hle
    rw [List.drop_eq_nil_of_le hle, List.map_nil, List.append_nil] at hperm
    exact ⟨(count_iff_perm hn).mpr hperm, hown, hhon.ok_iff hn hperm⟩

/-- a target that describes everything as an integer and answers with the given results -/
def fixedTarget (results : List SetParametersResult) : ParametersClient Unit where
  ready _ := true
  describeParameters _ names := .answered (names.map fun _ => 2)
  setParameters s _ := (.answered results, s)

/-- the text of a request -/
theorem request_read {s : Bytes} (target : String) (members : List (Bytes × JsonText.Tree))
    {values : List (String × Json)} (hs : JsonText.lex s = some (JsonText.Tree.obj
      [(lit "node", .str (lit target)), (lit "parameters", .obj members)]).tokens)
    (hvalues : Json.ofMembers members = some values) :
    readJson s = .ok (.object [("node", .string (lit target)), ("parameters", .object values)]) := by
  have hparameters : Json.ofTree (.obj members) = some (.object values) := by
    rw [Json.ofTree, hvalues]
    rfl
  apply readJson_tokens hs
  rw [Json.ofTree, ofMembers_cons "node" (ofTree_str target) (ofMembers_one "parameters" hparameters)]
  rfl

def twoText : Bytes := lit "\x7b\"node\":\"/n\",\"parameters\":\x7b\"b\":1,\"a\":2\x7d\x7d"

def twoIntegers : Json := .object [("node", .string (lit "/n")),
  ("parameters", .object [("b", .unsigned 1), ("a", .unsigned 2)])]

theorem twoText_read : readJson twoText = .ok twoIntegers :=
  request_read "/n" [(lit "b", .bare (lit "1")), (lit "a", .bare (lit "2"))] (by decide +kernel)
    (ofMembers_cons "b" rfl (ofMembers_one "a" rfl))

theorem accounted_two :
    Accounted ["a", "b"] (Successful [("a", .integer 2), ("b", .integer 1)] [{}, ⟨false, []⟩])
      ⟨false, lit "/n", ["a"], [("b", lit "rejected by node")]⟩ :=
  (accounted_iff readJson (fun _ => []) (fun _ => some (fixedTarget [{}, ⟨false, []⟩])) twoText ()
    twoIntegers (lit "/n") (.ofList [("b", .unsigned 1), ("a", .unsigned 2)])
    (fixedTarget [{}, ⟨false, []⟩]) [2, 2] [{}, ⟨false, []⟩]
    ⟨false, lit "/n", ["a"], [("b", lit "rejected by node")]⟩ twoText_read rfl rfl rfl (fun _ => rfl)
    (by rw [handlePostParameters_eq twoText_read rfl rfl rfl (by decide)]; rfl)).mpr (by decide)

/-- One answer for two parameters: the second name is on neither list, and `ok` is true. -/
theorem accounted_short :
    (handlePostParameters readJson (fun _ => []) (fun _ => some (fixedTarget [{}])) twoText ()).1
        = .body ⟨true, lit "/n", ["a"], []⟩ ∧
      ¬ Accounted ["a", "b"] (Successful [("a", .integer 2), ("b", .integer 1)] [{}])
        ⟨true, lit "/n", ["a"], []⟩ := by
  constructor
  · rw [handlePostParameters_eq twoText_read rfl rfl rfl (by decide)]
    rfl
  · intro h
    have hb := h.once "b"
    revert hb
    decide

end VD
