import VehicleDetection.Bridge.Answer
import VehicleDetection.Web.Gui

/-!
# `parameter_bridge_node.cpp`: `GET /api/parameters`

One object for each target, whatever its services answer, and the answer with all of them.

* `snapshotEntries`      the served parameters, each with what its descriptor says;
* `snapshotNode`         one target;
* `getBody`              all targets;
* `handleGetParameters`  the answer, which is the printed body;
* `Serves`, `ServedText`  the object of a parameter, before and after it is printed;
* `getBody_printed`      the objects of the body that is printed.
-/

set_option linter.unusedVariables false

namespace VD
open BStr

/-- the services of a target that are called; `σ` as in `ParametersClient` -/
structure SnapshotClient (σ : Type) where
  ready : σ → Bool
  listParameters : σ → ServiceAnswer (List String)
  getParameters : σ → List String → ServiceAnswer (List Parameter)
  describeParameters : σ → List String → ServiceAnswer (List ParameterDescriptor)

structure NodeSnapshot where
  name : Bytes
  available : Bool := false
  parameters : List (SortedMap String Json) := []
  error : Option Bytes := none

structure GetBody where
  ok : Bool
  nodes : List NodeSnapshot

/-! ## the handler -/

/-- the loop over the values; there may be fewer descriptors -/
def snapshotEntries (values : List Parameter) (descriptors : List ParameterDescriptor) :
    List (SortedMap String Json) :=
  values.mapIdx fun i p => servedEntry p descriptors[i]?

section
variable {σ : Type}

/-- after `list_parameters`: the values, then the descriptors -/
def snapshotNamed (client : SnapshotClient σ) (nodeName : Bytes) (names : List String) (s : σ) :
    NodeSnapshot :=
  if names.isEmpty then { name := nodeName, available := true }
  else match client.getParameters s names with
    | .timedOut => { name := nodeName, error := some (lit "get_parameters timed out") }
    | .failed what => { name := nodeName, error := some what }
    | .answered values =>
      match client.describeParameters s names with
      | .timedOut =>
        { name := nodeName, available := true, parameters := snapshotEntries values [] }
      | .failed what => { name := nodeName, error := some what }
      | .answered descriptors =>
        { name := nodeName, available := true, parameters := snapshotEntries values descriptors }

def snapshotNode (paramClients : Bytes → Option (SnapshotClient σ)) (nodeName : Bytes) (s : σ) :
    NodeSnapshot :=
  match paramClients nodeName with
  | none => { name := nodeName, error := some (lit "no client") }
  | some client =>
    if ¬ client.ready s then
      { name := nodeName, error := some (lit "parameter service not available") }
    else match client.listParameters s with
      | .timedOut => { name := nodeName, error := some (lit "list_parameters timed out") }
      | .failed what => { name := nodeName, error := some what }
      | .answered names => snapshotNamed client nodeName names s

/-- the body before it is printed -/
def getBody (paramClients : Bytes → Option (SnapshotClient σ)) (targetNodes : List Bytes) (s : σ) : GetBody :=
  ⟨true, targetNodes.map fun nodeName => snapshotNode paramClients nodeName s⟩

/-- an array of objects -/
def objects (ms : List (SortedMap String Json)) : Json := .array (ms.map fun m => .object m.items)

def NodeSnapshot.toMap (s : NodeSnapshot) : SortedMap String Json :=
  let out := SortedMap.ofList [("name", .string s.name), ("available", .bool s.available),
    ("parameters", objects s.parameters)]
  match s.error with
  | none => out
  | some what => out.put "error" (.string what)

def GetBody.toMap (b : GetBody) : SortedMap String Json :=
  .ofList [("ok", .bool b.ok), ("nodes", objects (b.nodes.map NodeSnapshot.toMap))]

def handleGetParameters (paramClients : Bytes → Option (SnapshotClient σ)) (targetNodes : List Bytes)
    (s : σ) : HttpAnswer :=
  setContent 200 (.object (getBody paramClients targetNodes s).toMap.items)

end

/-! ## what is served -/

/-- the object under the name of its parameter, with the value in it -/
structure Serves (p : Parameter) (entry : SortedMap String Json) : Prop where
  name : entry.find? "name" = some (.string (lit p.getName))
  type : entry.find? "type" = some (.string (lit (parameterTypeName p.2.type.code)))
  value : entry.find? "value" = some p.2.toJson
  made : ∃ descriptor, entry = servedEntry p descriptor

theorem parameterToJson_name (p : Parameter) :
    (parameterToJson p).find? "name" = some (.string (lit p.getName)) := by
  rw [parameterToJson_eq, SortedMap.find?_put, if_neg (by decide), SortedMap.find?_put,
    if_neg (by decide), SortedMap.find?_put, if_pos rfl]

/-- what a descriptor adds stands under other keys -/
theorem serves_servedEntry (p : Parameter) (descriptor : Option ParameterDescriptor) :
    Serves p (servedEntry p descriptor) := by
  constructor
  · rw [servedEntry_find? _ _ (by decide), parameterToJson_name]
  · rw [servedEntry_find? _ _ (by decide), parameterToJson_type]
  · rw [servedEntry_find? _ _ (by decide), parameterToJson_value]
  · exact ⟨descriptor, rfl⟩

theorem snapshotEntries_serve (values : List Parameter) (descriptors : List ParameterDescriptor) :
    List.Forall₂ Serves values (snapshotEntries values descriptors) := by
  refine List.forall₂_iff_get.mpr ⟨(List.length_mapIdx ..).symm, fun i h₁ h₂ => ?_⟩
  simp only [snapshotEntries, List.get_eq_getElem, List.getElem_mapIdx]
  exact serves_servedEntry _ _

/-! ## what is printed -/

/-- the object as it is printed -/
structure ServedText (p : Parameter) (entry : SortedMap String Json) : Prop where
  name : entry.find? "name" = some (.string (lit p.getName))
  type : entry.find? "type" = some (.string (lit (parameterTypeName p.2.type.code)))
  value : entry.find? "value" = p.2.toJson.printed

theorem printed_lit (s : String) : (Json.string (lit s)).printed = some (.string (lit s)) := by
  rw [Json.printed, decodeText_lit, Option.map_some]

theorem Serves.text {p : Parameter} {entry printed : SortedMap String Json} (h : Serves p entry)
    (hp : printedMap entry = some printed) : ServedText p printed := by
  constructor
  · rw [printedMap_find? hp, h.name, Option.bind_some, printed_lit]
  · rw [printedMap_find? hp, h.type, Option.bind_some, printed_lit]
  · rw [printedMap_find? hp, h.value, Option.bind_some]

/-- every member of an object that has been printed can be printed -/
theorem printedMap_some {m m' : SortedMap String Json} (h : printedMap m = some m') {key : String} {value : Json}
    (hv : m.find? key = some value) : ∃ printed, value.printed = some printed ∧ m'.find? key = some printed := by
  have hobject : (Json.object m.items).printed.isSome = true := by rw [printed_map, h]; rfl
  obtain ⟨member, hmember, rfl⟩ := Option.map_eq_some_iff.mp hv
  have hutf8 : Utf8 member.2.strings :=
    utf8_members.mp ((printed_isSome _).mp hobject) member (List.mem_of_find?_eq_some hmember)
  obtain ⟨printed, hprinted⟩ := Option.isSome_iff_exists.mp ((printed_isSome _).mpr hutf8)
  refine ⟨printed, hprinted, ?_⟩
  rw [printedMap_find? h, hv, Option.bind_some, hprinted]

/-- objects that are printed one after another -/
theorem printed_objects {ms : List (SortedMap String Json)} : ∀ {value : Json},
    (objects ms).printed = some value →
      ∃ ms', value = objects ms' ∧ List.Forall₂ (fun m m' => printedMap m = some m') ms ms' := by
  intro value h
  rw [objects, Json.printed, printedElems_eq] at h
  obtain ⟨elems, helems, rfl⟩ := Option.map_eq_some_iff.mp h
  clear h
  induction ms generalizing elems with
  | nil =>
    cases helems
    exact ⟨[], rfl, .nil⟩
  | cons m ms ih =>
    rw [List.map_cons, List.mapM_cons] at helems
    obtain ⟨first, hfirst, helems⟩ := Option.bind_eq_some_iff.mp helems
    obtain ⟨rest, hrest, helems⟩ := Option.bind_eq_some_iff.mp helems
    cases helems
    rw [printed_map] at hfirst
    obtain ⟨m', hm', rfl⟩ := Option.map_eq_some_iff.mp hfirst
    obtain ⟨ms', hms', hall⟩ := ih rest hrest
    refine ⟨m' :: ms', ?_, .cons hm' hall⟩
    rw [objects, List.map_cons, Json.array.inj hms']

/-- the object of a target, and its object in the answer -/
structure NodeSnapshot.Printed (s : NodeSnapshot) (node : SortedMap String Json) : Prop where
  name : node.find? "name" = some (.string s.name)
  available : node.find? "available" = some (.bool s.available)
  parameters : ∃ entries, node.find? "parameters" = some (objects entries) ∧
    List.Forall₂ (fun entry entry' => printedMap entry = some entry') s.parameters entries
  error : node.find? "error" = s.error.map .string

theorem NodeSnapshot.toMap_find? (s : NodeSnapshot) (key : String) : s.toMap.find? key =
    if key = "error" then s.error.map .string
    else if key = "parameters" then some (objects s.parameters)
    else if key = "available" then some (.bool s.available)
    else if key = "name" then some (.string s.name)
    else none := by
  have hout : ∀ (a b c : Json), (SortedMap.ofList [("name", a), ("available", b), ("parameters", c)]).find? key =
      if key = "parameters" then some c else if key = "available" then some b
        else if key = "name" then some a else none := by
    intro a b c
    rw [SortedMap.ofList, List.foldl_cons, List.foldl_cons, List.foldl_cons, List.foldl_nil, SortedMap.find?_put,
      SortedMap.find?_put, SortedMap.find?_put]
    rfl
  unfold toMap
  cases he : s.error with
  | none =>
    dsimp only
    rw [hout]
    by_cases hk : key = "error"
    · subst hk
      rfl
    · rw [if_neg hk]
  | some what =>
    dsimp only
    rw [SortedMap.find?_put, hout]
    rfl

theorem printed_string {s : Bytes} {value : Json} (h : (Json.string s).printed = some value) : value = .string s := by
  obtain ⟨t, -, rfl⟩ := Option.map_eq_some_iff.mp h
  rfl

theorem NodeSnapshot.toMap_printed {s : NodeSnapshot} {node : SortedMap String Json}
    (h : printedMap s.toMap = some node) : s.Printed node := by
  have hfind := printedMap_find? h
  constructor
  · obtain ⟨name, hname, hfound⟩ := printedMap_some h (s.toMap_find? "name")
    rw [hfound, printed_string hname]
  · rw [hfind, s.toMap_find?]
    rfl
  · obtain ⟨value, hvalue, hfound⟩ := printedMap_some h (s.toMap_find? "parameters")
    obtain ⟨entries, rfl, hentries⟩ := printed_objects hvalue
    exact ⟨entries, hfound, hentries⟩
  · rw [hfind, s.toMap_find?, if_pos rfl]
    cases he : s.error with
    | none => rfl
    | some what =>
      have hstring := (s.toMap_find? "error").trans (congrArg (Option.map Json.string) he)
      obtain ⟨value, hvalue, -⟩ := printedMap_some h hstring
      rw [Option.map_some, Option.bind_some, hvalue, printed_string hvalue]

/-- the document of an answer to a `GET`, with these objects -/
def IsGetText (document : Json) (nodes : List (SortedMap String Json)) : Prop :=
  ∃ m : SortedMap String Json, document = .object m.items ∧ m.find? "ok" = some (.bool true) ∧
    m.find? "nodes" = some (objects nodes)

theorem objects_injective {ms ms' : List (SortedMap String Json)} (h : objects ms = objects ms') : ms = ms' := by
  refine List.map_injective_iff.mpr (fun m m' heq => ?_) (Json.array.inj h)
  cases m
  cases m'
  cases heq
  rfl

theorem IsGetText.unique {document : Json} {nodes nodes' : List (SortedMap String Json)}
    (h : IsGetText document nodes) (h' : IsGetText document nodes') : nodes = nodes' := by
  obtain ⟨m, rfl, -, hnodes⟩ := h
  obtain ⟨m', he, -, hnodes'⟩ := h'
  cases m
  cases m'
  cases he
  exact objects_injective (Option.some.inj (hnodes.symm.trans hnodes'))

/-- **What is printed.** The objects of the body, one after another. -/
theorem getBody_printed {b : GetBody} (hok : b.ok = true) {document : Json}
    (h : (Json.object b.toMap.items).printed = some document) :
    ∃ nodes, IsGetText document nodes ∧ List.Forall₂ NodeSnapshot.Printed b.nodes nodes := by
  rw [printed_map] at h
  obtain ⟨m, hm, rfl⟩ := Option.map_eq_some_iff.mp h
  have hfind : ∀ key, b.toMap.find? key = if key = "nodes" then
      some (objects (b.nodes.map NodeSnapshot.toMap))
      else if key = "ok" then some (.bool b.ok) else none := by
    intro key
    rw [GetBody.toMap, SortedMap.ofList, List.foldl_cons, List.foldl_cons, List.foldl_nil, SortedMap.find?_put,
      SortedMap.find?_put]
    rfl
  obtain ⟨value, hvalue, hfound⟩ := printedMap_some hm (hfind "nodes")
  obtain ⟨nodes, rfl, hnodes⟩ := printed_objects hvalue
  refine ⟨nodes, ⟨m, rfl, ?_, hfound⟩, ?_⟩
  · rw [printedMap_find? hm, hfind, hok]
    rfl
  · rw [List.forall₂_map_left_iff] at hnodes
    exact hnodes.imp fun s node hprinted => NodeSnapshot.toMap_printed hprinted

end VD
