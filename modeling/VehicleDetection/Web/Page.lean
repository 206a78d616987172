import VehicleDetection.Bridge.ServedBack
import VehicleDetection.Web.Unedited

/-!
# A page in use

A page shows what a `GET` has served. Somebody writes into fields and has the changes posted; by then the
nodes may be in another state.

* `loadCard`       the fields of a node, from its object in the answer to the `GET`;
* `Edited`         a field in which something may have been written;
* `updateNode`     what is posted;
* `postedBody`     the body as the bridge reads it;
* `changed_read`   each value that is posted stands in a field, and differs from the original there;
* `page_update`    no other parameter changes, whatever the nodes have done in the meantime.
-/

set_option linter.unusedVariables false

namespace VD
open BStr

section
variable (br : Browser)

/-- `renderNode`; `none`: there are no fields, or the answer could not be read -/
def loadCard (nodeData : NodeSnapshot) : Option (List Input) :=
  if nodeData.available then (nodeData.parameters.mapM (receiveParam br)).map (List.map (renderInput br))
  else none

/-- the part of `updateNode` before the request; `none`: an input error, or no changes -/
def updateNode (card : List Input) : Option (List (String × JsValue)) :=
  match collectChanged br card with
  | .error _ => none
  | .ok changed => if changed.isEmpty then none else some changed

end

/-- the field `shown`, whatever stands in it now -/
structure Edited (shown el : Input) : Prop where
  disabled : el.disabled = shown.disabled
  paramName : el.paramName = shown.paramName
  original : el.original = shown.original
  kind : el.field.kind = shown.field.kind

/-! ## the body -/

section
variable (number : Float → Json)

/-- what is read of the text of a value; `number` is what is read of the text of a finite number -/
def JsScalar.posted : JsScalar → Json
  | .null => .null
  | .bool b => .bool b
  | .number n => if n.isFinite then number n else .null
  | .string s => .string (s.flatMap String.utf8EncodeChar)

def JsValue.posted : JsValue → Json
  | .scalar v => v.posted number
  | .array elems => .array (elems.map (JsScalar.posted number))

def postedParameters (changed : List (String × JsValue)) : List (String × Json) :=
  changed.map fun c => (c.1, c.2.posted number)

/-- `{ node: nodeName, parameters: changed }` -/
def postedBody (target : Bytes) (changed : List (String × JsValue)) : Json :=
  .object [("node", .string target), ("parameters", .object (postedParameters number changed))]

theorem postShape_postedBody (target : Bytes) (changed : List (String × JsValue)) :
    postShape (postedBody number target changed) = some (target, .ofList (postedParameters number changed)) := by
  have hne : "node" ≠ "parameters" := by decide
  have hnode : (SortedMap.ofList [("node", Json.string target),
      ("parameters", .object (postedParameters number changed))]).find? "node" = some (.string target) := by
    rw [SortedMap.ofList, List.foldl_cons, List.foldl_cons, List.foldl_nil, SortedMap.find?_put, if_neg hne,
      SortedMap.find?_put, if_pos rfl]
  have hparameters : (SortedMap.ofList [("node", Json.string target),
      ("parameters", .object (postedParameters number changed))]).find? "parameters"
      = some (.object (postedParameters number changed)) := by
    rw [SortedMap.ofList, List.foldl_cons, List.foldl_cons, List.foldl_nil, SortedMap.find?_put, if_pos rfl]
  simp only [postShape, postedBody, Json.asObject?, Option.bind_eq_bind, Option.bind_some, hnode, hparameters,
    Json.asString?]
  rfl

end

theorem SortedMap.mem_of_find?_ofList {V : Type} {l : List (String × V)} {key : String} {v : V}
    (h : (SortedMap.ofList l).find? key = some v) : (key, v) ∈ l := by
  have hall : ∀ (l : List (String × V)) (m : SortedMap String V),
      (l.foldl (fun m e => m.put e.1 e.2) m).find? key = some v → (key, v) ∈ l ∨ m.find? key = some v := by
    intro l
    induction l with
    | nil => exact fun m h => .inr h
    | cons e l ih =>
      intro m h
      rcases ih _ h with h | h
      · exact .inl (List.mem_cons_of_mem _ h)
      · rw [SortedMap.find?_put] at h
        split at h
        · rename_i hk
          cases h
          rw [hk]
          exact .inl List.mem_cons_self
        · exact .inr h
  rcases hall l SortedMap.empty h with h | h
  · exact h
  · cases h

/-! ## what is posted -/

section
variable {br : Browser}

theorem mem_of_mem_assign {changed : List (String × JsValue)} {name : String} {w : JsValue}
    {c : String × JsValue} (h : c ∈ assign changed name w) : c ∈ changed ∨ c = (name, w) := by
  unfold assign at h
  split at h
  · obtain ⟨e, he, rfl⟩ := List.mem_map.mp h
    split
    · exact .inr rfl
    · exact .inl he
  · rcases List.mem_append.mp h with h | h
    · exact .inl h
    · exact .inr (List.mem_singleton.mp h)

/-- the value in a field that can be written to, and that is not what was there at first -/
def Differs (br : Browser) (el : Input) (c : String × JsValue) : Prop :=
  el.disabled = false ∧ el.paramName = c.1 ∧ readInput br el.field = .ok c.2 ∧ c.2.stringify br ≠ el.original

theorem collectOne_read {changed next : List (String × JsValue)} {el : Input}
    (h : collectOne br changed el = .ok next) {c : String × JsValue} (hc : c ∈ next) :
    c ∈ changed ∨ Differs br el c := by
  unfold collectOne at h
  split at h
  · cases h
    exact .inl hc
  · rename_i hd
    split at h
    · cases h
    · rename_i value hread
      split at h
      · rename_i hne
        cases h
        rcases mem_of_mem_assign hc with hc | rfl
        · exact .inl hc
        · exact .inr ⟨Bool.eq_false_of_not_eq_true hd, rfl, hread, hne⟩
      · cases h
        exact .inl hc

theorem changed_read {card : List Input} : ∀ {changed next : List (String × JsValue)},
    card.foldlM (collectOne br) changed = .ok next → ∀ c ∈ next, c ∈ changed ∨ ∃ el ∈ card, Differs br el c := by
  induction card with
  | nil =>
    intro changed next h c hc
    cases h
    exact .inl hc
  | cons el card ih =>
    intro changed next h c hc
    rw [List.foldlM_cons] at h
    obtain ⟨middle, hmiddle, hrest⟩ := bind_ok.mp h
    rcases ih hrest c hc with hc | ⟨e, he, hdiffers⟩
    · rcases collectOne_read hmiddle hc with hc | hdiffers
      · exact .inl hc
      · exact .inr ⟨el, List.mem_cons_self, hdiffers⟩
    · exact .inr ⟨e, List.mem_cons_of_mem _ he, hdiffers⟩

theorem updateNode_read {card : List Input} {changed : List (String × JsValue)}
    (h : updateNode br card = some changed) : ∀ c ∈ changed, ∃ el ∈ card, Differs br el c := by
  unfold updateNode at h
  split at h
  · cases h
  · rename_i found hfound
    split at h
    · cases h
    · cases h
      intro c hc
      exact (changed_read hfound c hc).resolve_left List.not_mem_nil

end

/-! ## what was shown -/

theorem mem_of_mem_mapM {A B : Type} {f : A → Option B} {l : List A} : ∀ {l' : List B}, l.mapM f = some l' →
    ∀ b ∈ l', ∃ a ∈ l, f a = some b := by
  induction l with
  | nil =>
    intro l' h b hb
    cases h
    exact absurd hb List.not_mem_nil
  | cons a l ih =>
    intro l' h b hb
    rw [List.mapM_cons] at h
    obtain ⟨c, hc, h⟩ := Option.bind_eq_some_iff.mp h
    obtain ⟨rest, hrest, h⟩ := Option.bind_eq_some_iff.mp h
    cases h
    rcases List.mem_cons.mp hb with rfl | hb
    · exact ⟨a, List.mem_cons_self, hc⟩
    · obtain ⟨x, hx, hfx⟩ := ih hrest b hb
      exact ⟨x, List.mem_cons_of_mem _ hx, hfx⟩

/-- a parameter of the node, as it was then, is in this field -/
structure ShownIn (br : Browser) (w : World) (target : Bytes) (name : String) (value : ParameterValue)
    (shown : Input) : Prop where
  stored : ∃ r, w target = some r ∧ r.node.params name = some value
  field : ∃ p, Served br value p ∧ p.name = name ∧ shown = renderInput br p

theorem receiveParam_name {br : Browser} {entry : SortedMap String Json} {p : Param}
    (h : receiveParam br entry = some p) {name : String} (hn : entry.find? "name" = some (.string (lit name))) :
    p.name = name := by
  unfold receiveParam at h
  rw [hn] at h
  obtain ⟨n, hn, h⟩ := Option.bind_eq_some_iff.mp h
  obtain ⟨t, -, h⟩ := Option.bind_eq_some_iff.mp h
  obtain ⟨v, -, h⟩ := Option.bind_eq_some_iff.mp h
  cases h
  rw [Option.bind_eq_bind, Option.bind_eq_bind, Option.bind_some, Json.asString?, Option.bind_some,
    decodeText_lit] at hn
  exact (Option.some.inj hn).symm

/-- Each field of a card shows a parameter. -/
theorem loadCard_shown {br : Browser} {w : World} {target : Bytes} {nodeData : NodeSnapshot}
    (hf : nodeData.Faithful w target) {card : List Input} (hcard : loadCard br nodeData = some card) :
    ∀ shown ∈ card, ∃ name value, ShownIn br w target name value shown := by
  intro shown hshown
  cases hf with
  | error what => cases hcard
  | @served r entries hr hserve =>
    obtain ⟨ps, hps, rfl⟩ := Option.map_eq_some_iff.mp hcard
    obtain ⟨p, hp, rfl⟩ := List.mem_map.mp hshown
    obtain ⟨entry, hentry, hreceived⟩ := mem_of_mem_mapM hps p hp
    obtain ⟨stored, hstored, hs⟩ := exists_of_mem_right hserve hentry
    obtain ⟨name, hname, rfl⟩ := List.mem_map.mp hstored
    refine ⟨name, (r.stored name).2, ⟨r, hr, r.stored_some hname⟩, p, ?_, receiveParam_name hreceived hs.name, rfl⟩
    obtain ⟨descriptor, hmade⟩ := hs.made
    exact ⟨name, descriptor, hmade ▸ hreceived⟩

/-- A field that nobody has written into differs only if it cannot show its value. -/
theorem ShownIn.differs {br : Browser} (hbr : br.Standard) {w : World} {target : Bytes} {name : String}
    {value : ParameterValue} {shown el : Input} (h : ShownIn br w target name value shown) (he : Edited shown el)
    {c : String × JsValue} (hd : Differs br el c) : name = c.1 ∧ (el.field = shown.field → ¬ Survives value) := by
  obtain ⟨p, hp, hname, rfl⟩ := h.field
  obtain ⟨-, hparam, hread, hne⟩ := hd
  refine ⟨hname.symm.trans (he.paramName.symm.trans hparam), fun hf hsurvives => ?_⟩
  obtain ⟨v, hv, hiff⟩ := readInput_iff hbr hp
  rw [hf] at hread
  have hread' : readInput br (inputForParameter br p) = .ok c.2 := hread
  obtain rfl : c.2 = v := Except.ok.inj (hread'.symm.trans hv)
  exact hne ((hiff.mpr hsurvives).trans he.original.symm)

/-! ## what an update does -/

/-- only parameters of this node have changed, and they have values that are converted from these -/
structure ChangedOnly (dump : Json → Bytes) (w w' : World) (target : Bytes) (params : SortedMap String Json) :
    Prop where
  others : ∀ other, other ≠ target → w' other = w other
  params : ∀ r, w target = some r → ∃ r', w' target = some r' ∧ ∀ name,
    r'.node.params name ≠ r.node.params name → ∃ raw v, params.find? name = some raw ∧
      jsonToParameterValue dump raw v.type.code = .ok v ∧ r'.node.params name = some v

theorem ChangedOnly.refl (dump : Json → Bytes) (w : World) (target : Bytes) (params : SortedMap String Json) :
    ChangedOnly dump w w target params :=
  ⟨fun _ _ => rfl, fun r hr => ⟨r, hr, fun name hne => absurd rfl hne⟩⟩

theorem Reached.changedOnly {dump : Json → Bytes} {w w' : World} {target : Bytes}
    {params : SortedMap String Json} {updated : List String} (h : Reached dump w w' target params updated) :
    ChangedOnly dump w w' target params := by
  obtain ⟨r, r', hr, rfl, -, happlied⟩ := h
  refine ⟨fun other hne => Function.update_of_ne hne _ _, fun s hs => ?_⟩
  cases hr.symm.trans hs
  refine ⟨r', Function.update_self _ _ _, fun name hne => ?_⟩
  have hmem : name ∈ updated := by
    by_contra hm
    exact hne (happlied.kept name hm)
  obtain ⟨raw, v, hraw, -, hv, hstored⟩ := happlied.set name hmem
  exact ⟨raw, v, hraw, hv, hstored⟩

theorem PostDone.changedOnly {parse : Bytes → Except Bytes Json} {dump : Json → Bytes} {targetNodes : List Bytes}
    {fates : Fates} {body : Bytes} {w : World} {out : Response × World}
    (h : PostDone parse dump targetNodes fates body w out) {payload : Json} (hparse : parse body = .ok payload)
    {target : Bytes} {params : SortedMap String Json} (hshape : postShape payload = some (target, params)) :
    ChangedOnly dump w out.2 target params := by
  cases h with
  | refused status msg => exact .refl dump w target params
  | late status msg payload' target' params' updated w' _ _ hparse' hshape' hreached =>
    cases hparse.symm.trans hparse'
    cases hshape.symm.trans hshape'
    exact hreached.changedOnly
  | answered b payload' params' w' _ hparse' hshape' hreached _ =>
    cases hparse.symm.trans hparse'
    cases hshape.symm.trans hshape'
    exact hreached.changedOnly

/-- The new value stands in a field of the page; nobody has written into this field only if it could not show
the value that the parameter had then. -/
def WrittenIn (br : Browser) (number : Float → Json) (dump : Json → Bytes) (shownIn : World) (target : Bytes)
    (card edited : List Input) (name : String) (v : ParameterValue) : Prop :=
  ∃ shown el value, (shown, el) ∈ card.zip edited ∧ el.paramName = name ∧ el.disabled = false ∧
    readInput br el.field = .ok value ∧ jsonToParameterValue dump (value.posted number) v.type.code = .ok v ∧
    (el.field = shown.field → ∃ r old, shownIn target = some r ∧ r.node.params name = some old ∧ ¬ Survives old)

/-- **A page in use.** A page has been loaded when the nodes were in the state `w₀`, fields have been written
into, and the update reaches the nodes in any state `w`. Whatever becomes of the calls, no other node
changes, and a parameter of the node only changes to a value that stands in its field. Where nobody has
written into the field that is so only if it could not show the value that the parameter had. -/
theorem page_update (parse : Bytes → Except Bytes Json) (dump : Json → Bytes) (refusal : Parameter → Bytes)
    (targetNodes : List Bytes) (br : Browser) (hbr : br.Standard) (number : Float → Json) (w₀ w : World)
    (shownFates : Bytes → Fates) (target : Bytes) (hm : target ∈ targetNodes) (card edited : List Input)
    (hcard : loadCard br (snapshotNode (clientsOf targetNodes fun t => snapshotClient (shownFates t) t) target
      w₀) = some card) (hedited : List.Forall₂ Edited card edited)
    (changed : List (String × JsValue)) (hupdate : updateNode br edited = some changed)
    (body : Bytes) (hparse : parse body = .ok (postedBody number target changed))
    (opened : List Parameter → Bool) (fates : Fates) :
    let out := handlePostParameters parse dump
      (clientsOf targetNodes (parametersClient refusal opened fates)) body w
    (∀ other, other ≠ target → out.2 other = w other) ∧
    ∀ r, w target = some r → ∃ r', out.2 target = some r' ∧ ∀ name,
      r'.node.params name ≠ r.node.params name → ∃ v, r'.node.params name = some v ∧
        WrittenIn br number dump w₀ target card edited name v := by
  intro out
  have hdone : PostDone parse dump targetNodes fates body w out :=
    post_done parse dump refusal targetNodes body opened fates w
  obtain ⟨hothers, hparams⟩ := hdone.changedOnly hparse (postShape_postedBody number target changed)
  refine ⟨hothers, fun r hr => ?_⟩
  obtain ⟨r', hr', hchanged⟩ := hparams r hr
  refine ⟨r', hr', fun name hne => ?_⟩
  obtain ⟨raw, v, hraw, hv, hstored⟩ := hchanged name hne
  refine ⟨v, hstored, ?_⟩
  obtain ⟨c, hc, hce⟩ := List.mem_map.mp (SortedMap.mem_of_find?_ofList hraw)
  cases hce
  obtain ⟨el, hel, hd⟩ := updateNode_read hupdate c hc
  obtain ⟨hlen, hpairs⟩ := List.forall₂_iff_zip.mp hedited
  obtain ⟨i, hi, rfl⟩ := List.mem_iff_getElem.mp hel
  have hzip : (card[i], edited[i]) ∈ card.zip edited :=
    List.mem_iff_getElem?.mpr ⟨i, List.getElem?_zip_eq_some.mpr
      ⟨List.getElem?_eq_getElem (hlen ▸ hi), List.getElem?_eq_getElem hi⟩⟩
  have hfaithful := (snapshotNode_shown shownFates hm w₀).faithful
  obtain ⟨name, old, hshown⟩ := loadCard_shown hfaithful hcard card[i] (List.getElem_mem _)
  obtain ⟨rfl, huntouched⟩ := hshown.differs hbr (hpairs hzip) hd
  obtain ⟨hwritable, hparam, hread, -⟩ := hd
  refine ⟨card[i], edited[i], c.2, hzip, hparam, hwritable, hread, hv, fun hf => ?_⟩
  obtain ⟨s, hs, hold⟩ := hshown.stored
  exact ⟨s, old, hs, hold, huntouched hf⟩

/-- the sender with its defaults beside the detector -/
def senderAndDetector : World := fun target =>
  if target = lit "/detection_sender_node" then some {
    node := .sender DetectionSenderNode.defaultNode
    names := DetectionSenderNode.declared.map Prod.fst
    nodup := DetectionSenderNode.declared_nodup
    listed := fun name =>
      ((isSome_setAll DetectionSenderNode.declared (fun _ => none) name).trans
        (or_iff_left Bool.noConfusion)).symm }
  else detectorAlone target

def bothNodes : List Bytes := [lit "/detection_sender_node", lit "/vehicle_detector_node"]

/-- somebody else sets the number of retries -/
def retriesSet : World :=
  ((parametersClient (fun _ => []) (fun _ => true) {} (lit "/detection_sender_node")).setParameters
    senderAndDetector [("http_retry_count", .integer 3)]).2

def writeMode (el : Input) : Input :=
  if el.paramName = "send_mode" then { el with field := { el.field with value := "both".toList } } else el

def modeText : Bytes :=
  lit "\x7b\"node\":\"/detection_sender_node\",\"parameters\":\x7b\"send_mode\":\"both\"\x7d\x7d"

theorem modeText_read : readJson modeText = .ok (postedBody .float (lit "/detection_sender_node")
    [("send_mode", .scalar (.string "both".toList))]) :=
  request_read "/detection_sender_node" [(lit "send_mode", .str (lit "both"))] (by decide +kernel)
    (ofMembers_one "send_mode" (ofTree_str "both"))

/-- The mode is written on a page that has been loaded before the retries are set. -/
theorem page_update_mode : ∃ card,
    loadCard sampleBrowser (snapshotNode (clientsOf bothNodes fun t => snapshotClient {} t)
      (lit "/detection_sender_node") senderAndDetector) = some card ∧
    updateNode sampleBrowser (card.map writeMode) = some [("send_mode", .scalar (.string "both".toList))] ∧
    let out := handlePostParameters readJson (fun _ => [])
      (clientsOf bothNodes (parametersClient (fun _ => []) (fun _ => true) {})) modeText retriesSet
    (∀ other, other ≠ lit "/detection_sender_node" → out.2 other = retriesSet other) ∧
    ∀ r, retriesSet (lit "/detection_sender_node") = some r →
      ∃ r', out.2 (lit "/detection_sender_node") = some r' ∧
        ∀ name, r'.node.params name ≠ r.node.params name → ∃ v, r'.node.params name = some v ∧
          WrittenIn sampleBrowser .float (fun _ => []) senderAndDetector (lit "/detection_sender_node") card
            (card.map writeMode) name v := by
  have hload : ((loadCard sampleBrowser (snapshotNode (clientsOf bothNodes fun t => snapshotClient {} t)
      (lit "/detection_sender_node") senderAndDetector)).bind fun card =>
      updateNode sampleBrowser (card.map writeMode)) = some [("send_mode", .scalar (.string "both".toList))] := by
    decide +kernel
  obtain ⟨card, hcard, hupdate⟩ := Option.bind_eq_some_iff.mp hload
  have hedited : List.Forall₂ Edited card (card.map writeMode) := by
    rw [List.forall₂_map_right_iff, List.forall₂_same]
    intro el _
    unfold writeMode
    split
    · exact ⟨rfl, rfl, rfl, rfl⟩
    · exact ⟨rfl, rfl, rfl, rfl⟩
  exact ⟨card, hcard, hupdate, page_update readJson (fun _ => []) (fun _ => []) bothNodes sampleBrowser
    sampleBrowser_standard .float senderAndDetector retriesSet (fun _ => {}) (lit "/detection_sender_node")
    List.mem_cons_self card _ hcard hedited _ hupdate modeText modeText_read (fun _ => true) {}⟩

end VD
