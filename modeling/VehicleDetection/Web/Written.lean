import VehicleDetection.Param.Integers
import VehicleDetection.Web.Page

/-!
# What is written comes back

A value is written into a field, posted, converted and stored, and the page is loaded again.

* `Browser.Exchanges`  the page and the bridge read each other's numbers;
* `typed_shown`        a value that is stored is served with the text that was read from its field;
* `run_alike`          the nodes keep their names and types;
* `written_back`       every parameter that an update has set is shown as it was written.
-/

set_option linter.unusedVariables false

namespace VD
open BStr Double

/-- The bridge reads the text of a finite number as that number; where it is stored as an integer, the page
reads the integer as that number again. -/
structure Browser.Exchanges (br : Browser) (number : Float → Json) : Prop where
  double : ∀ n : Float, n.isFinite = true →
    ∃ d, (number n).asNumber? = some d ∧ d.isFinite = true ∧ exact d = exact n
  integer : ∀ n : Float, n.isFinite = true → ∀ i : Int64, (number n).number? = some (i.toInt : ℚ) →
    exact (br.parseInteger i.toInt) = exact n

/-- the same number has the same text -/
theorem Browser.Standard.string_congr {br : Browser} (h : br.Standard) {a b : Float} (ha : a.isFinite = true)
    (hb : b.isFinite = true) (he : exact a = exact b) : br.string a = br.string b := by
  rcases eq_of_exact ha hb he with rfl | hzero
  · rfl
  · have text : ∀ z : Float, z.isFinite = true → exact z = 0 → br.string z = br.string 0.0 := by
      intro z hz hexact
      rcases zero_of_exact hz hexact with rfl | rfl
      · rfl
      · exact h.zeros
    rw [text a ha hzero, text b hb (he.symm.trans hzero)]

/-! ## a field and its type -/

section
variable {br : Browser}

theorem inputForParameter_kind {p : Param} {t : ParameterType} (h : p.type = parameterTypeName t.code)
    (ht : ¬ Unsupported t) : (inputForParameter br p).kind = parameterTypeName t.code := by
  unfold inputForParameter
  rw [h]
  cases t with
  | notSet => exact absurd (.inr rfl) ht
  | byteArray => exact absurd (.inl rfl) ht
  | _ => rfl

variable {el : Field}

theorem readInput_kindBool (h : el.kind = "bool") : readInput br el = .ok (.scalar (.bool el.checked)) := by
  simp [readInput, h]

theorem readInput_kindInteger (h : el.kind = "integer") :
    readInput br el = (readInteger br el.value).map fun n => .scalar (.number n) := by
  simp [readInput, h]

theorem readInput_kindDouble (h : el.kind = "double") :
    readInput br el = (readNumber br el.value).map fun n => .scalar (.number n) := by
  simp [readInput, h]

theorem readInput_kindString (h : el.kind = "string") : readInput br el = .ok (.scalar (.string el.value)) := by
  simp [readInput, h, arrayTypes]

theorem readInput_kindArray (h : el.kind ∈ arrayTypes) :
    readInput br el = readItems br el.kind (Fields.items ',' isJsSpace el.value) := by
  have hne : el.kind ≠ "bool" ∧ el.kind ≠ "integer" ∧ el.kind ≠ "double" := by
    refine ⟨?_, ?_, ?_⟩ <;> exact fun e => absurd (e ▸ h) (by decide)
  unfold readInput
  dsimp only
  rw [if_neg hne.1, if_neg hne.2.1, if_neg hne.2.2, if_pos h]

theorem readNumber_finite {s : List Char} {n : Float} (h : readNumber br s = .ok n) : n.isFinite = true := by
  unfold readNumber at h
  dsimp only at h
  split at h
  · cases h
  · rename_i hn
    cases h
    exact not_not.mp hn

theorem readInteger_finite {s : List Char} {n : Float} (h : readInteger br s = .ok n) : n.isFinite = true := by
  obtain ⟨m, hm, h⟩ := bind_ok.mp h
  split at h
  · cases h
  · cases h
    exact readNumber_finite hm

theorem mapM_finite {f : List Char → Except String Float} (hf : ∀ s n, f s = .ok n → n.isFinite = true)
    {items : List (List Char)} {ns : List Float} (h : items.mapM f = .ok ns) : ∀ n ∈ ns, n.isFinite = true := by
  intro n hn
  obtain ⟨s, -, hs⟩ := exists_of_mem_right (mapM_ok.mp h) hn
  exact hf s n hs

end

/-! ## one value -/

section
variable {br : Browser} {number : Float → Json} {dump : Json → Bytes}

theorem double_shown (hbr : br.Standard) (hex : br.Exchanges number) {n d : Float} (hn : n.isFinite = true)
    (h : jsonToDouble dump ((JsScalar.number n).posted number) = .ok d) :
    d.isFinite = true ∧ (received d).stringify br = (JsScalar.number n).stringify br := by
  obtain ⟨m, hm, hfin, hexact⟩ := hex.double n hn
  simp only [JsScalar.posted, if_pos hn, jsonToDouble, hm] at h
  cases h
  refine ⟨hfin, ?_⟩
  rw [received, if_pos hfin, JsScalar.stringify, JsScalar.stringify, if_pos hfin, if_pos hn,
    hbr.string_congr hfin hn hexact]

theorem integer_shown (hbr : br.Standard) (hex : br.Exchanges number) {n : Float} {i : Int64}
    (hn : n.isFinite = true) (h : jsonToInt dump ((JsScalar.number n).posted number) = .ok i) :
    (JsScalar.number (br.parseInteger i.toInt)).stringify br = (JsScalar.number n).stringify br := by
  rw [JsScalar.posted, if_pos hn, jsonToInt_ok] at h
  have hfin : (br.parseInteger i.toInt).isFinite = true := finite_of_isInteger (hbr.integer i)
  rw [JsScalar.stringify, JsScalar.stringify, if_pos hfin, if_pos hn,
    hbr.string_congr hfin hn (hex.integer n hn i h)]

theorem decodeText_encode (t : List Char) :
    decodeText (t.flatMap String.utf8EncodeChar) = some (String.ofList t) := by
  have hlit : t.flatMap String.utf8EncodeChar = lit (String.ofList t) := by
    rw [lit, String.toList_ofList]
  rw [hlit, decodeText_lit]

theorem receive_encoded (t : List Char) :
    receiveScalar br (.string (t.flatMap String.utf8EncodeChar)) = some (.string t) := by
  rw [receiveScalar, decodeText_encode, Option.map_some, String.toList_ofList]

/-- strings are stored as they were read, and come back if they can be told apart in their field -/
theorem strings_shown {ts : List (List Char)} (hclean : ∀ t ∈ ts, Fields.Clean ',' isJsSpace t) {a : List Bytes}
    (h : ((ts.map JsScalar.string).map (JsScalar.posted number)).mapM (jsonToString dump) = .ok a) :
    Survives (.stringArray a) ∧ ∃ shown, receiveValue br (ParameterValue.stringArray a).toJson = some shown ∧
      shown.stringify br = (JsValue.array (ts.map .string)).stringify br := by
  have hstored : a = ts.map fun t => t.flatMap String.utf8EncodeChar := by
    rw [List.map_map, mapM_ok, List.forall₂_map_left_iff] at h
    clear hclean
    induction h with
    | nil => rfl
    | @cons t s ts a hts _ ih =>
      cases hts
      rw [ih, List.map_cons]
  subst hstored
  refine ⟨List.forall_mem_map.mpr fun t ht u hu => ?_, .array (ts.map .string), ?_, rfl⟩
  · rw [decodeText_encode] at hu
    cases hu
    rw [String.toList_ofList]
    exact hclean t ht
  · rw [ParameterValue.toJson, List.map_map]
    exact receive_array receive_encoded ts

/-- an array that is converted element by element -/
theorem array_shown {A B : Type} {convert : Json → Except Bytes A} {P : A → Prop} {f : B → JsScalar}
    {g : A → JsScalar} {bs : List B} : ∀ {as : List A},
    ((bs.map f).map (JsScalar.posted number)).mapM convert = .ok as →
    (∀ b ∈ bs, ∀ a, convert ((f b).posted number) = .ok a → P a ∧ (g a).stringify br = (f b).stringify br) →
    (∀ a ∈ as, P a) ∧ (JsValue.array (as.map g)).stringify br = (JsValue.array (bs.map f)).stringify br := by
  intro as h hone
  suffices hall : (∀ a ∈ as, P a) ∧
      (as.map g).map (JsScalar.stringify br) = (bs.map f).map (JsScalar.stringify br) by
    refine ⟨hall.1, ?_⟩
    rw [JsValue.stringify, JsValue.stringify, hall.2]
  rw [List.map_map, mapM_ok, List.forall₂_map_left_iff] at h
  induction h with
  | nil => exact ⟨fun a ha => absurd ha List.not_mem_nil, rfl⟩
  | @cons b a bs as hab _ ih =>
    obtain ⟨hp, htext⟩ := hone b List.mem_cons_self a hab
    obtain ⟨hps, htexts⟩ := ih fun b hb => hone b (List.mem_cons_of_mem _ hb)
    refine ⟨List.forall_mem_cons.mpr ⟨hp, hps⟩, ?_⟩
    rw [List.map_cons, List.map_cons, List.map_cons, List.map_cons, htext, htexts]

/-- **One value.** What is read from a field and converted to the type of the field survives, and is served
with the same text. -/
theorem typed_shown (hbr : br.Standard) (hex : br.Exchanges number) {el : Field} {value : JsValue}
    {v : ParameterValue} (hkind : el.kind = parameterTypeName v.type.code) (hread : readInput br el = .ok value)
    (hconv : jsonToParameterValue dump (value.posted number) v.type.code = .ok v) :
    Survives v ∧ ∃ shown, receiveValue br v.toJson = some shown ∧ shown.stringify br = value.stringify br := by
  cases v with
  | notSet => cases hconv
  | byteArray a => cases hconv
  | bool b =>
    have hkind : el.kind = "bool" := hkind
    rw [readInput_kindBool hkind] at hread
    cases hread
    cases hconv
    exact ⟨trivial, _, rfl, rfl⟩
  | integer i =>
    have hkind : el.kind = "integer" := hkind
    rw [readInput_kindInteger hkind] at hread
    obtain ⟨n, hn, rfl⟩ := map_ok.mp hread
    obtain ⟨c, hc, hv⟩ := map_ok.mp hconv
    cases hv
    exact ⟨trivial, _, rfl, integer_shown hbr hex (readInteger_finite hn) hc⟩
  | double d =>
    have hkind : el.kind = "double" := hkind
    rw [readInput_kindDouble hkind] at hread
    obtain ⟨n, hn, rfl⟩ := map_ok.mp hread
    obtain ⟨c, hc, hv⟩ := map_ok.mp hconv
    cases hv
    obtain ⟨hfin, htext⟩ := double_shown hbr hex (readNumber_finite hn) hc
    exact ⟨hfin, _, rfl, htext⟩
  | string s =>
    have hkind : el.kind = "string" := hkind
    rw [readInput_kindString hkind] at hread
    cases hread
    cases hconv
    refine ⟨trivial, .scalar (.string el.value), ?_, rfl⟩
    show (receiveScalar br (.string (el.value.flatMap String.utf8EncodeChar))).map JsValue.scalar = _
    rw [receive_encoded]
    rfl
  | boolArray a =>
    have hkind : el.kind = "bool_array" := hkind
    rw [readInput_kindArray (by rw [hkind]; decide), hkind] at hread
    obtain ⟨bs, hbs, rfl⟩ := map_ok.mp hread
    obtain ⟨c, hc, hv⟩ := map_ok.mp hconv
    cases hv
    have hone (b : Bool) (hb : b ∈ bs) (c : Bool) (h : jsonToBool dump ((JsScalar.bool b).posted number) = .ok c) :
        True ∧ (JsScalar.bool c).stringify br = (JsScalar.bool b).stringify br := by
      cases h
      exact ⟨trivial, rfl⟩
    exact ⟨trivial, _, receive_array (fun b => rfl) a, (array_shown hc hone).2⟩
  | integerArray a =>
    have hkind : el.kind = "integer_array" := hkind
    rw [readInput_kindArray (by rw [hkind]; decide), hkind] at hread
    obtain ⟨ns, hns, rfl⟩ := map_ok.mp hread
    obtain ⟨c, hc, hv⟩ := map_ok.mp hconv
    cases hv
    have hfin := mapM_finite (fun _ _ => readInteger_finite) hns
    have hone (n : Float) (hn : n ∈ ns) (i : Int64) (h : jsonToInt dump ((JsScalar.number n).posted number) = .ok i) :
        True ∧ (JsScalar.number (br.parseInteger i.toInt)).stringify br = (JsScalar.number n).stringify br :=
      ⟨trivial, integer_shown hbr hex (hfin n hn) h⟩
    exact ⟨trivial, _, receive_array (fun i => rfl) a, (array_shown hc hone).2⟩
  | doubleArray a =>
    have hkind : el.kind = "double_array" := hkind
    rw [readInput_kindArray (by rw [hkind]; decide), hkind] at hread
    obtain ⟨ns, hns, rfl⟩ := map_ok.mp hread
    obtain ⟨c, hc, hv⟩ := map_ok.mp hconv
    cases hv
    have hfin := mapM_finite (fun _ _ => readNumber_finite) hns
    obtain ⟨hsurvives, htext⟩ := array_shown hc fun n hn d h => double_shown hbr hex (hfin n hn) h
    exact ⟨hsurvives, _, receive_array (fun d => rfl) a, htext⟩
  | stringArray a =>
    have hkind : el.kind = "string_array" := hkind
    rw [readInput_kindArray (by rw [hkind]; decide), hkind] at hread
    cases hread
    obtain ⟨c, hc, hv⟩ := map_ok.mp hconv
    cases hv
    exact strings_shown (fun t ht => Fields.clean_of_mem_items ht) hc

end

/-! ## the fields of a page -/

/-- A card has one field for each name of the node. -/
theorem loadCard_names {br : Browser} {w : World} {target : Bytes} {nodeData : NodeSnapshot}
    (hf : nodeData.Faithful w target) {card : List Input} (hcard : loadCard br nodeData = some card) :
    ∃ r, w target = some r ∧ card.map Input.paramName = r.names := by
  cases hf with
  | error what => cases hcard
  | @served r entries hr hserve =>
    refine ⟨r, hr, ?_⟩
    obtain ⟨ps, hps, rfl⟩ := Option.map_eq_some_iff.mp hcard
    clear hcard
    rw [List.map_map]
    show ps.map Param.name = r.names
    change entries.mapM (receiveParam br) = some ps at hps
    rw [List.forall₂_map_left_iff] at hserve
    generalize r.names = names at hserve
    induction hserve generalizing ps with
    | nil =>
      cases hps
      rfl
    | @cons name entry names entries hs _ ih =>
      rw [List.mapM_cons] at hps
      obtain ⟨p, hp, hps⟩ := Option.bind_eq_some_iff.mp hps
      obtain ⟨rest, hrest, hps⟩ := Option.bind_eq_some_iff.mp hps
      cases hps
      rw [List.map_cons, ih rest hrest, receiveParam_name hp hs.name]
      rfl

/-- the only field with this name -/
def IsField (card : List Input) (name : String) (el : Input) : Prop :=
  el ∈ card ∧ el.paramName = name ∧ ∀ e ∈ card, e.paramName = name → e = el

theorem exists_isField {card : List Input} {names : List String} (h : card.map Input.paramName = names)
    (hn : names.Nodup) {name : String} (hname : name ∈ names) : ∃ el, IsField card name el := by
  subst h
  obtain ⟨el, hel, rfl⟩ := List.mem_map.mp hname
  exact ⟨el, hel, rfl, fun e he hsame => List.inj_on_of_nodup_map hn he hel hsame⟩

/-- Nobody writes into the names of the fields. -/
theorem edited_isField {br : Browser} {w : World} {target : Bytes} {nodeData : NodeSnapshot}
    (hf : nodeData.Faithful w target) {card edited : List Input} (hcard : loadCard br nodeData = some card)
    (hedited : List.Forall₂ Edited card edited) {el : Input} (hel : el ∈ edited) {name : String}
    (hname : el.paramName = name) : IsField edited name el := by
  obtain ⟨r, -, hnames⟩ := loadCard_names hf hcard
  have hsame : edited.map Input.paramName = r.names := by
    rw [← hnames, ← List.forall₂_eq_eq_eq, List.forall₂_map_left_iff, List.forall₂_map_right_iff]
    exact hedited.flip.imp fun el shown he => he.paramName
  refine ⟨hel, hname, fun e he hother => ?_⟩
  exact List.inj_on_of_nodup_map (hsame ▸ r.nodup) he hel (hother.trans hname.symm)

/-- the field shows this text, and reads as it while nobody writes into it -/
structure Shows (br : Browser) (el : Input) (text : List Char) : Prop where
  original : el.original = text
  read : ∃ value, readInput br el.field = .ok value ∧ value.stringify br = text

/-- A value that survives is shown in the field of its parameter. -/
theorem loadCard_shows {br : Browser} (hbr : br.Standard) {w : World} {target : Bytes} {nodeData : NodeSnapshot}
    (hf : nodeData.Faithful w target) {card : List Input} (hcard : loadCard br nodeData = some card)
    {r : Running} (hr : w target = some r) {name : String} {v : ParameterValue}
    (hstored : r.node.params name = some v) (hv : Survives v) {value : JsValue}
    (hserved : receiveValue br v.toJson = some value) :
    ∃ shown, IsField card name shown ∧ Shows br shown (value.stringify br) := by
  obtain ⟨r', hr', hnames⟩ := loadCard_names hf hcard
  obtain rfl : r' = r := Option.some.inj (hr'.symm.trans hr)
  have hname : name ∈ r'.names := (r'.listed name).mpr (Option.isSome_iff_exists.mpr ⟨v, hstored⟩)
  obtain ⟨shown, hmem, hparam, honly⟩ := exists_isField hnames r'.nodup hname
  refine ⟨shown, ⟨hmem, hparam, honly⟩, ?_⟩
  obtain ⟨name', v', ⟨s, hs, hstored'⟩, p, hp, hpname, rfl⟩ := loadCard_shown hf hcard shown hmem
  obtain rfl : name' = name := hpname.symm.trans hparam
  obtain rfl : s = r' := Option.some.inj (hs.symm.trans hr)
  obtain rfl : v' = v := Option.some.inj (hstored'.symm.trans hstored)
  obtain ⟨-, hvalue⟩ := hp.spec
  obtain rfl : p.value = value := Option.some.inj (hvalue.symm.trans hserved)
  obtain ⟨again, hagain, hiff⟩ := readInput_iff hbr hp
  exact ⟨rfl, again, hagain, hiff.mpr hv⟩

theorem ShownIn.paramName {br : Browser} {w : World} {target : Bytes} {name : String} {value : ParameterValue}
    {shown : Input} (h : ShownIn br w target name value shown) : shown.paramName = name := by
  obtain ⟨p, -, hname, rfl⟩ := h.field
  exact hname

theorem ShownIn.kind {br : Browser} {w : World} {target : Bytes} {name : String} {value : ParameterValue}
    {shown el : Input} (h : ShownIn br w target name value shown) (he : Edited shown el)
    (ht : ¬ Unsupported value.type) : el.field.kind = parameterTypeName value.type.code := by
  obtain ⟨p, hp, -, rfl⟩ := h.field
  rw [he.kind]
  exact inputForParameter_kind hp.spec.1 ht

/-! ## the nodes in the meantime -/

theorem Alike.trans {w w' w'' : World} (h : Alike w w') (h' : Alike w' w'') : Alike w w'' := by
  intro target
  have hfirst := h target
  have hsecond := h' target
  revert hfirst hsecond
  generalize w target = a
  generalize w' target = b
  generalize w'' target = c
  intro hfirst hsecond
  cases hfirst with
  | none =>
    cases hsecond
    exact .none
  | some hr =>
    cases hsecond with
    | some hr' => exact .some ⟨hr'.names.trans hr.names, hr.types.trans hr'.types⟩

theorem run_alike (parse : Bytes → Except Bytes Json) (dump : Json → Bytes) (refusal : Parameter → Bytes)
    (targetNodes : List Bytes) {I : Type} [DecidableEq I] (jobs : I → Job) {w : World} {events : List I}
    {x : TwoPhase.State I World Told JobAnswer}
    (h : Steps.run (TwoPhase.step (asking parse dump refusal targetNodes jobs) (acting refusal jobs))
      (TwoPhase.initial w) events = some x) : Alike w x.shared :=
  TwoPhase.run_kept (steady parse dump refusal targetNodes jobs)
    (fun i s hs => hs.trans (act_alike refusal (jobs i) _ s)) (Alike.refl w) h

theorem Alike.types {w w' : World} (h : Alike w w') {target : Bytes} {r r' : Running} (hr : w target = some r)
    (hr' : w' target = some r') : SameTypes r.node.params r'.node.params := by
  have ht := h target
  rw [hr, hr'] at ht
  cases ht with
  | some hrel => exact hrel.types

/-- A field reads as the type that its parameter still has when the update comes. -/
theorem edited_kind {br : Browser} {w w' : World} {target : Bytes} {nodeData : NodeSnapshot}
    (hf : nodeData.Faithful w target) {card edited : List Input} (hcard : loadCard br nodeData = some card)
    (hedited : List.Forall₂ Edited card edited) {el : Input} (hel : el ∈ edited) {name : String}
    (hname : el.paramName = name) (halike : Alike w w') {r : Running} (hr : w' target = some r)
    {t : ParameterType} (htype : (r.node.params name).map ParameterValue.type = some t) (ht : ¬ Unsupported t) :
    el.field.kind = parameterTypeName t.code := by
  -- the field is the one that has shown the parameter at first
  obtain ⟨shown, hmem, he⟩ := exists_of_mem_right hedited hel
  obtain ⟨name', old, hshown⟩ := loadCard_shown hf hcard shown hmem
  obtain ⟨r₀, hr₀, hold⟩ := hshown.stored
  obtain rfl : name' = name := (hshown.paramName.symm.trans he.paramName.symm).trans hname
  have hsame := halike.types hr₀ hr name'
  rw [htype, hold] at hsame
  obtain rfl : t = old.type := Option.some.inj hsame
  exact hshown.kind he ht

theorem settable_of_converted {dump : Json → Bytes} {raw : Json} {v : ParameterValue}
    (h : jsonToParameterValue dump raw v.type.code = .ok v) : ¬ Unsupported v.type := by
  intro hu
  have hthrows : ∃ e, jsonToParameterValue dump raw v.type.code = .error e := throws_value hu raw
  obtain ⟨e, he⟩ := hthrows
  cases he.symm.trans h

/-! ## an update, and the page after it -/

/-- the names that the page reads of an answer -/
def Response.updated : Response → List String
  | .body b => b.updated
  | .error _ _ => []

/-- **What is written comes back.** A page has been loaded, fields have been written into, and the update
reaches the node after any run of other jobs. For every name in `updated` the page has one field, and each
page that is loaded while the parameter keeps its value has one field for it again, which shows what was read
from the first one, to the letter, and reads as the same. -/
theorem written_back (parse : Bytes → Except Bytes Json) (dump : Json → Bytes) (refusal : Parameter → Bytes)
    (targetNodes : List Bytes) (br : Browser) (hbr : br.Standard) (number : Float → Json)
    (hex : br.Exchanges number) {I : Type} [DecidableEq I] (jobs : I → Job) (w₀ : World) (events : List I)
    (x : TwoPhase.State I World Told JobAnswer)
    (h : Steps.run (TwoPhase.step (asking parse dump refusal targetNodes jobs) (acting refusal jobs))
      (TwoPhase.initial w₀) events = some x)
    (pageFates : Bytes → Fates) (target : Bytes) (hm : target ∈ targetNodes) (card edited : List Input)
    (hcard : loadCard br (snapshotNode (clientsOf targetNodes fun t => snapshotClient (pageFates t) t) target
      w₀) = some card) (hedited : List.Forall₂ Edited card edited)
    (changed : List (String × JsValue)) (hupdate : updateNode br edited = some changed)
    (body : Bytes) (hparse : parse body = .ok (postedBody number target changed))
    (opened : List Parameter → Bool) (fates : Fates) :
    let out := handlePostParameters parse dump
      (clientsOf targetNodes (parametersClient refusal opened fates)) body x.shared
    ∀ name ∈ out.1.updated, ∃ el value, IsField edited name el ∧
      readInput br el.field = .ok value ∧ ∀ (later : World) (laterFates : Bytes → Fates) (reloaded : List Input),
        (later target).bind (fun r => r.node.params name) = (out.2 target).bind (fun r => r.node.params name) →
        loadCard br (snapshotNode (clientsOf targetNodes fun t => snapshotClient (laterFates t) t) target
          later) = some reloaded →
        ∃ shown, IsField reloaded name shown ∧ Shows br shown (value.stringify br) := by
  intro out name hname
  have hdone : PostDone parse dump targetNodes fates body x.shared out :=
    post_done parse dump refusal targetNodes body opened fates x.shared
  generalize out = done at hdone hname ⊢
  cases hdone with
  | refused status msg => exact absurd hname List.not_mem_nil
  | late status msg => exact absurd hname List.not_mem_nil
  | answered b payload params w' _ hparse' hshape hreached =>
    cases hparse.symm.trans hparse'
    cases (postShape_postedBody number target changed).symm.trans hshape
    obtain ⟨r, r', hr, rfl, -, happlied⟩ := hreached
    obtain ⟨raw, v, hraw, htype, hconv, hstored⟩ := happlied.set name hname
    obtain ⟨c, hc, hce⟩ := List.mem_map.mp (SortedMap.mem_of_find?_ofList hraw)
    cases hce
    obtain ⟨el, hel, -, hparam, hread, -⟩ := updateNode_read hupdate c hc
    have hfaithful := (snapshotNode_shown pageFates hm w₀).faithful
    have hkind : el.field.kind = parameterTypeName v.type.code :=
      edited_kind hfaithful hcard hedited hel hparam (run_alike parse dump refusal targetNodes jobs h) hr htype
        (settable_of_converted hconv)
    obtain ⟨hsurvives, value, hserved, htext⟩ := typed_shown hbr hex hkind hread hconv
    refine ⟨el, c.2, edited_isField hfaithful hcard hedited hel hparam, hread, ?_⟩
    intro later fates' reloaded hkept hload
    have hlater := (snapshotNode_shown fates' hm later).faithful
    obtain ⟨r₁, hr₁, -⟩ := loadCard_names hlater hload
    dsimp only at hkept
    rw [hr₁, Function.update_self] at hkept
    have hvalue : r₁.node.params c.1 = some v := hkept.trans hstored
    exact htext ▸ loadCard_shows hbr hlater hload hr₁ hvalue hsurvives hserved

/-! ## a playlist is written -/

/-- the sample browser, with integers that are read exactly where they are doubles -/
def exactBrowser : Browser where
  string := sampleString
  number := sampleNumber
  parseInteger i := if isInteger (Float.ofInt i) then Float.ofInt i else 0.0

theorem exactBrowser_standard : exactBrowser.Standard := by
  obtain ⟨hinverse, hzeros, hnumeral, -⟩ := sampleBrowser_standard
  refine ⟨hinverse, hzeros, hnumeral, fun i => ?_⟩
  show isInteger (if isInteger (Float.ofInt i.toInt) then Float.ofInt i.toInt else 0.0) = true
  split_ifs with hi
  · exact hi
  · decide +kernel

theorem exactBrowser_exchanges : exactBrowser.Exchanges .float := by
  refine ⟨fun n hn => ⟨n, rfl, hn, rfl⟩, fun n hn i h => ?_⟩
  rw [Json.number?, if_pos hn] at h
  have hexact : exact n = i.toInt := Option.some.inj h
  obtain ⟨hfin, hi⟩ : (Float.ofInt i.toInt).isFinite = true ∧ exact (Float.ofInt i.toInt) = exact n := by
    have htrunc : value (trunc n) = some ((truncInt n : ℝ) : EReal) := value_trunc n
    rw [trunc, truncInt_of_exact hexact] at htrunc
    refine exact_of_value (htrunc.trans ?_)
    rw [hexact]
    norm_num
  have hinteger : isInteger (Float.ofInt i.toInt) = true := by
    have htrunc := (trunc_iff hfin).mpr (by rw [truncInt_of_exact (hi.trans hexact), hi, hexact])
    rw [bne, Bool.not_eq_false'] at htrunc
    rw [isInteger, hfin, htrunc, Bool.and_self]
  show exact (if isInteger (Float.ofInt i.toInt) then Float.ofInt i.toInt else 0.0) = exact n
  rw [if_pos hinteger, hi]

/-- the loader with a rate of its own, and no other node -/
def loaderParameters : List Parameter :=
  PcdLoaderNode.declared.map fun p => if p.1 = "publish_rate_hz" then (p.1, .double 5.0) else p

def loaderAlone : World := fun target =>
  if target = lit "/pcd_loader_node" then some {
    node := .loader ⟨Mirror.setAll (fun _ => none) loaderParameters, ()⟩
    names := loaderParameters.map Prod.fst
    nodup := by decide +kernel
    listed := fun name =>
      ((isSome_setAll loaderParameters (fun _ => none) name).trans (or_iff_left Bool.noConfusion)).symm }
  else none

/-- somebody else turns the loop off -/
def loopOff (_ : Unit) : Job := .set (lit "/pcd_loader_node") [("loop", .bool false)] fun _ => true

def writeFiles (el : Input) : Input :=
  if el.paramName = "pcd_files" then { el with field := { el.field with value := "a.pcd, b.pcd".toList } } else el

/-- the two files as a list -/
def writtenFiles : JsValue := .array [.string "a.pcd".toList, .string "b.pcd".toList]

def filesText : Bytes :=
  lit "\x7b\"node\":\"/pcd_loader_node\",\"parameters\":\x7b\"pcd_files\":[\"a.pcd\",\"b.pcd\"]\x7d\x7d"

theorem filesText_read : readJson filesText =
    .ok (postedBody .float (lit "/pcd_loader_node") [("pcd_files", writtenFiles)]) := by
  have hfiles : Json.ofTree (.arr [.str (lit "a.pcd"), .str (lit "b.pcd")]) =
      some (.array [.string (lit "a.pcd"), .string (lit "b.pcd")]) := by
    rw [Json.ofTree, Json.ofElems, Json.ofElems, Json.ofElems, ofTree_str, ofTree_str]
    rfl
  exact request_read "/pcd_loader_node" [(lit "pcd_files", .arr [.str (lit "a.pcd"), .str (lit "b.pcd")])]
    (by decide +kernel) (ofMembers_one "pcd_files" hfiles)

/-- A playlist is written on a page that has been loaded before the loop is turned off. -/
theorem written_back_playlist : ∃ card x,
    loadCard exactBrowser (snapshotNode (clientsOf [lit "/pcd_loader_node"] fun t => snapshotClient {} t)
      (lit "/pcd_loader_node") loaderAlone) = some card ∧
    updateNode exactBrowser (card.map writeFiles) = some [("pcd_files", writtenFiles)] ∧
    Steps.run (TwoPhase.step (asking readJson (fun _ => []) (fun _ => []) [lit "/pcd_loader_node"] loopOff)
      (acting (fun _ => []) loopOff)) (TwoPhase.initial loaderAlone) [(), ()] = some x ∧
    let out := handlePostParameters readJson (fun _ => [])
      (clientsOf [lit "/pcd_loader_node"] (parametersClient (fun _ => []) (fun _ => true) {})) filesText x.shared
    "pcd_files" ∈ out.1.updated ∧ ∃ el value, IsField (card.map writeFiles) "pcd_files" el ∧
      readInput exactBrowser el.field = .ok value ∧
      ∀ (later : World) (laterFates : Bytes → Fates) (reloaded : List Input),
        (later (lit "/pcd_loader_node")).bind (fun r => r.node.params "pcd_files") =
          (out.2 (lit "/pcd_loader_node")).bind (fun r => r.node.params "pcd_files") →
        loadCard exactBrowser (snapshotNode (clientsOf [lit "/pcd_loader_node"] fun t =>
          snapshotClient (laterFates t) t) (lit "/pcd_loader_node") later) = some reloaded →
        ∃ shown, IsField reloaded "pcd_files" shown ∧ Shows exactBrowser shown (value.stringify exactBrowser) := by
  have hload : ((loadCard exactBrowser (snapshotNode (clientsOf [lit "/pcd_loader_node"] fun t =>
      snapshotClient {} t) (lit "/pcd_loader_node") loaderAlone)).bind fun card =>
      updateNode exactBrowser (card.map writeFiles)) = some [("pcd_files", writtenFiles)] := by decide +kernel
  have hrun : ((Steps.run (TwoPhase.step (asking readJson (fun _ => []) (fun _ => []) [lit "/pcd_loader_node"]
      loopOff) (acting (fun _ => []) loopOff)) (TwoPhase.initial loaderAlone) [(), ()]).any fun x =>
      "pcd_files" ∈ (handlePostParameters
        (fun _ => .ok (postedBody .float (lit "/pcd_loader_node") [("pcd_files", writtenFiles)])) (fun _ => [])
        (clientsOf [lit "/pcd_loader_node"] (parametersClient (fun _ => []) (fun _ => true) {})) []
        x.shared).1.updated) = true := by decide +kernel
  obtain ⟨card, hcard, hupdate⟩ := Option.bind_eq_some_iff.mp hload
  obtain ⟨x, hx, hname⟩ := (Option.any_eq_true _ _).mp hrun
  rw [decide_eq_true_eq, ← handlePostParameters_parsed filesText_read] at hname
  have hedited : List.Forall₂ Edited card (card.map writeFiles) := by
    rw [List.forall₂_map_right_iff, List.forall₂_same]
    intro el _
    unfold writeFiles
    split
    · exact ⟨rfl, rfl, rfl, rfl⟩
    · exact ⟨rfl, rfl, rfl, rfl⟩
  exact ⟨card, x, hcard, hupdate, hx, hname, written_back readJson (fun _ => []) (fun _ => [])
    [lit "/pcd_loader_node"] exactBrowser exactBrowser_standard .float exactBrowser_exchanges loopOff loaderAlone
    [(), ()] x hx (fun _ => {}) (lit "/pcd_loader_node") (List.mem_singleton_self _) card _ hcard hedited _
    hupdate filesText filesText_read (fun _ => true) {} "pcd_files" hname⟩

end VD
