import VehicleDetection.Web.Gui

/-!
# A page without an edit

* `Survives`        the values that come back from their fields;
* `readInput_iff`   a field without an edit can be read, and equals the original exactly for these;
* `unedited_iff`    what `collectChanged` finds on a page without an edit.
-/

set_option linter.unusedVariables false

namespace VD
open BStr

/-- The values that come back from their fields.  There is no field for a value without a type and for a
byte array, no text for a double that is not finite, and the elements of a string array must be such
that they can be told apart again. -/
def Survives : ParameterValue → Prop
  | .notSet => False
  | .byteArray _ => False
  | .double d => d.isFinite = true
  | .doubleArray a => ∀ d ∈ a, d.isFinite = true
  | .stringArray a => ∀ s ∈ a, ∀ t, decodeText s = some t → Fields.Clean ',' isJsSpace t.toList
  | _ => True

/-! ## numbers -/

section
variable {br : Browser}

/-- `m` is read from the text of `n` -/
def Reread (br : Browser) (n m : Float) : Prop := m.isFinite = true ∧ br.string m = br.string n

theorem readNumber_string (hbr : br.Standard) {n : Float} (hn : n.isFinite = true) :
    ∃ m, readNumber br (br.string n) = .ok m ∧ Reread br n m := by
  obtain ⟨m, hm, hfin, htext, -⟩ := hbr.reread hn
  refine ⟨m, ?_, hfin, htext⟩
  rw [readNumber, hm]
  exact if_neg (not_not_intro hfin)

theorem finite_of_isInteger {n : Float} (h : isInteger n = true) : n.isFinite = true :=
  (Bool.and_eq_true_iff.mp h).1

theorem readInteger_string (hbr : br.Standard) {n : Float} (hn : isInteger n = true) :
    ∃ m, readInteger br (br.string n) = .ok m ∧ Reread br n m := by
  obtain ⟨m, hm, hfin, htext, hint⟩ := hbr.reread (finite_of_isInteger hn)
  refine ⟨m, ?_, hfin, htext⟩
  have hread : readNumber br (br.string n) = .ok m := by
    rw [readNumber, hm]
    exact if_neg (not_not_intro hfin)
  rw [readInteger, hread]
  exact if_neg (not_not_intro (hint hn))

theorem Reread.stringify {n m : Float} (h : Reread br n m) (hn : n.isFinite = true) :
    (JsScalar.number m).stringify br = (JsScalar.number n).stringify br := by
  rw [JsScalar.stringify, JsScalar.stringify, if_pos h.1, if_pos hn, h.2]

theorem not_space_of_isNumeral {c : Char} (h : isNumeral c = true) : isJsSpace c = false := by
  have hrange : 33 ≤ c.toNat ∧ c.toNat ≤ 126 := by
    simp only [isNumeral, Bool.or_eq_true, beq_iff_eq] at h
    rcases h with (((h | rfl) | rfl) | rfl) | rfl
    · rw [Char.isDigit_iff_toNat] at h
      change 48 ≤ c.toNat ∧ c.toNat ≤ 57 at h
      exact ⟨by omega, by omega⟩
    · decide
    · decide
    · decide
    · decide
  simp only [isJsSpace, Bool.or_eq_false_iff, Bool.and_eq_false_iff, decide_eq_false_iff_not,
    beq_eq_false_iff_ne]
  omega

theorem clean_string (hbr : br.Standard) {n : Float} (hn : n.isFinite = true) :
    Fields.Clean ',' isJsSpace (br.string n) := by
  obtain ⟨hne, hnum⟩ := hbr.numeral n hn
  refine ⟨hne, fun h => absurd (hnum _ h) (by decide), ?_⟩
  exact Fields.trim_of_no_blank fun c hc => not_space_of_isNumeral (hnum c hc)

end

/-! ## fields by kind -/

section
variable {br : Browser} {p : Param}

theorem readInput_bool (h : p.type = "bool") :
    readInput br (inputForParameter br p) = .ok (.scalar (.bool p.value.truthy)) := by
  simp [inputForParameter, readInput, h]

theorem readInput_integer (h : p.type = "integer") :
    readInput br (inputForParameter br p) =
      (readInteger br (p.value.orZero.toText br)).map fun n => .scalar (.number n) := by
  simp [inputForParameter, readInput, h]

theorem readInput_double (h : p.type = "double") :
    readInput br (inputForParameter br p) =
      (readNumber br (p.value.orZero.toText br)).map fun n => .scalar (.number n) := by
  simp [inputForParameter, readInput, h]

theorem readInput_array {elems : List JsScalar} (h : p.type ∈ arrayTypes) (hv : p.value = .array elems) :
    readInput br (inputForParameter br p) =
      readItems br p.type (Fields.items ',' isJsSpace
        (Fields.join ',' [' '] (elems.map (JsScalar.joined br)))) := by
  have hne : p.type ≠ "bool" ∧ p.type ≠ "integer" ∧ p.type ≠ "double" := by
    refine ⟨?_, ?_, ?_⟩ <;> exact fun e => absurd (e ▸ h) (by decide)
  simp [inputForParameter, readInput, h, hne, hv]

theorem readInput_other (h : p.type ∉ ["bool", "integer", "double"]) (ha : p.type ∉ arrayTypes) :
    readInput br (inputForParameter br p) = .ok (.scalar (.string (p.value.orEmpty br))) := by
  obtain ⟨h1, h⟩ := not_or.mp (mt List.mem_cons.mpr h)
  obtain ⟨h2, h⟩ := not_or.mp (mt List.mem_cons.mpr h)
  have h3 : p.type ≠ "double" := fun e => h (List.mem_singleton.mpr e)
  have hs : "string" ∉ arrayTypes := by decide
  simp [inputForParameter, readInput, h1, h2, h3, ha, hs]

end

/-! ## arrays -/

section
variable {br : Browser}

theorem receive_array {A : Type} {f : A → Json} {g : A → JsScalar}
    (h : ∀ a, receiveScalar br (f a) = some (g a)) (l : List A) :
    receiveValue br (.array (l.map f)) = some (.array (l.map g)) := by
  have hall : (l.map f).mapM (receiveScalar br) = some (l.map g) := by
    induction l with
    | nil => rfl
    | cons a l ih =>
      rw [List.map_cons, List.mapM_cons, h, ih]
      rfl
  rw [receiveValue, hall]
  rfl

theorem receive_strings {a : List Bytes} {value : JsValue}
    (h : receiveValue br (.array (a.map .string)) = some value) :
    ∃ ts, List.Forall₂ (fun s t => decodeText s = some t) a ts ∧
      value = .array ((ts.map String.toList).map .string) := by
  obtain ⟨elems, he, rfl⟩ := Option.map_eq_some_iff.mp h
  clear h
  suffices hall : ∃ ts, List.Forall₂ (fun s t => decodeText s = some t) a ts ∧
      elems = (ts.map String.toList).map .string by
    obtain ⟨ts, hts, rfl⟩ := hall
    exact ⟨ts, hts, rfl⟩
  induction a generalizing elems with
  | nil =>
    cases he
    exact ⟨[], .nil, rfl⟩
  | cons s a ih =>
    rw [List.map_cons, List.mapM_cons] at he
    obtain ⟨b, hb, he⟩ := Option.bind_eq_some_iff.mp he
    obtain ⟨bs, hbs, he⟩ := Option.bind_eq_some_iff.mp he
    cases he
    obtain ⟨t, ht, rfl⟩ := Option.map_eq_some_iff.mp hb
    obtain ⟨ts, hts, rfl⟩ := ih _ hbs
    exact ⟨t :: ts, .cons ht hts, rfl⟩

/-- the numbers of an array are read from their texts -/
theorem mapM_reread {f : List Char → Except String Float} {ns : List Float}
    (h : ∀ n ∈ ns, ∃ m, f (br.string n) = .ok m ∧ Reread br n m) :
    ∃ ms, (ns.map br.string).mapM f = .ok ms ∧
      (ms.map JsScalar.number).map (JsScalar.stringify br) = ns.map br.string := by
  induction ns with
  | nil => exact ⟨[], rfl, rfl⟩
  | cons n ns ih =>
    obtain ⟨m, hm, hfin, htext⟩ := h n List.mem_cons_self
    obtain ⟨ms, hms, htexts⟩ := ih fun k hk => h k (List.mem_cons_of_mem _ hk)
    refine ⟨m :: ms, ?_, ?_⟩
    · rw [List.map_cons, List.mapM_cons, hm, hms]
      rfl
    · rw [List.map_cons, List.map_cons, List.map_cons, htexts, JsScalar.stringify, if_pos hfin, htext]

theorem comma_blank : (∀ c ∈ [' '], isJsSpace c = true) ∧ ',' ∉ [' '] := by
  refine ⟨fun c hc => ?_, by decide⟩
  rw [List.mem_singleton.mp hc]
  rfl

/-- the texts of finite numbers come back from a field -/
theorem items_numbers (hbr : br.Standard) {ns : List Float} (h : ∀ n ∈ ns, n.isFinite = true) :
    Fields.items ',' isJsSpace (Fields.join ',' [' '] (ns.map br.string)) = ns.map br.string :=
  (Fields.items_join_iff comma_blank.1 comma_blank.2).mpr
    (List.forall_mem_map.mpr fun n hn => clean_string hbr (h n hn))

theorem joined_numbers (ns : List Float) :
    (ns.map JsScalar.number).map (JsScalar.joined br) = ns.map br.string := List.map_map

theorem stringify_numbers {ns : List Float} (h : ∀ n ∈ ns, n.isFinite = true) :
    (ns.map JsScalar.number).map (JsScalar.stringify br) = ns.map br.string := by
  rw [List.map_map]
  exact List.map_congr_left fun n hn => if_pos (h n hn)

variable {p : Param}

theorem readInput_integerArray (hbr : br.Standard) {a : List Int64} (ht : p.type = "integer_array")
    (hv : p.value = .array (a.map fun i => .number (br.parseInteger i.toInt))) :
    ∃ w, readInput br (inputForParameter br p) = .ok w ∧ w.stringify br = p.value.stringify br := by
  have hns : ∀ n ∈ a.map fun i : Int64 => br.parseInteger i.toInt, isInteger n = true :=
    List.forall_mem_map.mpr fun i _ => hbr.integer i
  have hv : p.value = .array ((a.map fun i : Int64 => br.parseInteger i.toInt).map .number) := by
    rw [hv, List.map_map]
    rfl
  generalize a.map (fun i : Int64 => br.parseInteger i.toInt) = ns at hns hv
  have hfin : ∀ n ∈ ns, n.isFinite = true := fun n hn => finite_of_isInteger (hns n hn)
  obtain ⟨ms, hms, htexts⟩ := mapM_reread fun n hn => readInteger_string hbr (hns n hn)
  refine ⟨.array (ms.map .number), ?_, ?_⟩
  · rw [readInput_array (by rw [ht]; decide) hv, joined_numbers, items_numbers hbr hfin, readItems, ht,
      if_neg (by decide), if_pos rfl, hms]
    rfl
  · rw [hv, JsValue.stringify, JsValue.stringify, htexts, stringify_numbers hfin]

/-- no text of finite numbers has an `n` -/
theorem not_mem_numbers (hbr : br.Standard) {ns : List Float} (h : ∀ n ∈ ns, n.isFinite = true) :
    'n' ∉ Fields.join ',' [] (ns.map br.string) := by
  intro hn
  rcases Fields.mem_join hn with hsep | hpad | ⟨t, ht, hc⟩
  · exact absurd hsep (by decide)
  · cases hpad
  · obtain ⟨n, hmem, rfl⟩ := List.mem_map.mp ht
    exact absurd ((hbr.numeral n (h n hmem)).2 _ hc) (by decide)

/-- an element of a double array as it arrives -/
def received (d : Float) : JsScalar := if d.isFinite then .number d else .null

theorem items_received (hbr : br.Standard) (a : List Float) :
    Fields.items ',' isJsSpace (Fields.join ',' [' '] ((a.map received).map (JsScalar.joined br))) =
      (a.filter Float.isFinite).map br.string := by
  rw [Fields.items_join comma_blank.1 comma_blank.2]
  · induction a with
    | nil => rfl
    | cons d a ih =>
      rw [List.map_cons, List.map_cons, List.filter_cons, List.filter_cons, ih, received]
      cases hd : d.isFinite with
      | true =>
        have hne : JsScalar.joined br (.number d) ≠ [] := (hbr.numeral d hd).1
        rw [if_pos rfl, if_pos (decide_eq_true hne), if_pos rfl]
        rfl
      | false => rfl
  · intro t ht
    rw [List.map_map] at ht
    obtain ⟨d, -, rfl⟩ := List.mem_map.mp ht
    rw [Function.comp_apply, received]
    cases hd : d.isFinite with
    | true => exact ⟨(clean_string hbr hd).no_sep, (clean_string hbr hd).trimmed⟩
    | false => exact ⟨List.not_mem_nil, rfl⟩

theorem readInput_doubleArray (hbr : br.Standard) {a : List Float} (ht : p.type = "double_array")
    (hv : p.value = .array (a.map received)) :
    ∃ w, readInput br (inputForParameter br p) = .ok w ∧
      (w.stringify br = p.value.stringify br ↔ ∀ d ∈ a, d.isFinite = true) := by
  have hfin : ∀ n ∈ a.filter Float.isFinite, n.isFinite = true := fun n hn => (List.mem_filter.mp hn).2
  obtain ⟨ms, hms, htexts⟩ := mapM_reread fun n hn => readNumber_string hbr (hfin n hn)
  refine ⟨.array (ms.map .number), ?_, ?_⟩
  · rw [readInput_array (by rw [ht]; decide) hv, items_received hbr, readItems, ht, if_neg (by decide),
      if_neg (by decide), if_pos rfl, hms]
    rfl
  · rw [hv, JsValue.stringify, JsValue.stringify, htexts]
    constructor
    · intro heq d hd
      by_contra hinf
      have hnull : (received d).stringify br = "null".toList := by rw [received, if_neg hinf]; rfl
      have hmem : 'n' ∈ Fields.join ',' [] ((a.map received).map (JsScalar.stringify br)) := by
        apply Fields.subset_join (List.mem_map_of_mem (List.mem_map_of_mem hd))
        rw [hnull]
        decide
      rw [← List.append_cancel_right (List.cons.inj heq).2] at hmem
      exact not_mem_numbers hbr hfin hmem
    · intro hall
      have hreceived : a.map received = a.map .number :=
        List.map_congr_left fun d hd => if_pos (hall d hd)
      rw [hreceived, stringify_numbers hall, List.filter_eq_self.mpr hall]

theorem readInput_stringArray {texts : List (List Char)} (ht : p.type = "string_array")
    (hv : p.value = .array (texts.map .string)) :
    ∃ w, readInput br (inputForParameter br p) = .ok w ∧
      (w.stringify br = p.value.stringify br ↔ ∀ t ∈ texts, Fields.Clean ',' isJsSpace t) := by
  have hjoined : (texts.map JsScalar.string).map (JsScalar.joined br) = texts :=
    List.map_map.trans (List.map_id texts)
  refine ⟨.array ((Fields.items ',' isJsSpace (Fields.join ',' [' '] texts)).map .string), ?_, ?_⟩
  · rw [readInput_array (by rw [ht]; decide) hv, hjoined, readItems, ht, if_neg (by decide),
      if_neg (by decide), if_neg (by decide)]
  · rw [hv, ← Fields.items_join_iff comma_blank.1 comma_blank.2]
    exact ⟨stringify_strings_inj, fun h => by rw [h]⟩

theorem readBool_text (b : Bool) : readBool ((JsScalar.bool b).joined br) = .ok b := by
  cases b <;> rfl

theorem clean_bool (b : Bool) : Fields.Clean ',' isJsSpace ((JsScalar.bool b).joined br) := by
  cases b with
  | true => exact ⟨nofun, show ',' ∉ "true".toList by decide, rfl⟩
  | false => exact ⟨nofun, show ',' ∉ "false".toList by decide, rfl⟩

theorem readInput_boolArray {a : List Bool} (ht : p.type = "bool_array")
    (hv : p.value = .array (a.map .bool)) :
    readInput br (inputForParameter br p) = .ok p.value := by
  have hitems : Fields.items ',' isJsSpace
      (Fields.join ',' [' '] ((a.map JsScalar.bool).map (JsScalar.joined br))) =
        (a.map JsScalar.bool).map (JsScalar.joined br) := by
    rw [Fields.items_join_iff comma_blank.1 comma_blank.2, List.map_map, List.forall_mem_map]
    exact fun b _ => clean_bool b
  have hread : ((a.map JsScalar.bool).map (JsScalar.joined br)).mapM readBool = .ok a := by
    clear hv hitems
    induction a with
    | nil => rfl
    | cons b a ih =>
      rw [List.map_cons, List.map_cons, List.mapM_cons, readBool_text, ih]
      rfl
  rw [readInput_array (by rw [ht]; decide) hv, hitems, readItems, ht, if_pos rfl, hread, hv]
  rfl

end

/-! ## every type -/

section
variable {br : Browser} {p : Param}

theorem readInput_integerField (hbr : br.Standard) {i : Int64} (ht : p.type = "integer")
    (hv : p.value = .scalar (.number (br.parseInteger i.toInt))) :
    ∃ w, readInput br (inputForParameter br p) = .ok w ∧ w.stringify br = p.value.stringify br := by
  obtain ⟨m, hm, hread⟩ := readInteger_string hbr (hbr.integer i)
  refine ⟨.scalar (.number m), ?_, ?_⟩
  · rw [readInput_integer ht, hv]
    exact congrArg (Except.map _) hm
  · rw [hv]
    exact hread.stringify (finite_of_isInteger (hbr.integer i))

/-- no finite number has the text `null` -/
theorem string_ne_null (hbr : br.Standard) {n : Float} (hn : n.isFinite = true) :
    br.string n ≠ "null".toList := by
  intro e
  have hnumeral := (hbr.numeral n hn).2 'n'
  rw [e] at hnumeral
  exact absurd (hnumeral (by decide)) (by decide)

theorem readInput_doubleField (hbr : br.Standard) {d : Float} (ht : p.type = "double")
    (hv : p.value = .scalar (received d)) :
    ∃ w, readInput br (inputForParameter br p) = .ok w ∧
      (w.stringify br = p.value.stringify br ↔ d.isFinite = true) := by
  cases hd : d.isFinite with
  | true =>
    rw [received, if_pos hd] at hv
    obtain ⟨m, hm, hread⟩ := readNumber_string hbr hd
    refine ⟨.scalar (.number m), ?_, iff_of_true ?_ rfl⟩
    · rw [readInput_double ht, hv]
      exact congrArg (Except.map _) hm
    · rw [hv]
      exact hread.stringify hd
  | false =>
    -- the field of a `null` starts with the text of a zero
    have hzero : (0.0 : Float).isFinite = true := by decide +kernel
    rw [received, if_neg (ne_true_of_eq_false hd)] at hv
    obtain ⟨m, hm, hread⟩ := readNumber_string hbr hzero
    refine ⟨.scalar (.number m), ?_, iff_of_false ?_ Bool.noConfusion⟩
    · rw [readInput_double ht, hv]
      exact congrArg (Except.map _) hm
    · rw [hv]
      intro heq
      have htext : br.string m = "null".toList := (if_pos hread.1).symm.trans heq
      exact string_ne_null hbr hread.1 htext

/-- a field of plain text is read as a string, and equals the original where that was one -/
theorem readInput_plainField (br : Browser) (h : p.type ∉ ["bool", "integer", "double"])
    (ha : p.type ∉ arrayTypes) :
    ∃ w, readInput br (inputForParameter br p) = .ok w ∧
      ((∃ t, p.value = .scalar (.string t)) → w.stringify br = p.value.stringify br) ∧
      ((p.value.stringify br).head? ≠ some quotation → w.stringify br ≠ p.value.stringify br) := by
  refine ⟨_, readInput_other h ha, ?_, ?_⟩
  · rintro ⟨t, hv⟩
    rw [hv]
    rfl
  · intro hhead heq
    rw [← heq] at hhead
    exact hhead rfl

/-- the texts of an array, by way of the bytes they are decoded from -/
theorem forall_decoded {P : List Char → Prop} {a : List Bytes} {ts : List String}
    (h : List.Forall₂ (fun s t => decodeText s = some t) a ts) :
    (∀ t ∈ ts, P t.toList) ↔ ∀ s ∈ a, ∀ t, decodeText s = some t → P t.toList := by
  induction h with
  | nil => exact iff_of_true nofun nofun
  | @cons s t a ts hst _ ih =>
    rw [List.forall_mem_cons, List.forall_mem_cons, ih]
    refine and_congr_left fun _ => ⟨fun ht t' ht' => ?_, fun hall => hall t hst⟩
    rwa [Option.some.inj (ht'.symm.trans hst)]

/-- Without an edit a field can be read, and what is read has the text of the original exactly for the values
that survive. -/
theorem readInput_iff (hbr : br.Standard) {value : ParameterValue} (h : Served br value p) :
    ∃ w, readInput br (inputForParameter br p) = .ok w ∧
      (w.stringify br = p.value.stringify br ↔ Survives value) := by
  obtain ⟨ht, hv⟩ := h.spec
  cases value with
  | notSet =>
    have ht : p.type = "not_set" := ht
    have hv : p.value = .scalar .null := (Option.some.inj hv).symm
    have hhead : (p.value.stringify br).head? ≠ some quotation := by
      rw [hv]
      exact fun e => absurd (Option.some.inj e) (by decide)
    obtain ⟨w, hw, -, hne⟩ := readInput_plainField br (by rw [ht]; decide) (by rw [ht]; decide)
    exact ⟨w, hw, iff_of_false (hne hhead) id⟩
  | bool b =>
    have hv : p.value = .scalar (.bool b) := (Option.some.inj hv).symm
    refine ⟨_, readInput_bool ht, iff_of_true ?_ trivial⟩
    rw [hv]
    rfl
  | integer i =>
    obtain ⟨w, hw, htext⟩ := readInput_integerField hbr ht (Option.some.inj hv).symm
    exact ⟨w, hw, iff_of_true htext trivial⟩
  | double d => exact readInput_doubleField hbr ht (Option.some.inj hv).symm
  | string s =>
    have ht : p.type = "string" := ht
    obtain ⟨v, hs, hv⟩ := Option.map_eq_some_iff.mp hv
    obtain ⟨t, -, rfl⟩ := Option.map_eq_some_iff.mp hs
    obtain ⟨w, hw, htext, -⟩ := readInput_plainField br (by rw [ht]; decide) (by rw [ht]; decide)
    exact ⟨w, hw, iff_of_true (htext ⟨_, hv.symm⟩) trivial⟩
  | byteArray a =>
    have ht : p.type = "byte_array" := ht
    rw [ParameterValue.toJson, receive_array fun b => rfl] at hv
    have hhead : (p.value.stringify br).head? ≠ some quotation := by
      rw [← Option.some.inj hv]
      exact fun e => absurd (Option.some.inj e) (by decide)
    obtain ⟨w, hw, -, hne⟩ := readInput_plainField br (by rw [ht]; decide) (by rw [ht]; decide)
    exact ⟨w, hw, iff_of_false (hne hhead) id⟩
  | boolArray a =>
    rw [ParameterValue.toJson, receive_array fun b => rfl] at hv
    exact ⟨p.value, readInput_boolArray ht (Option.some.inj hv).symm, iff_of_true rfl trivial⟩
  | integerArray a =>
    rw [ParameterValue.toJson, receive_array fun i => rfl] at hv
    obtain ⟨w, hw, htext⟩ := readInput_integerArray hbr ht (Option.some.inj hv).symm
    exact ⟨w, hw, iff_of_true htext trivial⟩
  | doubleArray a =>
    rw [ParameterValue.toJson, receive_array fun d => rfl] at hv
    exact readInput_doubleArray hbr ht (Option.some.inj hv).symm
  | stringArray a =>
    obtain ⟨ts, hts, hvalue⟩ := receive_strings hv
    obtain ⟨w, hw, hiff⟩ := readInput_stringArray ht hvalue
    refine ⟨w, hw, hiff.trans ?_⟩
    rw [List.forall_mem_map]
    exact forall_decoded hts

/-! ## the card -/

/-- the field can be read and compares equal to the original -/
def Unchanged (br : Browser) (p : Param) : Prop :=
  ∃ w, readInput br (renderInput br p).field = .ok w ∧ w.stringify br = (renderInput br p).original

theorem mem_assign (changed : List (String × JsValue)) (name : String) (w : JsValue) (key : String) :
    key ∈ (assign changed name w).map Prod.fst ↔ key ∈ changed.map Prod.fst ∨ name = key := by
  unfold assign
  split
  · rename_i hmem
    have hkeys : (changed.map fun e => if e.1 = name then (name, w) else e).map Prod.fst =
        changed.map Prod.fst := by
      rw [List.map_map]
      refine List.map_congr_left fun e _ => ?_
      by_cases he : e.1 = name
      · rw [Function.comp_apply, if_pos he, he]
      · rw [Function.comp_apply, if_neg he]
    rw [hkeys]
    exact ⟨.inl, fun h => h.elim id fun e => e ▸ hmem⟩
  · simp [@eq_comm _ name]

/-- one field of the card -/
theorem collectOne_served (hbr : br.Standard) {value : ParameterValue} (h : Served br value p)
    (changed : List (String × JsValue)) :
    ∃ next, collectOne br changed (renderInput br p) = .ok next ∧
      ∀ key, key ∈ next.map Prod.fst ↔
        key ∈ changed.map Prod.fst ∨ p.name = key ∧ p.readOnly = false ∧ ¬ Survives value := by
  obtain ⟨w, hw, hiff⟩ := readInput_iff hbr h
  have hread : readInput br (renderInput br p).field = .ok w := hw
  unfold collectOne
  rw [hread]
  cases hro : p.readOnly with
  | true =>
    refine ⟨changed, if_pos hro, fun key => ?_⟩
    simp
  | false =>
    rw [if_neg (show ¬ (renderInput br p).disabled = true from ne_true_of_eq_false hro)]
    by_cases heq : w.stringify br = p.value.stringify br
    · refine ⟨changed, if_neg (not_not_intro heq), fun key => ?_⟩
      simp [hiff.mp heq]
    · refine ⟨assign changed p.name w, if_pos heq, fun key => ?_⟩
      rw [mem_assign]
      simp [mt hiff.mpr heq]

theorem collectChanged_served (hbr : br.Standard) {served : List (ParameterValue × Param)}
    (h : ∀ x ∈ served, Served br x.1 x.2) (changed : List (String × JsValue)) :
    ∃ next, (served.map fun x => renderInput br x.2).foldlM (collectOne br) changed = .ok next ∧
      ∀ key, key ∈ next.map Prod.fst ↔ key ∈ changed.map Prod.fst ∨
        ∃ x ∈ served, x.2.name = key ∧ x.2.readOnly = false ∧ ¬ Survives x.1 := by
  induction served generalizing changed with
  | nil => exact ⟨changed, rfl, fun key => by simp⟩
  | cons x served ih =>
    obtain ⟨next, hnext, hkeys⟩ := collectOne_served hbr (h x List.mem_cons_self) changed
    obtain ⟨last, hlast, hall⟩ := ih (fun y hy => h y (List.mem_cons_of_mem _ hy)) next
    refine ⟨last, ?_, fun key => ?_⟩
    · rw [List.map_cons, List.foldlM_cons, hnext]
      exact hlast
    · rw [hall, hkeys, or_assoc]
      simp only [List.mem_cons, exists_eq_or_imp]

end

/-- **A page without an edit.**  A field compares equal to its original exactly for the values that survive,
and `collectChanged` finds the parameters with the other values, unless they are read-only. -/
theorem unedited_iff (br : Browser) (hbr : br.Standard) (served : List (ParameterValue × Param))
    (h : ∀ x ∈ served, Served br x.1 x.2) :
    (∀ x ∈ served, Unchanged br x.2 ↔ Survives x.1) ∧
      ∃ changed, collectChanged br (served.map fun x => renderInput br x.2) = .ok changed ∧
        ∀ key, key ∈ changed.map Prod.fst ↔
          ∃ x ∈ served, x.2.name = key ∧ x.2.readOnly = false ∧ ¬ Survives x.1 := by
  constructor
  · intro x hx
    obtain ⟨w, hw, hiff⟩ := readInput_iff hbr (h x hx)
    rw [← hiff]
    refine ⟨?_, fun heq => ⟨w, hw, heq⟩⟩
    rintro ⟨w', hw', heq⟩
    rwa [Except.ok.inj (hw.symm.trans hw')]
  · obtain ⟨changed, hchanged, hkeys⟩ := collectChanged_served hbr h []
    exact ⟨changed, hchanged, fun key => (hkeys key).trans (or_iff_right List.not_mem_nil)⟩

/-! ## a browser -/

instance decidableValid (bits : BitVec Float.Model.Format.binary64.numBits) :
    Decidable (Float.Model.Format.binary64.Valid bits) :=
  decidable_of_iff _ ⟨fun h => ⟨h⟩, fun h => h.eq_packedNaN⟩

/-- the double with this bit pattern -/
def ofPattern (n : Nat) : Float :=
  if h : Float.Model.Format.binary64.Valid (UInt64.ofNat n).toBitVec then
    { toModel := { toBits := UInt64.ofNat n, valid := h } }
  else 0.0

theorem ofPattern_toBits (x : Float) : ofPattern x.toModel.toBits.toNat = x := by
  obtain ⟨⟨bits, hvalid⟩⟩ := x
  have hbits : UInt64.ofNat bits.toNat = bits := UInt64.ofNat_toNat
  unfold ofPattern
  simp only [hbits]
  exact dif_pos hvalid

/-- `0` and `5`; for any other number a text as long as its bit pattern -/
def sampleString (n : Float) : List Char :=
  if n = 0.0 ∨ n = -0.0 then ['0']
  else if n = 5.0 then ['5']
  else '1' :: 'e' :: List.replicate n.toModel.toBits.toNat '0'

def sampleNumber : List Char → Float
  | '1' :: 'e' :: zeros => ofPattern zeros.length
  | s => if s = ['5'] then 5.0 else 0.0

def sampleBrowser : Browser where
  string := sampleString
  number := sampleNumber
  parseInteger i := if i = 5 then 5.0 else 0.0

theorem sampleBrowser_standard : sampleBrowser.Standard := by
  have hinverse (n : Float) (hz : n ≠ -0.0) : sampleNumber (sampleString n) = n := by
    unfold sampleString
    split_ifs with h0 h5
    · rw [h0.resolve_right hz]
      rfl
    · rw [h5]
      rfl
    · show ofPattern (List.replicate n.toModel.toBits.toNat '0').length = n
      rw [List.length_replicate, ofPattern_toBits]
  have hnumeral (n : Float) : sampleString n ≠ [] ∧ ∀ c ∈ sampleString n, isNumeral c = true := by
    unfold sampleString
    split_ifs
    · exact ⟨List.cons_ne_nil _ _, List.forall_mem_singleton.mpr rfl⟩
    · exact ⟨List.cons_ne_nil _ _, List.forall_mem_singleton.mpr rfl⟩
    · refine ⟨List.cons_ne_nil _ _, ?_⟩
      rw [List.forall_mem_cons, List.forall_mem_cons]
      exact ⟨rfl, rfl, fun c hc => by rw [List.eq_of_mem_replicate hc]; rfl⟩
  have hinteger (i : Int) : isInteger (if i = 5 then 5.0 else 0.0) = true := by
    split_ifs
    · decide +kernel
    · decide +kernel
  have hzeros : sampleString (-0.0) = sampleString 0.0 := by
    rw [sampleString, sampleString, if_pos (.inr rfl), if_pos (.inl rfl)]
  exact ⟨fun n _ hz => hinverse n hz, hzeros, fun n _ => hnumeral n, fun i => hinteger i.toInt⟩

/-- a row of each kind of scalar, one of them read-only -/
theorem unedited_iff_three :
    let served : List (ParameterValue × Param) :=
      [(.integer 5, ⟨"cluster_min_size", "integer", .scalar (.number 5.0), false⟩),
       (.string (lit "map"), ⟨"frame", "string", .scalar (.string "map".toList), false⟩),
       (.double (1.0 / 0.0), ⟨"roi_max_x", "double", .scalar .null, true⟩)]
    (∀ x ∈ served, Unchanged sampleBrowser x.2 ↔ Survives x.1) ∧
      ∃ changed, collectChanged sampleBrowser (served.map fun x => renderInput sampleBrowser x.2) =
          .ok changed ∧
        ∀ key, key ∈ changed.map Prod.fst ↔
          ∃ x ∈ served, x.2.name = key ∧ x.2.readOnly = false ∧ ¬ Survives x.1 := by
  apply unedited_iff sampleBrowser sampleBrowser_standard _
  rw [List.forall_mem_cons, List.forall_mem_cons, List.forall_mem_singleton]
  refine ⟨⟨"cluster_min_size", none, ?_⟩, ⟨"frame", none, ?_⟩, ⟨"roi_max_x", some ⟨[], [], true⟩, ?_⟩⟩
  · decide +kernel
  · decide +kernel
  · decide +kernel

/-- One element with a comma: without an edit the page finds a change, and posts two elements. -/
theorem unedited_comma :
    Served sampleBrowser (.stringArray [lit "a,b"])
        ⟨"tags", "string_array", .array [.string "a,b".toList], false⟩ ∧
      collectChanged sampleBrowser
          [renderInput sampleBrowser ⟨"tags", "string_array", .array [.string "a,b".toList], false⟩] =
        .ok [("tags", .array [.string "a".toList, .string "b".toList])] := by
  refine ⟨⟨"tags", none, ?_⟩, ?_⟩
  · decide +kernel
  · rfl

end VD
