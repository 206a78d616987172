import VehicleDetection.Bridge.Joint

/-!
# Undeclared names in `POST /api/parameters`

A target describes the parameters of a request, one descriptor a name, or gives no descriptor at all when
it does not declare one of them.  The handler takes a missing descriptor for an undeclared name.

* `convertParameter_undeclared`  no conversion fails with the text for an undeclared name;
* `mem_rejected_undeclared`      the names that are rejected with this text;
* `describeNames`                the descriptors that a target answers with, the detector for one;
* `undeclared_iff`               when the names rejected so are the undeclared ones, and what an undeclared
  name that is added does to the others.
-/

set_option linter.unusedVariables false

namespace VD
open BStr

/-- the reason given for a name without a descriptor -/
def undeclared : Bytes := lit "parameter is not declared on the target node"

/-! ## conversions that fail -/

section
variable {dump : Json → Bytes}

/-- what a failed conversion says starts with the `c` of `cannot` -/
def Complains {A : Type} (convert : Json → Except Bytes A) : Prop :=
  ∀ value what, convert value = .error what → what.head? = some 99

theorem conversionError_head (value : Json) (targetType : String) :
    (conversionError dump value targetType).head? = some 99 := by
  have hlit : (lit "cannot convert JSON value '").head? = some 99 := by decide
  rw [conversionError, List.append_assoc, List.append_assoc, List.append_assoc, List.head?_append, hlit]
  rfl

theorem complains_double : Complains (jsonToDouble dump) := by
  intro value what h
  unfold jsonToDouble at h
  split at h
  · cases h
  · split at h
    · cases h
    · cases h
      exact conversionError_head _ _

theorem complains_int : Complains (jsonToInt dump) := by
  intro value what h
  have he : what = conversionError dump value "integer" := by
    unfold jsonToInt at h
    split at h
    · split at h <;> cases h
      rfl
    · cases h
    · split at h
      · cases h
        rfl
      · split at h <;> cases h
        rfl
    · cases h
    · cases h
      rfl
  rw [he]
  exact conversionError_head _ _

theorem complains_bool : Complains (jsonToBool dump) := by
  intro value what h
  have he : what = conversionError dump value "bool" := by
    unfold jsonToBool at h
    split at h
    · cases h
    · split at h
      · cases h
      · split at h <;> cases h
        rfl
    · split at h <;> cases h
      rfl
  rw [he]
  exact conversionError_head _ _

theorem complains_string : Complains (jsonToString dump) := by
  intro value what h
  unfold jsonToString at h
  split at h <;> cases h
  exact conversionError_head _ _

theorem complains_array {A : Type} {convert : Json → Except Bytes A} (hc : Complains convert)
    (targetType : String) : Complains (jsonToArray dump convert targetType) := by
  intro value what h
  unfold jsonToArray at h
  split at h
  · rename_i elems
    induction elems with
    | nil => cases h
    | cons v elems ih =>
      rw [List.mapM_cons] at h
      cases hv : convert v with
      | error e =>
        rw [hv] at h
        cases h
        exact hc v _ hv
      | ok a =>
        cases hrest : elems.mapM convert with
        | error e =>
          rw [hv, hrest] at h
          cases h
          exact ih hrest
        | ok as =>
          rw [hv, hrest] at h
          cases h
  · cases h
    exact conversionError_head _ _

theorem Complains.map {A B : Type} {convert : Json → Except Bytes A} (hc : Complains convert) (f : A → B)
    {value : Json} {what : Bytes} (h : (convert value).map f = .error what) : what.head? = some 99 := by
  cases hv : convert value with
  | error e =>
    rw [hv] at h
    cases h
    exact hc _ _ hv
  | ok a =>
    rw [hv] at h
    cases h

theorem jsonToParameterValue_ne_undeclared (value : Json) (type : UInt8) :
    jsonToParameterValue dump value type ≠ .error undeclared := by
  intro h
  have hundeclared : undeclared.head? ≠ some 99 := by decide
  unfold jsonToParameterValue at h
  split at h
  · exact hundeclared (complains_bool.map _ h)
  · exact hundeclared (complains_int.map _ h)
  · exact hundeclared (complains_double.map _ h)
  · exact hundeclared (complains_string.map _ h)
  · exact hundeclared ((complains_array complains_bool _).map _ h)
  · exact hundeclared ((complains_array complains_int _).map _ h)
  · exact hundeclared ((complains_array complains_double _).map _ h)
  · exact hundeclared ((complains_array complains_string _).map _ h)
  · exact absurd (Except.error.inj h) (by decide)
  · exact absurd (Except.error.inj h) (by decide)
  · exact absurd (Except.error.inj h) (by decide)

/-- The text for an undeclared name has one cause. -/
theorem convertParameter_undeclared (dump : Json → Bytes) (descriptor : Option UInt8) (raw : Json) :
    convertParameter dump descriptor raw = .error undeclared ↔
      descriptor = none ∨ descriptor = some ParameterType.notSet.code := by
  cases descriptor with
  | none => exact iff_of_true rfl (.inl rfl)
  | some type =>
    by_cases ht : type = ParameterType.notSet.code
    · rw [convertParameter, if_pos ht, ht]
      exact iff_of_true rfl (.inr rfl)
    · rw [convertParameter, if_neg ht]
      exact iff_of_false (jsonToParameterValue_ne_undeclared raw type) (by simpa using ht)

end

/-! ## the names that are rejected -/

section
variable (dump : Json → Bytes) (descriptors : List UInt8)

/-- the entry for an item whose value does not convert -/
def rejectedItem (item : (String × Json) × Nat) : Option (String × Bytes) :=
  match convertParameter dump descriptors[item.2]? item.1.2 with
  | .ok _ => none
  | .error what => some (item.1.1, what)

theorem foldl_rejectedItem (items : List ((String × Json) × Nat)) (acc : Tally × List Parameter) :
    (items.foldl (convertOne dump descriptors) acc).1.rejected =
      acc.1.rejected ++ items.filterMap (rejectedItem dump descriptors) := by
  induction items generalizing acc with
  | nil => exact (List.append_nil _).symm
  | cons item items ih =>
    rw [List.foldl_cons, ih, convertOne, List.filterMap_cons, rejectedItem]
    cases convertParameter dump descriptors[item.2]? item.1.2 with
    | ok value => rfl
    | error what => simp [Tally.reject]

theorem foldl_addResult_rejected (answers : List (Parameter × SetParametersResult)) (name : String)
    (t : Tally) :
    (name, undeclared) ∈ (answers.foldl addResult t).rejected ↔ (name, undeclared) ∈ t.rejected ∨
      ∃ x ∈ answers, x.1.getName = name ∧ x.2.successful = false ∧ x.2.reason = undeclared := by
  have hother : lit "rejected by node" ≠ undeclared := by decide
  have hne : undeclared ≠ [] := by decide
  generalize undeclared = text at hother hne ⊢
  induction answers generalizing t with
  | nil => simp
  | cons x answers ih =>
    apply (ih (addResult t x)).trans
    rw [addResult]
    cases hs : x.2.successful with
    | true => simp [Tally.accept, hs]
    | false =>
      by_cases hr : x.2.reason = []
      · simp [Tally.reject, hs, hr, hother.symm, hne.symm]
      · simp [Tally.reject, hs, hr, or_assoc, @eq_comm _ name, @eq_comm _ text]

theorem foldl_addResult_updated (answers : List (Parameter × SetParametersResult)) (name : String)
    (t : Tally) :
    name ∈ (answers.foldl addResult t).updated ↔ name ∈ t.updated ∨
      ∃ x ∈ answers, x.1.getName = name ∧ x.2.successful = true := by
  induction answers generalizing t with
  | nil => simp
  | cons x answers ih =>
    apply (ih (addResult t x)).trans
    rw [addResult]
    cases hs : x.2.successful with
    | true => simp [Tally.accept, hs, or_assoc, @eq_comm _ name]
    | false => simp [Tally.reject, hs]

theorem rejectedItem_undeclared (item : (String × Json) × Nat) (name : String) :
    rejectedItem dump descriptors item = some (name, undeclared) ↔ item.1.1 = name ∧
      (descriptors[item.2]? = none ∨ descriptors[item.2]? = some ParameterType.notSet.code) := by
  rw [← convertParameter_undeclared dump _ item.1.2, rejectedItem]
  cases convertParameter dump descriptors[item.2]? item.1.2 with
  | ok value => simp
  | error what => simp

/-- A name is rejected with the text for an undeclared one where the target gives it no descriptor, or one
without a type, or refuses it with these words. -/
theorem mem_rejected_undeclared (params : SortedMap String Json) (results : List SetParametersResult)
    (name : String) :
    let toSet := settable dump descriptors params
    (name, undeclared) ∈ (addResults (convertAll dump descriptors params).1 toSet results).rejected ↔
      (∃ i : Nat, params.keys[i]? = some name ∧
        (descriptors[i]? = none ∨ descriptors[i]? = some ParameterType.notSet.code)) ∨
      ∃ x ∈ toSet.zip results, x.1.getName = name ∧ x.2.successful = false ∧ x.2.reason = undeclared := by
  intro toSet
  rw [addResults, foldl_addResult_rejected, convertAll, foldl_rejectedItem]
  refine or_congr ?_ Iff.rfl
  rw [List.nil_append, List.mem_filterMap]
  constructor
  · rintro ⟨⟨item, i⟩, hitem, he⟩
    obtain ⟨rfl, hdesc⟩ := (rejectedItem_undeclared dump descriptors _ name).mp he
    have hi : params.items[i]? = some item := List.mk_mem_zipIdx_iff_getElem?.mp hitem
    exact ⟨i, by rw [SortedMap.keys, List.getElem?_map, hi, Option.map_some], hdesc⟩
  · rintro ⟨i, hi, he⟩
    rw [SortedMap.keys, List.getElem?_map] at hi
    obtain ⟨item, hitem, rfl⟩ := Option.map_eq_some_iff.mp hi
    exact ⟨(item, i), List.mk_mem_zipIdx_iff_getElem?.mpr hitem,
      (rejectedItem_undeclared dump descriptors _ _).mpr ⟨rfl, he⟩⟩

end

/-! ## what a target describes -/

/-- `types name`: the type of the parameter, if the target declares it -/
def describeNames (types : String → Option ParameterType) (names : List String) : List UInt8 :=
  (names.mapM fun name => (types name).map ParameterType.code).getD []

section
variable {types : String → Option ParameterType} {names : List String}

theorem describeNames_of_undeclared {name : String} (hm : name ∈ names) (h : types name = none) :
    describeNames types names = [] := by
  have hnone : (names.mapM fun name => (types name).map ParameterType.code) = none := by
    induction names with
    | nil => cases hm
    | cons a names ih =>
      rw [List.mapM_cons]
      rcases List.mem_cons.mp hm with rfl | hm
      · rw [h]
        rfl
      · rw [ih hm]
        cases types a <;> rfl
  rw [describeNames, hnone]
  rfl

theorem describeNames_of_declared (h : ∀ name ∈ names, types name ≠ none) (i : Nat) :
    (describeNames types names)[i]? = names[i]?.bind fun name => (types name).map ParameterType.code := by
  have hsome : (names.mapM fun name => (types name).map ParameterType.code) =
      some (names.map fun name => ((types name).getD .notSet).code) := by
    induction names with
    | nil => rfl
    | cons a names ih =>
      obtain ⟨t, ht⟩ := Option.ne_none_iff_exists'.mp (h a List.mem_cons_self)
      rw [List.mapM_cons, ih fun name hm => h name (List.mem_cons_of_mem _ hm), List.map_cons, ht]
      rfl
  rw [describeNames, hsome, Option.getD_some, List.getElem?_map]
  cases hi : names[i]? with
  | none => rfl
  | some name =>
    obtain ⟨t, ht⟩ := Option.ne_none_iff_exists'.mp (h name (List.mem_of_getElem? hi))
    simp [ht]

end

/-! ## the answer to a request -/

/-- the target describes its parameters, at once -/
def Describes {σ : Type} (client : ParametersClient σ) (s : σ) (types : String → Option ParameterType) :
    Prop := ∀ names, client.describeParameters s names = .answered (describeNames types names)

/-- the request for these parameters is answered with a body -/
def Answered {σ : Type} (parse : Bytes → Except Bytes Json) (dump : Json → Bytes)
    (paramClients : Bytes → Option (ParametersClient σ)) (s : σ) (target : Bytes)
    (params : SortedMap String Json) (b : PostBody) : Prop :=
  ∃ body payload, parse body = .ok payload ∧ postShape payload = some (target, params) ∧
    (handlePostParameters parse dump paramClients body s).1 = .body b

/-- no name is declared, or every name is and has a type -/
def Unmixed (types : String → Option ParameterType) (names : List String) : Prop :=
  (∀ name ∈ names, types name = none) ∨ ∀ name ∈ names, ∃ t, types name = some t ∧ t ≠ .notSet

/-- the parameters that the target is asked to set, with its answers -/
def asked (dump : Json → Bytes) (types : String → Option ParameterType) (params : SortedMap String Json)
    (results : List SetParametersResult) : List (Parameter × SetParametersResult) :=
  (settable dump (describeNames types params.keys) params).zip results

/-- the detector is such a target -/
theorem detectorClient_describes (refusal : Parameter → Bytes) (node : VehicleDetectorNode.Node) :
    Describes (detectorClient refusal) node fun name => (node.params name).map ParameterValue.type := by
  intro names
  show ServiceAnswer.answered (describeParameters node names) = _
  simp only [describeParameters, describeNames, Option.map_map]
  rfl

section
variable {σ : Type} {parse : Bytes → Except Bytes Json} {dump : Json → Bytes}
  {paramClients : Bytes → Option (ParametersClient σ)} {s : σ} {target : Bytes}
  {params : SortedMap String Json} {client : ParametersClient σ}
  {types : String → Option ParameterType} {results : List SetParametersResult} {b : PostBody}

theorem Answered.body_eq (h : Answered parse dump paramClients s target params b)
    (hclient : paramClients target = some client) (hd : Describes client s types)
    (hr : settable dump (describeNames types params.keys) params ≠ [] →
      (client.setParameters s (settable dump (describeNames types params.keys) params)).1
        = .answered results) :
    params.keys ≠ [] ∧
      b = (addResults (convertAll dump (describeNames types params.keys) params).1
        (settable dump (describeNames types params.keys) params) results).body target := by
  obtain ⟨body, payload, hparse, hshape, h⟩ := h
  obtain ⟨hready, hne⟩ := ready_of_body hparse hshape hclient h
  rw [handlePostParameters_eq hparse hshape hclient hready hne] at h
  exact ⟨hne, postParameters_body (hd params.keys) hr h⟩

theorem settable_of_no_descriptor (dump : Json → Bytes) (params : SortedMap String Json) :
    settable dump [] params = [] :=
  List.filterMap_eq_nil_iff.mpr fun _ _ => rfl

/-- with an undeclared name in the request the target is not asked -/
theorem settable_of_undeclared (dump : Json → Bytes) {name : String} (hm : name ∈ params.keys)
    (h : types name = none) : settable dump (describeNames types params.keys) params = [] := by
  rw [describeNames_of_undeclared hm h, settable_of_no_descriptor]

/-- the names without a descriptor that has a type -/
theorem no_descriptor_iff (types : String → Option ParameterType) (names : List String) (name : String) :
    (∃ i : Nat, names[i]? = some name ∧ ((describeNames types names)[i]? = none ∨
        (describeNames types names)[i]? = some ParameterType.notSet.code)) ↔
      name ∈ names ∧ ((∃ n ∈ names, types n = none) ∨ types name = some .notSet) := by
  by_cases hmixed : ∃ n ∈ names, types n = none
  · obtain ⟨n, hn, hnone⟩ := hmixed
    rw [describeNames_of_undeclared hn hnone]
    constructor
    · rintro ⟨i, hi, -⟩
      exact ⟨List.mem_of_getElem? hi, .inl ⟨n, hn, hnone⟩⟩
    · rintro ⟨hm, -⟩
      obtain ⟨i, hi⟩ := List.mem_iff_getElem?.mp hm
      exact ⟨i, hi, .inl rfl⟩
  · have hall : ∀ n ∈ names, types n ≠ none := fun n hn hnone => hmixed ⟨n, hn, hnone⟩
    have hcode : ∀ t : ParameterType, t.code = ParameterType.notSet.code ↔ t = .notSet := by
      intro t
      cases t <;> decide
    rw [or_iff_right hmixed]
    constructor
    · rintro ⟨i, hi, hdesc⟩
      have hm := List.mem_of_getElem? hi
      obtain ⟨t, ht⟩ := Option.ne_none_iff_exists'.mp (hall name hm)
      rw [describeNames_of_declared hall, hi, Option.bind_some, ht] at hdesc
      refine ⟨hm, ?_⟩
      rw [ht, (hcode t).mp (by simpa using hdesc)]
    · rintro ⟨hm, ht⟩
      obtain ⟨i, hi⟩ := List.mem_iff_getElem?.mp hm
      refine ⟨i, hi, .inr ?_⟩
      rw [describeNames_of_declared hall, hi, Option.bind_some, ht]
      rfl

/-- The names rejected as undeclared are the undeclared ones exactly when the request does not mix declared
and undeclared names, and the target refuses none with these words. -/
theorem rejected_undeclared_iff :
    (∀ name, (name, undeclared) ∈ (addResults (convertAll dump (describeNames types params.keys) params).1
          (settable dump (describeNames types params.keys) params) results).rejected ↔
        name ∈ params.keys ∧ types name = none) ↔
      Unmixed types params.keys ∧
        ∀ x ∈ asked dump types params results, x.2.successful = false → x.2.reason ≠ undeclared := by
  have hkey (name : String) := (mem_rejected_undeclared dump (describeNames types params.keys) params results
    name).trans (or_congr_left (no_descriptor_iff types params.keys name))
  have hasked (hmixed : ∃ n ∈ params.keys, types n = none) : asked dump types params results = [] := by
    obtain ⟨n, hn, hnone⟩ := hmixed
    rw [asked, settable_of_undeclared dump hn hnone, List.zip_nil_left]
  constructor
  · intro hlaw
    refine ⟨?_, fun x hx hs hreason => ?_⟩
    · by_cases hmixed : ∃ n ∈ params.keys, types n = none
      · exact .inl fun name hm => ((hlaw name).mp ((hkey name).mpr (.inl ⟨hm, .inl hmixed⟩))).2
      · refine .inr fun name hm => ?_
        obtain ⟨t, ht⟩ := Option.ne_none_iff_exists'.mp fun hnone => hmixed ⟨name, hm, hnone⟩
        refine ⟨t, ht, ?_⟩
        rintro rfl
        exact hmixed ⟨name, hm, ((hlaw name).mp ((hkey name).mpr (.inl ⟨hm, .inr ht⟩))).2⟩
    · obtain ⟨hm, hnone⟩ := (hlaw _).mp ((hkey _).mpr (.inr ⟨x, hx, rfl, hs, hreason⟩))
      rw [hasked ⟨_, hm, hnone⟩] at hx
      cases hx
  · rintro ⟨hunmixed, hreason⟩ name
    rw [hkey, or_iff_left fun ⟨x, hx, _, hs, hr⟩ => hreason x hx hs hr]
    refine and_congr_right fun hm => ?_
    rcases hunmixed with hnone | hall
    · exact iff_of_true (.inl ⟨name, hm, hnone name hm⟩) (hnone name hm)
    · obtain ⟨t, ht, hset⟩ := hall name hm
      refine iff_of_false ?_ (by simp [ht])
      rintro (⟨n, hn, hnone⟩ | hnot)
      · obtain ⟨t', ht', -⟩ := hall n hn
        simp [hnone] at ht'
      · exact hset (Option.some.inj (ht.symm.trans hnot))

/-- an answer with a name that is updated belongs to a parameter that the target was asked to set -/
theorem mem_updated_iff (name : String) :
    name ∈ (addResults (convertAll dump (describeNames types params.keys) params).1
        (settable dump (describeNames types params.keys) params) results).updated ↔
      ∃ x ∈ asked dump types params results, x.1.getName = name ∧ x.2.successful = true := by
  obtain ⟨-, hupd, -, -⟩ := convertAll_spec dump (describeNames types params.keys) params
  rw [addResults, foldl_addResult_updated, hupd]
  simp [asked]

theorem updated_sub {name : String}
    (h : name ∈ (addResults (convertAll dump (describeNames types params.keys) params).1
        (settable dump (describeNames types params.keys) params) results).updated) :
    name ∈ params.keys := by
  obtain ⟨hperm, -, -⟩ := listed_perm dump (describeNames types params.keys) params results
  exact hperm.mem_iff.mp (List.mem_append_left _ (List.mem_append_left _ h))

/-- Of a request with an undeclared name nothing is updated. -/
theorem Answered.nothing_updated (h : Answered parse dump paramClients s target params b)
    (hclient : paramClients target = some client) (hd : Describes client s types) {name : String}
    (hm : name ∈ params.keys) (hnone : types name = none) : b.updated = [] := by
  have hset := settable_of_undeclared dump hm hnone
  have hans : settable dump (describeNames types params.keys) params ≠ [] →
      (client.setParameters s (settable dump (describeNames types params.keys) params)).1
        = .answered [] := fun hne => absurd hset hne
  obtain ⟨-, hb⟩ := h.body_eq hclient hd hans
  obtain ⟨-, hupd, -, -⟩ := convertAll_spec dump (describeNames types params.keys) params
  rw [hb, hset]
  exact hupd

end

/-- **The names rejected as undeclared**: they are the undeclared names exactly when the request does not mix
declared and undeclared names and the target refuses no parameter with these very words.  An undeclared
name that is added leaves the updates of the others as they were exactly when there were none. -/
theorem undeclared_iff {σ : Type} (parse : Bytes → Except Bytes Json) (dump : Json → Bytes)
    (paramClients : Bytes → Option (ParametersClient σ)) (s : σ) (target : Bytes)
    (params : SortedMap String Json) (client : ParametersClient σ)
    (types : String → Option ParameterType) (results : List SetParametersResult) (b : PostBody)
    (hclient : paramClients target = some client) (hd : Describes client s types)
    (hr : settable dump (describeNames types params.keys) params ≠ [] →
      (client.setParameters s (settable dump (describeNames types params.keys) params)).1
        = .answered results)
    (h : Answered parse dump paramClients s target params b) :
    ((∀ name, (name, undeclared) ∈ b.rejected ↔ name ∈ params.keys ∧ types name = none) ↔
      Unmixed types params.keys ∧
        ∀ x ∈ asked dump types params results, x.2.successful = false → x.2.reason ≠ undeclared) ∧
    ∀ extra value b', extra ∉ params.keys → types extra = none →
      Answered parse dump paramClients s target (params.put extra value) b' →
      ((∀ name, name ≠ extra → (name ∈ b'.updated ↔ name ∈ b.updated)) ↔
        ∀ x ∈ asked dump types params results, x.2.successful = false) := by
  obtain ⟨-, hb⟩ := h.body_eq hclient hd hr
  rw [hb]
  refine ⟨rejected_undeclared_iff, fun extra value b' hextra hnone h' => ?_⟩
  rw [h'.nothing_updated hclient hd (params.mem_keys_put extra value) hnone]
  constructor
  · intro hsame x hx
    by_contra hs
    have hup := (mem_updated_iff _).mpr ⟨x, hx, rfl, eq_true_of_ne_false hs⟩
    have hne : x.1.getName ≠ extra := fun e => hextra (e ▸ updated_sub hup)
    exact List.not_mem_nil ((hsame _ hne).mpr hup)
  · intro hfail name hne
    refine iff_of_false List.not_mem_nil fun hup => ?_
    obtain ⟨x, hx, -, hs⟩ := (mem_updated_iff _).mp hup
    rw [hfail x hx] at hs
    cases hs

/-- a target that declares some parameters and gives these results -/
def typedTarget (types : String → Option ParameterType) (results : List SetParametersResult) :
    ParametersClient Unit where
  ready _ := true
  describeParameters _ names := .answered (describeNames types names)
  setParameters s batch := (.answered results, s)

def someIntegers (declared : List String) (name : String) : Option ParameterType :=
  if name ∈ declared then some .integer else none

/-- Two declared parameters, one of them refused: neither is undeclared, and the next undeclared name takes an
update away. -/
theorem undeclared_iff_two :
    ((∀ name, (name, undeclared) ∈
          (⟨false, lit "/n", ["a"], [("b", lit "out of range")]⟩ : PostBody).rejected ↔
        name ∈ ["a", "b"] ∧ someIntegers ["a", "b"] name = none) ↔
      Unmixed (someIntegers ["a", "b"]) ["a", "b"] ∧
        ∀ x ∈ asked (fun _ => []) (someIntegers ["a", "b"]) (.ofList [("b", .unsigned 1), ("a", .unsigned 2)])
            [{}, ⟨false, lit "out of range"⟩],
          x.2.successful = false → x.2.reason ≠ undeclared) ∧
    ∀ extra value b', extra ∉ ["a", "b"] → someIntegers ["a", "b"] extra = none →
      Answered readJson (fun _ => [])
        (fun _ => some (typedTarget (someIntegers ["a", "b"]) [{}, ⟨false, lit "out of range"⟩])) () (lit "/n")
        ((SortedMap.ofList [("b", .unsigned 1), ("a", .unsigned 2)]).put extra value) b' →
      ((∀ name, name ≠ extra → (name ∈ b'.updated ↔ name ∈ ["a"])) ↔
        ∀ x ∈ asked (fun _ => []) (someIntegers ["a", "b"]) (.ofList [("b", .unsigned 1), ("a", .unsigned 2)])
          [{}, ⟨false, lit "out of range"⟩], x.2.successful = false) :=
  undeclared_iff readJson (fun _ => [])
    (fun _ => some (typedTarget (someIntegers ["a", "b"]) [{}, ⟨false, lit "out of range"⟩])) () (lit "/n")
    (.ofList [("b", .unsigned 1), ("a", .unsigned 2)])
    (typedTarget (someIntegers ["a", "b"]) [{}, ⟨false, lit "out of range"⟩]) (someIntegers ["a", "b"])
    [{}, ⟨false, lit "out of range"⟩] ⟨false, lit "/n", ["a"], [("b", lit "out of range")]⟩ rfl
    (fun _ => rfl) (fun _ => rfl) ⟨twoText, twoIntegers, twoText_read, rfl, by
      rw [handlePostParameters_eq twoText_read rfl rfl rfl (by decide)]; rfl⟩

def oneText : Bytes := lit "\x7b\"node\":\"/n\",\"parameters\":\x7b\"a\":2\x7d\x7d"

theorem oneText_read : readJson oneText =
    .ok (.object [("node", .string (lit "/n")), ("parameters", .object [("a", .unsigned 2)])]) :=
  request_read "/n" [(lit "a", .bare (lit "2"))] (by decide +kernel) (ofMembers_one "a" rfl)

/-- `a` is declared and `b` is not: both are rejected as undeclared, though `a` alone is updated. -/
theorem undeclared_spreads :
    (handlePostParameters readJson (fun _ => []) (fun _ => some (typedTarget (someIntegers ["a"]) [{}])) oneText
        ()).1 = .body ⟨true, lit "/n", ["a"], []⟩ ∧
      (handlePostParameters readJson (fun _ => []) (fun _ => some (typedTarget (someIntegers ["a"]) [{}])) twoText
        ()).1 = .body ⟨false, lit "/n", [], [("a", undeclared), ("b", undeclared)]⟩ ∧
      ¬ ∀ name, (name, undeclared) ∈
          (⟨false, lit "/n", [], [("a", undeclared), ("b", undeclared)]⟩ : PostBody).rejected ↔
        name ∈ ["a", "b"] ∧ someIntegers ["a"] name = none := by
  refine ⟨?_, ?_, fun h => ?_⟩
  · rw [handlePostParameters_eq oneText_read rfl rfl rfl (by decide)]
    rfl
  · rw [handlePostParameters_eq twoText_read rfl rfl rfl (by decide)]
    rfl
  · have ha := (h "a").mp List.mem_cons_self
    exact absurd ha.2 (by decide)

end VD
