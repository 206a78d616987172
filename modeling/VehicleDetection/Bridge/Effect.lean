import VehicleDetection.Bridge.Declared
import VehicleDetection.Bridge.Serial

/-!
# What a `POST` does to the nodes

* `setParameters_effect`  a node stores the parameters it answers with success, and no other;
* `postAsk_cases`         where the first phase of a request ends;
* `Applied`               the names of `updated` have the values of the request, the other names their own;
* `PostDone`, `post_done`  where a whole request ends;
* `post_effect`           the body of every answer says what the request has done.
-/

set_option linter.unusedVariables false

namespace VD
open BStr

/-! ## the parameters of a node -/

section
variable {σ : Type} (callback : σ → List Parameter → Except ParameterError (SetParametersResult × σ))
  (refusal : Parameter → Bytes)

theorem setParameter_effect (node : ParameterNode σ) (p : Parameter) :
    let r := setParameter callback refusal node p
    (r.1.successful = true → (node.params p.1).map ParameterValue.type = some p.2.type ∧
      r.2.params = Mirror.set node.params p) ∧
    (r.1.successful = false → r.2.params = node.params) := by
  unfold setParameter setParametersAtomically
  dsimp only
  split
  · rename_i ht
    cases callback node.state [p] with
    | error e => exact ⟨(fun h => by cases h), fun _ => rfl⟩
    | ok r =>
      refine ⟨fun h => ⟨ht p List.mem_cons_self, ?_⟩, fun h => ?_⟩
      · exact if_pos h
      · exact if_neg (ne_true_of_eq_false h)
  · exact ⟨(fun h => by cases h), fun _ => rfl⟩

/-- Parameters under different names: each is stored exactly when its own answer is a success. -/
theorem setParameters_effect (batch : List Parameter) : ∀ node : ParameterNode σ,
    (batch.map Prod.fst).Nodup →
    let out := setParameters callback refusal node batch
    (∀ name, name ∉ batch.map Prod.fst → out.2.params name = node.params name) ∧
    ∀ x ∈ batch.zip out.1,
      (x.2.successful = true → (node.params x.1.1).map ParameterValue.type = some x.1.2.type ∧
        out.2.params x.1.1 = some x.1.2) ∧
      (x.2.successful = false → out.2.params x.1.1 = node.params x.1.1) := by
  induction batch with
  | nil => exact fun node _ => ⟨fun name _ => rfl, fun x hx => absurd hx List.not_mem_nil⟩
  | cons p rest ih =>
    intro node hn
    obtain ⟨hp, hrest⟩ := List.nodup_cons.mp hn
    obtain ⟨hset, hkept⟩ := setParameter_effect callback refusal node p
    obtain ⟨hout, hin⟩ := ih (setParameter callback refusal node p).2 hrest
    have hother : ∀ name, name ≠ p.1 →
        (setParameter callback refusal node p).2.params name = node.params name := by
      intro name hne
      cases hs : (setParameter callback refusal node p).1.successful with
      | true => rw [(hset hs).2, Mirror.set_of_ne node.params hne]
      | false => rw [hkept hs]
    refine ⟨fun name hname => ?_, fun x hx => ?_⟩
    · rw [List.map_cons, List.mem_cons, not_or] at hname
      exact (hout name hname.2).trans (hother name hname.1)
    · rcases List.mem_cons.mp hx with rfl | hx
      · -- the rest of the request leaves this name
        have hlast := hout p.1 hp
        refine ⟨fun hs => ⟨(hset hs).1, ?_⟩, fun hs => ?_⟩
        · exact hlast.trans (((hset hs).2 ▸ Mirror.set_self node.params p :))
        · exact hlast.trans (congrFun (hkept hs) p.1)
      · have hne : x.1.1 ≠ p.1 := by
          rintro he
          exact hp (he ▸ List.mem_map_of_mem (List.of_mem_zip hx).1)
        obtain ⟨hsuccess, hfailure⟩ := hin x hx
        rw [hother x.1.1 hne] at hsuccess hfailure
        exact ⟨hsuccess, hfailure⟩

end

/-- the same for each of the nodes -/
theorem PackageNode.setParameters_effect (refusal : Parameter → Bytes) (opened : List Parameter → Bool)
    {batch : List Parameter} (hn : (batch.map Prod.fst).Nodup) (n : PackageNode) :
    let out := n.setParameters refusal opened batch
    (∀ name, name ∉ batch.map Prod.fst → out.2.params name = n.params name) ∧
    ∀ x ∈ batch.zip out.1,
      (x.2.successful = true → (n.params x.1.1).map ParameterValue.type = some x.1.2.type ∧
        out.2.params x.1.1 = some x.1.2) ∧
      (x.2.successful = false → out.2.params x.1.1 = n.params x.1.1) := by
  cases n with
  | loader node => exact VD.setParameters_effect noCallback refusal batch node hn
  | detector node => exact VD.setParameters_effect VehicleDetectorNode.onParameterChange refusal batch node hn
  | sender node =>
    exact VD.setParameters_effect (fun self b => DetectionSenderNode.onParameterChange (opened b) self b)
      refusal batch node hn

/-! ## the parameters of a request -/

theorem ParameterType.code_of_ofCode? {code : UInt8} {t : ParameterType} (h : ofCode? code = some t) :
    code = t.code := by
  have hall : ∀ c : UInt8, (ofCode? c).all (fun t => t.code == c) = true := by decide +kernel
  have hc := hall code
  rw [h] at hc
  exact (eq_of_beq hc).symm

/-- a value is only converted to its own type -/
theorem jsonToParameterValue_code {dump : Json → Bytes} {raw : Json} {code : UInt8} {v : ParameterValue}
    (h : jsonToParameterValue dump raw code = .ok v) : code = v.type.code := by
  cases ht : ParameterType.ofCode? code with
  | none =>
    unfold jsonToParameterValue at h
    rw [ht] at h
    cases h
  | some t =>
    obtain rfl := ParameterType.code_of_ofCode? ht
    rw [jsonToParameterValue_type h]

theorem SortedMap.find?_of_mem {V : Type} {m : SortedMap String V} {item : String × V}
    (h : item ∈ m.items) : m.find? item.1 = some item.2 := by
  have hfind : m.items.find? (fun e => e.1 = item.1) = some item := by
    have hn := m.keys_nodup
    rw [SortedMap.keys] at hn
    generalize m.items = items at h hn
    induction items with
    | nil => cases h
    | cons e items ih =>
      rw [List.map_cons, List.nodup_cons] at hn
      rcases List.mem_cons.mp h with rfl | h
      · exact List.find?_cons_of_pos (by simp)
      · have hne : e.1 ≠ item.1 := fun he => hn.1 (he ▸ List.mem_map_of_mem h)
        rw [List.find?_cons_of_neg (by simpa using hne)]
        exact ih h hn.2
  rw [SortedMap.find?, hfind]
  rfl

section
variable {dump : Json → Bytes} {descriptors : List UInt8} {params : SortedMap String Json}

/-- what the handler asks to set comes from the request -/
theorem mem_settable {p : Parameter} (h : p ∈ settable dump descriptors params) :
    ∃ raw, params.find? p.1 = some raw ∧ jsonToParameterValue dump raw p.2.type.code = .ok p.2 := by
  obtain ⟨⟨item, i⟩, hitem, hp⟩ := List.mem_filterMap.mp h
  obtain ⟨v, hv, rfl⟩ := Option.map_eq_some_iff.mp hp
  have hi : params.items[i]? = some item := List.mk_mem_zipIdx_iff_getElem?.mp hitem
  refine ⟨item.2, SortedMap.find?_of_mem (List.mem_of_getElem? hi), ?_⟩
  have hok : convertParameter dump descriptors[i]? item.2 = .ok v := by
    cases hc : convertParameter dump descriptors[i]? item.2 with
    | error what =>
      rw [hc] at hv
      cases hv
    | ok v' =>
      rw [hc] at hv
      exact congrArg Except.ok (Option.some.inj hv)
  unfold convertParameter at hok
  split at hok
  · cases hok
  · split at hok
    · cases hok
    · rename_i code _ _
      rw [jsonToParameterValue_code hok] at hok
      exact hok

variable (dump descriptors params) in
theorem settable_nodup : ((settable dump descriptors params).map Prod.fst).Nodup := by
  obtain ⟨hperm, -, -, hset⟩ := convertAll_spec dump descriptors params
  rw [hset] at hperm
  have hn := hperm.nodup_iff.mpr params.keys_nodup
  exact (List.nodup_append.mp hn).2.1

end

/-! ## the effect of a request -/

/-- The names of `updated` have the values of the request, the other names their old ones. -/
structure Applied (dump : Json → Bytes) (params : SortedMap String Json) (p q : ParameterStore)
    (updated : List String) : Prop where
  set : ∀ name ∈ updated, ∃ raw v, params.find? name = some raw ∧
    (p name).map ParameterValue.type = some v.type ∧ jsonToParameterValue dump raw v.type.code = .ok v ∧
    q name = some v
  kept : ∀ name, name ∉ updated → q name = p name

theorem Applied.none (dump : Json → Bytes) (params : SortedMap String Json) (p : ParameterStore) :
    Applied dump params p p [] :=
  ⟨fun name h => absurd h List.not_mem_nil, fun name _ => rfl⟩

/-- a node that is asked to set the parameters of a request, with the body made of its answers -/
theorem Running.applied (refusal : Parameter → Bytes) (opened : List Parameter → Bool) (dump : Json → Bytes)
    (descriptors : List UInt8) (params : SortedMap String Json) (r : Running) :
    let out := r.setParameters refusal opened (settable dump descriptors params)
    Applied dump params r.node.params out.2.node.params
      (addResults (convertAll dump descriptors params).1 (settable dump descriptors params) out.1).updated := by
  intro out
  obtain ⟨hother, hin⟩ := PackageNode.setParameters_effect refusal opened
    (settable_nodup dump descriptors params) r.node
  have hupdated : ∀ name, name ∈ (addResults (convertAll dump descriptors params).1
      (settable dump descriptors params) out.1).updated ↔
      ∃ x ∈ (settable dump descriptors params).zip out.1, x.1.getName = name ∧ x.2.successful = true := by
    intro name
    obtain ⟨-, hnone, -, -⟩ := convertAll_spec dump descriptors params
    rw [addResults, foldl_addResult_updated, hnone, or_iff_right List.not_mem_nil]
  have hlen : out.1.length = (settable dump descriptors params).length := by
    show (r.node.setParameters refusal opened _).1.length = _
    cases r.node with
    | loader node => exact setParameters_length refusal _ node
    | detector node => exact setParameters_length refusal _ node
    | sender node => exact setParameters_length refusal _ node
  constructor
  · intro name hname
    obtain ⟨x, hx, rfl, hs⟩ := (hupdated name).mp hname
    obtain ⟨raw, hfind, hconv⟩ := mem_settable (List.of_mem_zip hx).1
    obtain ⟨ht, hq⟩ := (hin x hx).1 hs
    exact ⟨raw, x.1.2, hfind, ht, hconv, hq⟩
  · intro name hname
    by_cases hm : name ∈ (settable dump descriptors params).map Prod.fst
    · -- the answer for this name was no success
      obtain ⟨p, hp, rfl⟩ := List.mem_map.mp hm
      obtain ⟨i, hi⟩ := List.mem_iff_getElem?.mp hp
      have hlt : i < out.1.length := hlen ▸ (List.getElem?_eq_some_iff.mp hi).1
      have hx : (p, out.1[i]) ∈ (settable dump descriptors params).zip out.1 :=
        List.mem_iff_getElem?.mpr ⟨i, List.getElem?_zip_eq_some.mpr ⟨hi, List.getElem?_eq_getElem hlt⟩⟩
      apply (hin _ hx).2
      by_contra hs
      exact hname ((hupdated p.1).mpr ⟨_, hx, rfl, eq_true_of_ne_false hs⟩)
    · exact hother name hm

section
variable {σ : Type}

/-- where the first phase of a request ends, with what it has found out by then -/
inductive Asked (parse : Bytes → Except Bytes Json) (dump : Json → Bytes)
    (paramClients : Bytes → Option (ParametersClient σ)) (body : Bytes) (s : σ) : Response ⊕ ToSet → Prop
  | error (status : Nat) (msg : Bytes) : Asked parse dump paramClients body s (.inl (.error status msg))
  | described (payload : Json) (target : Bytes) (params : SortedMap String Json)
      (client : ParametersClient σ) (descriptors : List UInt8) (result : Response ⊕ ToSet)
      (hparse : parse body = .ok payload) (hshape : postShape payload = some (target, params))
      (hclient : paramClients target = some client) (hready : client.ready s = true)
      (hdescribe : client.describeParameters s params.keys = .answered descriptors)
      (hresult : result = .inl (.body ((convertAll dump descriptors params).1.body target)) ∨
        result = .inr ⟨target, (convertAll dump descriptors params).1, settable dump descriptors params⟩) :
      Asked parse dump paramClients body s result

theorem postAsk_cases (parse : Bytes → Except Bytes Json) (dump : Json → Bytes)
    (paramClients : Bytes → Option (ParametersClient σ)) (body : Bytes) (s : σ) :
    Asked parse dump paramClients body s (postAsk parse dump paramClients body s) := by
  unfold postAsk
  cases hparse : parse body with
  | error what => exact .error _ _
  | ok payload =>
    dsimp only
    cases hshape : postShape payload with
    | none => exact .error _ _
    | some shape =>
      obtain ⟨target, params⟩ := shape
      dsimp only
      cases hclient : paramClients target with
      | none => exact .error _ _
      | some client =>
        dsimp only
        cases hready : client.ready s with
        | false => exact .error _ _
        | true =>
          rw [if_neg (by simp)]
          split
          · exact .error _ _
          · cases hdescribe : client.describeParameters s params.keys with
            | timedOut => exact .error _ _
            | failed what => exact .error _ _
            | answered descriptors =>
              obtain ⟨-, -, -, hset⟩ := convertAll_spec dump descriptors params
              dsimp only
              rw [hset]
              refine .described payload target params client descriptors _ hparse hshape hclient hready
                hdescribe ?_
              split
              · exact .inl rfl
              · exact .inr rfl

end

/-- the request has reached this node, with this effect -/
def Reached (dump : Json → Bytes) (w w' : World) (target : Bytes) (params : SortedMap String Json)
    (updated : List String) : Prop :=
  ∃ r r', w target = some r ∧ w' = Function.update w target (some r') ∧ r'.names = r.names ∧
    Applied dump params r.node.params r'.node.params updated

theorem Reached.none (dump : Json → Bytes) {w : World} {target : Bytes} (params : SortedMap String Json)
    (h : (w target).isSome = true) : Reached dump w w target params [] := by
  obtain ⟨r, hr⟩ := Option.isSome_iff_exists.mp h
  exact ⟨r, r, hr, by rw [← hr, Function.update_eq_self], rfl, Applied.none dump params _⟩

/-- no name is on both lists -/
theorem rejected_not_updated (dump : Json → Bytes) (descriptors : List UInt8) (params : SortedMap String Json)
    (results : List SetParametersResult) :
    let t := addResults (convertAll dump descriptors params).1 (settable dump descriptors params) results
    ∀ x ∈ t.rejected, x.1 ∉ t.updated := by
  intro t x hx hup
  obtain ⟨hperm, -, -⟩ := listed_perm dump descriptors params results
  have hn := (List.nodup_append.mp (hperm.nodup_iff.mpr params.keys_nodup)).1
  exact (List.nodup_append.mp hn).2.2 x.1 hup x.1 (List.mem_map_of_mem hx) rfl

/-- what the services of a node that runs do -/
theorem parametersClient_set (refusal : Parameter → Bytes) (opened : List Parameter → Bool) (fates : Fates)
    {w : World} {target : Bytes} {r : Running} (hr : w target = some r) (batch : List Parameter) :
    (parametersClient refusal opened fates target).setParameters w batch =
      (fates.set.answer (some (r.setParameters refusal opened batch).1),
        if fates.set.reaches then
          Function.update w target (some (r.setParameters refusal opened batch).2)
        else w) := by
  simp only [parametersClient, hr]

/-- What a `POST` leaves behind, by how it is answered. -/
inductive PostDone (parse : Bytes → Except Bytes Json) (dump : Json → Bytes) (targetNodes : List Bytes)
    (fates : Fates) (body : Bytes) (w : World) : Response × World → Prop
  | refused (status : Nat) (msg : Bytes) : PostDone parse dump targetNodes fates body w (.error status msg, w)
  | late (status : Nat) (msg : Bytes) (payload : Json) (target : Bytes) (params : SortedMap String Json)
      (updated : List String) (w' : World) (hstatus : status = 504 ∨ status = 502)
      (hreaches : fates.set.reaches = true) (hparse : parse body = .ok payload)
      (hshape : postShape payload = some (target, params)) (hreached : Reached dump w w' target params updated) :
      PostDone parse dump targetNodes fates body w (.error status msg, w')
  | answered (b : PostBody) (payload : Json) (params : SortedMap String Json) (w' : World)
      (htarget : b.node ∈ targetNodes) (hparse : parse body = .ok payload)
      (hshape : postShape payload = some (b.node, params)) (hreached : Reached dump w w' b.node params b.updated)
      (hapart : ∀ x ∈ b.rejected, x.1 ∉ b.updated) :
      PostDone parse dump targetNodes fates body w (.body b, w')

theorem post_done (parse : Bytes → Except Bytes Json) (dump : Json → Bytes) (refusal : Parameter → Bytes)
    (targetNodes : List Bytes) (body : Bytes) (opened : List Parameter → Bool) (fates : Fates) (w : World) :
    PostDone parse dump targetNodes fates body w (handlePostParameters parse dump
      (clientsOf targetNodes (parametersClient refusal opened fates)) body w) := by
  rw [handlePostParameters_phases parse dump _ _ (fun _ _ hc => (clientsOf_some targetNodes hc).2) body w]
  have hcases := postAsk_cases parse dump (clientsOf targetNodes (parametersClient refusal opened fates)) body w
  generalize postAsk parse dump _ body w = asked at hcases ⊢
  cases hcases with
  | error status msg => exact .refused status msg
  | described payload target params client descriptors result hparse hshape hclient hready _ hresult =>
    obtain ⟨htarget, rfl⟩ := clientsOf_some targetNodes hclient
    have hsome : (w target).isSome = true := (Bool.and_eq_true_iff.mp hready).2
    obtain ⟨r, hr⟩ := Option.isSome_iff_exists.mp hsome
    rcases hresult with rfl | rfl
    · -- there is nothing to set
      obtain ⟨-, hnone, -, -⟩ := convertAll_spec dump descriptors params
      refine .answered _ payload params w htarget hparse hshape ?_ fun x _ hup => ?_
      · exact (hnone ▸ Reached.none dump params hsome :)
      · change x.1 ∈ (convertAll dump descriptors params).1.updated at hup
        rw [hnone] at hup
        exact absurd hup List.not_mem_nil
    · have happlied := r.applied refusal opened dump descriptors params
      have hreached : Reached dump w (Function.update w target
          (some (r.setParameters refusal opened (settable dump descriptors params)).2)) target params _ :=
        ⟨r, _, hr, rfl, rfl, happlied⟩
      have hact := parametersClient_set refusal opened fates hr (settable dump descriptors params)
      unfold postAct
      dsimp only
      rw [hact]
      cases hset : fates.set with
      | inTime =>
        exact .answered _ payload params _ htarget hparse hshape hreached
          (rejected_not_updated dump descriptors params _)
      | timedOut reached =>
        cases reached with
        | false => exact .refused _ _
        | true =>
          exact .late _ _ payload target params _ _ (.inl rfl) (congrArg Fate.reaches hset) hparse hshape hreached
      | failed what reached =>
        cases reached with
        | false => exact .refused _ _
        | true =>
          exact .late _ _ payload target params _ _ (.inr rfl) (congrArg Fate.reaches hset) hparse hshape hreached

/-- **What a `POST` does.** For all nodes, all bodies and every fate of the calls: an answer with `updated`
and `rejected` says what has happened to the node it names, the names of `updated` having the values of the
request and every other parameter its old value, and no other node has changed. An error means that nothing
has changed, unless `set_parameters` was carried out and its answer did not come in time. -/
theorem post_effect (parse : Bytes → Except Bytes Json) (dump : Json → Bytes) (refusal : Parameter → Bytes)
    (targetNodes : List Bytes) (body : Bytes) (opened : List Parameter → Bool) (fates : Fates) (w : World) :
    let out := handlePostParameters parse dump
      (clientsOf targetNodes (parametersClient refusal opened fates)) body w
    (∀ b, out.1 = .body b → b.node ∈ targetNodes ∧ ∃ payload params, parse body = .ok payload ∧
      postShape payload = some (b.node, params) ∧ Reached dump w out.2 b.node params b.updated ∧
      ∀ x ∈ b.rejected, x.1 ∉ b.updated) ∧
    ∀ status msg, out.1 = .error status msg → out.2 = w ∨
      (status = 504 ∨ status = 502) ∧ fates.set.reaches = true ∧
        ∃ payload target params updated, parse body = .ok payload ∧
          postShape payload = some (target, params) ∧ Reached dump w out.2 target params updated := by
  intro out
  have hdone : PostDone parse dump targetNodes fates body w out :=
    post_done parse dump refusal targetNodes body opened fates w
  generalize out = done at hdone
  cases hdone with
  | refused status msg => exact ⟨(fun b hb => by cases hb), fun _ _ _ => .inl rfl⟩
  | late status msg payload target params updated w' hstatus hreaches hparse hshape hreached =>
    refine ⟨(fun b hb => by cases hb), fun _ _ he => ?_⟩
    cases he
    exact .inr ⟨hstatus, hreaches, payload, target, params, updated, hparse, hshape, hreached⟩
  | answered b payload params w' htarget hparse hshape hreached hapart =>
    refine ⟨fun b' hb => ?_, fun _ _ he => by cases he⟩
    cases hb
    exact ⟨htarget, payload, params, hparse, hshape, hreached, hapart⟩

end VD
