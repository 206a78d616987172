import VehicleDetection.Param.Json
import VehicleDetection.Param.Node

/-!
# The parameter services of a node

What `rclcpp` answers for a node whose callback is given:

* `describeParameters`  the types of the named parameters, and nothing at all when one of them is
  not declared;
* `setParameters`       each parameter is a batch of its own, in the order of the request;
* `setParameters_all`   when every parameter of a request is accepted, and what the node is then.
-/

set_option linter.unusedVariables false

namespace VD
open BStr

section
variable {σ : Type}
  (callback : σ → List Parameter → Except ParameterError (SetParametersResult × σ))

/-- the types of declared parameters, as descriptors carry them -/
def describeParameters (node : ParameterNode σ) (names : List String) : List UInt8 :=
  (names.mapM fun name => (node.params name).map fun v => v.type.code).getD []

/-- `refusal` is the answer to a parameter that never reaches the callback. -/
def setParameter (refusal : Parameter → Bytes) (node : ParameterNode σ) (p : Parameter) :
    SetParametersResult × ParameterNode σ :=
  let r := setParametersAtomically callback node [p]
  (r.1.getD { successful := false, reason := refusal p }, r.2)

def setParameters (refusal : Parameter → Bytes) (node : ParameterNode σ) :
    List Parameter → List SetParametersResult × ParameterNode σ
  | [] => ([], node)
  | p :: rest =>
    let (result, node) := setParameter callback refusal node p
    let (results, node) := setParameters refusal node rest
    (result :: results, node)

variable {callback}

theorem setParameters_length (refusal : Parameter → Bytes) (batch : List Parameter) :
    ∀ node : ParameterNode σ, (setParameters callback refusal node batch).1.length = batch.length := by
  induction batch with
  | nil => exact fun _ => rfl
  | cons p rest ih => exact fun node => congrArg Nat.succ (ih _)

end

/-! ## a request as a whole -/

section
variable {σ S : Type} {M : Mirror.Record String ParameterValue ParameterError Bytes S}
  {snapshot : σ → S} {commit : σ → S → σ} {rel : ParameterStore → S → Prop}
  {callback : σ → List Parameter → Except ParameterError (SetParametersResult × σ)}

/-- a node starts from the stored parameters -/
def Good (M : Mirror.Record String ParameterValue ParameterError Bytes S) (params : ParameterStore) :
    Prop := ∃ s, M.build params = .ok s ∧ M.check s = .ok ()

theorem good_iff (L : Mirror.Lawful M ParameterValue.type rel) {params : ParameterStore} {s : S}
    (h : rel params s) : Good M params ↔ M.check s = .ok () := by
  obtain ⟨s₀, hb, hc⟩ := L.rel_build h
  rw [← hc]
  constructor
  · rintro ⟨s', hs', hok⟩
    rw [hb] at hs'
    cases hs'
    exact hok
  · exact fun hok => ⟨s₀, hb, hok⟩

/-- what is left behind by a parameter that is accepted -/
structure Taken (M : Mirror.Record String ParameterValue ParameterError Bytes S) (snapshot : σ → S)
    (rel : ParameterStore → S → Prop) (node : ParameterNode σ) (p : Parameter)
    (next : ParameterNode σ) : Prop where
  params : next.params = Mirror.set node.params p
  patched : M.patch (snapshot node.state) p = .ok (snapshot next.state)
  upToDate : rel (Mirror.set node.params p) (snapshot next.state)
  checked : M.check (snapshot next.state) = .ok ()

/-- One parameter is accepted exactly when the store after it is good. -/
theorem setParameter_spec (L : Mirror.Lawful M ParameterValue.type rel)
    (hs : ∀ x c, snapshot (commit x c) = c)
    (hcb : ∀ x batch, callback x batch = (M.change (snapshot x) batch).map (answer commit x))
    (refusal : Parameter → Bytes) {node : ParameterNode σ} {p : Parameter}
    (h : rel node.params (snapshot node.state))
    (ht : Mirror.Typed ParameterValue.type node.params [p]) :
    let r := setParameter callback refusal node p
    (r.1.successful = true ↔ Good M (Mirror.set node.params p)) ∧
      (r.1.successful = true → Taken M snapshot rel node p r.2) := by
  obtain ⟨c, hp, hrel⟩ := L.patch_rel h (ht p List.mem_cons_self)
  have hchange : M.change (snapshot node.state) [p] = .ok (M.judge c) := by
    show (M.patch (snapshot node.state) p >>= pure).map M.judge = _
    rw [hp]
    rfl
  rw [good_iff L hrel]
  unfold setParameter setParametersAtomically
  rw [if_pos ht, hcb, hchange]
  unfold Mirror.Record.judge
  cases hc : M.check c with
  | error reason => exact ⟨iff_of_false Bool.noConfusion (fun e => by cases e), fun e => by cases e⟩
  | ok u =>
    have hcommit : snapshot (commit node.state c) = c := hs node.state c
    refine ⟨iff_of_true rfl rfl, fun _ => ⟨rfl, ?_, ?_, ?_⟩⟩
    · exact hp.trans (congrArg Except.ok hcommit.symm)
    · exact hcommit.symm ▸ hrel
    · exact hcommit.symm ▸ hc

theorem forall_prefix_cons {α : Type} {P : List α → Prop} (a : α) (l : List α) :
    (∀ pre post, a :: l = pre ++ post → P pre) ↔
      P [] ∧ ∀ pre post, l = pre ++ post → P (a :: pre) := by
  constructor
  · intro h
    refine ⟨h [] (a :: l) rfl, ?_⟩
    rintro pre post rfl
    exact h (a :: pre) post rfl
  · rintro ⟨hnil, hcons⟩ pre post e
    cases pre with
    | nil => exact hnil
    | cons b pre =>
      obtain ⟨rfl, rfl⟩ := List.cons.inj e
      exact hcons pre post rfl

/-- Every parameter of a request is accepted exactly when every store on the way is good; the node
has then been patched with the whole request. -/
theorem setParameters_all (L : Mirror.Lawful M ParameterValue.type rel)
    (hs : ∀ x c, snapshot (commit x c) = c)
    (hcb : ∀ x batch, callback x batch = (M.change (snapshot x) batch).map (answer commit x))
    (refusal : Parameter → Bytes) (batch : List Parameter) : ∀ {node : ParameterNode σ},
    rel node.params (snapshot node.state) → M.check (snapshot node.state) = .ok () →
    Mirror.Typed ParameterValue.type node.params batch →
    let out := setParameters callback refusal node batch
    ((∀ r ∈ out.1, r.successful = true) ↔
        ∀ pre post, batch = pre ++ post → Good M (Mirror.setAll node.params pre)) ∧
      ((∀ r ∈ out.1, r.successful = true) →
        M.patchAll (snapshot node.state) batch = .ok (snapshot out.2.state)) := by
  induction batch with
  | nil =>
    intro node h hok ht out
    refine ⟨iff_of_true (fun r hr => absurd hr List.not_mem_nil) fun pre post e => ?_, fun _ => rfl⟩
    obtain ⟨rfl, rfl⟩ := List.append_eq_nil_iff.mp e.symm
    exact (good_iff L h).mpr hok
  | cons p rest ih =>
    intro node h hok ht out
    obtain ⟨hacc, hnext⟩ := setParameter_spec L hs hcb refusal h
      fun e he => ht e (List.mem_singleton.mp he ▸ List.mem_cons_self)
    have hout : out = (let r := setParameter callback refusal node p
        (r.1 :: (setParameters callback refusal r.2 rest).1,
          (setParameters callback refusal r.2 rest).2)) := rfl
    generalize setParameter callback refusal node p = r at hacc hnext hout
    rw [hout, List.forall_mem_cons, forall_prefix_cons]
    by_cases hfirst : r.1.successful = true
    · have t := hnext hfirst
      obtain ⟨ihall, ihstate⟩ := ih (t.params ▸ t.upToDate) t.checked (t.params ▸ ht.tail)
      rw [t.params] at ihall
      refine ⟨?_, fun hall => ?_⟩
      · have hgood : Good M (Mirror.setAll node.params []) := (good_iff L h).mpr hok
        rw [and_iff_right hfirst, and_iff_right hgood]
        exact ihall
      · show M.patch (snapshot node.state) p >>= (fun x => M.patchAll x rest) = _
        rw [t.patched]
        exact ihstate hall.2
    · refine ⟨iff_of_false (fun hall => hfirst hall.1) fun hall => ?_,
        fun hall => absurd hall.1 hfirst⟩
      exact hfirst (hacc.mpr (hall.2 [] rest rfl))

end

end VD
