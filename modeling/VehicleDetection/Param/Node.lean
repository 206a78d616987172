import VehicleDetection.Param.Value

/-!
# A node and its parameters

What `rclcpp` does for every node of the package:

* `declareParameters`        each declared parameter takes its override, or its default;
* `startNode`                a constructor that reads the parameters, checks and goes on;
* `setParametersAtomically`  one batch: a batch that names an undeclared parameter or changes a
  type never reaches the callback, any other is stored exactly when the callback returns
  successful.

A node that keeps a snapshot of its parameters is a record beside a store (`Mirror`):

* `startNode_restart`         when a node starts from the stored parameters of another;
* `setParametersAtomically_mirror`, `callback_accepts`  what a callback that patches and checks its
  snapshot does to node and store.
-/

set_option linter.unusedVariables false

namespace VD
open BStr

/-! ## declaring -/

/-- The parameters after `declare_parameter` has been called for every default, in turn: the
override of the same type, else the default.  `others` are those `rclcpp` declares itself. -/
def declareParameters (others overrides : ParameterStore) (defaults : List Parameter) :
    Except ParameterError ParameterStore :=
  defaults.foldlM (fun params d =>
    match overrides d.1 with
    | none => .ok (Mirror.set params d)
    | some v =>
      if v.type = d.2.type then .ok (Mirror.set params (d.1, v))
      else .error (.wrongType d.2.type v.type)) others

/-- the value that a parameter is declared with -/
def Takes (overrides : ParameterStore) (d : Parameter) (v : ParameterValue) : Prop :=
  overrides d.1 = none ∧ v = d.2 ∨ overrides d.1 = some v ∧ v.type = d.2.type

/-- the first of the declarations -/
theorem declareParameters_cons {others overrides params : ParameterStore} {d : Parameter}
    {ds : List Parameter} :
    declareParameters others overrides (d :: ds) = .ok params ↔
      ∃ v, Takes overrides d v ∧ declareParameters (Mirror.set others (d.1, v)) overrides ds = .ok params := by
  rw [declareParameters, List.foldlM_cons, bind_ok]
  unfold Takes
  cases hv : overrides d.1 with
  | none =>
    constructor
    · rintro ⟨next, hstep, hrest⟩
      cases hstep
      exact ⟨d.2, .inl ⟨rfl, rfl⟩, hrest⟩
    · rintro ⟨v, ⟨-, rfl⟩ | ⟨h, -⟩, hrest⟩
      · exact ⟨_, rfl, hrest⟩
      · cases h
  | some w =>
    constructor
    · rintro ⟨next, hstep, hrest⟩
      by_cases ht : w.type = d.2.type
      · simp only [if_pos ht] at hstep
        cases hstep
        exact ⟨w, .inr ⟨rfl, ht⟩, hrest⟩
      · simp only [if_neg ht] at hstep
        cases hstep
    · rintro ⟨v, ⟨h, -⟩ | ⟨h, ht⟩, hrest⟩
      · cases h
      · cases h
        exact ⟨_, if_pos ht, hrest⟩

/-- only an override of another type is refused -/
theorem declareParameters_total {overrides : ParameterStore} {defaults : List Parameter}
    (h : ∀ d ∈ defaults, ∀ v, overrides d.1 = some v → v.type = d.2.type) :
    ∀ others, ∃ params, declareParameters others overrides defaults = .ok params := by
  induction defaults with
  | nil => exact fun _ => ⟨_, rfl⟩
  | cons d ds ih =>
    intro others
    have ih' := ih fun d' hd' => h d' (List.mem_cons_of_mem _ hd')
    obtain ⟨v, hv⟩ : ∃ v, Takes overrides d v := by
      cases hv : overrides d.1 with
      | none => exact ⟨d.2, .inl ⟨hv, rfl⟩⟩
      | some v => exact ⟨v, .inr ⟨hv, h d List.mem_cons_self v hv⟩⟩
    obtain ⟨params, hp⟩ := ih' (Mirror.set others (d.1, v))
    exact ⟨params, declareParameters_cons.mpr ⟨v, hv, hp⟩⟩

/-- What holds of every default that is not overridden and of every override that is taken holds of
every declared parameter. -/
theorem declareParameters_all {Q : String → ParameterValue → Prop} {overrides : ParameterStore}
    {defaults : List Parameter} {params : ParameterStore} :
    ∀ {others : ParameterStore}, declareParameters others overrides defaults = .ok params →
      (∀ d ∈ defaults, overrides d.1 = none → Q d.1 d.2) →
      (∀ d ∈ defaults, ∀ v, overrides d.1 = some v → v.type = d.2.type → Q d.1 v) →
      (∀ k, (∀ d ∈ defaults, k ≠ d.1) → params k = others k) ∧
        ∀ d ∈ defaults, ∃ v, params d.1 = some v ∧ Q d.1 v := by
  induction defaults with
  | nil =>
    intro others h _ _
    cases h
    exact ⟨fun k _ => rfl, fun d hd => absurd hd List.not_mem_nil⟩
  | cons d ds ih =>
    intro others h hdef hov
    obtain ⟨v, hv, hrest⟩ := declareParameters_cons.mp h
    have hq : Q d.1 v := by
      rcases hv with ⟨hnone, rfl⟩ | ⟨hsome, ht⟩
      · exact hdef d List.mem_cons_self hnone
      · exact hov d List.mem_cons_self v hsome ht
    obtain ⟨hout, hin⟩ := ih hrest (fun d' hd' => hdef d' (List.mem_cons_of_mem _ hd'))
      fun d' hd' => hov d' (List.mem_cons_of_mem _ hd')
    refine ⟨fun k hk => ?_, fun d' hd' => ?_⟩
    · rw [hout k fun d' hd' => hk d' (List.mem_cons_of_mem _ hd')]
      have hne : k ≠ (d.1, v).1 := hk d List.mem_cons_self
      exact Mirror.set_of_ne _ hne
    · by_cases hm : ∃ d'' ∈ ds, d'.1 = d''.1
      · obtain ⟨d'', hd'', e⟩ := hm
        rw [e]
        exact hin d'' hd''
      · rcases List.mem_cons.mp hd' with rfl | hd'
        · refine ⟨v, ?_, hq⟩
          rw [hout _ fun d'' hd'' e => hm ⟨d'', hd'', e⟩]
          exact Mirror.set_self others (d'.1, v)
        · exact absurd ⟨d', hd', rfl⟩ hm

/-- every declared parameter is stored with the type of its default -/
def Declares (defaults : List Parameter) (params : ParameterStore) : Prop :=
  ∀ d ∈ defaults, (params d.1).map ParameterValue.type = some d.2.type

theorem Declares.start {defaults : List Parameter} {others overrides params : ParameterStore}
    (hd : (defaults.map Prod.fst).Nodup)
    (h : declareParameters others overrides defaults = .ok params) : Declares defaults params := by
  have hsame : ∀ d ∈ defaults, ∀ d' ∈ defaults, d.1 = d'.1 → d = d' := fun d hm d' hm' e =>
    List.inj_on_of_nodup_map hd hm hm' e
  obtain ⟨-, hin⟩ := declareParameters_all (Q := fun n v => ∀ d ∈ defaults, n = d.1 → v.type = d.2.type)
    h (fun d hm _ d' hm' e => by rw [hsame d hm d' hm' e])
    fun d hm v _ ht d' hm' e => by rw [ht, hsame d hm d' hm' e]
  intro d hm
  obtain ⟨v, hv, ht⟩ := hin d hm
  rw [hv]
  exact congrArg some (ht d hm rfl)

theorem Declares.setAll {defaults : List Parameter} {params : ParameterStore}
    {batch : List Parameter} (h : Declares defaults params)
    (ht : Mirror.Typed ParameterValue.type params batch) :
    Declares defaults (Mirror.setAll params batch) := by
  intro d hd
  rw [Mirror.setAll_type ht]
  exact h d hd

/-- A node that starts with the stored parameters of another has the same parameters. -/
theorem Declares.restart {defaults : List Parameter} {params : ParameterStore}
    (h : Declares defaults params) (others : ParameterStore) :
    ∃ params', declareParameters others params defaults = .ok params' ∧
      ∀ d ∈ defaults, params' d.1 = params d.1 := by
  have ht : ∀ d ∈ defaults, ∀ v, params d.1 = some v → v.type = d.2.type := by
    intro d hd v hv
    have := h d hd
    rw [hv] at this
    exact Option.some.inj this
  obtain ⟨params', hp⟩ := declareParameters_total ht others
  obtain ⟨-, hin⟩ := declareParameters_all (Q := fun n v => params n = some v) hp
    (fun d hd hn => by have := h d hd; rw [hn] at this; cases this) fun d _ v hv _ => hv
  refine ⟨params', hp, fun d hd => ?_⟩
  obtain ⟨v, hv, hq⟩ := hin d hd
  rw [hv, hq]

/-! ## starting -/

section
variable {S N : Type} (defaults : List Parameter)
  (build : ParameterStore → Except ParameterError S) (check : S → Except Bytes Unit)
  (mk : ParameterStore → S → N)

/-- The outer error is what reading a parameter throws, the inner one the `invalid_argument` of a
failed check. -/
def startNode (others overrides : ParameterStore) : Except ParameterError (Except Bytes N) := do
  let params ← declareParameters others overrides defaults
  let snapshot ← build params
  return (check snapshot).map fun _ => mk params snapshot

variable {defaults build check mk}

theorem startNode_ok {others overrides : ParameterStore} {n : N} :
    startNode defaults build check mk others overrides = .ok (.ok n) ↔
      ∃ params s, declareParameters others overrides defaults = .ok params ∧
        build params = .ok s ∧ check s = .ok () ∧ mk params s = n := by
  unfold startNode
  simp only [bind_ok]
  refine exists_congr fun params => ?_
  constructor
  · rintro ⟨hp, s, hb, h⟩
    cases hc : check s with
    | error r => rw [hc] at h; cases h
    | ok u => rw [hc] at h; cases h; exact ⟨s, hp, hb, hc, rfl⟩
  · rintro ⟨s, hp, hb, hc, rfl⟩
    refine ⟨hp, s, hb, ?_⟩
    rw [hc]
    rfl

/-- A node starts from stored parameters exactly when they build a snapshot that passes the check;
`reads`: the snapshot is built from declared parameters only. -/
theorem startNode_restart (check : S → Except Bytes Unit) (mk : ParameterStore → S → N)
    {params : ParameterStore} (h : Declares defaults params)
    (reads : ∀ p q : ParameterStore, (∀ d ∈ defaults, p d.1 = q d.1) → build p = build q)
    (others : ParameterStore) :
    (∃ n, startNode defaults build check mk others params = .ok (.ok n)) ↔
      ∃ s, build params = .ok s ∧ check s = .ok () := by
  obtain ⟨params', hp, hsame⟩ := h.restart others
  constructor
  · rintro ⟨n, hn⟩
    obtain ⟨p, s, hp', hb, hc, -⟩ := startNode_ok.mp hn
    rw [hp] at hp'
    cases hp'
    rw [reads _ _ hsame] at hb
    exact ⟨s, hb, hc⟩
  · rintro ⟨s, hb, hc⟩
    rw [← reads _ _ hsame] at hb
    exact ⟨_, startNode_ok.mpr ⟨params', s, hp, hb, hc, rfl⟩⟩

end

/-! ## setting -/

structure SetParametersResult where
  successful : Bool := true
  reason : Bytes := []
deriving DecidableEq

structure ParameterNode (σ : Type) where
  params : ParameterStore
  state : σ

/-- One batch.  `none`: the callback gives no answer, because `rclcpp` has refused the batch before
it or because it has thrown. -/
def setParametersAtomically {σ : Type}
    (callback : σ → List Parameter → Except ParameterError (SetParametersResult × σ))
    (node : ParameterNode σ) (batch : List Parameter) :
    Option SetParametersResult × ParameterNode σ :=
  if Mirror.Typed ParameterValue.type node.params batch then
    match callback node.state batch with
    | .error _ => (none, node)
    | .ok (result, state) =>
      (some result,
        { params := if result.successful then Mirror.setAll node.params batch else node.params
          state := state })
  else (none, node)

/-- a batch is stored as a whole or not at all -/
theorem setParametersAtomically_params {σ : Type}
    (callback : σ → List Parameter → Except ParameterError (SetParametersResult × σ))
    (node : ParameterNode σ) (batch : List Parameter) :
    let next := (setParametersAtomically callback node batch).2
    next.params = node.params ∨
      Mirror.Typed ParameterValue.type node.params batch ∧
        next.params = Mirror.setAll node.params batch := by
  unfold setParametersAtomically
  split
  · rename_i ht
    split
    · exact Or.inl rfl
    · rename_i result state hr
      cases hs : result.successful with
      | false => exact Or.inl rfl
      | true => exact Or.inr ⟨ht, rfl⟩
  · exact Or.inl rfl

/-- the declared parameters stay declared -/
theorem Declares.set {σ : Type} {defaults : List Parameter}
    (callback : σ → List Parameter → Except ParameterError (SetParametersResult × σ))
    {node : ParameterNode σ} (h : Declares defaults node.params) (batch : List Parameter) :
    Declares defaults (setParametersAtomically callback node batch).2.params := by
  rcases setParametersAtomically_params callback node batch with e | ⟨ht, e⟩
  · rw [e]
    exact h
  · rw [e]
    exact h.setAll ht

/-! ## snapshots -/

section
variable {σ S : Type} (M : Mirror.Record String ParameterValue ParameterError Bytes S)
  (snapshot : σ → S) (commit : σ → S → σ)

/-- what a callback answers that patches a copy of its snapshot, checks it and commits it -/
def answer (x : σ) : Except Bytes S → SetParametersResult × σ
  | .error reason => ({ successful := false, reason := reason }, x)
  | .ok c => ({}, commit x c)

variable {M snapshot commit}
variable {callback : σ → List Parameter → Except ParameterError (SetParametersResult × σ)}
  {batch : List Parameter}

theorem setParametersAtomically_mirror (hs : ∀ x c, snapshot (commit x c) = c)
    (hcb : ∀ x, callback x batch = (M.change (snapshot x) batch).map (answer commit x))
    (node : ParameterNode σ) :
    let next := (setParametersAtomically callback node batch).2
    (⟨next.params, snapshot next.state⟩ : Mirror.State String ParameterValue S)
      = Mirror.step M ParameterValue.type ⟨node.params, snapshot node.state⟩ batch := by
  intro next
  by_cases ht : Mirror.Typed ParameterValue.type node.params batch
  · have hnext : next = (match callback node.state batch with
        | .error _ => (none, node)
        | .ok (result, state) =>
          (some result,
            { params := if result.successful then Mirror.setAll node.params batch else node.params
              state := state }) : Option SetParametersResult × ParameterNode σ).2 := by
      show (setParametersAtomically callback node batch).2 = _
      rw [setParametersAtomically, if_pos ht]
    rw [hnext, hcb, Mirror.step, if_pos ht]
    cases M.change (snapshot node.state) batch with
    | error e => rfl
    | ok r =>
      cases r with
      | error reason => rfl
      | ok c =>
        show Mirror.State.mk _ (snapshot (commit node.state c)) = _
        rw [hs]
        rfl
  · have hnext : next = node := by
      show (setParametersAtomically callback node batch).2 = _
      rw [setParametersAtomically, if_neg ht]
    rw [hnext, Mirror.step, if_neg ht]

/-- The callback never throws on a typed batch; it accepts exactly when the store after the batch
passes a start, and keeps the old state when it rejects. -/
theorem callback_accepts {rel : ParameterStore → S → Prop} (L : Mirror.Lawful M ParameterValue.type rel)
    (hcb : ∀ x, callback x batch = (M.change (snapshot x) batch).map (answer commit x))
    {params : ParameterStore} {x : σ} (h : rel params (snapshot x))
    (ht : Mirror.Typed ParameterValue.type params batch) :
    ∃ result next, callback x batch = .ok (result, next) ∧
      (result.successful = true ↔
        ∃ s, M.build (Mirror.setAll params batch) = .ok s ∧ M.check s = .ok ()) ∧
      (result.successful = false → next = x) := by
  obtain ⟨c, s₀, hchange, -, hb, hc⟩ := L.change_eq h ht
  have hstart : (∃ s, M.build (Mirror.setAll params batch) = .ok s ∧ M.check s = .ok ()) ↔
      M.check c = .ok () := by
    rw [hb, ← hc]
    constructor
    · rintro ⟨s, hs, hok⟩
      cases hs
      exact hok
    · exact fun hok => ⟨s₀, rfl, hok⟩
  rw [hstart, hcb, hchange]
  unfold Mirror.Record.judge
  cases M.check c with
  | error reason => exact ⟨_, _, rfl, iff_of_false Bool.noConfusion (fun e => by cases e), fun _ => rfl⟩
  | ok u => exact ⟨_, _, rfl, iff_of_true rfl rfl, fun e => by cases e⟩

end

end VD
