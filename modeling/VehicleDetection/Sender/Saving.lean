import VehicleDetection.Base.Machine
import VehicleDetection.Detection.Message
import VehicleDetection.Sender.Queue

/-!
# Saving beside the other outputs

The executor of `detection_sender_node` takes messages and batches in turn. The answers of the operating
system come with them: whether a file is opened, and how a write ends.

* `Step.step`     one message or one batch, with what is seen of it outside the files;
* `Aligned`       an enabled writer writes to the path of a snapshot that saves;
* `Snapshot.others`  a snapshot without the two settings of the place where results are saved;
* `saving_apart`  bytes go to the current file only, and saving changes nothing else.
-/

set_option linter.unusedVariables false

namespace VD.DetectionSenderNode
open BStr

namespace Saving

inductive Input
  | message (msg : Detection3DArray Float) (outcome : WriteOutcome)
  | batch (params : List Parameter) (opened : Bool)

/-- what leaves the node besides the files: the answer to a batch, the relayed message, the body for the
queue -/
structure Output where
  accepted : Bool := false
  published : Option (Detection3DArray Float) := none
  body : Option Bytes := none

structure State where
  node : Node
  files : Files

def step (s : State) : Input → State × Output
  | .message msg outcome =>
    let (published, body, members, files) :=
      onDetections s.node.state s.files (toJsonPayload msg) outcome
    ({ node := { s.node with state := members }, files := files },
      { published := if published then some msg else none, body := body })
  | .batch params opened =>
    let (answer, node) := setParametersAtomically (onParameterChange opened) s.node params
    ({ s with node := node }, { accepted := isAccepted answer })

end Saving

open Saving

/-! ## the writer and the snapshot -/

/-- an enabled writer writes to the path of a snapshot that saves -/
def Aligned (m : Members) : Prop :=
  m.writer.enabled = true → m.snapshot.saveResults = true ∧ m.writer.out = some m.snapshot.resultOutputPath

theorem aligned_applyWriterConfig (writer : DetectionResultWriter) (snap : Snapshot) (opened : Bool) :
    (applyWriterConfig writer snap opened).enabled = true →
      snap.saveResults = true ∧ (applyWriterConfig writer snap opened).out = some snap.resultOutputPath := by
  intro h
  unfold applyWriterConfig DetectionResultWriter.configure at h ⊢
  dsimp only at h ⊢
  cases hs : snap.saveResults with
  | false => rw [hs] at h; cases h
  | true =>
    rw [hs] at h
    simp only [Bool.not_true, Bool.false_eq_true, if_false] at h ⊢
    split at h
    · cases h
    · split at h
      · cases h
      · rename_i h₁ h₂
        rw [if_neg h₁, if_neg h₂]
        exact ⟨trivial, rfl⟩

/-- an append keeps the file or closes the writer -/
theorem append_writer (w : DetectionResultWriter) (files : Files) (payload : DetectionJsonPayload)
    (outcome : WriteOutcome) :
    (w.append files payload outcome).2.1 = w ∨ (w.append files payload outcome).2.1.enabled = false := by
  unfold DetectionResultWriter.append
  split
  · cases outcome with
    | ok => exact .inl rfl
    | writeFails n | flushFails held n m => exact .inr rfl
  · exact .inl rfl

/-- an append writes to the file the writer is open on, and only when it is enabled -/
theorem append_files (w : DetectionResultWriter) (files : Files) (payload : DetectionJsonPayload)
    (outcome : WriteOutcome) {path : Bytes}
    (h : (w.append files payload outcome).2.2 path ≠ files path) :
    w.enabled = true ∧ w.out = some path := by
  unfold DetectionResultWriter.append at h
  split at h
  · rename_i file he ho
    refine ⟨he, ?_⟩
    by_contra hne
    have hp : path ≠ file := fun e => hne (e ▸ ho)
    cases outcome with
    | ok | writeFails n | flushFails held n m => exact h (Function.update_of_ne hp _ _)
  · exact absurd rfl h

/-- what becomes of the writer and the files -/
theorem onDetections_saved (m : Members) (files : Files) (payload : DetectionJsonPayload)
    (outcome : WriteOutcome) :
    let r := onDetections m files payload outcome
    (r.2.2.1.writer, r.2.2.2) =
      if m.snapshot.saveResults then (m.writer.append files payload outcome).2 else (m.writer, files) := by
  unfold onDetections
  dsimp only
  split <;> rfl

/-- what is relayed and what is posted; neither depends on the writer -/
theorem onDetections_seen (m : Members) (files : Files) (payload : DetectionJsonPayload)
    (outcome : WriteOutcome) :
    let r := onDetections m files payload outcome
    (r.1, r.2.1) =
      if m.snapshot.sendMode = kSendModeDisabled then (false, none)
      else (sendModeUsesTopic m.snapshot.sendMode,
        if sendModeUsesHttp m.snapshot.sendMode then some (serializeDetections payload) else none) := by
  unfold onDetections
  dsimp only
  split <;> rfl

/-! ## one batch -/

theorem applyParameter_of_not_input {s s' : Snapshot} {e : Parameter} (he : isWriterInput e = false)
    (h : applyParameter s e = .ok s') :
    s'.saveResults = s.saveResults ∧ s'.resultOutputPath = s.resultOutputPath := by
  let P : Except ParameterError Snapshot → Prop := fun x => ∀ s', x = .ok s' →
    s'.saveResults = s.saveResults ∧ s'.resultOutputPath = s.resultOutputPath
  have keep : ∀ {α : Type} (x : Except ParameterError α) (f : α → Snapshot),
      (∀ a, (f a).saveResults = s.saveResults ∧ (f a).resultOutputPath = s.resultOutputPath) →
        P (x.map f) := by
    intro α x f hf s' hx
    obtain ⟨a, -, rfl⟩ := map_ok.mp hx
    exact hf a
  simp only [isWriterInput, Bool.or_eq_false_iff, beq_eq_false_iff_ne] at he
  suffices hP : P (applyParameter s e) from hP s' h
  unfold applyParameter
  refine iteInduction (motive := P) (fun _ => keep _ _ fun v => ⟨rfl, rfl⟩) fun _ => ?_
  refine iteInduction (motive := P) (fun _ => keep _ _ fun v => ⟨rfl, rfl⟩) fun _ => ?_
  refine iteInduction (motive := P) (fun _ => keep _ _ fun v => ⟨rfl, rfl⟩) fun _ => ?_
  refine iteInduction (motive := P) (fun _ => keep _ _ fun v => ⟨rfl, rfl⟩) fun _ => ?_
  refine iteInduction (motive := P) (fun _ => keep _ _ fun v => ⟨rfl, rfl⟩) fun _ => ?_
  refine iteInduction (motive := P) (fun h => absurd h he.1.1) fun _ => ?_
  refine iteInduction (motive := P) (fun h => absurd h he.1.2) fun _ => ?_
  refine iteInduction (motive := P) (fun h => absurd h he.2) fun _ => ?_
  intro s' hx
  cases hx
  exact ⟨rfl, rfl⟩

theorem patchAll_of_not_input {batch : List Parameter} (hb : batch.any isWriterInput = false) :
    ∀ {s c : Snapshot}, record.patchAll s batch = .ok c →
      c.saveResults = s.saveResults ∧ c.resultOutputPath = s.resultOutputPath := by
  induction batch with
  | nil =>
    intro s c h
    cases h
    exact ⟨rfl, rfl⟩
  | cons e batch ih =>
    intro s c h
    rw [List.any_cons, Bool.or_eq_false_iff] at hb
    rw [Mirror.Record.patchAll, List.foldlM_cons, bind_ok] at h
    obtain ⟨s', hs, h⟩ := h
    obtain ⟨h₁, h₂⟩ := applyParameter_of_not_input hb.1 hs
    obtain ⟨h₃, h₄⟩ := ih hb.2 h
    exact ⟨h₃.trans h₁, h₄.trans h₂⟩

theorem aligned_commit {m : Members} (h : Aligned m) {batch : List Parameter} {c : Snapshot}
    (hc : record.patchAll m.snapshot batch = .ok c) (opened : Bool) : Aligned (commit opened batch m c) := by
  intro he
  show c.saveResults = true ∧ (commit opened batch m c).writer.out = some c.resultOutputPath
  unfold commit at he ⊢
  dsimp only at he ⊢
  cases hb : batch.any isWriterInput with
  | true =>
    rw [hb, if_pos rfl] at he
    rw [if_pos rfl]
    exact aligned_applyWriterConfig m.writer c opened he
  | false =>
    rw [hb, if_neg nofun] at he
    rw [if_neg nofun]
    obtain ⟨h₁, h₂⟩ := patchAll_of_not_input hb hc
    rw [h₁, h₂]
    exact h he

/-- a batch makes the callback throw, is refused, or is committed -/
theorem onParameterChange_cases (opened : Bool) (m : Members) (batch : List Parameter) :
    (∃ e, record.patchAll m.snapshot batch = .error e ∧ onParameterChange opened m batch = .error e) ∨
      (∃ c reason, record.patchAll m.snapshot batch = .ok c ∧ record.check c = .error reason ∧
        onParameterChange opened m batch = .ok ({ successful := false, reason := reason }, m)) ∨
      (∃ c, record.patchAll m.snapshot batch = .ok c ∧ record.check c = .ok () ∧
        onParameterChange opened m batch = .ok ({}, commit opened batch m c)) := by
  rw [onParameterChange_eq, Mirror.Record.change]
  cases hp : record.patchAll m.snapshot batch with
  | error e => exact .inl ⟨e, rfl, rfl⟩
  | ok c =>
    right
    cases hc : record.check c with
    | error reason =>
      refine .inl ⟨c, reason, rfl, hc, ?_⟩
      simp only [Except.map, Mirror.Record.judge, hc, answer]
    | ok u =>
      refine .inr ⟨c, rfl, hc, ?_⟩
      simp only [Except.map, Mirror.Record.judge, hc, answer]

/-! ## the first half: where bytes go -/

theorem aligned_message {m : Members} (h : Aligned m) (files : Files) (payload : DetectionJsonPayload)
    (outcome : WriteOutcome) : Aligned (onDetections m files payload outcome).2.2.1 := by
  obtain ⟨hsnap, -, -⟩ := Sys.onDetections_members m files payload outcome
  have hsaved := congrArg Prod.fst (onDetections_saved m files payload outcome)
  intro he
  rw [hsnap]
  cases hs : m.snapshot.saveResults with
  | false =>
    rw [hs, if_neg nofun] at hsaved
    dsimp only at hsaved
    rw [hsaved] at he ⊢
    exact hs ▸ h he
  | true =>
    rw [hs, if_pos rfl] at hsaved
    dsimp only at hsaved
    rw [hsaved] at he ⊢
    rcases append_writer m.writer files payload outcome with e | e
    · rw [e] at he ⊢
      exact hs ▸ h he
    · rw [e] at he
      cases he

theorem aligned_batch {n : Node} (h : Aligned n.state) (batch : List Parameter) (opened : Bool) :
    Aligned (setParametersAtomically (onParameterChange opened) n batch).2.state := by
  unfold setParametersAtomically
  split
  · rcases onParameterChange_cases opened n.state batch with ⟨e, -, he⟩ | ⟨c, reason, -, -, hr⟩ |
        ⟨c, hc, -, hok⟩
    · rw [he]
      exact h
    · rw [hr]
      exact h
    · rw [hok]
      exact aligned_commit h hc opened
  · exact h

theorem aligned_step (s : State) (i : Input) (h : Aligned s.node.state) :
    Aligned (Saving.step s i).1.node.state := by
  cases i with
  | message msg outcome => exact aligned_message h s.files (toJsonPayload msg) outcome
  | batch params opened => exact aligned_batch h params opened

theorem aligned_start {others overrides : ParameterStore} {opened : Bool} {n : Node}
    (h : start others overrides opened = .ok (.ok n)) : Aligned n.state := by
  obtain ⟨params, s, -, -, -, rfl⟩ := startNode_ok.mp h
  exact aligned_applyWriterConfig {} s opened

/-- in a state with `Aligned`, bytes go to the current path only, and only while results are saved -/
theorem step_files {s : State} (h : Aligned s.node.state) {i : Input} {path : Bytes}
    (hf : (Saving.step s i).1.files path ≠ s.files path) :
    s.node.state.snapshot.saveResults = true ∧ s.node.state.snapshot.resultOutputPath = path := by
  cases i with
  | batch params opened => exact absurd rfl hf
  | message msg outcome =>
    have hsaved := congrArg Prod.snd (onDetections_saved s.node.state s.files (toJsonPayload msg) outcome)
    have hf' : (onDetections s.node.state s.files (toJsonPayload msg) outcome).2.2.2 path ≠ s.files path := hf
    cases hs : s.node.state.snapshot.saveResults with
    | false =>
      rw [hs, if_neg nofun] at hsaved
      rw [hsaved] at hf'
      exact absurd rfl hf'
    | true =>
      rw [hs, if_pos rfl] at hsaved
      rw [hsaved] at hf'
      obtain ⟨he, ho⟩ := append_files _ _ _ _ hf'
      exact ⟨rfl, Option.some.inj ((h he).2.symm.trans ho)⟩

/-! ## the second half: two runs -/

/-- the two settings of the place where results are saved -/
def isPlace (name : String) : Bool := name == "save_results" || name == "result_output_path"

/-- a snapshot without them -/
def Snapshot.others (s : Snapshot) : Snapshot := { s with saveResults := false, resultOutputPath := [] }

/-- entries for the same parameter, with values of one type, and with the same value unless the
parameter is one of the two -/
structure AlikeEntry (e e' : Parameter) : Prop where
  name : e'.1 = e.1
  type : e'.2.type = e.2.type
  value : isPlace e.1 = false → e'.2 = e.2

structure AlikeStore (p p' : ParameterStore) : Prop where
  type : ∀ k, (p' k).map ParameterValue.type = (p k).map ParameterValue.type
  value : ∀ k, isPlace k = false → p' k = p k

theorem AlikeStore.set {p p' : ParameterStore} (h : AlikeStore p p') {e e' : Parameter}
    (he : AlikeEntry e e') : AlikeStore (Mirror.set p e) (Mirror.set p' e') := by
  obtain ⟨k, v⟩ := e
  obtain ⟨k', v'⟩ := e'
  obtain rfl : k' = k := he.name
  constructor
  · intro j
    by_cases hj : j = k'
    · subst hj
      rw [Mirror.set_self p (j, v), Mirror.set_self p' (j, v')]
      exact congrArg some he.type
    · rw [Mirror.set_of_ne p (e := (k', v)) hj, Mirror.set_of_ne p' (e := (k', v')) hj]
      exact h.type j
  · intro j hp
    by_cases hj : j = k'
    · subst hj
      rw [Mirror.set_self p (j, v), Mirror.set_self p' (j, v')]
      exact congrArg some (he.value hp)
    · rw [Mirror.set_of_ne p (e := (k', v)) hj, Mirror.set_of_ne p' (e := (k', v')) hj]
      exact h.value j hp

theorem AlikeStore.setAll {batch batch' : List Parameter} (hb : List.Forall₂ AlikeEntry batch batch') :
    ∀ {p p' : ParameterStore}, AlikeStore p p' →
      AlikeStore (Mirror.setAll p batch) (Mirror.setAll p' batch') := by
  induction hb with
  | nil => exact fun h => h
  | cons he hb ih => exact fun h => ih (h.set he)

theorem AlikeStore.typed {p p' : ParameterStore} (h : AlikeStore p p') {batch batch' : List Parameter}
    (hb : List.Forall₂ AlikeEntry batch batch') :
    Mirror.Typed ParameterValue.type p batch ↔ Mirror.Typed ParameterValue.type p' batch' := by
  unfold Mirror.Typed
  induction hb with
  | nil => exact iff_of_true nofun nofun
  | cons he hb ih =>
    rw [List.forall_mem_cons, List.forall_mem_cons, ih, he.name, he.type, h.type]

/-! ### one entry -/

theorem map_others {α : Type} (x : Except ParameterError α) {f f' : α → Snapshot}
    (h : ∀ a, (f a).others = (f' a).others) :
    (x.map f).map Snapshot.others = (x.map f').map Snapshot.others := by
  cases x with
  | error e => rfl
  | ok a => exact congrArg Except.ok (h a)

/-- one more branch of two chains that go the same way -/
theorem ite_others {c : Prop} [Decidable c] {x x' y y' : Except ParameterError Snapshot}
    (hx : x.map Snapshot.others = x'.map Snapshot.others)
    (hy : y.map Snapshot.others = y'.map Snapshot.others) :
    (if c then x else y).map Snapshot.others = (if c then x' else y').map Snapshot.others := by
  split
  · exact hx
  · exact hy

theorem applyParameter_others (s : Snapshot) (e : Parameter) :
    (applyParameter s.others e).map Snapshot.others = (applyParameter s e).map Snapshot.others := by
  unfold applyParameter
  refine ite_others (map_others _ fun v => rfl) ?_
  refine ite_others (map_others _ fun v => rfl) ?_
  refine ite_others (map_others _ fun v => rfl) ?_
  refine ite_others (map_others _ fun v => rfl) ?_
  refine ite_others (map_others _ fun v => rfl) ?_
  refine ite_others (map_others _ fun v => rfl) ?_
  refine ite_others (map_others _ fun v => rfl) ?_
  refine ite_others (map_others _ fun v => rfl) ?_
  rfl

theorem asBool_map (v : ParameterValue) {α : Type} (a : α) :
    v.asBool.map (fun _ => a) =
      if v.type = .bool then .ok a else .error (.wrongType .bool v.type) := by
  cases v <;> rfl

theorem asString_map (v : ParameterValue) {α : Type} (a : α) :
    v.asString.map (fun _ => a) =
      if v.type = .string then .ok a else .error (.wrongType .string v.type) := by
  cases v <;> rfl

/-- the two settings enter a snapshot through the two fields that are left out -/
theorem applyParameter_place (s : Snapshot) {e : Parameter} (he : isPlace e.1 = true) :
    (applyParameter s e).map Snapshot.others =
      if e.1 = "save_results" then
        if e.2.type = .bool then .ok s.others else .error (.wrongType .bool e.2.type)
      else if e.2.type = .string then .ok s.others else .error (.wrongType .string e.2.type) := by
  obtain ⟨k, v⟩ := e
  simp only [isPlace, Bool.or_eq_true, beq_iff_eq] at he
  rcases he with rfl | rfl
  · refine Eq.trans ?_ (asBool_map v s.others)
    show ((v.asBool.map _).map _) = _
    cases v.asBool <;> rfl
  · refine Eq.trans ?_ (asString_map v s.others)
    show ((v.asString.map _).map _) = _
    cases v.asString <;> rfl

theorem applyParameter_alike {s s' : Snapshot} (hs : s'.others = s.others) {e e' : Parameter}
    (he : AlikeEntry e e') :
    (applyParameter s' e').map Snapshot.others = (applyParameter s e).map Snapshot.others := by
  cases hp : isPlace e.1 with
  | true =>
    rw [applyParameter_place s hp, applyParameter_place s' (he.name ▸ hp), he.name, he.type, hs]
  | false =>
    have e_eq : e' = e := Prod.ext he.name (he.value hp)
    rw [← applyParameter_others s', hs, applyParameter_others, e_eq]

theorem patchAll_alike {batch batch' : List Parameter} (hb : List.Forall₂ AlikeEntry batch batch') :
    ∀ {s s' : Snapshot}, s'.others = s.others →
      (record.patchAll s' batch').map Snapshot.others = (record.patchAll s batch).map Snapshot.others := by
  induction hb with
  | nil => exact fun h => congrArg Except.ok h
  | @cons e e' batch batch' he hb ih =>
    intro s s' hs
    have hentry := applyParameter_alike hs he
    show ((applyParameter s' e').bind fun c => record.patchAll c batch').map _ =
      ((applyParameter s e).bind fun c => record.patchAll c batch).map _
    cases h : applyParameter s e with
    | error x =>
      cases h' : applyParameter s' e' with
      | error x' =>
        rw [h, h'] at hentry
        exact congrArg Except.error (Except.error.inj hentry)
      | ok c' =>
        rw [h, h'] at hentry
        cases hentry
    | ok c =>
      cases h' : applyParameter s' e' with
      | error x' =>
        rw [h, h'] at hentry
        cases hentry
      | ok c' =>
        rw [h, h'] at hentry
        exact ih (Except.ok.inj hentry)

/-- the checks do not read the two fields -/
theorem check_others {s s' : Snapshot} (h : s'.others = s.others) : record.check s' = record.check s := by
  show record.check s'.others = record.check s.others
  rw [h]

/-! ### steps -/

structure AlikeNode (n n' : Node) : Prop where
  params : AlikeStore n.params n'.params
  snapshot : n'.state.snapshot.others = n.state.snapshot.others

inductive AlikeInput : Input → Input → Prop
  | message (msg : Detection3DArray Float) (outcome outcome' : WriteOutcome) :
      AlikeInput (.message msg outcome) (.message msg outcome')
  | batch {params params' : List Parameter} (h : List.Forall₂ AlikeEntry params params')
      (opened opened' : Bool) : AlikeInput (.batch params opened) (.batch params' opened')

/-- corresponding batches are answered the same way -/
theorem alike_change {m m' : Members} (h : m'.snapshot.others = m.snapshot.others)
    {batch batch' : List Parameter} (hb : List.Forall₂ AlikeEntry batch batch') (opened opened' : Bool) :
    (∃ e e', onParameterChange opened m batch = .error e ∧ onParameterChange opened' m' batch' = .error e') ∨
      (∃ reason, onParameterChange opened m batch = .ok ({ successful := false, reason := reason }, m) ∧
        onParameterChange opened' m' batch' = .ok ({ successful := false, reason := reason }, m')) ∨
      (∃ c c', c'.others = c.others ∧ onParameterChange opened m batch = .ok ({}, commit opened batch m c) ∧
        onParameterChange opened' m' batch' = .ok ({}, commit opened' batch' m' c')) := by
  have hp := patchAll_alike hb h
  rcases onParameterChange_cases opened m batch with
    ⟨e, h₁, h₂⟩ | ⟨c, reason, h₁, h₂, h₃⟩ | ⟨c, h₁, h₂, h₃⟩ <;>
    rcases onParameterChange_cases opened' m' batch' with
      ⟨e', k₁, k₂⟩ | ⟨c', reason', k₁, k₂, k₃⟩ | ⟨c', k₁, k₂, k₃⟩ <;>
    rw [h₁, k₁] at hp
  · exact .inl ⟨e, e', h₂, k₂⟩
  · cases hp
  · cases hp
  · cases hp
  · have hc := check_others (Except.ok.inj hp)
    rw [h₂, k₂] at hc
    obtain rfl := Except.error.inj hc
    exact .inr (.inl ⟨reason', h₃, k₃⟩)
  · have hc := check_others (Except.ok.inj hp)
    rw [h₂, k₂] at hc
    cases hc
  · cases hp
  · have hc := check_others (Except.ok.inj hp)
    rw [h₂, k₂] at hc
    cases hc
  · exact .inr (.inr ⟨c, c', Except.ok.inj hp, h₃, k₃⟩)

theorem alike_batch {n n' : Node} (h : AlikeNode n n') {batch batch' : List Parameter}
    (hb : List.Forall₂ AlikeEntry batch batch') (opened opened' : Bool) :
    let r := setParametersAtomically (onParameterChange opened) n batch
    let r' := setParametersAtomically (onParameterChange opened') n' batch'
    AlikeNode r.2 r'.2 ∧ isAccepted r.1 = isAccepted r'.1 := by
  intro r r'
  by_cases ht : Mirror.Typed ParameterValue.type n.params batch
  · have ht' := (h.params.typed hb).mp ht
    rcases alike_change h.snapshot hb opened opened' with ⟨e, e', h₁, h₂⟩ | ⟨reason, h₁, h₂⟩ |
      ⟨c, c', hc, h₁, h₂⟩ <;>
      simp only [r, r', setParametersAtomically, if_pos ht, if_pos ht', h₁, h₂]
    · exact ⟨h, trivial⟩
    · exact ⟨⟨h.params, h.snapshot⟩, trivial⟩
    · exact ⟨⟨h.params.setAll hb, hc⟩, trivial⟩
  · have ht' := fun k => ht ((h.params.typed hb).mpr k)
    simp only [r, r', setParametersAtomically, if_neg ht, if_neg ht']
    exact ⟨h, trivial⟩

theorem alike_step (s s' : State) (i i' : Input) (h : AlikeNode s.node s'.node) (hi : AlikeInput i i') :
    AlikeNode (Saving.step s i).1.node (Saving.step s' i').1.node ∧
      (Saving.step s i).2 = (Saving.step s' i').2 := by
  cases hi with
  | message msg outcome outcome' =>
    have hmode : s'.node.state.snapshot.sendMode = s.node.state.snapshot.sendMode := by
      show s'.node.state.snapshot.others.sendMode = s.node.state.snapshot.others.sendMode
      rw [h.snapshot]
    obtain ⟨h₁, -, -⟩ := Sys.onDetections_members s.node.state s.files (toJsonPayload msg) outcome
    obtain ⟨h₂, -, -⟩ := Sys.onDetections_members s'.node.state s'.files (toJsonPayload msg) outcome'
    refine ⟨⟨h.params, ?_⟩, ?_⟩
    · show (onDetections _ _ _ _).2.2.1.snapshot.others = (onDetections _ _ _ _).2.2.1.snapshot.others
      rw [h₁, h₂]
      exact h.snapshot
    · have hseen := onDetections_seen s.node.state s.files (toJsonPayload msg) outcome
      have hseen' := onDetections_seen s'.node.state s'.files (toJsonPayload msg) outcome'
      rw [hmode, ← hseen] at hseen'
      obtain ⟨hp, hb⟩ := Prod.mk.inj hseen'
      show Output.mk false (if (onDetections _ _ _ _).1 then _ else _) (onDetections _ _ _ _).2.1 = _
      rw [← hp, ← hb]
      rfl
  | batch hb opened opened' =>
    obtain ⟨h₁, h₂⟩ := alike_batch h hb opened opened'
    exact ⟨h₁, congrArg (fun a => ({ accepted := a } : Output)) h₂⟩

/-! ### starts -/

theorem takes_alike {overrides overrides' : ParameterStore} (ho : AlikeStore overrides overrides')
    {d : Parameter} {v : ParameterValue} (h : Takes overrides d v) :
    ∃ v', Takes overrides' d v' ∧ AlikeEntry (d.1, v) (d.1, v') := by
  have htype := ho.type d.1
  rcases h with ⟨hnone, rfl⟩ | ⟨hsome, ht⟩
  · rw [hnone] at htype
    exact ⟨d.2, .inl ⟨Option.map_eq_none_iff.mp htype, rfl⟩, rfl, rfl, fun _ => rfl⟩
  · rw [hsome] at htype
    obtain ⟨v', hv', ht'⟩ := Option.map_eq_some_iff.mp htype
    refine ⟨v', .inr ⟨hv', ht'.trans ht⟩, rfl, ht', fun hp => ?_⟩
    have hvalue := ho.value d.1 hp
    rw [hsome, hv'] at hvalue
    exact Option.some.inj hvalue

theorem declareParameters_alike {overrides overrides' : ParameterStore} (ho : AlikeStore overrides overrides')
    {defaults : List Parameter} {params : ParameterStore} :
    ∀ {others others' : ParameterStore}, AlikeStore others others' →
      declareParameters others overrides defaults = .ok params →
      ∃ params', declareParameters others' overrides' defaults = .ok params' ∧ AlikeStore params params' := by
  induction defaults with
  | nil =>
    intro others others' h hd
    cases hd
    exact ⟨others', rfl, h⟩
  | cons d ds ih =>
    intro others others' h hd
    obtain ⟨v, hv, hrest⟩ := declareParameters_cons.mp hd
    obtain ⟨v', hv', he⟩ := takes_alike ho hv
    obtain ⟨params', hp, hs⟩ := ih (h.set he) hrest
    exact ⟨params', declareParameters_cons.mpr ⟨v', hv', hp⟩, hs⟩

theorem build_alike {params params' : ParameterStore} (h : AlikeStore params params') {s : Snapshot}
    (hb : buildSnapshotFromParameters params = .ok s) :
    ∃ s', buildSnapshotFromParameters params' = .ok s' ∧ s'.others = s.others := by
  obtain ⟨hs, hr⟩ := buildSnapshot_iff.mp hb
  simp only [Mirror.Shows, Snapshot.view, List.forall_mem_cons] at hs
  obtain ⟨h₁, h₂, h₃, h₄, h₅, h₆, h₇, h₈, -⟩ := hs
  obtain ⟨b, hb'⟩ : ∃ b, params' "save_results" = some (.bool b) := by
    have ht := h.type "save_results"
    rw [h₆] at ht
    obtain ⟨v, hv, ht⟩ := Option.map_eq_some_iff.mp ht
    obtain ⟨b, rfl⟩ := ParameterValue.asBool_of_type ht
    exact ⟨b, hv⟩
  obtain ⟨p, hp'⟩ : ∃ p, params' "result_output_path" = some (.string p) := by
    have ht := h.type "result_output_path"
    rw [h₇] at ht
    obtain ⟨v, hv, ht⟩ := Option.map_eq_some_iff.mp ht
    obtain ⟨p, rfl⟩ := ParameterValue.asString_of_type ht
    exact ⟨p, hv⟩
  refine ⟨{ s with saveResults := b, resultOutputPath := p }, buildSnapshot_iff.mpr ⟨?_, ?_⟩, rfl⟩
  · simp only [Mirror.Shows, Snapshot.view, List.forall_mem_cons]
    exact ⟨(h.value _ rfl).trans h₁, (h.value _ rfl).trans h₂, (h.value _ rfl).trans h₃,
      (h.value _ rfl).trans h₄, (h.value _ rfl).trans h₅, hb', hp', (h.value _ rfl).trans h₈,
      fun x hx => absurd hx List.not_mem_nil⟩
  · show { rebuilt s with saveResults := b, resultOutputPath := p } = _
    rw [hr]

theorem alike_start {others overrides overrides' : ParameterStore} (ho : AlikeStore overrides overrides')
    {opened : Bool} {n : Node} (h : start others overrides opened = .ok (.ok n)) (opened' : Bool) :
    ∃ n', start others overrides' opened' = .ok (.ok n') ∧ AlikeNode n n' := by
  obtain ⟨params, s, hp, hb, hc, rfl⟩ := startNode_ok.mp h
  obtain ⟨params', hp', hs⟩ := declareParameters_alike ho ⟨fun _ => rfl, fun _ _ => rfl⟩ hp
  obtain ⟨s', hb', ho'⟩ := build_alike hs hb
  exact ⟨_, startNode_ok.mpr ⟨params', s', hp', hb', (check_others ho').trans hc, rfl⟩, hs, ho'⟩

/-- **Saving is apart from the other outputs.** In every run bytes are written only while results are
saved, and only to the path of the snapshot. A run with other values of the two settings and other answers
of the operating system accepts the same batches, relays the same messages and posts the same bodies. -/
theorem saving_apart {others overrides : ParameterStore} {opened : Bool} {n : Node}
    (h : start others overrides opened = .ok (.ok n)) (files : Files) (inputs : List Input) :
    (∀ i path, let s := Machine.after Saving.step ⟨n, files⟩ inputs
      (Saving.step s i).1.files path ≠ s.files path →
        s.node.state.snapshot.saveResults = true ∧ s.node.state.snapshot.resultOutputPath = path) ∧
    ∀ overrides' opened' files' inputs', AlikeStore overrides overrides' →
      List.Forall₂ AlikeInput inputs inputs' →
      ∃ n', start others overrides' opened' = .ok (.ok n') ∧
        Machine.outputs Saving.step ⟨n, files⟩ inputs = Machine.outputs Saving.step ⟨n', files'⟩ inputs' := by
  refine ⟨fun i path => ?_, fun overrides' opened' files' inputs' ho hi => ?_⟩
  · have ha : Aligned (Machine.after Saving.step ⟨n, files⟩ inputs).node.state :=
      Machine.after_inv (P := fun s : State => Aligned s.node.state) aligned_step (aligned_start h) inputs
    exact step_files ha
  · obtain ⟨n', hn', ha⟩ := alike_start ho h opened'
    exact ⟨n', hn', Machine.outputs_eq (R := fun s s' : State => AlikeNode s.node s'.node) alike_step ha hi⟩

/-- saving is switched on in a mode that posts, and a message arrives -/
def saveTo (path : Bytes) (opened : Bool) (outcome : WriteOutcome) : List Input := [
  .batch [("send_mode", .string (lit "both")), ("save_results", .bool true),
    ("result_output_path", .string path)] opened,
  .message ⟨⟨1, 0, lit "map"⟩, []⟩ outcome]

theorem saveTo_alike (path path' : Bytes) (opened opened' : Bool)
    (outcome outcome' : WriteOutcome) :
    List.Forall₂ AlikeInput (saveTo path opened outcome) (saveTo path' opened' outcome') := by
  refine .cons (.batch (.cons ?_ (.cons ?_ (.cons ?_ .nil))) opened opened')
    (.cons (.message _ outcome outcome') .nil)
  · exact ⟨rfl, rfl, fun _ => rfl⟩
  · exact ⟨rfl, rfl, fun _ => rfl⟩
  · exact ⟨rfl, rfl, fun (hp : isPlace "result_output_path" = false) => absurd hp (by decide)⟩

/-- Two runs: one saves the message, the other cannot open its file. -/
theorem saving_apart_failing :
    (∀ i path, let s := Machine.after Saving.step ⟨defaultNode, fun _ => []⟩ (saveTo (lit "/tmp/a") true .ok)
      (Saving.step s i).1.files path ≠ s.files path →
        s.node.state.snapshot.saveResults = true ∧ s.node.state.snapshot.resultOutputPath = path) ∧
    ∃ n', start (fun _ => none) (fun _ => none) false = .ok (.ok n') ∧
      Machine.outputs Saving.step ⟨defaultNode, fun _ => []⟩ (saveTo (lit "/tmp/a") true .ok) =
        Machine.outputs Saving.step ⟨n', fun _ => lit "[]"⟩
          (saveTo (lit "/root/b") false (.writeFails 2)) := by
  have h := saving_apart start_default (fun _ => []) (saveTo (lit "/tmp/a") true .ok)
  exact ⟨h.1, h.2 (fun _ => none) false (fun _ => lit "[]") _ ⟨fun _ => rfl, fun _ _ => rfl⟩
    (saveTo_alike (lit "/tmp/a") (lit "/root/b") true false .ok (.writeFails 2))⟩

end VD.DetectionSenderNode
