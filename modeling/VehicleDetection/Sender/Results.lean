import VehicleDetection.Base.Channel
import VehicleDetection.Detection.Document
import VehicleDetection.Sender.Saving

/-!
# The result files

What is in the files after any interleaving of messages, batches, the worker and the shutdown. The disk may
refuse to open a file, and a write may fail with a part of the record written, some of it twice.

* `SavesTo`, `arrivals`  the messages that come while the parameters name a file;
* `Settled`   what the writer has to do with the parameters;
* `Added`     what one step adds to a file;
* `Piece`     what a write leaves of a record;
* `result_file`  a file holds pieces of the records of its messages, the whole records if no write fails, and
  those of all its messages if no file fails to open either.
-/

set_option linter.unusedVariables false

namespace VD.DetectionSenderNode
open BStr Lines

namespace Results

/-- results are saved to this file -/
def SavesTo (params : ParameterStore) (path : Bytes) : Prop :=
  params "save_results" = some (.bool true) ∧ params "result_output_path" = some (.string path)

instance (params : ParameterStore) (path : Bytes) : Decidable (SavesTo params path) :=
  inferInstanceAs (Decidable (_ ∧ _))

/-- the message of an event, if it comes for this file -/
def arrival (path : Bytes) (s : Sys) : Event → List DetectionJsonPayload
  | .detections payload _ => if SavesTo s.node.params path then [payload] else []
  | _ => []

/-- the messages of a run that come for this file -/
def arrivals (path : Bytes) (s : Sys) (events : List Event) : List DetectionJsonPayload :=
  Steps.outputs Sys.step (arrival path) s events

def record (payload : DetectionJsonPayload) : Bytes := serializeDetections payload ++ [10]

/-- What a write leaves of a record: a beginning of it, and behind that what `close` has written again of a
buffer that begins within it. -/
def Piece (bytes : Bytes) (payload : DetectionJsonPayload) : Prop :=
  ∃ held n m, bytes = (record payload).take (held + n) ++ ((record payload).drop held).take m

/-- no write fails -/
def Writes : Event → Prop
  | .detections _ outcome => outcome = .ok
  | _ => True

/-- no file fails to open -/
def Opens : Event → Prop
  | .parameters _ opened => opened = true
  | _ => True

/-! ## what decides where results go -/

/-- the parts of a state that have to do with saving -/
structure Place where
  params : ParameterStore
  snapshot : Snapshot
  writer : DetectionResultWriter
  files : Files

def placeOf (n : Node) (files : Files) : Place := ⟨n.params, n.state.snapshot, n.state.writer, files⟩

def place (s : Sys) : Place := placeOf s.node s.files

theorem step_place {s t : Sys} {e : Event} (h : s.step e = some t) : place t = match e with
    | .parameters batch opened => placeOf (DetectionSenderNode.step s.node (batch, opened)) s.files
    | .detections payload outcome =>
      let r := onDetections s.node.state s.files payload outcome
      placeOf { s.node with state := r.2.2.1 } r.2.2.2
    | _ => place s := by
  cases e with
  | parameters batch opened =>
    simp only [Sys.step] at h
    split at h
    · split at h
      · cases h
        rfl
      · cases h
        rfl
    · cases h
  | ensureStarted =>
    simp only [Sys.step] at h
    split at h
    · cases h
      rfl
    · cases h
  | detections payload outcome =>
    simp only [Sys.step] at h
    split at h
    · cases h
      rfl
    · cases h
  | enqueue =>
    simp only [Sys.step] at h
    split at h
    · cases h
      rfl
    · cases h
  | wake =>
    cases Sys.worker_next rfl h with
    | cleared _ _ => rfl
    | popped _ _ _ _ _ => rfl
  | copySnapshot =>
    cases Sys.worker_next rfl h with
    | skipped _ _ _ => rfl
    | copied _ _ _ => rfl
  | attempt result =>
    cases Sys.worker_next rfl h with
    | retried _ _ _ _ _ _ => rfl
    | finished _ _ _ _ _ _ => rfl
  | shutdown =>
    cases h
    rfl

/-- The snapshot shows the parameters, and a writer that is enabled writes to the file in them. -/
structure Place.Settled (p : Place) : Prop where
  mirror : Mirror.Inv DetectionSenderNode.record UpToDate ⟨p.params, p.snapshot⟩
  aligned : p.writer.enabled = true → p.snapshot.saveResults = true ∧ p.writer.out = some p.snapshot.resultOutputPath

/-- The writer is enabled whenever there is a file to write to. -/
def Place.Ready (p : Place) : Prop :=
  p.snapshot.saveResults = true → p.snapshot.resultOutputPath ≠ [] → p.writer.enabled = true

theorem Place.Settled.savesTo {p : Place} (h : p.Settled) (path : Bytes) : SavesTo p.params path ↔
    p.snapshot.saveResults = true ∧ p.snapshot.resultOutputPath = path := by
  have hshows := h.mirror.upToDate.shows
  have hsaves : p.params "save_results" = some (.bool p.snapshot.saveResults) :=
    hshows ("save_results", .bool p.snapshot.saveResults) (by simp [Snapshot.view])
  have hpath : p.params "result_output_path" = some (.string p.snapshot.resultOutputPath) :=
    hshows ("result_output_path", .string p.snapshot.resultOutputPath) (by simp [Snapshot.view])
  rw [SavesTo, hsaves, hpath]
  simp

theorem settled_start {others overrides : ParameterStore} {opened : Bool} {n : Node}
    (h : start others overrides opened = .ok (.ok n)) (files : Files) : (placeOf n files).Settled :=
  ⟨(start_inv h).mirror, aligned_start h⟩

theorem settled_step {s t : Sys} {e : Event} (h : (place s).Settled) (hs : s.step e = some t) :
    (place t).Settled := by
  rw [step_place hs]
  cases e with
  | parameters batch opened =>
    have hmirror := h.mirror.step lawful batch
    rw [show (⟨(place s).params, (place s).snapshot⟩ : Mirror.State _ _ _) = toState s.node from rfl,
      ← step_mirror s.node (batch, opened)] at hmirror
    exact ⟨hmirror, aligned_batch h.aligned batch opened⟩
  | detections payload outcome =>
    obtain ⟨hsnap, -, -⟩ := Sys.onDetections_members s.node.state s.files payload outcome
    have hmirror := h.mirror
    rw [show (place s).snapshot = s.node.state.snapshot from rfl, ← hsnap] at hmirror
    exact ⟨hmirror, aligned_message h.aligned s.files payload outcome⟩
  | ensureStarted | enqueue | wake | copySnapshot | attempt result | shutdown => exact h

/-! ## a disk that opens every file and takes every write -/

theorem ready_applyWriterConfig (writer : DetectionResultWriter) (snap : Snapshot) :
    snap.saveResults = true → snap.resultOutputPath ≠ [] →
      (applyWriterConfig writer snap true).enabled = true := by
  intro hs hp
  have hne : snap.resultOutputPath.isEmpty = false := by simpa using hp
  simp [applyWriterConfig, DetectionResultWriter.configure, hs, hne]

theorem ready_start {others overrides : ParameterStore} {n : Node}
    (h : start others overrides true = .ok (.ok n)) (files : Files) : (placeOf n files).Ready := by
  obtain ⟨params, s, -, -, -, rfl⟩ := startNode_ok.mp h
  exact ready_applyWriterConfig {} s

theorem ready_commit {m : Members} (h : m.snapshot.saveResults = true → m.snapshot.resultOutputPath ≠ [] →
      m.writer.enabled = true) {batch : List Parameter} {c : Snapshot}
    (hc : DetectionSenderNode.record.patchAll m.snapshot batch = .ok c) :
    c.saveResults = true → c.resultOutputPath ≠ [] → (commit true batch m c).writer.enabled = true := by
  unfold commit
  dsimp only
  cases hb : batch.any isWriterInput with
  | true =>
    rw [if_pos rfl]
    exact ready_applyWriterConfig m.writer c
  | false =>
    rw [if_neg nofun]
    obtain ⟨h₁, h₂⟩ := patchAll_of_not_input hb hc
    rw [h₁, h₂]
    exact h

theorem ready_step {s t : Sys} {e : Event} (h : (place s).Ready) (hw : Writes e) (ho : Opens e)
    (hs : s.step e = some t) : (place t).Ready := by
  rw [step_place hs]
  cases e with
  | parameters batch opened =>
    obtain rfl : opened = true := ho
    show (placeOf (setParametersAtomically (onParameterChange true) s.node batch).2 s.files).Ready
    unfold setParametersAtomically
    split
    · rcases onParameterChange_cases true s.node.state batch with ⟨e, -, he⟩ | ⟨c, reason, -, -, hr⟩ |
          ⟨c, hc, -, hok⟩
      · rw [he]
        exact h
      · rw [hr]
        exact h
      · rw [hok]
        exact ready_commit h hc
    · exact h
  | detections payload outcome =>
    obtain rfl : outcome = .ok := hw
    obtain ⟨hsnap, -, -⟩ := Sys.onDetections_members s.node.state s.files payload .ok
    have hsaved := congrArg Prod.fst (onDetections_saved s.node.state s.files payload .ok)
    have hkept : (onDetections s.node.state s.files payload .ok).2.2.1.writer = s.node.state.writer := by
      apply hsaved.trans
      split
      · unfold DetectionResultWriter.append
        split <;> rfl
      · rfl
    intro hs hp
    have hs' : s.node.state.snapshot.saveResults = true := hsnap ▸ hs
    have hp' : s.node.state.snapshot.resultOutputPath ≠ [] := hsnap ▸ hp
    exact (congrArg DetectionResultWriter.enabled hkept).trans (h hs' hp')
  | ensureStarted | enqueue | wake | copySnapshot | attempt result | shutdown => exact h

/-! ## one step -/

theorem leaves_piece (payload : DetectionJsonPayload) (outcome : WriteOutcome) :
    Piece (outcome.leaves (record payload)) payload := by
  cases outcome with
  | ok =>
    refine ⟨(record payload).length, 0, 0, ?_⟩
    rw [Nat.add_zero, List.take_length, List.take_zero, List.append_nil]
    rfl
  | writeFails n =>
    refine ⟨n, 0, 0, ?_⟩
    rw [Nat.add_zero, List.take_zero, List.append_nil]
    rfl
  | flushFails held n m =>
    refine ⟨held, n, m, ?_⟩
    rw [List.take_add]
    rfl

/-- what an append of an enabled writer leaves in its file -/
theorem append_piece {w : DetectionResultWriter} {file : Bytes} (he : w.enabled = true) (ho : w.out = some file)
    (files : Files) (payload : DetectionJsonPayload) (outcome : WriteOutcome) :
    ∃ bytes, (w.append files payload outcome).2.2 = files.appendTo file bytes ∧ Piece bytes payload ∧
      (outcome = .ok → bytes = record payload) := by
  refine ⟨outcome.leaves (record payload), ?_, leaves_piece payload outcome, ?_⟩
  · unfold DetectionResultWriter.append
    rw [he, ho]
    cases outcome <;> rfl
  · rintro rfl
    rfl

/-- What a step adds to a file: nothing, or a piece of the record of the message that comes for it. -/
inductive Added (path : Bytes) (s t : Sys) (e : Event) : Prop
  | nothing (hsame : t.files path = s.files path)
      (hmissed : arrival path s e ≠ [] → s.node.state.writer.enabled = false)
  | piece (payload : DetectionJsonPayload) (bytes : Bytes) (harrival : arrival path s e = [payload])
      (hfile : t.files path = s.files path ++ bytes) (hpiece : Piece bytes payload)
      (hwhole : Writes e → bytes = record payload)

theorem step_added {s t : Sys} {e : Event} (h : (place s).Settled) (hs : s.step e = some t) (path : Bytes) :
    Added path s t e := by
  have hplace : t.files = (place t).files := rfl
  rw [step_place hs] at hplace
  cases e with
  | detections payload outcome =>
    have hfiles : t.files = (onDetections s.node.state s.files payload outcome).2.2.2 := hplace
    have hsaved := congrArg Prod.snd (onDetections_saved s.node.state s.files payload outcome)
    have hto := h.savesTo path
    cases hsave : s.node.state.snapshot.saveResults with
    | false =>
      rw [hsave, if_neg nofun] at hsaved
      refine .nothing (congrFun (hfiles.trans hsaved) path) fun harr => ?_
      refine absurd (if_neg fun hst => ?_) harr
      exact Bool.false_ne_true (hsave.symm.trans (hto.mp hst).1)
    | true =>
      rw [hsave, if_pos rfl] at hsaved
      cases he : s.node.state.writer.enabled with
      | false =>
        refine .nothing ?_ fun _ => he
        rw [hfiles, hsaved]
        unfold DetectionResultWriter.append
        rw [he]
      | true =>
        obtain ⟨bytes, happ, hpiece, hwhole⟩ :=
          append_piece he (h.aligned he).2 s.files payload outcome
        have hadded : t.files = s.files.appendTo s.node.state.snapshot.resultOutputPath bytes :=
          hfiles.trans (hsaved.trans happ)
        by_cases hp : s.node.state.snapshot.resultOutputPath = path
        · refine .piece payload bytes (if_pos (hto.mpr ⟨hsave, hp⟩)) ?_ hpiece hwhole
          rw [hadded, hp, WriterState.appendTo_self]
        · refine .nothing ?_ fun harr => absurd (if_neg fun hst => hp (hto.mp hst).2) harr
          rw [hadded, WriterState.appendTo_of_ne _ _ (Ne.symm hp)]
  | parameters batch opened => exact .nothing (congrFun hplace path) fun harr => absurd rfl harr
  | ensureStarted | enqueue | wake | copySnapshot | attempt result | shutdown =>
    exact .nothing (congrFun hplace path) fun harr => absurd rfl harr

/-! ## whole runs -/

theorem arrivals_cons {s t : Sys} {e : Event} (h : s.step e = some t) (path : Bytes) (events : List Event) :
    arrivals path s (e :: events) = arrival path s e ++ arrivals path t events := Steps.outputs_cons h events

/-- `R` is what a step leaves of a record. -/
theorem run_pieces {R : Bytes → DetectionJsonPayload → Prop} (path : Bytes) (events : List Event)
    (hR : ∀ e ∈ events, ∀ bytes payload, Piece bytes payload → (Writes e → bytes = record payload) →
      R bytes payload) : ∀ {s t : Sys}, (place s).Settled → Steps.run Sys.step s events = some t →
    ∃ pieces, t.files path = s.files path ++ pieces.flatten ∧
      List.SublistForall₂ R pieces (arrivals path s events) := by
  induction events with
  | nil =>
    intro s t hsettled h
    cases h
    exact ⟨[], (List.append_nil _).symm, .nil⟩
  | cons e events ih =>
    intro s t hsettled h
    obtain ⟨u, hu, hrest⟩ := Steps.run_cons.mp h
    obtain ⟨pieces, hfile, hmade⟩ := ih (fun e he => hR e (List.mem_cons_of_mem _ he))
      (settled_step hsettled hu) hrest
    rw [arrivals_cons hu]
    cases step_added hsettled hu path with
    | nothing hsame _ =>
      exact ⟨pieces, hsame ▸ hfile, Relay.made_sublist hmade (List.sublist_append_right _ _)⟩
    | piece payload bytes harr hadd hpiece hwhole =>
      refine ⟨bytes :: pieces, ?_, ?_⟩
      · rw [hfile, hadd, List.append_assoc, List.flatten_cons]
      · rw [harr]
        exact .cons (hR e List.mem_cons_self bytes payload hpiece hwhole) hmade

/-- With a good disk every message that comes for a file is in it. -/
theorem run_whole {path : Bytes} (hp : path ≠ []) (events : List Event) (hw : ∀ e ∈ events, Writes e ∧ Opens e) :
    ∀ {s t : Sys}, (place s).Settled → (place s).Ready → Steps.run Sys.step s events = some t →
      t.files path = s.files path ++ ((arrivals path s events).map record).flatten := by
  induction events with
  | nil =>
    intro s t _ _ h
    cases h
    exact (List.append_nil _).symm
  | cons e events ih =>
    intro s t hsettled hready h
    obtain ⟨u, hu, hrest⟩ := Steps.run_cons.mp h
    obtain ⟨hwrites, hopens⟩ := hw e List.mem_cons_self
    rw [ih (fun e he => hw e (List.mem_cons_of_mem _ he)) (settled_step hsettled hu)
      (ready_step hready hwrites hopens hu) hrest, arrivals_cons hu, List.map_append, List.flatten_append,
      ← List.append_assoc]
    congr 1
    cases step_added hsettled hu path with
    | nothing hsame hmissed =>
      suffices hnone : arrival path s e = [] by
        rw [hnone, hsame]
        exact (List.append_nil _).symm
      by_contra harr
      have hto : SavesTo s.node.params path := by
        cases e with
        | detections payload outcome =>
          by_contra hst
          exact harr (if_neg hst)
        | parameters | ensureStarted | enqueue | wake | copySnapshot | attempt | shutdown => exact absurd rfl harr
      obtain ⟨hsave, hpath⟩ := (hsettled.savesTo path).mp hto
      have hdisabled : s.node.state.writer.enabled = false := hmissed harr
      have henabled : s.node.state.writer.enabled = true := hready hsave fun hnil => hp (hpath ▸ hnil)
      exact Bool.false_ne_true (hdisabled.symm.trans henabled)
    | piece payload bytes harr hadd hpiece hwhole =>
      rw [hadd, harr, hwhole hwrites, List.map_singleton, List.flatten_singleton]

/-- the lines of whole records -/
theorem lines_records {f : Bytes} (hf : AtLineStart 10 f) (payloads : List DetectionJsonPayload) :
    completeLines 10 (f ++ (payloads.map record).flatten) =
        completeLines 10 f ++ payloads.map serializeDetections ∧
      AtLineStart 10 (f ++ (payloads.map record).flatten) := by
  have hrecords : payloads.map record = (payloads.map serializeDetections).map (· ++ [10]) := by
    rw [List.map_map]
    rfl
  rw [hrecords]
  refine completeLines_records 10 (fun r hr => ?_) hf
  obtain ⟨payload, -, rfl⟩ := List.mem_map.mp hr
  exact serializeDetections_no_newline payload

/-- what the lines of a file are read as -/
def readLines (f : Bytes) : List (Option Document) := (completeLines 10 f).map readDocument

theorem readLines_records {f : Bytes} (hf : AtLineStart 10 f) (payloads : List DetectionJsonPayload) :
    readLines (f ++ (payloads.map record).flatten) =
      readLines f ++ payloads.map fun payload => some (documentOf payload) := by
  rw [readLines, (lines_records hf payloads).1, List.map_append, List.map_map]
  congr 1
  exact List.map_congr_left fun payload _ => readDocument_text payload

/-- **The result files.** After every interleaving of messages, batches, worker steps and shutdown, a file has
kept what was in it, and behind that it holds what writes have left of the records of messages that have come
while the parameters named it, one write for each message at most and in their order: a beginning of the record,
and what `close` has written of it once more. If no write has failed and the file began with complete lines, the
new lines are read as the documents of such messages; and if no file has failed to open either, as those of all
of them. -/
theorem result_file {others overrides : ParameterStore} {opened : Bool} {n : Node}
    (hstart : start others overrides opened = .ok (.ok n)) (files : Files) (events : List Event) (s : Sys)
    (hrun : (Sys.initial n files).run events = some s) (path : Bytes) :
    let came := arrivals path (Sys.initial n files) events
    (∃ pieces, s.files path = files path ++ pieces.flatten ∧ List.SublistForall₂ Piece pieces came) ∧
    ((∀ e ∈ events, Writes e) → AtLineStart 10 (files path) → AtLineStart 10 (s.files path) ∧ ∃ kept,
      kept.Sublist came ∧
      readLines (s.files path) = readLines (files path) ++ kept.map (fun payload => some (documentOf payload)) ∧
      (opened = true → (∀ e ∈ events, Opens e) → path ≠ [] → kept = came)) := by
  intro came
  have hsettled : (place (Sys.initial n files)).Settled := settled_start hstart files
  refine ⟨run_pieces path events (fun e _ bytes payload hpiece _ => hpiece) hsettled hrun, fun hw hf => ?_⟩
  by_cases hgood : opened = true ∧ (∀ e ∈ events, Opens e) ∧ path ≠ []
  · obtain ⟨rfl, ho, hp⟩ := hgood
    have hfile := run_whole hp events (fun e he => ⟨hw e he, ho e he⟩) hsettled (ready_start hstart files) hrun
    rw [hfile]
    exact ⟨(lines_records hf came).2, came, List.Sublist.refl _, readLines_records hf came, fun _ _ _ => rfl⟩
  · obtain ⟨pieces, hfile, hmade⟩ := run_pieces (R := fun bytes payload => bytes = record payload) path events
      (fun e he bytes payload _ hwhole => hwhole (hw e he)) hsettled hrun
    obtain ⟨kept, hkept, hsub⟩ := List.sublistForall₂_iff.mp hmade
    have hpieces : pieces = kept.map record := by
      rw [← List.forall₂_eq_eq_eq, List.forall₂_map_right_iff]
      exact hkept
    have hfile' : s.files path = files path ++ (kept.map record).flatten := hpieces ▸ hfile
    rw [hfile']
    exact ⟨(lines_records hf kept).2, kept, hsub, readLines_records hf kept, fun h₁ h₂ h₃ =>
      absurd ⟨h₁, h₂, h₃⟩ hgood⟩

def firstPayload : DetectionJsonPayload := ⟨0, 0, lit "map", []⟩
def secondPayload : DetectionJsonPayload := ⟨1, 0, lit "map", []⟩

/-- the file is changed between two messages -/
def movedEvents : List Event := [
  .parameters [("save_results", .bool true), ("result_output_path", .string (lit "a.jsonl"))] true, .ensureStarted,
  .detections firstPayload .ok,
  .parameters [("result_output_path", .string (lit "b.jsonl"))] true, .ensureStarted,
  .detections secondPayload .ok]

theorem result_file_moved : ∃ s, (Sys.initial defaultNode fun _ => []).run movedEvents = some s ∧
    readLines (s.files (lit "b.jsonl")) = [some (documentOf secondPayload)] := by
  have hsome : ((Sys.initial defaultNode fun _ => []).run movedEvents).isSome = true := by decide +kernel
  obtain ⟨s, hs⟩ := Option.isSome_iff_exists.mp hsome
  have hcame : arrivals (lit "b.jsonl") (Sys.initial defaultNode fun _ => []) movedEvents = [secondPayload] := by
    decide +kernel
  have hgood : ∀ e ∈ movedEvents, Writes e ∧ Opens e := by simp [movedEvents, Writes, Opens]
  obtain ⟨-, hlines⟩ := result_file start_default (fun _ => []) movedEvents s hs (lit "b.jsonl")
  obtain ⟨-, kept, -, hread, hall⟩ := hlines (fun e he => (hgood e he).1) (.inl rfl)
  rw [hall rfl (fun e he => (hgood e he).2) (by decide), hcame] at hread
  exact ⟨s, hs, hread⟩

end Results

end VD.DetectionSenderNode
