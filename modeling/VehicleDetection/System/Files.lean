import VehicleDetection.Sender.Results
import VehicleDetection.System.Pipeline

/-!
# From the point cloud to the result file

What the sender writes to its files in the runs of `Pipeline`.

* `Next`    what a step of the pipeline is for the sender;
* `Written`  what a file holds, by the messages that the sender has received;
* `filed`   what is in a file comes from the detection messages of the frames of the run.
-/

set_option linter.unusedVariables false

namespace VD.Pipeline
open BStr Lines Relay VehicleDetectorNode DetectionSenderNode DetectionSenderNode.Results

section
variable {D T : Type} {topics : Topics} {p p' : State D}

/-- A step of the pipeline as the sender sees it. -/
inductive Next (p p' : State D) : Event D T → Prop
  | away {e : Event D T} (hsender : p'.sender = p.sender) (hreceived : p'.raw.received = p.raw.received) : Next p p' e
  | receive (outcome : WriteOutcome) (msg : Detection3DArray Float)
      (hstep : p.sender.step (.detections (toJsonPayload msg) outcome) = some p'.sender)
      (hreceived : p'.raw.received = p.raw.received ++ [msg]) : Next p p' (.receive outcome)
  | sender (e : DetectionSenderNode.Event) (he : ∀ payload outcome, e ≠ .detections payload outcome)
      (hstep : p.sender.step e = some p'.sender) (hreceived : p'.raw.received = p.raw.received) :
      Next p p' (.sender e)

theorem publishRaw_received (raw : Channel (Detection3DArray Float)) (published : Option (Publications D)) :
    (publishRaw topics raw published).received = raw.received := by
  unfold publishRaw
  split
  · split <;> rfl
  · rfl

theorem step_next {e : Event D T} (h : step topics p e = some p') : Next p p' e := by
  unfold step at h
  split at h
  · cases h
    exact .away rfl rfl
  · cases h
    exact .away rfl rfl
  · split at h
    · cases h
    · obtain ⟨⟨msg, points⟩, -, rfl⟩ := Option.map_eq_some_iff.mp h
      exact .away rfl rfl
  · split at h
    · cases h
    · cases h
      exact .away rfl (publishRaw_received _ _)
  · cases h
    exact .away rfl rfl
  · cases h
    exact .away rfl rfl
  · obtain ⟨⟨msg, raw⟩, hr, h⟩ := Option.bind_eq_some_iff.mp h
    obtain ⟨sender, hs, rfl⟩ := Option.map_eq_some_iff.mp h
    exact .receive _ msg hs (Channel.receive_some hr).2.1
  · cases h
  · rename_i e he
    obtain ⟨sender, hs, rfl⟩ := Option.map_eq_some_iff.mp h
    exact .sender e (fun payload outcome hd => he payload outcome hd) hs rfl

/-- no write fails -/
def Event.Writes : Event D T → Prop
  | .receive outcome => outcome = .ok
  | _ => True

/-! ## what a file holds -/

/-- Behind what was in it, what is left of the records of messages that the sender has received. -/
structure Written (R : Bytes → DetectionJsonPayload → Prop) (files : Files) (path : Bytes) (p : State D) : Prop where
  settled : (place p.sender).Settled
  pieces : ∃ pieces, p.sender.files path = files path ++ pieces.flatten ∧
    List.SublistForall₂ (fun bytes array => R bytes (toJsonPayload array)) pieces p.raw.received

variable {R : Bytes → DetectionJsonPayload → Prop} {files : Files} {path : Bytes}

theorem Written.step (h : Written R files path p) {e : Event D T} (hs : step topics p e = some p')
    (hR : ∀ bytes payload, Piece bytes payload → (e.Writes → bytes = record payload) → R bytes payload) :
    Written R files path p' := by
  obtain ⟨pieces, hfile, hmade⟩ := h.pieces
  cases step_next hs with
  | away hsender hreceived =>
    refine ⟨hsender ▸ h.settled, pieces, ?_, ?_⟩
    · rw [hsender, hfile]
    · rw [hreceived]
      exact hmade
  | receive outcome msg hstep hreceived =>
    refine ⟨settled_step h.settled hstep, ?_⟩
    rw [hreceived]
    cases step_added h.settled hstep path with
    | nothing hsame _ => exact ⟨pieces, hsame.trans hfile, made_skip hmade msg⟩
    | piece payload bytes harr hadd hpiece hwhole =>
      have hpayload : payload = toJsonPayload msg := by
        by_cases hto : SavesTo p.sender.node.params path
        · exact (List.head_eq_of_cons_eq ((if_pos hto).symm.trans harr)).symm
        · exact absurd ((if_neg hto).symm.trans harr) (List.cons_ne_nil _ _).symm
      subst hpayload
      refine ⟨pieces ++ [bytes], ?_, made_concat hmade (hR _ _ hpiece hwhole)⟩
      rw [hadd, hfile, List.flatten_concat, List.append_assoc]
  | sender e he hstep hreceived =>
    refine ⟨settled_step h.settled hstep, pieces, ?_, ?_⟩
    · cases step_added h.settled hstep path with
      | nothing hsame _ => exact hsame.trans hfile
      | piece payload bytes harr _ _ _ =>
        cases e with
        | detections payload outcome => exact absurd rfl (he payload outcome)
        | parameters | ensureStarted | enqueue | wake | copySnapshot | attempt | shutdown => cases harr
    · rw [hreceived]
      exact hmade

theorem run_written {sender : DetectionSenderNode.Node} {others overrides : ParameterStore} {opened : Bool}
    (hsender : DetectionSenderNode.start others overrides opened = .ok (.ok sender))
    {loader : PcdLoaderNode.Node D} {detector : VehicleDetectorNode.Node} {events : List (Event D T)}
    (h : Steps.run (step topics) (initial loader detector sender files) events = some p)
    (hR : ∀ e ∈ events, ∀ bytes payload, Piece bytes payload → (e.Writes → bytes = record payload) →
      R bytes payload) : Written R files path p := by
  refine Steps.run_keeps (fun s t e hw he hs => hw.step hs he) ?_ hR h
  exact ⟨settled_start hsender files, [], (List.append_nil _).symm, .nil⟩

end

/-! ## whole runs -/

/-- **From the point cloud to the result file.** In every run of three started nodes, whatever is lost and
whatever is set: the frames of the detector have published clouds of their own, and behind what was in a file it
holds what writes have left of the records of their detection messages, one write for each message at most, in the
order of the frames. If no write fails and the file began with complete lines, the new lines are read as the
documents of such messages. -/
theorem filed {D T : Type} (topics : Topics) {loader : PcdLoaderNode.Node D}
    {detectorOthers detectorOverrides senderOthers senderOverrides : ParameterStore} {opened : Bool}
    {detector : VehicleDetectorNode.Node} {sender : DetectionSenderNode.Node} (files : Files)
    (hdetector : VehicleDetectorNode.start detectorOthers detectorOverrides = .ok (.ok detector))
    (hsender : DetectionSenderNode.start senderOthers senderOverrides opened = .ok (.ok sender))
    (events : List (Event D T)) (p : State D)
    (h : Steps.run (step topics) (initial loader detector sender files) events = some p) (path : Bytes) :
    let published := PcdLoaderNode.messages loader (loaderEvents events)
    let frames := framesOf topics (initial loader detector sender files) events
    let detected := frames.filterMap Frame.detections?
    Seen detector (batchesOf events) (clouds topics published) frames ∧
    (∃ pieces, p.sender.files path = files path ++ pieces.flatten ∧
      List.SublistForall₂ (fun bytes array => Piece bytes (toJsonPayload array)) pieces detected) ∧
    ((∀ e ∈ events, e.Writes) → AtLineStart 10 (files path) → AtLineStart 10 (p.sender.files path) ∧
      ∃ kept : List (Detection3DArray Float), kept.Sublist detected ∧ readLines (p.sender.files path) =
        readLines (files path) ++ kept.map fun array => some (documentOf (toJsonPayload array))) := by
  intro published frames detected
  have hinv : Inv detector (batchesOf events) frames p := run_inv (DetectionSenderNode.start_inv hsender) h
  have hpublished : p.points.sent = clouds topics published := (run_sent events h).trans (List.nil_append _)
  have hreceived : p.raw.received.Sublist detected := hinv.raw.received.trans hinv.sent
  refine ⟨?_, ?_, fun hw hf => ?_⟩
  · rw [← hpublished]
    exact hinv.seen (VehicleDetectorNode.start_inv hdetector)
  · obtain ⟨-, pieces, hfile, hmade⟩ : Written Piece files path p :=
      run_written hsender h fun e _ bytes payload hpiece _ => hpiece
    exact ⟨pieces, hfile, made_sublist hmade hreceived⟩
  · obtain ⟨-, pieces, hfile, hmade⟩ : Written (fun bytes payload => bytes = record payload) files path p :=
      run_written hsender h fun e he bytes payload _ hwhole => hwhole (hw e he)
    obtain ⟨kept, hkept, hsub⟩ := List.sublistForall₂_iff.mp hmade
    have hpieces : pieces = (kept.map toJsonPayload).map record := by
      rw [← List.forall₂_eq_eq_eq, List.forall₂_map_right_iff, List.forall₂_map_right_iff]
      exact hkept
    rw [hfile, hpieces]
    refine ⟨(lines_records hf _).2, kept, hsub.trans hreceived, ?_⟩
    rw [readLines_records hf, List.map_map]
    rfl

/-- One cloud is lost, and the detections of the next one are in the file. -/
def filedEvents : List (Event Nat Unit) := [
  .sender (.parameters [("save_results", .bool true), ("result_output_path", .string (lit "a.jsonl"))] true),
  .sender .ensureStarted,
  .loader (.timer (PcdLoaderNode.flakyDisk 0)), .losePoints 0, .loader (.timer (PcdLoaderNode.flakyDisk 3)), .frameBegins,
  .frameEnds onePointOutside onePointPcl_documented, .receive .ok]

theorem filed_lossy : ∃ loader p,
    PcdLoaderNode.construct PcdLoaderNode.allFiles (PcdLoaderNode.flakyDisk 0) (fun _ => none)
      PcdLoaderNode.twoFiles = .ok (.ok loader) ∧
    Steps.run (step defaultTopics) (initial loader VehicleDetectorNode.defaultNode
      DetectionSenderNode.defaultNode fun _ => []) filedEvents = some p ∧
    p.sender.files (lit "a.jsonl") ≠ [] ∧
    let frames := framesOf defaultTopics (initial loader VehicleDetectorNode.defaultNode
      DetectionSenderNode.defaultNode fun _ => []) filedEvents
    Seen VehicleDetectorNode.defaultNode (batchesOf filedEvents)
      (clouds defaultTopics (PcdLoaderNode.messages loader (loaderEvents filedEvents))) frames ∧
    ∃ kept : List (Detection3DArray Float), kept.Sublist (frames.filterMap Frame.detections?) ∧
      readLines (p.sender.files (lit "a.jsonl")) =
        kept.map fun array => some (documentOf (toJsonPayload array)) := by
  have hrun : ∃ loader p, PcdLoaderNode.construct PcdLoaderNode.allFiles (PcdLoaderNode.flakyDisk 0)
        (fun _ => none) PcdLoaderNode.twoFiles = .ok (.ok loader) ∧
      Steps.run (step defaultTopics) (initial loader VehicleDetectorNode.defaultNode
        DetectionSenderNode.defaultNode fun _ => []) filedEvents = some p ∧
      p.sender.files (lit "a.jsonl") ≠ [] :=
    ⟨_, _, rfl, rfl, List.append_ne_nil_of_right_ne_nil []
      (List.append_ne_nil_of_right_ne_nil _ (List.cons_ne_nil 10 []))⟩
  obtain ⟨loader, p, hloader, h, hsaved⟩ := hrun
  obtain ⟨hseen, -, hlines⟩ := filed defaultTopics (fun _ => []) VehicleDetectorNode.start_default
    DetectionSenderNode.start_default filedEvents p h (lit "a.jsonl")
  obtain ⟨-, hread⟩ := hlines (by simp [filedEvents, Event.Writes]) (.inl rfl)
  exact ⟨loader, p, hloader, h, hsaved, hseen, hread⟩

end VD.Pipeline
