import VehicleDetection.Detection.Json
import VehicleDetection.Base.Lines

/-!
# `detection_result_writer.cpp`: the append-only JSONL sink

The files are a map from paths to contents (a missing file is an empty one); the operating
system decides whether `open` succeeds and how a write ends (`WriteOutcome`); a buffer that could
not be flushed is written again when the file is closed.  A run is a list of calls; the ghost
list `saved` records every payload whose `append` returned true, with the size of the file at
that moment.

* `WriterState.step_cases`  what one call can do;
* `writer_lines`            the saved payloads are the complete lines they were reported as,
                            exactly when no successful append began in the middle of a line.
-/

set_option linter.unusedVariables false

namespace VD
open BStr Lines

inductive DetectionResultFormat where
  | kJsonLines
deriving DecidableEq

structure DetectionResultWriterConfig where
  enabled : Bool := false
  path : Bytes := []
  format : DetectionResultFormat := .kJsonLines
deriving DecidableEq

structure DetectionResultWriterResult where
  ok : Bool
  reason : Bytes
deriving DecidableEq

def DetectionResultWriterResult.success : DetectionResultWriterResult := ⟨true, []⟩
def DetectionResultWriterResult.failure (reason : Bytes) : DetectionResultWriterResult :=
  ⟨false, reason⟩

/-- the parsed format is what the source writes through `out` -/
def parseDetectionResultFormat (name : Bytes) : Except DetectionResultWriterResult DetectionResultFormat :=
  if name = lit "jsonl" then .ok .kJsonLines
  else .error (.failure (lit "result_output_format must be 'jsonl' (got '" ++ name ++ lit "')"))

structure DetectionResultWriter where
  enabled : Bool := false
  format : DetectionResultFormat := .kJsonLines
  path : Bytes := []
  /-- `out_`: the file the stream is open on -/
  out : Option Bytes := none
  lastError : Bytes := []
deriving DecidableEq

/-- how a write ends: in full, or with an error after `n` bytes have reached the file. The first `held` bytes of
a record that is too long for the buffer of the stream are in the file before the flush; a buffer whose flush has
failed after `n` bytes is written once more by `close`, which gets `m` bytes far. -/
inductive WriteOutcome where
  | ok
  | writeFails (n : Nat)
  | flushFails (held n m : Nat)
deriving DecidableEq

/-- what reaches the file -/
def WriteOutcome.leaves (line : Bytes) : WriteOutcome → Bytes
  | .ok => line
  | .writeFails n => line.take n
  | .flushFails held n m =>
    let buffer := line.drop held
    line.take held ++ buffer.take n ++ buffer.take m

abbrev Files := Bytes → Bytes

def Files.appendTo (files : Files) (path bytes : Bytes) : Files :=
  Function.update files path (files path ++ bytes)

namespace DetectionResultWriter

/-- `opened`: whether the operating system opens the file for append -/
def configure (_ : DetectionResultWriter) (config : DetectionResultWriterConfig) (opened : Bool) :
    DetectionResultWriterResult × DetectionResultWriter :=
  -- the prior file is closed and every field reset before anything is checked
  let w : DetectionResultWriter := {}
  if !config.enabled then (.success, w)
  else if config.path.isEmpty then
    let reason := lit "result_output_path must not be empty when save_results=true"
    (.failure reason, { w with lastError := reason })
  else if !opened then
    let reason := lit "failed to open result_output_path for append: " ++ config.path
    (.failure reason, { w with lastError := reason })
  else
    (.success, { w with
      enabled := true, format := config.format, path := config.path, out := some config.path })

def append (w : DetectionResultWriter) (files : Files) (payload : DetectionJsonPayload)
    (outcome : WriteOutcome) : Bool × DetectionResultWriter × Files :=
  match w.enabled, w.out with
  | true, some file =>
    let line := serializeDetections payload ++ [10]
    match outcome with
    | .ok => (true, w, files.appendTo file (outcome.leaves line))
    | .writeFails _ =>
      (false, { w with
        enabled := false, out := none
        lastError := lit "write to result_output_path failed: " ++ w.path },
        files.appendTo file (outcome.leaves line))
    | .flushFails _ _ _ =>
      (false, { w with
        enabled := false, out := none
        lastError := lit "flush to result_output_path failed: " ++ w.path },
        files.appendTo file (outcome.leaves line))
  | _, _ => (false, w, files)

def isOpen (w : DetectionResultWriter) : Bool := w.enabled && w.out.isSome

end DetectionResultWriter

/-! ## runs -/

inductive WriterCall where
  | configure (config : DetectionResultWriterConfig) (opened : Bool)
  | append (payload : DetectionJsonPayload) (outcome : WriteOutcome)

/-- an append that returned true: the file, its size before the call, the payload -/
structure Saved where
  path : Bytes
  offset : Nat
  payload : DetectionJsonPayload
deriving DecidableEq

structure WriterState where
  writer : DetectionResultWriter := {}
  files : Files
  saved : List Saved := []

namespace WriterState

def step (s : WriterState) : WriterCall → WriterState
  | .configure config opened => { s with writer := (s.writer.configure config opened).2 }
  | .append payload outcome =>
    let (returned, writer, files) := s.writer.append s.files payload outcome
    let path := s.writer.out.getD []
    { writer := writer
      files := files
      saved := if returned then s.saved ++ [⟨path, (s.files path).length, payload⟩] else s.saved }

def run (s : WriterState) (calls : List WriterCall) : WriterState := calls.foldl step s

/-- the payloads reported as saved to one file, in call order -/
def savedTo (s : WriterState) (path : Bytes) : List Saved := s.saved.filter (·.path = path)

/-- the bytes of a saved payload begin a line of its file and are followed by a newline -/
def OwnLine (f : Bytes) (r : Saved) : Prop :=
  AtLineStart 10 (f.take r.offset) ∧ serializeDetections r.payload ++ [10] <+: f.drop r.offset

/-- Splitting the file at the newlines gives one complete line for each payload reported as
saved, in call order, and none of them is glued to bytes that were in the file before. -/
def LinesSaved (s : WriterState) : Prop :=
  ∀ path, ((s.savedTo path).map fun r => serializeDetections r.payload).Sublist
      (completeLines 10 (s.files path)) ∧
    ∀ r ∈ s.savedTo path, OwnLine (s.files path) r

end WriterState

/-- the condition on one call: a write that will succeed starts at the beginning of a line -/
def WriterCall.Clean (s : WriterState) : WriterCall → Prop
  | .configure _ _ => True
  | .append _ outcome => outcome = .ok → ∀ file, s.writer.enabled = true → s.writer.out = some file →
      AtLineStart 10 (s.files file)

def CleanRun (s : WriterState) : List WriterCall → Prop
  | [] => True
  | c :: calls => c.Clean s ∧ CleanRun (s.step c) calls

namespace WriterState

/-- what one call can do: write nothing, write something and report failure, or write a whole record and
report success -/
theorem step_cases (s : WriterState) (c : WriterCall) :
    ((s.step c).files = s.files ∧ (s.step c).saved = s.saved ∧ c.Clean s) ∨
    (∃ file x, (s.step c).files = s.files.appendTo file x ∧ (s.step c).saved = s.saved ∧
      c.Clean s) ∨
    (∃ file payload,
      (s.step c).files = s.files.appendTo file (serializeDetections payload ++ [10]) ∧
      (s.step c).saved = s.saved ++ [⟨file, (s.files file).length, payload⟩] ∧
      (c.Clean s ↔ AtLineStart 10 (s.files file))) := by
  cases c with
  | configure config opened => exact Or.inl ⟨rfl, rfl, trivial⟩
  | append payload outcome =>
    cases he : s.writer.enabled with
    | false =>
      left
      have h : s.writer.append s.files payload outcome = (false, s.writer, s.files) := by
        simp [DetectionResultWriter.append, he]
      refine ⟨by simp [step, h], by simp [step, h], fun _ file h' => ?_⟩
      rw [he] at h'
      cases h'
    | true =>
      cases ho : s.writer.out with
      | none =>
        left
        have h : s.writer.append s.files payload outcome = (false, s.writer, s.files) := by
          simp [DetectionResultWriter.append, he, ho]
        refine ⟨by simp [step, h], by simp [step, h], fun _ file _ h' => ?_⟩
        rw [ho] at h'
        cases h'
      | some file =>
        right
        cases outcome with
        | ok =>
          right
          refine ⟨file, payload, ?_, ?_, ?_⟩
          · simp [step, DetectionResultWriter.append, WriteOutcome.leaves, he, ho]
          · simp [step, DetectionResultWriter.append, he, ho]
          · constructor
            · intro h
              exact h rfl file he ho
            · intro h _ file' _ h'
              rw [ho] at h'
              cases h'
              exact h
        | writeFails n =>
          left
          refine ⟨file, (WriteOutcome.writeFails n).leaves (serializeDetections payload ++ [10]), ?_, ?_, ?_⟩
          · simp [step, DetectionResultWriter.append, he, ho]
          · simp [step, DetectionResultWriter.append, he, ho]
          · intro h
            cases h
        | flushFails held n m =>
          left
          refine ⟨file, (WriteOutcome.flushFails held n m).leaves (serializeDetections payload ++ [10]), ?_, ?_, ?_⟩
          · simp [step, DetectionResultWriter.append, he, ho]
          · simp [step, DetectionResultWriter.append, he, ho]
          · intro h
            cases h

/-! ## one call -/

theorem appendTo_self (files : Files) (file x : Bytes) :
    files.appendTo file x file = files file ++ x := Function.update_self ..

theorem appendTo_of_ne (files : Files) {file path : Bytes} (x : Bytes) (h : path ≠ file) :
    files.appendTo file x path = files path := Function.update_of_ne h ..

/-- a call only ever appends to the files -/
theorem step_files (s : WriterState) (c : WriterCall) (path : Bytes) :
    ∃ x, (s.step c).files path = s.files path ++ x := by
  have happ : ∀ file x, ∃ y, s.files.appendTo file x path = s.files path ++ y := by
    intro file x
    by_cases h : path = file
    · subst h
      exact ⟨x, appendTo_self ..⟩
    · exact ⟨[], by rw [appendTo_of_ne _ _ h, List.append_nil]⟩
  rcases step_cases s c with ⟨hf, -, -⟩ | ⟨file, x, hf, -, -⟩ | ⟨file, payload, hf, -, -⟩
  · exact ⟨[], by rw [hf, List.append_nil]⟩
  · rw [hf]; exact happ file x
  · rw [hf]; exact happ file _

/-- what is always true of the saved payloads, however the calls went -/
structure Recorded (f : Bytes) (rs : List Saved) : Prop where
  bytes : ∀ r ∈ rs, r.offset ≤ f.length ∧ serializeDetections r.payload ++ [10] <+: f.drop r.offset
  lines : (∀ r ∈ rs, AtLineStart 10 (f.take r.offset)) →
    (rs.map fun r => serializeDetections r.payload).Sublist (completeLines 10 f)

theorem Recorded.nil (f : Bytes) : Recorded f [] :=
  ⟨fun r hr => absurd hr List.not_mem_nil, fun _ => List.nil_sublist _⟩

theorem Recorded.take_append {f : Bytes} {rs : List Saved} (h : Recorded f rs) (x : Bytes)
    {r : Saved} (hr : r ∈ rs) : (f ++ x).take r.offset = f.take r.offset :=
  List.take_append_of_le_length (h.bytes r hr).1

theorem Recorded.extend {f : Bytes} {rs : List Saved} (h : Recorded f rs) (x : Bytes) :
    Recorded (f ++ x) rs := by
  constructor
  · intro r hr
    obtain ⟨hle, hpre⟩ := h.bytes r hr
    refine ⟨by rw [List.length_append]; omega, ?_⟩
    rw [List.drop_append_of_le_length hle]
    exact hpre.trans (List.prefix_append _ _)
  · intro hs
    have hs' : ∀ r ∈ rs, AtLineStart 10 (f.take r.offset) := by
      intro r hr
      rw [← h.take_append x hr]
      exact hs r hr
    exact (h.lines hs').trans (completeLines_extend 10 f x).sublist

/-- a whole record at the end of the file -/
theorem Recorded.record {f : Bytes} {rs : List Saved} (h : Recorded f rs) (path : Bytes)
    (payload : DetectionJsonPayload) :
    Recorded (f ++ (serializeDetections payload ++ [10])) (rs ++ [⟨path, f.length, payload⟩]) := by
  have hx := h.extend (serializeDetections payload ++ [10])
  constructor
  · intro r hr
    rcases List.mem_append.mp hr with hr | hr
    · exact hx.bytes r hr
    · rw [List.mem_singleton] at hr
      subst hr
      refine ⟨by rw [List.length_append]; exact Nat.le_add_right _ _, ?_⟩
      rw [List.drop_left]
  · intro hs
    have hf : AtLineStart 10 f := by
      have := hs ⟨path, f.length, payload⟩ (by simp)
      rwa [List.take_left] at this
    have hrs : ∀ r ∈ rs, AtLineStart 10 (f.take r.offset) := by
      intro r hr
      rw [← h.take_append _ hr]
      exact hs r (List.mem_append_left _ hr)
    rw [completeLines_record 10 hf (serializeDetections_no_newline payload), List.map_append]
    exact (h.lines hrs).append (List.Sublist.refl _)

def AllRecorded (s : WriterState) : Prop := ∀ path, Recorded (s.files path) (s.savedTo path)

theorem savedTo_append (s : WriterState) (r : Saved) (path : Bytes) :
    (s.saved ++ [r]).filter (·.path = path)
      = s.savedTo path ++ if r.path = path then [r] else [] := by
  by_cases h : r.path = path <;> simp [savedTo, h]

theorem step_recorded (s : WriterState) (c : WriterCall) (h : AllRecorded s) :
    AllRecorded (s.step c) := by
  intro path
  rcases step_cases s c with ⟨hf, hs, -⟩ | ⟨file, x, hf, hs, -⟩ | ⟨file, payload, hf, hs, -⟩
  · rw [savedTo, hs, hf]
    exact h path
  · obtain ⟨y, hy⟩ := step_files s c path
    rw [savedTo, hs, hy]
    exact (h path).extend y
  · rw [savedTo, hs, hf, savedTo_append]
    by_cases hp : file = path
    · subst hp
      rw [if_pos rfl, appendTo_self]
      exact (h file).record file payload
    · rw [if_neg hp, List.append_nil, appendTo_of_ne _ _ (Ne.symm hp)]
      exact h path

/-! ## glued and unglued records -/

/-- every saved payload began at a line start of its file -/
def Unglued (s : WriterState) : Prop :=
  ∀ path, ∀ r ∈ s.savedTo path, AtLineStart 10 ((s.files path).take r.offset)

theorem linesSaved_iff {s : WriterState} (h : AllRecorded s) : s.LinesSaved ↔ s.Unglued := by
  constructor
  · intro hl path r hr
    exact ((hl path).2 r hr).1
  · intro hu path
    exact ⟨(h path).lines (hu path), fun r hr => ⟨hu path r hr, ((h path).bytes r hr).2⟩⟩

/-- one call keeps the records unglued exactly when it is clean -/
theorem step_unglued (s : WriterState) (c : WriterCall) (h : AllRecorded s) :
    (s.step c).Unglued ↔ s.Unglued ∧ c.Clean s := by
  have hold : ∀ path, ∀ r ∈ s.savedTo path,
      ((s.step c).files path).take r.offset = (s.files path).take r.offset := by
    intro path r hr
    obtain ⟨x, hx⟩ := step_files s c path
    rw [hx, (h path).take_append x hr]
  have hsame : (s.step c).saved = s.saved → ((s.step c).Unglued ↔ s.Unglued) := by
    intro hs
    refine forall_congr' fun path => ?_
    rw [savedTo, hs]
    exact forall₂_congr fun r hr => by rw [hold path r hr]
  rcases step_cases s c with ⟨-, hs, hc⟩ | ⟨file, x, -, hs, hc⟩ | ⟨file, payload, hf, hs, hc⟩
  · rw [hsame hs]
    exact (and_iff_left hc).symm
  · rw [hsame hs]
    exact (and_iff_left hc).symm
  · have hnew : ((s.step c).files file).take (s.files file).length = s.files file := by
      rw [hf, appendTo_self, List.take_left]
    constructor
    · intro hu
      refine ⟨fun path r hr => ?_, hc.mpr ?_⟩
      · rw [← hold path r hr]
        apply hu path r
        rw [savedTo, hs, savedTo_append]
        exact List.mem_append_left _ hr
      · have := hu file ⟨file, (s.files file).length, payload⟩ (by
          rw [savedTo, hs, savedTo_append, if_pos rfl]
          simp)
        rwa [hnew] at this
    · rintro ⟨hu, hcl⟩ path r hr
      rw [savedTo, hs, savedTo_append] at hr
      rcases List.mem_append.mp hr with hr | hr
      · rw [hold path r hr]
        exact hu path r hr
      · by_cases hp : file = path
        · subst hp
          rw [if_pos rfl, List.mem_singleton] at hr
          subst hr
          rw [hnew]
          exact hc.mp hcl
        · rw [if_neg hp] at hr
          exact absurd hr List.not_mem_nil

/-! ## whole runs -/

theorem run_recorded (calls : List WriterCall) :
    ∀ s : WriterState, AllRecorded s → AllRecorded (s.run calls) := by
  induction calls with
  | nil => exact fun s h => h
  | cons c calls ih => exact fun s h => ih (s.step c) (step_recorded s c h)

theorem run_unglued (calls : List WriterCall) :
    ∀ s : WriterState, AllRecorded s → ((s.run calls).Unglued ↔ s.Unglued ∧ CleanRun s calls) := by
  induction calls with
  | nil => exact fun s h => (and_iff_left trivial).symm
  | cons c calls ih =>
    intro s h
    show ((s.step c).run calls).Unglued ↔ s.Unglued ∧ c.Clean s ∧ CleanRun (s.step c) calls
    rw [ih (s.step c) (step_recorded s c h), step_unglued s c h, and_assoc]

/-- a new writer before the files as they are found -/
def start (files : Files) : WriterState := { files := files }

/-- **Saved lines.**  After any run over any initial files, the payloads reported as saved are
complete lines of their file, in call order and unglued, if and only if every append that
succeeded began at a line start. -/
theorem writer_lines (files : Files) (calls : List WriterCall) :
    ((start files).run calls).LinesSaved ↔ CleanRun (start files) calls := by
  have h0 : AllRecorded (start files) := fun path => Recorded.nil _
  have hu : (start files).Unglued := fun path r hr => absurd hr List.not_mem_nil
  rw [linesSaved_iff (run_recorded calls _ h0), run_unglued calls _ h0]
  exact and_iff_right hu

/-- A torn write, a reconfigure on the same path, and a second append that reports success: the
file has one line, the first byte of the lost record followed by the saved one. -/
theorem writer_lines_glued :
    let path := lit "out.jsonl"
    let payload : DetectionJsonPayload := ⟨0, 0, lit "map", []⟩
    let calls : List WriterCall := [
      .configure { enabled := true, path := path } true,
      .append payload (.writeFails 1),
      .configure { enabled := true, path := path } true,
      .append payload .ok]
    completeLines 10 (((start fun _ => []).run calls).files path)
        = [123 :: serializeDetections payload] ∧
      ¬ ((start fun _ => []).run calls).LinesSaved := by
  intro path payload calls
  have hlines : completeLines 10 (((start fun _ => []).run calls).files path)
      = [123 :: serializeDetections payload] := by decide +kernel
  refine ⟨hlines, fun h => ?_⟩
  have hsaved : ((start fun _ => []).run calls).savedTo path = [⟨path, 1, payload⟩] := by
    decide +kernel
  have hsub := (h path).1
  rw [hlines, hsaved] at hsub
  revert hsub
  decide +kernel

end WriterState

end VD
