import VehicleDetection.Base.Decimal
import VehicleDetection.Player.Wildcard

/-!
# `pcd_playlist.cpp`: the playlist

The operating system answers through a `FileSystem`. Opening a directory gives a `DirStream`: the
entries it yields, each with the answer about its type, and the error that ends it, if any. An error
before the first entry is one of the constructor of `directory_iterator`. An exception of
`std::filesystem` is the `error` of `Except`, with its text.

* `scanLoop`             the loop over a directory;
* `resolvePcdPlaylist`   the whole resolution;
* `Tree`                 a file system without errors.
-/

set_option linter.unusedVariables false

namespace VD
open BStr

inductive PcdPlaylistSource
  | pcdFiles
  | pcdDirectory
  | pcdFile
  deriving DecidableEq, Repr

structure PcdPlaylistInputs where
  pcdFile : Bytes
  pcdFiles : List Bytes
  pcdDirectory : Bytes
  pcdGlob : Bytes

structure PcdPlaylistResolution where
  ok : Bool := false
  reason : Bytes := []
  entries : List Bytes := []
  source : PcdPlaylistSource := .pcdFile
  deriving DecidableEq

inductive FileType
  | regular
  | directory
  | other
  deriving DecidableEq

inductive FileStatus
  | notFound
  | found (type : FileType)
  | failed
  deriving DecidableEq

structure DirEntry where
  name : Bytes
  isRegularFile : Except Bytes Bool

structure DirStream where
  entries : List DirEntry
  failure : Option Bytes := none

structure FileSystem where
  status : Bytes → FileStatus
  openDirectory : Bytes → DirStream

namespace FileSystem

/-- `exists(path, ec)` without an error -/
def present (fs : FileSystem) (path : Bytes) : Bool :=
  match fs.status path with
  | .found _ => true
  | .notFound | .failed => false

def isDirectory (fs : FileSystem) (path : Bytes) : Bool := fs.status path = .found .directory

end FileSystem

/-- `dir / name`; 47 is the slash -/
def joinPath (dir name : Bytes) : Bytes :=
  if dir.getLast? = some 47 then dir ++ name else dir ++ 47 :: name

def fail (reason : Bytes) : PcdPlaylistResolution := { ok := false, reason := reason }

def ensureRegularFile (fs : FileSystem) (path : Bytes) : Except Bytes Unit :=
  if !fs.present path then .error (lit "PCD entry does not exist: " ++ path)
  else if fs.isDirectory path then
    .error (lit "PCD entry is a directory, expected file: " ++ path)
  else .ok ()

/-- the loop over `pcd_files`, at index `i` -/
def filesLoop (fs : FileSystem) (i : Nat) (r : PcdPlaylistResolution) :
    List Bytes → PcdPlaylistResolution
  | [] => { r with ok := true }
  | p :: files =>
    if p = [] then fail (lit "pcd_files[" ++ decimal i ++ lit "] is empty")
    else match ensureRegularFile fs p with
      | .error reason => fail reason
      | .ok () => filesLoop fs (i + 1) { r with entries := r.entries ++ [p] } files

/-- the constructor with an error code: on failure it is the end iterator -/
def directoryIterator (stream : DirStream) : DirStream × Option Bytes :=
  if stream.entries.isEmpty then ({ entries := [] }, stream.failure) else (stream, none)

def scanFailed (inputs : PcdPlaylistInputs) (message : Bytes) : PcdPlaylistResolution :=
  fail (lit "failed to scan pcd_directory '" ++ inputs.pcdDirectory ++ lit "': " ++ message)

/-- what follows the loop over the directory -/
def finishScan (inputs : PcdPlaylistInputs) (r : PcdPlaylistResolution) : PcdPlaylistResolution :=
  if r.entries = [] then
    fail (lit "no files matched pcd_glob '" ++ inputs.pcdGlob ++ lit "' under pcd_directory '" ++
      inputs.pcdDirectory ++ lit "'")
  else { r with entries := r.entries.insertionSort (· ≤ ·), ok := true }

/-- the loop over the directory; `ec` is what its constructor left, `failure` what the increment at
the end throws -/
def scanLoop (inputs : PcdPlaylistInputs) (ec failure : Option Bytes) (r : PcdPlaylistResolution) :
    List DirEntry → Except Bytes PcdPlaylistResolution
  | [] =>
    match failure with
    | some e => .error e
    | none => .ok (finishScan inputs r)
  | dirent :: rest =>
    match ec with
    | some message => .ok (scanFailed inputs message)
    | none =>
      match dirent.isRegularFile with
      | .error e => .error e
      | .ok regular =>
        if !regular then scanLoop inputs ec failure r rest
        else if !wildcardMatch inputs.pcdGlob dirent.name then scanLoop inputs ec failure r rest
        else
          let path := joinPath inputs.pcdDirectory dirent.name
          scanLoop inputs ec failure { r with entries := r.entries ++ [path] } rest

def scanDirectory (fs : FileSystem) (inputs : PcdPlaylistInputs) :
    Except Bytes PcdPlaylistResolution :=
  if inputs.pcdGlob = [] then
    .ok (fail (lit "pcd_glob must not be empty when pcd_directory is set"))
  else if !fs.present inputs.pcdDirectory then
    .ok (fail (lit "pcd_directory does not exist: " ++ inputs.pcdDirectory))
  else if !fs.isDirectory inputs.pcdDirectory then
    .ok (fail (lit "pcd_directory is not a directory: " ++ inputs.pcdDirectory))
  else
    let (it, ec) := directoryIterator (fs.openDirectory inputs.pcdDirectory)
    scanLoop inputs ec it.failure { source := .pcdDirectory } it.entries

/-- the single-file fallback and what follows it -/
def singleFile (fs : FileSystem) (pcdFile : Bytes) : PcdPlaylistResolution :=
  if pcdFile ≠ [] then
    match ensureRegularFile fs pcdFile with
    | .error reason => fail reason
    | .ok () => { source := .pcdFile, entries := [pcdFile], ok := true }
  else fail (lit "no PCD source configured: set pcd_file, pcd_files, or pcd_directory")

def resolvePcdPlaylist (fs : FileSystem) (inputs : PcdPlaylistInputs) :
    Except Bytes PcdPlaylistResolution :=
  if inputs.pcdFiles ≠ [] then
    .ok (filesLoop fs 0 { source := .pcdFiles } inputs.pcdFiles)
  else if inputs.pcdDirectory ≠ [] then scanDirectory fs inputs
  else .ok (singleFile fs inputs.pcdFile)

/-! ## the loops -/

/-- a list that passes entry by entry is taken as it is, and any other one is refused -/
theorem filesLoop_spec (fs : FileSystem) (i : Nat) (r : PcdPlaylistResolution) (files : List Bytes) :
    (∀ p ∈ files, p ≠ [] ∧ ensureRegularFile fs p = .ok ()) ∧
        filesLoop fs i r files = { r with entries := r.entries ++ files, ok := true } ∨
      (¬ ∀ p ∈ files, p ≠ [] ∧ ensureRegularFile fs p = .ok ()) ∧
        ∃ reason, filesLoop fs i r files = fail reason := by
  induction files generalizing i r with
  | nil => exact .inl ⟨by simp, by rw [filesLoop, List.append_nil]⟩
  | cons p files ih =>
    rw [List.forall_mem_cons, filesLoop]
    by_cases hp : p = []
    · rw [if_pos hp]
      exact .inr ⟨fun h => h.1.1 hp, _, rfl⟩
    · rw [if_neg hp]
      cases hr : ensureRegularFile fs p with
      | error reason => exact .inr ⟨fun h => (by simpa [hr] using h.1.2 : False), reason, rfl⟩
      | ok u =>
        rcases ih (i + 1) { r with entries := r.entries ++ [p] } with ⟨h, e⟩ | ⟨h, e⟩
        · refine .inl ⟨⟨⟨hp, rfl⟩, h⟩, ?_⟩
          show filesLoop fs (i + 1) _ files = _
          rw [e, List.append_assoc, List.singleton_append]
        · exact .inr ⟨fun h' => h h'.2, e⟩

/-- the names that become entries -/
def accepted (inputs : PcdPlaylistInputs) (regular : Bytes → Bool) (names : List Bytes) : List Bytes :=
  names.filter fun n => regular n && wildcardMatch inputs.pcdGlob n

/-- without an error the loop collects the accepted names -/
theorem scanLoop_ok (inputs : PcdPlaylistInputs) (regular : Bytes → Bool) (r : PcdPlaylistResolution)
    (names : List Bytes) :
    scanLoop inputs none none r (names.map fun n => ⟨n, .ok (regular n)⟩) =
      .ok (finishScan inputs { r with
        entries := r.entries ++ (accepted inputs regular names).map (joinPath inputs.pcdDirectory) }) := by
  induction names generalizing r with
  | nil =>
    show Except.ok (finishScan inputs r) = _
    rw [show accepted inputs regular [] = [] from rfl, List.map_nil, List.append_nil]
  | cons n names ih =>
    rw [List.map_cons, scanLoop, accepted, List.filter_cons]
    cases hr : regular n with
    | false => exact ih r
    | true =>
      cases hm : wildcardMatch inputs.pcdGlob n with
      | false => exact ih r
      | true =>
        apply (ih _).trans
        show Except.ok (finishScan inputs { r with
          entries := (r.entries ++ [joinPath inputs.pcdDirectory n]) ++ List.map _ _ }) = _
        rw [List.append_assoc]
        rfl

/-- an error of the scan that is not one of the constructor leaves the loop as an exception -/
theorem scanLoop_error (inputs : PcdPlaylistInputs) {failure : Option Bytes} {entries : List DirEntry}
    (r : PcdPlaylistResolution)
    (h : failure ≠ none ∨ ∃ e ∈ entries, ∃ message, e.isRegularFile = .error message) :
    ∃ e, scanLoop inputs none failure r entries = .error e := by
  induction entries generalizing r with
  | nil =>
    cases failure with
    | none => simp at h
    | some e => exact ⟨e, rfl⟩
  | cons d entries ih =>
    rw [scanLoop]
    cases hd : d.isRegularFile with
    | error e => exact ⟨e, rfl⟩
    | ok regular =>
      have h' : failure ≠ none ∨ ∃ e ∈ entries, ∃ message, e.isRegularFile = .error message := by
        rcases h with h | ⟨e, he, message, hm⟩
        · exact .inl h
        · rcases List.mem_cons.mp he with rfl | he
          · rw [hd] at hm
            cases hm
          · exact .inr ⟨e, he, message, hm⟩
      show ∃ e, (if !regular then _ else _) = Except.error e
      split
      · exact ih r h'
      · split
        · exact ih r h'
        · exact ih _ h'

/-! ## a failing scan -/

theorem directoryIterator_nil {stream : DirStream} (h : stream.entries = []) :
    directoryIterator stream = ({ entries := [] }, stream.failure) := by
  rw [directoryIterator, h]
  rfl

theorem directoryIterator_of_ne_nil {stream : DirStream} (h : stream.entries ≠ []) :
    directoryIterator stream = (stream, none) := by
  rw [directoryIterator, if_neg (by simpa using h)]

/-- an error when the directory is opened, when the iteration moves on, or about the type of an entry -/
def DirStream.Fails (s : DirStream) : Prop :=
  s.failure ≠ none ∨ ∃ e ∈ s.entries, ∃ message, e.isRegularFile = .error message

/-- the resolution gets as far as the scan -/
structure Scanned (fs : FileSystem) (inputs : PcdPlaylistInputs) : Prop where
  pcdFiles : inputs.pcdFiles = []
  pcdDirectory : inputs.pcdDirectory ≠ []
  pcdGlob : inputs.pcdGlob ≠ []
  status : fs.status inputs.pcdDirectory = .found .directory

theorem Scanned.resolve {fs : FileSystem} {inputs : PcdPlaylistInputs} (h : Scanned fs inputs) :
    resolvePcdPlaylist fs inputs =
      scanLoop inputs (directoryIterator (fs.openDirectory inputs.pcdDirectory)).2
        (directoryIterator (fs.openDirectory inputs.pcdDirectory)).1.failure { source := .pcdDirectory }
        (directoryIterator (fs.openDirectory inputs.pcdDirectory)).1.entries := by
  have hp : fs.present inputs.pcdDirectory = true := by rw [FileSystem.present, h.status]
  have hd : fs.isDirectory inputs.pcdDirectory = true := by
    rw [FileSystem.isDirectory, h.status]
    rfl
  rw [resolvePcdPlaylist, if_neg (not_not_intro h.pcdFiles), if_pos h.pcdDirectory, scanDirectory,
    if_neg h.pcdGlob, hp, hd]
  rfl

/-- What a failing scan comes to: before the first entry the end iterator hides the error and the scan
counts as one without a match; from the first entry on an exception escapes. -/
theorem Scanned.outcome {fs : FileSystem} {inputs : PcdPlaylistInputs} (h : Scanned fs inputs)
    (hf : (fs.openDirectory inputs.pcdDirectory).Fails) :
    ((fs.openDirectory inputs.pcdDirectory).entries = [] ∧
        resolvePcdPlaylist fs inputs = .ok (finishScan inputs { source := .pcdDirectory })) ∨
      ((fs.openDirectory inputs.pcdDirectory).entries ≠ [] ∧
        ∃ e, resolvePcdPlaylist fs inputs = .error e) := by
  rw [h.resolve]
  by_cases he : (fs.openDirectory inputs.pcdDirectory).entries = []
  · rw [directoryIterator_nil he]
    exact .inl ⟨he, rfl⟩
  · rw [directoryIterator_of_ne_nil he]
    exact .inr ⟨he, scanLoop_error inputs _ hf⟩

/-- the answer the check in the loop prepares -/
def ReportsScanFailure (inputs : PcdPlaylistInputs) (r : Except Bytes PcdPlaylistResolution) : Prop :=
  ∃ message, r = .ok (scanFailed inputs message)

/-- The text about a missing match is not the text about a failed scan. -/
theorem finishScan_ne_scanFailed (inputs : PcdPlaylistInputs) (message : Bytes) :
    finishScan inputs { source := .pcdDirectory } ≠ scanFailed inputs message := by
  intro e
  have hr := congrArg (fun r : PcdPlaylistResolution => r.reason.take 1) e
  have hn : (lit "no files matched pcd_glob '").take 1 = [110] := by decide
  have hf : (lit "failed to scan pcd_directory '").take 1 = [102] := by decide
  simp only [finishScan, scanFailed, fail, if_true, List.append_assoc] at hr
  rw [List.take_append_of_le_length (by decide), List.take_append_of_le_length (by decide), hn, hf] at hr
  cases hr

/-- No failure of the scan is answered the way the check in the loop prepares. -/
theorem scan_failure_not_reported {fs : FileSystem} {inputs : PcdPlaylistInputs} (h : Scanned fs inputs)
    (hf : (fs.openDirectory inputs.pcdDirectory).Fails) :
    ¬ ReportsScanFailure inputs (resolvePcdPlaylist fs inputs) := by
  rintro ⟨message, hm⟩
  rcases h.outcome hf with ⟨-, e⟩ | ⟨-, e, he⟩
  · rw [e] at hm
    exact finishScan_ne_scanFailed inputs message (Except.ok.inj hm)
  · rw [he] at hm
    cases hm

/-- A directory `/d` whose scan ends with an error after the given entries. -/
def brokenDirectory (entries : List DirEntry) (message : Bytes) : FileSystem where
  status _ := .found .directory
  openDirectory _ := { entries := entries, failure := some message }

def pcdsInD : PcdPlaylistInputs :=
  { pcdFile := [], pcdFiles := [], pcdDirectory := lit "/d", pcdGlob := lit "*.pcd" }

theorem scanned_broken (entries : List DirEntry) (message : Bytes) :
    Scanned (brokenDirectory entries message) pcdsInD :=
  ⟨rfl, by decide, by decide, rfl⟩

theorem scan_failure_not_reported_denied :
    ¬ ReportsScanFailure pcdsInD
      (resolvePcdPlaylist (brokenDirectory [] (lit "Permission denied")) pcdsInD) :=
  scan_failure_not_reported (scanned_broken _ _) (.inl nofun)

/-- a directory that cannot be opened counts as one without a match, and an error behind its first
entry escapes -/
theorem scan_failure_hidden :
    resolvePcdPlaylist (brokenDirectory [] (lit "Permission denied")) pcdsInD =
        .ok (fail (lit "no files matched pcd_glob '*.pcd' under pcd_directory '/d'")) ∧
      resolvePcdPlaylist (brokenDirectory [⟨lit "sub", .ok false⟩] (lit "Input/output error")) pcdsInD =
        .error (lit "Input/output error") ∧
      ¬ ∀ fs inputs, Scanned fs inputs → (fs.openDirectory inputs.pcdDirectory).Fails →
        ReportsScanFailure inputs (resolvePcdPlaylist fs inputs) := by
  refine ⟨by decide, by decide, fun h => ?_⟩
  obtain ⟨message, hm⟩ := h _ _ (scanned_broken [] (lit "Permission denied")) (.inl nofun)
  rcases (scanned_broken [] (lit "Permission denied")).outcome (.inl nofun) with ⟨-, e⟩ | ⟨hne, -⟩
  · rw [e] at hm
    exact finishScan_ne_scanFailed _ message (Except.ok.inj hm)
  · exact hne rfl

/-! ## without errors -/

/-- A file system that answers every question. `names` are in the order in which they are listed. -/
structure Tree where
  status : Bytes → Option FileType
  names : Bytes → List Bytes
  status_nil : status [] = none
  nodup : ∀ d, (names d).Nodup
  name_ne_nil : ∀ d, [] ∉ names d

namespace Tree

def fileSystem (T : Tree) : FileSystem where
  status path :=
    match T.status path with
    | none => .notFound
    | some t => .found t
  openDirectory dir :=
    { entries := (T.names dir).map fun n =>
        ⟨n, .ok (decide (T.status (joinPath dir n) = some .regular))⟩ }

/-- it exists and is not a directory -/
def File (T : Tree) (path : Bytes) : Prop := ∃ t, T.status path = some t ∧ t ≠ .directory

end Tree

/-- the input that decides, by priority -/
inductive Deciding
  | files (pcdFiles : List Bytes)
  | directory (pcdDirectory pcdGlob : Bytes)
  | file (pcdFile : Bytes)

def PcdPlaylistInputs.deciding (inputs : PcdPlaylistInputs) : Deciding :=
  if inputs.pcdFiles ≠ [] then .files inputs.pcdFiles
  else if inputs.pcdDirectory ≠ [] then .directory inputs.pcdDirectory inputs.pcdGlob
  else .file inputs.pcdFile

/-- a name directly under `dir` that becomes an entry -/
def Tree.Listed (T : Tree) (dir glob name : Bytes) : Prop :=
  name ∈ T.names dir ∧ T.status (joinPath dir name) = some .regular ∧ wildcardMatch glob name = true

/-- the deciding source is not empty and its entries pass -/
def Tree.Passes (T : Tree) : Deciding → Prop
  | .files files => files ≠ [] ∧ ∀ p ∈ files, T.File p
  | .directory dir glob => T.status dir = some .directory ∧ ∃ n, T.Listed dir glob n
  | .file path => path ≠ [] ∧ T.File path

/-- the playlist a source stands for -/
def Tree.Playlist (T : Tree) (entries : List Bytes) : Deciding → Prop
  | .files files => entries = files
  | .directory dir glob =>
    ∃ names : List Bytes, names.Pairwise (· < ·) ∧ (∀ n, n ∈ names ↔ T.Listed dir glob n) ∧
      entries = names.map (joinPath dir)
  | .file path => entries = [path]

/-- what the resolution promises -/
structure Tree.Resolved (T : Tree) (d : Deciding) (r : PcdPlaylistResolution) : Prop where
  ok_iff : r.ok = true ↔ T.Passes d
  entries : r.ok = true → r.entries ≠ [] ∧ (∀ p ∈ r.entries, T.File p) ∧ T.Playlist r.entries d
  nothing : r.ok = false → r.entries = []

/-! ### the sort -/

theorem joinPath_append (dir : Bytes) : ∃ pre, ∀ name, joinPath dir name = pre ++ name := by
  by_cases h : dir.getLast? = some 47
  · exact ⟨dir, fun name => by rw [joinPath, if_pos h]⟩
  · exact ⟨dir ++ [47], fun name => by rw [joinPath, if_neg h, List.append_assoc]; rfl⟩

theorem joinPath_le {dir a b : Bytes} (h : a ≤ b) : joinPath dir a ≤ joinPath dir b := by
  obtain ⟨pre, hp⟩ := joinPath_append dir
  rw [hp, hp]
  exact List.append_left_le h

/-- a list sorted by `≤` is fixed by what it contains -/
theorem eq_of_sorted {l l' : List Bytes} (h : l.Pairwise (· ≤ ·)) (h' : l'.Pairwise (· ≤ ·))
    (hp : l.Perm l') : l = l' :=
  hp.eq_of_pairwise (fun a b _ _ => List.le_antisymm) h h'

/-- the sort of the full paths is the sort of the names -/
theorem insertionSort_joinPath (dir : Bytes) (names : List Bytes) :
    (names.map (joinPath dir)).insertionSort (· ≤ ·) =
      (names.insertionSort (· ≤ ·)).map (joinPath dir) := by
  apply eq_of_sorted (List.pairwise_insertionSort _ _)
  · rw [List.pairwise_map]
    exact (List.pairwise_insertionSort _ names).imp joinPath_le
  · exact (List.perm_insertionSort _ _).trans ((List.perm_insertionSort _ names).symm.map _)

/-- distinct names are sorted strictly -/
theorem insertionSort_lt {names : List Bytes} (h : names.Nodup) :
    (names.insertionSort (· ≤ ·)).Pairwise (· < ·) := by
  have hn : (names.insertionSort (· ≤ ·)).Nodup := (List.perm_insertionSort _ names).nodup_iff.mpr h
  exact ((List.pairwise_insertionSort (· ≤ ·) names).and hn).imp fun h => Std.lt_of_le_of_ne h.1 h.2

/-! ### the three sources -/

namespace Tree
variable (T : Tree)

@[simp] theorem present_fileSystem (path : Bytes) :
    T.fileSystem.present path = (T.status path).isSome := by
  cases h : T.status path <;> simp [FileSystem.present, fileSystem, h]

@[simp] theorem isDirectory_fileSystem (path : Bytes) :
    T.fileSystem.isDirectory path = decide (T.status path = some .directory) := by
  cases h : T.status path <;> simp [FileSystem.isDirectory, fileSystem, h]

theorem ensureRegularFile_iff (path : Bytes) :
    ensureRegularFile T.fileSystem path = .ok () ↔ T.File path := by
  rw [ensureRegularFile, T.present_fileSystem, T.isDirectory_fileSystem, File]
  cases h : T.status path with
  | none => simp
  | some t => by_cases ht : t = .directory <;> simp [ht]

theorem not_file_nil : ¬ T.File [] := by
  rintro ⟨t, ht, -⟩
  rw [T.status_nil] at ht
  cases ht

theorem filesLoop_resolved {files : List Bytes} (hne : files ≠ []) :
    T.Resolved (.files files) (filesLoop T.fileSystem 0 { source := .pcdFiles } files) := by
  have hiff : (∀ p ∈ files, p ≠ [] ∧ ensureRegularFile T.fileSystem p = .ok ()) ↔
      ∀ p ∈ files, T.File p := by
    refine forall₂_congr fun p _ => ?_
    rw [T.ensureRegularFile_iff]
    exact and_iff_right_of_imp fun h e => T.not_file_nil (e ▸ h)
  rcases filesLoop_spec T.fileSystem 0 { source := .pcdFiles } files with ⟨h, e⟩ | ⟨h, reason, e⟩
  · rw [e]
    exact ⟨iff_of_true rfl ⟨hne, hiff.mp h⟩, fun _ => ⟨hne, hiff.mp h, rfl⟩, nofun⟩
  · rw [e]
    exact ⟨iff_of_false nofun fun hp => h (hiff.mpr hp.2), nofun, fun _ => rfl⟩

theorem resolved_fail {d : Deciding} (h : ¬ T.Passes d) (reason : Bytes) :
    T.Resolved d (fail reason) :=
  ⟨iff_of_false nofun h, nofun, fun _ => rfl⟩

theorem singleFile_resolved (path : Bytes) :
    T.Resolved (.file path) (singleFile T.fileSystem path) := by
  unfold singleFile
  by_cases hne : path = []
  · rw [if_neg (not_not_intro hne)]
    exact T.resolved_fail (d := .file path) (fun h => h.1 hne) _
  · rw [if_pos hne]
    have hiff := T.ensureRegularFile_iff path
    cases hr : ensureRegularFile T.fileSystem path with
    | error reason =>
      rw [hr] at hiff
      exact T.resolved_fail (d := .file path) (fun h => nomatch hiff.mpr h.2) reason
    | ok u =>
      have hf := hiff.mp hr
      refine ⟨iff_of_true rfl ⟨hne, hf⟩, fun _ => ⟨List.cons_ne_nil _ _, ?_, rfl⟩, nofun⟩
      rintro p hp
      rwa [List.mem_singleton.mp hp]

/-- the names that become entries, in the order of the listing -/
def listed (dir glob : Bytes) : List Bytes :=
  (T.names dir).filter fun n =>
    decide (T.status (joinPath dir n) = some .regular) && wildcardMatch glob n

theorem mem_listed {dir glob n : Bytes} : n ∈ T.listed dir glob ↔ T.Listed dir glob n := by
  rw [listed, List.mem_filter, Bool.and_eq_true, decide_eq_true_eq]
  rfl

/-- a directory is resolved to the sorted paths of its accepted names -/
theorem scanDirectory_eq {inputs : PcdPlaylistInputs} (hg : inputs.pcdGlob ≠ [])
    (hd : T.status inputs.pcdDirectory = some .directory) :
    scanDirectory T.fileSystem inputs = .ok (finishScan inputs
      { source := .pcdDirectory,
        entries := (T.listed inputs.pcdDirectory inputs.pcdGlob).map (joinPath inputs.pcdDirectory) }) := by
  rw [scanDirectory, if_neg hg, T.present_fileSystem, T.isDirectory_fileSystem, hd]
  have hit : directoryIterator (T.fileSystem.openDirectory inputs.pcdDirectory) =
      (T.fileSystem.openDirectory inputs.pcdDirectory, none) := by
    unfold directoryIterator
    split
    · rename_i he
      rw [← List.isEmpty_iff.mp he]
      rfl
    · rfl
  show scanLoop inputs (directoryIterator _).2 (directoryIterator _).1.failure _
    (directoryIterator _).1.entries = _
  rw [hit]
  exact scanLoop_ok inputs _ _ _

theorem finishScan_resolved {inputs : PcdPlaylistInputs}
    (hd : T.status inputs.pcdDirectory = some .directory) :
    T.Resolved (.directory inputs.pcdDirectory inputs.pcdGlob) (finishScan inputs
      { source := .pcdDirectory,
        entries := (T.listed inputs.pcdDirectory inputs.pcdGlob).map (joinPath inputs.pcdDirectory) }) := by
  rw [finishScan]
  split
  · rename_i he
    refine T.resolved_fail ?_ _
    rintro ⟨-, n, hn⟩
    have hm := T.mem_listed.mpr hn
    rw [List.map_eq_nil_iff.mp he] at hm
    cases hm
  · rename_i he
    have hne : T.listed inputs.pcdDirectory inputs.pcdGlob ≠ [] := fun e => he (by rw [e]; rfl)
    obtain ⟨n, hn⟩ := List.exists_mem_of_ne_nil _ hne
    have hmem : ∀ n, n ∈ (T.listed inputs.pcdDirectory inputs.pcdGlob).insertionSort (· ≤ ·) ↔
        T.Listed inputs.pcdDirectory inputs.pcdGlob n := fun n =>
      (List.perm_insertionSort _ _).mem_iff.trans T.mem_listed
    refine ⟨iff_of_true rfl ⟨hd, n, T.mem_listed.mp hn⟩, fun _ => ?_, nofun⟩
    dsimp only
    rw [insertionSort_joinPath]
    refine ⟨fun e => ?_, fun p hp => ?_, _, insertionSort_lt ((T.nodup _).filter _), hmem, rfl⟩
    · have hn' := (hmem n).mpr (T.mem_listed.mp hn)
      rw [List.map_eq_nil_iff.mp e] at hn'
      cases hn'
    · obtain ⟨n, hn, rfl⟩ := List.mem_map.mp hp
      exact ⟨_, ((hmem n).mp hn).2.1, nofun⟩

theorem scanDirectory_resolved (inputs : PcdPlaylistInputs) :
    ∃ r, scanDirectory T.fileSystem inputs = .ok r ∧
      T.Resolved (.directory inputs.pcdDirectory inputs.pcdGlob) r := by
  by_cases hg : inputs.pcdGlob = []
  · refine ⟨_, by rw [scanDirectory, if_pos hg], T.resolved_fail ?_ _⟩
    rintro ⟨-, n, hn, -, hm⟩
    rw [hg, wildcardMatch_nil] at hm
    exact T.name_ne_nil _ (hm ▸ hn)
  · by_cases hd : T.status inputs.pcdDirectory = some .directory
    · exact ⟨_, T.scanDirectory_eq hg hd, T.finishScan_resolved hd⟩
    · obtain ⟨reason, hr⟩ : ∃ reason, scanDirectory T.fileSystem inputs = .ok (fail reason) := by
        rw [scanDirectory, if_neg hg, T.present_fileSystem, T.isDirectory_fileSystem, decide_eq_false hd]
        by_cases hp : (T.status inputs.pcdDirectory).isSome = true
        · exact ⟨_, by rw [hp]; rfl⟩
        · exact ⟨_, by rw [Bool.eq_false_iff.mpr hp]; rfl⟩
      refine ⟨_, hr, T.resolved_fail ?_ reason⟩
      exact fun h => hd h.1

/-! ### what the result depends on -/

variable {T}

theorem finishScan_perm {inputs : PcdPlaylistInputs} {l l' : List Bytes} (h : l'.Perm l) :
    finishScan inputs { source := .pcdDirectory, entries := l' } =
      finishScan inputs { source := .pcdDirectory, entries := l } := by
  have hs : l'.insertionSort (· ≤ ·) = l.insertionSort (· ≤ ·) :=
    eq_of_sorted (List.pairwise_insertionSort _ _) (List.pairwise_insertionSort _ _)
      ((List.perm_insertionSort _ l').trans (h.trans (List.perm_insertionSort _ l).symm))
  unfold finishScan
  by_cases hl : l = []
  · subst hl
    rw [h.eq_nil]
  · have hl' : l' ≠ [] := by
      rintro rfl
      exact hl h.symm.eq_nil
    rw [if_neg hl', if_neg hl, hs]

/-- the order of the listing plays no part -/
theorem scanDirectory_perm {T' : Tree} (hs : T'.status = T.status)
    (hn : ∀ d, (T'.names d).Perm (T.names d)) (inputs : PcdPlaylistInputs) :
    scanDirectory T'.fileSystem inputs = scanDirectory T.fileSystem inputs := by
  by_cases hg : inputs.pcdGlob = []
  · rw [scanDirectory, scanDirectory, if_pos hg, if_pos hg]
  · by_cases hd : T.status inputs.pcdDirectory = some .directory
    · rw [T.scanDirectory_eq hg hd, T'.scanDirectory_eq hg (hs ▸ hd)]
      refine congrArg Except.ok (finishScan_perm (List.Perm.map _ ?_))
      rw [listed, listed, hs]
      exact (hn _).filter _
    · rw [scanDirectory, scanDirectory, if_neg hg, if_neg hg]
      simp only [present_fileSystem, isDirectory_fileSystem, hs, decide_eq_false hd]
      rfl

/-- `pcd_files` and `pcd_file` are asked entry by entry, for the status only -/
theorem ensureRegularFile_congr {T' : Tree} (hs : T'.status = T.status) (path : Bytes) :
    ensureRegularFile T'.fileSystem path = ensureRegularFile T.fileSystem path := by
  simp only [ensureRegularFile, present_fileSystem, isDirectory_fileSystem, hs]

theorem filesLoop_congr {T' : Tree} (hs : T'.status = T.status) (i : Nat) (r : PcdPlaylistResolution)
    (files : List Bytes) : filesLoop T'.fileSystem i r files = filesLoop T.fileSystem i r files := by
  induction files generalizing i r with
  | nil => rfl
  | cons p files ih =>
    rw [filesLoop, filesLoop, ensureRegularFile_congr hs]
    split
    · rfl
    · split
      · rfl
      · exact ih _ _

end Tree

/-- a scan depends on the directory and the pattern only -/
theorem scanLoop_congr {inputs inputs' : PcdPlaylistInputs}
    (hd : inputs'.pcdDirectory = inputs.pcdDirectory) (hg : inputs'.pcdGlob = inputs.pcdGlob)
    (ec failure : Option Bytes) (r : PcdPlaylistResolution) (entries : List DirEntry) :
    scanLoop inputs' ec failure r entries = scanLoop inputs ec failure r entries := by
  induction entries generalizing r with
  | nil => simp only [scanLoop, finishScan, hd, hg]
  | cons e entries ih => simp only [scanLoop, scanFailed, hd, hg, ih]

theorem scanDirectory_congr {inputs inputs' : PcdPlaylistInputs} (fs : FileSystem)
    (hd : inputs'.pcdDirectory = inputs.pcdDirectory) (hg : inputs'.pcdGlob = inputs.pcdGlob) :
    scanDirectory fs inputs' = scanDirectory fs inputs := by
  simp only [scanDirectory, hd, hg, scanLoop_congr hd hg]

/-- the resolution is one of its deciding source -/
theorem resolvePcdPlaylist_eq (fs : FileSystem) (inputs : PcdPlaylistInputs) :
    resolvePcdPlaylist fs inputs =
      match inputs.deciding with
      | .files files => .ok (filesLoop fs 0 { source := .pcdFiles } files)
      | .directory dir glob =>
        scanDirectory fs { pcdFile := [], pcdFiles := [], pcdDirectory := dir, pcdGlob := glob }
      | .file path => .ok (singleFile fs path) := by
  unfold resolvePcdPlaylist PcdPlaylistInputs.deciding
  split
  · rfl
  · split
    · exact scanDirectory_congr fs rfl rfl
    · rfl

/-- **The resolution over a file system without errors.** The deciding source alone decides; the
playlist is the one the source stands for, it is given exactly when the source passes, and the order
in which directories are listed plays no part. -/
theorem resolvePcdPlaylist_resolved (T : Tree) (inputs : PcdPlaylistInputs) :
    ∃ r, resolvePcdPlaylist T.fileSystem inputs = .ok r ∧ T.Resolved inputs.deciding r ∧
      (∀ inputs', inputs'.deciding = inputs.deciding →
        resolvePcdPlaylist T.fileSystem inputs' = .ok r) ∧
      (∀ T' : Tree, T'.status = T.status → (∀ d, (T'.names d).Perm (T.names d)) →
        resolvePcdPlaylist T'.fileSystem inputs = .ok r) := by
  obtain ⟨r, hr, hres⟩ : ∃ r, resolvePcdPlaylist T.fileSystem inputs = .ok r ∧
      T.Resolved inputs.deciding r := by
    unfold resolvePcdPlaylist PcdPlaylistInputs.deciding
    split
    · rename_i hne
      exact ⟨_, rfl, T.filesLoop_resolved hne⟩
    · split
      · exact T.scanDirectory_resolved inputs
      · exact ⟨_, rfl, T.singleFile_resolved _⟩
  refine ⟨r, hr, hres, fun inputs' h => ?_, fun T' hs hn => ?_⟩
  · rw [resolvePcdPlaylist_eq, h, ← resolvePcdPlaylist_eq, hr]
  · rw [← hr]
    unfold resolvePcdPlaylist
    rw [Tree.filesLoop_congr hs, Tree.scanDirectory_perm hs hn, singleFile, singleFile,
      Tree.ensureRegularFile_congr hs]

/-! ### a directory with four entries -/

def dataTree : Tree where
  status path :=
    if path = lit "/data" ∨ path = lit "/data/old.pcd" then some .directory
    else if path = lit "/data/a.pcd" ∨ path = lit "/data/b.pcd" ∨ path = lit "/data/notes.txt" then some .regular
    else none
  names dir := if dir = lit "/data" then [lit "b.pcd", lit "notes.txt", lit "old.pcd", lit "a.pcd"] else []
  status_nil := by decide
  nodup d := by
    split
    · decide
    · exact List.nodup_nil
  name_ne_nil d := by
    split
    · decide
    · exact List.not_mem_nil

def Tree.reversed (T : Tree) : Tree where
  status := T.status
  names dir := (T.names dir).reverse
  status_nil := T.status_nil
  nodup d := List.nodup_reverse.mpr (T.nodup d)
  name_ne_nil d := fun h => T.name_ne_nil d (List.mem_reverse.mp h)

def dataInputs : PcdPlaylistInputs := ⟨[], [], lit "/data", lit "*.pcd"⟩

theorem dataTree_listed : dataTree.listed (lit "/data") (lit "*.pcd") = [lit "b.pcd", lit "a.pcd"] := by
  have hb : wildcardMatch [42, 46, 112, 99, 100] [98, 46, 112, 99, 100] = true := by
    simp [wildcardMatch, wildcardLoop]
  have ha : wildcardMatch [42, 46, 112, 99, 100] [97, 46, 112, 99, 100] = true := by
    simp [wildcardMatch, wildcardLoop]
  have htxt : wildcardMatch [42, 46, 112, 99, 100] [110, 111, 116, 101, 115, 46, 116, 120, 116] = false := by
    simp [wildcardMatch, wildcardLoop]
  have hold : dataTree.status (joinPath (lit "/data") (lit "old.pcd")) = some .directory := by decide
  show List.filter _ [lit "b.pcd", lit "notes.txt", lit "old.pcd", lit "a.pcd"] = _
  rw [List.filter_cons_of_pos, List.filter_cons_of_neg, List.filter_cons_of_neg, List.filter_cons_of_pos,
    List.filter_nil]
  · exact (Bool.and_eq_true _ _).mpr ⟨by decide, ha⟩
  · simp [hold]
  · intro h
    rw [Bool.and_eq_true] at h
    exact Bool.false_ne_true (htxt.symm.trans h.2)
  · exact (Bool.and_eq_true _ _).mpr ⟨by decide, hb⟩

/-- Two of the entries match; `pcd_file` does not count beside the directory. -/
theorem resolvePcdPlaylist_data :
    ∃ r, resolvePcdPlaylist dataTree.fileSystem dataInputs = .ok r ∧
      r.ok = true ∧ r.entries = [lit "/data/a.pcd", lit "/data/b.pcd"] ∧
      resolvePcdPlaylist dataTree.fileSystem ⟨lit "/data/notes.txt", [], lit "/data", lit "*.pcd"⟩ = .ok r ∧
      resolvePcdPlaylist dataTree.reversed.fileSystem dataInputs = .ok r := by
  obtain ⟨r, hr, -, hinputs, hnames⟩ := resolvePcdPlaylist_resolved dataTree dataInputs
  have hscan := @Tree.scanDirectory_eq dataTree dataInputs (by decide) (by decide)
  rw [show dataTree.listed dataInputs.pcdDirectory dataInputs.pcdGlob = _ from dataTree_listed] at hscan
  have hlisted : Except.ok r = .ok ⟨true, [], [lit "/data/a.pcd", lit "/data/b.pcd"], .pcdDirectory⟩ :=
    hr.symm.trans (hscan.trans (by decide +kernel))
  cases hlisted
  exact ⟨_, hr, rfl, rfl, hinputs ⟨lit "/data/notes.txt", [], lit "/data", lit "*.pcd"⟩ rfl,
    hnames dataTree.reversed rfl fun d => List.reverse_perm _⟩

end VD
