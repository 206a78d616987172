import VehicleDetection.Base.Machine
import VehicleDetection.Param.Node
import VehicleDetection.Param.Validation
import VehicleDetection.Player.Loader
import VehicleDetection.Player.Playlist

/-!
# `pcd_loader_node.cpp`: the node

The parameters are read once; the timer and the parameter services come in any order afterwards. The
period of the timers is left out.

* `declared`, `readSettings`  the declared parameters with their defaults, and the members made of them;
* `enforceParameters`  the checks, and the playlist;
* `construct`          the constructor, with the first load;
* `fire`               the callback of the timer there is;
* `step`               a timer, or a batch of parameters from outside: there is no callback for these;
* `node_publishes`     what is published in a run, whichever loads fail and whatever is set.
-/

set_option linter.unusedVariables false

namespace VD
open BStr

/-- a node that has registered no callback takes every batch of the declared types -/
def noCallback (self : Unit) (params : List Parameter) :
    Except ParameterError (SetParametersResult × Unit) := .ok ({}, self)

def ParameterValue.asStringArray : ParameterValue → Except ParameterError (List Bytes)
  | .stringArray a => .ok a
  | v => .error (.wrongType .stringArray v.type)

theorem ParameterValue.asStringArray_of_type {v : ParameterValue} (h : v.type = .stringArray) :
    ∃ a, v = .stringArray a := by
  cases v <;> first | exact ⟨_, rfl⟩ | cases h

namespace PcdLoaderNode

def declared : List Parameter := [
  ("pcd_file", .string (lit "data/pcd/sample.pcd")),
  ("pcd_files", .stringArray []),
  ("pcd_directory", .string []),
  ("pcd_glob", .string (lit "*.pcd")),
  ("loop", .bool true),
  ("input_frame_id", .string (lit "lidar")),
  ("input_points_topic", .string (lit "/input/points")),
  ("publish_once", .bool false),
  ("publish_rate_hz", .double 1.0)]

structure Settings where
  inputs : PcdPlaylistInputs
  loop : Bool
  inputFrameId : Bytes
  inputPointsTopic : Bytes
  publishOnce : Bool
  publishRateHz : Float

/-- the members that the calls of `declare_parameter` are assigned to -/
def readSettings (params : ParameterStore) : Except ParameterError Settings := do
  let pcdFile ← getString params "pcd_file"
  let pcdFiles ← getParameter params "pcd_files" >>= ParameterValue.asStringArray
  let pcdDirectory ← getString params "pcd_directory"
  let pcdGlob ← getString params "pcd_glob"
  let loop ← getBool params "loop"
  let inputFrameId ← getString params "input_frame_id"
  let inputPointsTopic ← getString params "input_points_topic"
  let publishOnce ← getBool params "publish_once"
  let publishRateHz ← getDouble params "publish_rate_hz"
  return {
    inputs := ⟨pcdFile, pcdFiles, pcdDirectory, pcdGlob⟩
    loop, inputFrameId, inputPointsTopic, publishOnce, publishRateHz }

/-- The playlist. An exception of the file system ends the constructor like a failed check. -/
def enforceParameters (fs : FileSystem) (s : Settings) : Except Bytes (List Bytes) :=
  match firstFailure [
    validateNonEmptyString "input_frame_id" s.inputFrameId,
    validateNonEmptyString "input_points_topic" s.inputPointsTopic,
    validateNonEmptyString "pcd_glob" s.inputs.pcdGlob,
    validatePositiveDouble "publish_rate_hz" s.publishRateHz] with
  | .error reason => .error reason
  | .ok _ =>
    match resolvePcdPlaylist fs s.inputs with
    | .error what => .error what
    | .ok resolution => if resolution.ok then .ok resolution.entries else .error resolution.reason

/-! ## the node -/

variable {C : Type}

/-- the members that are used after the constructor; `oneShotActive` is about `one_shot_timer_` -/
structure Player (C : Type) where
  loader : PcdLoaderNode C
  topic : Bytes
  publishOnce : Bool
  oneShotActive : Bool := true

structure Node (C : Type) where
  params : ParameterStore
  player : Player C

def construct (fs : FileSystem) (first : Env C) (others overrides : ParameterStore) :
    Except ParameterError (Except Bytes (Node C)) := do
  let params ← declareParameters others overrides declared
  let s ← readSettings params
  return do
    let playlist ← enforceParameters fs s
    let loader ← start playlist s.loop s.inputFrameId first
    return ⟨params, { loader, topic := s.inputPointsTopic, publishOnce := s.publishOnce }⟩

/-- a message on a topic -/
abbrev Published (C : Type) := Bytes × PointCloud2 C

/-- the callback of the one-shot timer -/
def publishOneShot (p : Player C) (env : Env C) : Player C × Option (Published C) :=
  let loader := (p.loader.loadIndex env 0).1
  let (loader, published) := loader.publishCached env
  ({ p with loader := loader, oneShotActive := false }, published.map fun msg => (p.topic, msg))

/-- A timer goes off, if it has not been cancelled. -/
def fire (p : Player C) (env : Env C) : Player C × Option (Published C) :=
  if p.publishOnce then
    if p.oneShotActive then publishOneShot p env else (p, none)
  else if p.loader.timerActive then
    let (loader, result) := p.loader.tickPublish env
    ({ p with loader := loader }, result.published.map fun msg => (p.topic, msg))
  else (p, none)

inductive Event (C : Type) where
  | timer (env : Env C)
  | batch (params : List Parameter)

def step (n : Node C) : Event C → Node C × Option (Published C)
  | .timer env =>
    let (player, published) := fire n.player env
    ({ n with player := player }, published)
  | .batch params =>
    ({ n with params := (setParametersAtomically noCallback ⟨n.params, ()⟩ params).2.params }, none)

def messages (n : Node C) (events : List (Event C)) : List (Published C) :=
  (Machine.outputs step n events).filterMap id

def Event.timer? : Event C → Option (Env C)
  | .timer env => some env
  | .batch _ => none

/-- what the environment is when the timer goes off -/
def timers (events : List (Event C)) : List (Env C) := events.filterMap Event.timer?

/-- what each of these calls publishes, without anything else in between -/
def fired (n : Node C) (events : List (Event C)) : List (Option (Published C)) :=
  Machine.outputs fire n.player (timers events)

/-- A batch in between makes no difference. -/
theorem messages_eq (n : Node C) (events : List (Event C)) :
    messages n events = (fired n events).filterMap id := by
  unfold messages fired timers
  induction events generalizing n with
  | nil => rfl
  | cons e events ih =>
    cases e with
    | timer env =>
      rw [List.filterMap_cons_some (rfl : Event.timer? (.timer env) = some env), Machine.outputs,
        Machine.outputs, List.filterMap_cons, List.filterMap_cons, ih]
      rfl
    | batch params =>
      rw [List.filterMap_cons_none (rfl : Event.timer? (.batch params : Event C) = none), Machine.outputs,
        List.filterMap_cons_none rfl, ih]
      rfl

/-! ## the start -/

/-- Values of the declared types can be read. -/
theorem readSettings_total {params : ParameterStore} (h : Declares declared params) :
    ∃ s, readSettings params = .ok s := by
  have hread : ∀ d ∈ declared, ∃ v, params d.1 = some v ∧ v.type = d.2.type :=
    fun d hd => Option.map_eq_some_iff.mp (h d hd)
  simp only [declared, List.forall_mem_cons] at hread
  obtain ⟨⟨_, h₁, t₁⟩, ⟨_, h₂, t₂⟩, ⟨_, h₃, t₃⟩, ⟨_, h₄, t₄⟩, ⟨_, h₅, t₅⟩, ⟨_, h₆, t₆⟩, ⟨_, h₇, t₇⟩,
    ⟨_, h₈, t₈⟩, ⟨_, h₉, t₉⟩, -⟩ := hread
  obtain ⟨file, rfl⟩ := ParameterValue.asString_of_type t₁
  obtain ⟨files, rfl⟩ := ParameterValue.asStringArray_of_type t₂
  obtain ⟨directory, rfl⟩ := ParameterValue.asString_of_type t₃
  obtain ⟨glob, rfl⟩ := ParameterValue.asString_of_type t₄
  obtain ⟨loop, rfl⟩ := ParameterValue.asBool_of_type t₅
  obtain ⟨frame, rfl⟩ := ParameterValue.asString_of_type t₆
  obtain ⟨topic, rfl⟩ := ParameterValue.asString_of_type t₇
  obtain ⟨once, rfl⟩ := ParameterValue.asBool_of_type t₈
  obtain ⟨rate, rfl⟩ := ParameterValue.asDouble_of_type t₉
  refine ⟨⟨⟨file, files, directory, glob⟩, loop, frame, topic, once, rate⟩, ?_⟩
  rw [readSettings, getString_ok.mpr h₁, getParameter_ok.mpr h₂, getString_ok.mpr h₃, getString_ok.mpr h₄,
    getBool_ok.mpr h₅, getString_ok.mpr h₆, getString_ok.mpr h₇, getBool_ok.mpr h₈, getDouble_ok.mpr h₉]
  rfl

theorem settings_reads (p q : ParameterStore) (h : ∀ d ∈ declared, p d.1 = q d.1) :
    readSettings p = readSettings q := by
  simp only [declared, List.forall_mem_cons] at h
  simp only [readSettings, getString, getBool, getDouble, getParameter, h]

/-- A start with parameters of the declared types reads them, and it succeeds exactly when they pass the checks
and the first entry can be loaded. -/
theorem construct_again {params : ParameterStore} (hd : Declares declared params) {s : Settings}
    (hs : readSettings params = .ok s) (fs : FileSystem) (first : Env C) (others : ParameterStore) :
    ∃ result, construct fs first others params = .ok result ∧
      ((∃ n, result = .ok n) ↔ ∃ entries loader, enforceParameters fs s = .ok entries ∧
        start entries s.loop s.inputFrameId first = .ok loader) := by
  obtain ⟨params', hp, hsame⟩ := hd.restart others
  have hread : readSettings params' = .ok s := (settings_reads _ _ hsame).trans hs
  have hconstruct : construct fs first others params = .ok (do
      let playlist ← enforceParameters fs s
      let loader ← start playlist s.loop s.inputFrameId first
      return ⟨params', { loader, topic := s.inputPointsTopic, publishOnce := s.publishOnce }⟩) := by
    rw [construct, hp]
    show (readSettings params').bind _ = _
    rw [hread]
    rfl
  refine ⟨_, hconstruct, ?_⟩
  constructor
  · rintro ⟨n, hn⟩
    obtain ⟨entries, he, hn⟩ := bind_ok.mp hn
    obtain ⟨loader, hl, -⟩ := bind_ok.mp hn
    exact ⟨entries, loader, he, hl⟩
  · rintro ⟨entries, loader, he, hl⟩
    exact ⟨_, bind_ok.mpr ⟨entries, he, bind_ok.mpr ⟨loader, hl, rfl⟩⟩⟩

theorem construct_ok {fs : FileSystem} {first : Env C} {others overrides : ParameterStore} {n : Node C}
    (h : construct fs first others overrides = .ok (.ok n)) :
    declareParameters others overrides declared = .ok n.params ∧
    ∃ s playlist loader, readSettings n.params = .ok s ∧ enforceParameters fs s = .ok playlist ∧
      start playlist s.loop s.inputFrameId first = .ok loader ∧
      n.player = { loader, topic := s.inputPointsTopic, publishOnce := s.publishOnce } := by
  simp only [construct, bind_ok] at h
  obtain ⟨params, hd, s, hs, h⟩ := h
  obtain ⟨playlist, hp, h⟩ := bind_ok.mp (Except.ok.inj h)
  obtain ⟨loader, hl, h⟩ := bind_ok.mp h
  cases h
  exact ⟨hd, s, playlist, loader, hs, hp, hl, rfl⟩

/-- a start that succeeds has loaded the first entry -/
theorem start_loaded {entries : List Bytes} {loop : Bool} {frame : Bytes} {first : Env C}
    {self : PcdLoaderNode C} (h : start entries loop frame first = .ok self) :
    ∃ raw cloud, entries[0]? = some raw ∧ loadEntry first raw = .ok cloud ∧
      self.playlist = entries ∧ self.cachedIndex = some 0 ∧ self.cachedMsg = some ⟨frame, 0, cloud⟩ ∧
      self.timerActive = true := by
  cases entries with
  | nil => cases h
  | cons raw rest =>
    rcases loadIndex_cases ({ playlist := raw :: rest, loop := loop, inputFrameId := frame } :
        PcdLoaderNode C) first (rfl : (raw :: rest)[0]? = some raw) with
        ⟨msg, hi, -, -⟩ | ⟨rc, -, hl⟩ | ⟨cloud, hload, hl⟩
    · cases hi
    · simp [start, hl] at h
    · simp [start, hl] at h
      subst h
      exact ⟨raw, cloud, rfl, hload, rfl, rfl, rfl, rfl⟩

/-! ## the one-shot timer -/

/-- the entry that the start has loaded is not loaded again -/
theorem publishOneShot_cached {p : Player C} {msg : PointCloud2 C} (env : Env C)
    (hne : p.loader.playlist ≠ []) (hi : p.loader.cachedIndex = some 0) (hm : p.loader.cachedMsg = some msg) :
    (publishOneShot p env).2 = some (p.topic, { msg with stamp := env.now }) := by
  obtain ⟨raw, rest, hp⟩ := List.exists_cons_of_ne_nil hne
  have hload : p.loader.loadIndex env 0 = (p.loader, none) := by
    unfold loadIndex
    rw [hp]
    exact if_pos ⟨hi, by rw [hm]; rfl⟩
  simp only [publishOneShot, hload, publishCached, hm]
  rfl

/-- once it has gone off nothing is published -/
theorem outputs_cancelled {p : Player C} (ho : p.publishOnce = true) (hc : p.oneShotActive = false)
    (envs : List (Env C)) : (Machine.outputs fire p envs).filterMap id = [] := by
  induction envs with
  | nil => rfl
  | cons env envs ih =>
    have hfire : fire p env = (p, none) := by
      rw [fire, if_pos ho, if_neg (by simp [hc])]
    rw [Machine.outputs, hfire, List.filterMap_cons_none rfl]
    exact ih

/-- One message in all, from the load at the start. -/
theorem outputs_oneShot {p : Player C} {msg : PointCloud2 C} (ho : p.publishOnce = true)
    (ha : p.oneShotActive = true) (hne : p.loader.playlist ≠ []) (hi : p.loader.cachedIndex = some 0)
    (hm : p.loader.cachedMsg = some msg) (envs : List (Env C)) :
    (Machine.outputs fire p envs).filterMap id
      = (envs.head?.map fun env => (p.topic, { msg with stamp := env.now })).toList := by
  cases envs with
  | nil => rfl
  | cons env envs =>
    have hfire : fire p env = publishOneShot p env := by rw [fire, if_pos ho, if_pos ha]
    have hrest := outputs_cancelled (p := (publishOneShot p env).1) ho rfl envs
    rw [Machine.outputs, hfire, publishOneShot_cached env hne hi hm, List.filterMap_cons, hrest]
    rfl

/-! ## the playing timer -/

/-- the timer is only cancelled at the end of the playlist -/
def TimerKept (s : PcdLoaderNode C) : Prop := s.timerActive = false → s.playlist.length ≤ s.currentIndex

theorem loadIndex_timer (s : PcdLoaderNode C) (env : Env C) (idx : Nat) :
    (s.loadIndex env idx).1.timerActive = s.timerActive ∧ (s.loadIndex env idx).1.playlist = s.playlist ∧
      (s.loadIndex env idx).1.currentIndex = s.currentIndex := by
  unfold loadIndex
  split
  · exact ⟨rfl, rfl, rfl⟩
  · split
    · exact ⟨rfl, rfl, rfl⟩
    · split
      · exact ⟨rfl, rfl, rfl⟩
      · exact ⟨rfl, rfl, rfl⟩

theorem publishCached_timer (s : PcdLoaderNode C) (env : Env C) :
    (s.publishCached env).1.timerActive = s.timerActive ∧ (s.publishCached env).1.playlist = s.playlist ∧
      (s.publishCached env).1.currentIndex = s.currentIndex := by
  unfold publishCached
  split
  · exact ⟨rfl, rfl, rfl⟩
  · exact ⟨rfl, rfl, rfl⟩

theorem TimerKept.advance {s : PcdLoaderNode C} (h : s.timerActive = true) : TimerKept s.advance := by
  unfold PcdLoaderNode.advance
  dsimp only
  split
  · rename_i hend
    split
    · exact fun hf => absurd (h.symm.trans hf) Bool.noConfusion
    · exact fun _ => hend
  · exact fun hf => absurd (h.symm.trans hf) Bool.noConfusion

theorem TimerKept.tick {s : PcdLoaderNode C} (h : TimerKept s) (env : Env C) :
    TimerKept (s.tickPublish env).1 := by
  unfold tickPublish
  split
  · exact h
  · rename_i hin
    obtain ⟨hload, -, -⟩ := loadIndex_timer s env s.currentIndex
    obtain ⟨hpublish, -, -⟩ := publishCached_timer (s.loadIndex env s.currentIndex).1 env
    refine TimerKept.advance (hpublish.trans (hload.trans ?_))
    by_contra hf
    exact hin (.inr (h (eq_false_of_ne_true hf)))

/-- A cancelled timer makes no difference to what a tick would do. -/
theorem fire_tick {p : Player C} (ho : p.publishOnce = false) (h : TimerKept p.loader) (env : Env C) :
    fire p env = ({ p with loader := (p.loader.tickPublish env).1 },
      (p.loader.tickPublish env).2.published.map fun msg => (p.topic, msg)) := by
  rw [fire, if_neg (by simp [ho])]
  cases ha : p.loader.timerActive with
  | true => exact if_pos rfl
  | false =>
    rw [tickPublish_done (h ha), if_neg nofun]
    rfl

theorem after_timerKept {s : PcdLoaderNode C} (h : TimerKept s) (env : Nat → Env C) (k : Nat) :
    TimerKept (s.after env k) := by
  induction k with
  | zero => exact h
  | succ k ih => exact ih.tick (env k)

theorem after_fire {p : Player C} (ho : p.publishOnce = false) (h : TimerKept p.loader)
    {envs : List (Env C)} {env : Nat → Env C} (henv : ∀ k e, envs[k]? = some e → env k = e) {k : Nat}
    (hk : k ≤ envs.length) :
    Machine.after fire p (envs.take k) = { p with loader := p.loader.after env k } := by
  induction k with
  | zero => rfl
  | succ k ih =>
    have hget : envs[k]? = some envs[k] := List.getElem?_eq_getElem hk
    have hnext : envs.take (k + 1) = envs.take k ++ [envs[k]] := by rw [List.take_add_one, hget]; rfl
    rw [hnext, Machine.after_concat, ih (Nat.le_of_lt hk), ← henv k _ hget]
    exact congrArg Prod.fst (fire_tick (p := { p with loader := p.loader.after env k }) ho
      (after_timerKept h env k) (env k))

theorem outputs_playing {p : Player C} (ho : p.publishOnce = false) (h : TimerKept p.loader)
    {envs : List (Env C)} {env : Nat → Env C} (henv : ∀ k e, envs[k]? = some e → env k = e) {k : Nat}
    {e : Env C} (hk : envs[k]? = some e) :
    (Machine.outputs fire p envs)[k]? = some
      (((p.loader.after env k).tickPublish e).2.published.map fun msg => (p.topic, msg)) := by
  obtain ⟨hlen, -⟩ := List.getElem?_eq_some_iff.mp hk
  rw [Machine.outputs_get, hk, after_fire ho h henv (Nat.le_of_lt hlen)]
  exact congrArg some (congrArg Prod.snd (fire_tick (p := { p with loader := p.loader.after env k }) ho
    (after_timerKept h env k) e))

/-! ## whole runs -/

/-- what the call `k` of the timer meets -/
def meets (first : Env C) (envs : List (Env C)) (k : Nat) : Env C := envs[k]?.getD first

theorem meets_of_get {first : Env C} {envs : List (Env C)} (k : Nat) (env : Env C)
    (h : envs[k]? = some env) : meets first envs k = env := by
  rw [meets, h, Option.getD_some]

/-- What the timer publishes when it goes off for the time `k`, `envs` being all of them. -/
structure Played (s : Settings) (entries : List Bytes) (first : Env C) (envs : List (Env C)) (k : Nat)
    (env : Env C) (out : Option (Published C)) : Prop where
  inside : s.loop = true ∨ k < entries.length → ∃ raw, entries[k % entries.length]? = some raw ∧
    ((∃ rc, loadEntry env raw = .error rc) ∧ out = none ∨
      ∃ cloud, out = some (s.inputPointsTopic, ⟨s.inputFrameId, env.now, cloud⟩) ∧
        ∃ e ∈ first :: envs.take (k + 1), loadEntry e raw = .ok cloud)
  finished : s.loop = false → entries.length ≤ k → out = none

theorem LoadedFrom.met {entries : List Bytes} {first : Env C} {envs : List (Env C)} {k i : Nat} {cloud : C}
    (hk : k < envs.length) (h : LoadedFrom entries first (meets first envs) (k + 1) i cloud) :
    ∃ raw, entries[i]? = some raw ∧ ∃ e ∈ first :: envs.take (k + 1), loadEntry e raw = .ok cloud := by
  obtain ⟨e, he, raw, hraw, hload⟩ := h
  refine ⟨raw, hraw, e, ?_, hload⟩
  rcases he with rfl | ⟨j, hj, rfl⟩
  · exact List.mem_cons_self
  · have hget : envs[j]? = some envs[j] := List.getElem?_eq_getElem (by omega)
    rw [meets_of_get j _ hget]
    exact List.mem_cons_of_mem _ (List.mem_take_iff_getElem.mpr ⟨j, by omega, rfl⟩)

theorem fired_played {n : Node C} {s : Settings} {entries : List Bytes} {first : Env C}
    {loader : PcdLoaderNode C} (hl : start entries s.loop s.inputFrameId first = .ok loader)
    (hn : n.player = { loader, topic := s.inputPointsTopic, publishOnce := s.publishOnce })
    (ho : s.publishOnce = false) {events : List (Event C)} {k : Nat} {env : Env C}
    (hk : (timers events)[k]? = some env) :
    ∃ out, (fired n events)[k]? = some out ∧ Played s entries first (timers events) k env out := by
  obtain ⟨hlen, -⟩ := List.getElem?_eq_some_iff.mp hk
  have henv : ∀ j e, (timers events)[j]? = some e → meets first (timers events) j = e := meets_of_get
  have hkept : TimerKept loader := by
    obtain ⟨-, -, -, -, -, -, -, ht⟩ := start_loaded hl
    exact fun hf => absurd (ht.symm.trans hf) Bool.noConfusion
  obtain ⟨hne, hinv⟩ := start_inv (meets first (timers events)) hl
  have hpos : 0 < entries.length := List.length_pos_iff.mpr hne
  have hbefore := after_inv hinv hpos k
  have hout : (fired n events)[k]? = some (((loader.after (meets first (timers events))
      k).tickPublish env).2.published.map fun msg => (s.inputPointsTopic, msg)) := by
    rw [fired, hn]
    exact outputs_playing ho hkept henv hk
  refine ⟨_, hout, fun hin => ?_, fun hloop hend => ?_⟩
  · have hp := position_lt hpos hin
    have hlt : k % entries.length < entries.length := Nat.mod_lt k hpos
    have hraw : entries[k % entries.length]? = some entries[k % entries.length] :=
      List.getElem?_eq_getElem hlt
    obtain ⟨hafter, hcase⟩ := tick_inv hbefore (by rw [hp]; exact hlt) (by rw [hp]; exact hraw)
    rw [henv k env hk] at hafter hcase
    refine ⟨_, hraw, ?_⟩
    generalize ((loader.after _ k).tickPublish env).2 = out at hcase
    generalize ((loader.after _ k).tickPublish env).1 = t at hcase hafter
    -- whatever is published is still in the cache
    have hcached : ∀ {cloud : C},
        t.cachedIndex = some (loader.after (meets first (timers events)) k).currentIndex →
        t.cachedMsg = some ⟨s.inputFrameId, env.now, cloud⟩ →
        ∃ e ∈ first :: (timers events).take (k + 1),
          loadEntry e entries[k % entries.length] = .ok cloud := by
      intro cloud hci hcm
      obtain ⟨-, i, hi, hload⟩ := hafter.cache _ hcm
      rw [hci, hbefore.index, hp] at hi
      cases hi
      obtain ⟨raw, hraw', hloaded⟩ := hload.met hlen
      cases hraw.symm.trans hraw'
      exact hloaded
    cases hcase with
    | kept old hi hold hci hcm =>
      obtain ⟨hf, -⟩ := hbefore.cache old hold
      obtain ⟨frame, stamp, cloud⟩ := old
      cases hf
      exact .inr ⟨cloud, rfl, hcached hci hcm⟩
    | failed rc hl _ => exact .inl ⟨⟨rc, hl⟩, rfl⟩
    | loaded cloud hl hci hcm =>
      rw [hbefore.frameId] at hcm
      rw [hbefore.frameId]
      exact .inr ⟨cloud, rfl, hcached hci hcm⟩
  · have hdone : (loader.after (meets first (timers events)) k).playlist.length
        ≤ (loader.after (meets first (timers events)) k).currentIndex := by
      rw [hbefore.playlist, hbefore.index, hloop]
      exact le_of_eq (Nat.min_eq_right hend).symm
    rw [tickPublish_done hdone]
    rfl

/-- **A run of the node.**  With `publish_once` it publishes one message, the entry loaded at the start,
and only then.  Without it the time `k` that the timer goes off is at entry `k % n`. No parameter
that is set afterwards makes a difference. -/
theorem node_publishes {fs : FileSystem} {first : Env C} {others overrides : ParameterStore} {n : Node C}
    (h : construct fs first others overrides = .ok (.ok n)) (events : List (Event C)) :
    ∃ s entries, readSettings n.params = .ok s ∧ enforceParameters fs s = .ok entries ∧
      (∃ raw cloud, entries[0]? = some raw ∧ loadEntry first raw = .ok cloud ∧
        (s.publishOnce = true → messages n events = ((timers events).head?.map fun env =>
          (s.inputPointsTopic, ⟨s.inputFrameId, env.now, cloud⟩)).toList)) ∧
      (s.publishOnce = false → ∃ outs : List (Option (Published C)), messages n events = outs.filterMap id ∧
        outs.length = (timers events).length ∧ ∀ k env, (timers events)[k]? = some env →
          ∃ out, outs[k]? = some out ∧ Played s entries first (timers events) k env out) := by
  obtain ⟨-, s, entries, loader, hs, hp, hl, hn⟩ := construct_ok h
  obtain ⟨raw, cloud, hraw, hload, hpl, hi, hm, -⟩ := start_loaded hl
  refine ⟨s, entries, hs, hp, ⟨raw, cloud, hraw, hload, fun ho => ?_⟩, fun ho => ?_⟩
  · have hne : loader.playlist ≠ [] := by
      rintro hnil
      rw [← hpl, hnil] at hraw
      cases hraw
    rw [messages_eq, fired, hn, outputs_oneShot ho rfl hne hi hm]
  · refine ⟨fired n events, messages_eq n events, ?_, fun k env hk => fired_played hl hn ho hk⟩
    rw [fired, Machine.outputs_length]

def twoFiles : ParameterStore := fun name =>
  if name = "pcd_files" then some (.stringArray [lit "/a.pcd", lit "/b.pcd"]) else none

/-- every path is a regular file -/
def allFiles : FileSystem where
  status _ := .found .regular
  openDirectory _ := { entries := [] }

def someTimers : List (Event Nat) :=
  [.timer (flakyDisk 0), .batch [("publish_once", .bool true)], .timer (flakyDisk 1), .timer (flakyDisk 2),
    .timer (flakyDisk 3)]

theorem node_publishes_flaky :
    ∃ n, construct allFiles (flakyDisk 0) (fun _ => none) twoFiles = .ok (.ok n) ∧
      messages n someTimers = [(lit "/input/points", ⟨lit "lidar", 0, 1⟩),
        (lit "/input/points", ⟨lit "lidar", 2, 1⟩), (lit "/input/points", ⟨lit "lidar", 3, 2⟩)] ∧
      ∃ s entries, readSettings n.params = .ok s ∧ enforceParameters allFiles s = .ok entries ∧
        (s.publishOnce = false → ∃ outs : List (Option (Published Nat)),
          messages n someTimers = outs.filterMap id ∧ outs.length = 4 ∧
          ∀ k env, (timers someTimers)[k]? = some env → ∃ out, outs[k]? = some out ∧
            Played s entries (flakyDisk 0) (timers someTimers) k env out) := by
  refine ⟨_, rfl, rfl, ?_⟩
  obtain ⟨s, entries, hs, he, -, hplay⟩ := node_publishes (rfl : construct allFiles (flakyDisk 0)
    (fun _ => none) twoFiles = .ok (.ok _)) someTimers
  exact ⟨s, entries, hs, he, hplay⟩

end PcdLoaderNode

end VD
