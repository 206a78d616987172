import VehicleDetection.Base.Bytes

/-!
# `pcd_loader_node.cpp`: the player

The playlist is given, with `publish_once` false.  What a tick meets outside is an `Env`: the working
directory, the answer of `pcl::io::loadPCDFile` for every path at that time, and the clock.  A cloud
is of any type `C`; what the code only prints (point count, field names) is left out.

* `loadIndex`    the one-slot cache with its index tag; it also returns the load it has attempted;
* `tickPublish`  one tick of the timer;
* `after`        the state before tick `k`;
* `playback`     what tick `k` publishes, whichever loads fail.
-/

set_option linter.unusedVariables false

namespace VD
open BStr

structure PointCloud2 (C : Type) where
  frameId : Bytes
  stamp : Int
  cloud : C

/-- `cwd` is `none` where `std::filesystem::absolute` reports an error -/
structure Env (C : Type) where
  cwd : Option Bytes
  loadPCDFile : Bytes → Except Int C
  now : Int

/-- 47 is the slash -/
def resolvePcdPath (cwd : Option Bytes) (raw : Bytes) : Bytes :=
  if raw.head? = some 47 then raw
  else match cwd with
    | none => raw
    | some dir =>
      if raw = [] then raw
      else if dir.getLast? = some 47 then dir ++ raw
      else dir ++ 47 :: raw

structure PcdLoaderNode (C : Type) where
  playlist : List Bytes
  loop : Bool
  inputFrameId : Bytes
  currentIndex : Nat := 0
  cachedIndex : Option Nat := none
  cachedMsg : Option (PointCloud2 C) := none
  timerActive : Bool := true

namespace PcdLoaderNode
variable {C : Type}

/-- `loadPCDFile` of an entry of the playlist -/
def loadEntry (env : Env C) (raw : Bytes) : Except Int C :=
  env.loadPCDFile (resolvePcdPath env.cwd raw)

/-- The second component is the load that has been attempted, if any. -/
def loadIndex (self : PcdLoaderNode C) (env : Env C) (idx : Nat) :
    PcdLoaderNode C × Option (Except Int C) :=
  match self.playlist[idx]? with
  | none => (self, none)
  | some raw =>
    if self.cachedIndex = some idx ∧ self.cachedMsg.isSome then (self, none)
    else match loadEntry env raw with
      | .error rc => ({ self with cachedMsg := none, cachedIndex := none }, some (.error rc))
      | .ok cloud =>
        ({ self with
            cachedMsg := some { frameId := self.inputFrameId, stamp := 0, cloud := cloud }
            cachedIndex := some idx }, some (.ok cloud))

/-- the message that is published, stamped in the cache -/
def publishCached (self : PcdLoaderNode C) (env : Env C) :
    PcdLoaderNode C × Option (PointCloud2 C) :=
  match self.cachedMsg with
  | none => (self, none)
  | some msg =>
    let msg := { msg with stamp := env.now }
    ({ self with cachedMsg := some msg }, some msg)

/-- what a tick does outside: the load it attempts and the message it publishes -/
structure TickResult (C : Type) where
  attempted : Option (Except Int C) := none
  published : Option (PointCloud2 C) := none

/-- the index moves on: it wraps at the end of the playlist, or stays there and the timer stops -/
def advance (self : PcdLoaderNode C) : PcdLoaderNode C :=
  let self := { self with currentIndex := self.currentIndex + 1 }
  if self.currentIndex ≥ self.playlist.length then
    if self.loop then { self with currentIndex := 0 } else { self with timerActive := false }
  else self

def tickPublish (self : PcdLoaderNode C) (env : Env C) : PcdLoaderNode C × TickResult C :=
  if self.playlist = [] ∨ self.currentIndex ≥ self.playlist.length then (self, {})
  else
    let (self, attempted) := self.loadIndex env self.currentIndex
    let (self, published) := self.publishCached env
    (self.advance, { attempted := attempted, published := published })

/-- The constructor: the first entry is loaded at once. -/
def start (playlist : List Bytes) (loop : Bool) (inputFrameId : Bytes) (env : Env C) :
    Except Bytes (PcdLoaderNode C) :=
  let self : PcdLoaderNode C := ({ playlist, loop, inputFrameId : PcdLoaderNode C }.loadIndex env 0).1
  if self.cachedMsg.isNone then
    .error (lit "failed to load first PCD entry: " ++ playlist.head?.getD [])
  else .ok self

/-- the state before tick `k`, where tick `j` meets `env j` -/
def after (self : PcdLoaderNode C) (env : Nat → Env C) : Nat → PcdLoaderNode C
  | 0 => self
  | k + 1 => ((self.after env k).tickPublish (env k)).1

/-- what tick `k` does outside -/
def tick (self : PcdLoaderNode C) (env : Nat → Env C) (k : Nat) : TickResult C :=
  ((self.after env k).tickPublish (env k)).2

/-! ## one tick -/

/-- What `load_index` does for an entry of the playlist: nothing when the cache holds it, else one
load, after which the cache holds that entry or nothing. -/
theorem loadIndex_cases (s : PcdLoaderNode C) (env : Env C) {idx : Nat} {raw : Bytes}
    (hraw : s.playlist[idx]? = some raw) :
    (∃ msg, s.cachedIndex = some idx ∧ s.cachedMsg = some msg ∧ s.loadIndex env idx = (s, none)) ∨
    (∃ rc, loadEntry env raw = .error rc ∧ s.loadIndex env idx =
      ({ s with cachedMsg := none, cachedIndex := none }, some (.error rc))) ∨
    (∃ cloud, loadEntry env raw = .ok cloud ∧ s.loadIndex env idx =
      ({ s with
          cachedMsg := some { frameId := s.inputFrameId, stamp := 0, cloud := cloud }
          cachedIndex := some idx }, some (.ok cloud))) := by
  unfold loadIndex
  rw [hraw]
  by_cases hc : s.cachedIndex = some idx ∧ s.cachedMsg.isSome
  · obtain ⟨msg, hmsg⟩ := Option.isSome_iff_exists.mp hc.2
    exact Or.inl ⟨msg, hc.1, hmsg, if_pos hc⟩
  · right
    dsimp only
    rw [if_neg hc]
    cases hl : loadEntry env raw with
    | error rc => exact Or.inl ⟨rc, rfl, rfl⟩
    | ok cloud => exact Or.inr ⟨cloud, rfl, rfl⟩

/-- the index after a tick -/
def nextIndex (n : Nat) (loop : Bool) (idx : Nat) : Nat :=
  if idx + 1 ≥ n then if loop then 0 else idx + 1 else idx + 1

/-- what a tick never changes -/
structure SameSettings (s t : PcdLoaderNode C) : Prop where
  playlist : t.playlist = s.playlist
  loop : t.loop = s.loop
  inputFrameId : t.inputFrameId = s.inputFrameId

theorem advance_spec (s : PcdLoaderNode C) :
    SameSettings s s.advance ∧ s.advance.cachedIndex = s.cachedIndex ∧
      s.advance.cachedMsg = s.cachedMsg ∧
      s.advance.currentIndex = nextIndex s.playlist.length s.loop s.currentIndex := by
  unfold advance nextIndex
  dsimp only
  split
  · split
    · exact ⟨⟨rfl, rfl, rfl⟩, rfl, rfl, rfl⟩
    · exact ⟨⟨rfl, rfl, rfl⟩, rfl, rfl, rfl⟩
  · exact ⟨⟨rfl, rfl, rfl⟩, rfl, rfl, rfl⟩

/-- what a tick inside the playlist does, by what its load did -/
inductive TickCase (s : PcdLoaderNode C) (env : Env C) (raw : Bytes) :
    PcdLoaderNode C → TickResult C → Prop
  | kept {t : PcdLoaderNode C} (msg : PointCloud2 C) :
      s.cachedIndex = some s.currentIndex → s.cachedMsg = some msg →
      t.cachedIndex = some s.currentIndex → t.cachedMsg = some { msg with stamp := env.now } →
      TickCase s env raw t ⟨none, some { msg with stamp := env.now }⟩
  | failed {t : PcdLoaderNode C} (rc : Int) :
      loadEntry env raw = .error rc → t.cachedMsg = none →
      TickCase s env raw t ⟨some (.error rc), none⟩
  | loaded {t : PcdLoaderNode C} (cloud : C) :
      loadEntry env raw = .ok cloud → t.cachedIndex = some s.currentIndex →
      t.cachedMsg = some ⟨s.inputFrameId, env.now, cloud⟩ →
      TickCase s env raw t ⟨some (.ok cloud), some ⟨s.inputFrameId, env.now, cloud⟩⟩

/-- A tick inside the playlist: the index moves on in every case. -/
theorem tickPublish_cases (s : PcdLoaderNode C) (env : Env C) {raw : Bytes}
    (hraw : s.playlist[s.currentIndex]? = some raw) :
    let r := s.tickPublish env
    SameSettings s r.1 ∧ r.1.currentIndex = nextIndex s.playlist.length s.loop s.currentIndex ∧
      TickCase s env raw r.1 r.2 := by
  intro r
  have hlt : s.currentIndex < s.playlist.length := (List.getElem?_eq_some_iff.mp hraw).1
  have hactive : ¬ (s.playlist = [] ∨ s.currentIndex ≥ s.playlist.length) := by
    rintro (h | h)
    · rw [h] at hlt
      exact absurd hlt (Nat.not_lt_zero _)
    · omega
  have hr : r = s.tickPublish env := rfl
  rw [tickPublish, if_neg hactive] at hr
  rcases loadIndex_cases s env hraw with ⟨msg, hi, hm, h⟩ | ⟨rc, hl, h⟩ | ⟨cloud, hl, h⟩
  · simp only [h, publishCached, hm] at hr
    obtain ⟨hset, hci, hcm, hidx⟩ :=
      advance_spec { s with cachedMsg := some { msg with stamp := env.now } }
    rw [hr]
    exact ⟨⟨hset.playlist, hset.loop, hset.inputFrameId⟩, hidx, .kept msg hi hm (hci.trans hi) hcm⟩
  · simp only [h, publishCached] at hr
    obtain ⟨hset, -, hcm, hidx⟩ := advance_spec { s with cachedMsg := none, cachedIndex := none }
    rw [hr]
    exact ⟨⟨hset.playlist, hset.loop, hset.inputFrameId⟩, hidx, .failed rc hl hcm⟩
  · simp only [h, publishCached] at hr
    obtain ⟨hset, hci, hcm, hidx⟩ := advance_spec { s with
      cachedMsg := some ⟨s.inputFrameId, env.now, cloud⟩, cachedIndex := some s.currentIndex }
    rw [hr]
    exact ⟨⟨hset.playlist, hset.loop, hset.inputFrameId⟩, hidx, .loaded cloud hl hci hcm⟩

/-! ## runs -/

/-- the entry tick `k` is at, and the end of the playlist for good when it does not loop -/
def position (n : Nat) (loop : Bool) (k : Nat) : Nat := if loop then k % n else min k n

theorem position_succ {n : Nat} (hn : 0 < n) (loop : Bool) {k : Nat} (hk : position n loop k < n) :
    position n loop (k + 1) = nextIndex n loop (position n loop k) := by
  unfold position nextIndex at *
  cases loop with
  | false =>
    simp only [Bool.false_eq_true, if_false] at hk ⊢
    split <;> omega
  | true =>
    simp only [if_true] at hk ⊢
    rw [← Nat.mod_add_mod]
    split
    · have e : k % n + 1 = n := by omega
      rw [e, Nat.mod_self]
    · exact Nat.mod_eq_of_lt (by omega)

section
variable (entries : List Bytes) (first : Env C) (env : Nat → Env C)

/-- the cloud was loaded from entry `i`, at the start or at a tick before `k` -/
def LoadedFrom (k i : Nat) (cloud : C) : Prop :=
  ∃ e, (e = first ∨ ∃ j, j < k ∧ e = env j) ∧
    ∃ raw, entries[i]? = some raw ∧ loadEntry e raw = .ok cloud

/-- the state before tick `k` -/
structure Inv (loop : Bool) (frame : Bytes) (k : Nat) (s : PcdLoaderNode C) : Prop where
  playlist : s.playlist = entries
  loops : s.loop = loop
  frameId : s.inputFrameId = frame
  index : s.currentIndex = position entries.length loop k
  cache : ∀ msg, s.cachedMsg = some msg → msg.frameId = frame ∧
    ∃ i, s.cachedIndex = some i ∧ LoadedFrom entries first env k i msg.cloud

variable {entries first env}

theorem LoadedFrom.mono {k i : Nat} {cloud : C} (h : LoadedFrom entries first env k i cloud) :
    LoadedFrom entries first env (k + 1) i cloud := by
  obtain ⟨e, he, hraw⟩ := h
  refine ⟨e, he.imp id ?_, hraw⟩
  rintro ⟨j, hj, rfl⟩
  exact ⟨j, by omega, rfl⟩

theorem LoadedFrom.now {k i : Nat} {cloud : C} {raw : Bytes} (hraw : entries[i]? = some raw)
    (h : loadEntry (env k) raw = .ok cloud) : LoadedFrom entries first env (k + 1) i cloud :=
  ⟨env k, Or.inr ⟨k, by omega, rfl⟩, raw, hraw, h⟩

theorem start_inv (env : Nat → Env C) {loop : Bool} {frame : Bytes} {s : PcdLoaderNode C}
    (h : start entries loop frame first = .ok s) :
    entries ≠ [] ∧ Inv entries first env loop frame 0 s := by
  have hne : entries ≠ [] := by
    rintro rfl
    cases h
  obtain ⟨raw, rest, rfl⟩ := List.exists_cons_of_ne_nil hne
  refine ⟨hne, ?_⟩
  have hidx : position (raw :: rest).length loop 0 = 0 := by cases loop <;> simp [position]
  have hraw : (raw :: rest)[0]? = some raw := rfl
  rcases loadIndex_cases ({ playlist := raw :: rest, loop := loop, inputFrameId := frame } :
      PcdLoaderNode C) first hraw with ⟨msg, hi, -, -⟩ | ⟨rc, -, hl⟩ | ⟨cloud, hload, hl⟩
  · cases hi
  · simp [start, hl] at h
  · simp [start, hl] at h
    subst h
    refine ⟨rfl, rfl, rfl, hidx.symm, fun msg hm => ?_⟩
    cases hm
    exact ⟨rfl, 0, rfl, first, Or.inl rfl, raw, rfl, hload⟩

/-- A tick inside the playlist keeps the invariant, and publishes what the invariant says. -/
theorem tick_inv {loop : Bool} {frame : Bytes} {k : Nat} {s : PcdLoaderNode C} {raw : Bytes}
    (h : Inv entries first env loop frame k s) (hk : position entries.length loop k < entries.length)
    (hraw : entries[position entries.length loop k]? = some raw) :
    Inv entries first env loop frame (k + 1) (s.tickPublish (env k)).1 ∧
      TickCase s (env k) raw (s.tickPublish (env k)).1 (s.tickPublish (env k)).2 := by
  have hraw' : s.playlist[s.currentIndex]? = some raw := by rw [h.playlist, h.index]; exact hraw
  obtain ⟨hset, hidx, hcase⟩ := tickPublish_cases s (env k) hraw'
  refine ⟨⟨hset.playlist.trans h.playlist, hset.loop.trans h.loops,
    hset.inputFrameId.trans h.frameId, ?_, ?_⟩, hcase⟩
  · rw [hidx, h.playlist, h.loops, h.index, position_succ (by omega) loop hk]
  · intro msg hm
    revert hm hcase
    generalize (s.tickPublish (env k)).1 = t
    generalize (s.tickPublish (env k)).2 = out
    intro hcase hm
    cases hcase with
    | kept old hi hold hci hcm =>
      rw [hcm] at hm
      cases hm
      obtain ⟨hf, i, hi', hload⟩ := h.cache old hold
      rw [hi] at hi'
      cases hi'
      exact ⟨hf, _, hci, hload.mono⟩
    | failed rc _ hcm =>
      rw [hcm] at hm
      cases hm
    | loaded cloud hload hci hcm =>
      rw [hcm] at hm
      cases hm
      rw [h.index] at hci
      exact ⟨h.frameId, _, hci, .now hraw hload⟩

/-- Outside the playlist a tick does nothing. -/
theorem tickPublish_done {s : PcdLoaderNode C} (h : s.playlist.length ≤ s.currentIndex)
    (e : Env C) : s.tickPublish e = (s, {}) := by
  unfold tickPublish
  exact if_pos (Or.inr h)

theorem position_lt {n : Nat} (hn : 0 < n) {loop : Bool} {k : Nat} (hk : loop = true ∨ k < n) :
    position n loop k = k % n := by
  unfold position
  rcases hk with rfl | hk
  · rfl
  · rw [Nat.mod_eq_of_lt hk, Nat.min_eq_left (Nat.le_of_lt hk), ite_self]

/-- The invariant before every tick, also after the end of a playlist that does not loop. -/
theorem after_inv {loop : Bool} {frame : Bytes} {self : PcdLoaderNode C}
    (h : Inv entries first env loop frame 0 self) (hne : 0 < entries.length) (k : Nat) :
    Inv entries first env loop frame k (self.after env k) := by
  induction k with
  | zero => exact h
  | succ k ih =>
    by_cases hk : position entries.length loop k < entries.length
    · exact (tick_inv ih hk (List.getElem?_eq_getElem hk)).1
    · have hdone : (self.after env k).playlist.length ≤ (self.after env k).currentIndex := by
        rw [ih.playlist, ih.index]
        omega
      have hstep : self.after env (k + 1) = self.after env k := by
        rw [after, tickPublish_done hdone]
      rw [hstep]
      refine ⟨ih.playlist, ih.loops, ih.frameId, ih.index.trans ?_, fun msg hm => ?_⟩
      · cases loop with
        | false =>
          simp only [position, Bool.false_eq_true, if_false] at hk ⊢
          omega
        | true => exact absurd (Nat.mod_lt k hne) hk
      · obtain ⟨hf, i, hi, hload⟩ := ih.cache msg hm
        exact ⟨hf, i, hi, hload.mono⟩

end

/-- **The playback.**  Whichever loads fail, tick `k` is at entry `k % n`: it is silent exactly
when its own load fails, and a cloud it publishes was loaded from that entry, at this tick or at an
earlier one that the cache remembers.  A playlist that does not loop is silent from tick `n` on. -/
theorem playback (entries : List Bytes) (loop : Bool) (frame : Bytes) (first : Env C)
    (env : Nat → Env C) (self : PcdLoaderNode C) (h : start entries loop frame first = .ok self)
    (k : Nat) :
    let n := entries.length
    let out := self.tick env k
    (loop = true ∨ k < n →
      (out.published = none ↔ ∃ rc, out.attempted = some (.error rc)) ∧
      (∀ r, out.attempted = some r → ∃ raw, entries[k % n]? = some raw ∧ r = loadEntry (env k) raw) ∧
      ∀ msg, out.published = some msg → msg.frameId = frame ∧ msg.stamp = (env k).now ∧
        (out.attempted = some (.ok msg.cloud) ∨
          out.attempted = none ∧ LoadedFrom entries first env k (k % n) msg.cloud)) ∧
    (loop = false → n ≤ k → out.published = none ∧ out.attempted = none) := by
  intro n out
  obtain ⟨hne, hinv⟩ := start_inv env h
  have hn : 0 < n := List.length_pos_iff.mpr hne
  have hk := after_inv hinv hn k
  refine ⟨fun hin => ?_, fun hloop hend => ?_⟩
  · have hpos : position n loop k = k % n := position_lt hn hin
    have hlt : k % n < n := Nat.mod_lt k hn
    have hraw : entries[k % n]? = some entries[k % n] := List.getElem?_eq_getElem hlt
    obtain ⟨-, hcase⟩ := tick_inv hk (by rw [hpos]; exact hlt) (by rw [hpos]; exact hraw)
    change TickCase _ _ _ _ out at hcase
    have hidx : (self.after env k).currentIndex = k % n := hk.index.trans hpos
    revert hcase
    generalize out = r
    intro hcase
    cases hcase with
    | kept old hi hold _ _ =>
      obtain ⟨hf, i, hi', hload⟩ := hk.cache old hold
      rw [hi, hidx] at hi'
      cases hi'
      refine ⟨⟨nofun, fun ⟨_, hrc⟩ => nomatch hrc⟩, nofun, fun msg hm => ?_⟩
      cases hm
      exact ⟨hf, rfl, Or.inr ⟨rfl, hload⟩⟩
    | failed rc hl _ =>
      refine ⟨⟨fun _ => ⟨rc, rfl⟩, fun _ => rfl⟩, fun r hr => ?_, nofun⟩
      cases hr
      exact ⟨_, hraw, hl.symm⟩
    | loaded cloud hl _ _ =>
      refine ⟨⟨nofun, fun ⟨_, hrc⟩ => nomatch hrc⟩, fun r hr => ?_, fun msg hm => ?_⟩
      · cases hr
        exact ⟨_, hraw, hl.symm⟩
      · cases hm
        exact ⟨hk.frameId, rfl, Or.inl rfl⟩
  · have hidx : (self.after env k).currentIndex = n := by
      rw [hk.index, hloop]
      exact Nat.min_eq_right hend
    have hdone : (self.after env k).playlist.length ≤ (self.after env k).currentIndex := by
      rw [hk.playlist, hidx]
    have hout : out = {} := congrArg Prod.snd (tickPublish_done hdone (env k))
    rw [hout]
    exact ⟨rfl, rfl⟩

/-- two entries, and a disk on which the second one cannot be read at the ticks below 3 -/
def flakyDisk (k : Nat) : Env Nat where
  cwd := none
  loadPCDFile path :=
    if path = lit "/a.pcd" then .ok 1 else if 3 ≤ k then .ok 2 else .error (-1)
  now := k

theorem playback_flaky :
    ∃ self, start [lit "/a.pcd", lit "/b.pcd"] true (lit "lidar") (flakyDisk 0) = .ok self ∧
      self.tick flakyDisk 1 = ⟨some (.error (-1)), none⟩ ∧
      (self.tick flakyDisk 3).published = some ⟨lit "lidar", 3, 2⟩ ∧
      ∀ msg, (self.tick flakyDisk 3).published = some msg →
        msg.frameId = lit "lidar" ∧ msg.stamp = 3 ∧
        ((self.tick flakyDisk 3).attempted = some (.ok msg.cloud) ∨
          (self.tick flakyDisk 3).attempted = none ∧
            LoadedFrom [lit "/a.pcd", lit "/b.pcd"] (flakyDisk 0) flakyDisk 3 1 msg.cloud) := by
  refine ⟨_, rfl, rfl, rfl, ?_⟩
  exact ((playback [lit "/a.pcd", lit "/b.pcd"] true (lit "lidar") (flakyDisk 0) flakyDisk _ rfl
    3).1 (Or.inl rfl)).2.2

end PcdLoaderNode

end VD
