import VehicleDetection.Sender.Attempts

/-!
# The destructor and the worker

`Queue` takes an attempt as one step.  Here it begins in one step and ends in another, so that the destructor
can come between the two.

* `Live`        the system, and whether an attempt is running;
* `run_sys`     without the beginnings of attempts its runs are runs of `Sys`;
* `Quiet`       from here on the worker begins no attempt, and it returns;
* `Calm`        what the worker may be at when the flag is set;
* `quiet_iff`   the one holds after the flag has been set exactly when the other held before.
-/

set_option linter.unusedVariables false

namespace VD.DetectionSenderNode
open BStr

structure Live where
  sys : Sys
  running : Bool := false

inductive Act where
  | begin
  | event (e : Event)

/-- what the worker thread does by itself; an attempt ends when its peer lets it -/
def Act.byWorker : Act → Bool
  | .begin => true
  | .event e => e.byWorker

def Act.event? : Act → Option Event
  | .begin => none
  | .event e => some e

/-- the snapshot makes the worker post -/
def Snapshot.posts (snap : Snapshot) : Bool := sendModeUsesHttp snap.sendMode && snap.httpUrlValid

def Worker.isPosting : Worker → Bool
  | .posting _ _ _ => true
  | _ => false

theorem Worker.exists_posting {w : Worker} (h : w.isPosting = true) :
    ∃ snap body i, w = .posting snap body i := by
  cases w with
  | posting snap body i => exact ⟨snap, body, i, rfl⟩
  | notStarted => cases h
  | waiting => cases h
  | popped body => cases h
  | exited => cases h

namespace Live

def step (l : Live) : Act → Option Live
  | .begin => if l.sys.worker.isPosting ∧ l.running = false then some { l with running := true } else none
  | .event e =>
    if e.attempted.isSome ∧ l.running = false then none
    else (l.sys.step e).map fun sys => { sys := sys, running := l.running && e.attempted.isNone }

def run (l : Live) (acts : List Act) : Option Live := Steps.run step l acts

/-- a state that some node is in, after some start and some interleaving -/
def Reachable (l : Live) : Prop :=
  ∃ others overrides opened n files before,
    start others overrides opened = .ok (.ok n) ∧ run { sys := Sys.initial n files } before = some l

/-! ## against the coarse steps -/

theorem step_event {l l' : Live} {e : Event} (h : l.step (.event e) = some l') :
    l.sys.step e = some l'.sys ∧ (e.attempted.isSome → l.running = true) ∧
      l'.running = (l.running && e.attempted.isNone) := by
  simp only [step] at h
  split at h
  · cases h
  · rename_i hb
    obtain ⟨sys, hs, rfl⟩ := Option.map_eq_some_iff.mp h
    exact ⟨hs, fun he => Bool.eq_true_of_not_eq_false fun hf => hb ⟨he, hf⟩, rfl⟩

theorem step_begin {l l' : Live} (h : l.step .begin = some l') :
    l.sys.worker.isPosting = true ∧ l.running = false ∧ l'.sys = l.sys ∧ l'.running = true := by
  simp only [step] at h
  split at h
  · rename_i hb
    cases h
    exact ⟨hb.1, hb.2, rfl, rfl⟩
  · cases h

/-- Without the beginnings of attempts a run is a run of `Sys`. -/
theorem run_sys {l l' : Live} {acts : List Act} (h : l.run acts = some l') :
    Steps.run Sys.step l.sys (acts.filterMap Act.event?) = some l'.sys := by
  refine Steps.run_image ?_ h
  intro s t a ht
  cases a with
  | begin => exact (step_begin ht).2.2.1
  | event e => exact (step_event ht).1

end Live

theorem Live.Reachable.sys {l : Live} (h : Reachable l) : l.sys.Reachable := by
  obtain ⟨others, overrides, opened, n, files, before, hs, hr⟩ := h
  exact ⟨others, overrides, opened, n, files, _, hs, Live.run_sys hr⟩

namespace Live

/-- An attempt runs only while the worker posts. -/
structure Inv (l : Live) : Prop where
  sys : Sys.Inv l.sys
  running : l.running = true → l.sys.worker.isPosting = true

theorem step_inv {l l' : Live} {a : Act} (h : Inv l) (hs : l.step a = some l') : Inv l' := by
  cases a with
  | begin =>
    obtain ⟨hpost, -, hsys, -⟩ := step_begin hs
    exact ⟨hsys ▸ h.sys, fun _ => hsys ▸ hpost⟩
  | event e =>
    obtain ⟨hsys, -, hrun⟩ := step_event hs
    refine ⟨Sys.step_inv h.sys hsys, fun hr => ?_⟩
    rw [hrun, Bool.and_eq_true, Option.isNone_iff_eq_none] at hr
    have hpost := h.running hr.1
    obtain ⟨snap, body, i, hw⟩ := Worker.exists_posting hpost
    rcases Sys.step_posting h.sys.ready hw hsys with ⟨-, hsame⟩ | ⟨result, rfl, -⟩
    · rw [hsame]
      exact hpost
    · cases hr.2

theorem Reachable.inv {l : Live} (h : Reachable l) : Inv l := by
  obtain ⟨others, overrides, opened, n, files, before, hs, hr⟩ := h
  refine Steps.run_inv (fun s t a => step_inv) ⟨Sys.initial_inv (start_inv hs) files, ?_⟩ hr
  exact fun hf => Bool.noConfusion hf

end Live

/-! ## the counter -/

namespace Sys

/-- an attempt that is to be made is below the bound -/
def Counted (s : Sys) : Prop := ∀ snap body i, s.worker = .posting snap body i →
  0 ≤ i.toInt ∧ i < totalAttempts snap.httpRetryCount

theorem one_le_totalAttempts (retry : Int64) : 1 ≤ totalAttempts retry := by
  unfold totalAttempts
  split
  · rename_i h
    exact Int64.le_of_lt h
  · exact Int64.le_refl 1

theorem toInt_add_one {i total : Int64} (h : i < total) : (i + 1).toInt = i.toInt + 1 := by
  have e : (1 : Int64).toInt = 1 := by decide
  have hlt := Int64.lt_iff_toInt_lt.mp h
  have hlim := Int64.toInt_lt total
  have hlo := Int64.le_toInt i
  rw [Int64.toInt_add, e]
  exact Int.bmod_eq_of_le (by omega) (by omega)

theorem step_counted {s s' : Sys} {e : Event} (hc : Counted s) (h : s.step e = some s') :
    Counted s' := by
  intro snap body i hw'
  by_cases he : e.byWorker = true
  · cases worker_next he h with
    | cleared _ _ => cases hw'
    | popped body' queue _ _ _ => cases hw'
    | skipped body' _ _ => cases hw'
    | copied body' _ _ =>
      cases hw'
      have h₁ := Int64.le_iff_toInt_le.mp (one_le_totalAttempts s.node.state.snapshot.httpRetryCount)
      have e₀ : (0 : Int64).toInt = 0 := by decide
      have e₁ : (1 : Int64).toInt = 1 := by decide
      refine ⟨e₀.ge, Int64.lt_iff_toInt_lt.mpr ?_⟩
      omega
    | retried result snap' body' j hw hnext =>
      cases hw'
      obtain ⟨h₀, hlt⟩ := hc _ _ _ hw
      have hadd := toInt_add_one hlt
      exact ⟨by omega, hnext.2⟩
    | finished result snap' body' j _ _ => cases hw'
  · rcases step_started (Bool.eq_false_of_not_eq_true he) h with hw | ⟨-, hw⟩
    · exact hc snap body i (hw.symm.trans hw')
    · cases hw.symm.trans hw'

/-- what decides whether an attempt is the last one -/
theorem last_iff {retry i : Int64} (h₀ : 0 ≤ i.toInt) (hlt : i < totalAttempts retry) :
    i + 1 < totalAttempts retry ↔ ¬ (retry ≤ i ∨ retry = Int64.maxValue) := by
  have hadd := toInt_add_one hlt
  rw [not_or, Int64.lt_iff_toInt_lt, hadd, Int64.le_iff_toInt_le]
  by_cases hmax : retry = Int64.maxValue
  · subst hmax
    have e : (totalAttempts Int64.maxValue).toInt = 1 := by decide
    rw [e]
    exact iff_of_false (by omega) fun h => h.2 rfl
  · have hlt' := Int64.lt_iff_toInt_lt.mp hlt
    rw [totalAttempts_toInt hmax] at hlt' ⊢
    rw [and_iff_left hmax]
    omega

theorem Reachable.counted {s : Sys} (h : Reachable s) : Counted s := by
  obtain ⟨others, overrides, opened, n, files, before, hs, hr⟩ := h
  refine Steps.run_inv (P := Counted) (fun s t e => step_counted) ?_ hr
  intro snap body i hw
  have hinit : (initial n files).worker = .waiting ∨ (initial n files).worker = .notStarted := by
    show (if _ then _ else _) = _ ∨ (if _ then _ else _) = _
    split
    · exact .inl rfl
    · exact .inr rfl
  rcases hinit with h | h
  · cases h.symm.trans hw
  · cases h.symm.trans hw

end Sys

/-! ## after the flag has been set -/

def Worker.isOut : Worker → Bool
  | .notStarted | .exited => true
  | _ => false

def Worker.rank : Worker → Nat
  | .notStarted | .exited => 0
  | .waiting => 1
  | .popped _ | .posting _ _ _ => 2

namespace Live

/-- Left to itself and to the end of a running attempt, the worker begins no attempt, takes at most two more
steps, and has returned when it can take no more. -/
def Quiet (l : Live) : Prop :=
  ∀ acts l', (∀ a ∈ acts, a.byWorker = true) → l.run acts = some l' →
    .begin ∉ acts ∧ acts.length ≤ 2 ∧
      ((∀ a, a.byWorker = true → l'.step a = none) → l'.sys.worker.isOut = true)

/-- The worker has no body in hand, or one that it is not going to post, or is within the last attempt. -/
def Calm (l : Live) : Prop :=
  match l.sys.worker with
  | .notStarted | .waiting | .exited => True
  | .popped _ => l.sys.node.state.snapshot.posts = false
  | .posting snap _ i =>
    l.running = true ∧ (snap.httpRetryCount ≤ i ∨ snap.httpRetryCount = Int64.maxValue)

structure Stopping (l : Live) : Prop where
  stopFlag : l.sys.stopFlag = true
  calm : Calm l
  counted : l.sys.Counted

theorem posts_false {snap : Snapshot} :
    snap.posts = false ↔ ¬ sendModeUsesHttp snap.sendMode ∨ ¬ snap.httpUrlValid := by
  rw [Snapshot.posts, Bool.and_eq_false_iff, Bool.not_eq_true, Bool.not_eq_true]

/-- A step of the worker after the flag has been set. -/
theorem step_stopping {l l' : Live} {a : Act} (h : Stopping l) (ha : a.byWorker = true)
    (hs : l.step a = some l') : a ≠ .begin ∧ Stopping l' ∧ l'.sys.worker.rank < l.sys.worker.rank := by
  obtain ⟨hflag, hcalm, hcount⟩ := h
  cases a with
  | begin =>
    obtain ⟨hpost, hrun, -, -⟩ := step_begin hs
    obtain ⟨snap, body, i, hw⟩ := Worker.exists_posting hpost
    unfold Calm at hcalm
    rw [hw] at hcalm
    exact absurd (hrun.symm.trans hcalm.1) Bool.noConfusion
  | event e =>
    obtain ⟨hsys, -, -⟩ := step_event hs
    have hcount' := Sys.step_counted hcount hsys
    -- every step leads to a worker that waits or has returned
    suffices hnext : l'.sys.stopFlag = true ∧ (l'.sys.worker = .waiting ∨ l'.sys.worker = .exited) ∧
        l'.sys.worker.rank < l.sys.worker.rank by
      obtain ⟨hflag', hw', hrank⟩ := hnext
      refine ⟨nofun, ⟨hflag', ?_, hcount'⟩, hrank⟩
      unfold Calm
      rcases hw' with hw' | hw'
      · rw [hw']
        trivial
      · rw [hw']
        trivial
    unfold Calm at hcalm
    generalize l'.sys = t at hsys
    cases Sys.worker_next ha hsys with
    | cleared hw _ =>
      refine ⟨hflag, .inr rfl, ?_⟩
      rw [hw]
      exact Nat.zero_lt_one
    | popped body queue _ hstop _ => exact absurd (hflag.symm.trans hstop) Bool.noConfusion
    | skipped body hw _ =>
      refine ⟨hflag, .inl rfl, ?_⟩
      rw [hw]
      exact Nat.one_lt_two
    | copied body hw hpost =>
      rw [hw] at hcalm
      exact absurd (posts_false.mp hcalm) hpost
    | retried result snap body i hw hnext =>
      rw [hw] at hcalm
      obtain ⟨h₀, hlt⟩ := hcount _ _ _ hw
      exact absurd hcalm.2 ((Sys.last_iff h₀ hlt).mp hnext.2)
    | finished result snap body i hw _ =>
      refine ⟨hflag, .inl rfl, ?_⟩
      rw [hw]
      exact Nat.one_lt_two

/-- It takes another step until it has returned. -/
theorem isOut_of_stuck {l : Live} (h : Stopping l)
    (hstuck : ∀ a, a.byWorker = true → l.step a = none) : l.sys.worker.isOut = true := by
  obtain ⟨hflag, hcalm, -⟩ := h
  unfold Calm at hcalm
  cases hw : l.sys.worker with
  | notStarted => rfl
  | exited => rfl
  | waiting =>
    have h := hstuck (.event .wake) rfl
    simp [step, Event.attempted, Sys.step, hw, hflag] at h
  | popped body =>
    have h := hstuck (.event .copySnapshot) rfl
    simp only [step, Event.attempted, Sys.step, hw] at h
    split at h
    · rename_i hf
      cases hf.1
    · split at h
      · cases h
      · cases h
  | posting snap body i =>
    rw [hw] at hcalm
    have h := hstuck (.event (.attempt {})) rfl
    simp only [step, Event.attempted, Sys.step, hw, hcalm.1] at h
    split at h
    · rename_i hf
      cases hf.2
    · split at h
      · cases h
      · cases h

theorem Stopping.quiet {l : Live} (h : Stopping l) : Quiet l := by
  intro acts l' ha hrun
  have hstep : ∀ s t a, Stopping s → a.byWorker = true → step s a = some t →
      Stopping t ∧ t.sys.worker.rank < s.sys.worker.rank :=
    fun s t a hs ha ht => (step_stopping hs ha ht).2
  obtain ⟨hstop', hle⟩ := Steps.run_rank hstep h ha hrun
  have hrank : l.sys.worker.rank ≤ 2 := by
    cases l.sys.worker with
    | notStarted => exact Nat.zero_le 2
    | waiting => exact one_le_two
    | popped body => exact le_rfl
    | posting snap body i => exact le_rfl
    | exited => exact Nat.zero_le 2
  refine ⟨fun hbegin => ?_, by omega, isOut_of_stuck hstop'⟩
  obtain ⟨before, after, rfl⟩ := List.append_of_mem hbegin
  obtain ⟨u, hu, hrest⟩ := Steps.run_append.mp hrun
  obtain ⟨v, hv, -⟩ := Steps.run_cons.mp hrest
  have hu' := (Steps.run_rank hstep h (fun a hm => ha a (List.mem_append_left _ hm)) hu).1
  exact (step_stopping hu' rfl hv).1 rfl

/-! ## attempts after the flag has been set -/

theorem step_copySnapshot {l : Live} {body : Body} (hw : l.sys.worker = .popped body)
    (hp : l.sys.node.state.snapshot.posts = true) :
    l.step (.event .copySnapshot) =
      some { l with sys := { l.sys with worker := .posting l.sys.node.state.snapshot body 0 } } := by
  have hpost : ¬ (¬ sendModeUsesHttp l.sys.node.state.snapshot.sendMode ∨
      ¬ l.sys.node.state.snapshot.httpUrlValid) := by
    rw [← posts_false, hp]
    exact Bool.noConfusion
  have hsys : l.sys.step .copySnapshot =
      some { l.sys with worker := .posting l.sys.node.state.snapshot body 0 } := by
    simp only [Sys.step, hw]
    rw [if_neg hpost]
  simp [step, Event.attempted, hsys]

theorem step_attempt {l : Live} {snap : Snapshot} {body : Body} {i : Int64}
    (hw : l.sys.worker = .posting snap body i) (hr : l.running = true)
    (hn : i + 1 < totalAttempts snap.httpRetryCount) :
    l.step (.event (.attempt {})) =
      some { sys := { l.sys with worker := .posting snap body (i + 1) } } := by
  have hsys : l.sys.step (.attempt {}) = some { l.sys with worker := .posting snap body (i + 1) } := by
    simp only [Sys.step, hw]
    rw [if_pos ⟨trivial, hn⟩]
  simp [step, Event.attempted, hsys, hr]

theorem step_begin_isSome {l : Live} (hp : l.sys.worker.isPosting = true) (hr : l.running = false) :
    ∃ l', l.step .begin = some l' := ⟨_, if_pos ⟨hp, hr⟩⟩

/-- A run to the beginning of an attempt ends the quiet. -/
theorem not_quiet {l l' l'' : Live} {acts : List Act} (ha : ∀ a ∈ acts, a.byWorker = true)
    (hrun : l.run acts = some l') (hs : l'.step .begin = some l'') : ¬ Quiet l := by
  intro hq
  have hrun' : l.run (acts ++ [.begin]) = some l'' :=
    Steps.run_append.mpr ⟨l', hrun, Steps.run_cons.mpr ⟨l'', hs, rfl⟩⟩
  refine (hq _ _ (fun a hm => ?_) hrun').1 (List.mem_append_right _ (List.mem_singleton_self _))
  rcases List.mem_append.mp hm with hm | hm
  · exact ha a hm
  · rw [List.mem_singleton.mp hm]
    rfl

theorem run_one {l l' : Live} {a : Act} (h : l.step a = some l') : l.run [a] = some l' :=
  Steps.run_cons.mpr ⟨l', h, rfl⟩

theorem Quiet.popped {l : Live} (h : Quiet l) {body : Body} (hw : l.sys.worker = .popped body)
    (hr : l.running = false) : l.sys.node.state.snapshot.posts = false := by
  by_contra hpost
  have hcopy := step_copySnapshot hw (Bool.eq_true_of_not_eq_false hpost)
  obtain ⟨l', hb⟩ := step_begin_isSome (l := { l with sys := { l.sys with
    worker := .posting l.sys.node.state.snapshot body 0 } }) rfl hr
  exact not_quiet (List.forall_mem_singleton.mpr rfl) (run_one hcopy) hb h

theorem Quiet.posting {l : Live} (h : Quiet l) {snap : Snapshot} {body : Body} {i : Int64}
    (hw : l.sys.worker = .posting snap body i) :
    l.running = true ∧ ¬ i + 1 < totalAttempts snap.httpRetryCount := by
  have hr : l.running = true := by
    by_contra hr
    obtain ⟨l', hb⟩ := step_begin_isSome (by rw [hw]; rfl) (Bool.eq_false_of_not_eq_true hr)
    exact not_quiet (List.forall_mem_nil _) rfl hb h
  refine ⟨hr, fun hn => ?_⟩
  obtain ⟨l', hb⟩ := step_begin_isSome (l := { sys := { l.sys with
    worker := .posting snap body (i + 1) } }) rfl rfl
  exact not_quiet (List.forall_mem_singleton.mpr rfl) (run_one (step_attempt hw hr hn)) hb h

/-! ## the flag -/

/-- the destructor has set the flag -/
def stopped (l : Live) : Live := { l with sys := { l.sys with stopFlag := true } }

theorem step_shutdown (l : Live) : l.step (.event .shutdown) = some l.stopped := by
  simp [step, Event.attempted, Sys.step, stopped]

/-- For every reachable state in which the destructor sets the flag, every retry count and all outcomes: the
worker begins no further attempt and returns, exactly where it was calm. -/
theorem quiet_iff (l l' : Live) (h : l.Reachable) (hs : l.step (.event .shutdown) = some l') :
    Quiet l' ↔ Calm l := by
  obtain rfl := Option.some.inj ((step_shutdown l).symm.trans hs)
  have hinv := h.inv
  have hcount := h.sys.counted
  constructor
  · intro hq
    unfold Calm
    cases hw : l.sys.worker with
    | notStarted => trivial
    | waiting => trivial
    | exited => trivial
    | popped body =>
      apply hq.popped hw
      by_contra hr
      have hp := hinv.running (Bool.eq_true_of_not_eq_false hr)
      rw [hw] at hp
      cases hp
    | posting snap body i =>
      obtain ⟨hr, hlast⟩ := hq.posting hw
      obtain ⟨h₀, hlt⟩ := hcount _ _ _ hw
      exact ⟨hr, by_contra fun hn => hlast ((Sys.last_iff h₀ hlt).mpr hn)⟩
  · intro hcalm
    exact Stopping.quiet ⟨rfl, hcalm, hcount⟩

/-- three bodies, and one retry: up to the second attempt for the first of them -/
def lastAttempt : List Act := [
  .event (.parameters [("send_mode", .string (lit "http")), ("http_retry_count", .integer 1)] true),
  .event .ensureStarted,
  .event (.detections ⟨0, 0, lit "map", []⟩ .ok), .event .enqueue,
  .event (.detections ⟨1, 0, lit "map", []⟩ .ok), .event .enqueue,
  .event (.detections ⟨2, 0, lit "map", []⟩ .ok), .event .enqueue,
  .event .wake, .event .copySnapshot, .begin, .event (.attempt {}), .begin]

/-- The flag is set while the last attempt runs and two bodies are queued. -/
theorem quiet_iff_last : ∃ l, run { sys := Sys.initial defaultNode fun _ => [] } lastAttempt = some l ∧
    l.running = true ∧ l.sys.queue.length = 2 ∧ (Quiet l.stopped ↔ Calm l) := by
  have hsome : ((run { sys := Sys.initial defaultNode fun _ => [] } lastAttempt).any fun l =>
      l.running && l.sys.queue.length == 2) = true := by decide +kernel
  obtain ⟨l, hl, hlive⟩ := (Option.any_eq_true _ _).mp hsome
  rw [Bool.and_eq_true, beq_iff_eq] at hlive
  exact ⟨l, hl, hlive.1, hlive.2, quiet_iff l l.stopped
    ⟨fun _ => none, fun _ => none, true, defaultNode, _, lastAttempt, start_default, hl⟩ (step_shutdown l)⟩

/-- mode `http` with three retries, up to the first attempt for a body -/
def firstAttempt : List Act := [
  .event (.parameters [("send_mode", .string (lit "http")), ("http_retry_count", .integer 3)] true),
  .event .ensureStarted, .event (.detections ⟨0, 0, lit "map", []⟩ .ok), .event .enqueue, .event .wake,
  .event .copySnapshot, .begin]

/-- The destructor sets the flag during the first attempt; the attempt fails, and the next one begins. -/
theorem quiet_retried : ∃ l l', Reachable l ∧ l.step (.event .shutdown) = some l' ∧ ¬ Quiet l' := by
  have hsome : ((run { sys := Sys.initial defaultNode fun _ => [] } firstAttempt).bind fun l =>
      run l.stopped [.event (.attempt {}), .begin]).isSome = true := by decide +kernel
  obtain ⟨l', h⟩ := Option.isSome_iff_exists.mp hsome
  obtain ⟨l, hl, hrun⟩ := Option.bind_eq_some_iff.mp h
  refine ⟨l, l.stopped, ⟨fun _ => none, fun _ => none, true, defaultNode, _, firstAttempt, start_default,
    hl⟩, step_shutdown l, fun hq => ?_⟩
  exact (hq _ l' (by decide) hrun).1 (by simp)

end Live

end VD.DetectionSenderNode
