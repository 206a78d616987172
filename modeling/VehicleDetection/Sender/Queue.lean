import VehicleDetection.Base.Conveyor
import VehicleDetection.Base.Steps
import VehicleDetection.Sender.Worker

/-!
# The send queue of `detection_sender_node`

The executor runs one callback at a time; the worker thread and the destructor run beside it.  A
step is what one of them does between two points where another can come in:

* `onDetections`  copies the snapshot, saves and publishes, and decides whether a body is to be sent;
  `enqueueHttp` then runs under `queue_mutex_`;
* an accepted batch commits the snapshot, and starts the worker in a step of its own;
* the worker wakes under `queue_mutex_` and pops or exits, copies the snapshot, makes its attempts;
* the destructor sets `stop_flag_`.

A body carries the number of its enqueueing.  The lists `enqueued`, `finished`, `dropped` and
`cleared` are ghosts.

* `WorkerNext`     what a step of the worker does;
* `Next`           what a step leaves behind, one case for each kind of step (`step_next`);
* `step_conveyor`  the system is a `Conveyor` of size `kMaxQueueSize`;
* `Ready`          bodies are only sent and queued for a worker that has been started;
* `queue_sound`    what follows for every interleaving.
-/

set_option linter.unusedVariables false

namespace VD.DetectionSenderNode
open BStr

def kMaxQueueSize : Nat := 32

/-- `payload` is `to_json_payload(*msg)`.  The result: whether the message is published, the body to
enqueue, the members and the files. -/
def onDetections (self : Members) (files : Files) (payload : DetectionJsonPayload)
    (outcome : WriteOutcome) : Bool × Option Bytes × Members × Files :=
  let snap := self.snapshot
  let (writer, files) :=
    if snap.saveResults then (self.writer.append files payload outcome).2 else (self.writer, files)
  let self := { self with writer := writer }
  if snap.sendMode = kSendModeDisabled then (false, none, self, files)
  else
    (sendModeUsesTopic snap.sendMode,
      if sendModeUsesHttp snap.sendMode then some (serializeDetections payload) else none,
      self, files)

/-- the number of its enqueueing and the text -/
abbrev Body := Nat × Bytes

/-- the queue after the push, and the body that is dropped for it -/
def enqueueHttp (queue : List Body) (body : Body) : List Body × Option Body :=
  if queue.length ≥ kMaxQueueSize then (queue.tail ++ [body], queue.head?)
  else (queue ++ [body], none)

/-! ## the system -/

/-- where the executor is: between callbacks, before `enqueue_http`, or between the commit of an
accepted batch and `ensure_http_worker_started` -/
inductive Executor where
  | idle
  | enqueueing (body : Bytes)
  | starting (mode : Bytes)

/-- where the worker is; `posting` is before attempt `i` -/
inductive Worker where
  | notStarted
  | waiting
  | popped (body : Body)
  | posting (snap : Snapshot) (body : Body) (i : Int64)
  | exited

def Worker.hand : Worker → Option Body
  | .popped body => some body
  | .posting _ body _ => some body
  | _ => none

structure Sys where
  node : Node
  files : Files
  queue : List Body := []
  stopFlag : Bool := false
  executor : Executor := .idle
  worker : Worker
  enqueued : List Body := []
  finished : List Body := []
  dropped : List Body := []
  cleared : List Body := []

inductive Event where
  | parameters (batch : List Parameter) (opened : Bool)
  | ensureStarted
  | detections (payload : DetectionJsonPayload) (outcome : WriteOutcome)
  | enqueue
  | wake
  | copySnapshot
  | attempt (result : HttpPostResult)
  | shutdown

/-- a step of the worker -/
def Event.byWorker : Event → Bool
  | .wake | .copySnapshot | .attempt _ => true
  | _ => false

/-- the answer of a batch that was accepted -/
def isAccepted : Option SetParametersResult → Bool
  | some result => result.successful
  | none => false

namespace Sys

/-- the node starts, and the worker with it if the mode needs it -/
def initial (node : Node) (files : Files) : Sys where
  node := node
  files := files
  worker := if node.state.workerStarted then .waiting else .notStarted

def setStarted (n : Node) (started : Bool) : Node :=
  { n with state := { n.state with workerStarted := started } }

/-- `none`: the event cannot happen now -/
def step (s : Sys) : Event → Option Sys
  | .parameters batch opened =>
    match s.executor with
    | .idle =>
      let (answer, next) := setParametersAtomically (onParameterChange opened) s.node batch
      if isAccepted answer then
        some { s with
          node := setStarted next s.node.state.workerStarted
          executor := .starting next.state.snapshot.sendMode }
      else some { s with node := next }
    | _ => none
  | .ensureStarted =>
    match s.executor with
    | .starting mode =>
      let started := ensureHttpWorkerStarted s.node.state.workerStarted mode
      some { s with
        node := setStarted s.node started
        executor := .idle
        worker := if started && !s.node.state.workerStarted then .waiting else s.worker }
    | _ => none
  | .detections payload outcome =>
    match s.executor with
    | .idle =>
      let (_, body, members, files) := onDetections s.node.state s.files payload outcome
      some { s with
        node := { s.node with state := members }
        files := files
        executor := match body with
          | some body => .enqueueing body
          | none => .idle }
    | _ => none
  | .enqueue =>
    match s.executor with
    | .enqueueing text =>
      let body : Body := (s.enqueued.length, text)
      let (queue, dropped) := enqueueHttp s.queue body
      some { s with
        queue := queue
        executor := .idle
        enqueued := s.enqueued ++ [body]
        dropped := s.dropped ++ dropped.toList }
    | _ => none
  | .wake =>
    match s.worker with
    | .waiting =>
      if s.stopFlag then
        some { s with queue := [], worker := .exited, cleared := s.cleared ++ s.queue }
      else match s.queue with
        | [] => none
        | body :: queue => some { s with queue := queue, worker := .popped body }
    | _ => none
  | .copySnapshot =>
    match s.worker with
    | .popped body =>
      let snap := s.node.state.snapshot
      if ¬ sendModeUsesHttp snap.sendMode ∨ ¬ snap.httpUrlValid then
        some { s with worker := .waiting, finished := s.finished ++ [body] }
      else some { s with worker := .posting snap body 0 }
    | _ => none
  | .attempt result =>
    match s.worker with
    | .posting snap body i =>
      if result.ok = false ∧ i + 1 < totalAttempts snap.httpRetryCount then
        some { s with worker := .posting snap body (i + 1) }
      else some { s with worker := .waiting, finished := s.finished ++ [body] }
    | _ => none
  | .shutdown => some { s with stopFlag := true }

def run (s : Sys) (events : List Event) : Option Sys := Steps.run step s events

def belt (s : Sys) : Conveyor.Belt Body :=
  ⟨s.enqueued, s.queue, s.worker.hand, s.finished, s.dropped, s.cleared⟩

/-! ## what a step does -/

/-- a batch that is not accepted changes nothing -/
theorem parameters_refused {opened : Bool} {n : Node} {batch : List Parameter}
    (h : isAccepted (setParametersAtomically (onParameterChange opened) n batch).1 ≠ true) :
    (setParametersAtomically (onParameterChange opened) n batch).2 = n := by
  unfold setParametersAtomically at h ⊢
  split
  · rename_i ht
    rw [if_pos ht] at h
    rw [onParameterChange_eq] at h ⊢
    cases hc : record.change n.state.snapshot batch with
    | error e => rfl
    | ok r =>
      cases r with
      | error reason => rfl
      | ok c =>
        rw [hc] at h
        exact absurd rfl h
  · rfl

/-- `on_detections` touches neither the snapshot nor the worker, and sends a body only in a mode that
posts -/
theorem onDetections_members (self : Members) (files : Files) (payload : DetectionJsonPayload)
    (outcome : WriteOutcome) :
    let r := onDetections self files payload outcome
    r.2.2.1.snapshot = self.snapshot ∧ r.2.2.1.workerStarted = self.workerStarted ∧
      (r.2.1 ≠ none → sendModeUsesHttp self.snapshot.sendMode = true) := by
  unfold onDetections
  dsimp only
  split
  · exact ⟨rfl, rfl, fun h => absurd rfl h⟩
  · refine ⟨rfl, rfl, fun h => ?_⟩
    by_contra hm
    exact h (if_neg hm)

/-- One step of the worker, by where it is and what it leaves behind. -/
inductive WorkerNext (s : Sys) : Event → Sys → Prop
  | cleared (hw : s.worker = .waiting) (hstop : s.stopFlag = true) :
      WorkerNext s .wake { s with queue := [], worker := .exited, cleared := s.cleared ++ s.queue }
  | popped (body : Body) (queue : List Body) (hw : s.worker = .waiting) (hstop : s.stopFlag = false)
      (hq : s.queue = body :: queue) :
      WorkerNext s .wake { s with queue := queue, worker := .popped body }
  | skipped (body : Body) (hw : s.worker = .popped body)
      (hskip : ¬ sendModeUsesHttp s.node.state.snapshot.sendMode ∨ ¬ s.node.state.snapshot.httpUrlValid) :
      WorkerNext s .copySnapshot { s with worker := .waiting, finished := s.finished ++ [body] }
  | copied (body : Body) (hw : s.worker = .popped body)
      (hpost : ¬ (¬ sendModeUsesHttp s.node.state.snapshot.sendMode ∨
        ¬ s.node.state.snapshot.httpUrlValid)) :
      WorkerNext s .copySnapshot { s with worker := .posting s.node.state.snapshot body 0 }
  | retried (result : HttpPostResult) (snap : Snapshot) (body : Body) (i : Int64)
      (hw : s.worker = .posting snap body i)
      (hnext : result.ok = false ∧ i + 1 < totalAttempts snap.httpRetryCount) :
      WorkerNext s (.attempt result) { s with worker := .posting snap body (i + 1) }
  | finished (result : HttpPostResult) (snap : Snapshot) (body : Body) (i : Int64)
      (hw : s.worker = .posting snap body i)
      (hlast : ¬ (result.ok = false ∧ i + 1 < totalAttempts snap.httpRetryCount)) :
      WorkerNext s (.attempt result) { s with worker := .waiting, finished := s.finished ++ [body] }

theorem worker_next {s s' : Sys} {e : Event} (he : e.byWorker = true) (h : s.step e = some s') :
    WorkerNext s e s' := by
  cases e with
  | parameters batch opened => cases he
  | ensureStarted => cases he
  | detections payload outcome => cases he
  | enqueue => cases he
  | wake =>
    simp only [step] at h
    split at h
    · rename_i hw
      split at h
      · rename_i hstop
        cases h
        exact .cleared hw hstop
      · rename_i hstop
        split at h
        · cases h
        · rename_i body queue hq
          cases h
          exact .popped body queue hw (Bool.eq_false_of_not_eq_true hstop) hq
    · cases h
  | copySnapshot =>
    simp only [step] at h
    split at h
    · rename_i body hw
      split at h
      · rename_i hskip
        cases h
        exact .skipped body hw hskip
      · rename_i hpost
        cases h
        exact .copied body hw hpost
    · cases h
  | attempt result =>
    simp only [step] at h
    split at h
    · rename_i snap body i hw
      split at h
      · rename_i hnext
        cases h
        exact .retried result snap body i hw hnext
      · rename_i hlast
        cases h
        exact .finished result snap body i hw hlast
    · cases h
  | shutdown => cases he

/-- One step, by what it leaves behind. -/
inductive Next (s : Sys) : Sys → Prop
  | accepted (next : Node) : s.executor = .idle →
      Next s { s with
        node := setStarted next s.node.state.workerStarted
        executor := .starting next.state.snapshot.sendMode }
  | refused : Next s s
  | ensured (mode : Bytes) (started : Bool) : s.executor = .starting mode →
      started = (s.node.state.workerStarted || sendModeUsesHttp mode) →
      Next s { s with
        node := setStarted s.node started
        executor := .idle
        worker := if started && !s.node.state.workerStarted then .waiting else s.worker }
  | detected (members : Members) (files : Files) (body : Option Bytes) : s.executor = .idle →
      members.snapshot = s.node.state.snapshot →
      members.workerStarted = s.node.state.workerStarted →
      (body ≠ none → sendModeUsesHttp s.node.state.snapshot.sendMode = true) →
      Next s { s with
        node := { s.node with state := members }
        files := files
        executor := match body with
          | some body => .enqueueing body
          | none => .idle }
  | enqueued (text : Bytes) : s.executor = .enqueueing text →
      Next s { s with
        queue := (enqueueHttp s.queue (s.enqueued.length, text)).1
        executor := .idle
        enqueued := s.enqueued ++ [(s.enqueued.length, text)]
        dropped := s.dropped ++ (enqueueHttp s.queue (s.enqueued.length, text)).2.toList }
  | cleared : s.worker = .waiting → s.stopFlag = true →
      Next s { s with queue := [], worker := .exited, cleared := s.cleared ++ s.queue }
  | popped (body : Body) (queue : List Body) : s.worker = .waiting → s.stopFlag = false →
      s.queue = body :: queue → Next s { s with queue := queue, worker := .popped body }
  | kept (body : Body) (worker : Worker) : s.worker.hand = some body → worker.hand = some body →
      Next s { s with worker := worker }
  | finished (body : Body) : s.worker.hand = some body →
      Next s { s with worker := .waiting, finished := s.finished ++ [body] }
  | stopped : Next s { s with stopFlag := true }

theorem step_next {s s' : Sys} {e : Event} (h : s.step e = some s') : Next s s' := by
  cases e with
  | parameters batch opened =>
    simp only [step] at h
    split at h
    · rename_i hidle
      split at h
      · cases h
        exact .accepted _ hidle
      · rename_i hacc
        cases h
        rw [parameters_refused hacc]
        exact .refused
    · cases h
  | ensureStarted =>
    simp only [step] at h
    split at h
    · rename_i mode hex
      cases h
      exact .ensured mode _ hex (ensureHttpWorkerStarted_eq _ mode)
    · cases h
  | detections payload outcome =>
    simp only [step] at h
    split at h
    · rename_i hidle
      cases h
      obtain ⟨hsnap, hst, hbody⟩ := onDetections_members s.node.state s.files payload outcome
      exact .detected _ _ _ hidle hsnap hst hbody
    · cases h
  | enqueue =>
    simp only [step] at h
    split at h
    · rename_i text hex
      cases h
      exact .enqueued text hex
    · cases h
  | wake =>
    cases worker_next rfl h with
    | cleared hw hstop => exact .cleared hw hstop
    | popped body queue hw hstop hq => exact .popped body queue hw hstop hq
  | copySnapshot =>
    cases worker_next rfl h with
    | skipped body hw _ => exact .finished body (congrArg Worker.hand hw)
    | copied body hw _ => exact .kept body _ (congrArg Worker.hand hw) rfl
  | attempt result =>
    cases worker_next rfl h with
    | retried _ snap body i hw _ => exact .kept body _ (congrArg Worker.hand hw) rfl
    | finished _ snap body i hw _ => exact .finished body (congrArg Worker.hand hw)
  | shutdown =>
    cases h
    exact .stopped

/-! ## the conveyor -/

theorem enqueueHttp_step (s : Sys) (body : Body) :
    Conveyor.Step kMaxQueueSize s.belt { s.belt with
      enqueued := s.enqueued ++ [body]
      queue := (enqueueHttp s.queue body).1
      dropped := s.dropped ++ (enqueueHttp s.queue body).2.toList } := by
  unfold enqueueHttp
  by_cases hfull : s.queue.length ≥ kMaxQueueSize
  · rw [if_pos hfull]
    cases hq : s.queue with
    | nil =>
      rw [hq] at hfull
      exact absurd hfull (by decide)
    | cons x q => exact Conveyor.Step.displace body x q hfull hq
  · rw [if_neg hfull]
    have h : Conveyor.Step kMaxQueueSize s.belt _ :=
      Conveyor.Step.push body (Nat.lt_of_not_le hfull)
    simpa [belt] using h

/-- Every step of the system is a step of the conveyor, or leaves it alone. -/
theorem step_conveyor {s s' : Sys} {e : Event} (h : s.step e = some s')
    (hw : s.node.state.workerStarted = false → s.worker = .notStarted) :
    Conveyor.Step kMaxQueueSize s.belt s'.belt := by
  have hsame : Conveyor.Step kMaxQueueSize s.belt s.belt := Conveyor.Step.stutter
  cases step_next h with
  | accepted next _ => exact hsame
  | refused => exact hsame
  | ensured mode started hex _ =>
    by_cases hnew : (started && !s.node.state.workerStarted) = true
    · -- the worker is started here, so nothing is in its hands
      have hst : s.node.state.workerStarted = false := by
        rw [Bool.and_eq_true, Bool.not_eq_true'] at hnew
        exact hnew.2
      simpa [belt, hnew, hw hst, Worker.hand] using hsame
    · simpa [belt, hnew] using hsame
  | detected members files body _ _ _ _ => exact hsame
  | enqueued text _ => exact enqueueHttp_step s (s.enqueued.length, text)
  | cleared hwait _ =>
    have hc : Conveyor.Step kMaxQueueSize s.belt _ := Conveyor.Step.clear
    simpa [belt, hwait, Worker.hand] using hc
  | popped body queue hwait _ hq =>
    have hand : s.belt.hand = none := by show s.worker.hand = none; rw [hwait]; rfl
    exact Conveyor.Step.pop body queue hand hq
  | kept body worker hand hand' =>
    have hbelt : ({ s with worker := worker } : Sys).belt = s.belt := by
      show Conveyor.Belt.mk _ _ worker.hand _ _ _ = _
      rw [hand', ← hand]
      rfl
    rw [hbelt]
    exact hsame
  | finished body hand => exact Conveyor.Step.finish body hand
  | stopped => exact hsame

/-! ## the worker is there when it is needed -/

structure Ready (s : Sys) : Prop where
  fresh : s.node.state.workerStarted = false → s.worker = .notStarted
  idle : s.executor = .idle → WorkerReady s.node.state
  enqueueing : ∀ body, s.executor = .enqueueing body → s.node.state.workerStarted = true
  starting : ∀ mode, s.executor = .starting mode → mode = s.node.state.snapshot.sendMode
  queued : s.queue ≠ [] → s.node.state.workerStarted = true
  numbered : s.enqueued.map Prod.fst = List.range s.enqueued.length

theorem Ready.started {s : Sys} (hr : Ready s) (hw : s.worker ≠ .notStarted) :
    s.node.state.workerStarted = true := by
  cases hst : s.node.state.workerStarted with
  | true => rfl
  | false => exact absurd (hr.fresh hst) hw

theorem Ready.started_of_hand {s : Sys} (hr : Ready s) {body : Body}
    (hand : s.worker.hand = some body) : s.node.state.workerStarted = true := by
  refine hr.started fun e => ?_
  rw [e] at hand
  cases hand

/-- whatever a started worker does, it adds nothing to the queue -/
theorem Ready.work {s : Sys} (hr : Ready s) (hst : s.node.state.workerStarted = true)
    (worker : Worker) (finished cleared : List Body) {queue : List Body}
    (hq : queue ≠ [] → s.queue ≠ []) :
    Ready { s with
      worker := worker, queue := queue, finished := finished, cleared := cleared } where
  fresh hf := absurd (hst.symm.trans hf) Bool.noConfusion
  idle := hr.idle
  enqueueing := hr.enqueueing
  starting := hr.starting
  queued h := hr.queued (hq h)
  numbered := hr.numbered

theorem step_ready {s s' : Sys} {e : Event} (hr : Ready s) (h : s.step e = some s') : Ready s' := by
  cases step_next h with
  | accepted next _ =>
    refine ⟨hr.fresh, nofun, nofun, fun m hm => ?_, hr.queued, hr.numbered⟩
    cases hm
    rfl
  | refused => exact hr
  | ensured mode started hex hstarted =>
    have hmode := hr.starting mode hex
    refine ⟨fun hf => ?_, fun _ hm => ?_, nofun, nofun, fun hq => ?_, hr.numbered⟩
    · have hf' : started = false := hf
      have hold : s.node.state.workerStarted = false := by
        rw [hstarted, Bool.or_eq_false_iff] at hf'
        exact hf'.1
      show (if started && _ then Worker.waiting else s.worker) = .notStarted
      rw [hf', Bool.false_and]
      exact hr.fresh hold
    · show started = true
      have hm' : sendModeUsesHttp mode = true := by rw [hmode]; exact hm
      rw [hstarted, hm', Bool.or_true]
    · show started = true
      rw [hstarted, hr.queued hq, Bool.true_or]
  | detected members files body hidle hsnap hst hbody =>
    have hready := hr.idle hidle
    refine ⟨fun hf => hr.fresh (hst ▸ hf), fun _ hm => ?_, fun b hb => ?_, fun m hm => ?_,
      fun hq => hst.trans (hr.queued hq), hr.numbered⟩
    · have hm' : sendModeUsesHttp members.snapshot.sendMode = true := hm
      rw [hsnap] at hm'
      exact hst.trans (hready hm')
    · refine hst.trans (hready (hbody fun hn => ?_))
      subst hn
      cases hb
    · cases body with
      | none => cases hm
      | some text => cases hm
  | enqueued text hex =>
    have hst := hr.enqueueing text hex
    refine ⟨hr.fresh, fun _ _ => hst, nofun, nofun, fun _ => hst, ?_⟩
    simp [hr.numbered, List.range_succ]
  | cleared hwait _ =>
    exact hr.work (hr.started (by rw [hwait]; exact nofun)) _ _ _ fun hq => absurd rfl hq
  | popped body queue hwait _ hq =>
    refine hr.work (hr.started (by rw [hwait]; exact nofun)) _ _ s.cleared fun _ => ?_
    rw [hq]
    exact List.cons_ne_nil _ _
  | kept body worker hand _ => exact hr.work (hr.started_of_hand hand) _ s.finished _ id
  | finished body hand => exact hr.work (hr.started_of_hand hand) _ _ _ id
  | stopped => exact ⟨hr.fresh, hr.idle, hr.enqueueing, hr.starting, hr.queued, hr.numbered⟩

/-! ## runs -/

/-- what the worker has popped so far -/
def taken (s : Sys) : List Body := s.finished ++ s.worker.hand.toList

/-- nothing is popped once the flag is set, and it stays set -/
theorem step_stopped {s s' : Sys} {e : Event} (hr : Ready s) (h : s.step e = some s')
    (hstop : s.stopFlag = true) : s'.stopFlag = true ∧ s'.taken = s.taken := by
  cases step_next h with
  | accepted next _ => exact ⟨hstop, rfl⟩
  | refused => exact ⟨hstop, rfl⟩
  | ensured mode started hex _ =>
    refine ⟨hstop, ?_⟩
    show s.finished ++ (if _ then Worker.waiting else s.worker).hand.toList = s.taken
    split
    · rename_i hnew
      rw [Bool.and_eq_true, Bool.not_eq_true'] at hnew
      rw [taken, hr.fresh hnew.2]
      rfl
    · rfl
  | detected members files body _ _ _ _ => exact ⟨hstop, rfl⟩
  | enqueued text _ => exact ⟨hstop, rfl⟩
  | cleared hwait _ => exact ⟨hstop, by simp [taken, hwait, Worker.hand]⟩
  | popped body queue _ hrun _ => exact absurd (hstop.symm.trans hrun) Bool.noConfusion
  | kept body worker hand hand' => exact ⟨hstop, by simp [taken, hand, hand']⟩
  | finished body hand =>
    refine ⟨hstop, ?_⟩
    show s.finished ++ [body] ++ [] = s.taken
    rw [List.append_nil, taken, hand]
    rfl
  | stopped => exact ⟨rfl, rfl⟩

/-- what holds in every reachable state -/
structure Inv (s : Sys) : Prop where
  ready : Ready s
  belt : Conveyor.Inv kMaxQueueSize s.belt

theorem step_inv {s s' : Sys} {e : Event} (hi : Inv s) (h : s.step e = some s') : Inv s' :=
  ⟨step_ready hi.ready h, hi.belt.step (step_conveyor h hi.ready.fresh)⟩

theorem run_inv (events : List Event) {s s' : Sys} (hi : Inv s) (h : s.run events = some s') :
    Inv s' :=
  Steps.run_inv (fun s t e => step_inv) hi h

theorem run_stopped (events : List Event) : ∀ {s s' : Sys}, Inv s → s.run events = some s' →
    s.stopFlag = true → s'.taken = s.taken := by
  induction events with
  | nil => intro s s' hi h hstop; cases h; rfl
  | cons e events ih =>
    intro s s' hi h hstop
    obtain ⟨t, ht, hrest⟩ := Option.bind_eq_some_iff.mp h
    obtain ⟨hstop', htaken⟩ := step_stopped hi.ready ht hstop
    rw [ih (step_inv hi ht) hrest hstop', htaken]

theorem initial_inv {n : Node} (h : DetectionSenderNode.Inv n) (files : Files) :
    Inv (initial n files) := by
  refine ⟨⟨fun hf => ?_, fun _ => h.worker, nofun, nofun, fun hq => absurd rfl hq, rfl⟩, ?_⟩
  · have hf' : n.state.workerStarted = false := hf
    show (if n.state.workerStarted then _ else _) = _
    rw [hf']
    rfl
  · have hand : (initial n files).worker.hand = none := by
      show (if n.state.workerStarted then Worker.waiting else Worker.notStarted).hand = none
      cases n.state.workerStarted <;> rfl
    have hb : (initial n files).belt = {} := by
      rw [belt, hand]
      rfl
    rw [hb]
    exact Conveyor.Inv.init _

/-- what the send queue promises in one state -/
structure Sound (s : Sys) : Prop where
  bounded : s.queue.length ≤ 32
  /-- every enqueued body is in one place, and only once -/
  accounted : (s.finished ++ s.worker.hand.toList ++ s.queue ++ s.dropped ++ s.cleared).Perm s.enqueued
  once : (s.finished ++ s.worker.hand.toList ++ s.queue ++ s.dropped ++ s.cleared).Nodup
  ordered : (s.finished ++ s.worker.hand.toList ++ s.queue).Sublist s.enqueued
  started : s.queue ≠ [] → s.node.state.workerStarted = true
  overflow : ∀ e s', s.step e = some s' → s'.dropped = s.dropped ∨
    ∃ x q, s.queue = x :: q ∧ s.queue.length = 32 ∧ s'.dropped = s.dropped ++ [x]
  stopped : s.stopFlag = true → ∀ events s', s.run events = some s' → s'.taken = s.taken

/-- **The send queue.**  After every interleaving of callbacks, worker steps and shutdown: at most 32
bodies wait; every enqueued body is in exactly one place; what is finished, in hand and queued is in
the order of enqueueing; a body is dropped only when 32 wait, and it is the oldest of them; bodies
wait only for a started worker; none is popped after the stop flag has been set. -/
theorem queue_sound (others overrides : ParameterStore) (opened : Bool) (n : Node) (files : Files)
    (events : List Event) (s : Sys) (h : start others overrides opened = .ok (.ok n))
    (hrun : (initial n files).run events = some s) : Sound s := by
  have hi := run_inv events (initial_inv (start_inv h) files) hrun
  have hnodup : s.enqueued.Nodup := by
    apply List.Nodup.of_map Prod.fst
    rw [hi.ready.numbered]
    exact List.nodup_range
  refine ⟨hi.belt.bounded, hi.belt.accounted, hi.belt.nodup hnodup, hi.belt.ordered,
    hi.ready.queued, fun e s' hs => ?_, fun hstop more s' hmore => run_stopped more hi hmore hstop⟩
  rcases (step_conveyor hs hi.ready.fresh).dropped with hd | ⟨x, q, hq, hge, hd⟩
  · exact Or.inl hd
  · exact Or.inr ⟨x, q, hq, le_antisymm hi.belt.bounded hge, hd⟩

/-- the mode is switched to `both`, a body is enqueued and popped, and the destructor runs -/
theorem queue_sound_shutdown : ∃ s, (initial defaultNode fun _ => []).run [
      .parameters [("send_mode", .string (lit "both"))] true, .ensureStarted,
      .detections ⟨0, 0, lit "map", []⟩ .ok, .enqueue, .wake, .shutdown, .copySnapshot] = some s ∧
    Sound s := by
  have hsome : ((initial defaultNode fun _ => []).run [
      .parameters [("send_mode", .string (lit "both"))] true, .ensureStarted,
      .detections ⟨0, 0, lit "map", []⟩ .ok, .enqueue, .wake, .shutdown, .copySnapshot]).isSome
        = true := by decide +kernel
  obtain ⟨s, hs⟩ := Option.isSome_iff_exists.mp hsome
  exact ⟨s, hs, queue_sound (fun _ => none) (fun _ => none) true defaultNode (fun _ => []) _ s
    start_default hs⟩

end Sys

end VD.DetectionSenderNode
