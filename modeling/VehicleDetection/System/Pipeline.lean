import VehicleDetection.Base.Channel
import VehicleDetection.Detection.Document
import VehicleDetection.Detection.Message
import VehicleDetection.Detector.Frame
import VehicleDetection.Detector.Run
import VehicleDetection.Player.Node
import VehicleDetection.Sender.Queue

/-!
# From the point cloud to the body

The three nodes of the pipeline with two topics between them. A message may be lost on the way, as a
queue that keeps the last ones does; those that arrive come in order. The nodes take their steps in any
order, with batches of parameters for each of them in between.

* `Pipeline`     the nodes and what is on the way;
* `Event`, `step`  a step of one of them, or a loss;
* `framesOf`     the frames that a run ends, each with its cloud, its snapshot and what it has found outside;
* `Inv`          what holds of every state and the frames before it;
* `posted`       the frames have clouds that the loader has published, and what is posted and what is relayed
  are their detection messages, each of a frame of its own and in their order.
-/

set_option linter.unusedVariables false

namespace VD.Pipeline
open BStr Relay VehicleDetectorNode DetectionSenderNode

/-- the names of the topics; the nodes have read them when they were started -/
structure Topics where
  /-- where the detector expects clouds -/
  points : Bytes
  /-- where it publishes detections -/
  rawPublished : Bytes
  /-- where the sender expects them -/
  rawExpected : Bytes

structure State (D : Type) where
  loader : PcdLoaderNode.Node D
  detector : VehicleDetectorNode.Node
  /-- the frame that is processed, with the copy of the snapshot -/
  frame : Option (VehicleDetectorNode.Snapshot × CloudMessage D) := none
  sender : Sys
  points : Channel (CloudMessage D) := {}
  raw : Channel (Detection3DArray Float) := {}
  /-- what the sender has published -/
  relayed : List (Detection3DArray Float) := []

/-- `detections` of the sender is `receive` here -/
inductive Event (D T : Type) where
  | loader (e : PcdLoaderNode.Event D)
  | losePoints (i : Nat)
  | frameBegins
  | frameEnds (out : Outside D T) (documented : out.pcl.Documented)
  | detectorBatch (params : List Parameter)
  | loseRaw (i : Nat)
  | receive (outcome : WriteOutcome)
  | sender (e : DetectionSenderNode.Event)

/-- the stamp in seconds and nanoseconds -/
def cloudMessage {D : Type} (msg : PointCloud2 D) : CloudMessage D where
  header := ⟨Int32.ofInt (msg.stamp / 1000000000), UInt32.ofNat (msg.stamp % 1000000000).toNat, msg.frameId⟩
  data := msg.cloud

section
variable {D T : Type} (topics : Topics)

/-- a message of the loader reaches the detector when it is on its topic -/
def publishPoints (points : Channel (CloudMessage D)) : Option (PcdLoaderNode.Published D) → Channel (CloudMessage D)
  | some (topic, msg) => if topic = topics.points then points.send (cloudMessage msg) else points
  | none => points

def publishRaw (raw : Channel (Detection3DArray Float)) : Option (Publications D) → Channel (Detection3DArray Float)
  | some p => if topics.rawPublished = topics.rawExpected then raw.send p.detections else raw
  | none => raw

/-- `none`: the event cannot happen now -/
def step (p : State D) : Event D T → Option (State D)
  | .loader e =>
    let (loader, published) := PcdLoaderNode.step p.loader e
    some { p with loader := loader, points := publishPoints topics p.points published }
  | .losePoints i => some { p with points := p.points.lose i }
  | .frameBegins =>
    match p.frame with
    | some _ => none
    | none => p.points.receive.map fun (msg, points) =>
      { p with frame := some (p.detector.state, msg), points := points }
  | .frameEnds out _ =>
    match p.frame with
    | none => none
    | some (snap, msg) =>
      some { p with frame := none, raw := publishRaw topics p.raw (onCloud out snap msg) }
  | .detectorBatch params => some { p with detector := VehicleDetectorNode.step p.detector params }
  | .loseRaw i => some { p with raw := p.raw.lose i }
  | .receive outcome =>
    p.raw.receive.bind fun (msg, raw) =>
      let payload := toJsonPayload msg
      (p.sender.step (.detections payload outcome)).map fun sender =>
        { p with
          sender := sender
          raw := raw
          relayed := if (onDetections p.sender.node.state p.sender.files payload outcome).1
            then p.relayed ++ [msg] else p.relayed }
  | .sender (.detections _ _) => none
  | .sender e => (p.sender.step e).map fun sender => { p with sender := sender }

end

/-! ## the frames of a run -/

/-- A frame: what it finds outside, the snapshot that it has copied, and the cloud. -/
structure Frame (D T : Type) where
  out : Outside D T
  documented : out.pcl.Documented
  snapshot : VehicleDetectorNode.Snapshot
  msg : CloudMessage D

section
variable {D T : Type}

/-- the detection message, if the frame is not skipped -/
def Frame.detections? (f : Frame D T) : Option (Detection3DArray Float) :=
  (onCloud f.out f.snapshot f.msg).map Publications.detections

/-- the frame that a step ends -/
def ended (p : State D) : Event D T → List (Frame D T)
  | .frameEnds out documented => (p.frame.map fun (snap, msg) => ⟨out, documented, snap, msg⟩).toList
  | _ => []

/-- the frames that a run ends -/
def framesOf (topics : Topics) (p : State D) (events : List (Event D T)) : List (Frame D T) :=
  Steps.outputs (step topics) ended p events

def Event.batch? : Event D T → Option (List Parameter)
  | .detectorBatch params => some params
  | _ => none

/-- the batches for the detector -/
def batchesOf (events : List (Event D T)) : List (List Parameter) := events.filterMap Event.batch?

/-- the snapshot of the detector before or after one of these batches -/
def Copied (detector : VehicleDetectorNode.Node) (batches : List (List Parameter))
    (snap : VehicleDetectorNode.Snapshot) : Prop :=
  ∃ before, before <+: batches ∧ snap = (VehicleDetectorNode.run detector before).state

theorem Copied.later {detector : VehicleDetectorNode.Node} {batches : List (List Parameter)}
    {snap : VehicleDetectorNode.Snapshot} (h : Copied detector batches snap) (more : List (List Parameter)) :
    Copied detector (batches ++ more) snap := by
  obtain ⟨before, hpre, hsnap⟩ := h
  exact ⟨before, hpre.trans (List.prefix_append _ _), hsnap⟩

/-- What a frame is, of a detector that gets these batches: it goes by one snapshot of the detector, which passes
the checks of a start, and what it publishes belongs together. -/
structure Frame.Sound (detector : VehicleDetectorNode.Node) (batches : List (List Parameter)) (f : Frame D T) :
    Prop where
  copied : Copied detector batches f.snapshot
  checked : ∃ params, VehicleDetectorNode.buildSnapshotFromParameters params = .ok f.snapshot ∧
    VehicleDetectorNode.enforceInitialParameters f.snapshot = .ok ()
  framed : ∀ p, onCloud f.out f.snapshot f.msg = some p → ∃ m, transformed f.out f.snapshot f.msg = some m ∧
    ∃ clusters boxes, Framed f.out f.snapshot (inTargetFrame f.snapshot m).header
      (forClustering f.out f.snapshot (inTargetFrame f.snapshot m)) clusters boxes p

theorem Copied.sound {detector : VehicleDetectorNode.Node} (hd : VehicleDetectorNode.Inv detector)
    {batches : List (List Parameter)} {f : Frame D T} (h : Copied detector batches f.snapshot) :
    f.Sound detector batches := by
  refine ⟨h, ?_, fun p hp => onCloud_framed f.out f.snapshot f.documented f.msg p hp⟩
  obtain ⟨before, -, hsnap⟩ := h
  have hinv := VehicleDetectorNode.run_inv before hd
  rw [hsnap]
  exact ⟨_, VehicleDetectorNode.buildSnapshot_iff.mpr hinv.mirror.upToDate, hinv.mirror.checked⟩

end

/-! ## the bodies of the sender -/

/-- what has been enqueued, and what is about to be -/
def bodies (s : Sys) : List Bytes :=
  s.enqueued.map Prod.snd ++ match s.executor with
    | .enqueueing body => [body]
    | _ => []

theorem bodies_idle {s : Sys} (h : s.executor = .idle) : bodies s = s.enqueued.map Prod.snd := by
  rw [bodies, h]
  exact List.append_nil _

theorem onDetections_body (self : Members) (files : Files) (payload : DetectionJsonPayload)
    (outcome : WriteOutcome) : (onDetections self files payload outcome).2.1 = none ∨
      (onDetections self files payload outcome).2.1 = some (serializeDetections payload) := by
  unfold onDetections
  dsimp only
  split
  · exact .inl rfl
  · split
    · exact .inr rfl
    · exact .inl rfl

/-- A message becomes one body or none. -/
theorem bodies_detections {s s' : Sys} {payload : DetectionJsonPayload} {outcome : WriteOutcome}
    (h : s.step (.detections payload outcome) = some s') :
    bodies s' = bodies s ∨ bodies s' = bodies s ++ [serializeDetections payload] := by
  simp only [Sys.step] at h
  split at h
  · rename_i hidle
    cases h
    rw [bodies_idle hidle, bodies]
    rcases onDetections_body s.node.state s.files payload outcome with hb | hb
    · rw [hb]
      exact .inl (List.append_nil _)
    · rw [hb]
      exact .inr rfl
  · cases h

/-- Nothing else makes a body. -/
theorem bodies_others {s s' : Sys} {e : DetectionSenderNode.Event}
    (he : ∀ payload outcome, e ≠ .detections payload outcome) (h : s.step e = some s') :
    bodies s' = bodies s := by
  cases e with
  | parameters batch opened =>
    simp only [Sys.step] at h
    split at h
    · rename_i hidle
      split at h
      · cases h
        rw [bodies_idle hidle]
        exact List.append_nil _
      · cases h
        rfl
    · cases h
  | ensureStarted =>
    simp only [Sys.step] at h
    split at h
    · rename_i mode hstarting
      cases h
      simp only [bodies, hstarting]
    · cases h
  | detections payload outcome => exact absurd rfl (he payload outcome)
  | enqueue =>
    simp only [Sys.step] at h
    split at h
    · rename_i text hex
      cases h
      simp only [bodies, hex, List.map_append, List.map_cons, List.map_nil, List.append_nil]
    · cases h
  | wake =>
    cases Sys.worker_next rfl h with
    | cleared _ _ => rfl
    | popped _ _ _ _ _ => rfl
  | copySnapshot =>
    cases Sys.worker_next rfl h with
    | skipped _ _ _ => rfl
    | copied _ _ _ => rfl
  | attempt result =>
    cases Sys.worker_next rfl h with
    | retried _ _ _ _ _ _ => rfl
    | finished _ _ _ _ _ _ => rfl
  | shutdown =>
    cases h
    rfl

/-! ## what holds in every state -/

def BodyOf (text : Bytes) (array : Detection3DArray Float) : Prop := text = serializeDetections (toJsonPayload array)

/-- `batches` and `frames` are those of the run so far. -/
structure Inv {D T : Type} (detector : VehicleDetectorNode.Node) (batches : List (List Parameter))
    (frames : List (Frame D T)) (p : State D) : Prop where
  points : p.points.Kept
  received : p.points.received = frames.map Frame.msg ++ (p.frame.map Prod.snd).toList
  node : p.detector = VehicleDetectorNode.run detector batches
  begun : ∀ snap msg, p.frame = some (snap, msg) → Copied detector batches snap
  ended : ∀ f ∈ frames, Copied detector batches f.snapshot
  raw : p.raw.Kept
  sent : p.raw.sent.Sublist (frames.filterMap Frame.detections?)
  relayed : p.relayed.Sublist p.raw.received
  sender : p.sender.Inv
  bodies : List.SublistForall₂ BodyOf (bodies p.sender) p.raw.received

section
variable {D T : Type} {topics : Topics} {p p' : State D} {detector : VehicleDetectorNode.Node}
  {batches : List (List Parameter)} {frames : List (Frame D T)}

theorem Inv.loader (h : Inv detector batches frames p) (loader : PcdLoaderNode.Node D)
    (published : Option (PcdLoaderNode.Published D)) :
    Inv detector batches frames { p with loader := loader, points := publishPoints topics p.points published } := by
  have hpoints : (publishPoints topics p.points published).Kept ∧
      (publishPoints topics p.points published).received = p.points.received := by
    unfold publishPoints
    split
    · split
      · exact ⟨h.points.send _, rfl⟩
      · exact ⟨h.points, rfl⟩
    · exact ⟨h.points, rfl⟩
  exact { h with points := hpoints.1, received := hpoints.2.trans h.received }

theorem Inv.batch (h : Inv detector batches frames p) (params : List Parameter) :
    Inv detector (batches ++ [params]) frames { p with detector := VehicleDetectorNode.step p.detector params } := by
  refine { h with
    node := ?_
    begun := fun snap msg hf => (h.begun snap msg hf).later _
    ended := fun f hf => (h.ended f hf).later _ }
  show VehicleDetectorNode.step p.detector params = VehicleDetectorNode.run detector (batches ++ [params])
  rw [h.node, VehicleDetectorNode.run, VehicleDetectorNode.run, List.foldl_concat]

theorem Inv.frameBegins (h : Inv detector batches frames p) (hidle : p.frame = none) {msg : CloudMessage D}
    {points : Channel (CloudMessage D)} (hr : p.points.receive = some (msg, points)) :
    Inv detector batches frames { p with frame := some (p.detector.state, msg), points := points } := by
  obtain ⟨-, hreceived, -⟩ := Channel.receive_some hr
  have hbefore := h.received
  rw [hidle, Option.map_none, Option.toList_none, List.append_nil] at hbefore
  refine { h with points := h.points.receive hr, received := ?_, begun := fun snap m hf => ?_ }
  · show points.received = frames.map Frame.msg ++ [msg]
    rw [hreceived, hbefore]
  · cases hf
    exact ⟨batches, List.prefix_rfl, by rw [h.node]⟩

theorem Inv.frameEnds (h : Inv detector batches frames p) (f : Frame D T) (hf : p.frame = some (f.snapshot, f.msg)) :
    Inv detector batches (frames ++ [f])
      { p with frame := none, raw := publishRaw topics p.raw (onCloud f.out f.snapshot f.msg) } := by
  have hlast : (frames ++ [f]).filterMap Frame.detections? =
      frames.filterMap Frame.detections? ++ f.detections?.toList := by
    rw [List.filterMap_append]
    rfl
  have hraw : (publishRaw topics p.raw (onCloud f.out f.snapshot f.msg)).Kept ∧
      (publishRaw topics p.raw (onCloud f.out f.snapshot f.msg)).received = p.raw.received ∧
      (publishRaw topics p.raw (onCloud f.out f.snapshot f.msg)).sent.Sublist
        (frames.filterMap Frame.detections? ++ f.detections?.toList) := by
    unfold Frame.detections? publishRaw
    cases onCloud f.out f.snapshot f.msg with
    | none => exact ⟨h.raw, rfl, h.sent.trans (List.sublist_append_left _ _)⟩
    | some pubs =>
      dsimp only
      split
      · exact ⟨h.raw.send _, rfl, h.sent.append (List.Sublist.refl [pubs.detections])⟩
      · exact ⟨h.raw, rfl, h.sent.trans (List.sublist_append_left _ _)⟩
  obtain ⟨hkept, hsame, hsent⟩ := hraw
  refine { h with
    received := ?_
    begun := fun _ _ hn => by cases hn
    ended := fun g hg => ?_
    raw := hkept
    sent := hlast ▸ hsent
    relayed := ?_
    bodies := ?_ }
  · show p.points.received = (frames ++ [f]).map Frame.msg ++ []
    rw [h.received, hf, List.map_append, List.append_nil]
    rfl
  · rcases List.mem_append.mp hg with hg | hg
    · exact h.ended g hg
    · rw [List.mem_singleton.mp hg]
      exact h.begun f.snapshot f.msg hf
  · rw [hsame]
    exact h.relayed
  · rw [hsame]
    exact h.bodies

theorem Inv.receive (h : Inv detector batches frames p) {msg : Detection3DArray Float}
    {raw : Channel (Detection3DArray Float)} (hr : p.raw.receive = some (msg, raw)) {outcome : WriteOutcome}
    {sender : Sys} (hs : p.sender.step (.detections (toJsonPayload msg) outcome) = some sender) (relay : Bool) :
    Inv detector batches frames { p with
      sender := sender, raw := raw, relayed := if relay then p.relayed ++ [msg] else p.relayed } := by
  obtain ⟨hsent, hreceived, -⟩ := Channel.receive_some hr
  refine { h with
    raw := h.raw.receive hr
    sent := hsent ▸ h.sent
    relayed := ?_
    sender := Sys.step_inv h.sender hs
    bodies := ?_ }
  · show (if relay then p.relayed ++ [msg] else p.relayed).Sublist raw.received
    rw [hreceived]
    split
    · exact h.relayed.append (List.Sublist.refl [msg])
    · exact h.relayed.trans (List.sublist_append_left _ _)
  · show List.SublistForall₂ BodyOf (Pipeline.bodies sender) raw.received
    rw [hreceived]
    rcases bodies_detections hs with hb | hb
    · rw [hb]
      exact made_skip h.bodies msg
    · rw [hb]
      exact made_concat h.bodies rfl

theorem Inv.step (h : Inv detector batches frames p) {e : Event D T} (hs : step topics p e = some p') :
    Inv detector (batches ++ e.batch?.toList) (frames ++ Pipeline.ended p e) p' := by
  have hquiet : ∀ {p' : State D}, Inv detector batches frames p' →
      Inv detector (batches ++ []) (frames ++ []) p' := by
    intro p' h'
    rw [List.append_nil, List.append_nil]
    exact h'
  unfold Pipeline.step at hs
  split at hs
  · cases hs
    exact hquiet (h.loader _ _)
  · cases hs
    exact hquiet { h with points := h.points.lose _ }
  · split at hs
    · cases hs
    · rename_i hidle
      obtain ⟨⟨msg, points⟩, hr, rfl⟩ := Option.map_eq_some_iff.mp hs
      exact hquiet (h.frameBegins hidle hr)
  · rename_i out hp
    split at hs
    · cases hs
    · rename_i snap msg hf
      cases hs
      rw [Pipeline.ended, hf]
      show Inv detector (batches ++ []) _ _
      rw [List.append_nil]
      exact h.frameEnds ⟨out, hp, snap, msg⟩ hf
  · cases hs
    show Inv detector (batches ++ [_]) (frames ++ []) _
    rw [List.append_nil]
    exact h.batch _
  · cases hs
    exact hquiet { h with raw := h.raw.lose _ }
  · obtain ⟨⟨msg, raw⟩, hr, hs⟩ := Option.bind_eq_some_iff.mp hs
    obtain ⟨sender, hsend, rfl⟩ := Option.map_eq_some_iff.mp hs
    exact hquiet (h.receive hr hsend _)
  · cases hs
  · rename_i e he
    obtain ⟨sender, hsend, rfl⟩ := Option.map_eq_some_iff.mp hs
    have hb : Pipeline.bodies sender = Pipeline.bodies p.sender :=
      bodies_others (fun payload outcome hd => he payload outcome hd) hsend
    refine hquiet { h with sender := Sys.step_inv h.sender hsend, bodies := ?_ }
    show List.SublistForall₂ BodyOf (Pipeline.bodies sender) p.raw.received
    rw [hb]
    exact h.bodies

end

/-! ## what the loader publishes -/

/-- the steps of the loader -/
def Event.loader? {D T : Type} : Event D T → Option (PcdLoaderNode.Event D)
  | .loader e => some e
  | _ => none

def loaderEvents {D T : Type} (events : List (Event D T)) : List (PcdLoaderNode.Event D) :=
  events.filterMap Event.loader?

section
variable {D T : Type} {topics : Topics}

/-- the clouds on the topic of the detector -/
def clouds (topics : Topics) (published : List (PcdLoaderNode.Published D)) : List (CloudMessage D) :=
  (published.filter fun m => m.1 = topics.points).map fun m => cloudMessage m.2

theorem publishPoints_sent (points : Channel (CloudMessage D)) (published : Option (PcdLoaderNode.Published D)) :
    (publishPoints topics points published).sent = points.sent ++ clouds topics published.toList := by
  cases published with
  | none => exact (List.append_nil _).symm
  | some m =>
    obtain ⟨topic, msg⟩ := m
    by_cases ht : topic = topics.points
    · simp [publishPoints, clouds, ht, Channel.send]
    · simp [publishPoints, clouds, ht]

theorem step_sent {p p' : State D} {e : Event D T} (h : step topics p e = some p') :
    match e.loader? with
    | some e => p'.loader = (PcdLoaderNode.step p.loader e).1 ∧
        p'.points.sent = p.points.sent ++ clouds topics (PcdLoaderNode.step p.loader e).2.toList
    | none => p'.loader = p.loader ∧ p'.points.sent = p.points.sent := by
  unfold step at h
  split at h
  · cases h
    exact ⟨rfl, publishPoints_sent _ _⟩
  · cases h
    exact ⟨rfl, rfl⟩
  · split at h
    · cases h
    · obtain ⟨⟨msg, points⟩, hr, rfl⟩ := Option.map_eq_some_iff.mp h
      exact ⟨rfl, (Channel.receive_some hr).1⟩
  · split at h
    · cases h
    · cases h
      exact ⟨rfl, rfl⟩
  · cases h
    exact ⟨rfl, rfl⟩
  · cases h
    exact ⟨rfl, rfl⟩
  · obtain ⟨⟨msg, raw⟩, -, h⟩ := Option.bind_eq_some_iff.mp h
    obtain ⟨sender, -, rfl⟩ := Option.map_eq_some_iff.mp h
    exact ⟨rfl, rfl⟩
  · cases h
  · obtain ⟨sender, -, rfl⟩ := Option.map_eq_some_iff.mp h
    exact ⟨rfl, rfl⟩

theorem run_sent (events : List (Event D T)) : ∀ {p p' : State D}, Steps.run (step topics) p events = some p' →
    p'.points.sent = p.points.sent ++ clouds topics (PcdLoaderNode.messages p.loader (loaderEvents events)) := by
  induction events with
  | nil =>
    intro p p' h
    cases h
    exact (List.append_nil _).symm
  | cons e events ih =>
    intro p p' h
    obtain ⟨q, hq, hrest⟩ := Steps.run_cons.mp h
    have hstep := step_sent hq
    rw [ih hrest, loaderEvents, loaderEvents]
    cases hl : e.loader? with
    | none =>
      rw [hl] at hstep
      rw [List.filterMap_cons_none hl, hstep.1, hstep.2]
    | some le =>
      rw [hl] at hstep
      rw [List.filterMap_cons_some hl, hstep.1, hstep.2, List.append_assoc, clouds, clouds, clouds,
        ← List.map_append, ← List.filter_append]
      congr 3
      show _ = List.filterMap id ((PcdLoaderNode.step p.loader le).2 :: _)
      cases (PcdLoaderNode.step p.loader le).2 with
      | none => rfl
      | some m => rfl

end

/-- A message of the loader: on its topic and in its frame, with a cloud that has been loaded from an entry of
the playlist. -/
structure Loaded {C : Type} (s : PcdLoaderNode.Settings) (entries : List Bytes) (envs : List (Env C))
    (m : PcdLoaderNode.Published C) : Prop where
  topic : m.1 = s.inputPointsTopic
  frame : m.2.frameId = s.inputFrameId
  loaded : ∃ raw ∈ entries, ∃ env ∈ envs, PcdLoaderNode.loadEntry env raw = .ok m.2.cloud

theorem messages_loaded {C : Type} {fs : FileSystem} {first : Env C} {others overrides : ParameterStore}
    {n : PcdLoaderNode.Node C} (h : PcdLoaderNode.construct fs first others overrides = .ok (.ok n))
    (events : List (PcdLoaderNode.Event C)) :
    ∃ s entries, PcdLoaderNode.readSettings n.params = .ok s ∧
      PcdLoaderNode.enforceParameters fs s = .ok entries ∧
      ∀ m ∈ PcdLoaderNode.messages n events, Loaded s entries (first :: PcdLoaderNode.timers events) m := by
  obtain ⟨-, s, entries, loader, hs, hp, hl, hn⟩ := PcdLoaderNode.construct_ok h
  refine ⟨s, entries, hs, hp, fun m hm => ?_⟩
  rw [PcdLoaderNode.messages_eq] at hm
  cases ho : s.publishOnce with
  | true =>
    obtain ⟨raw, cloud, hraw, hload, hpl, hi, hc, -⟩ := PcdLoaderNode.start_loaded hl
    have hne : loader.playlist ≠ [] := by
      intro hnil
      rw [← hpl, hnil] at hraw
      cases hraw
    rw [PcdLoaderNode.fired, hn, PcdLoaderNode.outputs_oneShot ho rfl hne hi hc] at hm
    obtain ⟨env, -, rfl⟩ := Option.map_eq_some_iff.mp (Option.mem_toList.mp hm)
    exact ⟨rfl, rfl, raw, List.mem_of_getElem? hraw, first, List.mem_cons_self, hload⟩
  | false =>
    obtain ⟨out, hout, rfl⟩ := List.mem_filterMap.mp hm
    obtain ⟨k, hk⟩ := List.getElem?_of_mem hout
    obtain ⟨hlen, -⟩ := List.getElem?_eq_some_iff.mp hk
    rw [PcdLoaderNode.fired, Machine.outputs_length] at hlen
    obtain ⟨out', hout', hplayed⟩ := PcdLoaderNode.fired_played hl hn ho (List.getElem?_eq_getElem hlen)
    obtain rfl : out' = some m := Option.some.inj (hout'.symm.trans hk)
    have hin : s.loop = true ∨ k < entries.length := by
      by_contra hout
      obtain ⟨hloop, hend⟩ := not_or.mp hout
      exact absurd (hplayed.finished (Bool.eq_false_of_not_eq_true hloop) (Nat.le_of_not_lt hend))
        (Option.some_ne_none m)
    obtain ⟨raw, hraw, hcase⟩ := hplayed.inside hin
    rcases hcase with ⟨-, hnone⟩ | ⟨cloud, hm, env, he, hload⟩
    · cases hnone
    · cases hm
      have hmem : env ∈ first :: PcdLoaderNode.timers events := by
        rcases List.mem_cons.mp he with rfl | he
        · exact List.mem_cons_self
        · exact List.mem_cons_of_mem _ (List.mem_of_mem_take he)
      exact ⟨rfl, rfl, raw, List.mem_of_getElem? hraw, env, hmem, hload⟩

/-! ## whole runs -/

theorem BodyOf.read {text : Bytes} {array : Detection3DArray Float} (h : BodyOf text array) :
    readDocument text = some (documentOf (toJsonPayload array)) := by
  rw [h, readDocument_text]

/-- the worker takes bodies in the order in which they have been enqueued -/
theorem taken_bodies {sender : Sys} (h : sender.Inv) : (sender.taken.map Prod.snd).Sublist (bodies sender) := by
  have hordered : sender.taken.Sublist sender.enqueued :=
    (List.sublist_append_left _ _).trans h.belt.ordered
  exact (hordered.map Prod.snd).trans (List.sublist_append_left _ _)

/-- three nodes that have been started, and nothing on the way -/
def initial {D : Type} (loader : PcdLoaderNode.Node D) (detector : VehicleDetectorNode.Node)
    (sender : DetectionSenderNode.Node) (files : Files) : State D where
  loader := loader
  detector := detector
  sender := Sys.initial sender files

section
variable {D T : Type} {topics : Topics}

theorem initial_inv (loader : PcdLoaderNode.Node D) (detector : VehicleDetectorNode.Node)
    {sender : DetectionSenderNode.Node} (hs : DetectionSenderNode.Inv sender) (files : Files) :
    Inv detector [] ([] : List (Frame D T)) (initial loader detector sender files) where
  points := .initial
  received := rfl
  node := rfl
  begun _ _ h := by cases h
  ended _ h := absurd h List.not_mem_nil
  raw := .initial
  sent := List.Sublist.slnil
  relayed := List.Sublist.slnil
  sender := Sys.initial_inv hs files
  bodies := by
    have hnone : bodies (Sys.initial sender files) = [] := rfl
    show List.SublistForall₂ BodyOf (bodies (Sys.initial sender files)) []
    rw [hnone]
    exact .nil

theorem run_inv {loader : PcdLoaderNode.Node D} {detector : VehicleDetectorNode.Node}
    {sender : DetectionSenderNode.Node} (hs : DetectionSenderNode.Inv sender) {files : Files}
    {events : List (Event D T)} {p : State D}
    (h : Steps.run (step topics) (initial loader detector sender files) events = some p) :
    Inv detector (batchesOf events) (framesOf topics (initial loader detector sender files) events) p := by
  refine Steps.run_history (P := fun before p => Inv detector (batchesOf before)
    (framesOf topics (initial loader detector sender files) before) p) ?_ ?_ events h
  · exact initial_inv loader detector hs files
  · intro before q r e hbefore hinv hstep
    have hnext := hinv.step hstep
    rw [batchesOf, List.filterMap_append, framesOf, Steps.outputs_concat e before hbefore]
    exact hnext

end

/-- The frames of a run: their clouds have been published, each frame has one of its own and they are in the
order of the clouds, and each frame is sound. -/
structure Seen {D T : Type} (detector : VehicleDetectorNode.Node) (batches : List (List Parameter))
    (published : List (CloudMessage D)) (frames : List (Frame D T)) : Prop where
  clouds : (frames.map Frame.msg).Sublist published
  sound : ∀ f ∈ frames, f.Sound detector batches

theorem Inv.seen {D T : Type} {detector : VehicleDetectorNode.Node} {batches : List (List Parameter)}
    {frames : List (Frame D T)} {p : State D} (h : Inv detector batches frames p)
    (hd : VehicleDetectorNode.Inv detector) : Seen detector batches p.points.sent frames := by
  refine ⟨List.Sublist.trans ?_ h.points.received, fun f hf => (h.ended f hf).sound hd⟩
  rw [h.received]
  exact List.sublist_append_left _ _

/-- **From the point cloud to the body.** In every run of three started nodes, whatever is lost and whatever is
set: the loader publishes clouds from its playlist; every frame of the detector has a published cloud of its own,
in the order of the clouds, and goes by one snapshot that the detector has had; and what is relayed, and every body
that the worker has taken, comes from the detection message of a frame of its own, in the order of the frames: the
body is read as the document of that message. -/
theorem posted {D T : Type} (topics : Topics) {fs : FileSystem} {first : Env D}
    {loaderOthers loaderOverrides detectorOthers detectorOverrides senderOthers senderOverrides : ParameterStore}
    {opened : Bool} {loader : PcdLoaderNode.Node D} {detector : VehicleDetectorNode.Node}
    {sender : DetectionSenderNode.Node} (files : Files)
    (hloader : PcdLoaderNode.construct fs first loaderOthers loaderOverrides = .ok (.ok loader))
    (hdetector : VehicleDetectorNode.start detectorOthers detectorOverrides = .ok (.ok detector))
    (hsender : DetectionSenderNode.start senderOthers senderOverrides opened = .ok (.ok sender))
    (events : List (Event D T)) (p : State D)
    (h : Steps.run (step topics) (initial loader detector sender files) events = some p) :
    let published := PcdLoaderNode.messages loader (loaderEvents events)
    let frames := framesOf topics (initial loader detector sender files) events
    let detected := frames.filterMap Frame.detections?
    (∃ s entries, PcdLoaderNode.readSettings loader.params = .ok s ∧
      PcdLoaderNode.enforceParameters fs s = .ok entries ∧
      ∀ m ∈ published, Loaded s entries (first :: PcdLoaderNode.timers (loaderEvents events)) m) ∧
    Seen detector (batchesOf events) (clouds topics published) frames ∧
    p.relayed.Sublist detected ∧
    List.SublistForall₂ (fun text array => readDocument text = some (documentOf (toJsonPayload array)))
      (p.sender.taken.map Prod.snd) detected := by
  intro published frames detected
  have hinv : Inv detector (batchesOf events) frames p := run_inv (DetectionSenderNode.start_inv hsender) h
  have hpublished : p.points.sent = clouds topics published := (run_sent events h).trans (List.nil_append _)
  have hreceived : p.raw.received.Sublist detected := hinv.raw.received.trans hinv.sent
  refine ⟨messages_loaded hloader _, ?_, hinv.relayed.trans hreceived, ?_⟩
  · rw [← hpublished]
    exact hinv.seen (VehicleDetectorNode.start_inv hdetector)
  · exact made_imp (made_sublist (made_part hinv.bodies (taken_bodies hinv.sender)) hreceived)
      fun text array _ hbody => hbody.read

def defaultTopics : Topics := ⟨lit "/input/points", lit "/vehicle_detections/raw", lit "/vehicle_detections/raw"⟩

/-- every cloud has one point, and a transform is found -/
def onePointOutside : Outside Nat Unit where
  pcl := onePointPcl
  fromROSMsg _ := [⟨1, 1, 1⟩]
  toROSMsg _ := 0
  lookupTransform _ _ := .ok ()
  doTransform msg _ := msg

/-- One cloud is lost, the next one is posted. -/
def lossyEvents : List (Event Nat Unit) := [
  .sender (.parameters [("send_mode", .string (lit "both"))] true), .sender .ensureStarted,
  .loader (.timer (PcdLoaderNode.flakyDisk 0)), .losePoints 0, .loader (.timer (PcdLoaderNode.flakyDisk 3)), .frameBegins,
  .detectorBatch [("target_frame_id", .string (lit "odom"))],
  .frameEnds onePointOutside onePointPcl_documented, .receive .ok, .sender .enqueue, .sender .wake]

theorem posted_lossy : ∃ loader p,
    PcdLoaderNode.construct PcdLoaderNode.allFiles (PcdLoaderNode.flakyDisk 0) (fun _ => none)
      PcdLoaderNode.twoFiles = .ok (.ok loader) ∧
    Steps.run (step defaultTopics) (initial loader VehicleDetectorNode.defaultNode
      DetectionSenderNode.defaultNode fun _ => []) lossyEvents = some p ∧
    p.sender.taken.length = 1 ∧
    let frames := framesOf defaultTopics (initial loader VehicleDetectorNode.defaultNode
      DetectionSenderNode.defaultNode fun _ => []) lossyEvents
    Seen VehicleDetectorNode.defaultNode (batchesOf lossyEvents)
      (clouds defaultTopics (PcdLoaderNode.messages loader (loaderEvents lossyEvents))) frames ∧
    List.SublistForall₂ (fun text array => readDocument text = some (documentOf (toJsonPayload array)))
      (p.sender.taken.map Prod.snd) (frames.filterMap Frame.detections?) := by
  have hrun : ∃ loader p, PcdLoaderNode.construct PcdLoaderNode.allFiles (PcdLoaderNode.flakyDisk 0)
        (fun _ => none) PcdLoaderNode.twoFiles = .ok (.ok loader) ∧
      Steps.run (step defaultTopics) (initial loader VehicleDetectorNode.defaultNode
        DetectionSenderNode.defaultNode fun _ => []) lossyEvents = some p ∧
      p.sender.taken.length = 1 := ⟨_, _, rfl, rfl, rfl⟩
  obtain ⟨loader, p, hloader, h, htaken⟩ := hrun
  obtain ⟨-, hseen, -, hread⟩ := posted defaultTopics (fun _ => []) hloader VehicleDetectorNode.start_default
    DetectionSenderNode.start_default lossyEvents p h
  exact ⟨loader, p, hloader, h, htaken, hseen, hread⟩

end VD.Pipeline
