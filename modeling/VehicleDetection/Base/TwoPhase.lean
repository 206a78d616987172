import VehicleDetection.Base.Machine
import VehicleDetection.Base.Steps

/-!
# Jobs of two phases

A job asks something of a shared state, and later acts on the state with what it has been told.  Between
the two other jobs come in.

* `step`         the next phase of a job;
* `alone`        a job whose phases follow each other;
* `Steady`       no act changes what a job is told;
* `run_serial`   then every interleaving gives the state and the results of the jobs run alone, one after
  another, in the order of their acts;
* `run_ordered`  a job that has acted before another one asks comes first in this order;
* `run_kept`     what every job alone keeps holds in every state of every interleaving;
* `Blind`        what a job is told makes no difference to the state it leaves;
* `run_seen`     then a job acts on what was so at a moment after it began.
-/

set_option linter.unusedVariables false

namespace TwoPhase
variable {I S Q A : Type*}

inductive Phase (Q A : Type*)
  | waiting
  | told (q : Q)
  | finished (a : A)

/-- `acted`: the jobs that have acted, in order -/
structure State (I S Q A : Type*) where
  shared : S
  phase : I → Phase Q A
  acted : List I

def initial (s : S) : State I S Q A := ⟨s, fun _ => .waiting, []⟩

section
variable [DecidableEq I]

def State.tell (x : State I S Q A) (i : I) (q : Q) : State I S Q A :=
  { x with phase := Function.update x.phase i (.told q) }

def State.finish (x : State I S Q A) (i : I) (r : A × S) : State I S Q A :=
  ⟨r.2, Function.update x.phase i (.finished r.1), x.acted ++ [i]⟩

theorem State.tell_phase (x : State I S Q A) (i j : I) (q : Q) :
    (x.tell i q).phase j = if j = i then .told q else x.phase j := Function.update_apply ..

theorem State.finish_phase (x : State I S Q A) (i j : I) (r : A × S) :
    (x.finish i r).phase j = if j = i then .finished r.1 else x.phase j := Function.update_apply ..

variable (ask : I → S → Q) (act : I → Q → S → A × S)

def step (x : State I S Q A) (i : I) : Option (State I S Q A) :=
  match x.phase i with
  | .waiting => some (x.tell i (ask i x.shared))
  | .told q => some (x.finish i (act i q x.shared))
  | .finished _ => none

end

section
variable (ask : I → S → Q) (act : I → Q → S → A × S)

def alone (i : I) (s : S) : A × S := act i (ask i s) s

/-- the state after the jobs, each of them alone -/
def serially (s : S) (jobs : List I) : S := Machine.after (fun s i => (alone ask act i s).swap) s jobs

/-- whatever a job has been told, its act leaves what the others are told -/
def Steady : Prop := ∀ i j q s, ask i (act j q s).2 = ask i s

/-- the state and the results are those of the jobs run alone -/
structure Serial (s₀ : S) (x : State I S Q A) : Prop where
  shared : x.shared = serially ask act s₀ x.acted
  told : ∀ i q, x.phase i = .told q → q = ask i x.shared
  finished : ∀ i a, x.phase i = .finished a → ∃ before after, x.acted = before ++ i :: after ∧
    a = (alone ask act i (serially ask act s₀ before)).1
  acted : ∀ i, i ∈ x.acted ↔ ∃ a, x.phase i = .finished a
  once : x.acted.Nodup

variable {ask act}

theorem serially_concat (s : S) (jobs : List I) (i : I) :
    serially ask act s (jobs ++ [i]) = (alone ask act i (serially ask act s jobs)).2 := by
  rw [serially, Machine.after, List.foldl_concat]
  rfl

theorem serially_inv {P : S → Prop} (hjob : ∀ i s, P s → P (alone ask act i s).2) {s : S} (h : P s)
    (jobs : List I) : P (serially ask act s jobs) :=
  Machine.after_inv (fun s i => hjob i s) h jobs

theorem Serial.initial (s : S) : Serial ask act s (initial s) where
  shared := rfl
  told _ _ h := by cases h
  finished _ _ h := by cases h
  acted i := iff_of_false List.not_mem_nil fun ⟨_, h⟩ => by cases h
  once := List.nodup_nil

variable [DecidableEq I]

/-- What one step does, by the phase of the job. -/
inductive Next (ask : I → S → Q) (act : I → Q → S → A × S) (x : State I S Q A) (i : I) :
    State I S Q A → Prop
  | asks (hw : x.phase i = .waiting) : Next ask act x i (x.tell i (ask i x.shared))
  | acts (q : Q) (hq : x.phase i = .told q) : Next ask act x i (x.finish i (act i q x.shared))

theorem step_next {x y : State I S Q A} {i : I} (h : step ask act x i = some y) : Next ask act x i y := by
  unfold step at h
  split at h
  · rename_i hw
    cases h
    exact .asks hw
  · rename_i q hq
    cases h
    exact .acts q hq
  · cases h

theorem Serial.asks {s₀ : S} {x : State I S Q A} (h : Serial ask act s₀ x) {i : I}
    (hw : x.phase i = .waiting) : Serial ask act s₀ (x.tell i (ask i x.shared)) where
  shared := h.shared
  told j q hj := by
    rw [State.tell_phase] at hj
    split at hj
    · rename_i hji
      cases hj
      rw [hji]
      rfl
    · exact h.told j q hj
  finished j a hj := by
    rw [State.tell_phase] at hj
    split at hj
    · cases hj
    · exact h.finished j a hj
  acted j := by
    show j ∈ x.acted ↔ _
    rw [h.acted, State.tell_phase]
    split
    · rename_i hji
      rw [hji, hw]
      exact iff_of_false (fun ⟨_, ha⟩ => by cases ha) fun ⟨_, ha⟩ => by cases ha
    · rfl
  once := h.once

theorem Serial.acts (hsteady : Steady ask act) {s₀ : S} {x : State I S Q A} (h : Serial ask act s₀ x)
    {i : I} {q : Q} (hq : x.phase i = .told q) :
    Serial ask act s₀ (x.finish i (act i q x.shared)) := by
  obtain rfl := h.told i q hq
  constructor
  · show (alone ask act i x.shared).2 = serially ask act s₀ (x.acted ++ [i])
    rw [serially_concat, ← h.shared]
  · intro j r hj
    rw [State.finish_phase] at hj
    split at hj
    · cases hj
    · rw [h.told j r hj]
      exact (hsteady j i _ _).symm
  · intro j a hj
    rw [State.finish_phase] at hj
    split at hj
    · rename_i hji
      cases hj
      refine ⟨x.acted, [], hji ▸ rfl, ?_⟩
      rw [← h.shared, hji]
      rfl
    · obtain ⟨before, after, hacted, ha⟩ := h.finished j a hj
      refine ⟨before, after ++ [i], ?_, ha⟩
      show x.acted ++ [i] = _
      rw [hacted, List.append_assoc]
      rfl
  · intro j
    show j ∈ x.acted ++ [i] ↔ _
    rw [List.mem_append, List.mem_singleton, h.acted, State.finish_phase]
    split
    · rename_i hji
      exact iff_of_true (.inr hji) ⟨_, rfl⟩
    · rename_i hji
      exact or_iff_left hji
  · -- a job that has been told has not acted
    have hnot : i ∉ x.acted := by
      rw [h.acted, hq]
      rintro ⟨a, ha⟩
      cases ha
    exact List.nodup_append.mpr ⟨h.once, List.nodup_singleton i, fun j hj k hk e =>
      hnot (List.mem_singleton.mp hk ▸ e ▸ hj)⟩

theorem run_serial (hsteady : Steady ask act) {s : S} {events : List I} {x : State I S Q A}
    (h : Steps.run (step ask act) (TwoPhase.initial s) events = some x) : Serial ask act s x := by
  refine Steps.run_inv (P := Serial ask act s) (fun y z i hy hstep => ?_) (Serial.initial s) h
  cases step_next hstep with
  | asks hw => exact hy.asks hw
  | acts q hq => exact hy.acts hsteady hq

/-- The order only grows. -/
theorem run_acted {x y : State I S Q A} {events : List I}
    (h : Steps.run (step ask act) x events = some y) : x.acted <+: y.acted := by
  refine Steps.run_inv (P := fun z => x.acted <+: z.acted) (fun z w i hz hstep => ?_) List.prefix_rfl h
  cases step_next hstep with
  | asks hw => exact hz
  | acts q hq => exact hz.trans (List.prefix_append _ _)

/-- Where `i` has acted and `j` waits, `i` comes before `j` for good. -/
theorem run_ordered (hsteady : Steady ask act) {s : S} {events later : List I} {x y : State I S Q A}
    (h : Steps.run (step ask act) (TwoPhase.initial s) events = some x)
    (hlater : Steps.run (step ask act) x later = some y) {i j : I} (hi : i ∈ x.acted)
    (hj : x.phase j = .waiting) : ∃ before after, y.acted = before ++ after ∧ i ∈ before ∧ j ∉ before := by
  obtain ⟨after, hafter⟩ := run_acted hlater
  refine ⟨x.acted, after, hafter.symm, hi, fun hmem => ?_⟩
  obtain ⟨a, ha⟩ := ((run_serial hsteady h).acted j).mp hmem
  rw [hj] at ha
  cases ha

theorem run_kept (hsteady : Steady ask act) {P : S → Prop} (hjob : ∀ i s, P s → P (alone ask act i s).2)
    {s : S} (hs : P s) {events : List I} {x : State I S Q A}
    (h : Steps.run (step ask act) (TwoPhase.initial s) events = some x) : P x.shared := by
  rw [(run_serial hsteady h).shared]
  exact serially_inv hjob hs x.acted

/-! ## jobs that may be told something old -/

variable (ask act) in
def Blind : Prop := ∀ i q q' s, (act i q s).2 = (act i q' s).2

variable (ask act) in
/-- `began`: the jobs that began after the acts `base` -/
structure Seen (s₀ : S) (base : List I) (began : I → Prop) (x : State I S Q A) : Prop where
  shared : x.shared = serially ask act s₀ x.acted
  grown : base <+: x.acted
  told : ∀ i q, began i → x.phase i = .told q → ∃ before after, x.acted = before ++ after ∧ base <+: before ∧
    q = ask i (serially ask act s₀ before)
  finished : ∀ i a, began i → x.phase i = .finished a → ∃ before between after,
    x.acted = before ++ between ++ i :: after ∧ base <+: before ∧
      a = (act i (ask i (serially ask act s₀ before)) (serially ask act s₀ (before ++ between))).1

section
variable {s₀ : S} {base : List I} {began : I → Prop} {x : State I S Q A} {i : I}

theorem Seen.asks (h : Seen ask act s₀ base began x) :
    Seen ask act s₀ base began (x.tell i (ask i x.shared)) where
  shared := h.shared
  grown := h.grown
  told j q hb hj := by
    rw [State.tell_phase] at hj
    split at hj
    · rename_i hji
      cases hj
      refine ⟨x.acted, [], (List.append_nil _).symm, h.grown, ?_⟩
      rw [hji, h.shared]
    · exact h.told j q hb hj
  finished j a hb hj := by
    rw [State.tell_phase] at hj
    split at hj
    · cases hj
    · exact h.finished j a hb hj

theorem Seen.acts (hblind : Blind act) (h : Seen ask act s₀ base began x) {q : Q} (hq : x.phase i = .told q) :
    Seen ask act s₀ base began (x.finish i (act i q x.shared)) := by
  constructor
  · show (act i q x.shared).2 = serially ask act s₀ (x.acted ++ [i])
    rw [serially_concat, ← h.shared]
    exact hblind i q _ x.shared
  · exact h.grown.trans (List.prefix_append _ _)
  · intro j r hb hj
    rw [State.finish_phase] at hj
    split at hj
    · cases hj
    · obtain ⟨before, after, hacted, hbase, hr⟩ := h.told j r hb hj
      refine ⟨before, after ++ [i], ?_, hbase, hr⟩
      show x.acted ++ [i] = _
      rw [hacted, List.append_assoc]
  · intro j a hb hj
    rw [State.finish_phase] at hj
    split at hj
    · rename_i hji
      cases hj
      obtain ⟨before, between, hacted, hbase, rfl⟩ := h.told i q (hji ▸ hb) hq
      refine ⟨before, between, [], ?_, hbase, ?_⟩
      · show x.acted ++ [i] = _
        rw [hacted, hji]
      · rw [hji, h.shared, hacted]
    · obtain ⟨before, between, after, hacted, hbase, ha⟩ := h.finished j a hb hj
      refine ⟨before, between, after ++ [i], ?_, hbase, ha⟩
      show x.acted ++ [i] = _
      rw [hacted, List.append_assoc, List.cons_append]

end

theorem run_seen_from (hblind : Blind act) {s : S} {base : List I} {began : I → Prop} {x y : State I S Q A}
    (hy : Seen ask act s base began y) {later : List I}
    (hlater : Steps.run (step ask act) y later = some x) : Seen ask act s base began x := by
  refine Steps.run_inv (P := Seen ask act s base began) (fun z w i hz hstep => ?_) hy hlater
  cases step_next hstep with
  | asks hw => exact hz.asks
  | acts q hq => exact hz.acts hblind hq

omit [DecidableEq I] in
theorem Seen.initial (s : S) : Seen ask act s [] (fun _ => False) (initial s : State I S Q A) :=
  ⟨rfl, List.nil_prefix, fun _ _ h => h.elim, fun _ _ h => h.elim⟩

/-- A job that waits after the acts of `y` is told what is so after these and perhaps some more. -/
theorem run_seen (hblind : Blind act) {s : S} {events later : List I} {x y : State I S Q A}
    (h : Steps.run (step ask act) (TwoPhase.initial s) events = some y)
    (hlater : Steps.run (step ask act) y later = some x) {i : I} (hi : y.phase i = .waiting) {a : A}
    (ha : x.phase i = .finished a) : ∃ before between after, x.acted = before ++ between ++ i :: after ∧
      y.acted <+: before ∧
      a = (act i (ask i (serially ask act s before)) (serially ask act s (before ++ between))).1 := by
  have hshared := (run_seen_from hblind (Seen.initial s) h).shared
  have hy : Seen ask act s y.acted (fun j => y.phase j = .waiting) y := by
    refine ⟨hshared, List.prefix_rfl, fun j q hj hq => ?_, fun j a hj hq => ?_⟩
    · cases hj.symm.trans hq
    · cases hj.symm.trans hq
  exact (run_seen_from hblind hy hlater).finished i a hi ha

end

end TwoPhase
