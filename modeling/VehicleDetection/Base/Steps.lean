import Mathlib.Data.List.Induction

/-!
# Machines that may refuse

`step s e = none` where `e` cannot happen in `s`.

* `run`         the state after some events;
* `run_flatMap`  steps in parts;
* `run_keeps`, `run_inv`  what every step keeps holds after every run;
* `outputs`     what the steps of a run give;
* `run_history`  what every step keeps of a state and the events before it;
* `run_rank`    a rank that every step lowers bounds the length of a run;
* `run_image`   a machine that follows another one step by step, or stays where it is, runs through images
                of its states.
-/

set_option linter.unusedVariables false

namespace Steps
variable {S E A : Type*} (step : S → E → Option S)

def run (s : S) : List E → Option S
  | [] => some s
  | e :: events => (step s e).bind fun t => run t events

def outputs (out : S → E → List A) (s : S) : List E → List A
  | [] => []
  | e :: events => out s e ++ ((step s e).map fun t => outputs out t events).getD []

variable {step}

theorem run_cons {s t : S} {e : E} {events : List E} :
    run step s (e :: events) = some t ↔ ∃ u, step s e = some u ∧ run step u events = some t := by
  rw [run, Option.bind_eq_some_iff]

theorem run_append {s t : S} {before after : List E} :
    run step s (before ++ after) = some t ↔
      ∃ u, run step s before = some u ∧ run step u after = some t := by
  induction before generalizing s with
  | nil => exact ⟨fun h => ⟨s, rfl, h⟩, fun ⟨u, hu, h⟩ => by cases hu; exact h⟩
  | cons e before ih =>
    rw [List.cons_append, run_cons]
    constructor
    · rintro ⟨v, hv, h⟩
      obtain ⟨u, hu, h⟩ := ih.mp h
      exact ⟨u, run_cons.mpr ⟨v, hv, hu⟩, h⟩
    · rintro ⟨u, hu, h⟩
      obtain ⟨v, hv, hu⟩ := run_cons.mp hu
      exact ⟨v, hv, ih.mpr ⟨u, hu, h⟩⟩

/-- a machine that takes some steps of another one at a time -/
theorem run_flatMap {F : Type*} {parts : F → List E} {fs : List F} : ∀ {s t : S},
    run (fun s f => run step s (parts f)) s fs = some t ↔ run step s (fs.flatMap parts) = some t := by
  induction fs with
  | nil => exact Iff.rfl
  | cons f fs ih =>
    intro s t
    rw [run_cons, List.flatMap_cons, run_append]
    exact exists_congr fun u => and_congr_right fun _ => ih

/-- `A` are the events that the run is made of. -/
theorem run_keeps {P : S → Prop} {A : E → Prop} (hstep : ∀ s t e, P s → A e → step s e = some t → P t) {s t : S}
    {events : List E} (h : P s) (ha : ∀ e ∈ events, A e) (hrun : run step s events = some t) : P t := by
  induction events generalizing s with
  | nil => exact Option.some.inj hrun ▸ h
  | cons e events ih =>
    obtain ⟨u, hu, hrest⟩ := run_cons.mp hrun
    exact ih (hstep s u e h (ha e List.mem_cons_self) hu) (fun e he => ha e (List.mem_cons_of_mem _ he)) hrest

theorem run_inv {P : S → Prop} (hstep : ∀ s t e, P s → step s e = some t → P t) {s t : S}
    {events : List E} (h : P s) (hrun : run step s events = some t) : P t :=
  run_keeps (A := fun _ => True) (fun s t e hs _ => hstep s t e hs) h (fun _ _ => trivial) hrun

/-- What holds of a state and of the events that have led to it. -/
theorem run_history {s₀ : S} {P : List E → S → Prop} (h₀ : P [] s₀)
    (hstep : ∀ before s t e, run step s₀ before = some s → P before s → step s e = some t → P (before ++ [e]) t)
    (events : List E) : ∀ {t : S}, run step s₀ events = some t → P events t := by
  induction events using List.reverseRecOn with
  | nil =>
    intro t h
    cases h
    exact h₀
  | append_singleton before e ih =>
    intro t h
    obtain ⟨u, hu, hlast⟩ := run_append.mp h
    obtain ⟨v, hv, hend⟩ := run_cons.mp hlast
    cases hend
    exact hstep before u t e hu (ih hu) hv

theorem outputs_cons {out : S → E → List A} {s t : S} {e : E} (h : step s e = some t) (events : List E) :
    outputs step out s (e :: events) = out s e ++ outputs step out t events := by
  rw [outputs, h]
  rfl

theorem outputs_concat {out : S → E → List A} (e : E) (before : List E) : ∀ {s t : S}, run step s before = some t →
    outputs step out s (before ++ [e]) = outputs step out s before ++ out t e := by
  induction before with
  | nil =>
    intro s t h
    cases h
    show out s e ++ ((step s e).map fun t => []).getD [] = out s e
    cases step s e <;> exact List.append_nil _
  | cons e' before ih =>
    intro s t h
    obtain ⟨u, hu, hrest⟩ := run_cons.mp h
    rw [List.cons_append, outputs_cons hu, outputs_cons hu, ih hrest, List.append_assoc]

theorem run_rank {P : S → Prop} {A : E → Prop} {rank : S → Nat}
    (hstep : ∀ s t e, P s → A e → step s e = some t → P t ∧ rank t < rank s) {s t : S}
    {events : List E} (h : P s) (ha : ∀ e ∈ events, A e) (hrun : run step s events = some t) :
    P t ∧ events.length + rank t ≤ rank s := by
  induction events generalizing s with
  | nil =>
    cases hrun
    exact ⟨h, Nat.le_of_eq (Nat.zero_add _)⟩
  | cons e events ih =>
    obtain ⟨u, hu, hrest⟩ := run_cons.mp hrun
    obtain ⟨hpu, hlt⟩ := hstep s u e h (ha e List.mem_cons_self) hu
    obtain ⟨hpt, hle⟩ := ih hpu (fun e he => ha e (List.mem_cons_of_mem _ he)) hrest
    refine ⟨hpt, ?_⟩
    rw [List.length_cons]
    omega

/-- The event `e` is the event `g e` of the other machine, or none. -/
theorem run_image {T F : Type*} {step' : T → F → Option T} {f : S → T} {g : E → Option F}
    (hstep : ∀ s t e, step s e = some t →
      match g e with
      | some e' => step' (f s) e' = some (f t)
      | none => f t = f s) {s t : S} {events : List E} (hrun : run step s events = some t) :
    run step' (f s) (events.filterMap g) = some (f t) := by
  induction events generalizing s with
  | nil =>
    cases hrun
    rfl
  | cons e events ih =>
    obtain ⟨u, hu, hrest⟩ := run_cons.mp hrun
    have h := hstep s u e hu
    cases hg : g e with
    | none =>
      rw [hg] at h
      rw [List.filterMap_cons_none hg, ← h]
      exact ih hrest
    | some e' =>
      rw [hg] at h
      rw [List.filterMap_cons_some hg]
      exact run_cons.mpr ⟨f u, h, ih hrest⟩

end Steps
