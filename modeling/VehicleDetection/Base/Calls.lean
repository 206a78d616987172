import VehicleDetection.Base.Steps

/-!
# Programs that make calls

A program makes calls and ends with a value or by an exception; its calls are kept either way. A machine of
`Steps` watches them, and refuses the ones that may not be made.

* `Prog`         the calls and the end, with the ways to put programs together;
* `Leads`        the machine allows every call, and what holds of the end and of the state then;
* `Leads.bind`, `Leads.tryCatch`, `Leads.guarded`  one rule for each way;
* `Leads.forM`   an invariant of a loop.
-/

set_option linter.unusedVariables false

namespace Calls

structure Prog (C E α : Type*) where
  calls : List C
  result : Except E α

section
variable {C E α β : Type*}

namespace Prog

/-- one call -/
def call (c : C) : Prog C E Unit := ⟨[c], .ok ()⟩

/-- an exception -/
def fail (e : E) : Prog C E α := ⟨[], .error e⟩

def value (a : α) : Prog C E α := ⟨[], .ok a⟩

def andThen (m : Prog C E α) (f : α → Prog C E β) : Prog C E β :=
  match m.result with
  | .error e => ⟨m.calls, .error e⟩
  | .ok a => ⟨m.calls ++ (f a).calls, (f a).result⟩

def tryCatch (m : Prog C E α) (f : E → Prog C E α) : Prog C E α :=
  match m.result with
  | .error e => ⟨m.calls ++ (f e).calls, (f e).result⟩
  | .ok a => m

/-- `c` is called where the scope ends, by a value or by an exception, unless it is not left at all -/
def guarded (c : C) (stays : E → Bool) (m : Prog C E α) : Prog C E α :=
  match m.result with
  | .error e => if stays e then m else ⟨m.calls ++ [c], .error e⟩
  | .ok a => ⟨m.calls ++ [c], .ok a⟩

/-- a loop over a list, left by the first exception -/
def each (f : α → Prog C E Unit) : List α → Prog C E Unit
  | [] => value ()
  | a :: as => (f a).andThen fun _ => each f as

end Prog

instance : Monad (Prog C E) where
  pure := Prog.value
  bind := Prog.andThen

theorem Prog.andThen_ok {m : Prog C E α} {a : α} (h : m.result = .ok a) (f : α → Prog C E β) :
    m.andThen f = ⟨m.calls ++ (f a).calls, (f a).result⟩ := by
  rw [andThen, h]

theorem Prog.andThen_error {m : Prog C E α} {e : E} (h : m.result = .error e) (f : α → Prog C E β) :
    m.andThen f = ⟨m.calls, .error e⟩ := by
  rw [andThen, h]

theorem Prog.tryCatch_ok {m : Prog C E α} {a : α} (h : m.result = .ok a) (f : E → Prog C E α) :
    m.tryCatch f = m := by
  rw [Prog.tryCatch, h]

theorem Prog.tryCatch_error {m : Prog C E α} {e : E} (h : m.result = .error e) (f : E → Prog C E α) :
    m.tryCatch f = ⟨m.calls ++ (f e).calls, (f e).result⟩ := by
  rw [Prog.tryCatch, h]

theorem Prog.result_andThen (m : Prog C E α) (f : α → Prog C E β) :
    (m.andThen f).result = m.result.bind fun a => (f a).result := by
  cases hr : m.result with
  | error e =>
    rw [andThen_error hr]
    rfl
  | ok a =>
    rw [andThen_ok hr]
    rfl

/-- the last call of a scope does not change how it ends -/
theorem Prog.result_guarded (c : C) (stays : E → Bool) (m : Prog C E α) :
    (m.guarded c stays).result = m.result := by
  unfold guarded
  split
  · split
    · rfl
    · rename_i h _
      exact h.symm
  · rename_i h
    exact h.symm

end

/-! ## what a program leads to -/

variable {S C E α β : Type*} (step : S → C → Option S)

/-- The machine starts in `s` and allows every call. -/
def Leads (s : S) (m : Prog C E α) (post : Except E α → S → Prop) : Prop :=
  ∃ t, Steps.run step s m.calls = some t ∧ post m.result t

variable {step}

theorem Leads.imp {s : S} {m : Prog C E α} {post post' : Except E α → S → Prop} (h : Leads step s m post)
    (himp : ∀ r t, post r t → post' r t) : Leads step s m post' := by
  obtain ⟨t, ht, hp⟩ := h
  exact ⟨t, ht, himp _ _ hp⟩

theorem Leads.value {s : S} {a : α} {post : Except E α → S → Prop} (h : post (.ok a) s) :
    Leads step s (Prog.value a : Prog C E α) post := ⟨s, rfl, h⟩

theorem Leads.fail {s : S} {e : E} {post : Except E α → S → Prop} (h : post (.error e) s) :
    Leads step s (Prog.fail e : Prog C E α) post := ⟨s, rfl, h⟩

theorem Leads.call {s t : S} {c : C} {post : Except E Unit → S → Prop} (hc : step s c = some t)
    (h : post (.ok ()) t) : Leads step s (Prog.call c : Prog C E Unit) post :=
  ⟨t, Steps.run_cons.mpr ⟨t, hc, rfl⟩, h⟩

/-- What follows starts where the first part has ended. -/
theorem Leads.bind {s : S} {m : Prog C E α} {f : α → Prog C E β} {post : Except E β → S → Prop}
    (h : Leads step s m fun r t => match r with
      | .ok a => Leads step t (f a) post
      | .error e => post (.error e) t) : Leads step s (m.andThen f) post := by
  obtain ⟨t, ht, hp⟩ := h
  cases hr : m.result with
  | error e =>
    rw [hr] at hp
    rw [Prog.andThen_error hr]
    exact ⟨t, ht, hp⟩
  | ok a =>
    rw [hr] at hp
    obtain ⟨u, hu, hq⟩ := hp
    rw [Prog.andThen_ok hr]
    exact ⟨u, Steps.run_append.mpr ⟨t, ht, hu⟩, hq⟩

theorem Leads.tryCatch {s : S} {m : Prog C E α} {f : E → Prog C E α} {post : Except E α → S → Prop}
    (h : Leads step s m fun r t => match r with
      | .ok a => post (.ok a) t
      | .error e => Leads step t (f e) post) : Leads step s (m.tryCatch f) post := by
  obtain ⟨t, ht, hp⟩ := h
  cases hr : m.result with
  | error e =>
    rw [hr] at hp
    obtain ⟨u, hu, hq⟩ := hp
    rw [Prog.tryCatch_error hr]
    exact ⟨u, Steps.run_append.mpr ⟨t, ht, hu⟩, hq⟩
  | ok a =>
    rw [hr] at hp
    rw [Prog.tryCatch_ok hr]
    exact ⟨t, ht, hr ▸ hp⟩

/-- The last call of a scope is made wherever it is left. -/
theorem Leads.guarded {s : S} {c : C} {stays : E → Bool} {m : Prog C E α} {post : Except E α → S → Prop}
    (h : Leads step s m fun r t => match r with
      | .ok a => ∃ u, step t c = some u ∧ post (.ok a) u
      | .error e => if stays e then post (.error e) t else ∃ u, step t c = some u ∧ post (.error e) u) :
    Leads step s (m.guarded c stays) post := by
  obtain ⟨t, ht, hp⟩ := h
  have last : ∀ {u}, step t c = some u → Steps.run step s (m.calls ++ [c]) = some u := fun hu =>
    Steps.run_append.mpr ⟨t, ht, Steps.run_cons.mpr ⟨_, hu, rfl⟩⟩
  unfold Prog.guarded
  cases hr : m.result with
  | error e =>
    rw [hr] at hp
    dsimp only at hp ⊢
    cases hs : stays e with
    | true =>
      rw [hs, if_pos rfl] at hp
      rw [if_pos rfl]
      exact ⟨t, ht, hr ▸ hp⟩
    | false =>
      rw [hs, if_neg Bool.false_ne_true] at hp
      obtain ⟨u, hu, hq⟩ := hp
      rw [if_neg Bool.false_ne_true]
      exact ⟨u, last hu, hq⟩
  | ok a =>
    rw [hr] at hp
    obtain ⟨u, hu, hq⟩ := hp
    exact ⟨u, last hu, hq⟩

/-- A loop is at the state `s` before each round, and left where it ends or by an exception. -/
theorem Leads.each {s : S} {f : α → Prog C E Unit} {post : Except E Unit → S → Prop}
    (hround : ∀ a, Leads step s (f a) fun r t => match r with
      | .ok _ => t = s
      | .error e => post (.error e) t) (hend : post (.ok ()) s) (as : List α) :
    Leads step s (Prog.each f as) post := by
  induction as with
  | nil => exact .value hend
  | cons a as ih =>
    refine .bind ((hround a).imp fun r t h => ?_)
    cases r with
    | error e => exact h
    | ok u =>
      cases h
      exact ih

/-- every call was allowed at its moment -/
theorem Leads.before {s : S} {m : Prog C E α} {post : Except E α → S → Prop} (h : Leads step s m post)
    {before : List C} (hb : before <+: m.calls) : ∃ t, Steps.run step s before = some t := by
  obtain ⟨t, ht, -⟩ := h
  obtain ⟨rest, hrest⟩ := hb
  rw [← hrest] at ht
  obtain ⟨u, hu, -⟩ := Steps.run_append.mp ht
  exact ⟨u, hu⟩

end Calls
