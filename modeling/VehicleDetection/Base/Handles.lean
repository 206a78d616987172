import VehicleDetection.Base.Steps

/-!
# Handles

What a program is given for a while: it acquires a handle, uses it and gives it back. Handles of one kind are
held one at a time.

* `step`         refuses what is held already by another of its kind, and what is used or given back without
  being held;
* `run_kinds`    at most one of each kind is held at any time;
* `run_balance`  a handle has been given back as often as it has been acquired, and once less while it is held.
-/

set_option linter.unusedVariables false

namespace Handles

inductive Act (H : Type*) where
  | acquire (h : H)
  | use (h : H)
  | release (h : H)
deriving DecidableEq

variable {H K : Type*} [DecidableEq H] [DecidableEq K] (kind : H → K)

/-- `none`: misuse -/
def step (held : List H) : Act H → Option (List H)
  | .acquire h => if kind h ∈ held.map kind then none else some (h :: held)
  | .use h => if h ∈ held then some held else none
  | .release h => if h ∈ held then some (held.erase h) else none

variable {kind} {held held' : List H} {acts : List (Act H)}

@[simp] theorem step_acquire {h : H} (hk : kind h ∉ held.map kind) :
    step kind held (.acquire h) = some (h :: held) := if_neg hk

@[simp] theorem step_use {h : H} (hh : h ∈ held) : step kind held (.use h) = some held := if_pos hh

@[simp] theorem step_release {h : H} (hh : h ∈ held) :
    step kind held (.release h) = some (held.erase h) := if_pos hh

/-- what is only used stays -/
theorem run_uses (h : ∀ a ∈ acts, ∃ x ∈ held, a = .use x) : Steps.run (step kind) held acts = some held := by
  induction acts with
  | nil => rfl
  | cons a acts ih =>
    obtain ⟨x, hx, rfl⟩ := h a List.mem_cons_self
    exact Steps.run_cons.mpr ⟨held, step_use hx, ih fun b hb => h b (List.mem_cons_of_mem _ hb)⟩

/-! ## one of each kind -/

theorem step_kinds {a : Act H} (hn : (held.map kind).Nodup) (h : step kind held a = some held') :
    (held'.map kind).Nodup := by
  cases a with
  | acquire x =>
    by_cases hx : kind x ∈ held.map kind
    · rw [step, if_pos hx] at h
      cases h
    · rw [step_acquire hx] at h
      cases h
      exact List.nodup_cons.mpr ⟨hx, hn⟩
  | use x =>
    by_cases hx : x ∈ held
    · rw [step_use hx] at h
      cases h
      exact hn
    · rw [step, if_neg hx] at h
      cases h
  | release x =>
    by_cases hx : x ∈ held
    · rw [step_release hx] at h
      cases h
      exact hn.sublist (List.erase_sublist.map kind)
    · rw [step, if_neg hx] at h
      cases h

theorem run_kinds (hn : (held.map kind).Nodup) (h : Steps.run (step kind) held acts = some held') :
    (held'.map kind).Nodup :=
  Steps.run_inv (P := fun held => (held.map kind).Nodup) (fun _ _ _ => step_kinds) hn h

/-! ## the balance -/

theorem step_balance {a : Act H} (h : step kind held a = some held') (x : H) :
    [a].count (.acquire x) + held.count x = [a].count (.release x) + held'.count x := by
  cases a with
  | acquire y =>
    by_cases hy : kind y ∈ held.map kind
    · rw [step, if_pos hy] at h
      cases h
    · rw [step_acquire hy] at h
      cases h
      by_cases hxy : y = x
      · subst hxy
        simp
        omega
      · simp [hxy]
  | use y =>
    by_cases hy : y ∈ held
    · rw [step_use hy] at h
      cases h
      simp
    · rw [step, if_neg hy] at h
      cases h
  | release y =>
    by_cases hy : y ∈ held
    · rw [step_release hy] at h
      cases h
      by_cases hxy : y = x
      · subst hxy
        have hpos : 0 < held.count y := List.count_pos_iff.mpr hy
        simp [List.count_erase_self]
        omega
      · simp [List.count_erase_of_ne (Ne.symm hxy), hxy]
    · rw [step, if_neg hy] at h
      cases h

theorem run_balance (x : H) : ∀ {held held' : List H} {acts : List (Act H)},
    Steps.run (step kind) held acts = some held' →
      acts.count (.acquire x) + held.count x = acts.count (.release x) + held'.count x := by
  intro held held' acts
  induction acts generalizing held with
  | nil =>
    intro h
    cases h
    rfl
  | cons a acts ih =>
    intro h
    obtain ⟨u, hu, hrest⟩ := Steps.run_cons.mp h
    have hstep := step_balance hu x
    have hall := ih hrest
    rw [← List.singleton_append, List.count_append, List.count_append]
    omega

end Handles
