import Mathlib.Data.ENat.Lattice
import VehicleDetection.Sender.Queue

/-!
# The attempts for one body

`total_attempts` is `http_retry_count + 1` in `int64`, and validation bounds `http_retry_count` from below
only.

* `attempts`       the results of the attempts in a run;
* `firstOk`        the index of the first one that succeeds, from 1 on;
* `step_posting`   what a step does to a worker that posts;
* `run_posting`    how far the worker is after some attempts;
* `Exact`          the bound does not overflow, and in every run the worker makes as many attempts as it is
                   to make;
* `exact_iff`      when that holds.
-/

set_option linter.unusedVariables false

namespace VD.DetectionSenderNode
open BStr

def Event.attempted : Event → Option HttpPostResult
  | .attempt result => some result
  | _ => none

def attempts (events : List Event) : List HttpPostResult := events.filterMap Event.attempted

/-- the index of the first success, from 1 on; `⊤` if there is none -/
noncomputable def firstOk (outcomes : Nat → HttpPostResult) : ℕ∞ :=
  ⨅ i, ⨅ _ : (outcomes i).ok = true, ((i + 1 : ℕ) : ℕ∞)

theorem lt_firstOk {outcomes : Nat → HttpPostResult} {m : Nat} :
    (m : ℕ∞) < firstOk outcomes ↔ ∀ i < m, (outcomes i).ok = false := by
  rw [← ENat.add_one_le_iff (ENat.natCast_ne_top m), firstOk, le_iInf₂_iff]
  constructor
  · intro h i hi
    by_contra hok
    have hle := h i (Bool.eq_true_of_not_eq_false hok)
    rw [← Nat.cast_add_one, Nat.cast_le] at hle
    omega
  · intro h i hok
    rw [← Nat.cast_add_one, Nat.cast_le]
    by_contra hlt
    exact Bool.noConfusion ((h i (by omega)).symm.trans hok)

namespace Sys

/-- a state that some node is in, after some start and some interleaving -/
def Reachable (s : Sys) : Prop :=
  ∃ others overrides opened n files before,
    start others overrides opened = .ok (.ok n) ∧ (initial n files).run before = some s

theorem Reachable.inv {s : Sys} (h : Reachable s) : Inv s := by
  obtain ⟨others, overrides, opened, n, files, before, hs, hr⟩ := h
  exact run_inv before (initial_inv (start_inv hs) files) hr

/-! ## steps -/

/-- The others leave the worker alone, or start it. -/
theorem step_started {s s' : Sys} {e : Event} (he : e.byWorker = false) (h : s.step e = some s') :
    s'.worker = s.worker ∨ s.node.state.workerStarted = false ∧ s'.worker = .waiting := by
  cases e with
  | parameters batch opened =>
    simp only [step] at h
    split at h
    · split at h
      · cases h
        exact .inl rfl
      · cases h
        exact .inl rfl
    · cases h
  | ensureStarted =>
    simp only [step] at h
    split at h
    · cases h
      split
      · rename_i hnew
        rw [Bool.and_eq_true, Bool.not_eq_true'] at hnew
        exact .inr ⟨hnew.2, rfl⟩
      · exact .inl rfl
    · cases h
  | detections payload outcome =>
    simp only [step] at h
    split at h
    · cases h
      exact .inl rfl
    · cases h
  | enqueue =>
    simp only [step] at h
    split at h
    · cases h
      exact .inl rfl
    · cases h
  | wake => cases he
  | copySnapshot => cases he
  | attempt result => cases he
  | shutdown =>
    cases h
    exact .inl rfl

theorem step_others {s s' : Sys} {e : Event} (he : e.byWorker = false)
    (hst : s.node.state.workerStarted = true) (h : s.step e = some s') : s'.worker = s.worker := by
  rcases step_started he h with hw | ⟨hnot, -⟩
  · exact hw
  · exact absurd (hst.symm.trans hnot) Bool.noConfusion

theorem attempted_others {e : Event} (he : e.byWorker = false) : e.attempted = none := by
  cases e with
  | parameters batch opened => rfl
  | ensureStarted => rfl
  | detections payload outcome => rfl
  | enqueue => rfl
  | wake => rfl
  | copySnapshot => rfl
  | attempt result => cases he
  | shutdown => rfl

/-- A worker before attempt `i` makes this attempt next. -/
theorem step_posting {s s' : Sys} {e : Event} (hr : Ready s) {snap : Snapshot} {body : Body} {i : Int64}
    (hw : s.worker = .posting snap body i) (h : s.step e = some s') :
    e.attempted = none ∧ s'.worker = s.worker ∨
    ∃ result, e = .attempt result ∧ s'.worker =
      if result.ok = false ∧ i + 1 < totalAttempts snap.httpRetryCount then .posting snap body (i + 1)
      else .waiting := by
  by_cases he : e.byWorker = true
  · cases worker_next he h with
    | cleared hw' _ => cases hw.symm.trans hw'
    | popped body' queue hw' _ _ => cases hw.symm.trans hw'
    | skipped body' hw' _ => cases hw.symm.trans hw'
    | copied body' hw' _ => cases hw.symm.trans hw'
    | retried result snap' body' j hw' hnext =>
      cases hw.symm.trans hw'
      exact .inr ⟨result, rfl, (if_pos hnext).symm⟩
    | finished result snap' body' j hw' hlast =>
      cases hw.symm.trans hw'
      exact .inr ⟨result, rfl, (if_neg hlast).symm⟩
  · have he := Bool.eq_false_of_not_eq_true he
    have hst : s.node.state.workerStarted = true := hr.started (by rw [hw]; exact nofun)
    exact .inl ⟨attempted_others he, step_others he hst h⟩

/-- A waiting worker makes no attempt before it wakes. -/
theorem step_waiting {s s' : Sys} {e : Event} (hr : Ready s) (hw : s.worker = .waiting)
    (hne : e ≠ .wake) (h : s.step e = some s') : e.attempted = none ∧ s'.worker = .waiting := by
  by_cases he : e.byWorker = true
  · cases worker_next he h with
    | cleared _ _ => exact absurd rfl hne
    | popped body queue _ _ _ => exact absurd rfl hne
    | skipped body hw' _ => cases hw.symm.trans hw'
    | copied body hw' _ => cases hw.symm.trans hw'
    | retried result snap body i hw' _ => cases hw.symm.trans hw'
    | finished result snap body i hw' _ => cases hw.symm.trans hw'
  · have he := Bool.eq_false_of_not_eq_true he
    have hst : s.node.state.workerStarted = true := hr.started (by rw [hw]; exact nofun)
    exact ⟨attempted_others he, (step_others he hst h).trans hw⟩

/-! ## the bound -/

theorem maxValue_toInt : Int64.maxValue.toInt = 2 ^ 63 - 1 := by decide

theorem toInt_ofNat {m : Nat} (h : m < 2 ^ 63) : (Int64.ofNat m).toInt = m :=
  Int64.toInt_ofNat_of_lt h

theorem toInt_lt_max {x : Int64} (h : x ≠ Int64.maxValue) : x.toInt < 2 ^ 63 - 1 := by
  have hle := Int64.toInt_lt x
  have hne : x.toInt ≠ 2 ^ 63 - 1 := by
    rw [← maxValue_toInt]
    exact fun he => h (Int64.toInt_inj.mp he)
  omega

/-- Below the largest `int64` the bound is the retry count and one, and at least one. -/
theorem totalAttempts_toInt {retry : Int64} (h : retry ≠ Int64.maxValue) :
    (totalAttempts retry).toInt = max 1 (retry.toInt + 1) := by
  have hlt := toInt_lt_max h
  have hle := Int64.le_toInt retry
  have e : (1 : Int64).toInt = 1 := by decide
  have hadd : (retry + 1).toInt = retry.toInt + 1 := by
    rw [Int64.toInt_add, e]
    exact Int.bmod_eq_of_le (by omega) (by omega)
  unfold totalAttempts
  by_cases hone : 1 < retry + 1
  · rw [if_pos hone, hadd]
    rw [Int64.lt_iff_toInt_lt, hadd, e] at hone
    exact (max_eq_right hone.le).symm
  · rw [if_neg hone, e]
    rw [Int64.lt_iff_toInt_lt, hadd, e] at hone
    exact (max_eq_left (not_lt.mp hone)).symm

/-! ## runs -/

section
variable (snap : Snapshot) (body : Body) (outcomes : Nat → HttpPostResult)

/-- as many attempts as are to be made: up to the first success, and no more than the retry count and one -/
noncomputable def due : ℕ∞ := min (firstOk outcomes) (snap.httpRetryCount.toInt.toNat + 1 : ℕ)

/-- where the worker is after `m` attempts -/
noncomputable def workerAfter (m : Nat) : Worker :=
  open Classical in if (m : ℕ∞) < due snap outcomes then .posting snap body (Int64.ofNat m) else .waiting

variable {snap body outcomes}

/-- one more attempt, before the last one -/
theorem workerAfter_succ (h₀ : 0 ≤ snap.httpRetryCount.toInt)
    (hmax : snap.httpRetryCount ≠ Int64.maxValue) {m : Nat} (hm : (m : ℕ∞) < due snap outcomes) :
    ((m + 1 : ℕ) : ℕ∞) ≤ due snap outcomes ∧
    workerAfter snap body outcomes (m + 1) =
      if (outcomes m).ok = false ∧ Int64.ofNat m + 1 < totalAttempts snap.httpRetryCount then
        .posting snap body (Int64.ofNat m + 1)
      else .waiting := by
  have htotal := totalAttempts_toInt hmax
  have hlim := toInt_lt_max hmax
  obtain ⟨hok, hlt⟩ := lt_min_iff.mp hm
  rw [Nat.cast_lt] at hlt
  have hnext : Int64.ofNat m + 1 = Int64.ofNat (m + 1) := by rw [Int64.ofNat_add]; rfl
  have hcmp : Int64.ofNat m + 1 < totalAttempts snap.httpRetryCount ↔
      m + 1 < snap.httpRetryCount.toInt.toNat + 1 := by
    by_cases hm' : m + 1 < 2 ^ 63
    · rw [hnext, Int64.lt_iff_toInt_lt, htotal, toInt_ofNat hm']
      omega
    · omega
  have hdue : ((m + 1 : ℕ) : ℕ∞) < due snap outcomes ↔
      (outcomes m).ok = false ∧ Int64.ofNat m + 1 < totalAttempts snap.httpRetryCount := by
    rw [due, lt_min_iff, Nat.cast_lt, hcmp, lt_firstOk]
    refine and_congr_left fun _ => ⟨fun h => h m (Nat.lt_succ_self m), fun h i hi => ?_⟩
    rcases Nat.lt_succ_iff_lt_or_eq.mp hi with hi | rfl
    · exact lt_firstOk.mp hok i hi
    · exact h
  refine ⟨?_, ?_⟩
  · rw [Nat.cast_add_one]
    exact (ENat.add_one_le_iff (ENat.natCast_ne_top m)).mpr hm
  · rw [workerAfter, ← hnext]
    by_cases h : ((m + 1 : ℕ) : ℕ∞) < due snap outcomes
    · rw [if_pos h, if_pos (hdue.mp h)]
    · rw [if_neg h, if_neg (mt hdue.mpr h)]

/-- From the state after `m` attempts, any interleaving in which the worker does not wake again. -/
theorem run_posting (h₀ : 0 ≤ snap.httpRetryCount.toInt) (hmax : snap.httpRetryCount ≠ Int64.maxValue)
    (events : List Event) : ∀ {s s' : Sys} {m : Nat}, Inv s → (m : ℕ∞) ≤ due snap outcomes →
      s.worker = workerAfter snap body outcomes m → s.run events = some s' → Event.wake ∉ events →
      attempts events = (List.range' m (attempts events).length).map outcomes →
      ((m + (attempts events).length : ℕ) : ℕ∞) ≤ due snap outcomes ∧
        s'.worker = workerAfter snap body outcomes (m + (attempts events).length) := by
  induction events with
  | nil =>
    intro s s' m hi hm hw hrun _ _
    cases hrun
    exact ⟨hm, hw⟩
  | cons e events ih =>
    intro s s' m hi hm hw hrun hwake hout
    obtain ⟨t, ht, hrest⟩ := Option.bind_eq_some_iff.mp hrun
    have hi' := step_inv hi ht
    have hwake' := List.not_mem_of_not_mem_cons hwake
    have hne : e ≠ .wake := fun he => hwake (he ▸ List.mem_cons_self)
    have hquiet : e.attempted = none → t.worker = s.worker →
        ((m + (attempts (e :: events)).length : ℕ) : ℕ∞) ≤ due snap outcomes ∧
          s'.worker = workerAfter snap body outcomes (m + (attempts (e :: events)).length) := by
      intro he hsame
      have hcons : attempts (e :: events) = attempts events := List.filterMap_cons_none he
      rw [hcons] at hout ⊢
      exact ih hi' hm (hsame.trans hw) hrest hwake' hout
    by_cases hlt : (m : ℕ∞) < due snap outcomes
    · have hpost : s.worker = .posting snap body (Int64.ofNat m) := by rw [hw, workerAfter, if_pos hlt]
      rcases step_posting hi.ready hpost ht with ⟨he, hsame⟩ | ⟨result, rfl, hnext⟩
      · exact hquiet he hsame
      · have hcons : attempts (.attempt result :: events) = result :: attempts events :=
          List.filterMap_cons_some rfl
        rw [hcons, List.length_cons, List.range'_succ, List.map_cons, List.cons.injEq] at hout
        obtain ⟨hres, hout⟩ := hout
        obtain ⟨hle, hafter⟩ := @workerAfter_succ snap body outcomes h₀ hmax m hlt
        rw [hres, ← hafter] at hnext
        rw [hcons, List.length_cons, Nat.add_comm _ 1, ← Nat.add_assoc]
        exact ih hi' hle hnext hrest hwake' hout
    · have hwait : s.worker = .waiting := by rw [hw, workerAfter, if_neg hlt]
      obtain ⟨he, hsame⟩ := step_waiting hi.ready hwait hne ht
      exact hquiet he (hsame.trans hwait.symm)

end

/-- The sum for the bound is an `int64`, and whenever the worker has a body to post with this retry count,
then in every interleaving until it wakes again, for all outcomes of the attempts: it makes no more attempts
than are due, and it is posting exactly while one is still due. -/
structure Exact (httpRetryCount : Int64) : Prop where
  noOverflow : httpRetryCount.toBitVec.saddOverflow 1 = false
  attempts : ∀ (s s' : Sys) (snap : Snapshot) (body : Body) (outcomes : Nat → HttpPostResult)
    (events : List Event), Reachable s → s.worker = .posting snap body 0 →
    snap.httpRetryCount = httpRetryCount → s.run events = some s' → Event.wake ∉ events →
    attempts events = (List.range (attempts events).length).map outcomes →
    ((attempts events).length : ℕ∞) ≤ due snap outcomes ∧
      s'.worker = workerAfter snap body outcomes (attempts events).length

/-- For every retry count that validation accepts: the bound and the attempts are right exactly below the
largest `int64`. -/
theorem exact_iff (httpRetryCount : Int64)
    (h : (validateIntMin "http_retry_count" httpRetryCount 0).ok = true) :
    Exact httpRetryCount ↔ httpRetryCount ≠ Int64.maxValue := by
  have h₀ : 0 ≤ httpRetryCount.toInt := Int64.le_iff_toInt_le.mp (validateIntMin_ok.mp h)
  constructor
  · rintro hexact rfl
    exact absurd hexact.noOverflow (by decide)
  · intro hmax
    refine ⟨?_, ?_⟩
    · have hlt := toInt_lt_max hmax
      have e : (1 : BitVec 64).toInt = 1 := by decide
      rw [BitVec.saddOverflow, e, Int64.toInt_toBitVec, Bool.or_eq_false_iff, decide_eq_false_iff_not,
        decide_eq_false_iff_not]
      omega
    · rintro s s' snap body outcomes events hreach hw rfl hrun hwake hout
      have hpos : ((0 : ℕ) : ℕ∞) < due snap outcomes := by
        rw [due, lt_min_iff, lt_firstOk, Nat.cast_lt]
        exact ⟨nofun, Nat.succ_pos _⟩
      have hstart : s.worker = workerAfter snap body outcomes 0 := by
        rw [workerAfter, if_pos hpos]
        exact hw
      have hafter := run_posting h₀ hmax events hreach.inv hpos.le hstart hrun hwake
        (by rwa [← List.range_eq_range'])
      rwa [Nat.zero_add] at hafter

theorem exact_iff_three : Exact 3 ↔ (3 : Int64) ≠ Int64.maxValue := exact_iff 3 (by decide)

/-- The largest `int64` is accepted, and its sum with one overflows; with a sum that wraps around a body
that fails is posted once. -/
theorem exact_overflow :
    (validateIntMin "http_retry_count" Int64.maxValue 0).ok = true ∧ totalAttempts Int64.maxValue = 1 ∧
      ¬ Exact Int64.maxValue :=
  ⟨by decide, by decide, fun h => absurd h.noOverflow (by decide)⟩

end Sys

end VD.DetectionSenderNode
