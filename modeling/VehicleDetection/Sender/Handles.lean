import VehicleDetection.Http.Calls
import VehicleDetection.Sender.Worker

/-!
# The descriptors of the worker

`http_worker_loop` with the system calls of its posts, over all bodies that it takes from the queue.

* `postLoopCalls`, `postBodyCalls`, `workerCalls`  the loop over the attempts, one body, all bodies;
* `workerCalls_returns`  it goes on as `postBody` says;
* `handles_returned`     every handle is given back, and one is held at a time.
-/

set_option linter.unusedVariables false

namespace VD.DetectionSenderNode
open BStr Calls Calls.Prog Handles

/-- `result` is the one of the attempt before -/
def postLoopCalls (url : HttpUrl) (body : Bytes) (io : Nat → PostAnswers) (result : HttpPostResult) :
    Nat → Nat → Prog Call Stop HttpPostResult
  | 0, _ => value result
  | remaining + 1, i => do
    let result ← httpPostJsonCalls url body (io i)
    if result.ok then value result else postLoopCalls url body io result remaining (i + 1)

/-- a body with the snapshot that the worker has copied for it, and the answers to its attempts -/
structure Taken where
  snap : Snapshot
  body : Bytes
  answers : Nat → PostAnswers

def postBodyCalls (t : Taken) : Prog Call Stop Unit :=
  if ¬ sendModeUsesHttp t.snap.sendMode ∨ ¬ t.snap.httpUrlValid then value ()
  else do
    let _ ← postLoopCalls t.snap.httpUrl t.body t.answers {} (totalAttempts t.snap.httpRetryCount).toInt.toNat 0
    value ()

/-- all bodies of the worker, one after another -/
def workerCalls (taken : List Taken) : Prog Call Stop Unit := each postBodyCalls taken

/-- the results of its attempts -/
def Taken.results (t : Taken) : List (Option HttpPostResult) := postBody t.snap t.body fun i => (t.answers i).io

/-! ## how far it goes -/

theorem postLoopCalls_result (url : HttpUrl) (body : Bytes) (io : Nat → PostAnswers) (n : Nat) : ∀ result i,
    (postLoopCalls url body io result n i).result =
      returned ((postLoop url body (fun i => (io i).io) n i).getLastD (some result)) := by
  induction n with
  | zero => exact fun result i => rfl
  | succ n ih =>
    intro result i
    have hp := httpPostJsonCalls_result url body (io i)
    rw [postLoop]
    show (Prog.andThen (httpPostJsonCalls url body (io i)) _).result = _
    rw [result_andThen, hp]
    cases httpPostJson url body (io i).io with
    | none => rfl
    | some r =>
      rw [List.getLastD_cons]
      show (if r.ok then value r else postLoopCalls url body io r n (i + 1)).result = _
      split
      · rfl
      · exact ih r (i + 1)

/-- An attempt that does not return is the last one. -/
theorem none_mem_postLoop (url : HttpUrl) (body : Bytes) (io : Nat → PostIo) (n : Nat) : ∀ i result,
    none ∈ postLoop url body io n i ↔ (postLoop url body io n i).getLastD (some result) = none := by
  induction n with
  | zero => exact fun i result => iff_of_false List.not_mem_nil (Option.some_ne_none result)
  | succ n ih =>
    intro i result
    rw [postLoop]
    cases httpPostJson url body (io i) with
    | none => exact iff_of_true List.mem_cons_self rfl
    | some r =>
      rw [List.getLastD_cons, List.mem_cons, or_iff_right (Option.some_ne_none r).symm]
      split
      · exact iff_of_false List.not_mem_nil (Option.some_ne_none r)
      · exact ih (i + 1) r

theorem postBodyCalls_result (t : Taken) :
    (postBodyCalls t).result = if none ∈ t.results then .error .blocked else .ok () := by
  unfold postBodyCalls Taken.results postBody
  split
  · rfl
  · show (Prog.andThen (postLoopCalls _ _ _ _ _ _) _).result = _
    rw [result_andThen, postLoopCalls_result]
    simp only [none_mem_postLoop _ _ _ _ 0 {}]
    cases hl : (postLoop t.snap.httpUrl t.body (fun i => (t.answers i).io)
        (totalAttempts t.snap.httpRetryCount).toInt.toNat 0).getLastD (some {}) with
    | none => rfl
    | some r => rfl

/-- The worker comes to the end of its bodies unless an attempt does not return. -/
theorem workerCalls_returns (taken : List Taken) :
    (workerCalls taken).result = if ∃ t ∈ taken, none ∈ t.results then .error .blocked else .ok () := by
  induction taken with
  | nil => rfl
  | cons t taken ih =>
    show (Prog.andThen (postBodyCalls t) fun _ => workerCalls taken).result = _
    rw [result_andThen, postBodyCalls_result, ih]
    simp only [List.mem_cons, exists_eq_or_imp]
    by_cases ht : none ∈ t.results
    · rw [if_pos ht, if_pos (Or.inl ht)]
      rfl
    · rw [if_neg ht]
      simp only [ht, false_or]
      rfl

/-! ## what it holds -/

theorem postLoopCalls_leads (url : HttpUrl) (body : Bytes) (io : Nat → PostAnswers) (n : Nat) : ∀ result i,
    Leads watch [] (postLoopCalls url body io result n i) AfterPost := by
  induction n with
  | zero => exact fun result i => .value rfl
  | succ n ih =>
    intro result i
    refine .bind ((httpPostJsonCalls_leads url body (io i)).imp fun r t h => ?_)
    cases r with
    | error e => cases e <;> exact h
    | ok r =>
      cases h
      show Leads watch [] (if r.ok then value r else postLoopCalls url body io r n (i + 1)) AfterPost
      split
      · exact .value rfl
      · exact ih r (i + 1)

theorem postBodyCalls_leads (t : Taken) : Leads watch [] (postBodyCalls t) AfterPost := by
  unfold postBodyCalls
  split
  · exact .value rfl
  · refine .bind ((postLoopCalls_leads _ _ _ _ _ _).imp fun r t h => ?_)
    cases r with
    | error e => cases e <;> exact h
    | ok r =>
      cases h
      exact .value rfl

theorem workerCalls_leads (taken : List Taken) : Leads watch [] (workerCalls taken) AfterPost := by
  refine .each (fun t => (postBodyCalls_leads t).imp fun r held h => ?_) rfl taken
  cases r with
  | ok u => exact h
  | error e => exact h

/-- how often a handle is acquired in some calls, and how often it is given back -/
def acquired (h : Handle) (calls : List Call) : Nat := (calls.flatMap Call.acts).count (.acquire h)
def released (h : Handle) (calls : List Call) : Nat := (calls.flatMap Call.acts).count (.release h)

/-- **Handles.** In the whole life of the worker, whatever it is answered: every call is made for a handle that
is held, and at any time one descriptor is open at most. It comes to the end of its bodies exactly when no
attempt fails to return, and then every handle has been given back as often as it has been acquired; where it
is held up only the descriptor of that attempt is open. -/
theorem handles_returned (taken : List Taken) :
    let p := workerCalls taken
    (∀ before, before <+: p.calls → ∃ held, Steps.run watch [] before = some held ∧
      (held.map Handle.isDescriptor).count true ≤ 1) ∧
    ((∀ t ∈ taken, none ∉ t.results) → p.result = .ok () ∧ ∀ h, acquired h p.calls = released h p.calls) ∧
    ((∃ t ∈ taken, none ∈ t.results) → p.result = .error .blocked ∧ ∃ fd, ∀ h,
      acquired h p.calls = released h p.calls + if h = .descriptor fd then 1 else 0) := by
  intro p
  have hleads : Leads watch [] p AfterPost := workerCalls_leads taken
  have hend : p.result = _ := workerCalls_returns taken
  have hnone : (([] : List Handle).map Handle.isDescriptor).Nodup := List.nodup_nil
  have hkinds : ∀ {before held}, Steps.run watch [] before = some held →
      (held.map Handle.isDescriptor).Nodup := fun h => run_kinds hnone (Steps.run_flatMap.mp h)
  have hbalance : ∀ {held}, Steps.run watch [] p.calls = some held → ∀ h,
      acquired h p.calls = released h p.calls + held.count h := by
    intro held hrun h
    exact (Nat.add_zero _).symm.trans (run_balance h (Steps.run_flatMap.mp hrun))
  refine ⟨fun before hb => ?_, ?_⟩
  · obtain ⟨held, hrun⟩ := hleads.before hb
    exact ⟨held, hrun, List.nodup_iff_count_le_one.mp (hkinds hrun) true⟩
  obtain ⟨held, hrun, hheld⟩ := hleads
  refine ⟨fun hall => ?_, fun hsome => ?_⟩
  · rw [if_neg (by rintro ⟨t, ht, hn⟩; exact hall t ht hn)] at hend
    rw [hend] at hheld
    cases hheld
    exact ⟨hend, fun h => hbalance hrun h⟩
  · rw [if_pos hsome] at hend
    rw [hend] at hheld
    obtain ⟨fd, rfl⟩ := hheld
    refine ⟨hend, fd, fun h => ?_⟩
    rw [hbalance hrun h]
    by_cases he : h = .descriptor fd
    · rw [if_pos he, he, List.count_singleton_self]
    · rw [if_neg he, List.count_eq_zero.mpr (fun hm => he (List.mem_singleton.mp hm))]

end VD.DetectionSenderNode
