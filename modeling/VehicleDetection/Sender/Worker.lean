import VehicleDetection.Http.Client
import VehicleDetection.Sender.Run

/-!
# The retry loop of `http_worker_loop`

What the worker does with one body it has taken from the queue.

* `totalAttempts`, `postLoop`, `postBody`  the loop; its value lists the result of every attempt;
* `acknowledged`   an attempt that has received a complete 2xx status line: it is ok, and the last
                   one, if the response then ends by a close or the size cut; it has failed, and the
                   body is posted again, if a `recv` fails first.
-/

set_option linter.unusedVariables false

namespace VD
open BStr

namespace DetectionSenderNode

/-- `std::max<std::int64_t>(1, http_retry_count + 1)` -/
def totalAttempts (httpRetryCount : Int64) : Int64 :=
  if 1 < httpRetryCount + 1 then httpRetryCount + 1 else 1

/-- `remaining` attempts from attempt `i` on; `io i` is what attempt `i` meets.  An attempt that is
still blocked (`none`) is the last in the list. -/
def postLoop (url : HttpUrl) (body : Bytes) (io : Nat → PostIo) :
    Nat → Nat → List (Option HttpPostResult)
  | 0, _ => []
  | remaining + 1, i =>
    match httpPostJson url body (io i) with
    | none => [none]
    | some result => some result :: if result.ok then [] else postLoop url body io remaining (i + 1)

/-- one body, with the snapshot the worker has copied -/
def postBody (snap : Snapshot) (body : Bytes) (io : Nat → PostIo) : List (Option HttpPostResult) :=
  if ¬ sendModeUsesHttp snap.sendMode ∨ ¬ snap.httpUrlValid then []
  else postLoop snap.httpUrl body io (totalAttempts snap.httpRetryCount).toInt.toNat 0

/-! ## the loop -/

theorem postLoop_get (url : HttpUrl) (body : Bytes) (io : Nat → PostIo) (n : Nat) :
    ∀ i k r, (postLoop url body io n i)[k]? = some r → r = httpPostJson url body (io (i + k)) := by
  induction n with
  | zero => intro i k r h; simp [postLoop] at h
  | succ n ih =>
    intro i k r h
    rw [postLoop] at h
    cases hp : httpPostJson url body (io i) with
    | none =>
      rw [hp] at h
      cases k with
      | zero => rw [Nat.add_zero, hp]; exact (Option.some.inj h).symm
      | succ k => simp at h
    | some result =>
      rw [hp] at h
      cases k with
      | zero => rw [Nat.add_zero, hp]; exact (Option.some.inj h).symm
      | succ k =>
        rw [List.getElem?_cons_succ] at h
        split at h
        · simp at h
        · rw [show i + (k + 1) = i + 1 + k by omega]
          exact ih (i + 1) k r h

/-- there is a next attempt exactly when one is left and this one has failed -/
theorem postLoop_next (url : HttpUrl) (body : Bytes) (io : Nat → PostIo) (n : Nat) :
    ∀ i k, k < (postLoop url body io n i).length →
      (k + 1 < (postLoop url body io n i).length ↔
        k + 1 < n ∧ ∃ r, httpPostJson url body (io (i + k)) = some r ∧ r.ok = false) := by
  induction n with
  | zero => intro i k h; simp [postLoop] at h
  | succ n ih =>
    intro i k h
    rw [postLoop] at h ⊢
    cases hp : httpPostJson url body (io i) with
    | none =>
      rw [hp] at h
      have hk : k = 0 := by simpa using h
      subst hk
      simp [hp]
    | some result =>
      rw [hp] at h
      cases hok : result.ok with
      | true =>
        have hk : k = 0 := by simpa [hok] using h
        subst hk
        simp [hp, hok]
      | false =>
        simp only [hok, Bool.false_eq_true, if_false, List.length_cons] at h ⊢
        cases k with
        | zero =>
          have hpos : 0 < (postLoop url body io n (i + 1)).length ↔ 0 < n := by
            cases n with
            | zero => simp [postLoop]
            | succ n => rw [postLoop]; split <;> simp
          show _ ↔ 0 + 1 < n + 1 ∧ ∃ r, httpPostJson url body (io i) = some r ∧ r.ok = false
          rw [hp]
          constructor
          · intro h'
            have : 0 < n := hpos.mp (by omega)
            exact ⟨by omega, result, rfl, hok⟩
          · rintro ⟨h', -⟩
            have := hpos.mpr (by omega)
            omega
        | succ k =>
          have hih := ih (i + 1) k (by omega)
          rw [show i + (k + 1) = i + 1 + k by omega, Nat.add_lt_add_iff_right, hih,
            Nat.add_lt_add_iff_right]

/-! ## acknowledged bodies -/

theorem postBody_eq {snap : Snapshot} {body : Bytes} {io : Nat → PostIo} {k : Nat}
    (hk : k < (postBody snap body io).length) :
    postBody snap body io
      = postLoop snap.httpUrl body io (totalAttempts snap.httpRetryCount).toInt.toNat 0 := by
  unfold postBody at hk ⊢
  split
  · rename_i h
    rw [if_pos h] at hk
    exact absurd hk (Nat.not_lt_zero k)
  · rfl

/-- **Acknowledged bodies.**  Let an attempt of any body have sent its whole request and received, in
some first calls of `recv`, a complete 2xx status line.  If the response then ends by a close or the
size cut, the attempt is ok and the body is not posted again.  If a `recv` fails first, the attempt
has failed, and the body is posted again while attempts remain. -/
theorem acknowledged (snap : Snapshot) (body : Bytes) (io : Nat → PostIo) (k calls code : Nat)
    (hk : k < (postBody snap body io).length)
    (hsent : openAndSend snap.httpUrl body (io k) = some (.ok ()))
    (hline : StatusLine (recvLoop [] ((io k).recvs.take calls)).received code)
    (h₁ : 200 ≤ code) (h₂ : code < 300) :
    (∀ response, recvLoop [] (io k).recvs = .complete response →
      (postBody snap body io)[k]? = some (some { ok := true, statusCode := code }) ∧
        (postBody snap body io).length = k + 1) ∧
    (∀ e received, recvLoop [] (io k).recvs = .failed e received →
      (postBody snap body io)[k]? = some (some { error := e }) ∧
        (k + 1 < (totalAttempts snap.httpRetryCount).toInt.toNat →
          k + 1 < (postBody snap body io).length)) := by
  have hpost := httpPostJson_sent hsent
  have hfull := hline.extend (recvLoop_take (io k).recvs [] calls)
  have hloop := postBody_eq hk
  rw [hloop] at hk ⊢
  have hget := postLoop_get snap.httpUrl body io _ 0 k _ (List.getElem?_eq_getElem hk)
  have hnext := postLoop_next snap.httpUrl body io _ 0 k hk
  rw [Nat.zero_add] at hget hnext
  constructor
  · intro response hr
    rw [hr] at hpost hfull
    have hok : httpPostJson snap.httpUrl body (io k) = some { ok := true, statusCode := code } := by
      rw [hpost]
      exact congrArg some (judgeResponse_ok hfull h₁ h₂)
    refine ⟨by rw [List.getElem?_eq_getElem hk, hget, hok], ?_⟩
    -- a next attempt would need this one to have failed
    have hlast : ¬ k + 1 < (postLoop snap.httpUrl body io
        (totalAttempts snap.httpRetryCount).toInt.toNat 0).length := by
      intro h
      obtain ⟨-, r, hr', hf⟩ := hnext.mp h
      rw [hok] at hr'
      cases hr'
      cases hf
    omega
  · intro e received hr
    rw [hr] at hpost
    refine ⟨by rw [List.getElem?_eq_getElem hk, hget, hpost], fun ht => ?_⟩
    exact hnext.mpr ⟨ht, _, hpost, rfl⟩

/-- a sender in mode `http` with one retry -/
def retrying : Snapshot :=
  { defaultNode.state.snapshot with sendMode := lit "http", httpRetryCount := 1 }

/-- every attempt connects, sends all and meets these results of `recv` -/
def answering (recvs : List RecvOutcome) : PostIo where
  addresses := .ok [.connected]
  sends := [.returned (buildRequest retrying.httpUrl []).length]
  recvs := recvs

def created : Bytes := lit "HTTP/1.1 201 Created" ++ crlf ++ crlf

theorem created_statusLine : StatusLine created 201 :=
  ⟨lit "1.1", lit " Created", crlf, by decide, by decide, by decide, by decide, by decide, by decide⟩

def closedByPeer : PostIo := answering [.returned created, .returned []]

/-- the peer keeps the connection open until `recv` times out -/
def keptOpen : PostIo := answering [.returned created, .failed (lit "Resource temporarily unavailable")]

/-- a connection that is closed, and one that is not -/
theorem acknowledged_closed :
    ((postBody retrying [] fun _ => closedByPeer)[0]? = some (some { ok := true, statusCode := 201 }) ∧
      (postBody retrying [] fun _ => closedByPeer).length = 1) ∧
    (postBody retrying [] fun _ => keptOpen)[0]? =
        some (some { error := lit "recv(): Resource temporarily unavailable" }) ∧
      1 < (postBody retrying [] fun _ => keptOpen).length := by
  constructor
  · exact (acknowledged retrying [] (fun _ => closedByPeer) 0 1 201
      (by decide +kernel) (by decide +kernel) created_statusLine (by decide) (by decide)).1 created rfl
  · obtain ⟨hget, hnext⟩ := (acknowledged retrying [] (fun _ => keptOpen) 0 1 201
      (by decide +kernel) (by decide +kernel) created_statusLine (by decide) (by decide)).2 _ created rfl
    exact ⟨hget, hnext (by decide +kernel)⟩

/-- The peer answers 201 and keeps the connection open: both attempts are reported as failed, and the
body is posted twice. -/
theorem acknowledged_reposted :
    StatusLine (recvLoop [] (keptOpen.recvs.take 1)).received 201 ∧
      postBody retrying [] (fun _ => keptOpen) =
        [some { error := lit "recv(): Resource temporarily unavailable" },
          some { error := lit "recv(): Resource temporarily unavailable" }] :=
  ⟨created_statusLine, by decide +kernel⟩

end DetectionSenderNode

end VD
