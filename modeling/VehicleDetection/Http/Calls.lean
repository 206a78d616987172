import VehicleDetection.Base.Calls
import VehicleDetection.Base.Handles
import VehicleDetection.Http.Client

/-!
# The system calls of `http_post_json`

The same call of `http_post_json`, with every call it makes to the operating system. Descriptors are given out
by `socket`, and the address list by `getaddrinfo`.

* `Call`, `watch`      the calls, and what they do with the address list and the descriptors;
* `connectCalls`, `connectFirstCalls`  `connect_with_timeout` and the loop over the addresses;
* `sendCalls`, `recvCalls`, `httpPostJsonCalls`  the whole call;
* `httpPostJsonCalls_result`  it ends as `httpPostJson` does;
* `httpPostJsonCalls_leads`   what it holds at the end.
-/

set_option linter.unusedVariables false

namespace VD
open BStr Calls Calls.Prog Handles

inductive Handle where
  | addresses
  | descriptor (fd : Nat)
deriving DecidableEq

def Handle.isDescriptor : Handle → Bool
  | .addresses => false
  | .descriptor _ => true

/-- the calls that take or give a handle; `fcntl` to the last `recv` name the descriptor they are made for -/
inductive Call where
  | getaddrinfo (found : Bool)
  | freeaddrinfo
  | socket (fd : Option Nat)
  | fcntl (fd : Nat)
  | connect (fd : Nat)
  | select (fd : Nat)
  | getsockopt (fd : Nat)
  | setsockopt (fd : Nat)
  | send (fd : Nat)
  | recv (fd : Nat)
  | close (fd : Nat)
deriving DecidableEq

/-- `socket` and `connect` read the entry of the address list -/
def Call.acts : Call → List (Act Handle)
  | .getaddrinfo found => if found then [.acquire .addresses] else []
  | .freeaddrinfo => [.release .addresses]
  | .socket none => [.use .addresses]
  | .socket (some fd) => [.use .addresses, .acquire (.descriptor fd)]
  | .connect fd => [.use (.descriptor fd), .use .addresses]
  | .fcntl fd | .select fd | .getsockopt fd | .setsockopt fd | .send fd | .recv fd => [.use (.descriptor fd)]
  | .close fd => [.release (.descriptor fd)]

/-- at most one descriptor and one address list at a time -/
def watch (held : List Handle) (c : Call) : Option (List Handle) :=
  Steps.run (Handles.step Handle.isDescriptor) held c.acts

/-! ## the program -/

/-- how a program ends without a value: with an error, or blocked in a call that has not returned -/
inductive Stop where
  | failed (error : Bytes)
  | blocked
deriving DecidableEq

def Stop.isBlocked : Stop → Bool
  | .failed _ => false
  | .blocked => true

/-- `inProgress` is `EINPROGRESS` -/
inductive ConnectReturn where
  | connected
  | inProgress
  | failed (error : Bytes)
deriving DecidableEq

/-- the answers to the calls for one address; the texts are `strerror` -/
structure ConnectAnswers where
  socket : Except Bytes Nat
  getFlags : Except Bytes Unit
  setNonblock : Except Bytes Unit
  connect : ConnectReturn
  /-- `false`: the time is up -/
  select : Except Bytes Bool
  /-- an error if the call fails or the socket has one -/
  soError : Except Bytes Unit
  restoreFlags : Except Bytes Unit

/-- an error path of `connect_with_timeout` -/
def closeAndFail {α : Type} (sock : Nat) (error : Bytes) : Prog Call Stop α := do
  call (.close sock)
  fail (.failed error)

def connectCalls (a : ConnectAnswers) : Prog Call Stop Nat :=
  match a.socket with
  | .error e => do
    call (.socket none)
    fail (.failed (lit "socket(): " ++ e))
  | .ok sock => do
    call (.socket (some sock))
    call (.fcntl sock)
    match a.getFlags with
    | .error e => closeAndFail sock (lit "fcntl(O_NONBLOCK): " ++ e)
    | .ok _ =>
    call (.fcntl sock)
    match a.setNonblock with
    | .error e => closeAndFail sock (lit "fcntl(O_NONBLOCK): " ++ e)
    | .ok _ =>
    call (.connect sock)
    match a.connect with
    | .failed e => closeAndFail sock (lit "connect(): " ++ e)
    | _ =>
    call (.select sock)
    match a.select with
    | .error e => closeAndFail sock (lit "select(): " ++ e)
    | .ok false => closeAndFail sock (lit "connect timed out")
    | .ok true =>
    call (.getsockopt sock)
    match a.soError with
    | .error e => closeAndFail sock (lit "connect(): " ++ e)
    | .ok _ =>
    call (.fcntl sock)
    match a.restoreFlags with
    | .error e => closeAndFail sock (lit "fcntl(restore): " ++ e)
    | .ok _ =>
    call (.setsockopt sock)
    call (.setsockopt sock)
    value sock

def connectFirstCalls (lastError : Bytes) : List ConnectAnswers → Prog Call Stop Nat
  | [] => fail (.failed (if lastError = [] then lit "connect failed" else lastError))
  | a :: as => (connectCalls a).tryCatch fun
    | .failed e => connectFirstCalls e as
    | .blocked => fail .blocked

def sendCalls (fd : Nat) (data : Bytes) (sent : Nat) : List SendOutcome → Prog Call Stop Unit
  | [] => if sent < data.length then do
      call (.send fd)
      fail .blocked
    else value ()
  | o :: os => if sent < data.length then do
      call (.send fd)
      match o with
      | .returned 0 => fail (.failed (lit "send(): peer closed connection"))
      | .returned n => sendCalls fd data (sent + n) os
      | .interrupted => sendCalls fd data sent os
      | .failed e => fail (.failed (lit "send(): " ++ e))
    else value ()

def recvCalls (fd : Nat) (response : Bytes) : List RecvOutcome → Prog Call Stop Bytes
  | [] => do
    call (.recv fd)
    fail .blocked
  | o :: os => do
    call (.recv fd)
    match o with
    | .returned [] => value response
    | .returned bytes =>
      if (response ++ bytes).length > kMaxResponse then value (response ++ bytes)
      else recvCalls fd (response ++ bytes) os
    | .interrupted => recvCalls fd response os
    | .failed e => fail (.failed (lit "recv(): " ++ e))

/-- the answers to one call of `http_post_json` -/
structure PostAnswers where
  addresses : Except Bytes (List ConnectAnswers)
  sends : List SendOutcome
  recvs : List RecvOutcome

/-- up to the response; the address list is freed behind the loop, and `ScopedFd` closes the descriptor -/
def exchangeCalls (url : HttpUrl) (body : Bytes) (io : PostAnswers) : Prog Call Stop Bytes :=
  match io.addresses with
  | .error e => do
    call (.getaddrinfo false)
    fail (.failed (lit "getaddrinfo(): " ++ e))
  | .ok answers => do
    call (.getaddrinfo true)
    let sock ← (connectFirstCalls [] answers).guarded .freeaddrinfo Stop.isBlocked
    guarded (.close sock) Stop.isBlocked do
      sendCalls sock (buildRequest url body) 0 io.sends
      recvCalls sock [] io.recvs

/-- only a call that has not returned has no result -/
def httpPostJsonCalls (url : HttpUrl) (body : Bytes) (io : PostAnswers) : Prog Call Stop HttpPostResult :=
  Prog.tryCatch (do
    let response ← exchangeCalls url body io
    value (judgeResponse response)) fun
  | .failed e => value { error := e }
  | .blocked => fail .blocked

/-! ## the result -/

/-- the answers without the descriptors and the calls behind them -/
def ConnectAnswers.outcome (a : ConnectAnswers) : ConnectOutcome :=
  match a.socket, a.getFlags, a.setNonblock, a.connect, a.select, a.soError, a.restoreFlags with
  | .error e, _, _, _, _, _, _ => .socketFails e
  | _, .error e, _, _, _, _, _ => .nonblockFails e
  | _, _, .error e, _, _, _, _ => .nonblockFails e
  | _, _, _, .failed e, _, _, _ => .connectFails e
  | _, _, _, _, .error e, _, _ => .selectFails e
  | _, _, _, _, .ok false, _, _ => .timesOut
  | _, _, _, _, _, .error e, _ => .soError e
  | _, _, _, _, _, _, .error e => .restoreFails e
  | _, _, _, _, _, _, _ => .connected

def PostAnswers.io (a : PostAnswers) : PostIo where
  addresses := a.addresses.map (List.map ConnectAnswers.outcome)
  sends := a.sends
  recvs := a.recvs

/-- an end without the value -/
def ending {α : Type} (r : Except Stop α) : Except Stop Unit := r.map fun _ => ()

theorem connectCalls_result (a : ConnectAnswers) :
    ending (connectCalls a).result = (connectWithTimeout a.outcome).mapError Stop.failed := by
  obtain ⟨socket, getFlags, setNonblock, connect, select, soError, restoreFlags⟩ := a
  cases socket with
  | error e => rfl
  | ok sock =>
    cases getFlags with
    | error e => rfl
    | ok _ =>
      cases setNonblock with
      | error e => rfl
      | ok _ =>
        have rest : ∀ connect, (∀ e, connect ≠ ConnectReturn.failed e) →
            ending (connectCalls ⟨.ok sock, .ok (), .ok (), connect, select, soError, restoreFlags⟩).result =
              (connectWithTimeout (ConnectAnswers.outcome
                ⟨.ok sock, .ok (), .ok (), connect, select, soError, restoreFlags⟩)).mapError Stop.failed := by
          intro connect hc
          cases connect with
          | failed e => exact absurd rfl (hc e)
          | connected | inProgress =>
            cases select with
            | error e => rfl
            | ok ready =>
              cases ready with
              | false => rfl
              | true =>
                cases soError with
                | error e => rfl
                | ok _ =>
                  cases restoreFlags with
                  | error e => rfl
                  | ok _ => rfl
        cases connect with
        | failed e => rfl
        | connected => exact rest _ nofun
        | inProgress => exact rest _ nofun

theorem connectFirstCalls_result (as : List ConnectAnswers) : ∀ lastError,
    ending (connectFirstCalls lastError as).result =
      (connectFirst lastError (as.map ConnectAnswers.outcome)).mapError Stop.failed := by
  induction as with
  | nil => exact fun lastError => rfl
  | cons a as ih =>
    intro lastError
    have ha := connectCalls_result a
    rw [connectFirstCalls, List.map_cons, connectFirst]
    cases hw : connectWithTimeout a.outcome with
    | ok u =>
      rw [hw] at ha
      cases hr : (connectCalls a).result with
      | ok fd =>
        rw [tryCatch_ok hr, hr]
        rfl
      | error e =>
        rw [hr] at ha
        cases ha
    | error e =>
      rw [hw] at ha
      cases hr : (connectCalls a).result with
      | ok fd =>
        rw [hr] at ha
        cases ha
      | error e' =>
        rw [hr] at ha
        cases ha
        rw [tryCatch_error hr]
        exact ih e

/-- the end of a loop -/
def SendEnd.ending : SendEnd → Except Stop Unit
  | .complete => .ok ()
  | .failed e _ => .error (.failed e)
  | .pending _ => .error .blocked

def RecvEnd.ending : RecvEnd → Except Stop Bytes
  | .complete response => .ok response
  | .failed e _ => .error (.failed e)
  | .pending _ => .error .blocked

theorem sendCalls_result (fd : Nat) (data : Bytes) (os : List SendOutcome) : ∀ sent,
    (sendCalls fd data sent os).result = (sendAll data sent os).ending := by
  induction os with
  | nil =>
    intro sent
    rw [sendCalls, sendAll]
    split <;> rfl
  | cons o os ih =>
    intro sent
    unfold sendCalls sendAll
    by_cases hs : sent < data.length
    · rw [if_pos hs, if_pos hs]
      cases o with
      | returned n =>
        cases n with
        | zero => rfl
        | succ n => exact ih _
      | interrupted => exact ih _
      | failed e => rfl
    · rw [if_neg hs, if_neg hs]
      rfl

theorem recvCalls_result (fd : Nat) (os : List RecvOutcome) : ∀ response,
    (recvCalls fd response os).result = (recvLoop response os).ending := by
  induction os with
  | nil => exact fun response => rfl
  | cons o os ih =>
    intro response
    cases o with
    | returned bytes =>
      cases bytes with
      | nil => rfl
      | cons b bs =>
        rw [recvLoop_cons]
        show (Prog.andThen (call (.recv fd)) fun _ =>
          if (response ++ b :: bs).length > kMaxResponse then value (response ++ b :: bs)
          else recvCalls fd (response ++ b :: bs) os).result = _
        split
        · rfl
        · exact ih _
    | interrupted => exact ih response
    | failed e => rfl

def sentEnding : Option (Except Bytes Unit) → Except Stop Unit
  | none => .error .blocked
  | some (.error e) => .error (.failed e)
  | some (.ok u) => .ok u

def returned : Option HttpPostResult → Except Stop HttpPostResult
  | none => .error .blocked
  | some result => .ok result

theorem ending_bind {α β : Type} (r : Except Stop α) (x : Except Stop β) :
    (r.bind fun _ => x) = (ending r).bind fun _ => x := by
  cases r with
  | ok a => rfl
  | error e => rfl

theorem openAndSend_ending {url : HttpUrl} {body : Bytes} {io : PostIo} {outcomes : List ConnectOutcome}
    (h : io.addresses = .ok outcomes) : sentEnding (openAndSend url body io) =
      ((connectFirst [] outcomes).mapError Stop.failed).bind fun _ =>
        (sendAll (buildRequest url body) 0 io.sends).ending := by
  unfold openAndSend
  rw [h]
  cases hc : connectFirst [] outcomes with
  | error e => simp only [hc]; rfl
  | ok u =>
    simp only [hc]
    cases sendAll (buildRequest url body) 0 io.sends with
    | complete => rfl
    | failed e sent => rfl
    | pending sent => rfl

theorem exchangeCalls_result (url : HttpUrl) (body : Bytes) (a : PostAnswers) :
    (exchangeCalls url body a).result =
      (sentEnding (openAndSend url body a.io)).bind fun _ => (recvLoop [] a.io.recvs).ending := by
  obtain ⟨addresses, sends, recvs⟩ := a
  cases addresses with
  | error e => rfl
  | ok answers =>
    let use (sock : Nat) : Prog Call Stop Bytes := guarded (.close sock) Stop.isBlocked
      ((sendCalls sock (buildRequest url body) 0 sends).andThen fun _ => recvCalls sock [] recvs)
    have huse : ∀ sock, (use sock).result =
        (sendAll (buildRequest url body) 0 sends).ending.bind fun _ => (recvLoop [] recvs).ending := by
      intro sock
      rw [result_guarded, result_andThen, sendCalls_result, recvCalls_result]
    show (Prog.andThen (guarded .freeaddrinfo Stop.isBlocked (connectFirstCalls [] answers)) use).result = _
    rw [result_andThen, result_guarded, funext huse, ending_bind, connectFirstCalls_result,
      openAndSend_ending rfl]
    cases (connectFirst [] (answers.map ConnectAnswers.outcome)).mapError Stop.failed with
    | error e => rfl
    | ok u => rfl

/-- It ends as the call that only looks at the answers. -/
theorem httpPostJsonCalls_result (url : HttpUrl) (body : Bytes) (a : PostAnswers) :
    (httpPostJsonCalls url body a).result = returned (httpPostJson url body a.io) := by
  have hjudged : ((exchangeCalls url body a).andThen fun response =>
      (value (judgeResponse response) : Prog Call Stop HttpPostResult)).result =
      ((sentEnding (openAndSend url body a.io)).bind fun _ => (recvLoop [] a.io.recvs).ending).bind
        fun response => .ok (judgeResponse response) := by
    rw [result_andThen, exchangeCalls_result]
    rfl
  rw [httpPostJsonCalls, httpPostJson]
  cases ho : openAndSend url body a.io with
  | none =>
    rw [ho] at hjudged
    exact congrArg Prog.result (tryCatch_error hjudged _)
  | some r =>
    rw [ho] at hjudged
    cases r with
    | error e => exact congrArg Prog.result (tryCatch_error hjudged _)
    | ok u =>
      cases hr : recvLoop [] a.io.recvs with
      | complete response =>
        rw [hr] at hjudged
        exact (congrArg Prog.result (tryCatch_ok hjudged _)).trans hjudged
      | failed e received =>
        rw [hr] at hjudged
        exact congrArg Prog.result (tryCatch_error hjudged _)
      | pending received =>
        rw [hr] at hjudged
        exact congrArg Prog.result (tryCatch_error hjudged _)

/-! ## what is held -/

/-- a call for the connected descriptor, while the address list is held or not -/
theorem watch_uses {held : List Handle} {c : Call} (h : ∀ a ∈ c.acts, ∃ x ∈ held, a = .use x) :
    watch held c = some held := run_uses h

/-- behind `connect_with_timeout` a descriptor is open only if it has connected -/
def AfterConnect : Except Stop Nat → List Handle → Prop
  | .ok fd, held => held = [.descriptor fd, .addresses]
  | .error (.failed _), held => held = [.addresses]
  | .error .blocked, _ => False

theorem closeAndFail_leads (sock : Nat) (error : Bytes) :
    Leads watch [.descriptor sock, .addresses] (closeAndFail sock error : Prog Call Stop Nat) AfterConnect := by
  have hclose : watch [.descriptor sock, .addresses] (.close sock) = some [.addresses] := by
    simp [watch, Call.acts, Steps.run]
  have hend : AfterConnect (.error (.failed error)) [.addresses] := rfl
  exact .bind (.call hclose (.fail hend))

/-- the calls between `socket` and `close` -/
theorem watch_opened {sock : Nat} {c : Call}
    (h : ∀ a ∈ c.acts, a = .use (.descriptor sock) ∨ a = .use .addresses) :
    watch [.descriptor sock, .addresses] c = some [.descriptor sock, .addresses] := by
  refine watch_uses fun a ha => ?_
  rcases h a ha with h | h
  · exact ⟨_, List.mem_cons_self, h⟩
  · exact ⟨_, List.mem_cons_of_mem _ List.mem_cons_self, h⟩

theorem connectCalls_leads (a : ConnectAnswers) :
    Leads watch [.addresses] (connectCalls a) AfterConnect := by
  obtain ⟨socket, getFlags, setNonblock, connect, select, soError, restoreFlags⟩ := a
  cases socket with
  | error e =>
    have hend : AfterConnect (.error (.failed (lit "socket(): " ++ e))) [.addresses] := rfl
    exact .bind (.call (watch_uses (by simp [Call.acts])) (.fail hend))
  | ok sock =>
    have hopen : watch [.addresses] (.socket (some sock)) = some [.descriptor sock, .addresses] := by
      simp [watch, Call.acts, Steps.run, Handle.isDescriptor]
    refine .bind (.call hopen (.bind (.call (watch_opened (by simp [Call.acts])) ?_)))
    cases getFlags with
    | error e => exact closeAndFail_leads _ _
    | ok _ =>
      refine .bind (.call (watch_opened (by simp [Call.acts])) ?_)
      cases setNonblock with
      | error e => exact closeAndFail_leads _ _
      | ok _ =>
        refine .bind (.call (watch_opened (by simp [Call.acts])) ?_)
        cases connect with
        | failed e => exact closeAndFail_leads _ _
        | connected | inProgress =>
          refine .bind (.call (watch_opened (by simp [Call.acts])) ?_)
          cases select with
          | error e => exact closeAndFail_leads _ _
          | ok ready =>
            cases ready with
            | false => exact closeAndFail_leads _ _
            | true =>
              refine .bind (.call (watch_opened (by simp [Call.acts])) ?_)
              cases soError with
              | error e => exact closeAndFail_leads _ _
              | ok _ =>
                refine .bind (.call (watch_opened (by simp [Call.acts])) ?_)
                cases restoreFlags with
                | error e => exact closeAndFail_leads _ _
                | ok _ =>
                  have hend : AfterConnect (.ok sock) [.descriptor sock, .addresses] := rfl
                  exact .bind (.call (watch_opened (by simp [Call.acts]))
                    (.bind (.call (watch_opened (by simp [Call.acts])) (.value hend))))

theorem connectFirstCalls_leads (as : List ConnectAnswers) : ∀ lastError,
    Leads watch [.addresses] (connectFirstCalls lastError as) AfterConnect := by
  induction as with
  | nil =>
    intro lastError
    have hend : AfterConnect (.error (.failed (if lastError = [] then lit "connect failed" else lastError)))
      [.addresses] := rfl
    exact .fail hend
  | cons a as ih =>
    intro lastError
    refine .tryCatch ((connectCalls_leads a).imp fun r t h => ?_)
    cases r with
    | ok fd => exact h
    | error e =>
      cases e with
      | failed e =>
        cases h
        exact ih e
      | blocked => exact h.elim

/-- while the descriptor is used nothing else is held -/
def Using {α : Type} (fd : Nat) (_ : Except Stop α) (held : List Handle) : Prop := held = [.descriptor fd]

theorem watch_used {fd : Nat} {c : Call} (h : c.acts = [.use (.descriptor fd)]) :
    watch [.descriptor fd] c = some [.descriptor fd] := by
  refine watch_uses fun a ha => ⟨_, List.mem_cons_self, ?_⟩
  rw [h] at ha
  exact List.mem_singleton.mp ha

theorem sendCalls_leads (fd : Nat) (data : Bytes) (os : List SendOutcome) : ∀ sent,
    Leads watch [.descriptor fd] (sendCalls fd data sent os) (Using fd) := by
  induction os with
  | nil =>
    intro sent
    unfold sendCalls
    split
    · exact .bind (.call (watch_used rfl) (.fail (rfl : Using fd (.error .blocked) _)))
    · exact .value rfl
  | cons o os ih =>
    intro sent
    unfold sendCalls
    split
    · refine .bind (.call (watch_used rfl) ?_)
      cases o with
      | returned n =>
        cases n with
        | zero => exact .fail rfl
        | succ n => exact ih _
      | interrupted => exact ih _
      | failed e => exact .fail rfl
    · exact .value rfl

theorem recvCalls_leads (fd : Nat) (os : List RecvOutcome) : ∀ response,
    Leads watch [.descriptor fd] (recvCalls fd response os) (Using fd) := by
  induction os with
  | nil => exact fun response => .bind (.call (watch_used rfl) (.fail rfl))
  | cons o os ih =>
    intro response
    refine .bind (.call (watch_used rfl) ?_)
    cases o with
    | returned bytes =>
      cases bytes with
      | nil => exact .value rfl
      | cons b bs =>
        show Leads watch [.descriptor fd] (if (response ++ b :: bs).length > kMaxResponse
          then value (response ++ b :: bs) else recvCalls fd (response ++ b :: bs) os) (Using fd)
        split
        · exact .value rfl
        · exact ih _
    | interrupted => exact ih response
    | failed e => exact .fail rfl

/-- Nothing is held behind a call that has returned, and the one descriptor while it has not. -/
def AfterPost {α : Type} : Except Stop α → List Handle → Prop
  | .error .blocked, held => ∃ fd, held = [.descriptor fd]
  | _, held => held = []

theorem exchangeCalls_leads (url : HttpUrl) (body : Bytes) (a : PostAnswers) :
    Leads watch [] (exchangeCalls url body a) AfterPost := by
  obtain ⟨addresses, sends, recvs⟩ := a
  cases addresses with
  | error e => exact .bind (.call (t := []) rfl (.fail rfl))
  | ok answers =>
    have hgiven : watch [] (.getaddrinfo true) = some [.addresses] := by
      simp [watch, Call.acts, Steps.run, Handle.isDescriptor]
    refine .bind (.call hgiven (.bind (.guarded ((connectFirstCalls_leads answers []).imp fun r t h => ?_))))
    cases r with
    | error e =>
      cases e with
      | blocked => exact h.elim
      | failed e =>
        cases h
        exact ⟨[], rfl, rfl⟩
    | ok sock =>
      cases h
      have hfree : watch [.descriptor sock, .addresses] .freeaddrinfo = some [.descriptor sock] := by
        simp [watch, Call.acts, Steps.run]
      have hclose : watch [.descriptor sock] (.close sock) = some [] := by
        simp [watch, Call.acts, Steps.run]
      refine ⟨_, hfree, .guarded ?_⟩
      refine (?_ : Leads watch _ _ (Using sock)).imp fun r t h => ?_
      · refine .bind ((sendCalls_leads sock _ sends 0).imp fun r t h => ?_)
        cases h
        cases r with
        | error e => rfl
        | ok u => exact recvCalls_leads sock recvs []
      · cases h
        cases r with
        | ok response => exact ⟨[], hclose, rfl⟩
        | error e =>
          cases e with
          | failed e => exact ⟨[], hclose, rfl⟩
          | blocked => exact ⟨sock, rfl⟩

/-- what `http_post_json` holds -/
theorem httpPostJsonCalls_leads (url : HttpUrl) (body : Bytes) (a : PostAnswers) :
    Leads watch [] (httpPostJsonCalls url body a) AfterPost := by
  refine .tryCatch (.bind ((exchangeCalls_leads url body a).imp fun r t h => ?_))
  cases r with
  | ok response => exact .value h
  | error e =>
    cases e with
    | failed e => exact .value h
    | blocked => exact .fail h

end VD
