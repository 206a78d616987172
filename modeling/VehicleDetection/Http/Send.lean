import VehicleDetection.Base.Loop
import VehicleDetection.Http.Client

/-!
# `send_all`, call by call

`Client` takes the loop as a recursion on the results of `send`.  Here are the variables of the source, the
bytes of every call, and what the socket has been handed.

* `Socket`          what the calls of `send` return, whatever they are offered;
* `sendRound`       one round of the loop;
* `Handed`          the socket has been handed the first `sent` bytes of the buffer;
* `run_sendAll`     every run: what has been handed over before each round, and what the return value says;
* `sendAll_settles` the loop is left, or its calls are interrupted for ever;
* `sendAll_round`   the recursion of `Client` ends as the loop does;
* `httpPostJson_handed`  what the peer has been handed when `http_post_json` goes on, or returns.
-/

set_option linter.unusedVariables false

namespace VD
open BStr

/-- any sequence of results, each with a count that is no larger than the number of bytes offered -/
structure Socket where
  /-- the result of a call, by its number and the number of bytes that it offers -/
  send : Nat → Nat → SendOutcome
  le_offered : ∀ call offered n, send call offered = .returned n → n ≤ offered

/-- a count is cut at the number of bytes offered -/
def SendOutcome.cut (offered : Nat) : SendOutcome → SendOutcome
  | .returned n => .returned (min n offered)
  | .interrupted => .interrupted
  | .failed e => .failed e

theorem SendOutcome.cut_eq_returned {o : SendOutcome} {offered n : Nat}
    (h : o.cut offered = .returned n) : n ≤ offered := by
  cases o with
  | returned m =>
    cases h
    exact Nat.min_le_right m offered
  | interrupted => cases h
  | failed e => cases h

theorem SendOutcome.cut_of_le {o : SendOutcome} {offered : Nat} (h : ∀ n, o = .returned n → n ≤ offered) :
    o.cut offered = o := by
  cases o with
  | returned n => exact congrArg SendOutcome.returned (Nat.min_eq_left (h n rfl))
  | interrupted => rfl
  | failed e => rfl

/-- the socket with these results -/
def Socket.of (outcomes : Nat → SendOutcome) : Socket where
  send call offered := (outcomes call).cut offered
  le_offered _ _ _ := SendOutcome.cut_eq_returned

/-- where the counts fit, these are the results -/
theorem Socket.of_send {outcomes : Nat → SendOutcome} {call offered : Nat}
    (h : ∀ n, outcomes call = .returned n → n ≤ offered) :
    (Socket.of outcomes).send call offered = outcomes call := SendOutcome.cut_of_le h

/-- the variable of the loop; beside it what the socket has been handed, and the results so far -/
structure SendState where
  sent : Nat := 0
  wire : Bytes := []
  outcomes : List SendOutcome := []

/-- the return value, and `*error` -/
structure SendReturn where
  ok : Bool
  error : Bytes
deriving DecidableEq

/-- the `size - sent` bytes at `data + sent` -/
def offered (data : Bytes) (sent : Nat) : Bytes := (data.drop sent).take (data.length - sent)

section
variable (socket : Socket) (data error : Bytes)

/-- the result of the next call -/
def nextOutcome (s : SendState) : SendOutcome := socket.send s.outcomes.length (offered data s.sent).length

/-- One round of the loop.  `error` is what `*error` holds at the call. -/
def sendRound (s : SendState) : SendState ⊕ SendReturn :=
  if s.sent < data.length then
    match nextOutcome socket data s with
    | .interrupted => .inl { s with outcomes := s.outcomes ++ [.interrupted] }
    | .failed e => .inr ⟨false, lit "send(): " ++ e⟩
    | .returned 0 => .inr ⟨false, lit "send(): peer closed connection"⟩
    | .returned n => .inl {
        sent := s.sent + n
        wire := s.wire ++ (offered data s.sent).take n
        outcomes := s.outcomes ++ [.returned n] }
  else .inr ⟨true, error⟩

/-- the states before the rounds -/
def sendStates (n : Nat) : Option SendState := Loop.state (sendRound socket data error) {} n

/-- the socket has been handed the first `sent` bytes -/
structure Handed (s : SendState) : Prop where
  le : s.sent ≤ data.length
  wire : s.wire = data.take s.sent

/-- One round, by what it leads to. -/
inductive SendNext (s : SendState) : SendState ⊕ SendReturn → Prop
  | interrupted (hlt : s.sent < data.length) (ho : nextOutcome socket data s = .interrupted) :
      SendNext s (.inl { s with outcomes := s.outcomes ++ [.interrupted] })
  | failed (e : Bytes) (hlt : s.sent < data.length) (ho : nextOutcome socket data s = .failed e) :
      SendNext s (.inr ⟨false, lit "send(): " ++ e⟩)
  | closed (hlt : s.sent < data.length) (ho : nextOutcome socket data s = .returned 0) :
      SendNext s (.inr ⟨false, lit "send(): peer closed connection"⟩)
  | took (n : Nat) (hlt : s.sent < data.length) (ho : nextOutcome socket data s = .returned n) (hpos : 0 < n)
      (hle : n ≤ data.length - s.sent) :
      SendNext s (.inl {
        sent := s.sent + n
        wire := s.wire ++ (offered data s.sent).take n
        outcomes := s.outcomes ++ [.returned n] })
  | done (hle : data.length ≤ s.sent) : SendNext s (.inr ⟨true, error⟩)

end

theorem offered_eq (data : Bytes) (sent : Nat) : offered data sent = data.drop sent :=
  List.take_of_length_le (by rw [List.length_drop])

section
variable {socket : Socket} {data error : Bytes}

theorem nextOutcome_le {s : SendState} {n : Nat} (h : nextOutcome socket data s = .returned n) :
    n ≤ data.length - s.sent := by
  have hle := socket.le_offered _ _ n h
  rwa [offered_eq, List.length_drop] at hle

theorem sendRound_next {s : SendState} {next : SendState ⊕ SendReturn}
    (h : sendRound socket data error s = next) : SendNext socket data error s next := by
  subst h
  unfold sendRound
  split
  · rename_i hlt
    split
    · rename_i ho
      exact .interrupted hlt ho
    · rename_i e ho
      exact .failed e hlt ho
    · rename_i ho
      exact .closed hlt ho
    · rename_i n hpos ho
      exact .took n hlt ho (Nat.pos_of_ne_zero hpos) (nextOutcome_le ho)
  · rename_i hle
    exact .done (Nat.le_of_not_lt hle)

/-! ## what has been handed over -/

theorem Handed.init : Handed data {} := ⟨Nat.zero_le _, List.take_zero.symm⟩

/-- The next call offers what has not been handed over yet. -/
theorem Handed.rest {s : SendState} (h : Handed data s) : s.wire ++ offered data s.sent = data := by
  rw [h.wire, offered_eq, List.take_append_drop]

theorem Handed.round {s s' : SendState} (h : Handed data s)
    (hr : sendRound socket data error s = .inl s') : Handed data s' := by
  obtain ⟨hle, hwire⟩ := h
  cases sendRound_next hr with
  | interrupted _ _ => exact ⟨hle, hwire⟩
  | took n _ _ hpos hn =>
    refine ⟨by show s.sent + n ≤ data.length; omega, ?_⟩
    show s.wire ++ (offered data s.sent).take n = data.take (s.sent + n)
    rw [hwire, offered_eq, List.take_add]

/-- Nothing but the whole buffer has its length. -/
theorem Handed.whole_iff {s : SendState} (h : Handed data s) : s.wire = data ↔ data.length ≤ s.sent := by
  rw [h.wire, List.take_eq_self_iff]

/-- Before that a proper beginning has been handed over. -/
theorem Handed.proper {s : SendState} (h : Handed data s) (hlt : s.sent < data.length) :
    s.wire <+: data ∧ s.wire ≠ data :=
  ⟨⟨offered data s.sent, h.rest⟩, fun hw => absurd (h.whole_iff.mp hw) (Nat.not_le.mpr hlt)⟩

theorem handed {n : Nat} {s : SendState} (h : sendStates socket data error n = some s) : Handed data s :=
  Loop.state_inv (fun _ _ => Handed.round) Handed.init h

/-- A false return is the answer to the last call, and comes before the end of the buffer. -/
theorem sendRound_false {s : SendState} {r : SendReturn} (hr : sendRound socket data error s = .inr r)
    (hok : r.ok = false) : s.sent < data.length ∧
      (nextOutcome socket data s = .returned 0 ∧ r.error = lit "send(): peer closed connection" ∨
        ∃ e, nextOutcome socket data s = .failed e ∧ r.error = lit "send(): " ++ e) := by
  cases sendRound_next hr with
  | failed e hlt ho => exact ⟨hlt, .inr ⟨e, ho, rfl⟩⟩
  | closed hlt ho => exact ⟨hlt, .inl ⟨ho, rfl⟩⟩
  | done _ => cases hok

theorem sendRound_true_iff {s : SendState} :
    (∃ r, sendRound socket data error s = .inr r ∧ r.ok = true) ↔ data.length ≤ s.sent := by
  constructor
  · rintro ⟨r, hr, hok⟩
    cases sendRound_next hr with
    | failed e _ _ => cases hok
    | closed _ _ => cases hok
    | done hle => exact hle
  · intro hle
    exact ⟨⟨true, error⟩, if_neg (Nat.not_lt.mpr hle), rfl⟩

/-- For every buffer, all results of the calls and every content of `*error`: before each round the socket
has been handed the first `sent` bytes and the call offers the rest; the return value is true exactly when
that is the whole buffer; and where it is false, a proper beginning has been handed over and `*error` is the
text for the last result. -/
theorem run_sendAll (socket : Socket) (data error : Bytes) :
    (∀ n s, sendStates socket data error n = some s →
      s.sent ≤ data.length ∧ s.wire = data.take s.sent ∧ s.wire ++ offered data s.sent = data) ∧
    (∀ n s, sendStates socket data error n = some s →
      ((∃ r, sendRound socket data error s = .inr r ∧ r.ok = true) ↔ s.wire = data)) ∧
    ∀ n s r, sendStates socket data error n = some s → sendRound socket data error s = .inr r →
      r.ok = false → s.wire <+: data ∧ s.wire ≠ data ∧
        (nextOutcome socket data s = .returned 0 ∧ r.error = lit "send(): peer closed connection" ∨
          ∃ e, nextOutcome socket data s = .failed e ∧ r.error = lit "send(): " ++ e) := by
  refine ⟨fun n s h => ?_, fun n s h => ?_, fun n s r h hr hok => ?_⟩
  · have hs := handed h
    exact ⟨hs.le, hs.wire, hs.rest⟩
  · rw [sendRound_true_iff, (handed h).whole_iff]
  · obtain ⟨hlt, herror⟩ := sendRound_false hr hok
    obtain ⟨hbegun, hpart⟩ := (handed h).proper hlt
    exact ⟨hbegun, hpart, herror⟩

example : ((sendStates (.of fun call => [.interrupted, .returned 3, .returned 2].getD call .interrupted)
    (lit "hello") [] 3).map SendState.wire) = some (lit "hello") := by decide

/-! ## the end of the loop -/

/-- Each round that takes bytes leaves fewer of them. -/
theorem sent_round {s s' : SendState} (h : Handed data s)
    (hr : sendRound socket data error s = .inl s') :
    data.length - s'.sent ≤ data.length - s.sent ∧
      (data.length - s'.sent = data.length - s.sent → nextOutcome socket data s = .interrupted) := by
  cases sendRound_next hr with
  | interrupted _ ho => exact ⟨le_rfl, fun _ => ho⟩
  | took n hlt _ hpos hn =>
    show data.length - (s.sent + n) ≤ _ ∧ (data.length - (s.sent + n) = _ → _)
    exact ⟨by omega, fun he => absurd he (by omega)⟩

/-- The loop is left, or from some round on every call is interrupted. -/
theorem sendAll_settles (socket : Socket) (data error : Bytes) :
    (∃ n s r, sendStates socket data error n = some s ∧ sendRound socket data error s = .inr r) ∨
      ∃ run : Nat → SendState, (∀ n, sendStates socket data error n = some (run n)) ∧
        ∃ n, ∀ m, n ≤ m → nextOutcome socket data (run m) = .interrupted := by
  rcases Loop.ends_or_settles (f := fun s => data.length - s.sent) (fun _ _ => Handed.round)
    (fun s t hs hr => (sent_round hs hr).1) Handed.init with hend | ⟨run, hrun, n, hn⟩
  · exact .inl hend
  · refine .inr ⟨run, hrun, n, fun m hm => ?_⟩
    obtain ⟨s, hs, hr⟩ := Loop.state_succ.mp (hrun (m + 1))
    obtain rfl : s = run m := Option.some.inj (hs.symm.trans (hrun m))
    exact (sent_round (handed hs) hr).2 ((hn (m + 1) (Nat.le_succ_of_le hm)).symm.trans (hn m hm))

/-! ## against the recursion -/

theorem sendAll_interrupted {sent : Nat} (hlt : sent < data.length) (os : List SendOutcome) :
    sendAll data sent (.interrupted :: os) = sendAll data sent os := if_pos hlt

theorem sendAll_returned {sent n : Nat} (hlt : sent < data.length) (hpos : 0 < n) (os : List SendOutcome) :
    sendAll data sent (.returned n :: os) = sendAll data (sent + n) os := by
  obtain ⟨k, rfl⟩ := Nat.exists_eq_succ_of_ne_zero hpos.ne'
  exact if_pos hlt

/-- On the results so far the recursion is where the loop is. -/
theorem sendAll_states {n : Nat} {s : SendState} (h : sendStates socket data error n = some s) :
    ∀ rest, sendAll data 0 (s.outcomes ++ rest) = sendAll data s.sent rest := by
  refine Loop.state_inv (P := fun s => ∀ rest, sendAll data 0 (s.outcomes ++ rest) =
    sendAll data s.sent rest) ?_ (fun rest => rfl) h
  intro s s' hs hr rest
  cases sendRound_next hr with
  | interrupted hlt _ =>
    show sendAll data 0 (s.outcomes ++ [.interrupted] ++ rest) = sendAll data s.sent rest
    rw [List.append_assoc, hs]
    exact sendAll_interrupted hlt rest
  | took n hlt _ hpos _ =>
    show sendAll data 0 (s.outcomes ++ [.returned n] ++ rest) = sendAll data (s.sent + n) rest
    rw [List.append_assoc, hs]
    exact sendAll_returned hlt hpos rest

/-- how the recursion ends with this return value -/
def SendReturn.ending (r : SendReturn) (sent : Nat) : SendEnd :=
  if r.ok then .complete else .failed r.error sent

/-- The recursion ends as the loop does. -/
theorem sendAll_round {n : Nat} {s : SendState} {r : SendReturn}
    (h : sendStates socket data error n = some s) (hr : sendRound socket data error s = .inr r)
    (rest : List SendOutcome) :
    sendAll data 0 (s.outcomes ++ nextOutcome socket data s :: rest) = r.ending s.sent := by
  rw [sendAll_states h]
  cases sendRound_next hr with
  | failed e hlt ho =>
    rw [ho]
    exact if_pos hlt
  | closed hlt ho =>
    rw [ho]
    exact if_pos hlt
  | done hle => exact if_neg (Nat.not_lt.mpr hle)

/-! ## the call -/

/-- A call whose results of `send` are those of the loop goes on exactly when the peer has been handed the
whole request; otherwise it returns the error of the loop, and the peer has a proper beginning. -/
theorem httpPostJson_handed {url : HttpUrl} {body : Bytes} {io : PostIo} {outcomes : List ConnectOutcome}
    (haddr : io.addresses = .ok outcomes) (hconn : connectFirst [] outcomes = .ok ()) {n : Nat}
    {s : SendState} {r : SendReturn} {rest : List SendOutcome}
    (h : sendStates socket (buildRequest url body) [] n = some s)
    (hr : sendRound socket (buildRequest url body) [] s = .inr r)
    (hsends : io.sends = s.outcomes ++ nextOutcome socket (buildRequest url body) s :: rest) :
    (r.ok = true → s.wire = buildRequest url body ∧ openAndSend url body io = some (.ok ())) ∧
    (r.ok = false → s.wire <+: buildRequest url body ∧ s.wire ≠ buildRequest url body ∧
      httpPostJson url body io = some { error := r.error }) := by
  have hs := handed h
  have hend := sendAll_round h hr rest
  rw [← hsends] at hend
  constructor
  · intro hok
    refine ⟨hs.whole_iff.mpr (sendRound_true_iff.mp ⟨r, hr, hok⟩), ?_⟩
    rw [SendReturn.ending, if_pos hok] at hend
    simp only [openAndSend, haddr, hconn, hend]
  · intro hok
    obtain ⟨hbegun, hpart⟩ := hs.proper (sendRound_false hr hok).1
    refine ⟨hbegun, hpart, ?_⟩
    rw [SendReturn.ending, hok] at hend
    have hopen : openAndSend url body io = some (.error r.error) := by
      simp only [openAndSend, haddr, hconn, hend]
      rfl
    rw [httpPostJson, hopen]

end

end VD
