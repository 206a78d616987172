import VehicleDetection.Http.Url

/-!
# `http_post_json`

One POST over one socket.  What the operating system answers is data: the address list, the
result of each `connect`, and the results of the `send` and `recv` calls in order (`PostIo`).

* `buildRequest`     the request text, header by header;
* `sendAll`          the send loop;
* `recvLoop`         the receive loop: it ends by an orderly close, by an error or by the 64 KiB cut;
* `parseStatusLine`  the status code (-1 when the first line has none);
* `statusToken`      the text that it is read from;
* `httpPostJson`     the whole call (`none`: the answers run out, the call is still blocked).
-/

set_option linter.unusedVariables false

namespace VD
open BStr

structure HttpPostResult where
  ok : Bool := false
  statusCode : Int := -1
  error : Bytes := []
deriving DecidableEq

/-! ## connecting -/

/-- where `connect_with_timeout` ends; the texts are `strerror` -/
inductive ConnectOutcome where
  | connected
  | socketFails (error : Bytes)
  | nonblockFails (error : Bytes)
  | connectFails (error : Bytes)
  | timesOut
  | selectFails (error : Bytes)
  | soError (error : Bytes)
  | restoreFails (error : Bytes)
deriving DecidableEq

def connectWithTimeout : ConnectOutcome → Except Bytes Unit
  | .connected => .ok ()
  | .socketFails e => .error (lit "socket(): " ++ e)
  | .nonblockFails e => .error (lit "fcntl(O_NONBLOCK): " ++ e)
  | .connectFails e => .error (lit "connect(): " ++ e)
  | .timesOut => .error (lit "connect timed out")
  | .selectFails e => .error (lit "select(): " ++ e)
  | .soError e => .error (lit "connect(): " ++ e)
  | .restoreFails e => .error (lit "fcntl(restore): " ++ e)

/-- the addresses are tried in turn; the error of the last one is reported -/
def connectFirst (lastError : Bytes) : List ConnectOutcome → Except Bytes Unit
  | [] => .error (if lastError = [] then lit "connect failed" else lastError)
  | o :: os =>
    match connectWithTimeout o with
    | .ok _ => .ok ()
    | .error e => connectFirst e os

/-! ## the request -/

def requestLine (path : Bytes) : Bytes := lit "POST " ++ path ++ lit " HTTP/1.1"

def buildRequest (url : HttpUrl) (body : Bytes) : Bytes :=
  requestLine url.path ++ crlf ++
  lit "Host: " ++ hostValue url.host url.port ++ crlf ++
  lit "User-Agent: vehicle_detection/1.0.0" ++ crlf ++
  lit "Content-Type: application/json" ++ crlf ++
  lit "Content-Length: " ++ decimal body.length ++ crlf ++
  lit "Connection: close" ++ crlf ++
  lit "Accept: */*" ++ crlf ++ crlf ++
  body

/-- the result of one `send` -/
inductive SendOutcome where
  | returned (n : Nat)
  | interrupted
  | failed (error : Bytes)
deriving DecidableEq

/-- how the send loop ends, with the number of bytes the socket has taken -/
inductive SendEnd where
  | complete
  | failed (error : Bytes) (sent : Nat)
  | pending (sent : Nat)
deriving DecidableEq

def sendAll (data : Bytes) (sent : Nat) : List SendOutcome → SendEnd
  | [] => if sent < data.length then .pending sent else .complete
  | o :: os =>
    if sent < data.length then
      match o with
      | .returned 0 => .failed (lit "send(): peer closed connection") sent
      | .returned n => sendAll data (sent + n) os
      | .interrupted => sendAll data sent os
      | .failed e => .failed (lit "send(): " ++ e) sent
    else .complete

/-! ## the response -/

/-- the result of one `recv`; no bytes means that the peer has closed -/
inductive RecvOutcome where
  | returned (bytes : Bytes)
  | interrupted
  | failed (error : Bytes)
deriving DecidableEq

def kMaxResponse : Nat := 64 * 1024

/-- how the receive loop ends, with what had been received -/
inductive RecvEnd where
  | complete (response : Bytes)
  | failed (error : Bytes) (received : Bytes)
  | pending (received : Bytes)
deriving DecidableEq

def recvLoop (response : Bytes) : List RecvOutcome → RecvEnd
  | [] => .pending response
  | .returned [] :: _ => .complete response
  | .returned bytes :: os =>
    if (response ++ bytes).length > kMaxResponse then .complete (response ++ bytes)
    else recvLoop (response ++ bytes) os
  | .interrupted :: os => recvLoop response os
  | .failed e :: _ => .failed (lit "recv(): " ++ e) response

/-- the bytes received when the loop ends -/
def RecvEnd.received : RecvEnd → Bytes
  | .complete response => response
  | .failed _ received => received
  | .pending received => received

def parseStatusLine (buffer : Bytes) : Int :=
  match findSub crlf buffer with
  | none => -1
  | some eol =>
    let line := buffer.take eol
    if ¬ (lit "HTTP/").isPrefixOf line then -1
    else match find 32 line with
      | none => -1
      | some first =>
        let rest := line.drop (first + 1)
        let code := match find 32 rest with
          | none => rest
          | some n => rest.take n
        (stoi code).getD (-1)

/-- what a complete response means -/
def judgeResponse (response : Bytes) : HttpPostResult :=
  let code := parseStatusLine response
  if code < 0 then { statusCode := code, error := lit "invalid HTTP response" }
  else if 200 ≤ code ∧ code < 300 then { ok := true, statusCode := code }
  else { statusCode := code, error := lit "non-2xx response" }

/-! ## the call -/

structure PostIo where
  /-- the text of `gai_strerror`, or the fate of `connect` for each address -/
  addresses : Except Bytes (List ConnectOutcome)
  sends : List SendOutcome
  recvs : List RecvOutcome

/-- up to the last byte of the request; `none`: still sending -/
def openAndSend (url : HttpUrl) (body : Bytes) (io : PostIo) : Option (Except Bytes Unit) :=
  match io.addresses with
  | .error e => some (.error (lit "getaddrinfo(): " ++ e))
  | .ok outcomes =>
    match connectFirst [] outcomes with
    | .error e => some (.error e)
    | .ok _ =>
      match sendAll (buildRequest url body) 0 io.sends with
      | .pending _ => none
      | .failed e _ => some (.error e)
      | .complete => some (.ok ())

def httpPostJson (url : HttpUrl) (body : Bytes) (io : PostIo) : Option HttpPostResult :=
  match openAndSend url body io with
  | none => none
  | some (.error e) => some { error := e }
  | some (.ok _) =>
    match recvLoop [] io.recvs with
    | .pending _ => none
    | .failed e _ => some { error := e }
    | .complete response => some (judgeResponse response)

/-! ## what has been received -/

/-- a call of which the whole request has been sent -/
theorem httpPostJson_sent {url : HttpUrl} {body : Bytes} {io : PostIo}
    (h : openAndSend url body io = some (.ok ())) :
    httpPostJson url body io = match recvLoop [] io.recvs with
      | .pending _ => none
      | .failed e _ => some { error := e }
      | .complete response => some (judgeResponse response) := by
  cases hr : recvLoop [] io.recvs <;> simp only [httpPostJson, h, hr]

theorem recvLoop_cons (response : Bytes) (b : UInt8) (bs : Bytes) (os : List RecvOutcome) :
    recvLoop response (.returned (b :: bs) :: os) =
      if (response ++ b :: bs).length > kMaxResponse then .complete (response ++ b :: bs)
      else recvLoop (response ++ b :: bs) os := by
  rw [recvLoop]
  exact List.cons_ne_nil b bs

/-- the loop only adds to what has been received -/
theorem recvLoop_extends (os : List RecvOutcome) :
    ∀ response, response <+: (recvLoop response os).received := by
  induction os with
  | nil => exact fun response => List.prefix_rfl
  | cons o os ih =>
    intro response
    cases o with
    | returned bytes =>
      cases bytes with
      | nil => exact List.prefix_rfl
      | cons b bs =>
        rw [recvLoop_cons]
        split
        · exact List.prefix_append _ _
        · exact (List.prefix_append _ _).trans (ih _)
    | interrupted => exact ih response
    | failed e => exact List.prefix_rfl

/-- what the first calls have received is received in the end -/
theorem recvLoop_take (os : List RecvOutcome) :
    ∀ response calls,
      (recvLoop response (os.take calls)).received <+: (recvLoop response os).received := by
  induction os with
  | nil => intro response calls; rw [List.take_nil]
  | cons o os ih =>
    intro response calls
    cases calls with
    | zero => exact recvLoop_extends _ _
    | succ calls =>
      rw [List.take_succ_cons]
      cases o with
      | returned bytes =>
        cases bytes with
        | nil => exact List.prefix_rfl
        | cons b bs =>
          rw [recvLoop_cons, recvLoop_cons]
          split
          · exact List.prefix_rfl
          · exact ih _ calls
      | interrupted => exact ih response calls
      | failed e => exact List.prefix_rfl

/-! ## the status line -/

/-- The response holds a complete status line with this code: `HTTP/` and a version, one blank, the
three digits of the code, then the end of the line or a blank and any reason. -/
def StatusLine (response : Bytes) (code : Nat) : Prop :=
  ∃ version reason rest,
    response = lit "HTTP/" ++ version ++ 32 :: decimal code ++ reason ++ 13 :: 10 :: rest ∧
    (32 : UInt8) ∉ version ∧ (reason = [] ∨ reason.head? = some 32) ∧
    NoCrlf (lit "HTTP/" ++ version ++ 32 :: decimal code ++ reason) ∧ 100 ≤ code ∧ code ≤ 999

/-- a status line that is complete stays so -/
theorem StatusLine.extend {response response' : Bytes} {code : Nat} (h : StatusLine response code)
    (hp : response <+: response') : StatusLine response' code := by
  obtain ⟨t, rfl⟩ := hp
  obtain ⟨version, reason, rest, rfl, h⟩ := h
  exact ⟨version, reason, rest ++ t, by simp, h⟩

/-- The buffer has a CRLF, the text before the first one starts with `HTTP/` and has a blank, and this is the
text between its first blank and the next one, or the end of the line. -/
def HasToken (buffer token : Bytes) : Prop :=
  ∃ version reason rest,
    buffer = lit "HTTP/" ++ version ++ 32 :: token ++ reason ++ 13 :: 10 :: rest ∧
    (32 : UInt8) ∉ version ∧ (32 : UInt8) ∉ token ∧ (reason = [] ∨ reason.head? = some 32) ∧
    NoCrlf (lit "HTTP/" ++ version ++ 32 :: token ++ reason)

/-- the part of `parse_status_line` that looks for the code -/
def statusToken (buffer : Bytes) : Option Bytes :=
  (findSub crlf buffer).bind fun eol =>
    let line := buffer.take eol
    if ¬ (lit "HTTP/").isPrefixOf line then none
    else (find 32 line).map fun first =>
      let rest := line.drop (first + 1)
      match find 32 rest with
      | none => rest
      | some n => rest.take n

theorem parseStatusLine_token (buffer : Bytes) :
    parseStatusLine buffer = ((statusToken buffer).bind stoi).getD (-1) := by
  unfold parseStatusLine statusToken
  cases findSub crlf buffer with
  | none => rfl
  | some eol =>
    simp only [Option.bind_some]
    by_cases h : ¬ (lit "HTTP/").isPrefixOf (buffer.take eol) = true
    · rw [if_pos h, if_pos h]
      rfl
    · rw [if_neg h, if_neg h]
      cases find 32 (buffer.take eol) with
      | none => rfl
      | some first => rfl

theorem statusToken_eq {buffer token : Bytes} (h : HasToken buffer token) :
    statusToken buffer = some token := by
  obtain ⟨version, reason, rest, rfl, hv, htoken, hr, hl⟩ := h
  have hhead : (32 : UInt8) ∉ lit "HTTP/" ++ version := by
    rw [List.mem_append]
    exact not_or.mpr ⟨by decide, hv⟩
  have hline : lit "HTTP/" ++ version ++ 32 :: token ++ reason
      = (lit "HTTP/" ++ version) ++ 32 :: (token ++ reason) := by simp
  have hpre : (lit "HTTP/").isPrefixOf (lit "HTTP/" ++ version ++ 32 :: token ++ reason) = true := by
    rw [List.isPrefixOf_iff_prefix]
    simp only [List.append_assoc]
    exact List.prefix_append _ _
  have hrest : (lit "HTTP/" ++ version ++ 32 :: token ++ reason).drop
      ((lit "HTTP/" ++ version).length + 1) = token ++ reason := by
    rw [hline, ← List.drop_drop, List.drop_left]
    rfl
  have hcode : (match find 32 (token ++ reason) with
      | none => token ++ reason
      | some n => (token ++ reason).take n) = token := by
    rcases hr with rfl | hr
    · rw [List.append_nil, find_none htoken]
    · obtain ⟨t, rfl⟩ := List.head?_eq_some_iff.mp hr
      rw [find_append t htoken]
      exact List.take_left
  unfold statusToken
  rw [findSub_crlf_append rest hl]
  simp only [Option.bind_some, List.take_left, hpre, not_true, if_false]
  rw [hline, find_append _ hhead, ← hline]
  simp only [Option.map_some, hrest, hcode]

theorem StatusLine.token {response : Bytes} {code : Nat} (h : StatusLine response code) :
    HasToken response (decimal code) := by
  obtain ⟨version, reason, rest, rfl, hv, hr, hl, -, -⟩ := h
  refine ⟨version, reason, rest, rfl, hv, fun hm => ?_, hr, hl⟩
  exact absurd (decimal_isDigit code 32 hm) (by decide)

theorem parseStatusLine_eq {response : Bytes} {code : Nat} (h : StatusLine response code) :
    parseStatusLine response = code := by
  rw [parseStatusLine_token, statusToken_eq h.token]
  obtain ⟨-, -, -, -, -, -, -, -, hc⟩ := h
  show (stoi (decimal code)).getD (-1) = code
  rw [stoi_decimal (by omega)]
  rfl

theorem judgeResponse_ok {response : Bytes} {code : Nat} (h : StatusLine response code)
    (h₁ : 200 ≤ code) (h₂ : code < 300) :
    judgeResponse response = { ok := true, statusCode := code } := by
  unfold judgeResponse
  simp only [parseStatusLine_eq h]
  rw [if_neg (by omega), if_pos (by omega)]

end VD
