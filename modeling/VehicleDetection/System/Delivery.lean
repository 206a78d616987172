import VehicleDetection.Http.Receive
import VehicleDetection.Http.Request
import VehicleDetection.Sender.Worker
import VehicleDetection.Tools.Receiver

/-!
# The sender and its receiver

One body of the sender is posted to the receiver, over connections that lose the end of what is sent either way.
What the `http.server` of Python makes of the bytes of a connection is the parameter `react`.

* `HttpServer`   what it is relied on for;
* `Exchange`     one attempt: what the sender meets, what arrives, and what is answered;
* `delivered`    an attempt prints nothing or all of the document, and the last one has if it is ok.
-/

set_option linter.unusedVariables false

namespace VD.Delivery
open BStr Receiver

/-! ## the server -/

/-- what is made of the bytes of a connection: nothing, an error of `http.server` itself, or a call of `do_POST` -/
inductive Reaction where
  | silent
  | refused
  | posted (headers : List (Bytes × Bytes)) (rfile : Bytes)

def printed : Reaction → List Line
  | .silent => []
  | .refused => []
  | .posted headers rfile => (doPost headers rfile).printed

/-- the host, the port and the path are printable ASCII without blanks -/
structure Graphic (url : HttpUrl) : Prop where
  host : ∀ c ∈ url.host, 33 ≤ c ∧ c ≤ 126
  port : ∀ c ∈ url.port, 33 ≤ c ∧ c ≤ 126
  path : ∀ c ∈ url.path, 33 ≤ c ∧ c ≤ 126
  path_ne : url.path ≠ []

/-- `do_POST` reads behind the headers, or it reads nothing if they are cut; headers of at most 64 KiB that are
not cut reach it. -/
structure HttpServer (react : Bytes → Reaction) : Prop where
  begun : ∀ {url body arrived rest headers rfile}, Graphic url → arrived ++ rest = buildRequest url body →
    react arrived = .posted headers rfile → rfile = [] ∨ rfile ++ rest = body
  whole : ∀ {url body}, Graphic url → (buildRequest url body).length ≤ 65536 + body.length →
    ∃ headers, react (buildRequest url body) = .posted headers body ∧
      headersGet headers (lit "Content-Length") = some (decimal body.length)

/-- the status line is there, and it is not longer than what is read of a response -/
def Status (response : Bytes) (code : Nat) : Prop := StatusLine response code ∧ Headed response

/-- A request line that cannot be read may be answered without a status line. Nothing is answered after an exception
in the handler. -/
def Answers : Reaction → Bytes → Prop
  | .silent, response => response = []
  | .refused, response => (∃ code ≥ 400, Status response code) ∨ ¬ lit "HTTP/" <+: response
  | .posted headers rfile, response =>
    match (doPost headers rfile).status with
    | none => response = []
    | some code => Status response code

/-! ## one attempt -/

structure Exchange where
  io : PostIo
  arrived : Bytes
  response : Bytes

/-- beginnings arrive, of the request and of the response -/
structure Exchange.Possible (x : Exchange) (react : Bytes → Reaction) (request : Bytes) : Prop where
  arrived : x.arrived <+: request
  answers : Answers (react x.arrived) x.response
  received : (recvLoop [] x.io.recvs).received <+: x.response

/-- everything arrives -/
structure Exchange.Through (x : Exchange) (url : HttpUrl) (body : Bytes) : Prop where
  sent : openAndSend url body x.io = some (.ok ())
  arrived : x.arrived = buildRequest url body
  delivers : Delivers x.response x.io.recvs

/-- only the text before the first CRLF is parsed -/
theorem parseStatusLine_beginning {response received : Bytes} (hp : received <+: response) :
    parseStatusLine received = -1 ∨ parseStatusLine received = parseStatusLine response := by
  by_cases h : NoCrlf received
  · left
    rw [parseStatusLine, show findSub crlf received = none from h]
  · right
    obtain ⟨line, rest, rfl, hline⟩ := exists_crlf h
    obtain ⟨more, rfl⟩ := hp
    rw [List.append_assoc, List.cons_append, List.cons_append]
    exact parseStatusLine_congr hline rest (rest ++ more)

theorem parseStatusLine_not_http {response : Bytes} (h : ¬ lit "HTTP/" <+: response) :
    parseStatusLine response = -1 := by
  unfold parseStatusLine
  split
  · rfl
  · rename_i eol heol
    have hline : ¬ (lit "HTTP/").isPrefixOf (response.take eol) = true := by
      rw [List.isPrefixOf_iff_prefix]
      exact fun hp => h (hp.trans (List.take_prefix _ _))
    rw [if_pos hline]

theorem judgeResponse_ok_iff {received : Bytes} :
    (judgeResponse received).ok = true ↔ 200 ≤ parseStatusLine received ∧ parseStatusLine received < 300 := by
  unfold judgeResponse
  dsimp only
  split
  · exact iff_of_false Bool.false_ne_true (by omega)
  · split
    · rename_i h
      exact iff_of_true rfl h
    · rename_i h
      exact iff_of_false Bool.false_ne_true h

/-- the result of an attempt that is ok is that of a response -/
theorem ok_received {url : HttpUrl} {body : Bytes} {io : PostIo} {r : HttpPostResult}
    (h : httpPostJson url body io = some r) (hok : r.ok = true) :
    r = judgeResponse (recvLoop [] io.recvs).received := by
  unfold httpPostJson at h
  split at h
  · cases h
  · cases h
    cases hok
  · split at h
    · cases h
    · cases h
      cases hok
    · rename_i hr
      rw [hr]
      exact (Option.some.inj h).symm

section
variable {react : Bytes → Reaction} {url : HttpUrl} {payload : DetectionJsonPayload} {x : Exchange}

/-- what is made of the beginning of a request -/
theorem HttpServer.reaction (hs : HttpServer react) (hu : Graphic url)
    (ha : x.arrived <+: buildRequest url (serializeDetections payload)) {headers : List (Bytes × Bytes)}
    {rfile : Bytes} (hr : react x.arrived = .posted headers rfile) : rfile <+: serializeDetections payload := by
  obtain ⟨rest, hrest⟩ := ha
  rcases hs.begun hu hrest hr with rfl | hbody
  · exact List.nil_prefix
  · exact ⟨rest, hbody⟩

/-- An attempt prints nothing, or all of the document. -/
theorem HttpServer.printed_or (hs : HttpServer react) (hu : Graphic url)
    (ha : x.arrived <+: buildRequest url (serializeDetections payload)) :
    printed (react x.arrived) = [] ∨
      Readable payload ∧ printed (react x.arrived) = printedOf (documentOf payload) := by
  cases hr : react x.arrived with
  | silent => exact .inl rfl
  | refused => exact .inl rfl
  | posted headers rfile =>
    rcases doPost_beginning headers (hs.reaction hu ha hr) with ⟨hread, he⟩ | ⟨hnil, -⟩
    · exact .inr ⟨hread, congrArg Outcome.printed he⟩
    · exact .inl hnil

/-- A response whose beginning is ok is that of a handler that has printed the document. -/
theorem HttpServer.ok_printed (hs : HttpServer react) (hu : Graphic url)
    (hx : x.Possible react (buildRequest url (serializeDetections payload)))
    (hok : (judgeResponse (recvLoop [] x.io.recvs).received).ok = true) :
    Readable payload ∧ printed (react x.arrived) = printedOf (documentOf payload) := by
  rw [judgeResponse_ok_iff] at hok
  have hcode : parseStatusLine (recvLoop [] x.io.recvs).received = parseStatusLine x.response :=
    (parseStatusLine_beginning hx.received).resolve_left (by omega)
  rw [hcode] at hok
  have hanswers := hx.answers
  have hnone : x.response ≠ [] := by
    intro he
    rw [he, parseStatusLine_not_http (by decide)] at hok
    omega
  cases hr : react x.arrived with
  | silent =>
    rw [hr] at hanswers
    exact absurd hanswers hnone
  | refused =>
    rw [hr] at hanswers
    rcases hanswers with ⟨code, hge, hline, -⟩ | hnot
    · rw [parseStatusLine_eq hline] at hok
      omega
    · rw [parseStatusLine_not_http hnot] at hok
      omega
  | posted headers rfile =>
    rw [hr] at hanswers
    rcases doPost_beginning headers (hs.reaction hu hx.arrived hr) with ⟨hread, he⟩ | ⟨-, hst⟩
    · exact ⟨hread, congrArg Outcome.printed he⟩
    · rcases List.mem_pair.mp hst with hst | hst
      · rw [Answers, hst] at hanswers
        exact absurd hanswers hnone
      · rw [Answers, hst] at hanswers
        rw [parseStatusLine_eq hanswers.1] at hok
        omega

/-- What the sender is told when everything arrives. -/
def told (payload : DetectionJsonPayload) : HttpPostResult :=
  if Readable payload then { ok := true, statusCode := 204 }
  else { statusCode := 400, error := lit "non-2xx response" }

theorem HttpServer.through (hs : HttpServer react) (hu : Graphic url)
    (hl : (buildRequest url (serializeDetections payload)).length ≤ 65536 + (serializeDetections payload).length)
    (hx : x.Possible react (buildRequest url (serializeDetections payload)))
    (ht : x.Through url (serializeDetections payload)) :
    httpPostJson url (serializeDetections payload) x.io = some (told payload) := by
  obtain ⟨headers, hreact, hlength⟩ := hs.whole hu hl
  have hanswers := hx.answers
  rw [ht.arrived, hreact, Answers, doPost_whole hlength] at hanswers
  obtain ⟨received, hr, hp, hcut⟩ := recvLoop_delivers ht.delivers []
  rw [List.nil_append] at hp hcut
  rw [httpPostJson_sent ht.sent, hr, told]
  by_cases hread : Readable payload
  · rw [if_pos hread] at hanswers ⊢
    obtain ⟨hline, hheaded⟩ : Status x.response 204 := hanswers
    show some (judgeResponse received) = _
    rw [judgeResponse_begun hheaded hp hcut, judgeResponse_ok hline (by decide) (by decide)]
    rfl
  · rw [if_neg hread] at hanswers ⊢
    obtain ⟨hline, hheaded⟩ : Status x.response 400 := hanswers
    show some (judgeResponse received) = _
    rw [judgeResponse_begun hheaded hp hcut, judgeResponse, parseStatusLine_eq hline]
    rfl

end

/-! ## all attempts for one body -/

open DetectionSenderNode

/-- **Delivery.** The attempts for one body, to a receiver at a printable URL: each prints nothing or exactly the
document, which it reads as JSON. One that is ok has printed it, and it is the last. One of which everything
arrives ends as the document can be read, and it is the last exactly if it can. -/
theorem delivered {react : Bytes → Reaction} (hserver : HttpServer react) (snap : Snapshot)
    (hurl : Graphic snap.httpUrl) (payload : DetectionJsonPayload) (x : Nat → Exchange)
    (hx : ∀ k, (x k).Possible react (buildRequest snap.httpUrl (serializeDetections payload))) :
    let attempts := postBody snap (serializeDetections payload) fun k => (x k).io
    ∀ k < attempts.length,
      (printed (react (x k).arrived) = [] ∨
        Readable payload ∧ printed (react (x k).arrived) = printedOf (documentOf payload)) ∧
      (∀ r, attempts[k]? = some (some r) → r.ok = true →
        Readable payload ∧ printed (react (x k).arrived) = printedOf (documentOf payload) ∧
          attempts.length = k + 1) ∧
      ((buildRequest snap.httpUrl (serializeDetections payload)).length ≤
          65536 + (serializeDetections payload).length →
        (x k).Through snap.httpUrl (serializeDetections payload) →
          attempts[k]? = some (some (told payload)) ∧
          (Readable payload → attempts.length = k + 1) ∧
          (¬ Readable payload → k + 1 < (totalAttempts snap.httpRetryCount).toInt.toNat →
            k + 1 < attempts.length)) := by
  intro attempts k hk
  have hloop : attempts = postLoop snap.httpUrl (serializeDetections payload) (fun k => (x k).io)
    (totalAttempts snap.httpRetryCount).toInt.toNat 0 := postBody_eq hk
  rw [hloop] at hk ⊢
  have hget := postLoop_get snap.httpUrl (serializeDetections payload) _ _ 0 k _ (List.getElem?_eq_getElem hk)
  have hnext := postLoop_next snap.httpUrl (serializeDetections payload) _ _ 0 k hk
  rw [Nat.zero_add] at hget hnext
  -- an attempt that is ok has none behind it
  have hlast : ∀ {r}, httpPostJson snap.httpUrl (serializeDetections payload) (x k).io = some r → r.ok = true →
      (postLoop snap.httpUrl (serializeDetections payload) (fun k => (x k).io)
        (totalAttempts snap.httpRetryCount).toInt.toNat 0).length = k + 1 := by
    intro r hr hok
    by_contra hne
    obtain ⟨-, r', hr', hfail⟩ := hnext.mp (by omega)
    obtain rfl := Option.some.inj (hr.symm.trans hr')
    exact Bool.noConfusion (hok.symm.trans hfail)
  rw [List.getElem?_eq_getElem hk, hget]
  refine ⟨hserver.printed_or hurl (hx k).arrived, fun r hr hok => ?_, fun hl ht => ?_⟩
  · have hr := Option.some.inj hr
    have hreceived : (judgeResponse (recvLoop [] (x k).io.recvs).received).ok = true :=
      ok_received hr hok ▸ hok
    obtain ⟨hread, hprinted⟩ := hserver.ok_printed hurl (hx k) hreceived
    exact ⟨hread, hprinted, hlast hr hok⟩
  · have htold := hserver.through hurl hl (hx k) ht
    refine ⟨congrArg some htold, fun hread => hlast htold ?_, fun hread hmore => ?_⟩
    · rw [told, if_pos hread]
    · refine hnext.mpr ⟨hmore, _, htold, ?_⟩
      rw [told, if_neg hread]

/-! ## a server -/

theorem cutLine_extend {s line rest : Bytes} (h : cutLine s = some (line, rest)) (more : Bytes) :
    cutLine (s ++ more) = some (line, rest ++ more) := by
  by_cases hs : NoCrlf s
  · rw [cutLine, show findSub crlf s = none from hs] at h
    cases h
  · obtain ⟨a, b, rfl, ha⟩ := exists_crlf hs
    rw [cutLine_append b ha] at h
    cases h
    rw [List.append_assoc, List.cons_append, List.cons_append, cutLine_append _ ha]

theorem readHeaders_extend (more : Bytes) (fuel : Nat) : ∀ {fuel' s headers body}, fuel ≤ fuel' →
    readHeaders fuel s = some (headers, body) → readHeaders fuel' (s ++ more) = some (headers, body ++ more) := by
  induction fuel with
  | zero => exact fun hle h => by cases h
  | succ fuel ih =>
    intro fuel' s headers body hle h
    obtain ⟨fuel', rfl⟩ : ∃ n, fuel' = n + 1 := ⟨fuel' - 1, by omega⟩
    rw [readHeaders] at h ⊢
    cases hc : cutLine s with
    | none =>
      rw [hc] at h
      cases h
    | some cut =>
      obtain ⟨line, rest⟩ := cut
      rw [hc] at h
      rw [cutLine_extend hc]
      dsimp only at h ⊢
      by_cases hline : line = []
      · rw [if_pos hline] at h ⊢
        cases h
        rfl
      · rw [if_neg hline] at h ⊢
        cases hi : find 58 line with
        | none =>
          rw [hi] at h
          cases h
        | some i =>
          rw [hi] at h
          obtain ⟨⟨hs, b⟩, hr, he⟩ := Option.map_eq_some_iff.mp h
          cases he
          dsimp only
          rw [ih (by omega) hr]
          rfl

theorem readRequest_extend {s : Bytes} {r : Request} (h : readRequest s = some r) (more : Bytes) :
    readRequest (s ++ more) = some { r with body := r.body ++ more } := by
  rw [readRequest] at h ⊢
  cases hc : cutLine s with
  | none =>
    rw [hc] at h
    cases h
  | some cut =>
    obtain ⟨line, rest⟩ := cut
    rw [hc] at h
    rw [cutLine_extend hc]
    dsimp only at h ⊢
    split at h
    · rename_i method target version hw
      obtain ⟨⟨hs, b⟩, hr, rfl⟩ := Option.map_eq_some_iff.mp h
      rw [readHeaders_extend more _ (by rw [List.length_append]; omega) hr]
      rfl
    · cases h

theorem Graphic.noCrlf {s : Bytes} (h : ∀ c ∈ s, 33 ≤ c ∧ c ≤ 126) : NoCrlf s :=
  NoCrlf.of_not_mem fun hm => absurd (h 10 hm).1 (by decide)

theorem Graphic.trim {s : Bytes} (h : ∀ c ∈ s, 33 ≤ c ∧ c ≤ 126) : trim s = s := by
  have hb : ∀ c ∈ s, ¬ isBlank c = true := by
    intro c hc hblank
    have hd : ∀ c : UInt8, isBlank c = true → ¬ 33 ≤ c := by decide +kernel
    exact hd c hblank (h c hc).1
  rw [BStr.trim, List.dropWhile_eq_self_iff.mpr fun hl => hb _ (List.getElem_mem hl),
    List.rdropWhile_eq_self_iff.mpr fun hl => hb _ (List.getLast_mem hl)]

theorem Graphic.hostValue {url : HttpUrl} (hu : Graphic url) :
    ∀ c ∈ hostValue url.host url.port, 33 ≤ c ∧ c ≤ 126 := by
  intro c hc
  rw [VD.hostValue, List.mem_append] at hc
  rcases hc with hc | hc
  · exact hu.host c hc
  · split at hc
    · cases hc
    · rcases List.mem_cons.mp hc with rfl | hc
      · decide
      · exact hu.port c hc

theorem readRequest_request {url : HttpUrl} (hu : Graphic url) (body : Bytes) :
    readRequest (buildRequest url body) = some ⟨lit "POST", url.path, lit "HTTP/1.1",
      (lit "Host", VD.hostValue url.host url.port) :: headersAfterHost body, body⟩ := by
  have hline := noCrlf_requestLine.mpr (Graphic.noCrlf hu.path)
  have hhost := noCrlf_hostLine.mpr (Graphic.noCrlf hu.hostValue)
  have hword : (32 : UInt8) ∉ url.path := fun hm => absurd (hu.path 32 hm).1 (by decide)
  have hcolon : (58 : UInt8) ∉ lit "Host" := by decide
  obtain ⟨k, hk⟩ : ∃ k, (lit "Host" ++ 58 :: 32 :: VD.hostValue url.host url.port ++ 13 :: 10 ::
      afterHost body).length = k + 6 := by
    apply Nat.exists_eq_add_of_le'
    have h4 : (lit "Host").length = 4 := by decide
    simp only [List.length_append, List.length_cons]
    omega
  rw [buildRequest_lines, readRequest, cutLine_append _ hline]
  dsimp only
  rw [requestLine_splitOn, splitOn_of_not_mem hword, hk, readHeaders_line _ _ hcolon hhost, readHeaders_afterHost,
    trim_space, Graphic.trim hu.hostValue]
  rfl

/-- a server that reads whole headers only; irreducible, so that no statement about a text runs it -/
@[irreducible] def reads (arrived : Bytes) : Reaction :=
  match readRequest arrived with
  | some r => .posted r.headers r.body
  | none => if arrived = [] then .silent else .refused

theorem reads_server : HttpServer reads where
  begun := by
    intro url body arrived rest headers rfile hu hrest hr
    rw [reads] at hr
    split at hr
    · rename_i r hread
      cases hr
      have hwhole := readRequest_extend hread rest
      rw [hrest, readRequest_request hu] at hwhole
      exact .inr (congrArg Request.body (Option.some.inj hwhole)).symm
    · split at hr
      · cases hr
      · cases hr
  whole := by
    intro url body hu hl
    rw [reads, readRequest_request hu]
    exact ⟨_, rfl, rfl⟩

/-! ## an answer that is lost -/

def noContent : Bytes := lit "HTTP/1.0 204 No Content" ++ crlf ++ crlf

theorem noContent_status : Status noContent 204 :=
  ⟨⟨lit "1.0", lit " No Content", crlf, by decide, by decide, by decide, by decide, by decide, by decide⟩,
    .inl (by decide +kernel)⟩

/-- everything is sent and arrives -/
def answered (request : Bytes) (recvs : List RecvOutcome) : Exchange where
  io := { addresses := .ok [.connected], sends := [.returned request.length], recvs := recvs }
  arrived := request
  response := noContent

/-- the first answer is lost -/
def lossy (request : Bytes) : Nat → Exchange
  | 0 => answered request [.failed (lit "Connection reset by peer")]
  | _ => answered request [.returned noContent, .returned []]

theorem lossy_possible {request : Bytes} (h : Answers (reads request) noContent) (k : Nat) :
    (lossy request k).Possible reads request := by
  cases k with
  | zero => exact ⟨List.prefix_rfl, h, List.nil_prefix⟩
  | succ k => exact ⟨List.prefix_rfl, h, List.prefix_rfl⟩

theorem HttpServer.noContent_answers {react : Bytes → Reaction} (hs : HttpServer react) {url : HttpUrl}
    (hu : Graphic url) {payload : DetectionJsonPayload}
    (hl : (buildRequest url (serializeDetections payload)).length ≤ 65536 + (serializeDetections payload).length)
    (hread : Readable payload) : Answers (react (buildRequest url (serializeDetections payload))) noContent := by
  obtain ⟨headers, hreact, hlength⟩ := hs.whole hu hl
  rw [hreact, Answers, doPost_whole hlength, if_pos hread]
  exact noContent_status

def noDetections : DetectionJsonPayload where
  stampSec := 0
  stampNanosec := 0
  frameId := lit "map"
  detections := []

theorem retrying_graphic : Graphic retrying.httpUrl where
  host := by decide +kernel
  port := by decide +kernel
  path := by decide +kernel
  path_ne := by decide +kernel

/-- The receiver has printed the document, its answer is lost, and it prints the document again. -/
theorem delivered_twice :
    let request := buildRequest retrying.httpUrl (serializeDetections noDetections)
    let attempts := postBody retrying (serializeDetections noDetections) fun k => (lossy request k).io
    attempts[1]? = some (some { ok := true, statusCode := 204 }) ∧ attempts.length = 2 ∧
      ∀ k, printed (reads (lossy request k).arrived) = printedOf (documentOf noDetections) := by
  intro request attempts
  have hread : Readable noDetections := by decide +kernel
  have hl : (buildRequest retrying.httpUrl (serializeDetections noDetections)).length ≤
      65536 + (serializeDetections noDetections).length := by decide +kernel
  have hanswers := reads_server.noContent_answers retrying_graphic hl hread
  have hsecond : 1 < attempts.length := by decide +kernel
  have hdelivered := delivered reads_server retrying retrying_graphic noDetections (lossy request)
    (lossy_possible hanswers) 1 hsecond
  have hd : Delivers (noContent ++ []) [.returned noContent, .returned []] :=
    .piece (by decide +kernel) (by decide +kernel) (.close [])
  rw [List.append_nil] at hd
  have ht : (lossy request 1).Through retrying.httpUrl (serializeDetections noDetections) :=
    ⟨by decide +kernel, rfl, hd⟩
  have hend := hdelivered.2.2 hl ht
  have htold : told noDetections = { ok := true, statusCode := 204 } := if_pos hread
  have hget := hend.1.trans (congrArg (some ∘ some) htold)
  have hprinted := (hdelivered.2.1 _ hget rfl).2.1
  refine ⟨hget, hend.2.1 hread, fun k => ?_⟩
  cases k with
  | zero => exact hprinted
  | succ k => exact hprinted

end VD.Delivery
