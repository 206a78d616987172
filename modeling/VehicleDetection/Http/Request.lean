import VehicleDetection.Http.Client

/-!
# Reading the request back

A reader of HTTP/1.1 requests: lines end in CRLF, the request line has three parts with one blank
between them, a header is cut at its first colon and its value is taken without the blanks around
it, the first empty line ends the headers.

* `readRequest`  the reader;
* `ReadsBack`    the request text of a target and a body reads back to both;
* `reads_back`   it does so exactly for the targets that are `Plain`.
-/

set_option linter.unusedVariables false

namespace VD
open BStr

structure Request where
  method : Bytes
  target : Bytes
  version : Bytes
  headers : List (Bytes × Bytes)
  body : Bytes
deriving DecidableEq

/-- the header lines up to the first empty one, and what follows it -/
def readHeaders : Nat → Bytes → Option (List (Bytes × Bytes) × Bytes)
  | 0, _ => none
  | fuel + 1, s =>
    match cutLine s with
    | none => none
    | some (line, rest) =>
      if line = [] then some ([], rest)
      else match find 58 line with
        | none => none
        | some i => (readHeaders fuel rest).map fun r =>
          ((line.take i, trim (line.drop (i + 1))) :: r.1, r.2)

def readRequest (s : Bytes) : Option Request :=
  match cutLine s with
  | none => none
  | some (line, rest) =>
    match line.splitOn 32 with
    | [method, target, version] =>
      (readHeaders (rest.length + 1) rest).map fun r => ⟨method, target, version, r.1, r.2⟩
    | _ => none

/-- The request reads back to its target: one request line with the path in the middle, the headers
the code names and no other, a `Host` that is cut into the host and the port and has an IPv6 literal,
which is a host with a colon in it, in brackets, the body after the empty line and its size in
`Content-Length`. -/
def ReadsBack (url : HttpUrl) (body : Bytes) : Prop :=
  ∃ r host size, readRequest (buildRequest url body) = some r ∧
    r.method = lit "POST" ∧ r.target = url.path ∧ r.version = lit "HTTP/1.1" ∧
    r.headers = [(lit "Host", host), (lit "User-Agent", lit "vehicle_detection/1.0.0"),
      (lit "Content-Type", lit "application/json"), (lit "Content-Length", size),
      (lit "Connection", lit "close"), (lit "Accept", lit "*/*")] ∧
    splitAuthority host = some (url.host, url.port) ∧
    ((58 : UInt8) ∈ url.host → ∃ rest, host = 91 :: url.host ++ 93 :: rest) ∧
    readDecimal size = some body.length ∧ r.body = body

/-- Nothing in the target ends a line, a word or a value before its end, and there is no colon but the
one that is printed before the port. -/
structure HttpUrl.Plain (u : HttpUrl) : Prop where
  path_word : (32 : UInt8) ∉ u.path
  path_line : NoCrlf u.path
  host_line : NoCrlf u.host
  port_line : NoCrlf u.port
  first_blank : u.host.head?.all (fun b => !isBlank b)
  last_blank : (if u.port = lit "80" then u.host else u.port).getLast?.all (fun b => !isBlank b)
  bracket : u.host.head? ≠ some 91
  host_colon : (58 : UInt8) ∉ u.host
  port_colon : (58 : UInt8) ∉ u.port

/-! ## lines -/

theorem readHeaders_line {name value : Bytes} (fuel : Nat) (rest : Bytes) (hn : (58 : UInt8) ∉ name)
    (hl : NoCrlf (name ++ 58 :: value)) :
    readHeaders (fuel + 1) (name ++ 58 :: value ++ 13 :: 10 :: rest) =
      (readHeaders fuel rest).map fun r => ((name, trim value) :: r.1, r.2) := by
  have hne : name ++ 58 :: value ≠ [] := by simp
  have hd : (name ++ 58 :: value).drop (name.length + 1) = value := by
    rw [← List.drop_drop, List.drop_left]
    rfl
  rw [readHeaders, cutLine_append rest hl]
  dsimp only
  rw [if_neg hne, find_append value hn]
  dsimp only
  rw [List.take_left, hd]

theorem readHeaders_end (fuel : Nat) (rest : Bytes) :
    readHeaders (fuel + 1) (13 :: 10 :: rest) = some ([], rest) := by
  rw [readHeaders, show (13 :: 10 :: rest : Bytes) = [] ++ 13 :: 10 :: rest from rfl,
    cutLine_append rest NoCrlf.nil]
  simp

theorem trim_space (s : Bytes) : trim (32 :: s) = trim s := by
  have h : isBlank 32 = true := by decide
  rw [trim, List.dropWhile_cons_of_pos h, trim]

theorem noCrlf_decimal (n : Nat) : NoCrlf (decimal n) := by
  refine NoCrlf.of_not_mem fun h => ?_
  exact absurd (decimal_isDigit n 10 h) (by decide)

theorem trim_decimal (n : Nat) : trim (decimal n) = decimal n := by
  have hb : ∀ b ∈ decimal n, ¬ isBlank b = true := by
    intro b hb h
    have h45 := le_of_isNumeric (isNumeric_of_isDigit (decimal_isDigit n b hb))
    simp only [isBlank, Bool.or_eq_true, beq_iff_eq] at h
    rcases h with rfl | rfl
    · exact absurd h45 (by decide)
    · exact absurd h45 (by decide)
  rw [trim, List.dropWhile_eq_self_iff.mpr fun h => hb _ (List.getElem_mem h),
    List.rdropWhile_eq_self_iff.mpr fun h => hb _ (List.getLast_mem h)]

/-! ## the request as lines -/

/-- what follows the value of `Host` -/
def afterHost (body : Bytes) : Bytes :=
  lit "User-Agent" ++ 58 :: lit " vehicle_detection/1.0.0" ++ 13 :: 10 ::
  (lit "Content-Type" ++ 58 :: lit " application/json" ++ 13 :: 10 ::
  (lit "Content-Length" ++ 58 :: 32 :: decimal body.length ++ 13 :: 10 ::
  (lit "Connection" ++ 58 :: lit " close" ++ 13 :: 10 ::
  (lit "Accept" ++ 58 :: lit " */*" ++ 13 :: 10 :: (13 :: 10 :: body)))))

theorem buildRequest_lines (u : HttpUrl) (body : Bytes) :
    buildRequest u body = requestLine u.path ++ 13 :: 10 ::
      (lit "Host" ++ 58 :: 32 :: hostValue u.host u.port ++ 13 :: 10 :: afterHost body) := by
  have e1 : lit "Host: " = lit "Host" ++ [58, 32] := by decide
  have e2 : lit "User-Agent: vehicle_detection/1.0.0"
      = lit "User-Agent" ++ 58 :: lit " vehicle_detection/1.0.0" := by decide
  have e3 : lit "Content-Type: application/json"
      = lit "Content-Type" ++ 58 :: lit " application/json" := by decide
  have e4 : lit "Content-Length: " = lit "Content-Length" ++ [58, 32] := by decide
  have e5 : lit "Connection: close" = lit "Connection" ++ 58 :: lit " close" := by decide
  have e6 : lit "Accept: */*" = lit "Accept" ++ 58 :: lit " */*" := by decide
  delta buildRequest
  rw [afterHost, crlf]
  simp only [e1, e2, e3, e4, e5, e6, List.append_assoc, List.cons_append, List.nil_append]

/-- the headers after `Host`, as the reader returns them -/
def headersAfterHost (body : Bytes) : List (Bytes × Bytes) :=
  [(lit "User-Agent", lit "vehicle_detection/1.0.0"), (lit "Content-Type", lit "application/json"),
    (lit "Content-Length", decimal body.length), (lit "Connection", lit "close"),
    (lit "Accept", lit "*/*")]

theorem noCrlf_contentLength (n : Nat) : NoCrlf (lit "Content-Length" ++ 58 :: 32 :: decimal n) := by
  have h : lit "Content-Length" ++ 58 :: 32 :: decimal n
      = lit "Content-Length: " ++ decimal n := by
    rw [show lit "Content-Length: " = lit "Content-Length" ++ [58, 32] by decide]
    simp
  have hd : (decimal n).head? ≠ some 10 := by
    intro hd
    exact absurd (decimal_isDigit n 10 (List.mem_of_mem_head? hd)) (by decide)
  rw [h, NoCrlf.append hd]
  exact ⟨by decide, noCrlf_decimal n⟩

theorem readHeaders_afterHost (fuel : Nat) (body : Bytes) :
    readHeaders (fuel + 6) (afterHost body) = some (headersAfterHost body, body) := by
  have hua : (58 : UInt8) ∉ lit "User-Agent" := by decide
  have hct : (58 : UInt8) ∉ lit "Content-Type" := by decide
  have hcl : (58 : UInt8) ∉ lit "Content-Length" := by decide
  have hco : (58 : UInt8) ∉ lit "Connection" := by decide
  have hac : (58 : UInt8) ∉ lit "Accept" := by decide
  rw [afterHost, readHeaders_line _ _ hua (by decide), readHeaders_line _ _ hct (by decide),
    readHeaders_line _ _ hcl (noCrlf_contentLength _), readHeaders_line _ _ hco (by decide),
    readHeaders_line _ _ hac (by decide), readHeaders_end, trim_space, trim_decimal]
  have t1 : trim (lit " vehicle_detection/1.0.0") = lit "vehicle_detection/1.0.0" := by decide
  have t2 : trim (lit " application/json") = lit "application/json" := by decide
  have t3 : trim (lit " close") = lit "close" := by decide
  have t4 : trim (lit " */*") = lit "*/*" := by decide
  simp only [Option.map_some, t1, t2, t3, t4]
  rfl

/-! ## the two lines the target is in -/

theorem requestLine_splitOn (path : Bytes) :
    (requestLine path).splitOn 32 = lit "POST" :: (path.splitOn 32 ++ [lit "HTTP/1.1"]) := by
  have e : requestLine path = lit "POST" ++ 32 :: (path ++ 32 :: lit "HTTP/1.1") := by
    rw [requestLine, show lit "POST " = lit "POST" ++ [32] by decide,
      show lit " HTTP/1.1" = 32 :: lit "HTTP/1.1" by decide]
    simp
  have h1 : (32 : UInt8) ∉ lit "POST" := by decide
  have h2 : (32 : UInt8) ∉ lit "HTTP/1.1" := by decide
  rw [e, splitOn_append, splitOn_append, splitOn_of_not_mem h1, splitOn_of_not_mem h2]
  rfl

theorem noCrlf_requestLine {path : Bytes} : NoCrlf (requestLine path) ↔ NoCrlf path := by
  have h1 : (lit " HTTP/1.1").head? ≠ some 10 := by decide
  have h2 : NoCrlf (lit " HTTP/1.1") := by decide
  have hp : NoCrlf (lit "POST " ++ path) ↔ NoCrlf path := by
    have e : lit "POST " ++ path = 80 :: 79 :: 83 :: 84 :: 32 :: path := rfl
    rw [e]
    simp [NoCrlf.cons]
  rw [requestLine, NoCrlf.append h1, hp]
  exact and_iff_left h2

theorem noCrlf_hostLine {v : Bytes} : NoCrlf (lit "Host" ++ 58 :: 32 :: v) ↔ NoCrlf v := by
  have e : lit "Host" ++ 58 :: 32 :: v = 72 :: 111 :: 115 :: 116 :: 58 :: 32 :: v := rfl
  rw [e]
  simp [NoCrlf.cons]

theorem noCrlf_hostValue {host port : Bytes} :
    NoCrlf (hostValue host port) ↔ NoCrlf host ∧ NoCrlf port := by
  unfold hostValue
  by_cases hp : port = lit "80"
  · subst hp
    have h80 : NoCrlf (lit "80") := by decide
    rw [if_pos rfl, List.append_nil]
    exact (and_iff_left h80).symm
  · rw [if_neg hp, NoCrlf.append (by simp), NoCrlf.cons]
    simp

/-- the blanks around the printed authority are those before the host and after the last part -/
theorem trim_hostValue {host port : Bytes} (hh : host ≠ []) (hp : port ≠ []) :
    trim (hostValue host port) = hostValue host port ↔
      host.head?.all (fun b => !isBlank b) ∧
      (if port = lit "80" then host else port).getLast?.all (fun b => !isBlank b) := by
  rw [trim_eq_self_iff, head?_hostValue hh]
  by_cases h80 : port = lit "80"
  · rw [if_pos h80, hostValue, if_pos h80, List.append_nil]
  · rw [if_neg h80, hostValue, if_neg h80, List.getLast?_append,
      List.getLast?_cons, Option.some_or]
    rw [List.getLast?_eq_some_getLast hp, Option.getD_some]

/-! ## what a reading says about the text -/

theorem readRequest_line {line rest : Bytes} {r : Request} (hl : NoCrlf line)
    (h : readRequest (line ++ 13 :: 10 :: rest) = some r) :
    line.splitOn 32 = [r.method, r.target, r.version] ∧
      readHeaders (rest.length + 1) rest = some (r.headers, r.body) := by
  rw [readRequest, cutLine_append rest hl] at h
  dsimp only at h
  split at h
  · rename_i method target version hs
    obtain ⟨p, hp, rfl⟩ := Option.map_eq_some_iff.mp h
    exact ⟨hs, hp⟩
  · cases h

/-- a path with a line end in it is cut before its end -/
theorem path_line_of_readRequest {path rest : Bytes} {r : Request}
    (h : readRequest (requestLine path ++ 13 :: 10 :: rest) = some r) (ht : r.target = path) :
    NoCrlf path := by
  by_contra hn
  obtain ⟨a, b, e, ha⟩ := exists_crlf hn
  have hpost : NoCrlf (lit "POST " ++ a) := by
    have e : lit "POST " ++ a = 80 :: 79 :: 83 :: 84 :: 32 :: a := rfl
    rw [e]
    simpa [NoCrlf.cons] using ha
  have htext : requestLine path ++ 13 :: 10 :: rest = lit "POST " ++ a ++ 13 :: 10 ::
      (b ++ lit " HTTP/1.1" ++ 13 :: 10 :: rest) := by
    rw [requestLine, e]
    simp
  rw [htext] at h
  have hs := (readRequest_line hpost h).1
  have h1 : (32 : UInt8) ∉ lit "POST" := by decide
  rw [show lit "POST " ++ a = lit "POST" ++ 32 :: a from rfl, splitOn_append,
    splitOn_of_not_mem h1] at hs
  have hparts : a.splitOn 32 = [r.target, r.version] := (List.cons.inj hs).2
  have hj : [32].intercalate (a.splitOn 32) = a := List.intercalate_splitOn 32
  rw [hparts, ht, List.intercalate_cons_cons, List.intercalate_singleton] at hj
  have hlen := congrArg List.length hj
  have hlen' := congrArg List.length e
  simp only [List.length_append, List.length_cons] at hlen hlen'
  omega

theorem path_word_of_readRequest {path rest : Bytes} {r : Request} (hl : NoCrlf path)
    (h : readRequest (requestLine path ++ 13 :: 10 :: rest) = some r) : (32 : UInt8) ∉ path := by
  have hs := (readRequest_line (noCrlf_requestLine.mpr hl) h).1
  rw [requestLine_splitOn] at hs
  have hp : path.splitOn 32 ++ [lit "HTTP/1.1"] = [r.target] ++ [r.version] := (List.cons.inj hs).2
  exact not_mem_of_splitOn (List.append_inj_left' hp rfl)

/-- The value of `Host` is at most what was printed, so it is all of it. -/
theorem host_of_readHeaders {host port v rest b : Bytes} {hs : List (Bytes × Bytes)} {fuel : Nat}
    (h : readHeaders (fuel + 1) (lit "Host" ++ 58 :: 32 :: hostValue host port ++ 13 :: 10 :: rest)
      = some ((lit "Host", v) :: hs, b))
    (hv : splitAuthority v = some (host, port)) :
    NoCrlf (hostValue host port) ∧ trim (hostValue host port) = hostValue host port ∧
      v = hostValue host port := by
  have hcolon : (58 : UInt8) ∉ lit "Host" := by decide
  -- `w` is the text up to the first line end after `Host`
  have hcut : ∀ w t, NoCrlf w →
      lit "Host" ++ 58 :: 32 :: hostValue host port ++ 13 :: 10 :: rest =
        lit "Host" ++ 58 :: 32 :: w ++ 13 :: 10 :: t → v = trim w := by
    intro w t hw e
    rw [e, readHeaders_line _ _ hcolon (noCrlf_hostLine.mpr hw)] at h
    obtain ⟨p, -, hp⟩ := Option.map_eq_some_iff.mp h
    have := congrArg Prod.fst hp
    have := (List.cons.inj this).1
    rw [← trim_space w]
    exact (congrArg Prod.snd this).symm
  have hle := hostValue_length_le hv
  by_cases hn : NoCrlf (hostValue host port)
  · have e := hcut _ rest hn rfl
    have ht : trim (hostValue host port) = hostValue host port :=
      trim_eq_of_length (by rw [← e]; exact hle)
    exact ⟨hn, ht, e.trans ht⟩
  · obtain ⟨a, c, e, ha⟩ := exists_crlf hn
    have hw := hcut a (c ++ 13 :: 10 :: rest) ha (by rw [e]; simp)
    have hlen := congrArg List.length e
    have ht := trim_length_le a
    rw [hw] at hle
    simp only [List.length_append, List.length_cons] at hlen
    omega

/-! ## the round trip -/

theorem readsBack_of_plain {u : HttpUrl} (hh : u.host ≠ []) (hp : u.port ≠ []) (h : u.Plain)
    (body : Bytes) : ReadsBack u body := by
  have hline := noCrlf_requestLine.mpr h.path_line
  have hhost : NoCrlf (hostValue u.host u.port) :=
    noCrlf_hostValue.mpr ⟨h.host_line, h.port_line⟩
  have htrim := (trim_hostValue hh hp).mpr ⟨h.first_blank, h.last_blank⟩
  have hsplit := (splitAuthority_hostValue hh hp).mpr
    ⟨h.bracket, by split; exacts [h.host_colon, h.port_colon]⟩
  have hcolon : (58 : UInt8) ∉ lit "Host" := by decide
  obtain ⟨k, hk⟩ : ∃ k, (lit "Host" ++ 58 :: 32 :: hostValue u.host u.port ++ 13 :: 10 ::
      afterHost body).length = k + 6 := by
    apply Nat.exists_eq_add_of_le'
    have h4 : (lit "Host").length = 4 := by decide
    simp only [List.length_append, List.length_cons]
    omega
  have hread : readRequest (buildRequest u body) = some
      ⟨lit "POST", u.path, lit "HTTP/1.1",
        (lit "Host", hostValue u.host u.port) :: headersAfterHost body, body⟩ := by
    rw [buildRequest_lines, readRequest, cutLine_append _ hline]
    dsimp only
    rw [requestLine_splitOn, splitOn_of_not_mem h.path_word, hk,
      readHeaders_line _ _ hcolon (noCrlf_hostLine.mpr hhost), readHeaders_afterHost, trim_space,
      htrim]
    rfl
  have hliteral : (58 : UInt8) ∈ u.host → ∃ rest, hostValue u.host u.port = 91 :: u.host ++ 93 :: rest :=
    fun hc => absurd hc h.host_colon
  exact ⟨_, _, _, hread, rfl, rfl, rfl, rfl, hsplit, hliteral, readDecimal_decimal _, rfl⟩

theorem plain_of_readsBack {u : HttpUrl} (hh : u.host ≠ []) (hp : u.port ≠ []) {body : Bytes}
    (h : ReadsBack u body) : u.Plain := by
  obtain ⟨r, v, size, hread, -, ht, -, hheaders, hv, hliteral, -, -⟩ := h
  rw [buildRequest_lines] at hread
  have hpath := path_line_of_readRequest hread ht
  have hrest := (readRequest_line (noCrlf_requestLine.mpr hpath) hread).2
  rw [hheaders] at hrest
  obtain ⟨hn, htrim, rfl⟩ := host_of_readHeaders hrest hv
  obtain ⟨hhost, hport⟩ := noCrlf_hostValue.mp hn
  obtain ⟨hfirst, hlast⟩ := (trim_hostValue hh hp).mp htrim
  obtain ⟨hb, hc⟩ := (splitAuthority_hostValue hh hp).mp hv
  -- what is printed begins with the host, and so with no bracket
  have hcolon : (58 : UInt8) ∉ u.host := by
    intro hmem
    obtain ⟨rest, hrest⟩ := hliteral hmem
    apply hb
    rw [← head?_hostValue hh u.port, hrest]
    rfl
  have hport_colon : (58 : UInt8) ∉ u.port := by
    by_cases h80 : u.port = lit "80"
    · rw [h80]
      decide
    · rwa [if_neg h80] at hc
  exact ⟨path_word_of_readRequest hpath hread, hpath, hhost, hport, hfirst, hlast, hb, hcolon, hport_colon⟩

/-- **Round trip of the request.**  For every accepted URL and every body, the request text reads
back to the target and the body if and only if the target is plain. -/
theorem reads_back (url body : Bytes) (u : HttpUrl) (h : parseHttpUrl url = some u) :
    ReadsBack u body ↔ u.Plain := by
  obtain ⟨hh, hp⟩ := parseHttpUrl_ne_nil h
  exact ⟨plain_of_readsBack hh hp, fun hu => readsBack_of_plain hh hp hu body⟩

theorem reads_back_plain :
    ReadsBack ⟨lit "127.0.0.1", lit "9000", lit "/detections"⟩ (lit "\x7b\x7d") := by
  apply (reads_back (lit "http://127.0.0.1:9000/detections") _ _ (by decide)).mpr
  exact ⟨by decide, by decide, by decide, by decide, by decide, by decide, by decide, by decide, by decide⟩

/-- An IPv6 literal on the default port: the brackets are not printed again, and the last colon of
the literal is read as the one before a port. -/
theorem reads_back_ipv6 :
    parseHttpUrl (lit "http://[::1]/x") = some ⟨lit "::1", lit "80", lit "/x"⟩ ∧
      splitAuthority (hostValue (lit "::1") (lit "80")) = some (lit ":", lit "1") ∧
      ¬ ReadsBack ⟨lit "::1", lit "80", lit "/x"⟩ [] := by
  refine ⟨by decide, by decide, fun h => ?_⟩
  have hplain := plain_of_readsBack (by decide) (by decide) h
  exact absurd hplain.host_colon (by decide)

end VD
