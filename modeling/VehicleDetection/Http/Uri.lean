import VehicleDetection.Http.Url

/-!
# http URLs as they are written, and `parse_http_url`

* `HttpUri`            the parts of a well-formed http URL without user info and fragment;
* `HttpUri.text`       the URL;
* `HttpUri.expected`   host, port and request target it stands for;
* `parseHttpUrl_text_iff`  the parser returns these exactly when a query comes with a path.
-/

set_option linter.unusedVariables false

namespace VD
open BStr

/-- `none` of the bytes of `set` occurs in `s` -/
abbrev Without (set : String) (s : Bytes) : Prop := ∀ c ∈ lit set, c ∉ s

/-- a registered name or an IPv4 address, or what stands between the brackets of an IPv6 literal -/
inductive UriHost
  | name (b : Bytes) (h : b ≠ [] ∧ Without ":/?#[]@" b)
  | literal (b : Bytes) (h : b ≠ [] ∧ Without "/?#[]@" b)

namespace UriHost

/-- the host without brackets -/
def bytes : UriHost → Bytes
  | name b _ => b
  | literal b _ => b

def text : UriHost → Bytes
  | name b _ => b
  | literal b _ => 91 :: b ++ [93]

theorem bytes_ne_nil (h : UriHost) : h.bytes ≠ [] := by
  cases h with
  | name b h | literal b h => exact h.1

theorem not_mem_text (h : UriHost) {c : UInt8} (hc : c = 47 ∨ c = 63) : c ∉ h.text := by
  cases h with
  | name b h => rcases hc with rfl | rfl <;> exact h.2 _ (by decide)
  | literal b h =>
    have hb : c ∉ b := by rcases hc with rfl | rfl <;> exact h.2 _ (by decide)
    rcases hc with rfl | rfl <;> simpa [text] using hb

end UriHost

structure HttpUri where
  host : UriHost
  port : Option Bytes
  path : Bytes
  query : Option Bytes
  port_ok : ∀ p ∈ port, p ≠ [] ∧ ∀ c ∈ p, isDigit c = true
  path_ok : (path = [] ∨ path.head? = some 47) ∧ Without "?#" path
  query_ok : ∀ q ∈ query, Without "#" q

namespace HttpUri

def portText (u : HttpUri) : Bytes :=
  match u.port with
  | none => []
  | some p => 58 :: p

def queryText (u : HttpUri) : Bytes :=
  match u.query with
  | none => []
  | some q => 63 :: q

def authority (u : HttpUri) : Bytes := u.host.text ++ u.portText

def text (u : HttpUri) : Bytes := lit "http://" ++ (u.authority ++ (u.path ++ u.queryText))

/-- host without brackets, port or 80, path or `/` with the query -/
def expected (u : HttpUri) : HttpUrl where
  host := u.host.bytes
  port := u.port.getD (lit "80")
  path := (if u.path = [] then lit "/" else u.path) ++ u.queryText

theorem not_mem_portText (u : HttpUri) {c : UInt8} (hc : isDigit c = false) (h58 : c ≠ 58) :
    c ∉ u.portText := by
  unfold portText
  cases hp : u.port with
  | none => simp
  | some p =>
    intro hm
    rcases List.mem_cons.mp hm with rfl | hm
    · exact h58 rfl
    · have := (u.port_ok p hp).2 c hm
      rw [hc] at this
      cases this

theorem slash_not_mem_authority (u : HttpUri) : (47 : UInt8) ∉ u.authority := by
  rw [authority, List.mem_append, not_or]
  exact ⟨u.host.not_mem_text (.inl rfl), u.not_mem_portText (by decide) (by decide)⟩

theorem authority_ne_nil (u : HttpUri) : u.authority ≠ [] := by
  intro e
  have ht := (List.append_eq_nil_iff.mp e).1
  have hb := u.host.bytes_ne_nil
  cases hh : u.host with
  | name b h =>
    rw [hh] at ht hb
    exact hb ht
  | literal b h =>
    rw [hh] at ht
    cases ht

end HttpUri

/-! ## the parser on an authority and what follows it -/

/-- what the parser makes of the authority and of the target behind it -/
def parsedParts (authority path : Bytes) : Option HttpUrl :=
  (splitAuthority authority).map fun hp => ⟨hp.1, hp.2, path⟩

theorem splitAuthority_of_parsedParts {a p : Bytes} {u : HttpUrl} (h : parsedParts a p = some u) :
    splitAuthority a = some (u.host, u.port) := by
  obtain ⟨hp, hs, rfl⟩ := Option.map_eq_some_iff.mp h
  exact hs

theorem parseHttpUrl_scheme {rest : Bytes} (hne : rest ≠ []) :
    parseHttpUrl (lit "http://" ++ rest) =
      match find 47 rest with
      | none => parsedParts rest (lit "/")
      | some slash =>
        if rest.take slash = [] then none else parsedParts (rest.take slash) (rest.drop slash) := by
  have hp : (lit "http://").isPrefixOf (lit "http://" ++ rest) = true := by simp
  have hd : (lit "http://" ++ rest).drop (lit "http://").length = rest := List.drop_left
  unfold parseHttpUrl parsedParts
  dsimp only
  rw [hd, if_neg (not_not_intro hp), if_neg hne]
  cases hf : find 47 rest with
  | none =>
    dsimp only
    rw [if_neg hne]
    cases splitAuthority rest <;> rfl
  | some slash =>
    dsimp only
    split
    · rfl
    · cases splitAuthority (rest.take slash) <;> rfl

theorem parseHttpUrl_slash {a : Bytes} (hne : a ≠ []) (ha : (47 : UInt8) ∉ a) (p : Bytes) :
    parseHttpUrl (lit "http://" ++ (a ++ 47 :: p)) = parsedParts a (47 :: p) := by
  rw [parseHttpUrl_scheme (by simp [hne]), find_append p ha]
  dsimp only
  rw [List.take_left, List.drop_left, if_neg hne]

theorem parseHttpUrl_noSlash {a : Bytes} (hne : a ≠ []) (ha : (47 : UInt8) ∉ a) :
    parseHttpUrl (lit "http://" ++ a) = parsedParts a (lit "/") := by
  rw [parseHttpUrl_scheme hne, find_none ha]

/-! ## the authority -/

theorem eighty_ne_nil : lit "80" ≠ [] := by decide

/-- an authority that begins with a bracketed literal -/
theorem splitAuthority_literal {b : Bytes} (hb : (93 : UInt8) ∉ b) (hne : b ≠ []) (r : Bytes) :
    splitAuthority (91 :: b ++ 93 :: r) =
      match r with
      | [] => some (b, lit "80")
      | c :: p => if c = 58 ∧ p ≠ [] then some (b, p) else none := by
  have hf : find 93 (91 :: b ++ 93 :: r) = some (b.length + 1) :=
    find_append r (a := 91 :: b) (by simpa using hb)
  have ht : (91 :: b ++ 93 :: r).take (91 :: b).length = 91 :: b := List.take_left
  rw [List.length_cons] at ht
  have hh : (91 :: b ++ 93 :: r).head? = some 91 := rfl
  simp only [splitAuthority, hh, hf, ht, if_true, List.drop_one, List.tail_cons]
  cases r with
  | nil => simp [hne, eighty_ne_nil]
  | cons c p =>
    have hc : (91 :: b ++ 93 :: c :: p)[b.length + 1 + 1]? = some c := by simp
    have hd : (91 :: b ++ 93 :: c :: p).drop (b.length + 1 + 2) = p := by simp
    rw [hc, hd, if_pos (by simp)]
    by_cases h58 : c = 58
    · by_cases hp : p = [] <;> simp [h58, hp, hne]
    · simp [h58]

theorem splitAuthority_plain {a : Bytes} (hne : a ≠ []) (hb : a.head? ≠ some 91)
    (h58 : (58 : UInt8) ∉ a) : splitAuthority a = some (a, lit "80") := by
  rw [splitAuthority_of_head hb, rfind_none h58]
  simp [hne, eighty_ne_nil]

theorem splitAuthority_colon {h p : Bytes} (hne : h ≠ []) (hb : h.head? ≠ some 91) (hp : p ≠ [])
    (h58 : (58 : UInt8) ∉ p) : splitAuthority (h ++ 58 :: p) = some (h, p) := by
  have hb' : (h ++ 58 :: p).head? ≠ some 91 := by
    rwa [List.head?_append_of_ne_nil _ hne]
  rw [splitAuthority_of_head hb', rfind_append h h58]
  simp [hne, hp]

namespace HttpUri

theorem head?_name {b : Bytes} (h : Without ":/?#[]@" b) : b.head? ≠ some 91 :=
  fun e => h 91 (by decide) (List.mem_of_mem_head? e)

theorem port_not_mem (u : HttpUri) {p : Bytes} (hp : u.port = some p) : (58 : UInt8) ∉ p := by
  intro hm
  exact absurd ((u.port_ok p hp).2 58 hm) (by decide)

/-- the authority of a URL is cut into its host and its port -/
theorem splitAuthority_authority (u : HttpUri) :
    splitAuthority u.authority = some (u.host.bytes, u.port.getD (lit "80")) := by
  unfold authority portText
  cases hh : u.host with
  | name b h =>
    have hb := head?_name h.2
    cases hp : u.port with
    | none =>
      show splitAuthority (b ++ []) = _
      rw [List.append_nil]
      exact splitAuthority_plain h.1 hb (h.2 58 (by decide))
    | some p => exact splitAuthority_colon h.1 hb (u.port_ok p hp).1 (u.port_not_mem hp)
  | literal b h =>
    have hb : (93 : UInt8) ∉ b := h.2 93 (by decide)
    show splitAuthority ((91 :: b ++ [93]) ++ _) = _
    rw [List.append_assoc, List.singleton_append, splitAuthority_literal hb h.1]
    cases hp : u.port with
    | none => rfl
    | some p => exact if_pos ⟨rfl, (u.port_ok p hp).1⟩

/-- a port with a query run into it is not the port -/
theorem portText_query_ne (u : HttpUri) (q : Bytes) :
    u.portText ++ 63 :: q ≠ 58 :: u.port.getD (lit "80") := by
  intro h
  unfold portText at h
  cases hp : u.port with
  | none =>
    rw [hp] at h
    cases (List.cons.inj h).1
  | some p =>
    rw [hp] at h
    have hl := congrArg List.length h
    simp at hl

theorem splitAuthority_name_query {b : Bytes} (hb : b ≠ [] ∧ Without ":/?#[]@" b) {t p : Bytes}
    (h63 : (63 : UInt8) ∈ t) (h : splitAuthority (b ++ t) = some (b, p)) : t = 58 :: p := by
  rcases splitAuthority_cases h with ⟨-, hhead, -⟩ | ⟨-, -, he, -⟩ | ⟨-, he, -⟩
  · -- the host begins with no bracket
    exact absurd ((List.head?_append_of_ne_nil _ hb.1).symm.trans hhead) (head?_name hb.2)
  · -- the whole text is the host, which has no question mark
    have hq : (63 : UInt8) ∈ b := he ▸ List.mem_append_right b h63
    exact absurd hq (hb.2 63 (by decide))
  · exact List.append_cancel_left he

theorem splitAuthority_literal_query {b : Bytes} (hb : (93 : UInt8) ∉ b) (hne : b ≠ []) {t p : Bytes}
    (ht : t ≠ []) (h : splitAuthority (91 :: b ++ 93 :: t) = some (b, p)) : t = 58 :: p := by
  rw [splitAuthority_literal hb hne] at h
  cases t with
  | nil => exact absurd rfl ht
  | cons c t =>
    dsimp only at h
    split at h
    · rename_i hc
      rw [hc.1, (Prod.mk.inj (Option.some.inj h)).2]
    · cases h

/-- an authority with a query run into it is never cut into the host and the port of the URL -/
theorem splitAuthority_query (u : HttpUri) (q : Bytes) :
    splitAuthority (u.authority ++ 63 :: q) ≠ some (u.host.bytes, u.port.getD (lit "80")) := by
  intro h
  apply u.portText_query_ne q
  rw [authority, List.append_assoc] at h
  cases hh : u.host with
  | name b hb =>
    rw [hh] at h
    exact splitAuthority_name_query hb (by simp) h
  | literal b hb =>
    rw [hh] at h
    have e : (UriHost.literal b hb).text ++ (u.portText ++ 63 :: q) =
        91 :: b ++ 93 :: (u.portText ++ 63 :: q) := by
      simp [UriHost.text]
    rw [e] at h
    exact splitAuthority_literal_query (hb.2 93 (by decide)) hb.1 (by simp) h

end HttpUri

/-- **A URL is parsed into its host, its port and its target exactly when it has a path or no query.**
Without a path the query runs into the authority. -/
theorem parseHttpUrl_text_iff (u : HttpUri) :
    parseHttpUrl u.text = some u.expected ↔ u.path ≠ [] ∨ u.query = none := by
  have hne := u.authority_ne_nil
  have hslash := u.slash_not_mem_authority
  unfold HttpUri.text
  by_cases hp : u.path = []
  · rw [hp, List.nil_append]
    cases hq : u.query with
    | none =>
      have ht : u.queryText = [] := by rw [HttpUri.queryText, hq]
      rw [ht, List.append_nil, parseHttpUrl_noSlash hne hslash, parsedParts, u.splitAuthority_authority]
      refine iff_of_true ?_ (.inr rfl)
      rw [HttpUri.expected, ht, if_pos hp]
      rfl
    | some q =>
      refine iff_of_false (fun h => ?_) (by simp)
      have ht : u.queryText = 63 :: q := by rw [HttpUri.queryText, hq]
      rw [ht] at h
      -- the authority that is cut off ends where the query has its first slash
      obtain ⟨q₁, h'⟩ : ∃ q₁, splitAuthority (u.authority ++ 63 :: q₁) =
          some (u.expected.host, u.expected.port) := by
        by_cases hm : (47 : UInt8) ∈ q
        · obtain ⟨q₁, q₂, rfl, h₁⟩ := List.eq_append_cons_of_mem hm
          have e : u.authority ++ 63 :: (q₁ ++ 47 :: q₂) = (u.authority ++ 63 :: q₁) ++ 47 :: q₂ := by simp
          rw [e, parseHttpUrl_slash (by simp) (by simp [hslash, h₁])] at h
          exact ⟨q₁, splitAuthority_of_parsedParts h⟩
        · rw [parseHttpUrl_noSlash (by simp) (by simp [hslash, hm])] at h
          exact ⟨q, splitAuthority_of_parsedParts h⟩
      exact u.splitAuthority_query q₁ h'
  · refine iff_of_true ?_ (.inl hp)
    obtain ⟨p, hp'⟩ := List.head?_eq_some_iff.mp (u.path_ok.1.resolve_left hp)
    rw [hp', List.cons_append, parseHttpUrl_slash hne hslash, parsedParts, u.splitAuthority_authority,
      HttpUri.expected, if_neg hp, hp']
    rfl

/-- `http://h?q`: the whole text behind the scheme becomes the host -/
def queryWithoutPath : HttpUri where
  host := .name (lit "h") (by decide +kernel)
  port := none
  path := []
  query := some (lit "q")
  port_ok := nofun
  path_ok := ⟨.inl rfl, fun _ _ => List.not_mem_nil⟩
  query_ok := by
    rintro q hq
    obtain rfl := Option.mem_some_iff.mp hq
    decide +kernel

theorem parseHttpUrl_queryWithoutPath :
    queryWithoutPath.text = lit "http://h?q" ∧
      parseHttpUrl queryWithoutPath.text = some ⟨lit "h?q", lit "80", lit "/"⟩ ∧
      ¬ ∀ u : HttpUri, parseHttpUrl u.text = some u.expected := by
  refine ⟨by decide, by decide, fun h => ?_⟩
  exact absurd (h queryWithoutPath) (by decide)

end VD
