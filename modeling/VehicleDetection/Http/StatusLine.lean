import VehicleDetection.Http.Client

/-!
# What `parse_status_line` accepts

`std::stoi` skips blanks, takes a sign and stops behind the digits; nothing compares what it has read with
the whole token.

* `StatusCode`     the status-line grammar: three digits between the first two blanks;
* `ReadsNumber`    the tokens of which `std::stoi` reads a number that is not negative;
* `Meets`          the parser and the call agree with the grammar;
* `meets_iff`      they do exactly when `std::stoi` reads no number of another token.
-/

set_option linter.unusedVariables false

namespace VD
open BStr

def ThreeDigits (token : Bytes) : Prop := token.length = 3 ∧ ∀ d ∈ token, isDigit d = true

/-- a well-formed status line with this code -/
def StatusCode (buffer : Bytes) (code : Nat) : Prop :=
  ∃ token, HasToken buffer token ∧ ThreeDigits token ∧ readDigits token = code

/-- blanks, a sign, then digits of a number in the range of `int` that is not negative -/
def ReadsNumber (token : Bytes) : Prop :=
  ∃ blanks sign digits rest, IntText token blanks sign digits rest ∧ readDigits digits ≤ 2147483647 ∧
    (sign = [45] → readDigits digits = 0)

/-! ## tokens -/

/-- A token that is found is in its place. -/
theorem hasToken_of {buffer token : Bytes} (h : statusToken buffer = some token) :
    HasToken buffer token := by
  obtain ⟨eol, he, h⟩ := Option.bind_eq_some_iff.mp h
  have hcr : ¬ NoCrlf buffer := by
    intro hno
    cases hno.symm.trans he
  obtain ⟨line, after, rfl, hline⟩ := exists_crlf hcr
  obtain rfl : line.length = eol := Option.some.inj ((findSub_crlf_append after hline).symm.trans he)
  simp only [List.take_left] at h
  split at h
  · cases h
  rename_i hpre
  obtain ⟨t, rfl⟩ := List.isPrefixOf_iff_prefix.mp (not_not.mp hpre)
  obtain ⟨first, hfirst, h⟩ := Option.map_eq_some_iff.mp h
  obtain ⟨a, b, hab, ha, rfl⟩ := find_some hfirst
  -- the first blank is behind `HTTP/`
  have hlen : (lit "HTTP/").length ≤ a.length := by
    by_contra hlt
    have hp : a ++ [32] <+: lit "HTTP/" ++ t := ⟨b, by rw [hab, List.append_assoc]; rfl⟩
    have hmem : (32 : UInt8) ∈ lit "HTTP/" := by
      have hp' := List.prefix_of_prefix_length_le hp (List.prefix_append (lit "HTTP/") t)
        (by rw [List.length_append]; simpa using Nat.lt_of_not_le hlt)
      exact hp'.subset (List.mem_append_right _ (List.mem_singleton_self _))
    exact absurd hmem (by decide)
  obtain ⟨version, rfl⟩ : ∃ version, a = lit "HTTP/" ++ version := by
    obtain ⟨version, hv⟩ := List.prefix_of_prefix_length_le (List.prefix_append (lit "HTTP/") t)
      (⟨32 :: b, hab.symm⟩ : a <+: lit "HTTP/" ++ t) hlen
    exact ⟨version, hv.symm⟩
  have hdrop : (lit "HTTP/" ++ t).drop ((lit "HTTP/" ++ version).length + 1) = b := by
    rw [hab, ← List.drop_drop, List.drop_left]
    rfl
  rw [hdrop] at h
  have hv : (32 : UInt8) ∉ version := fun hm => ha (List.mem_append_right _ hm)
  rw [hab] at hline ⊢
  cases hf : find 32 b with
  | none =>
    rw [hf] at h
    obtain rfl : b = token := h
    have hb : (32 : UInt8) ∉ b := by
      intro hm
      obtain ⟨c, d, rfl, hc⟩ := List.eq_append_cons_of_mem hm
      rw [find_append d hc] at hf
      cases hf
    exact ⟨version, [], after, by simp, hv, hb, .inl rfl, by rwa [List.append_nil]⟩
  | some n =>
    rw [hf] at h
    obtain ⟨c, d, rfl, hc, rfl⟩ := find_some hf
    obtain rfl : c = token := by
      rw [← h]
      exact List.take_left.symm
    exact ⟨version, 32 :: d, after, by simp, hv, hc, .inr rfl, by simpa using hline⟩

/-- there is one such token at most -/
theorem HasToken.unique {buffer token token' : Bytes} (h : HasToken buffer token)
    (h' : HasToken buffer token') : token = token' :=
  Option.some.inj ((statusToken_eq h).symm.trans (statusToken_eq h'))

/-- the parser, on a token -/
theorem parseStatusLine_eq_natCast {buffer : Bytes} {code : Nat} :
    parseStatusLine buffer = code ↔ ∃ token, HasToken buffer token ∧ stoi token = some (code : Int) := by
  rw [parseStatusLine_token]
  constructor
  · intro h
    cases hs : (statusToken buffer).bind stoi with
    | none =>
      rw [hs] at h
      exact absurd h (by simp)
    | some z =>
      rw [hs] at h
      obtain ⟨token, htoken, hz⟩ := Option.bind_eq_some_iff.mp hs
      exact ⟨token, hasToken_of htoken, hz.trans (congrArg some h)⟩
  · rintro ⟨token, htoken, hz⟩
    rw [statusToken_eq htoken, Option.bind_some, hz]
    rfl

/-! ## numbers -/

theorem stoi_reads {token : Bytes} : (∃ n : Nat, stoi token = some (n : Int)) ↔ ReadsNumber token := by
  constructor
  · rintro ⟨n, h⟩
    obtain ⟨blanks, sign, digits, rest, ht⟩ := exists_intText h
    rw [stoi_text ht] at h
    refine ⟨blanks, sign, digits, rest, ht, ?_⟩
    by_cases hs : sign = [45]
    · simp only [if_pos hs] at h
      split at h
      · have hn := Option.some.inj h
        exact ⟨by omega, fun _ => by omega⟩
      · cases h
    · simp only [if_neg hs] at h
      split at h
      · exact ⟨by omega, fun h => absurd h hs⟩
      · cases h
  · rintro ⟨blanks, sign, digits, rest, ht, hle, hneg⟩
    refine ⟨readDigits digits, ?_⟩
    rw [stoi_text ht]
    by_cases hs : sign = [45]
    · simp only [if_pos hs, hneg hs]
      rfl
    · simp only [if_neg hs]
      rw [if_pos ⟨by omega, by omega⟩]

theorem isDigit_toNat {d : UInt8} (h : isDigit d = true) : d.toNat - 48 ≤ 9 := by
  simp only [isDigit, Bool.and_eq_true, decide_eq_true_eq, UInt8.le_iff_toNat_le] at h
  have h57 : (57 : UInt8).toNat = 57 := rfl
  omega

theorem ThreeDigits.readDigits_le {token : Bytes} (h : ThreeDigits token) : readDigits token ≤ 999 := by
  obtain ⟨hlen, hd⟩ := h
  obtain ⟨a, b, c, rfl⟩ := List.length_eq_three.mp hlen
  have ha := isDigit_toNat (hd a (by simp))
  have hb := isDigit_toNat (hd b (by simp))
  have hc := isDigit_toNat (hd c (by simp))
  show 10 * (10 * (10 * 0 + (a.toNat - 48)) + (b.toNat - 48)) + (c.toNat - 48) ≤ 999
  omega

/-- three digits are read as their number -/
theorem ThreeDigits.stoi {token : Bytes} (h : ThreeDigits token) :
    stoi token = some (readDigits token : Int) := by
  have hle := h.readDigits_le
  obtain ⟨hlen, hd⟩ := h
  have hne : token ≠ [] := by
    rintro rfl
    cases hlen
  have ht : IntText token [] [] token [] := ⟨by simp, nofun, .inl rfl, hne, hd, nofun⟩
  rw [stoi_text ht]
  simp only [List.nil_eq, reduceCtorEq, if_false]
  rw [if_pos ⟨by omega, by omega⟩]

/-! ## the parser and the grammar -/

structure Meets (buffer : Bytes) : Prop where
  code : ∀ code : Nat, parseStatusLine buffer = code ↔ StatusCode buffer code
  invalid : (¬ ∃ code, StatusCode buffer code) → (judgeResponse buffer).ok = false ∧
    (judgeResponse buffer).statusCode < 0 ∧ (judgeResponse buffer).error = lit "invalid HTTP response"
  ok : (judgeResponse buffer).ok = true → ∃ code, StatusCode buffer code ∧ 200 ≤ code ∧ code < 300

/-- Every well-formed status line is read. -/
theorem StatusCode.parse {buffer : Bytes} {code : Nat} (h : StatusCode buffer code) :
    parseStatusLine buffer = code := by
  obtain ⟨token, htoken, hthree, rfl⟩ := h
  exact parseStatusLine_eq_natCast.mpr ⟨token, htoken, hthree.stoi⟩

/-- The call follows from the parser. -/
theorem meets_of_code {buffer : Bytes}
    (h : ∀ code : Nat, parseStatusLine buffer = code ↔ StatusCode buffer code) : Meets buffer := by
  refine ⟨h, fun hno => ?_, fun hok => ?_⟩
  · have hneg : parseStatusLine buffer < 0 := by
      by_contra hge
      obtain ⟨n, hn⟩ := Int.eq_ofNat_of_zero_le (not_lt.mp hge)
      exact hno ⟨n, (h n).mp hn⟩
    unfold judgeResponse
    simp only [if_pos hneg]
    exact ⟨trivial, hneg, trivial⟩
  · unfold judgeResponse at hok
    simp only at hok
    split at hok
    · cases hok
    · split at hok
      · rename_i hge hrange
        obtain ⟨n, hn⟩ := Int.eq_ofNat_of_zero_le (not_lt.mp hge)
        exact ⟨n, (h n).mp hn, by omega, by omega⟩
      · cases hok

/-- For every buffer: the parser agrees with the grammar, and the call with the parser, exactly when the
token, if there is one, is three digits or no text of which `std::stoi` reads a number from 0 on. -/
theorem meets_iff (buffer : Bytes) :
    Meets buffer ↔ ∀ token, HasToken buffer token → ReadsNumber token → ThreeDigits token := by
  constructor
  · intro h token htoken hreads
    obtain ⟨n, hn⟩ := stoi_reads.mpr hreads
    obtain ⟨token', htoken', hthree, -⟩ := (h.code n).mp (parseStatusLine_eq_natCast.mpr ⟨token, htoken, hn⟩)
    rw [htoken.unique htoken']
    exact hthree
  · intro h
    refine meets_of_code fun code => ⟨fun hc => ?_, StatusCode.parse⟩
    obtain ⟨token, htoken, hn⟩ := parseStatusLine_eq_natCast.mp hc
    have hthree := h token htoken (stoi_reads.mp ⟨code, hn⟩)
    have he := hthree.stoi.symm.trans hn
    exact ⟨token, htoken, hthree, Int.ofNat.inj (Option.some.inj he)⟩

/-- `HTTP/1.1 200abc` is taken for a 200. -/
theorem meets_letters :
    judgeResponse (lit "HTTP/1.1 200abc" ++ crlf) = { ok := true, statusCode := 200 } ∧
      ¬ Meets (lit "HTTP/1.1 200abc" ++ crlf) := by
  refine ⟨by decide, fun h => ?_⟩
  obtain ⟨token, htoken, hthree, -⟩ := (h.code 200).mp (by decide)
  have he : statusToken (lit "HTTP/1.1 200abc" ++ crlf) = some (lit "200abc") := by decide
  obtain rfl := Option.some.inj (he.symm.trans (statusToken_eq htoken))
  exact absurd hthree.1 (by decide)

end VD
