import VehicleDetection.Base.Decimal

/-!
# `parse_http_url`

* `splitAuthority`            the cut of `host[:port]`, with `[..]` around an IPv6 literal;
* `parseHttpUrl`              the whole parser (`none` is `false`);
* `hostValue`                 the text the request builder puts after `Host: `;
* `splitAuthority_hostValue`  when that text is cut back into the same host and port.
-/

set_option linter.unusedVariables false

namespace VD
open BStr

structure HttpUrl where
  host : Bytes := []
  port : Bytes := []
  path : Bytes := []
deriving DecidableEq

/-- The authority part of `parse_http_url`.  58 is `:`, 91 and 93 are the brackets. -/
def splitAuthority (authority : Bytes) : Option (Bytes × Bytes) :=
  let parts : Option (Bytes × Bytes) :=
    if authority.head? = some 91 then
      match find 93 authority with
      | none => none
      | some e =>
        let host := (authority.take e).drop 1
        if e + 1 < authority.length then
          if authority[e + 1]? = some 58 then some (host, authority.drop (e + 2)) else none
        else some (host, lit "80")
    else
      match rfind 58 authority with
      | none => some (authority, lit "80")
      | some colon => some (authority.take colon, authority.drop (colon + 1))
  match parts with
  | none => none
  | some (host, port) => if host = [] ∨ port = [] then none else some (host, port)

def parseHttpUrl (url : Bytes) : Option HttpUrl :=
  let kScheme := lit "http://"
  if ¬ kScheme.isPrefixOf url then none
  else
    let rest := url.drop kScheme.length
    if rest = [] then none
    else
      let parts : Bytes × Bytes := match find 47 rest with
        | none => (rest, lit "/")
        | some slash => (rest.take slash, rest.drop slash)
      if parts.1 = [] then none
      else
        match splitAuthority parts.1 with
        | none => none
        | some (host, port) => some ⟨host, port, parts.2⟩

example : parseHttpUrl (lit "http://[::1]:8080/x?y=1")
    = some ⟨lit "::1", lit "8080", lit "/x?y=1"⟩ := by decide

/-- what the request builder writes as the value of `Host` -/
def hostValue (host port : Bytes) : Bytes := host ++ if port = lit "80" then [] else 58 :: port

/-! ## what an accepted authority is made of -/

theorem splitAuthority_ne_nil {a host port : Bytes} (h : splitAuthority a = some (host, port)) :
    host ≠ [] ∧ port ≠ [] := by
  unfold splitAuthority at h
  dsimp only at h
  split at h
  · cases h
  · split at h
    · cases h
    · rename_i hn
      cases h
      exact not_or.mp hn

theorem splitAuthority_of_head {a : Bytes} (h : a.head? ≠ some 91) :
    splitAuthority a =
      let parts := match rfind 58 a with
        | none => (a, lit "80")
        | some colon => (a.take colon, a.drop (colon + 1))
      if parts.1 = [] ∨ parts.2 = [] then none else some parts := by
  unfold splitAuthority
  dsimp only
  rw [if_neg h]
  cases rfind 58 a <;> rfl

/-- The three ways an authority is cut.  In the first two a port is written, in the last two the
host is the text before the last colon. -/
theorem splitAuthority_cases {a host port : Bytes} (h : splitAuthority a = some (host, port)) :
    (∃ e, a.head? = some 91 ∧ find 93 a = some e ∧ host = (a.take e).drop 1 ∧
      (port = lit "80" ∨ e + 1 < a.length ∧ port = a.drop (e + 2))) ∨
    (a.head? ≠ some 91 ∧ (58 : UInt8) ∉ a ∧ host = a ∧ port = lit "80") ∨
    (a.head? ≠ some 91 ∧ a = host ++ 58 :: port ∧ (58 : UInt8) ∉ port) := by
  have hparts := h
  unfold splitAuthority at hparts
  dsimp only at hparts
  by_cases hb : a.head? = some 91
  · rw [if_pos hb] at hparts
    cases hf : find 93 a with
    | none => rw [hf] at hparts; cases hparts
    | some e =>
      rw [hf] at hparts
      dsimp only at hparts
      refine Or.inl ⟨e, hb, rfl, ?_⟩
      by_cases hl : e + 1 < a.length
      · rw [if_pos hl] at hparts
        by_cases hc : a[e + 1]? = some 58
        · rw [if_pos hc] at hparts
          dsimp only at hparts
          split at hparts
          · cases hparts
          · cases hparts
            exact ⟨rfl, Or.inr ⟨hl, rfl⟩⟩
        · rw [if_neg hc] at hparts; cases hparts
      · rw [if_neg hl] at hparts
        dsimp only at hparts
        split at hparts
        · cases hparts
        · cases hparts
          exact ⟨rfl, Or.inl rfl⟩
  · rw [if_neg hb] at hparts
    cases hf : rfind 58 a with
    | none =>
      rw [hf] at hparts
      dsimp only at hparts
      have hm : (58 : UInt8) ∉ a := not_mem_of_rfind hf
      split at hparts
      · cases hparts
      · cases hparts
        exact Or.inr (Or.inl ⟨hb, hm, rfl, rfl⟩)
    | some c =>
      rw [hf] at hparts
      dsimp only at hparts
      obtain ⟨x, y, rfl, hy, rfl⟩ := rfind_some hf
      split at hparts
      · cases hparts
      · cases hparts
        refine Or.inr (Or.inr ⟨hb, ?_, ?_⟩)
        · simp
        · simpa using hy

/-! ## the printed authority -/

/-- what is printed is no longer than what was parsed -/
theorem hostValue_length_le {w host port : Bytes} (h : splitAuthority w = some (host, port)) :
    (hostValue host port).length ≤ w.length := by
  have hlen : (hostValue host port).length ≤ host.length + (port.length + 1) := by
    unfold hostValue
    by_cases hp : port = lit "80" <;> simp [hp]
  have h80 : (hostValue host (lit "80")).length = host.length := by simp [hostValue]
  rcases splitAuthority_cases h with ⟨e, -, hf, rfl, rfl | ⟨hl, rfl⟩⟩ | ⟨-, -, rfl, rfl⟩ |
    ⟨-, rfl, -⟩
  · rw [h80, List.length_drop, List.length_take]
    omega
  · obtain ⟨a, b, rfl, -, rfl⟩ := find_some hf
    simp only [List.length_append, List.length_cons, List.length_drop, List.length_take] at hlen hl ⊢
    omega
  · omega
  · simpa using hlen

theorem head?_hostValue {host : Bytes} (hh : host ≠ []) (port : Bytes) :
    (hostValue host port).head? = host.head? := by
  obtain ⟨x, t, rfl⟩ := List.exists_cons_of_ne_nil hh
  rfl

/-- a host that begins with `[` is never printed so that it is read back -/
theorem splitAuthority_bracket {host port : Bytes} (hh : host ≠ []) (hb : host.head? = some 91) :
    splitAuthority (hostValue host port) ≠ some (host, port) := by
  intro h
  obtain ⟨t, rfl⟩ := List.head?_eq_some_iff.mp hb
  rcases splitAuthority_cases h with ⟨e, -, hf, he, -⟩ | ⟨hn, -⟩ | ⟨hn, -⟩
  · -- the host read back is `t` and one more byte, which is not `[`
    obtain ⟨a, b, hab, -, rfl⟩ := find_some hf
    have hl := congrArg List.length he
    have hle := congrArg List.length hab
    simp only [List.length_cons, List.length_drop, List.length_take, List.length_append] at hl hle
    have ha : a.length = t.length + 2 := by omega
    have e1 : (91 :: t : Bytes) = t ++ (if port = lit "80" then [] else 58 :: port).take 1 := by
      have hd : ((hostValue (91 :: t) port).take a.length).drop 1
          = t ++ (if port = lit "80" then [] else 58 :: port).take 1 := by
        rw [ha, hostValue, List.cons_append, List.take_succ_cons, List.drop_one, List.tail_cons,
          List.take_length_add_append]
      exact he.trans hd
    have hc := congrArg (List.count (91 : UInt8)) e1
    rw [List.count_cons_self, List.count_append] at hc
    by_cases hp : port = lit "80"
    · rw [if_pos hp, List.take_nil, List.count_nil] at hc
      omega
    · rw [if_neg hp, List.take_succ_cons, List.take_zero] at hc
      have : List.count (91 : UInt8) [58] = 0 := by decide
      omega
  · exact hn (head?_hostValue hh port ▸ hb)
  · exact hn (head?_hostValue hh port ▸ hb)

/-- The printed authority is cut back into the same host and port exactly when the host does not
begin with `[` and the last colon is the one that was printed. -/
theorem splitAuthority_hostValue {host port : Bytes} (hh : host ≠ []) (hp : port ≠ []) :
    splitAuthority (hostValue host port) = some (host, port) ↔
      host.head? ≠ some 91 ∧ (if port = lit "80" then (58 : UInt8) ∉ host else (58 : UInt8) ∉ port) := by
  by_cases hb : host.head? = some 91
  · exact iff_of_false (splitAuthority_bracket hh hb) fun h => h.1 hb
  have hb' : (hostValue host port).head? ≠ some 91 := by rwa [head?_hostValue hh]
  by_cases h80 : port = lit "80"
  · subst h80
    have hv : hostValue host (lit "80") = host := by simp [hostValue]
    rw [hv, if_pos rfl]
    constructor
    · intro h
      refine ⟨hb, ?_⟩
      rcases splitAuthority_cases h with ⟨e, hn, -⟩ | ⟨-, hm, -⟩ | ⟨-, he, -⟩
      · exact absurd hn hb
      · exact hm
      · have := congrArg List.length he
        simp at this
    · rintro ⟨-, hm⟩
      rw [splitAuthority_of_head hb, rfind_none hm]
      simp [hh, hp]
  · have hv : hostValue host port = host ++ 58 :: port := by simp [hostValue, h80]
    rw [hv] at hb' ⊢
    rw [if_neg h80]
    constructor
    · intro h
      refine ⟨hb, ?_⟩
      rcases splitAuthority_cases h with ⟨e, hn, -⟩ | ⟨-, hm, -⟩ | ⟨-, he, hm⟩
      · exact absurd hn hb'
      · exact absurd (List.mem_append_right _ List.mem_cons_self) hm
      · exact hm
    · rintro ⟨-, hm⟩
      rw [splitAuthority_of_head hb', rfind_append host hm]
      simp [hh, hp]

theorem parseHttpUrl_ne_nil {url : Bytes} {u : HttpUrl} (h : parseHttpUrl url = some u) :
    u.host ≠ [] ∧ u.port ≠ [] := by
  unfold parseHttpUrl at h
  by_cases h1 : ¬ (lit "http://").isPrefixOf url = true
  · simp [h1] at h
  by_cases h2 : url.drop (lit "http://").length = []
  · simp [h2] at h
  simp only [if_neg h1, if_neg h2] at h
  split at h <;> simp only at h
  all_goals
    split at h
    · cases h
    · split at h
      · cases h
      · rename_i hs
        cases h
        exact splitAuthority_ne_nil hs

end VD
