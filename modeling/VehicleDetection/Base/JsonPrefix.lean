import VehicleDetection.Base.JsonText

/-!
# JSON texts that are cut

* `Lexer.begun`  how many tokens have been begun; a step takes none back;
* `read_cut`     where the beginning of a text is a text of its own, and no bare one, the rest of it is blank.
-/

set_option linter.unusedVariables false

namespace JsonText
open BStr

/-! ## the lexer takes nothing back -/

def Lexer.begun (l : Lexer) : Nat := l.tokens.length + if l.mode = .between then 0 else 1

/-- what has been read stays, and what has been begun -/
structure Grows (l l' : Lexer) : Prop where
  tokens : l.tokens <+: l'.tokens
  begun : l.begun ≤ l'.begun

theorem Grows.refl (l : Lexer) : Grows l l := ⟨List.prefix_rfl, le_rfl⟩

theorem Grows.trans {l l' l'' : Lexer} (h : Grows l l') (h' : Grows l' l'') : Grows l l'' :=
  ⟨h.tokens.trans h'.tokens, h.begun.trans h'.begun⟩

theorem startToken_grows (tokens : List Token) (c : UInt8) :
    Grows ⟨tokens, .between⟩ (Lexer.startToken tokens c) ∧
      (isBlank c = false → tokens.length < (Lexer.startToken tokens c).begun) := by
  unfold Lexer.startToken
  cases hb : isBlank c with
  | true => exact ⟨.refl _, nofun⟩
  | false =>
    rw [if_neg nofun]
    split
    · refine ⟨⟨List.prefix_append _ _, ?_⟩, fun _ => ?_⟩
      · simp [Lexer.begun]
      · simp [Lexer.begun]
    · split
      · exact ⟨⟨List.prefix_rfl, Nat.le_succ _⟩, fun _ => Nat.lt_succ_self _⟩
      · exact ⟨⟨List.prefix_rfl, Nat.le_succ _⟩, fun _ => Nat.lt_succ_self _⟩

/-- the end of a token that has been begun -/
theorem token_ends (tokens : List Token) (t : Token) {mode : Mode} (hm : mode ≠ .between) :
    Grows ⟨tokens, mode⟩ ⟨tokens ++ [t], .between⟩ := by
  refine ⟨List.prefix_append _ _, ?_⟩
  simp [Lexer.begun, hm]

/-- a token goes on -/
theorem token_goes_on (tokens : List Token) {mode mode' : Mode} (hm : mode' ≠ .between) :
    Grows ⟨tokens, mode⟩ ⟨tokens, mode'⟩ := by
  refine ⟨List.prefix_rfl, ?_⟩
  show tokens.length + _ ≤ tokens.length + _
  rw [if_neg hm]
  refine Nat.add_le_add_left ?_ _
  split
  · exact Nat.zero_le 1
  · exact le_rfl

theorem step_grows {l l' : Lexer} {c : UInt8} (h : Lexer.step l c = some l') : Grows l l' := by
  obtain ⟨tokens, mode⟩ := l
  cases mode with
  | between =>
    cases h
    exact (startToken_grows tokens c).1
  | bare acc =>
    by_cases hd : isDelimiter c = true
    · cases (if_pos hd).symm.trans h
      exact (token_ends tokens (.bare acc) (nofun : Mode.bare acc ≠ .between)).trans (startToken_grows _ c).1
    · cases (if_neg hd).symm.trans h
      exact token_goes_on tokens nofun
  | str acc =>
    by_cases hq : c = 34
    · cases (if_pos hq).symm.trans h
      exact token_ends tokens (.str acc) (nofun : Mode.str acc ≠ .between)
    · have h := (if_neg hq).symm.trans h
      by_cases hs : c = 92
      · cases (if_pos hs).symm.trans h
        exact token_goes_on tokens nofun
      · have h := (if_neg hs).symm.trans h
        by_cases hc : c < 32
        · cases (if_pos hc).symm.trans h
        · cases (if_neg hc).symm.trans h
          exact token_goes_on tokens nofun
  | escape acc =>
    by_cases hu : c = 117
    · cases (if_pos hu).symm.trans h
      exact token_goes_on tokens nofun
    · obtain ⟨d, -, rfl⟩ := Option.map_eq_some_iff.mp ((if_neg hu).symm.trans h)
      exact token_goes_on tokens nofun
  | hex acc left value =>
    obtain ⟨d, -, h⟩ := Option.bind_eq_some_iff.mp h
    by_cases hl : left = 1
    · obtain ⟨u, -, rfl⟩ := Option.map_eq_some_iff.mp ((if_pos hl).symm.trans h)
      exact token_goes_on tokens nofun
    · cases (if_neg hl).symm.trans h
      exact token_goes_on tokens nofun

theorem run_grows (s : Bytes) : ∀ {l l' : Lexer}, s.foldlM Lexer.step l = some l' → Grows l l' := by
  induction s with
  | nil =>
    intro l l' h
    cases h
    exact .refl l
  | cons c s ih =>
    intro l l' h
    obtain ⟨u, hu, h⟩ := Option.bind_eq_some_iff.mp h
    exact (step_grows hu).trans (ih h)

theorem finish_grows {l : Lexer} {ts : List Token} (h : l.finish = some ts) :
    l.tokens <+: ts ∧ ts.length = l.begun := by
  obtain ⟨tokens, mode⟩ := l
  cases mode with
  | between =>
    cases h
    exact ⟨List.prefix_rfl, rfl⟩
  | bare acc =>
    cases h
    exact ⟨List.prefix_append _ _, List.length_append⟩
  | str acc | escape acc | hex acc left value => cases h

/-- behind the end of a token something that is not blank makes another one -/
theorem next_token (rest : Bytes) : ∀ {tokens ts : List Token},
    (rest.foldlM Lexer.step ⟨tokens, .between⟩).bind Lexer.finish = some ts → (∃ c ∈ rest, isBlank c = false) →
      ∃ t more, ts = tokens ++ t :: more := by
  induction rest with
  | nil => exact fun _ hc => absurd hc (by simp)
  | cons c rest ih =>
    intro tokens ts h hc
    cases hb : isBlank c with
    | true =>
      have hs : Lexer.step ⟨tokens, .between⟩ c = some ⟨tokens, .between⟩ := congrArg some (if_pos hb)
      rw [List.foldlM_cons, hs] at h
      apply ih h
      obtain ⟨d, hd, hdb⟩ := hc
      rcases List.mem_cons.mp hd with rfl | hd
      · exact absurd (hb.symm.trans hdb) (by decide)
      · exact ⟨d, hd, hdb⟩
    | false =>
      obtain ⟨l, hl, hf⟩ := Option.bind_eq_some_iff.mp h
      obtain ⟨hstart, hlt⟩ := startToken_grows tokens c
      have hgrows : Grows (Lexer.startToken tokens c) l := run_grows rest hl
      obtain ⟨hpre, hlen⟩ := finish_grows hf
      obtain ⟨tail, htail⟩ := (hstart.tokens.trans hgrows.tokens).trans hpre
      have hlonger : tokens.length < ts.length := by
        rw [hlen]
        exact (hlt hb).trans_le hgrows.begun
      cases tail with
      | nil =>
        have hsame : tokens = ts := (List.append_nil _).symm.trans htail
        exact absurd hlonger (hsame ▸ lt_irrefl _)
      | cons t more => exact ⟨t, more, htail.symm⟩

/-! ## the parser takes nothing behind the end -/

theorem finish_some {p : Parser} {v : Tree} (h : p.finish = some v) : p = ⟨.behind v, []⟩ := by
  obtain ⟨expect, frames⟩ := p
  unfold Parser.finish at h
  split at h
  · rename_i he hf
    cases h
    cases he
    cases hf
    rfl
  · cases h

theorem step_end (v : Tree) (t : Token) : Parser.step ⟨.behind v, []⟩ t = none := by
  cases t <;> rfl

theorem startValue_bare {frames : List Frame} {s : Bytes} {v : Tree} {frames' : List Frame}
    (h : Parser.startValue frames (.bare s) = some ⟨.behind v, frames'⟩) : v = .bare s := by
  cases h
  rfl

theorem step_bare {p : Parser} {s : Bytes} {v : Tree} {frames : List Frame}
    (h : Parser.step p (.bare s) = some ⟨.behind v, frames⟩) : v = .bare s := by
  obtain ⟨expect, open'⟩ := p
  cases expect with
  | value => exact startValue_bare h
  | first =>
    cases open' with
    | nil => cases h
    | cons frame open' =>
      cases frame with
      | members done key => cases h
      | elems done =>
        cases done with
        | cons v' done => cases h
        | nil =>
          have hs : Parser.step ⟨.first, .elems [] :: open'⟩ (.bare s) = some ⟨.behind (.bare s), .elems [] :: open'⟩ := by
            simp [Parser.step, Parser.startValue]
          cases hs.symm.trans h
          rfl
  | firstKey | key done | colon done k => cases h
  | behind w =>
    cases open' with
    | nil => cases h
    | cons frame open' => cases frame <;> cases h

/-! ## cut texts -/

/-- Where a beginning of a text is a text of its own, and no bare one, the rest is blank. -/
theorem read_cut {p rest : Bytes} {v t : Tree} (h : read (p ++ rest) = some t) (hp : read p = some v)
    (hv : ∀ s, v ≠ .bare s) : ∀ c ∈ rest, isBlank c = true := by
  obtain ⟨ts, hlex, hparse⟩ := Option.bind_eq_some_iff.mp hp
  obtain ⟨⟨tokens, mode⟩, hrun, hfinish⟩ := Option.bind_eq_some_iff.mp hlex
  obtain ⟨q, hq, hend⟩ := Option.bind_eq_some_iff.mp hparse
  obtain rfl := finish_some hend
  obtain ⟨ts', hlex', hparse'⟩ := Option.bind_eq_some_iff.mp h
  rw [lex, List.foldlM_append, hrun] at hlex'
  cases mode with
  | between =>
    cases hfinish
    by_contra hc
    obtain ⟨t', more, rfl⟩ := next_token rest hlex' (by simpa using hc)
    rw [parse, List.foldlM_append, hq] at hparse'
    have hnone : (t' :: more).foldlM Parser.step ⟨.behind v, []⟩ = none := by
      rw [List.foldlM_cons, step_end]
      rfl
    exact Option.some_ne_none t (hparse'.symm.trans (congrArg (Option.bind · Parser.finish) hnone))
  | bare acc =>
    cases hfinish
    rw [List.foldlM_append] at hq
    obtain ⟨q, -, hlast⟩ := Option.bind_eq_some_iff.mp hq
    obtain ⟨u, hu, hq⟩ := Option.bind_eq_some_iff.mp hlast
    cases hq
    exact absurd (step_bare hu) (hv acc)
  | str acc | escape acc | hex acc left value => cases hfinish

end JsonText
