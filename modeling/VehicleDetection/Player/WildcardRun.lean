import VehicleDetection.Base.Loop
import VehicleDetection.Player.Wildcard

/-!
# The main loop of `wildcard_match`, index by index

`Wildcard` takes the loop as a recursion on what is left of pattern and text.  Here are the four indices
of the source, and one round of the loop as a step on them.

* `wildcardRound`   one round, with every access under the bound that guards it;
* `InRange`         the bounds that every round keeps;
* `leftover`        the measure: the text behind `star_t`, the stars behind `star_p`, the text behind `t`;
* `run_wildcard`    every run: bounds, measure, no state twice, and the end with the answer of
                    `wildcardMatch`.
-/

set_option linter.unusedVariables false

namespace VD
open BStr

/-- `starP = none` is `npos` -/
structure WildcardState where
  p : Nat := 0
  t : Nat := 0
  starP : Option Nat := none
  starT : Nat := 0
deriving DecidableEq

section
variable (pattern text : Bytes)

/-- One round of the main loop.  Where `t` is at the end, the loop is left for the one that skips the
stars behind `p`. -/
def wildcardRound (s : WildcardState) : WildcardState ⊕ Bool :=
  if ht : s.t < text.length then
    if ∃ hp : s.p < pattern.length, pattern[s.p] = 63 ∨ pattern[s.p] = text[s.t] then
      .inl { s with p := s.p + 1, t := s.t + 1 }
    else if ∃ hp : s.p < pattern.length, pattern[s.p] = 42 then
      .inl { p := s.p + 1, t := s.t, starP := some s.p, starT := s.t }
    else
      match s.starP with
      | some starP => .inl { s with p := starP + 1, t := s.starT + 1, starT := s.starT + 1 }
      | none => .inr false
  else .inr ((pattern.drop s.p).dropWhile (· == 42)).isEmpty

structure InRange (s : WildcardState) : Prop where
  p : s.p ≤ pattern.length
  t : s.t ≤ text.length
  starT : s.starT ≤ s.t
  starP : ∀ starP ∈ s.starP, starP < s.p

/-- the stars that are still to come, behind the last one that was met -/
def starsLeft (starP : Option Nat) : Nat :=
  match starP with
  | none => pattern.count 42
  | some starP => (pattern.drop (starP + 1)).count 42

def leftover (s : WildcardState) : ℕ ×ₗ ℕ ×ₗ ℕ :=
  toLex (text.length - s.starT, toLex (starsLeft pattern s.starP, text.length - s.t))

variable {pattern text}

/-- One round, by what it leaves behind. -/
inductive WildcardNext (s : WildcardState) : WildcardState → Prop
  | same (hp : s.p < pattern.length) (ht : s.t < text.length)
      (h : pattern[s.p] = 63 ∨ pattern[s.p] = text[s.t]) :
      WildcardNext s { s with p := s.p + 1, t := s.t + 1 }
  | star (hp : s.p < pattern.length) (ht : s.t < text.length) (h : pattern[s.p] = 42) :
      WildcardNext s { p := s.p + 1, t := s.t, starP := some s.p, starT := s.t }
  | again (starP : Nat) (ht : s.t < text.length) (h : s.starP = some starP) :
      WildcardNext s { s with p := starP + 1, t := s.starT + 1, starT := s.starT + 1 }

theorem wildcardRound_next {s s' : WildcardState} (h : wildcardRound pattern text s = .inl s') :
    @WildcardNext pattern text s s' := by
  unfold wildcardRound at h
  split at h
  · rename_i ht
    split at h
    · rename_i hsame
      obtain ⟨hp, hc⟩ := hsame
      cases h
      exact .same hp ht hc
    · split at h
      · rename_i hstar
        obtain ⟨hp, hc⟩ := hstar
        cases h
        exact .star hp ht hc
      · split at h
        · rename_i starP hs
          cases h
          exact .again starP ht hs
        · cases h
  · cases h

/-! ## bounds -/

theorem InRange.init : InRange pattern text {} := ⟨Nat.zero_le _, Nat.zero_le _, le_rfl, nofun⟩

theorem InRange.round {s s' : WildcardState} (hs : InRange pattern text s)
    (hr : wildcardRound pattern text s = .inl s') : InRange pattern text s' := by
  obtain ⟨hp, ht, hst, hsp⟩ := hs
  cases wildcardRound_next hr with
  | same hp' ht' _ =>
    exact ⟨hp', ht', Nat.le_succ_of_le hst, fun starP h => Nat.lt_succ_of_lt (hsp starP h)⟩
  | star hp' ht' _ =>
    refine ⟨hp', ht, le_rfl, fun starP h => ?_⟩
    cases h
    exact Nat.lt_succ_self _
  | again starP ht' h =>
    have hlt := hsp starP h
    refine ⟨(Nat.succ_le_of_lt hlt).trans hp, Nat.succ_le_of_lt (hst.trans_lt ht'), le_rfl,
      fun starP' h' => ?_⟩
    obtain rfl : starP = starP' := Option.some.inj (h.symm.trans h')
    exact Nat.lt_succ_self _

/-! ## the measure -/

theorem count_drop_lt {l : Bytes} {i j : Nat} (hj : j < l.length) (hl : l[j] = 42) (hij : i ≤ j) :
    (l.drop (j + 1)).count 42 < (l.drop i).count 42 := by
  have hsub : (l.drop j).Sublist (l.drop i) := by
    obtain ⟨k, rfl⟩ := Nat.exists_eq_add_of_le hij
    rw [← List.drop_drop]
    exact List.drop_sublist _ _
  have hle := hsub.count_le 42
  rw [List.drop_eq_getElem_cons hj, hl, List.count_cons_self] at hle
  exact hle

theorem leftover_lt {s s' : WildcardState} (hs : InRange pattern text s)
    (hr : wildcardRound pattern text s = .inl s') :
    leftover pattern text s' < leftover pattern text s := by
  obtain ⟨hp, ht, hst, hsp⟩ := hs
  rw [leftover, leftover, Prod.Lex.toLex_lt_toLex, Prod.Lex.toLex_lt_toLex]
  cases wildcardRound_next hr with
  | same hp' ht' _ => exact Or.inr ⟨rfl, Or.inr ⟨rfl, Nat.sub_succ_lt_self _ _ ht'⟩⟩
  | star hp' ht' hc =>
    rcases hst.lt_or_eq with hlt | he
    · exact Or.inl (Nat.sub_lt_sub_left (hlt.trans ht') hlt)
    · refine Or.inr ⟨congrArg (text.length - ·) he.symm, Or.inl ?_⟩
      cases hs : s.starP with
      | none => exact count_drop_lt hp' hc (Nat.zero_le _)
      | some starP => exact count_drop_lt hp' hc (hsp starP hs)
  | again starP ht' h => exact Or.inl (Nat.sub_succ_lt_self _ _ (hst.trans_lt ht'))

/-! ## against the recursion -/

/-- what is left behind the last star -/
def starLists (pattern text : Bytes) (s : WildcardState) : Option (Bytes × Bytes) :=
  s.starP.map fun starP => (pattern.drop (starP + 1), text.drop s.starT)

theorem InRange.starLeft {s : WildcardState} (hs : InRange pattern text s) :
    (text.drop s.t).length ≤ starLeft (text.drop s.t) (starLists pattern text s) := by
  unfold starLists
  cases s.starP with
  | none => exact le_starLeft_none _
  | some starP =>
    show (text.drop s.t).length ≤ (text.drop s.starT).length
    rw [List.length_drop, List.length_drop]
    exact Nat.sub_le_sub_left hs.starT _

/-- the recursion on what is left in this state -/
def wildcardRest (s : WildcardState) (hs : InRange pattern text s) : Bool :=
  wildcardLoop (pattern.drop s.p) (text.drop s.t) (starLists pattern text s) hs.starLeft

theorem wildcardLoop_congr {p p' t t' : Bytes} {star star' : Option (Bytes × Bytes)}
    (h : t.length ≤ starLeft t star) (hp : p = p') (ht : t = t') (hstar : star = star') :
    wildcardLoop p t star h = wildcardLoop p' t' star' (ht ▸ hstar ▸ h) := by
  subst hp ht hstar
  rfl

theorem head_drop_iff {p : Nat} {c : UInt8} :
    (pattern.drop p).head? = some c ↔ ∃ hp : p < pattern.length, pattern[p] = c := by
  rw [List.head?_drop, List.getElem?_eq_some_iff]

theorem head_drop_or {p : Nat} {c d : UInt8} :
    ((pattern.drop p).head? = some c ∨ (pattern.drop p).head? = some d) ↔
      ∃ hp : p < pattern.length, pattern[p] = c ∨ pattern[p] = d := by
  rw [head_drop_iff, head_drop_iff, exists_or]

section
variable {p t : Bytes} {c : UInt8}

theorem wildcardLoop_same {star : Option (Bytes × Bytes)} (h : (c :: t).length ≤ starLeft (c :: t) star)
    (hp : p.head? = some 63 ∨ p.head? = some c) :
    wildcardLoop p (c :: t) star h = wildcardLoop p.tail t star (le_starLeft_tail h) := by
  rw [wildcardLoop.eq_def]
  exact if_pos hp

theorem wildcardLoop_star {star : Option (Bytes × Bytes)} (h : (c :: t).length ≤ starLeft (c :: t) star)
    (hp : ¬ (p.head? = some 63 ∨ p.head? = some c)) (hstar : p.head? = some 42) :
    wildcardLoop p (c :: t) star h =
      wildcardLoop p.tail (c :: t) (some (p.tail, c :: t)) (le_starLeft_self _ _) := by
  rw [wildcardLoop.eq_def]
  exact (if_neg hp).trans (if_pos hstar)

theorem wildcardLoop_again {sp st : Bytes} (h : (c :: t).length ≤ st.length)
    (hp : ¬ (p.head? = some 63 ∨ p.head? = some c)) (hstar : ¬ p.head? = some 42) :
    wildcardLoop p (c :: t) (some (sp, st)) h =
      wildcardLoop sp st.tail (some (sp, st.tail)) (le_starLeft_self _ _) :=
  (wildcardLoop.eq_def ..).trans ((if_neg hp).trans (if_neg hstar))

theorem wildcardLoop_lost (h : (c :: t).length ≤ starLeft (c :: t) none)
    (hp : ¬ (p.head? = some 63 ∨ p.head? = some c)) (hstar : ¬ p.head? = some 42) :
    wildcardLoop p (c :: t) none h = false := by
  rw [wildcardLoop.eq_def]
  exact (if_neg hp).trans (if_neg hstar)

theorem wildcardLoop_nil {star : Option (Bytes × Bytes)} (h) :
    wildcardLoop p [] star h = (p.dropWhile (· == 42)).isEmpty := by
  rw [wildcardLoop.eq_def]

end

/-- A round of the loop is one unfolding of the recursion. -/
theorem wildcardRest_round {s : WildcardState} (hs : InRange pattern text s) :
    match wildcardRound pattern text s with
    | .inl s' => ∃ hs' : InRange pattern text s', wildcardRest s hs = wildcardRest s' hs'
    | .inr r => wildcardRest s hs = r := by
  have hin : ∀ s', wildcardRound pattern text s = .inl s' → InRange pattern text s' :=
    fun s' => hs.round
  unfold wildcardRound at hin ⊢
  by_cases ht : s.t < text.length
  · have e : text.drop s.t = text[s.t] :: text.drop (s.t + 1) := List.drop_eq_getElem_cons ht
    have hrest : wildcardRest s hs = _ := wildcardLoop_congr hs.starLeft rfl e rfl
    rw [dif_pos ht] at hin ⊢
    by_cases hsame : ∃ hp : s.p < pattern.length, pattern[s.p] = 63 ∨ pattern[s.p] = text[s.t]
    · rw [wildcardLoop_same _ (head_drop_or.mpr hsame)] at hrest
      rw [if_pos hsame] at hin ⊢
      exact ⟨hin _ rfl, hrest.trans (wildcardLoop_congr _ List.tail_drop rfl rfl)⟩
    · have hsame' := mt head_drop_or.mp hsame
      rw [if_neg hsame] at hin ⊢
      by_cases hstar : ∃ hp : s.p < pattern.length, pattern[s.p] = 42
      · rw [wildcardLoop_star _ hsame' (head_drop_iff.mpr hstar), ← e] at hrest
        rw [if_pos hstar] at hin ⊢
        exact ⟨hin _ rfl, hrest.trans (wildcardLoop_congr _ List.tail_drop rfl
          (by rw [List.tail_drop]; rfl))⟩
      · have hstar' := mt head_drop_iff.mp hstar
        rw [if_neg hstar] at hin ⊢
        cases hsp : s.starP with
        | none =>
          have he : starLists pattern text s = none := by rw [starLists, hsp, Option.map_none]
          exact (wildcardLoop_congr hs.starLeft rfl e he).trans (wildcardLoop_lost _ hsame' hstar')
        | some starP =>
          have he : starLists pattern text s = some (pattern.drop (starP + 1), text.drop s.starT) := by
            rw [starLists, hsp, Option.map_some]
          rw [hsp] at hin
          refine ⟨hin _ rfl, (wildcardLoop_congr hs.starLeft rfl e he).trans
            ((wildcardLoop_again _ hsame' hstar').trans (wildcardLoop_congr _ rfl List.tail_drop ?_))⟩
          rw [starLists, List.tail_drop, Option.map_some]
  · rw [dif_neg ht]
    have e : text.drop s.t = [] := List.drop_eq_nil_iff.mpr (Nat.le_of_not_lt ht)
    exact (wildcardLoop_congr hs.starLeft rfl e rfl).trans (wildcardLoop_nil _)

/-- Along the run the recursion's answer stays the same. -/
theorem wildcardRest_state {n : Nat} {s : WildcardState}
    (h : Loop.state (wildcardRound pattern text) {} n = some s) :
    ∃ hs : InRange pattern text s, wildcardRest s hs = wildcardMatch pattern text := by
  refine Loop.state_inv (P := fun s => ∃ hs : InRange pattern text s,
    wildcardRest s hs = wildcardMatch pattern text) ?_ ⟨InRange.init, rfl⟩ h
  rintro s s' ⟨hs, he⟩ hr
  have hround := wildcardRest_round hs
  rw [hr] at hround
  obtain ⟨hs', he'⟩ := hround
  exact ⟨hs', he'.symm.trans he⟩

/-- Every run of the main loop, from `p = t = 0` without a star: the indices stay in range, the measure
decreases from each state to the next, no state occurs twice, and the loop is left, with the answer of
`wildcardMatch`. -/
theorem run_wildcard (pattern text : Bytes) :
    let run := Loop.state (wildcardRound pattern text) {}
    (∀ n s, run n = some s → InRange pattern text s) ∧
    (∀ n s s', run n = some s → run (n + 1) = some s' →
      leftover pattern text s' < leftover pattern text s) ∧
    (∀ n m s, run n = some s → run m = some s → n = m) ∧
    ∃ n s, run n = some s ∧ wildcardRound pattern text s = .inr (wildcardMatch pattern text) := by
  intro run
  have hround : ∀ s s', InRange pattern text s → wildcardRound pattern text s = .inl s' →
      InRange pattern text s' := fun s s' => InRange.round
  have hlt : ∀ s s', InRange pattern text s → wildcardRound pattern text s = .inl s' →
      leftover pattern text s' < leftover pattern text s := fun s s' => leftover_lt
  refine ⟨fun n s => Loop.state_inv hround InRange.init, ?_, ?_, ?_⟩
  · intro n s s' hs hs'
    exact Loop.state_lt (m := 0) hround hlt InRange.init hs hs'
  · intro n m s
    exact Loop.state_inj hround hlt InRange.init
  · obtain ⟨n, s, r, hs, hr⟩ := Loop.ends hround hlt InRange.init
    obtain ⟨hin, he⟩ := wildcardRest_state hs
    have hround := wildcardRest_round hin
    rw [hr] at hround
    exact ⟨n, s, hs, hr.trans (congrArg Sum.inr (hround.symm.trans he))⟩

end

end VD
