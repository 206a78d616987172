import VehicleDetection.Base.Mirror

/-!
# Constraints between keys, and batches taken one entry at a time

A store is checked key by key, and for pairs of keys: a lower end and an upper end whose values must
go together.  A batch that is valid as a whole may still pass through an invalid store when its
entries are stored one after the other.

* `Constraints`      what is checked;
* `Holds`            a store passes the checks;
* `UpperFirst`       an order of the batch: no upper end after its lower end;
* `Clear`            the new upper ends go with the old lower ends;
* `UpperFirst.of_sorted`  such an order, from the order of the keys;
* `prefixes_iff`     when every store on the way is valid.
-/

set_option linter.unusedVariables false
set_option linter.unusedSectionVars false

namespace Linked
open Mirror

section
variable {K V : Type} [DecidableEq K]

structure Constraints (K V : Type) where
  own : K → V → Prop
  links : List (K × K)
  linked : V → V → Prop
  distinct : ∀ l ∈ links, l.1 ≠ l.2

variable (C : Constraints K V)

structure Holds (st : Store K V) : Prop where
  own : ∀ k v, st k = some v → C.own k v
  linked : ∀ l ∈ C.links, ∀ a b, st l.1 = some a → st l.2 = some b → C.linked a b

def UpperFirst (batch : List (K × V)) : Prop :=
  ∀ l ∈ C.links, ∀ pre e post, batch = pre ++ e :: post → e.1 = l.1 → l.2 ∉ post.map Prod.fst

/-- only pairs with both ends in the batch count -/
def Clear (st : Store K V) (batch : List (K × V)) : Prop :=
  ∀ l ∈ C.links, l.1 ∈ batch.map Prod.fst →
    ∀ a b, st l.1 = some a → (l.2, b) ∈ batch → C.linked a b

variable {C}

/-! ## values on the way -/

theorem setAll_append (st : Store K V) (pre post : List (K × V)) :
    setAll st (pre ++ post) = setAll (setAll st pre) post := List.foldl_append ..

theorem setAll_not_key {st : Store K V} {batch : List (K × V)} {k : K}
    (h : k ∉ batch.map Prod.fst) : setAll st batch k = st k :=
  setAll_of_not_mem fun e he hk => h (hk ▸ List.mem_map_of_mem he)

/-- a key that has been stored has its final value -/
theorem setAll_key {st : Store K V} {pre post : List (K × V)} {k : K}
    (hn : ((pre ++ post).map Prod.fst).Nodup) (hk : k ∈ pre.map Prod.fst) :
    setAll st pre k = setAll st (pre ++ post) k := by
  rw [setAll_append]
  rw [List.map_append] at hn
  exact (setAll_not_key fun hp => (List.nodup_append.mp hn).2.2 k hk k hp rfl).symm

theorem mem_of_setAll {batch : List (K × V)} {k : K} {v : V} : ∀ {st : Store K V},
    setAll st batch k = some v → k ∈ batch.map Prod.fst → (k, v) ∈ batch := by
  induction batch with
  | nil => exact fun _ hk => absurd hk List.not_mem_nil
  | cons e batch ih =>
    intro st hv hk
    by_cases hb : k ∈ batch.map Prod.fst
    · exact List.mem_cons_of_mem _ (ih hv hb)
    · rcases List.mem_cons.mp hk with rfl | hk
      · have hv' : setAll (set st e) batch e.1 = some v := hv
        rw [setAll_not_key hb, set_self] at hv'
        cases hv'
        exact List.mem_cons_self
      · exact absurd hk hb

/-! ## the stores on the way -/

/-- Between a valid store and a valid store, every store on the way is valid exactly when the new
upper ends go with the old lower ends. -/
theorem prefixes_iff {st : Store K V} {batch : List (K × V)} (hn : (batch.map Prod.fst).Nodup)
    (hu : UpperFirst C batch) (hold : Holds C st) (hnew : Holds C (setAll st batch)) :
    (∀ pre post, batch = pre ++ post → Holds C (setAll st pre)) ↔ Clear C st batch := by
  constructor
  · intro h l hl hlo a b ha hb
    obtain ⟨pre, post, rfl⟩ := List.append_of_mem hb
    have hlo_pre : l.1 ∉ (pre ++ [(l.2, b)]).map Prod.fst := by
      rw [List.map_append, List.mem_append, not_or]
      refine ⟨fun hm => ?_, fun hm => C.distinct l hl (List.mem_singleton.mp hm)⟩
      obtain ⟨e, he, hek⟩ := List.mem_map.mp hm
      obtain ⟨p, q, rfl⟩ := List.append_of_mem he
      apply hu l hl p e (q ++ (l.2, b) :: post) (by simp) hek
      simp
    refine (h (pre ++ [(l.2, b)]) post (by simp)).linked l hl a b ?_ ?_
    · rw [setAll_not_key hlo_pre, ha]
    · rw [setAll_append]
      exact set_self _ (l.2, b)
  · rintro hclear pre post rfl
    have final : ∀ k, k ∈ pre.map Prod.fst → ∀ v, setAll st pre k = some v →
        setAll st (pre ++ post) k = some v := fun k hk v hv => (setAll_key hn hk).symm.trans hv
    have untouched : ∀ k, k ∉ pre.map Prod.fst → k ∉ post.map Prod.fst → ∀ v,
        setAll st pre k = some v → setAll st (pre ++ post) k = some v := by
      intro k hpre hpost v hv
      rw [setAll_append, setAll_not_key hpost, hv]
    refine ⟨fun k v hv => ?_, fun l hl a b ha hb => ?_⟩
    · by_cases hk : k ∈ pre.map Prod.fst
      · exact hnew.own k v (final k hk v hv)
      · rw [setAll_not_key hk] at hv
        exact hold.own k v hv
    · by_cases hlo : l.1 ∈ pre.map Prod.fst <;> by_cases hhi : l.2 ∈ pre.map Prod.fst
      · exact hnew.linked l hl a b (final _ hlo a ha) (final _ hhi b hb)
      · -- the lower end is stored, so the upper end does not come any more
        obtain ⟨e, he, hek⟩ := List.mem_map.mp hlo
        obtain ⟨p, q, rfl⟩ := List.append_of_mem he
        have hpost := hu l hl p e (q ++ post) (by simp) hek
        rw [List.map_append, List.mem_append, not_or] at hpost
        exact hnew.linked l hl a b (final _ hlo a ha) (untouched _ hhi hpost.2 b hb)
      · by_cases hpost : l.1 ∈ post.map Prod.fst
        · -- the lower end is still to come
          rw [setAll_not_key hlo] at ha
          refine hclear l hl ?_ a b ha (List.mem_append_left _ (mem_of_setAll hb hhi))
          rw [List.map_append]
          exact List.mem_append_right _ hpost
        · exact hnew.linked l hl a b (untouched _ hlo hpost a ha) (final _ hhi b hb)
      · rw [setAll_not_key hlo] at ha
        rw [setAll_not_key hhi] at hb
        exact hold.linked l hl a b ha hb

end

/-- a batch in the order of its keys, where every upper end is before its lower end -/
theorem UpperFirst.of_sorted {K V : Type} [LinearOrder K] {C : Constraints K V}
    {batch : List (K × V)} (hs : (batch.map Prod.fst).Pairwise (· < ·))
    (hl : ∀ l ∈ C.links, l.2 < l.1) : UpperFirst C batch := by
  rintro l hm pre e post rfl he hpost
  rw [List.map_append, List.map_cons] at hs
  have hlt := (List.pairwise_cons.mp (List.pairwise_append.mp hs).2.1).1 l.2 hpost
  rw [he] at hlt
  exact absurd hlt (lt_asymm (hl l hm))

end Linked
