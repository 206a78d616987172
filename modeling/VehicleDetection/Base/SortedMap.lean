import Mathlib

/-!
# Maps with sorted keys

An association list whose keys are strictly increasing: the content of a `std::map` in the order in
which it is iterated.

* `SortedMap`    the items, with the order of the keys as a field;
* `put`          `m[k] = v`: a new item at its place, or a new value for an old key;
* `ofList`       the items put one after the other, so that the last value of a key stays;
* `find?_put`    what is found afterwards;
* `ofList_perm`  the items are those of the list, if no key occurs twice in it;
* `keys_nodup`   no key occurs twice.
-/

set_option linter.unusedVariables false

structure SortedMap (K V : Type) [LinearOrder K] where
  items : List (K × V)
  sorted : (items.map Prod.fst).Pairwise (· < ·)

namespace SortedMap
variable {K V : Type} [LinearOrder K]

def putItem (k : K) (v : V) : List (K × V) → List (K × V)
  | [] => [(k, v)]
  | (k', v') :: rest =>
    if k < k' then (k, v) :: (k', v') :: rest
    else if k = k' then (k, v) :: rest
    else (k', v') :: putItem k v rest

theorem mem_keys_putItem {k : K} {v : V} {l : List (K × V)} {x : K}
    (h : x ∈ (putItem k v l).map Prod.fst) : x = k ∨ x ∈ l.map Prod.fst := by
  induction l with
  | nil => exact Or.inl (List.mem_singleton.mp h)
  | cons e rest ih =>
    obtain ⟨k', v'⟩ := e
    rw [putItem] at h
    split at h
    · exact (List.mem_cons.mp h).imp id id
    · split at h
      · exact (List.mem_cons.mp h).imp id (List.mem_cons_of_mem _)
      · rcases List.mem_cons.mp h with rfl | h
        · exact Or.inr List.mem_cons_self
        · exact (ih h).imp id (List.mem_cons_of_mem _)

theorem putItem_sorted (k : K) (v : V) {l : List (K × V)}
    (h : (l.map Prod.fst).Pairwise (· < ·)) : ((putItem k v l).map Prod.fst).Pairwise (· < ·) := by
  induction l with
  | nil => exact List.pairwise_singleton _ _
  | cons e rest ih =>
    obtain ⟨k', v'⟩ := e
    obtain ⟨hhead, htail⟩ := List.pairwise_cons.mp h
    rw [putItem]
    split
    · rename_i hlt
      refine List.pairwise_cons.mpr ⟨fun x hx => ?_, h⟩
      rcases List.mem_cons.mp hx with rfl | hx
      · exact hlt
      · exact hlt.trans (hhead x hx)
    · rename_i hlt
      split
      · rename_i heq
        subst heq
        exact h
      · rename_i hne
        refine List.pairwise_cons.mpr ⟨fun x hx => ?_, ih htail⟩
        rcases mem_keys_putItem hx with rfl | hx
        · exact lt_of_le_of_ne (not_lt.mp hlt) (Ne.symm hne)
        · exact hhead x hx

def empty : SortedMap K V := ⟨[], List.Pairwise.nil⟩

def put (m : SortedMap K V) (k : K) (v : V) : SortedMap K V :=
  ⟨putItem k v m.items, putItem_sorted k v m.sorted⟩

def ofList (l : List (K × V)) : SortedMap K V := l.foldl (fun m e => m.put e.1 e.2) empty

def keys (m : SortedMap K V) : List K := m.items.map Prod.fst

def find? (m : SortedMap K V) (k : K) : Option V :=
  (m.items.find? fun e => e.1 = k).map Prod.snd

theorem mem_putItem (k : K) (v : V) (l : List (K × V)) : (k, v) ∈ putItem k v l := by
  induction l with
  | nil => exact List.mem_singleton_self _
  | cons e rest ih =>
    rw [putItem]
    split
    · exact List.mem_cons_self
    · split
      · exact List.mem_cons_self
      · exact List.mem_cons_of_mem _ ih

theorem mem_keys_put (m : SortedMap K V) (k : K) (v : V) : k ∈ (m.put k v).keys :=
  List.mem_map_of_mem (mem_putItem k v m.items)

theorem find?_put (m : SortedMap K V) (k : K) (v : V) (x : K) :
    (m.put k v).find? x = if x = k then some v else m.find? x := by
  have hitems : (putItem k v m.items).find? (fun e => e.1 = x) =
      if x = k then some (k, v) else m.items.find? fun e => e.1 = x := by
    induction m.items with
    | nil => by_cases hx : x = k <;> simp [putItem, hx, eq_comm]
    | cons e rest ih =>
      obtain ⟨k', v'⟩ := e
      rw [putItem]
      split
      · by_cases hx : x = k <;> simp [hx, @eq_comm _ k]
      · split
        · rename_i heq
          subst heq
          by_cases hx : x = k <;> simp [hx, @eq_comm _ k]
        · rename_i hne
          by_cases hx' : k' = x
          · subst hx'
            simp [Ne.symm hne]
          · rw [List.find?_cons_of_neg (by simpa using hx'), ih, List.find?_cons_of_neg (by simpa using hx')]
  rw [find?, put, hitems]
  split
  · rfl
  · rfl

theorem putItem_perm {k : K} (v : V) : ∀ {l : List (K × V)}, k ∉ l.map Prod.fst →
    (putItem k v l).Perm ((k, v) :: l) := by
  intro l
  induction l with
  | nil => exact fun _ => List.Perm.refl _
  | cons e rest ih =>
    obtain ⟨k', v'⟩ := e
    intro h
    rw [List.map_cons, List.mem_cons, not_or] at h
    rw [putItem]
    split
    · exact List.Perm.refl _
    · rw [if_neg h.1]
      exact ((ih h.2).cons (k', v')).trans (List.Perm.swap _ _ _)

theorem ofList_perm {l : List (K × V)} (h : (l.map Prod.fst).Nodup) : (ofList l).items.Perm l := by
  have hall : ∀ (l : List (K × V)) (m : SortedMap K V), (l.map Prod.fst).Nodup →
      (∀ k ∈ l.map Prod.fst, k ∉ m.keys) → (l.foldl (fun m e => m.put e.1 e.2) m).items.Perm (m.items ++ l) := by
    intro l
    induction l with
    | nil =>
      intro m _ _
      rw [List.append_nil]
      exact List.Perm.refl _
    | cons e l ih =>
      intro m hn hm
      obtain ⟨hnot, hrest⟩ := List.nodup_cons.mp hn
      have hput : (m.put e.1 e.2).items.Perm (e :: m.items) := putItem_perm e.2 (hm e.1 List.mem_cons_self)
      refine (ih (m.put e.1 e.2) hrest fun k hk hmem => ?_).trans ?_
      · rcases List.mem_cons.mp ((hput.map Prod.fst).mem_iff.mp hmem) with rfl | hmem
        · exact hnot hk
        · exact hm k (List.mem_cons_of_mem _ hk) hmem
      · exact (hput.append_right l).trans List.perm_middle.symm
  exact hall l empty h fun k _ hk => absurd hk List.not_mem_nil

theorem keys_nodup (m : SortedMap K V) : m.keys.Nodup := m.sorted.imp ne_of_lt

end SortedMap
