import Mathlib.Data.List.DropRight

/-!
# Fields of a separated text

A text is a list of characters.  Blanks around a field do not count, and empty fields are left out.

* `trim`, `items`, `join`  the fields of a text, and a text of given fields;
* `Clean`                  what a field can be: not empty, without the separator, no blank at the ends;
* `clean_of_mem_items`     every field is clean;
* `items_join`             what becomes of fields without the separator and without blanks at the ends;
* `items_join_iff`         a list comes back from its text exactly when all of it is clean;
* `mem_join`               where the characters of a text come from.
-/

set_option linter.unusedVariables false
set_option linter.unusedSectionVars false

namespace Fields
variable {α : Type*} [DecidableEq α] (sep : α) (blank : α → Bool)

def trim (s : List α) : List α := (s.dropWhile blank).rdropWhile blank

def items (s : List α) : List (List α) := ((s.splitOn sep).map (trim blank)).filter (· ≠ [])

/-- `pad` stands behind each separator -/
def join (pad : List α) (ts : List (List α)) : List α := (sep :: pad).intercalate ts

structure Clean (t : List α) : Prop where
  ne_nil : t ≠ []
  no_sep : sep ∉ t
  trimmed : trim blank t = t

variable {sep blank}

/-! ## blanks -/

theorem trim_sublist (s : List α) : (trim blank s).Sublist s :=
  (List.rdropWhile_prefix blank _).sublist.trans (List.dropWhile_suffix blank).sublist

theorem trim_trim (s : List α) : trim blank (trim blank s) = trim blank s := by
  have hdrop : (trim blank s).dropWhile blank = trim blank s := by
    rw [List.dropWhile_eq_self_iff]
    intro hlt
    have hpre : trim blank s <+: s.dropWhile blank := List.rdropWhile_prefix blank _
    have hne : s.dropWhile blank ≠ [] := fun e => by
      rw [e, List.prefix_nil] at hpre
      rw [hpre] at hlt
      exact absurd hlt (lt_irrefl 0)
    have hhead : (trim blank s)[0] = (s.dropWhile blank).head hne := by
      rw [List.head_eq_getElem, hpre.getElem]
    rw [hhead]
    exact ne_true_of_eq_false (List.head_dropWhile_not blank hne)
  have hfull : trim blank (trim blank s) = (trim blank s).rdropWhile blank :=
    congrArg (List.rdropWhile blank) hdrop
  exact hfull.trans (List.rdropWhile_idempotent _ _)

theorem trim_append {pad : List α} (h : ∀ c ∈ pad, blank c = true) (s : List α) :
    trim blank (pad ++ s) = trim blank s := by
  rw [trim, List.dropWhile_append_of_pos h, trim]

theorem trim_of_no_blank {s : List α} (h : ∀ c ∈ s, blank c = false) : trim blank s = s := by
  have hdrop : s.dropWhile blank = s := by
    rw [List.dropWhile_eq_self_iff]
    intro hlt
    exact ne_true_of_eq_false (h _ (List.getElem_mem hlt))
  rw [trim, hdrop, List.rdropWhile_eq_self_iff]
  exact fun hne => ne_true_of_eq_false (h _ (List.getLast_mem hne))

/-! ## fields -/

theorem not_mem_of_mem_splitOn {s t : List α} (h : t ∈ s.splitOn sep) : sep ∉ t := by
  induction s generalizing t with
  | nil =>
    rw [List.splitOn_nil, List.mem_singleton] at h
    simp [h]
  | cons c s ih =>
    rw [List.splitOn_cons_eq_if_modifyHead] at h
    split at h
    · rcases List.mem_cons.mp h with rfl | h
      · exact List.not_mem_nil
      · exact ih h
    · rename_i hc
      cases hs : s.splitOn sep with
      | nil => exact absurd hs (List.splitOn_ne_nil _ _)
      | cons u us =>
        rw [hs] at h ih
        rcases List.mem_cons.mp h with rfl | h
        · rw [List.mem_cons, not_or]
          exact ⟨fun e => hc (by simp [e]), ih List.mem_cons_self⟩
        · exact ih (List.mem_cons_of_mem _ h)

theorem clean_of_mem_items {s t : List α} (h : t ∈ items sep blank s) : Clean sep blank t := by
  obtain ⟨hmem, hne⟩ := List.mem_filter.mp h
  obtain ⟨u, hu, rfl⟩ := List.mem_map.mp hmem
  exact ⟨of_decide_eq_true hne, fun hs => not_mem_of_mem_splitOn hu ((trim_sublist u).subset hs),
    trim_trim u⟩

theorem intercalate_pad (pad : List α) (t : List α) (ts : List (List α)) :
    (sep :: pad).intercalate (t :: ts) = [sep].intercalate (t :: ts.map (pad ++ ·)) := by
  induction ts generalizing t with
  | nil => rfl
  | cons u ts ih =>
    have hstep : [sep].intercalate ((pad ++ u) :: ts.map (pad ++ ·)) =
        pad ++ [sep].intercalate (u :: ts.map (pad ++ ·)) := by
      cases ts with
      | nil => simp [List.intercalate]
      | cons v ts => simp [List.intercalate]
    rw [List.intercalate_cons_cons, ih, List.map_cons, List.intercalate_cons_cons, hstep]
    simp

variable {pad : List α} {ts : List (List α)}

theorem items_join (hpad : ∀ c ∈ pad, blank c = true) (hsep : sep ∉ pad)
    (h : ∀ t ∈ ts, sep ∉ t ∧ trim blank t = t) :
    items sep blank (join sep pad ts) = ts.filter (· ≠ []) := by
  cases ts with
  | nil => simp [items, join, trim]
  | cons t ts =>
    obtain ⟨ht, htrim⟩ := h t List.mem_cons_self
    have hts : ∀ u ∈ ts, sep ∉ u ∧ trim blank u = u := fun u hu => h u (List.mem_cons_of_mem _ hu)
    have hpieces : ∀ l ∈ t :: ts.map (pad ++ ·), sep ∉ l := by
      rw [List.forall_mem_cons, List.forall_mem_map]
      exact ⟨ht, fun u hu => by simpa [hsep] using (hts u hu).1⟩
    have hmap : ts.map (trim blank ∘ (pad ++ ·)) = ts := by
      refine (List.map_congr_left fun u hu => ?_).trans (List.map_id ts)
      exact (trim_append hpad u).trans (hts u hu).2
    rw [items, join, intercalate_pad, List.splitOn_intercalate sep hpieces (List.cons_ne_nil _ _),
      List.map_cons, htrim, List.map_map, hmap]

theorem items_join_iff (hpad : ∀ c ∈ pad, blank c = true) (hsep : sep ∉ pad) :
    items sep blank (join sep pad ts) = ts ↔ ∀ t ∈ ts, Clean sep blank t := by
  constructor
  · intro h t ht
    rw [← h] at ht
    exact clean_of_mem_items ht
  · intro h
    rw [items_join hpad hsep fun t ht => ⟨(h t ht).no_sep, (h t ht).trimmed⟩, List.filter_eq_self]
    exact fun t ht => decide_eq_true (h t ht).ne_nil

/-! ## the characters of a text -/

theorem mem_join {c : α} (h : c ∈ join sep pad ts) : c = sep ∨ c ∈ pad ∨ ∃ t ∈ ts, c ∈ t := by
  cases ts with
  | nil => simp [join] at h
  | cons t ts =>
    induction ts generalizing t with
    | nil => exact .inr (.inr ⟨t, List.mem_cons_self, by simpa [join, List.intercalate] using h⟩)
    | cons u ts ih =>
      rw [join, List.intercalate_cons_cons, List.append_assoc, List.mem_append, List.mem_append,
        List.mem_cons] at h
      rcases h with h | (rfl | h) | h
      · exact .inr (.inr ⟨t, List.mem_cons_self, h⟩)
      · exact .inl rfl
      · exact .inr (.inl h)
      · refine (ih u h).imp id (Or.imp id ?_)
        rintro ⟨v, hv, hc⟩
        exact ⟨v, List.mem_cons_of_mem _ hv, hc⟩

theorem subset_join {t : List α} (h : t ∈ ts) : t ⊆ join sep pad ts := by
  intro c hc
  cases ts with
  | nil => cases h
  | cons u ts =>
    induction ts generalizing u with
    | nil =>
      obtain rfl := List.mem_singleton.mp h
      simpa [join, List.intercalate] using hc
    | cons v ts ih =>
      rw [join, List.intercalate_cons_cons, List.append_assoc, List.mem_append, List.mem_append]
      rcases List.mem_cons.mp h with rfl | h
      · exact .inl hc
      · exact .inr (.inr (ih v h))

end Fields
