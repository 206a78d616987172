import Mathlib

/-!
# Files of terminated records

A file that is only appended to, read by splitting it at a separator:

* `completeLines sep f`   the pieces of `f` that a separator ends (the last piece is open);
* `AtLineStart sep f`     the next byte of `f` begins a piece;
* `completeLines_record`  a record written at a line start is the next complete piece;
* `completeLines_records`  and so are several;
* `completeLines_extend`  what is appended later never changes the pieces that are complete.
-/

set_option linter.unusedSectionVars false

namespace Lines
variable {α : Type} [DecidableEq α] (sep : α)

def completeLines (f : List α) : List (List α) := (f.splitOn sep).dropLast

def AtLineStart (f : List α) : Prop := f = [] ∨ f.getLast? = some sep

instance (f : List α) : Decidable (AtLineStart sep f) := inferInstanceAs (Decidable (_ ∨ _))

private theorem splitOn_sep (a b : List α) :
    (a ++ sep :: b).splitOn sep = a.splitOn sep ++ b.splitOn sep := by
  simp only [List.splitOn_eq_splitOnP]
  exact List.splitOnP_append_cons a b (by simp)

private theorem splitOn_record {r : List α} (h : sep ∉ r) : r.splitOn sep = [r] := by
  rw [List.splitOn_eq_splitOnP]
  apply List.splitOnP_eq_singleton
  intro x hx
  have hne : x ≠ sep := fun e => h (e ▸ hx)
  simpa using hne

theorem completeLines_append_sep (g : List α) : completeLines sep (g ++ [sep]) = g.splitOn sep := by
  rw [completeLines, splitOn_sep, List.splitOn_nil, List.dropLast_concat]

/-- a record written at a line start becomes the next complete line -/
theorem completeLines_record {f r : List α} (hf : AtLineStart sep f) (hr : sep ∉ r) :
    completeLines sep (f ++ (r ++ [sep])) = completeLines sep f ++ [r] := by
  rcases hf with rfl | hf
  · rw [List.nil_append, completeLines_append_sep, splitOn_record sep hr]
    rfl
  · obtain ⟨g, rfl⟩ := List.getLast?_eq_some_iff.mp hf
    rw [← List.append_assoc, completeLines_append_sep, completeLines_append_sep]
    have e : g ++ [sep] ++ r = g ++ sep :: r := by simp
    rw [e, splitOn_sep, splitOn_record sep hr]

theorem atLineStart_record (f r : List α) : AtLineStart sep (f ++ (r ++ [sep])) := by
  rw [← List.append_assoc]
  exact .inr List.getLast?_concat

/-- records written one after another -/
theorem completeLines_records {rs : List (List α)} (hr : ∀ r ∈ rs, sep ∉ r) : ∀ {f : List α}, AtLineStart sep f →
    completeLines sep (f ++ (rs.map (· ++ [sep])).flatten) = completeLines sep f ++ rs ∧
      AtLineStart sep (f ++ (rs.map (· ++ [sep])).flatten) := by
  induction rs with
  | nil =>
    intro f hf
    rw [List.map_nil, List.flatten_nil, List.append_nil, List.append_nil]
    exact ⟨rfl, hf⟩
  | cons r rs ih =>
    intro f hf
    obtain ⟨hlines, hstart⟩ := ih (fun r' hr' => hr r' (List.mem_cons_of_mem _ hr')) (atLineStart_record sep f r)
    rw [completeLines_record sep hf (hr r List.mem_cons_self)] at hlines
    rw [List.map_cons, List.flatten_cons, ← List.append_assoc f]
    refine ⟨?_, hstart⟩
    rw [hlines, List.append_assoc, List.singleton_append]

private theorem eq_append_last {f : List α} (h : sep ∈ f) : ∃ a t, f = a ++ sep :: t ∧ sep ∉ t := by
  obtain ⟨t, a, e, ht⟩ := List.eq_append_cons_of_mem (List.mem_reverse.mpr h)
  refine ⟨a.reverse, t.reverse, ?_, fun m => ht (List.mem_reverse.mp m)⟩
  rw [← List.reverse_reverse f, e]
  simp

/-- what is appended later leaves the complete lines as they are -/
theorem completeLines_extend (f g : List α) :
    completeLines sep f <+: completeLines sep (f ++ g) := by
  by_cases h : sep ∈ f
  · obtain ⟨a, t, rfl, ht⟩ := eq_append_last sep h
    have e : a ++ sep :: t ++ g = a ++ sep :: (t ++ g) := by simp
    rw [e, completeLines, completeLines, splitOn_sep, splitOn_sep, splitOn_record sep ht,
      List.dropLast_concat, List.dropLast_append_of_ne_nil (List.splitOn_ne_nil sep (t ++ g))]
    exact List.prefix_append _ _
  · rw [completeLines, splitOn_record sep h]
    exact List.nil_prefix

end Lines
