import Mathlib

/-!
# A bounded queue that drops its oldest entry

One producer, one consumer, at most `cap` entries waiting.  A new entry displaces the oldest waiting
one when the queue is full; the consumer holds at most one entry; what still waits can be cleared.

* `Belt`        the queue, the hand of the consumer, and what has become of every entry;
* `Step`        what can happen to it;
* `Inv`         the queue is bounded, every entry is in exactly one place, and what has been
                finished, is held and still waits is in the order of arrival;
* `Inv.step`, `Inv.nodup`  the invariant is kept, and tells distinct entries apart;
* `Step.dropped`  what an overflow does.
-/

set_option linter.unusedVariables false

namespace Conveyor

structure Belt (α : Type) where
  enqueued : List α := []
  queue : List α := []
  hand : Option α := none
  finished : List α := []
  dropped : List α := []
  cleared : List α := []

variable {α : Type}

inductive Step (cap : Nat) : Belt α → Belt α → Prop
  | stutter {b} : Step cap b b
  | push {b} (a : α) : b.queue.length < cap →
      Step cap b { b with enqueued := b.enqueued ++ [a], queue := b.queue ++ [a] }
  | displace {b} (a x : α) (q : List α) : cap ≤ b.queue.length → b.queue = x :: q →
      Step cap b { b with
        enqueued := b.enqueued ++ [a], queue := q ++ [a], dropped := b.dropped ++ [x] }
  | pop {b} (x : α) (q : List α) : b.hand = none → b.queue = x :: q →
      Step cap b { b with queue := q, hand := some x }
  | finish {b} (x : α) : b.hand = some x →
      Step cap b { b with hand := none, finished := b.finished ++ [x] }
  | clear {b} : Step cap b { b with queue := [], cleared := b.cleared ++ b.queue }

namespace Belt

/-- what has left the queue at its front, and what is in it -/
def line (b : Belt α) : List α := b.finished ++ b.hand.toList ++ b.queue

/-- every place an entry can be in -/
def places (b : Belt α) : List α := b.line ++ b.dropped ++ b.cleared

end Belt

structure Inv (cap : Nat) (b : Belt α) : Prop where
  bounded : b.queue.length ≤ cap
  accounted : b.places.Perm b.enqueued
  ordered : b.line.Sublist b.enqueued

theorem Inv.init (cap : Nat) : Inv cap ({} : Belt α) :=
  ⟨Nat.zero_le _, List.Perm.refl _, List.Sublist.refl _⟩

theorem line_push (b : Belt α) (a : α) :
    ({ b with enqueued := b.enqueued ++ [a], queue := b.queue ++ [a] } : Belt α).line
      = b.line ++ [a] := by
  simp [Belt.line]

/-- One step keeps the invariant. -/
theorem Inv.step {cap : Nat} {b b' : Belt α} (h : Inv cap b) (hs : Step cap b b') : Inv cap b' := by
  classical
  obtain ⟨hb, ha, ho⟩ := h
  have hcount := List.perm_iff_count.mp ha
  simp only [Belt.places, Belt.line, List.count_append] at hcount
  cases hs with
  | stutter => exact ⟨hb, ha, ho⟩
  | push a hlt =>
    refine ⟨by simpa using hlt, List.perm_iff_count.mpr fun y => ?_, ?_⟩
    · have hy := hcount y
      simp only [Belt.places, Belt.line, List.count_append]
      omega
    · rw [line_push]
      exact ho.append (List.Sublist.refl _)
  | displace a x q hge hq =>
    rw [hq] at hb
    simp only [Belt.line, hq] at ho
    refine ⟨by simpa using hb, List.perm_iff_count.mpr fun y => ?_, ?_⟩
    · have hy := hcount y
      rw [hq, ← List.singleton_append, List.count_append] at hy
      simp only [Belt.places, Belt.line, List.count_append]
      omega
    · -- the entry that is displaced leaves a gap, the others keep their order
      have hsub : (b.finished ++ b.hand.toList ++ q).Sublist b.enqueued :=
        (List.Sublist.append_left (List.sublist_cons_self x q) _).trans ho
      have hnew := hsub.append (List.Sublist.refl [a])
      rw [List.append_assoc] at hnew
      exact hnew
  | pop x q hh hq =>
    rw [hq] at hb
    simp only [Belt.line, hq, hh] at ho
    refine ⟨le_trans (Nat.le_succ _) hb, List.perm_iff_count.mpr fun y => ?_, ?_⟩
    · have hy := hcount y
      rw [hq, ← List.singleton_append, List.count_append] at hy
      simp only [hh, Option.toList_none, List.count_nil] at hy
      simp only [Belt.places, Belt.line, List.count_append, Option.toList_some]
      omega
    · simpa [Belt.line] using ho
  | finish x hh =>
    simp only [Belt.line, hh] at ho
    refine ⟨hb, List.perm_iff_count.mpr fun y => ?_, ?_⟩
    · have hy := hcount y
      simp only [hh, Option.toList_some] at hy
      simp only [Belt.places, Belt.line, List.count_append, Option.toList_none, List.count_nil]
      omega
    · simpa [Belt.line] using ho
  | clear =>
    refine ⟨Nat.zero_le _, List.perm_iff_count.mpr fun y => ?_, ?_⟩
    · have hy := hcount y
      simp only [Belt.places, Belt.line, List.count_append, List.count_nil]
      omega
    · have hsub : (b.finished ++ b.hand.toList ++ []).Sublist b.line :=
        List.Sublist.append_left (List.nil_sublist _) _
      exact hsub.trans ho

/-- an entry is dropped only when the queue is full, and it is the oldest one there -/
theorem Step.dropped {cap : Nat} {b b' : Belt α} (hs : Step cap b b') :
    b'.dropped = b.dropped ∨
      ∃ x q, b.queue = x :: q ∧ cap ≤ b.queue.length ∧ b'.dropped = b.dropped ++ [x] := by
  cases hs with
  | displace a x q hge hq => exact Or.inr ⟨x, q, hq, hge, rfl⟩
  | _ => exact Or.inl rfl

/-- entries that arrive once are in one place once -/
theorem Inv.nodup {cap : Nat} {b : Belt α} (h : Inv cap b) (hn : b.enqueued.Nodup) :
    b.places.Nodup := h.accounted.nodup_iff.mpr hn

end Conveyor
