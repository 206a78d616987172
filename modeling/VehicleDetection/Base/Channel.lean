import Mathlib.Data.List.Forall2

/-!
# Channels that lose messages

One party sends, another one receives. What is on the way can be lost; what arrives keeps its order. A
party that makes something of some of what it receives, and nothing else, is a relation `R` between its
products and what they are made of, with `List.SublistForall₂ R` between the lists.

* `Channel`    what has been sent, what is on the way and what has been received;
* `Channel.Kept`  what every operation keeps;
* `made_concat`, `made_sublist`, `made_part`, `made_imp`  products of one party.
-/

set_option linter.unusedVariables false

namespace Relay
variable {A B : Type*}

structure Channel (A : Type*) where
  sent : List A := []
  pending : List A := []
  received : List A := []

namespace Channel

def send (c : Channel A) (a : A) : Channel A :=
  { c with sent := c.sent ++ [a], pending := c.pending ++ [a] }

/-- the message at this place is lost -/
def lose (c : Channel A) (i : Nat) : Channel A := { c with pending := c.pending.eraseIdx i }

/-- the first message on the way; `none`: there is none -/
def receive (c : Channel A) : Option (A × Channel A) :=
  match c.pending with
  | [] => none
  | a :: pending => some (a, { c with pending := pending, received := c.received ++ [a] })

/-- what is received, and what can be, has been sent in this order -/
def Kept (c : Channel A) : Prop := (c.received ++ c.pending).Sublist c.sent

theorem Kept.initial : ({} : Channel A).Kept := List.Sublist.slnil

theorem Kept.send {c : Channel A} (h : c.Kept) (a : A) : (c.send a).Kept := by
  show (c.received ++ (c.pending ++ [a])).Sublist (c.sent ++ [a])
  rw [← List.append_assoc]
  exact h.append (List.Sublist.refl [a])

theorem Kept.lose {c : Channel A} (h : c.Kept) (i : Nat) : (c.lose i).Kept := by
  show (c.received ++ c.pending.eraseIdx i).Sublist c.sent
  exact (List.Sublist.append_left (List.eraseIdx_sublist c.pending i) c.received).trans h

/-- what a channel is after a message has been received -/
theorem receive_some {c d : Channel A} {a : A} (h : c.receive = some (a, d)) :
    d.sent = c.sent ∧ d.received = c.received ++ [a] ∧ c.pending = a :: d.pending := by
  unfold receive at h
  split at h
  · cases h
  · rename_i b pending hp
    cases h
    exact ⟨rfl, rfl, hp⟩

theorem Kept.receive {c d : Channel A} {a : A} (h : c.Kept) (hr : c.receive = some (a, d)) : d.Kept := by
  obtain ⟨hsent, hreceived, hpending⟩ := receive_some hr
  show (d.received ++ d.pending).Sublist d.sent
  rw [hsent, hreceived, List.append_assoc, List.singleton_append, ← hpending]
  exact h

theorem Kept.received {c : Channel A} (h : c.Kept) : c.received.Sublist c.sent :=
  (List.sublist_append_left c.received c.pending).trans h

end Channel

/-! ## products -/

variable {R : A → B → Prop} {as as' : List A} {bs bs' : List B}

theorem made_sublist (h : List.SublistForall₂ R as bs) (hb : bs.Sublist bs') : List.SublistForall₂ R as bs' := by
  obtain ⟨l, hl, hsub⟩ := List.sublistForall₂_iff.mp h
  exact List.sublistForall₂_iff.mpr ⟨l, hl, hsub.trans hb⟩

theorem made_concat (h : List.SublistForall₂ R as bs) {a : A} {b : B} (hab : R a b) :
    List.SublistForall₂ R (as ++ [a]) (bs ++ [b]) := by
  obtain ⟨l, hl, hsub⟩ := List.sublistForall₂_iff.mp h
  exact List.sublistForall₂_iff.mpr
    ⟨l ++ [b], List.rel_append hl (.cons hab .nil), hsub.append (List.Sublist.refl [b])⟩

theorem made_skip (h : List.SublistForall₂ R as bs) (b : B) : List.SublistForall₂ R as (bs ++ [b]) :=
  made_sublist h (List.sublist_append_left bs [b])

/-- some of the products -/
theorem made_part (h : List.SublistForall₂ R as bs) (ha : as'.Sublist as) : List.SublistForall₂ R as' bs := by
  induction h generalizing as' with
  | nil =>
    rw [List.sublist_nil.mp ha]
    exact .nil
  | cons hab h ih =>
    cases ha with
    | cons _ ha => exact .cons_right (ih ha)
    | cons_cons _ ha => exact .cons hab (ih ha)
  | cons_right h ih => exact .cons_right (ih ha)

theorem made_imp {S : A → B → Prop} (h : List.SublistForall₂ R as bs) (hrs : ∀ a b, b ∈ bs → R a b → S a b) :
    List.SublistForall₂ S as bs := by
  induction h with
  | nil => exact .nil
  | cons hab h ih =>
    exact .cons (hrs _ _ List.mem_cons_self hab) (ih fun a b hb => hrs a b (List.mem_cons_of_mem _ hb))
  | cons_right h ih => exact .cons_right (ih fun a b hb => hrs a b (List.mem_cons_of_mem _ hb))

end Relay
