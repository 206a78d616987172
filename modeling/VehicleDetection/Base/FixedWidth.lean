import VehicleDetection.Base.Number

/-!
# Fields of fixed width

A text of numbers, each padded with zeros to the width of its field and followed by a byte.

* `zeroPad_succ`    a padded number, by its last digit;
* `zeroPad_lt_iff`  padded to one width, numbers and texts have the same order;
* `fields`          the text of some numbers;
* `fields_lt_iff`   the order of such texts is the order of the numbers, the first one first.
-/

set_option linter.unusedVariables false

namespace BStr

theorem append_lt_append_iff {α : Type*} [LT α] {a a' : List α} (h : a.length = a'.length)
    (r r' : List α) : a ++ r < a' ++ r' ↔ a < a' ∨ a = a' ∧ r < r' := by
  induction a generalizing a' with
  | nil =>
    obtain rfl := List.length_eq_zero_iff.mp h.symm
    rw [List.nil_append, List.nil_append]
    exact ⟨fun hr => .inr ⟨rfl, hr⟩, fun hr => hr.elim (fun hn => absurd hn (List.not_lt_nil _)) fun hr => hr.2⟩
  | cons x a ih =>
    cases a' with
    | nil => cases h
    | cons y a' =>
      rw [List.cons_append, List.cons_append, List.cons_lt_cons_iff, List.cons_lt_cons_iff,
        ih (Nat.succ.inj h), List.cons.injEq]
      tauto

/-! ## one number -/

theorem decimal_small {n : Nat} (h : n < 10) : decimal n = [digit n] := by
  unfold decimal
  split
  · rename_i h0
    rw [h0]
    rfl
  · rename_i h0
    rw [Nat.digits_of_lt 10 n h0 h]
    rfl

theorem decimal_large {n : Nat} (h : 10 ≤ n) : decimal n = decimal (n / 10) ++ [digit (n % 10)] := by
  unfold decimal
  rw [if_neg (by omega), if_neg (by omega), Nat.digits_def' (by omega) (by omega), List.reverse_cons,
    List.map_append]
  rfl

/-- the last digit of a padded number -/
theorem zeroPad_succ {w : Nat} (hw : 1 ≤ w) (n : Nat) :
    zeroPad (w + 1) (decimal n) = zeroPad w (decimal (n / 10)) ++ [digit (n % 10)] := by
  unfold zeroPad
  rcases Nat.lt_or_ge n 10 with h | h
  · have h0 : n / 10 = 0 := Nat.div_eq_of_lt h
    obtain ⟨k, rfl⟩ := Nat.exists_eq_add_of_le' hw
    rw [h0, Nat.mod_eq_of_lt h, decimal_small h, decimal_small (by omega : 0 < 10)]
    show List.replicate (k + 1) 48 ++ [digit n] = List.replicate k 48 ++ [digit 0] ++ [digit n]
    rw [List.replicate_succ']
    rfl
  · rw [decimal_large h, List.length_append, List.length_singleton, Nat.add_sub_add_right,
      List.append_assoc]

theorem zeroPad_one {n : Nat} (h : n < 10) : zeroPad 1 (decimal n) = [digit n] := by
  rw [decimal_small h]
  rfl

theorem zeroPad_decimal_length {w : Nat} (hw : 1 ≤ w) {n : Nat} (h : n < 10 ^ w) :
    (zeroPad w (decimal n)).length = w :=
  zeroPad_length ((decimal_length_le hw).mpr h)

theorem digit_lt_iff {a b : Nat} (ha : a < 10) (hb : b < 10) : digit a < digit b ↔ a < b := by
  interval_cases a <;> interval_cases b <;> decide

theorem zeroPad_inj {w n m : Nat} (h : zeroPad w (decimal n) = zeroPad w (decimal m)) : n = m := by
  rw [← readDigits_decimal n, ← readDigits_zeroPad w, h, readDigits_zeroPad, readDigits_decimal]

/-- Numbers padded to one width have the order of their texts. -/
theorem zeroPad_lt_iff {w : Nat} (hw : 1 ≤ w) {n m : Nat} (hn : n < 10 ^ w) (hm : m < 10 ^ w) :
    zeroPad w (decimal n) < zeroPad w (decimal m) ↔ n < m := by
  induction w, hw using Nat.le_induction generalizing n m with
  | base =>
    rw [Nat.pow_one] at hn hm
    rw [zeroPad_one hn, zeroPad_one hm, List.cons_lt_cons_iff, digit_lt_iff hn hm]
    exact or_iff_left fun h => absurd h.2 (List.not_lt_nil _)
  | succ w hw ih =>
    rw [Nat.pow_succ, Nat.mul_comm] at hn hm
    have hn' := Nat.div_lt_of_lt_mul hn
    have hm' := Nat.div_lt_of_lt_mul hm
    have hlen : (zeroPad w (decimal (n / 10))).length = (zeroPad w (decimal (m / 10))).length := by
      rw [zeroPad_decimal_length hw hn', zeroPad_decimal_length hw hm']
    have heq : zeroPad w (decimal (n / 10)) = zeroPad w (decimal (m / 10)) ↔ n / 10 = m / 10 :=
      ⟨zeroPad_inj, fun h => by rw [h]⟩
    have hlast : [digit (n % 10)] < [digit (m % 10)] ↔ n % 10 < m % 10 := by
      rw [List.cons_lt_cons_iff, digit_lt_iff (Nat.mod_lt n (by omega)) (Nat.mod_lt m (by omega))]
      exact or_iff_left fun h => absurd h.2 (List.not_lt_nil _)
    rw [zeroPad_succ hw, zeroPad_succ hw, append_lt_append_iff hlen, ih hn' hm', heq, hlast]
    omega

/-! ## a row of numbers -/

/-- the widths of the fields and the bytes behind them -/
def fields : List (Nat × UInt8) → List Nat → Bytes
  | (w, c) :: spec, n :: ns => zeroPad w (decimal n) ++ c :: fields spec ns
  | _, _ => []

def Fit (spec : List (Nat × UInt8)) (ns : List Nat) : Prop :=
  List.Forall₂ (fun f n => 1 ≤ f.1 ∧ n < 10 ^ f.1) spec ns

theorem fields_length {spec : List (Nat × UInt8)} {ns : List Nat} (h : Fit spec ns) :
    (fields spec ns).length = (spec.map fun f => f.1 + 1).sum := by
  induction h with
  | nil => rfl
  | @cons f n spec ns hfn _ ih =>
    rw [fields, List.length_append, List.length_cons, ih, zeroPad_decimal_length hfn.1 hfn.2, List.map_cons,
      List.sum_cons]
    omega

theorem fields_inj {spec : List (Nat × UInt8)} {ns ms : List Nat} (h : Fit spec ns) (h' : Fit spec ms)
    (he : fields spec ns = fields spec ms) : ns = ms := by
  induction h generalizing ms with
  | nil =>
    cases h'
    rfl
  | @cons f n spec ns hfn _ ih =>
    cases h' with
    | @cons _ m _ ms hfm hms =>
      rw [fields, fields] at he
      obtain ⟨hp, hr⟩ := List.append_inj he (by rw [zeroPad_decimal_length hfn.1 hfn.2, zeroPad_decimal_length hfm.1 hfm.2])
      rw [zeroPad_inj hp, ih hms (List.tail_eq_of_cons_eq hr)]

/-- The texts have the order of the numbers. -/
theorem fields_lt_iff {spec : List (Nat × UInt8)} {ns ms : List Nat} (h : Fit spec ns)
    (h' : Fit spec ms) : fields spec ns < fields spec ms ↔ ns < ms := by
  induction h generalizing ms with
  | nil =>
    cases h'
    exact iff_of_false (List.not_lt_nil _) (List.not_lt_nil _)
  | @cons f n spec ns hfn hns ih =>
    cases h' with
    | @cons _ m _ ms hfm hms =>
      have hlen : (zeroPad f.1 (decimal n)).length = (zeroPad f.1 (decimal m)).length := by
        rw [zeroPad_decimal_length hfn.1 hfn.2, zeroPad_decimal_length hfm.1 hfm.2]
      have heq : zeroPad f.1 (decimal n) = zeroPad f.1 (decimal m) ↔ n = m :=
        ⟨zeroPad_inj, fun h => by rw [h]⟩
      have hsame : ¬ f.2 < f.2 := fun hlt => absurd hlt (UInt8.lt_irrefl _)
      rw [fields, fields, append_lt_append_iff hlen, zeroPad_lt_iff hfn.1 hfn.2 hfm.2, heq,
        List.cons_lt_cons_iff, ih hms, List.cons_lt_cons_iff]
      tauto

end BStr
