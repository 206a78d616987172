import VehicleDetection.Base.Decimal

/-!
# `detection_json.cpp`: the payload of one frame as JSON text

`serializeDetections` is the one serializer of the HTTP body and of the saved lines.  Its text
holds no control byte (`serializeDetections_printable`), so it is one line of a JSONL file.
-/

set_option linter.unusedVariables false

namespace VD
open BStr

/-- `kPayloadSchemaVersion` -/
def payloadSchemaVersion : Bytes := lit "1.0"

/-- The numbers are doubles; `R` is another type where the arithmetic is to be exact. -/
structure DetectionJsonItem (R : Type := Float) where
  id : Bytes
  classLabel : Bytes
  confidence : R
  centerX : R
  centerY : R
  centerZ : R
  length : R
  width : R
  height : R
  yaw : R
deriving DecidableEq

structure DetectionJsonPayload (R : Type := Float) where
  stampSec : Int32
  stampNanosec : UInt32
  frameId : Bytes
  detections : List (DetectionJsonItem R)
deriving DecidableEq

/-- `snprintf` into a buffer of 32 bytes stores at most 31 characters -/
def formatDouble (value : Float) : Bytes :=
  if value.isFinite then (fixed6 value).take 31 else lit "0.0"

def escapeByte (c : UInt8) : Bytes :=
  if c = 34 then lit "\\\""
  else if c = 92 then lit "\\\\"
  else if c = 8 then lit "\\b"
  else if c = 12 then lit "\\f"
  else if c = 10 then lit "\\n"
  else if c = 13 then lit "\\r"
  else if c = 9 then lit "\\t"
  else if c < 32 then lit "\\u" ++ zeroPad 4 (hexadecimal c.toNat)
  else [c]

def escapeJsonString (input : Bytes) : Bytes := input.flatMap escapeByte

/-! ## time stamps -/

/-- `struct tm` as `gmtime_r` fills it; the month counts from 1 here -/
structure Tm where
  year : Int
  mon : Nat
  mday : Nat
  hour : Nat
  min : Nat
  sec : Nat
deriving DecidableEq

/-- The proleptic Gregorian date of a day number (day 0 is 1970-01-01).  Years run from March, in
eras of 400 years, so that the leap day is the last day of its year. -/
def civilFromDays (days : Int) : Int × Nat × Nat :=
  let z := days + 719468
  let era := z / 146097
  let doe := (z % 146097).toNat
  let yoe := (doe - doe / 1460 + doe / 36524 - doe / 146096) / 365
  let doy := doe - (365 * yoe + yoe / 4 - yoe / 100)
  let mp := (5 * doy + 2) / 153
  let d := doy - (153 * mp + 2) / 5 + 1
  let m := if mp < 10 then mp + 3 else mp - 9
  (yoe + era * 400 + (if m ≤ 2 then 1 else 0), m, d)

def gmtime (t : Int) : Tm :=
  let date := civilFromDays (t / 86400)
  let s := (t % 86400).toNat
  ⟨date.1, date.2.1, date.2.2, s / 3600, s / 60 % 60, s % 60⟩

/-- `strftime` with `%Y-%m-%dT%H:%M:%S` -/
def strftime (tm : Tm) : Bytes :=
  decimalInt tm.year ++ 45 :: zeroPad 2 (decimal tm.mon) ++ 45 :: zeroPad 2 (decimal tm.mday) ++
    84 :: zeroPad 2 (decimal tm.hour) ++ 58 :: zeroPad 2 (decimal tm.min) ++
    58 :: zeroPad 2 (decimal tm.sec)

def formatIso8601Utc (sec : Int32) (nanosec : UInt32) : Bytes :=
  let millis := nanosec / 1000000
  strftime (gmtime sec.toInt) ++ 46 :: zeroPad 3 (decimal millis.toNat) ++ lit "Z"

example : formatIso8601Utc 1777552496 123456789 = lit "2026-04-30T12:34:56.123Z" := by
  decide +kernel

/-! ## the document -/

def serializeItem (d : DetectionJsonItem) : Bytes :=
  List.flatten [
    lit "\x7b",
    lit "\"id\":\"", escapeJsonString d.id, lit "\"",
    lit ",\"class\":\"", escapeJsonString d.classLabel, lit "\"",
    lit ",\"confidence\":", formatDouble d.confidence,
    lit ",\"center\":\x7b",
    lit "\"x\":", formatDouble d.centerX,
    lit ",\"y\":", formatDouble d.centerY,
    lit ",\"z\":", formatDouble d.centerZ,
    lit "\x7d",
    lit ",\"size\":\x7b",
    lit "\"length\":", formatDouble d.length,
    lit ",\"width\":", formatDouble d.width,
    lit ",\"height\":", formatDouble d.height,
    lit "\x7d",
    lit ",\"yaw\":", formatDouble d.yaw,
    lit "\x7d"]

def serializeDetections (payload : DetectionJsonPayload) : Bytes :=
  List.flatten [
    lit "\x7b",
    lit "\"schema_version\":\"", escapeJsonString payloadSchemaVersion, lit "\"",
    lit ",\"timestamp\":\"",
    formatIso8601Utc payload.stampSec payload.stampNanosec, lit "\"",
    lit ",\"frame_id\":\"", escapeJsonString payload.frameId, lit "\"",
    lit ",\"detections\":[",
    List.intercalate (lit ",") (payload.detections.map serializeItem),
    lit "]\x7d"]

/-! ## one line -/

/-- no control byte, in particular no line end -/
def Printable (s : Bytes) : Prop := ∀ b ∈ s, 32 ≤ b.toNat

instance (s : Bytes) : Decidable (Printable s) :=
  decidable_of_iff (s.all (fun b => 32 ≤ b) = true)
    (by simp [Printable, UInt8.le_iff_toNat_le])

theorem Printable.append {a b : Bytes} (ha : Printable a) (hb : Printable b) :
    Printable (a ++ b) := by
  intro x hx
  exact (List.mem_append.mp hx).elim (ha x) (hb x)

theorem Printable.cons {x : UInt8} {a : Bytes} (hx : 32 ≤ x.toNat) (ha : Printable a) :
    Printable (x :: a) := by
  intro y hy
  rcases List.mem_cons.mp hy with rfl | hy
  · exact hx
  · exact ha y hy

theorem Printable.flatten {l : List Bytes} (h : ∀ s ∈ l, Printable s) : Printable l.flatten := by
  intro b hb
  obtain ⟨s, hs, hbs⟩ := List.mem_flatten.mp hb
  exact h s hs b hbs

theorem Printable.intercalate {sep : Bytes} {l : List Bytes} (hsep : Printable sep)
    (h : ∀ s ∈ l, Printable s) : Printable (List.intercalate sep l) := by
  induction l with
  | nil => exact fun b hb => absurd hb List.not_mem_nil
  | cons s l ih =>
    have hs := h s List.mem_cons_self
    have ih' := ih fun t ht => h t (List.mem_cons_of_mem _ ht)
    cases l with
    | nil => rwa [List.intercalate_singleton]
    | cons t l =>
      rw [List.intercalate_cons_cons]
      exact (hs.append hsep).append ih'

theorem Printable.of_isNumeric {s : Bytes} (h : ∀ b ∈ s, isNumeric b = true) : Printable s :=
  fun b hb => le_trans (by norm_num) (le_of_isNumeric (h b hb))

theorem Printable.digits (w n : Nat) : Printable (zeroPad w (decimal n)) :=
  Printable.of_isNumeric fun b hb =>
    isNumeric_of_isDigit (zeroPad_isDigit w (decimal_isDigit n) b hb)

theorem formatDouble_printable (value : Float) : Printable (formatDouble value) := by
  unfold formatDouble
  split
  · exact Printable.of_isNumeric fun b hb => fixed6_isNumeric value b (List.mem_of_mem_take hb)
  · decide +kernel

/-- the sixteen two-digit escapes of the control bytes that have no letter of their own -/
theorem escapeByte_control : ∀ c : UInt8, c < 32 → Printable (escapeByte c) := by
  decide +kernel

theorem escapeByte_printable (c : UInt8) : Printable (escapeByte c) := by
  by_cases hc : c < 32
  · exact escapeByte_control c hc
  · have h32 : 32 ≤ c.toNat := by
      rw [UInt8.lt_iff_toNat_lt] at hc
      exact Nat.le_of_not_lt hc
    unfold escapeByte
    repeat' split
    all_goals first
      | decide +kernel
      | exact Printable.cons h32 (by decide +kernel)

theorem escapeJsonString_printable (input : Bytes) : Printable (escapeJsonString input) := by
  intro b hb
  obtain ⟨c, -, hc⟩ := List.mem_flatMap.mp hb
  exact escapeByte_printable c b hc

theorem decimalInt_isNumeric (n : Int) : ∀ b ∈ decimalInt n, isNumeric b = true := by
  have hd := fun b hb => isNumeric_of_isDigit (decimal_isDigit n.natAbs b hb)
  unfold decimalInt
  split
  · exact List.forall_mem_cons.mpr ⟨by decide, hd⟩
  · exact hd

/-- a time stamp is made of digits, signs and points, and of `T`, `:` and `Z` -/
theorem formatIso8601Utc_bytes (sec : Int32) (nanosec : UInt32) :
    ∀ b ∈ formatIso8601Utc sec nanosec, isNumeric b = true ∨ b ∈ lit "T:Z" := by
  have hpad : ∀ w n, ∀ b ∈ zeroPad w (decimal n), isNumeric b = true ∨ b ∈ lit "T:Z" := fun w n b hb =>
    .inl (isNumeric_of_isDigit (zeroPad_isDigit w (decimal_isDigit n) b hb))
  have hyear : ∀ n, ∀ b ∈ decimalInt n, isNumeric b = true ∨ b ∈ lit "T:Z" := fun n b hb =>
    .inl (decimalInt_isNumeric n b hb)
  simp only [formatIso8601Utc, strftime, List.forall_mem_append, List.forall_mem_cons]
  have hsep : ∀ c ∈ lit "-T:.", isNumeric c = true ∨ c ∈ lit "T:Z" := by decide +kernel
  refine ⟨⟨⟨⟨⟨⟨⟨hyear _, ?_, hpad _ _⟩, ?_, hpad _ _⟩, ?_, hpad _ _⟩, ?_, hpad _ _⟩, ?_, hpad _ _⟩, ?_,
    hpad _ _⟩, by decide +kernel⟩
  all_goals exact hsep _ (by decide +kernel)

theorem formatIso8601Utc_printable (sec : Int32) (nanosec : UInt32) :
    Printable (formatIso8601Utc sec nanosec) := by
  intro b hb
  rcases formatIso8601Utc_bytes sec nanosec b hb with h | h
  · exact le_trans (by norm_num) (le_of_isNumeric h)
  · exact (by decide +kernel : Printable (lit "T:Z")) b h

theorem serializeItem_printable (d : DetectionJsonItem) : Printable (serializeItem d) := by
  apply Printable.flatten
  simp only [List.forall_mem_cons]
  simp only [formatDouble_printable, escapeJsonString_printable, true_and]
  decide +kernel

theorem serializeDetections_printable (payload : DetectionJsonPayload) :
    Printable (serializeDetections payload) := by
  have hitems : Printable (List.intercalate (lit ",") (payload.detections.map serializeItem)) := by
    refine Printable.intercalate (by decide +kernel) fun s hs => ?_
    obtain ⟨d, -, rfl⟩ := List.mem_map.mp hs
    exact serializeItem_printable d
  apply Printable.flatten
  simp only [List.forall_mem_cons, escapeJsonString_printable, formatIso8601Utc_printable,
    hitems, true_and]
  decide +kernel

/-- the saved text of a payload is one line -/
theorem serializeDetections_no_newline (payload : DetectionJsonPayload) :
    (10 : UInt8) ∉ serializeDetections payload := by
  intro h
  exact absurd (serializeDetections_printable payload 10 h) (by decide)

end VD
