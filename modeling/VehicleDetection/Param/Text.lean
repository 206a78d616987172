import VehicleDetection.Base.JsonText
import VehicleDetection.Param.Json

/-!
# JSON values and their texts

What `dump` prints of a value, and a reader of texts.

* `Json.printed`   the value that the printed text has; `none`: `dump` throws;
* `printed_isSome`  it prints a value exactly when every string in it is UTF-8;
* `printedMap`     the same for the object that a map is;
* `readJson`       `json::parse` for texts without exponents and surrogate pairs;
* `readJson_tokens`  it goes by the tokens of the text.
-/

set_option linter.unusedVariables false

namespace VD
open BStr JsonText

/-- a text is served if it is UTF-8 -/
def decodeText (s : Bytes) : Option String := String.fromUTF8? s.toByteArray

theorem decodeText_lit (s : String) : decodeText (lit s) = some s := by
  have hencode : s.toByteArray = (lit s).toByteArray := String.utf8Encode_toList.symm
  have hvalid : (lit s).toByteArray.IsValidUTF8 := hencode ▸ s.isValidUTF8
  unfold decodeText String.fromUTF8?
  rw [dif_pos hvalid]
  exact congrArg some (String.toByteArray_inj.mp hencode.symm)

/-! ## printing -/

mutual

/-- A number that is not finite is printed as `null`, and a string that is not UTF-8 makes `dump` throw. What is
printed has been put together from maps, so no key occurs twice in an object. -/
def Json.printed : Json → Option Json
  | .float d => some (if d.isFinite then .float d else .null)
  | .string s => (decodeText s).map fun _ => .string s
  | .array elems => (printedElems elems).map .array
  | .object members => (printedMembers members).map .object
  | value => some value

def Json.printedElems : List Json → Option (List Json)
  | [] => some []
  | value :: elems => value.printed.bind fun v => (printedElems elems).map fun vs => v :: vs

def Json.printedMembers : List (String × Json) → Option (List (String × Json))
  | [] => some []
  | (key, value) :: members => value.printed.bind fun v => (printedMembers members).map fun vs => (key, v) :: vs

end

mutual

/-- every string in a value -/
def Json.strings : Json → List Bytes
  | .string s => [s]
  | .array elems => stringsElems elems
  | .object members => stringsMembers members
  | _ => []

def Json.stringsElems : List Json → List Bytes
  | [] => []
  | value :: elems => value.strings ++ stringsElems elems

def Json.stringsMembers : List (String × Json) → List Bytes
  | [] => []
  | (key, value) :: members => value.strings ++ stringsMembers members

end

/-- all of these are UTF-8 -/
def Utf8 (texts : List Bytes) : Prop := ∀ s ∈ texts, (decodeText s).isSome = true

theorem utf8_append {a b : List Bytes} : Utf8 (a ++ b) ↔ Utf8 a ∧ Utf8 b := List.forall_mem_append

theorem isSome_bind_map {A B C : Type} (x : Option A) (y : Option B) (f : A → B → C) :
    (x.bind fun a => y.map fun b => f a b).isSome = true ↔ x.isSome = true ∧ y.isSome = true := by
  cases x with
  | none => simp
  | some a => simp

mutual

theorem printed_isSome : ∀ value : Json, value.printed.isSome = true ↔ Utf8 value.strings
  | .null => by simp [Json.printed, Json.strings, Utf8]
  | .bool b => by simp [Json.printed, Json.strings, Utf8]
  | .integer i => by simp [Json.printed, Json.strings, Utf8]
  | .unsigned u => by simp [Json.printed, Json.strings, Utf8]
  | .float d => by simp [Json.printed, Json.strings, Utf8]
  | .string s => by
    rw [Json.printed, Json.strings, Option.isSome_map]
    exact (List.forall_mem_singleton (p := fun t => (decodeText t).isSome = true)).symm
  | .array elems => by
    rw [Json.printed, Json.strings, Option.isSome_map]
    exact printedElems_isSome elems
  | .object members => by
    rw [Json.printed, Json.strings, Option.isSome_map]
    exact printedMembers_isSome members

theorem printedElems_isSome : ∀ elems : List Json,
    (Json.printedElems elems).isSome = true ↔ Utf8 (Json.stringsElems elems)
  | [] => by simp [Json.printedElems, Json.stringsElems, Utf8]
  | value :: elems => by
    rw [Json.printedElems, Json.stringsElems, isSome_bind_map, utf8_append, printed_isSome value,
      printedElems_isSome elems]

theorem printedMembers_isSome : ∀ members : List (String × Json),
    (Json.printedMembers members).isSome = true ↔ Utf8 (Json.stringsMembers members)
  | [] => by simp [Json.printedMembers, Json.stringsMembers, Utf8]
  | (key, value) :: members => by
    rw [Json.printedMembers, Json.stringsMembers, isSome_bind_map, utf8_append, printed_isSome value,
      printedMembers_isSome members]

end

theorem printedElems_eq (elems : List Json) : Json.printedElems elems = elems.mapM Json.printed := by
  induction elems with
  | nil => rfl
  | cons value elems ih =>
    rw [Json.printedElems, ih, List.mapM_cons]
    cases value.printed with
    | none => rfl
    | some v => cases elems.mapM Json.printed <;> rfl

theorem printedMembers_keys : ∀ {members printed : List (String × Json)},
    Json.printedMembers members = some printed → printed.map Prod.fst = members.map Prod.fst := by
  intro members
  induction members with
  | nil =>
    intro printed h
    cases h
    rfl
  | cons member members ih =>
    intro printed h
    obtain ⟨key, value⟩ := member
    rw [Json.printedMembers] at h
    obtain ⟨v, -, h⟩ := Option.bind_eq_some_iff.mp h
    obtain ⟨vs, hvs, rfl⟩ := Option.map_eq_some_iff.mp h
    rw [List.map_cons, List.map_cons, ih hvs]

/-- the map whose object is printed -/
def printedMap (m : SortedMap String Json) : Option (SortedMap String Json) :=
  match h : Json.printedMembers m.items with
  | none => none
  | some items => some ⟨items, by rw [printedMembers_keys h]; exact m.sorted⟩

theorem printed_map (m : SortedMap String Json) :
    (Json.object m.items).printed = (printedMap m).map fun m => .object m.items := by
  rw [Json.printed, printedMap]
  split
  · rename_i h
    exact congrArg (Option.map Json.object) h
  · rename_i items h
    exact congrArg (Option.map Json.object) h

/-- what is found in an object that has been printed -/
theorem printedMap_find? {m m' : SortedMap String Json} (h : printedMap m = some m') (key : String) :
    m'.find? key = (m.find? key).bind Json.printed := by
  have hitems : ∀ {members printed : List (String × Json)}, Json.printedMembers members = some printed →
      (printed.find? fun e => e.1 = key).map Prod.snd =
        ((members.find? fun e => e.1 = key).map Prod.snd).bind Json.printed := by
    intro members
    induction members with
    | nil =>
      intro printed h
      cases h
      rfl
    | cons member members ih =>
      intro printed h
      obtain ⟨k, value⟩ := member
      rw [Json.printedMembers] at h
      obtain ⟨v, hv, h⟩ := Option.bind_eq_some_iff.mp h
      obtain ⟨vs, hvs, rfl⟩ := Option.map_eq_some_iff.mp h
      by_cases hk : k = key
      · simp [hk, hv]
      · simpa [hk] using ih hvs
  rw [printedMap] at h
  split at h
  · cases h
  · rename_i items hprinted
    cases h
    exact hitems hprinted

/-! ## reading -/

/-- a number of digits, perhaps with a fraction -/
def readFraction (digits : Bytes) : Option Float :=
  let whole := digits.takeWhile isDigit
  match digits.dropWhile isDigit with
  | [] => some (Float.ofScientific (readDigits whole) true 0)
  | 46 :: frac =>
    if frac ≠ [] ∧ frac.all isDigit then some (Float.ofScientific (readDigits (whole ++ frac)) true frac.length)
    else none
  | _ => none

/-- Digits without a fraction are an integer where one of the two types has it. -/
def readUnsigned (digits : Bytes) : Option Json :=
  match readDecimal digits with
  | some n => if n < 2 ^ 64 then some (.unsigned (UInt64.ofNat n)) else (readFraction digits).map .float
  | none => (readFraction digits).map .float

def readNegative (digits : Bytes) : Option Json :=
  match readDecimal digits with
  | some n =>
    if n ≤ 2 ^ 63 then some (.integer (Int64.ofInt (-n))) else (readFraction digits).map fun d => .float (-d)
  | none => (readFraction digits).map fun d => .float (-d)

/-- no digit stands behind a zero that the number begins with -/
def readBare (s : Bytes) : Option Json :=
  if s = lit "null" then some .null
  else if s = lit "true" then some (.bool true)
  else if s = lit "false" then some (.bool false)
  else
    let negative := s.head? = some 45
    let digits := if negative then s.tail else s
    if ¬ (digits.head?.any isDigit) ∨ digits.head? = some 48 ∧ (digits.tail.head?.any isDigit) then none
    else if negative then readNegative digits else readUnsigned digits

mutual

def Json.ofTree : Tree → Option Json
  | .str s => (decodeText s).map fun _ => .string s
  | .bare s => readBare s
  | .arr elems => (ofElems elems).map .array
  | .obj members => (ofMembers members).map .object

def Json.ofElems : List Tree → Option (List Json)
  | [] => some []
  | t :: ts => (ofTree t).bind fun v => (ofElems ts).map fun vs => v :: vs

def Json.ofMembers : List (Bytes × Tree) → Option (List (String × Json))
  | [] => some []
  | (k, t) :: ts => (decodeText k).bind fun key => (ofTree t).bind fun v => (ofMembers ts).map fun vs => (key, v) :: vs

end

def readJson (s : Bytes) : Except Bytes Json :=
  match (JsonText.read s).bind Json.ofTree with
  | some value => .ok value
  | none => .error (lit "parse error")

theorem ofTree_str (s : String) : Json.ofTree (.str (lit s)) = some (.string (lit s)) := by
  rw [Json.ofTree, decodeText_lit]
  rfl

theorem ofMembers_cons (key : String) {t : Tree} {members : List (Bytes × Tree)} {value : Json}
    {values : List (String × Json)} (hvalue : Json.ofTree t = some value)
    (hvalues : Json.ofMembers members = some values) :
    Json.ofMembers ((lit key, t) :: members) = some ((key, value) :: values) := by
  rw [Json.ofMembers, decodeText_lit, hvalue, hvalues]
  rfl

theorem ofMembers_one (key : String) {t : Tree} {value : Json} (hvalue : Json.ofTree t = some value) :
    Json.ofMembers [(lit key, t)] = some [(key, value)] :=
  ofMembers_cons key hvalue (by rw [Json.ofMembers])

/-- a text with the tokens of a tree -/
theorem readJson_tokens {s : Bytes} {t : Tree} {value : Json} (h : lex s = some t.tokens)
    (hv : Json.ofTree t = some value) : readJson s = .ok value := by
  unfold readJson JsonText.read
  rw [h, Option.bind_some, parse_tokens, Option.bind_some, hv]

end VD
