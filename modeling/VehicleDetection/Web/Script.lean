import VehicleDetection.Base.Fields
import VehicleDetection.Param.Json

/-!
# The language of the page

What `parameter_gui.html` uses of its language, on the values that a parameter can have: scalars and arrays
of scalars.  A string is a list of code points, a number is a double.

* `Browser`, `Standard`    numbers as text, and what is taken for granted of it;
* `JsScalar`, `JsValue`    values, `String(..)`, `join` and `JSON.stringify`;
* `quote_inj`              a string comes back from its JSON text;
* `stringify_strings_inj`  and so does an array of strings.
-/

set_option linter.unusedVariables false

namespace VD

/-! ## numbers -/

structure Browser where
  /-- `String(n)` -/
  string : Float → List Char
  /-- `Number(s)` -/
  number : List Char → Float
  /-- the number that the text of an integer is read as in JSON -/
  parseInteger : Int → Float

/-- `Number.isInteger` -/
def isInteger (n : Float) : Bool := n.isFinite && trunc n == n

/-- what the text of a finite number is made of -/
def isNumeral (c : Char) : Bool := c.isDigit || c == '+' || c == '-' || c == '.' || c == 'e'

/-- `String` and `Number` are inverse on finite numbers, the two zeros have one text, and a 64-bit integer is
read as the nearest number. -/
structure Browser.Standard (br : Browser) : Prop where
  inverse : ∀ n : Float, n.isFinite = true → n ≠ -0.0 → br.number (br.string n) = n
  zeros : br.string (-0.0) = br.string 0.0
  numeral : ∀ n : Float, n.isFinite = true → br.string n ≠ [] ∧ ∀ c ∈ br.string n, isNumeral c = true
  integer : ∀ i : Int64, isInteger (br.parseInteger i.toInt) = true

/-- the number that is read is one with the same text -/
theorem Browser.Standard.reread {br : Browser} (h : br.Standard) {n : Float} (hn : n.isFinite = true) :
    ∃ m, br.number (br.string n) = m ∧ m.isFinite = true ∧ br.string m = br.string n ∧
      (isInteger n = true → isInteger m = true) := by
  by_cases hz : n = -0.0
  · subst hz
    refine ⟨0.0, ?_, by decide +kernel, h.zeros.symm, fun _ => by decide +kernel⟩
    rw [h.zeros]
    exact h.inverse 0.0 (by decide +kernel) (by decide +kernel)
  · exact ⟨n, h.inverse n hn hz, hn, rfl, id⟩

/-! ## values -/

inductive JsScalar where
  | null
  | bool (b : Bool)
  | number (n : Float)
  | string (s : List Char)
deriving DecidableEq

inductive JsValue where
  | scalar (v : JsScalar)
  | array (elems : List JsScalar)
deriving DecidableEq

/-- the blanks that `trim` removes -/
def isJsSpace (c : Char) : Bool :=
  let n := c.toNat
  (9 ≤ n && n ≤ 13) || n == 0x20 || n == 0xA0 || n == 0x1680 || (0x2000 ≤ n && n ≤ 0x200A) ||
    n == 0x2028 || n == 0x2029 || n == 0x202F || n == 0x205F || n == 0x3000 || n == 0xFEFF

section
variable (br : Browser)

/-- `String(v)` -/
def JsScalar.toText : JsScalar → List Char
  | .null => "null".toList
  | .bool true => "true".toList
  | .bool false => "false".toList
  | .number n => br.string n
  | .string s => s

/-- an element as `join` writes it -/
def JsScalar.joined : JsScalar → List Char
  | .null => []
  | v => v.toText br

def JsValue.toText : JsValue → List Char
  | .scalar v => v.toText br
  | .array elems => Fields.join ',' [] (elems.map (JsScalar.joined br))

/-- `v == null ? "" : String(v)` -/
def JsValue.orEmpty : JsValue → List Char
  | .scalar .null => []
  | v => v.toText br

/-- `!!v` -/
def JsValue.truthy : JsValue → Bool
  | .scalar .null => false
  | .scalar (.bool b) => b
  | .scalar (.number n) => n != 0.0 && !n.isNaN
  | .scalar (.string s) => s != []
  | .array _ => true

/-- `v ?? 0` -/
def JsValue.orZero : JsValue → JsValue
  | .scalar .null => .scalar (.number 0.0)
  | v => v

def hexDigit (n : Nat) : Char := if n < 10 then Char.ofNat (48 + n) else Char.ofNat (87 + n)

/-- `quotation` and `backslash` -/
def quotation : Char := Char.ofNat 34
def backslash : Char := Char.ofNat 92

def quoteChar (c : Char) : List Char :=
  if c = quotation then [backslash, quotation]
  else if c = backslash then [backslash, backslash]
  else if c = Char.ofNat 8 then [backslash, 'b']
  else if c = Char.ofNat 9 then [backslash, 't']
  else if c = Char.ofNat 10 then [backslash, 'n']
  else if c = Char.ofNat 12 then [backslash, 'f']
  else if c = Char.ofNat 13 then [backslash, 'r']
  else if c.toNat < 32 then
    [backslash, 'u', '0', '0', hexDigit (c.toNat / 16), hexDigit (c.toNat % 16)]
  else [c]

/-- a string in JSON -/
def quote (s : List Char) : List Char := quotation :: s.flatMap quoteChar ++ [quotation]

/-- `JSON.stringify(v)` -/
def JsScalar.stringify : JsScalar → List Char
  | .null => "null".toList
  | .bool true => "true".toList
  | .bool false => "false".toList
  | .number n => if n.isFinite then br.string n else "null".toList
  | .string s => quote s

def JsValue.stringify : JsValue → List Char
  | .scalar v => v.stringify br
  | .array elems => '[' :: Fields.join ',' [] (elems.map (JsScalar.stringify br)) ++ [']']

end

/-! ## strings come back -/

def hexValue (c : Char) : Nat := if c.toNat < 58 then c.toNat - 48 else c.toNat - 87

/-- the first character of a quoted text, and the rest -/
def unquoteChar : List Char → Option (Char × List Char)
  | [] => none
  | c :: rest =>
    if c ≠ backslash then some (c, rest)
    else
      match rest with
      | 'u' :: _ :: _ :: hi :: lo :: rest => some (Char.ofNat (hexValue hi * 16 + hexValue lo), rest)
      | 'b' :: rest => some (Char.ofNat 8, rest)
      | 't' :: rest => some (Char.ofNat 9, rest)
      | 'n' :: rest => some (Char.ofNat 10, rest)
      | 'f' :: rest => some (Char.ofNat 12, rest)
      | 'r' :: rest => some (Char.ofNat 13, rest)
      | c :: rest => some (c, rest)
      | [] => none

theorem hexValue_hexDigit : ∀ n < 16, hexValue (hexDigit n) = n := by decide

theorem unquoteChar_quoteChar (c : Char) (rest : List Char) :
    unquoteChar (quoteChar c ++ rest) = some (c, rest) := by
  unfold quoteChar
  split_ifs with h1 h2 h3 h4 h5 h6 h7 h8
  · rw [h1]
    rfl
  · rw [h2]
    rfl
  · rw [h3]
    rfl
  · rw [h4]
    rfl
  · rw [h5]
    rfl
  · rw [h6]
    rfl
  · rw [h7]
    rfl
  · show some (Char.ofNat (hexValue (hexDigit (c.toNat / 16)) * 16 + hexValue (hexDigit (c.toNat % 16))),
      rest) = _
    rw [hexValue_hexDigit _ (by omega), hexValue_hexDigit _ (by omega), Nat.div_add_mod', Char.ofNat_toNat]
  · exact if_pos h2

theorem head_quoteChar (c : Char) : ∃ d ds, quoteChar c = d :: ds ∧ d ≠ quotation := by
  have hb : backslash ≠ quotation := by decide
  unfold quoteChar
  split_ifs with h1
  all_goals first
    | exact ⟨_, _, rfl, hb⟩
    | exact ⟨_, _, rfl, h1⟩

theorem quoteBody_inj {s t x y : List Char}
    (h : s.flatMap quoteChar ++ quotation :: x = t.flatMap quoteChar ++ quotation :: y) : s = t ∧ x = y := by
  induction s generalizing t with
  | nil =>
    cases t with
    | nil => exact ⟨rfl, (List.cons.inj h).2⟩
    | cons d t =>
      obtain ⟨e, es, he, hne⟩ := head_quoteChar d
      rw [List.flatMap_cons, he] at h
      exact absurd (List.cons.inj h).1.symm hne
  | cons c s ih =>
    cases t with
    | nil =>
      obtain ⟨e, es, he, hne⟩ := head_quoteChar c
      rw [List.flatMap_cons, he] at h
      exact absurd (List.cons.inj h).1 hne
    | cons d t =>
      rw [List.flatMap_cons, List.flatMap_cons, List.append_assoc, List.append_assoc] at h
      have hread := congrArg unquoteChar h
      rw [unquoteChar_quoteChar, unquoteChar_quoteChar] at hread
      obtain ⟨rfl, hrest⟩ := Prod.mk.inj (Option.some.inj hread)
      obtain ⟨rfl, hxy⟩ := ih hrest
      exact ⟨rfl, hxy⟩

/-- A string is determined by its JSON text, whatever follows it. -/
theorem quote_inj {s t x y : List Char} (h : quote s ++ x = quote t ++ y) : s = t ∧ x = y := by
  rw [quote, quote, List.append_assoc, List.append_assoc] at h
  exact quoteBody_inj (List.cons.inj h).2

theorem join_cons (t : List Char) (ts : List (List Char)) :
    Fields.join ',' [] (t :: ts) = t ++ ts.flatMap fun u => ',' :: u := by
  induction ts generalizing t with
  | nil => simp [Fields.join, List.intercalate]
  | cons u ts ih =>
    have hstep : Fields.join ',' [] (t :: u :: ts) = t ++ ',' :: Fields.join ',' [] (u :: ts) := by
      simp [Fields.join, List.intercalate]
    rw [hstep, ih u]
    rfl

theorem quotes_inj {l l' : List (List Char)}
    (h : (l.map quote).flatMap (fun u => ',' :: u) ++ [']'] =
      (l'.map quote).flatMap (fun u => ',' :: u) ++ [']']) : l = l' := by
  have hne : ']' ≠ ',' := by decide
  induction l generalizing l' with
  | nil =>
    cases l' with
    | nil => rfl
    | cons t l' => exact absurd (List.cons.inj h).1 hne
  | cons s l ih =>
    cases l' with
    | nil => exact absurd (List.cons.inj h).1 hne.symm
    | cons t l' =>
      rw [List.map_cons, List.map_cons, List.flatMap_cons, List.flatMap_cons, List.append_assoc,
        List.append_assoc] at h
      obtain ⟨rfl, hrest⟩ := quote_inj (List.cons.inj h).2
      rw [ih hrest]

/-- An array of strings is determined by its JSON text. -/
theorem stringify_strings_inj {br : Browser} {l l' : List (List Char)}
    (h : (JsValue.array (l.map .string)).stringify br = (JsValue.array (l'.map .string)).stringify br) :
    l = l' := by
  have hne : ']' ≠ quotation := by decide
  have hquote (l : List (List Char)) : (l.map JsScalar.string).map (JsScalar.stringify br) = l.map quote :=
    List.map_map
  rw [JsValue.stringify, JsValue.stringify, hquote, hquote, List.cons_append, List.cons_append] at h
  have h := (List.cons.inj h).2
  cases l with
  | nil =>
    cases l' with
    | nil => rfl
    | cons t l' =>
      rw [List.map_cons, join_cons, quote] at h
      exact absurd (List.cons.inj h).1 hne
  | cons s l =>
    cases l' with
    | nil =>
      rw [List.map_cons, join_cons, quote] at h
      exact absurd (List.cons.inj h).1.symm hne
    | cons t l' =>
      rw [List.map_cons, List.map_cons, join_cons, join_cons, List.append_assoc, List.append_assoc] at h
      obtain ⟨rfl, hrest⟩ := quote_inj h
      rw [quotes_inj hrest]

end VD
