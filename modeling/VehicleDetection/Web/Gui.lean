import VehicleDetection.Param.Text
import VehicleDetection.Web.Script

/-!
# `parameter_gui.html`: the fields of a page

* `servedEntry`, `receiveParam`  a parameter as `GET /api/parameters` serves it and as the page reads it;
* `inputForParameter`            the field of a parameter;
* `readInput`                    the value that stands in a field;
* `collectChanged`               the values that differ from the ones the page started with;
* `Served.spec`                  the type and the value that arrive.
-/

set_option linter.unusedVariables false

namespace VD
open BStr

/-! ## from the bridge to the page -/

/-- what `snapshot_node` reads of a descriptor -/
structure ParameterDescriptor where
  description : Bytes
  additionalConstraints : Bytes
  readOnly : Bool

/-- the entry of a parameter in `snapshot_node`; there may be no descriptor -/
def servedEntry (param : Parameter) (descriptor : Option ParameterDescriptor) : SortedMap String Json :=
  let entry := parameterToJson param
  match descriptor with
  | none => entry
  | some d =>
    let entry := if d.description = [] then entry else entry.put "description" (.string d.description)
    let entry :=
      if d.additionalConstraints = [] then entry
      else entry.put "constraints" (.string d.additionalConstraints)
    entry.put "read_only" (.bool d.readOnly)

structure Param where
  name : String
  type : String
  value : JsValue
  readOnly : Bool
deriving DecidableEq

section
variable (br : Browser)

/-- a scalar as it arrives; the text of a double that is not finite is `null` -/
def receiveScalar : Json → Option JsScalar
  | .null => some .null
  | .bool b => some (.bool b)
  | .integer i => some (.number (br.parseInteger i.toInt))
  | .unsigned u => some (.number (br.parseInteger u.toNat))
  | .float d => some (if d.isFinite then .number d else .null)
  | .string s => (decodeText s).map fun t => .string t.toList
  | _ => none

def receiveValue : Json → Option JsValue
  | .array elems => (elems.mapM (receiveScalar br)).map .array
  | v => (receiveScalar br v).map .scalar

/-- what the page uses of an entry -/
def receiveParam (entry : SortedMap String Json) : Option Param := do
  let name ← entry.find? "name" >>= Json.asString? >>= decodeText
  let type ← entry.find? "type" >>= Json.asString? >>= decodeText
  let value ← entry.find? "value" >>= receiveValue br
  let readOnly := match entry.find? "read_only" with
    | some (.bool b) => b
    | _ => false
  return { name, type, value, readOnly }

end

/-! ## fields -/

/-- an element as far as its content goes; `kind` is `dataset.kind` -/
structure Field where
  kind : String
  value : List Char := []
  checked : Bool := false

/-- a field on the page, with `dataset.paramName` and `dataset.original` -/
structure Input where
  field : Field
  disabled : Bool
  paramName : String
  original : List Char

def arrayTypes : List String := ["bool_array", "integer_array", "double_array", "string_array"]

section
variable (br : Browser)

def inputForParameter (param : Param) : Field :=
  let t := param.type
  if t = "bool" then { kind := "bool", checked := param.value.truthy }
  else if t = "integer" then { kind := "integer", value := param.value.orZero.toText br }
  else if t = "double" then { kind := "double", value := param.value.orZero.toText br }
  else if t ∈ arrayTypes then
    { kind := t
      value := match param.value with
        | .array elems => Fields.join ',' [' '] (elems.map (JsScalar.joined br))
        | _ => [] }
  else { kind := "string", value := param.value.orEmpty br }

/-- one row of `renderNode` -/
def renderInput (p : Param) : Input where
  field := inputForParameter br p
  disabled := p.readOnly
  paramName := p.name
  original := p.value.stringify br

def readNumber (s : List Char) : Except String Float :=
  let n := br.number s
  if ¬ n.isFinite then .error "not a number" else .ok n

def readInteger (s : List Char) : Except String Float := do
  let n ← readNumber br s
  if ¬ isInteger n then .error "expected integer" else .ok n

def readBool (s : List Char) : Except String Bool :=
  if s = "true".toList ∨ s = "1".toList then .ok true
  else if s = "false".toList ∨ s = "0".toList then .ok false
  else .error "expected boolean (true/false)"

/-- the branch of the arrays -/
def readItems (kind : String) (items : List (List Char)) : Except String JsValue :=
  if kind = "bool_array" then (items.mapM readBool).map fun l => .array (l.map .bool)
  else if kind = "integer_array" then (items.mapM (readInteger br)).map fun l => .array (l.map .number)
  else if kind = "double_array" then (items.mapM (readNumber br)).map fun l => .array (l.map .number)
  else .ok (.array (items.map .string))

def readInput (el : Field) : Except String JsValue :=
  let kind := el.kind
  if kind = "bool" then .ok (.scalar (.bool el.checked))
  else if kind = "integer" then (readInteger br el.value).map fun n => .scalar (.number n)
  else if kind = "double" then (readNumber br el.value).map fun n => .scalar (.number n)
  else if kind ∈ arrayTypes then readItems br kind (Fields.items ',' isJsSpace el.value)
  else .ok (.scalar (.string el.value))

/-- `changed[name] = value` -/
def assign (changed : List (String × JsValue)) (name : String) (value : JsValue) : List (String × JsValue) :=
  if name ∈ changed.map Prod.fst then changed.map fun e => if e.1 = name then (name, value) else e
  else changed ++ [(name, value)]

def collectOne (changed : List (String × JsValue)) (el : Input) : Except String (List (String × JsValue)) :=
  if el.disabled then .ok changed
  else
    match readInput br el.field with
    | .error message => .error (el.paramName ++ ": " ++ message)
    | .ok value =>
      if value.stringify br ≠ el.original then .ok (assign changed el.paramName value) else .ok changed

def collectChanged (card : List Input) : Except String (List (String × JsValue)) :=
  card.foldlM (collectOne br) []

end

/-! ## what arrives -/

/-- a parameter with this value, served with some name and descriptor, arrives as `p` -/
def Served (br : Browser) (value : ParameterValue) (p : Param) : Prop :=
  ∃ name descriptor, receiveParam br (servedEntry (name, value) descriptor) = some p

theorem servedEntry_find? (param : Parameter) (descriptor : Option ParameterDescriptor) {key : String}
    (h : key ∉ ["description", "constraints", "read_only"]) :
    (servedEntry param descriptor).find? key = (parameterToJson param).find? key := by
  obtain ⟨h1, h⟩ := not_or.mp (mt List.mem_cons.mpr h)
  obtain ⟨h2, h⟩ := not_or.mp (mt List.mem_cons.mpr h)
  have h3 : key ≠ "read_only" := fun e => h (List.mem_singleton.mpr e)
  cases descriptor with
  | none => rfl
  | some d =>
    unfold servedEntry
    dsimp only
    rw [SortedMap.find?_put, if_neg h3]
    split
    · split
      · rfl
      · rw [SortedMap.find?_put, if_neg h1]
    · rw [SortedMap.find?_put, if_neg h2]
      split
      · rfl
      · rw [SortedMap.find?_put, if_neg h1]

theorem decodeText_typeName (t : ParameterType) :
    decodeText (lit (parameterTypeName t.code)) = some (parameterTypeName t.code) := by
  cases t <;> decide +kernel

/-- the type and the value of a served parameter -/
theorem Served.spec {br : Browser} {value : ParameterValue} {p : Param} (h : Served br value p) :
    p.type = parameterTypeName value.type.code ∧ receiveValue br value.toJson = some p.value := by
  obtain ⟨name, descriptor, h⟩ := h
  have htype : (servedEntry (name, value) descriptor).find? "type" =
      some (.string (lit (parameterTypeName value.type.code))) := by
    rw [servedEntry_find? _ _ (by decide), parameterToJson_type]
  have hvalue : (servedEntry (name, value) descriptor).find? "value" = some value.toJson := by
    rw [servedEntry_find? _ _ (by decide), parameterToJson_value]
  unfold receiveParam at h
  rw [htype, hvalue] at h
  obtain ⟨n, -, h⟩ := Option.bind_eq_some_iff.mp h
  obtain ⟨t, ht, h⟩ := Option.bind_eq_some_iff.mp h
  obtain ⟨v, hv, h⟩ := Option.bind_eq_some_iff.mp h
  cases h
  rw [Option.bind_eq_bind, Option.bind_eq_bind, Option.bind_some, Json.asString?, Option.bind_some,
    decodeText_typeName] at ht
  exact ⟨(Option.some.inj ht).symm, hv⟩

end VD
