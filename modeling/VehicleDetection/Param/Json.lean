import VehicleDetection.Base.SortedMap
import VehicleDetection.Param.Value

/-!
# `parameter_json.cpp`: JSON values to parameters and back

* `Json`                  a parsed document of `nlohmann::json`, with its three kinds of numbers;
* `jsonToDouble` ..       the scalar conversions, with the texts they throw;
* `jsonToParameterValue`  a value converted to the type a descriptor asks for;
* `parameterToJson`       a parameter as the object that is served.

`dump` is the printer of the JSON library: a thrown text quotes the value as it prints it.
-/

set_option linter.unusedVariables false

namespace VD
open BStr

/-- The members of an object stand in the order of the text; a key may occur twice there. -/
inductive Json where
  | null
  | bool (b : Bool)
  | integer (i : Int64)
  | unsigned (u : UInt64)
  | float (d : Float)
  | string (s : Bytes)
  | array (elems : List Json)
  | object (members : List (String × Json))

namespace Json

/-- the object itself, a `std::map`: the last value of a key counts -/
def asObject? : Json → Option (SortedMap String Json)
  | .object members => some (.ofList members)
  | _ => none

def asString? : Json → Option Bytes
  | .string s => some s
  | _ => none

end Json

/-! ## numbers -/

/-- towards zero -/
def truncInt (d : Float) : Int :=
  let n := (magnitude d).1 / (magnitude d).2
  if isNegative d then -(n : Int) else n

/-- `std::trunc` of a finite double -/
def trunc (d : Float) : Float := Float.ofInt (truncInt d)

/-- `get<double>()` of a number -/
def Json.asNumber? : Json → Option Float
  | .integer i => some (Float.ofInt i.toInt)
  | .unsigned u => some (Float.ofNat u.toNat)
  | .float d => some d
  | _ => none

section
variable (dump : Json → Bytes)

/-- the text of `throw_conversion` -/
def conversionError (value : Json) (targetType : String) : Bytes :=
  lit "cannot convert JSON value '" ++ dump value ++ lit "' to parameter type '" ++
    lit targetType ++ lit "'"

def jsonToDouble (value : Json) : Except Bytes Float :=
  match value.asNumber? with
  | some d => .ok d
  | none =>
    match value with
    | .bool b => .ok (if b then 1.0 else 0.0)
    | _ => .error (conversionError dump value "double")

def jsonToInt (value : Json) : Except Bytes Int64 :=
  match value with
  | .unsigned u =>
    if u > Int64.maxValue.toUInt64 then .error (conversionError dump value "integer")
    else .ok u.toInt64
  | .integer i => .ok i
  | .float d =>
    if ¬ d.isFinite ∨ trunc d != d then .error (conversionError dump value "integer")
    else if d < -9223372036854775808.0 ∨ d ≥ 9223372036854775808.0 then
      .error (conversionError dump value "integer")
    else .ok (Int64.ofInt (truncInt d))
  | .bool b => .ok (if b then 1 else 0)
  | _ => .error (conversionError dump value "integer")

example : jsonToInt (fun _ => []) (.float (-3.0)) = .ok (-3) := by decide +kernel
example : jsonToInt (fun _ => lit "2.5") (.float 2.5) =
    .error (lit "cannot convert JSON value '2.5' to parameter type 'integer'") := by decide +kernel

def jsonToBool (value : Json) : Except Bytes Bool :=
  match value with
  | .bool b => .ok b
  | .string s =>
    if s = lit "true" ∨ s = lit "1" then .ok true
    else if s = lit "false" ∨ s = lit "0" then .ok false
    else .error (conversionError dump value "bool")
  | _ =>
    match value.asNumber? with
    | some d => .ok (d != 0.0)
    | none => .error (conversionError dump value "bool")

def jsonToString (value : Json) : Except Bytes Bytes :=
  match value with
  | .string s => .ok s
  | .bool _ | .integer _ | .unsigned _ | .float _ => .ok (dump value)
  | _ => .error (conversionError dump value "string")

/-- the array branches: every element is converted, the first one that fails throws -/
def jsonToArray {A : Type} (convert : Json → Except Bytes A) (targetType : String) (value : Json) :
    Except Bytes (List A) :=
  match value with
  | .array elems => elems.mapM convert
  | _ => .error (conversionError dump value targetType)

end

/-! ## types -/

/-- the codes of `rcl_interfaces/msg/ParameterType` -/
def ParameterType.code : ParameterType → UInt8
  | .notSet => 0
  | .bool => 1
  | .integer => 2
  | .double => 3
  | .string => 4
  | .byteArray => 5
  | .boolArray => 6
  | .integerArray => 7
  | .doubleArray => 8
  | .stringArray => 9

def ParameterType.ofCode? (code : UInt8) : Option ParameterType :=
  [.notSet, .bool, .integer, .double, .string, .byteArray, .boolArray, .integerArray, .doubleArray,
    .stringArray][code.toNat]?

theorem ParameterType.ofCode?_code (t : ParameterType) : ofCode? t.code = some t := by
  cases t <;> rfl

def parameterTypeName (type : UInt8) : String :=
  match ParameterType.ofCode? type with
  | some .notSet => "not_set"
  | some .bool => "bool"
  | some .integer => "integer"
  | some .double => "double"
  | some .string => "string"
  | some .byteArray => "byte_array"
  | some .boolArray => "bool_array"
  | some .integerArray => "integer_array"
  | some .doubleArray => "double_array"
  | some .stringArray => "string_array"
  | none => "unknown"

/-- the member `value` that `parameter_to_json` gives -/
def ParameterValue.toJson : ParameterValue → Json
  | .notSet => .null
  | .bool b => .bool b
  | .integer i => .integer i
  | .double d => .float d
  | .string s => .string s
  | .byteArray a => .array (a.map fun b => .unsigned b.toUInt64)
  | .boolArray a => .array (a.map .bool)
  | .integerArray a => .array (a.map .integer)
  | .doubleArray a => .array (a.map .float)
  | .stringArray a => .array (a.map .string)

def parameterToJson (param : Parameter) : SortedMap String Json :=
  .ofList [("name", .string (lit param.getName)),
    ("type", .string (lit (parameterTypeName param.2.type.code))), ("value", param.2.toJson)]

theorem parameterToJson_eq (param : Parameter) : parameterToJson param =
    ((SortedMap.empty.put "name" (.string (lit param.getName))).put "type"
      (.string (lit (parameterTypeName param.2.type.code)))).put "value" param.2.toJson := rfl

theorem parameterToJson_type (param : Parameter) :
    (parameterToJson param).find? "type" = some (.string (lit (parameterTypeName param.2.type.code))) := by
  rw [parameterToJson_eq, SortedMap.find?_put, if_neg (by decide), SortedMap.find?_put, if_pos rfl]

theorem parameterToJson_value (param : Parameter) :
    (parameterToJson param).find? "value" = some param.2.toJson := by
  rw [parameterToJson_eq, SortedMap.find?_put, if_pos rfl]

def jsonToParameterValue (dump : Json → Bytes) (value : Json) (expectedType : UInt8) :
    Except Bytes ParameterValue :=
  match ParameterType.ofCode? expectedType with
  | some .bool => (jsonToBool dump value).map .bool
  | some .integer => (jsonToInt dump value).map .integer
  | some .double => (jsonToDouble dump value).map .double
  | some .string => (jsonToString dump value).map .string
  | some .boolArray => (jsonToArray dump (jsonToBool dump) "bool_array" value).map .boolArray
  | some .integerArray => (jsonToArray dump (jsonToInt dump) "integer_array" value).map .integerArray
  | some .doubleArray => (jsonToArray dump (jsonToDouble dump) "double_array" value).map .doubleArray
  | some .stringArray => (jsonToArray dump (jsonToString dump) "string_array" value).map .stringArray
  | some .byteArray => .error (lit "byte_array parameters are not supported via the GUI bridge")
  | some .notSet => .error (lit "target parameter is not declared on the remote node")
  | none => .error (lit "unknown parameter type")

/-- A converted value has the type that was asked for. -/
theorem jsonToParameterValue_type {dump : Json → Bytes} {value : Json} {t : ParameterType}
    {v : ParameterValue} (h : jsonToParameterValue dump value t.code = .ok v) : v.type = t := by
  unfold jsonToParameterValue at h
  rw [ParameterType.ofCode?_code] at h
  cases t with
  | notSet => cases h
  | byteArray => cases h
  | _ =>
    obtain ⟨a, -, rfl⟩ := map_ok.mp h
    rfl

end VD
