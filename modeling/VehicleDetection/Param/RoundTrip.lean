import VehicleDetection.Param.Json

/-!
# Parameters to JSON and back

* `Json.retag`    every non-negative integer as the JSON parser tags it;
* `Reads`         what is converted back, with the integers tagged either way;
* `Reads.array`   arrays from their elements;
* `roundTrip`     what `parameter_to_json` gives is converted back to the same value.
-/

set_option linter.unusedVariables false

namespace VD
open BStr

mutual

/-- a text does not say that a number is signed: the parser makes it unsigned where it can -/
def Json.retag : Json → Json
  | .integer i => if 0 ≤ i then .unsigned i.toUInt64 else .integer i
  | .array elems => .array (retagElems elems)
  | .object members => .object (retagMembers members)
  | value => value

def Json.retagElems : List Json → List Json
  | [] => []
  | value :: elems => value.retag :: retagElems elems

def Json.retagMembers : List (String × Json) → List (String × Json)
  | [] => []
  | (key, value) :: members => (key, value.retag) :: retagMembers members

end

section
variable {dump : Json → Bytes} {A : Type}

/-- `convert` gives `a` for the value, and also after the value has been written and parsed -/
def Reads (convert : Json → Except Bytes A) (value : Json) (a : A) : Prop :=
  convert value = .ok a ∧ convert value.retag = .ok a

theorem Reads.bool (b : Bool) : Reads (jsonToBool dump) (.bool b) b := ⟨rfl, rfl⟩

theorem Reads.double (d : Float) : Reads (jsonToDouble dump) (.float d) d := ⟨rfl, rfl⟩

theorem Reads.string (s : Bytes) : Reads (jsonToString dump) (.string s) s := ⟨rfl, rfl⟩

theorem Reads.integer (i : Int64) : Reads (jsonToInt dump) (.integer i) i := by
  refine ⟨rfl, ?_⟩
  rw [Json.retag]
  split
  · rename_i h
    -- a non-negative integer is at most the largest one
    have hle : ¬ i.toUInt64 > Int64.maxValue.toUInt64 := by
      have hmax : Int64.maxValue.toUInt64.toNat = 2 ^ 63 - 1 := by decide
      have hi := i.toInt_lt
      have hu : i.toUInt64.toNat = i.toInt.toNat := Int64.toNat_toUInt64_of_le h
      rw [gt_iff_lt, UInt64.lt_iff_toNat_lt, hmax, hu]
      omega
    rw [jsonToInt, if_neg hle, Int64.toInt64_toUInt64]
  · rfl

variable {convert : Json → Except Bytes A} {toJson : A → Json}

theorem Reads.elems (h : ∀ a, Reads convert (toJson a) a) (as : List A) :
    (as.map toJson).mapM convert = .ok as ∧
      (Json.retagElems (as.map toJson)).mapM convert = .ok as := by
  simp only [mapM_ok]
  induction as with
  | nil => exact ⟨.nil, .nil⟩
  | cons a as ih => exact ⟨.cons (h a).1 ih.1, .cons (h a).2 ih.2⟩

theorem Reads.array (h : ∀ a, Reads convert (toJson a) a) (targetType : String) (as : List A) :
    Reads (jsonToArray dump convert targetType) (.array (as.map toJson)) as :=
  Reads.elems h as

theorem Reads.map {value : Json} {a : A} (h : Reads convert value a) (f : A → ParameterValue) :
    Reads (fun v => (convert v).map f) value (f a) :=
  ⟨congrArg (Except.map f) h.1, congrArg (Except.map f) h.2⟩

/-- the two types that the bridge cannot set -/
def Unsupported (t : ParameterType) : Prop := t = .byteArray ∨ t = .notSet

theorem reads_value {p : ParameterValue} (h : ¬ Unsupported p.type) :
    Reads (jsonToParameterValue dump · p.type.code) p.toJson p := by
  cases p with
  | notSet => exact absurd (Or.inr rfl) h
  | bool b => exact (Reads.bool b).map .bool
  | integer i => exact (Reads.integer i).map .integer
  | double d => exact (Reads.double d).map .double
  | string s => exact (Reads.string s).map .string
  | byteArray a => exact absurd (Or.inl rfl) h
  | boolArray a => exact (Reads.array Reads.bool "bool_array" a).map .boolArray
  | integerArray a => exact (Reads.array Reads.integer "integer_array" a).map .integerArray
  | doubleArray a => exact (Reads.array Reads.double "double_array" a).map .doubleArray
  | stringArray a => exact (Reads.array Reads.string "string_array" a).map .stringArray

theorem throws_value {p : ParameterValue} (h : Unsupported p.type) (value : Json) :
    ∃ e, jsonToParameterValue dump value p.type.code = .error e := by
  rcases h with h | h <;> rw [h] <;> exact ⟨_, rfl⟩

/-- **Round trip.**  The value that `parameter_to_json` gives for a parameter is converted back, for the
type of the parameter, to the same value, and so it is after its non-negative integers have been tagged
as unsigned.  For a byte array and for a parameter that is not set the conversion throws. -/
theorem roundTrip (p : Parameter) : ∃ value, (parameterToJson p).find? "value" = some value ∧
    (¬ Unsupported p.2.type →
      jsonToParameterValue dump value p.2.type.code = .ok p.2 ∧
        jsonToParameterValue dump value.retag p.2.type.code = .ok p.2) ∧
    (Unsupported p.2.type →
      (∃ e, jsonToParameterValue dump value p.2.type.code = .error e) ∧
        ∃ e, jsonToParameterValue dump value.retag p.2.type.code = .error e) :=
  ⟨_, parameterToJson_value p, reads_value, fun h => ⟨throws_value h _, throws_value h _⟩⟩

end

end VD
