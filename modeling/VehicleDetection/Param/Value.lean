import VehicleDetection.Base.Decimal
import VehicleDetection.Base.Mirror

/-!
# Parameter values

* `ParameterType`, `ParameterValue`  the ten types of `rclcpp` and their values;
* `asBool` .. `asString`             the accessors, which throw on another type;
* `ParameterStore`, `getParameter`   the stored parameters of a node and how they are read.
-/

set_option linter.unusedVariables false

namespace VD
open BStr

inductive ParameterType where
  | notSet | bool | integer | double | string
  | byteArray | boolArray | integerArray | doubleArray | stringArray
deriving DecidableEq

inductive ParameterValue where
  | notSet
  | bool (b : Bool)
  | integer (i : Int64)
  | double (d : Float)
  | string (s : Bytes)
  | byteArray (a : List UInt8)
  | boolArray (a : List Bool)
  | integerArray (a : List Int64)
  | doubleArray (a : List Float)
  | stringArray (a : List Bytes)
deriving DecidableEq

def ParameterValue.type : ParameterValue → ParameterType
  | .notSet => .notSet
  | .bool _ => .bool
  | .integer _ => .integer
  | .double _ => .double
  | .string _ => .string
  | .byteArray _ => .byteArray
  | .boolArray _ => .boolArray
  | .integerArray _ => .integerArray
  | .doubleArray _ => .doubleArray
  | .stringArray _ => .stringArray

/-- what reading a parameter can throw -/
inductive ParameterError where
  | notDeclared (name : String)
  | wrongType (expected actual : ParameterType)
deriving DecidableEq

namespace ParameterValue

def asBool : ParameterValue → Except ParameterError Bool
  | .bool b => .ok b
  | v => .error (.wrongType .bool v.type)

def asInt : ParameterValue → Except ParameterError Int64
  | .integer i => .ok i
  | v => .error (.wrongType .integer v.type)

def asDouble : ParameterValue → Except ParameterError Float
  | .double d => .ok d
  | v => .error (.wrongType .double v.type)

def asString : ParameterValue → Except ParameterError Bytes
  | .string s => .ok s
  | v => .error (.wrongType .string v.type)

theorem asBool_ok {v : ParameterValue} {b : Bool} : v.asBool = .ok b ↔ v = .bool b := by
  cases v <;> simp [asBool]

theorem asInt_ok {v : ParameterValue} {i : Int64} : v.asInt = .ok i ↔ v = .integer i := by
  cases v <;> simp [asInt]

theorem asDouble_ok {v : ParameterValue} {d : Float} : v.asDouble = .ok d ↔ v = .double d := by
  cases v <;> simp [asDouble]

theorem asString_ok {v : ParameterValue} {s : Bytes} : v.asString = .ok s ↔ v = .string s := by
  cases v <;> simp [asString]

theorem asBool_of_type {v : ParameterValue} (h : v.type = .bool) : ∃ b, v = .bool b := by
  cases v <;> first | exact ⟨_, rfl⟩ | cases h

theorem asInt_of_type {v : ParameterValue} (h : v.type = .integer) : ∃ i, v = .integer i := by
  cases v <;> first | exact ⟨_, rfl⟩ | cases h

theorem asDouble_of_type {v : ParameterValue} (h : v.type = .double) : ∃ d, v = .double d := by
  cases v <;> first | exact ⟨_, rfl⟩ | cases h

theorem asString_of_type {v : ParameterValue} (h : v.type = .string) : ∃ s, v = .string s := by
  cases v <;> first | exact ⟨_, rfl⟩ | cases h

end ParameterValue

/-- a name and its value -/
abbrev Parameter := String × ParameterValue

namespace Parameter
abbrev getName (p : Parameter) : String := p.1
abbrev asBool (p : Parameter) : Except ParameterError Bool := p.2.asBool
abbrev asInt (p : Parameter) : Except ParameterError Int64 := p.2.asInt
abbrev asDouble (p : Parameter) : Except ParameterError Float := p.2.asDouble
abbrev asString (p : Parameter) : Except ParameterError Bytes := p.2.asString
end Parameter

abbrev ParameterStore := Mirror.Store String ParameterValue

def getParameter (params : ParameterStore) (name : String) : Except ParameterError ParameterValue :=
  match params name with
  | none => .error (.notDeclared name)
  | some v => .ok v

theorem getParameter_ok {params : ParameterStore} {name : String} {v : ParameterValue} :
    getParameter params name = .ok v ↔ params name = some v := by
  unfold getParameter
  cases params name <;> simp

section
variable (params : ParameterStore) (name : String)

def getBool : Except ParameterError Bool := getParameter params name >>= ParameterValue.asBool
def getInt : Except ParameterError Int64 := getParameter params name >>= ParameterValue.asInt
def getDouble : Except ParameterError Float := getParameter params name >>= ParameterValue.asDouble
def getString : Except ParameterError Bytes := getParameter params name >>= ParameterValue.asString

end

theorem toInt64_toInt (x : UInt64) : x.toInt64.toInt = (x.toNat : Int).bmod (2 ^ 64) := by
  simp [← Int64.toInt_toBitVec, BitVec.toInt_eq_toNat_bmod]

theorem bind_ok {ε α β : Type} {x : Except ε α} {f : α → Except ε β} {b : β} :
    x >>= f = .ok b ↔ ∃ a, x = .ok a ∧ f a = .ok b := by
  cases x with
  | error e => exact iff_of_false (fun h => by cases h) fun ⟨a, h, _⟩ => by cases h
  | ok a => exact ⟨fun h => ⟨a, rfl, h⟩, fun ⟨a', h, hf⟩ => Except.ok.inj h ▸ hf⟩

theorem map_ok {ε α β : Type} {x : Except ε α} {f : α → β} {b : β} :
    x.map f = .ok b ↔ ∃ a, x = .ok a ∧ f a = b := by
  cases x with
  | error e => exact iff_of_false (fun h => by cases h) fun ⟨a, h, _⟩ => by cases h
  | ok a => exact ⟨fun h => ⟨a, rfl, Except.ok.inj h⟩, fun ⟨a', h, hf⟩ => by cases h; exact congrArg _ hf⟩

theorem mapM_ok {ε α β : Type} {f : α → Except ε β} {as : List α} {bs : List β} :
    as.mapM f = .ok bs ↔ List.Forall₂ (fun a b => f a = .ok b) as bs := by
  induction as generalizing bs with
  | nil =>
    rw [List.mapM_nil, List.forall₂_nil_left_iff]
    exact ⟨fun h => (Except.ok.inj h).symm, fun h => congrArg Except.ok h.symm⟩
  | cons a as ih =>
    rw [List.mapM_cons, bind_ok, List.forall₂_cons_left_iff]
    constructor
    · rintro ⟨b, hb, h⟩
      obtain ⟨bs', hbs, h⟩ := bind_ok.mp h
      exact ⟨b, bs', hb, ih.mp hbs, (Except.ok.inj h).symm⟩
    · rintro ⟨b, bs', hb, hbs, rfl⟩
      exact ⟨b, hb, bind_ok.mpr ⟨bs', ih.mpr hbs, rfl⟩⟩

/-- a loop that ends has made all of its rounds -/
theorem mapM_ok_mem {ε α β : Type} {f : α → Except ε β} {as : List α} {bs : List β}
    (h : as.mapM f = .ok bs) : ∀ a ∈ as, ∃ b, f a = .ok b := by
  replace h := mapM_ok.mp h
  induction h with
  | nil => exact fun a ha => absurd ha List.not_mem_nil
  | @cons a b as bs hab _ ih => exact List.forall_mem_cons.mpr ⟨⟨b, hab⟩, ih⟩

/-- a loop throws what one of its rounds throws -/
theorem mapM_error {ε α β : Type} {f : α → Except ε β} {as : List α} {e : ε}
    (h : as.mapM f = .error e) : ∃ a ∈ as, f a = .error e := by
  induction as with
  | nil => cases h
  | cons a as ih =>
    rw [List.mapM_cons] at h
    cases ha : f a with
    | error e' =>
      rw [ha] at h
      cases h
      exact ⟨a, List.mem_cons_self, ha⟩
    | ok b =>
      cases hm : as.mapM f with
      | error e' =>
        rw [ha, hm] at h
        cases h
        obtain ⟨x, hx, hxe⟩ := ih hm
        exact ⟨x, List.mem_cons_of_mem _ hx, hxe⟩
      | ok bs =>
        rw [ha, hm] at h
        cases h

section
variable {params : ParameterStore} {name : String}

theorem getBool_ok {b : Bool} : getBool params name = .ok b ↔ params name = some (.bool b) := by
  simp [getBool, bind_ok, getParameter_ok, ParameterValue.asBool_ok]

theorem getInt_ok {i : Int64} : getInt params name = .ok i ↔ params name = some (.integer i) := by
  simp [getInt, bind_ok, getParameter_ok, ParameterValue.asInt_ok]

theorem getDouble_ok {d : Float} :
    getDouble params name = .ok d ↔ params name = some (.double d) := by
  simp [getDouble, bind_ok, getParameter_ok, ParameterValue.asDouble_ok]

theorem getString_ok {s : Bytes} :
    getString params name = .ok s ↔ params name = some (.string s) := by
  simp [getString, bind_ok, getParameter_ok, ParameterValue.asString_ok]

end

end VD
