import SamplingProfiler.Json

/-!
# Values as JSON

How values of the library are written as JSON values and read from them. Numbers of
a width are read only where they fit it.

A record is an object with a member for each of its fields. Its members are read in
any order, and those that it does not know are passed over; a field that occurs twice
is refused. A record may also be the array of its fields in their order. What a
missing field means is for the record to say.
-/

namespace SamplingProfiler

/-- Values that can be written as JSON. -/
class ToJson (Value : Type) where
  toJson : Value → Json

/-- Values that can be read from JSON. -/
class OfJson (Value : Type) where
  ofJson? : Json → Option Value

export ToJson (toJson)
export OfJson (ofJson?)

namespace Json

variable {Value First Second : Type}

/-- Read a whole number below a bound. -/
def natBelow? (bound : Nat) : Json → Option Nat
  | .integer value => if 0 ≤ value ∧ value < bound then some value.toNat else none
  | _ => none

/-- Read a whole number of 64 bits with a sign. -/
def int64? : Json → Option Int
  | .integer value =>
    if Int64.minValue.toInt ≤ value ∧ value ≤ Int64.maxValue.toInt then some value else none
  | _ => none

instance : ToJson Json := ⟨id⟩
instance : ToJson Bool := ⟨.bool⟩
instance : ToJson Int := ⟨.integer⟩
instance : ToJson Nat := ⟨fun value => .integer value⟩
instance : ToJson UInt8 := ⟨fun value => .integer value.toNat⟩
instance : ToJson UInt32 := ⟨fun value => .integer value.toNat⟩
instance : ToJson UInt64 := ⟨fun value => .integer value.toNat⟩
instance : ToJson String := ⟨.text⟩

instance [ToJson Value] : ToJson (List Value) :=
  ⟨fun values => .array (values.map toJson)⟩

instance [ToJson Value] : ToJson (Option Value) :=
  ⟨fun value? => (value?.map toJson).getD .null⟩

instance [ToJson First] [ToJson Second] : ToJson (First × Second) :=
  ⟨fun (first, second) => .array [toJson first, toJson second]⟩

instance : OfJson Json := ⟨some⟩
instance : OfJson UInt8 := ⟨fun json => (json.natBelow? UInt8.size).map UInt8.ofNat⟩
instance : OfJson UInt32 := ⟨fun json => (json.natBelow? UInt32.size).map UInt32.ofNat⟩
instance : OfJson UInt64 := ⟨fun json => (json.natBelow? UInt64.size).map UInt64.ofNat⟩

instance : OfJson Bool where
  ofJson?
    | .bool value => some value
    | _ => none

instance : OfJson Int where
  ofJson?
    | .integer value => some value
    | _ => none

instance : OfJson Nat where
  ofJson?
    | .integer (.ofNat value) => some value
    | _ => none

instance : OfJson String where
  ofJson?
    | .text content => some content
    | _ => none

instance [OfJson Value] : OfJson (List Value) where
  ofJson?
    | .array items => items.mapM ofJson?
    | _ => none

/-- The value of a member, the first one of its name. -/
def member? : Json → String → Option Json
  | .object members, name => members.lookup name
  | _, _ => none

/-- The fields of a record by their names, each if it is given. -/
def fields? (names : List String) : Json → Option (List (Option Json))
  | .object members =>
    let known := (members.map Prod.fst).filter fun name => names.contains name
    if known.Nodup then some (names.map fun name => members.lookup name) else none
  | .array items =>
    if items.length ≤ names.length then
      some (items.map some ++ List.replicate (names.length - items.length) none)
    else none
  | _ => none

/-- Read a field that has to be given. -/
def required [OfJson Value] (field? : Option Json) : Option Value :=
  field?.bind ofJson?

/-- Read a field that has a value where it is not given. -/
def optional [OfJson Value] (default : Value) : Option Json → Option Value
  | none => some default
  | some field => ofJson? field

/-- Read the name of one of several values: text, or an object that has this name and
    nothing under it. -/
def named? (values : List Value) (name : Value → String) (json : Json) : Option Value :=
  let read := match json with
    | .text content => some content
    | .object [(content, .null)] => some content
    | _ => none
  read.bind fun content => values.find? fun value => name value == content

end Json
end SamplingProfiler
