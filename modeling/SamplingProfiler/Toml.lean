import SamplingProfiler.Json

/-!
# TOML values

The values of a configuration file in TOML, and its tables as they grow while the file
is read. A table may be filled in several places, and how it came to be decides which
places may add to it. `Toml.assign`, `Toml.assignInside`, `Toml.within` and
`Toml.openTable` state these rules.

Numbers with a fraction, dates and times keep the text they were written as, because
nothing here computes with them.
-/

namespace SamplingProfiler

/-- How a table came to be. -/
inductive TableOrigin where
  /-- By a header of its own, or as the table of the whole file. -/
  | header
  /-- By the header of a table inside it. -/
  | implied
  /-- By a dotted key. -/
  | dotted
  /-- Written between braces. When the outermost ones are closed, it is finished. -/
  | inline
deriving DecidableEq, Repr

/-- A TOML value. -/
inductive Toml where
  | text (content : String)
  | integer (value : Int)
  | decimal (written : String)
  | bool (value : Bool)
  /-- A date, a time of day, or both. -/
  | moment (written : String)
  | array (items : List Toml)
  | table (origin : TableOrigin) (members : List (String × Toml))
  /-- Tables under one header, which may be written many times. -/
  | tables (elements : List (List (String × Toml)))
deriving Repr, Inhabited

namespace Toml

mutual

/-- The value in the terms of JSON. A moment is no text there, and no other scalar. -/
def toJson : Toml → Json
  | .text content => .text content
  | .integer value => .integer value
  | .decimal written => .decimal written
  | .bool value => .bool value
  | .moment written => .object [("moment", .text written)]
  | .array items => .array (itemsToJson items)
  | .table _ members => .object (membersToJson members)
  | .tables elements => .array (elementsToJson elements)

/-- Items in the terms of JSON. -/
def itemsToJson : List Toml → List Json
  | [] => []
  | item :: rest => item.toJson :: itemsToJson rest

/-- Members in the terms of JSON. -/
def membersToJson : List (String × Toml) → List (String × Json)
  | [] => []
  | (name, value) :: rest => (name, value.toJson) :: membersToJson rest

/-- Tables under one header in the terms of JSON. -/
def elementsToJson : List (List (String × Toml)) → List Json
  | [] => []
  | members :: rest => .object (membersToJson members) :: elementsToJson rest

end

/-- Members with the value of a name replaced. -/
def replace (name : String) (value : Toml) (members : List (String × Toml)) :
    List (String × Toml) :=
  members.map fun member => if member.1 == name then (name, value) else member

/-- Members with a new one, unless there is one of this name. -/
def add (name : String) (value : Toml) (members : List (String × Toml)) :
    Option (List (String × Toml)) :=
  if (members.lookup name).isSome then none else some (members ++ [(name, value)])

/-- Change the last of several tables. -/
def changeLast (change : List (String × Toml) → Option (List (String × Toml))) :
    List (List (String × Toml)) → Option (List (List (String × Toml)))
  | [] => none
  | [last] => (change last).map fun changed => [changed]
  | first :: rest => (changeLast change rest).map (first :: ·)

/-- Give a value to a dotted key. The key may lead through tables that only headers of
    inner tables made, and through the last of several tables, but the table that takes
    the value has to be made by dotted keys. Nothing is overwritten. -/
def assign (value : Toml) : List String → List (String × Toml) →
    Option (List (String × Toml))
  | [], _ => none
  | [name], members => add name value members
  | name :: rest, members =>
    match members.lookup name with
    | none => (assign value rest []).map fun inner => members ++ [(name, .table .dotted inner)]
    | some (.table .dotted inner) =>
      (assign value rest inner).map fun inner => replace name (.table .dotted inner) members
    | some (.table .implied inner) =>
      if rest.length = 1 then none
      else (assign value rest inner).map fun inner => replace name (.table .implied inner) members
    | some (.tables elements) =>
      if rest.length = 1 then none
      else (changeLast (assign value rest) elements).map fun elements =>
        replace name (.tables elements) members
    | some _ => none

/-- Give a value to a dotted key between braces. There the key may lead through every
    table that the same braces hold, also through one that has braces of its own.
    Nothing is overwritten. -/
def assignInside (value : Toml) : List String → List (String × Toml) →
    Option (List (String × Toml))
  | [], _ => none
  | [name], members => add name value members
  | name :: rest, members =>
    match members.lookup name with
    | none =>
      (assignInside value rest []).map fun inner => members ++ [(name, .table .dotted inner)]
    | some (.table origin inner) =>
      (assignInside value rest inner).map fun inner =>
        replace name (.table origin inner) members
    | some _ => none

/-- Change the table that a header leads to. Tables on the way are made where they are
    missing; a finished table or another value is in the way. -/
def within (change : List (String × Toml) → Option (List (String × Toml))) :
    List String → List (String × Toml) → Option (List (String × Toml))
  | [], members => change members
  | name :: rest, members =>
    match members.lookup name with
    | none => (within change rest []).map fun inner => members ++ [(name, .table .implied inner)]
    | some (.table .inline _) => none
    | some (.table origin inner) =>
      (within change rest inner).map fun inner => replace name (.table origin inner) members
    | some (.tables elements) =>
      (changeLast (within change rest) elements).map fun elements =>
        replace name (.tables elements) members
    | some _ => none

/-- Begin a table under a header. A table can be begun once, also after tables inside
    it were. -/
def openTable (name : String) (members : List (String × Toml)) :
    Option (List (String × Toml)) :=
  match members.lookup name with
  | none => some (members ++ [(name, .table .header [])])
  | some (.table .implied inner) => some (replace name (.table .header inner) members)
  | some _ => none

/-- Begin one more of the tables under a header. -/
def openElement (name : String) (members : List (String × Toml)) :
    Option (List (String × Toml)) :=
  match members.lookup name with
  | none => some (members ++ [(name, .tables [[]])])
  | some (.tables elements) => some (replace name (.tables (elements ++ [[]])) members)
  | some _ => none

end Toml
end SamplingProfiler
