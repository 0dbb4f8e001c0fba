/-!
# JSON values

The values that the profiler prints and reads, and their shortest written form. The
members of an object keep their order, and one name may occur more than once:
what that means is for the reader of a record to say.

A whole number is read as such. Other numbers keep the text they were written as,
because nothing here computes with them.
-/

namespace SamplingProfiler

/-- A JSON value. -/
inductive Json where
  | null
  | bool (value : Bool)
  | integer (value : Int)
  /-- A number with a fraction or an exponent, or minus zero. -/
  | decimal (written : String)
  | text (content : String)
  /-- Text, or an object with a name, that escapes half of a surrogate pair: no
      characters are meant. -/
  | broken
  | array (items : List Json)
  | object (members : List (String × Json))
deriving Repr, Inhabited

namespace Json

/-- The escape of a character by its number, in four digits. -/
def numberedEscape (character : Char) : List Char :=
  let digits := Nat.toDigits 16 character.toNat
  ['\\', 'u'] ++ List.replicate (4 - digits.length) '0' ++ digits

/-- How a character is written within text: quotes, backslashes and controls are
    escaped, and the common controls by a letter. -/
def writtenChar (character : Char) : List Char :=
  match character with
  | '"' => ['\\', '"']
  | '\\' => ['\\', '\\']
  | '\x08' => ['\\', 'b']
  | '\x09' => ['\\', 't']
  | '\x0a' => ['\\', 'n']
  | '\x0c' => ['\\', 'f']
  | '\x0d' => ['\\', 'r']
  | other => if other.toNat < 0x20 then numberedEscape other else [other]

/-- Text between quotes. -/
def writtenText (text : String) : String :=
  String.ofList (['"'] ++ text.toList.flatMap writtenChar ++ ['"'])

mutual

/-- The written form of a value, without blanks. -/
def render : Json → String
  | .null => "null"
  | .bool true => "true"
  | .bool false => "false"
  | .integer value => toString value
  | .decimal written => written
  | .text content => writtenText content
  | .broken => "\"\\ud800\""
  | .array items => "[" ++ ",".intercalate (renderItems items) ++ "]"
  | .object members => "\x7b" ++ ",".intercalate (renderMembers members) ++ "\x7d"

/-- The written forms of items. -/
def renderItems : List Json → List String
  | [] => []
  | item :: rest => item.render :: renderItems rest

/-- The written forms of members. -/
def renderMembers : List (String × Json) → List String
  | [] => []
  | (name, value) :: rest => (writtenText name ++ ":" ++ value.render) :: renderMembers rest

end

mutual

/-- The value with the members of every object in the order of their names. -/
def sorted : Json → Json
  | .array items => .array (sortedItems items)
  | .object members =>
    .object ((sortedMembers members).mergeSort fun first second => first.1 ≤ second.1)
  | other => other

/-- Items with their members sorted. -/
def sortedItems : List Json → List Json
  | [] => []
  | item :: rest => item.sorted :: sortedItems rest

/-- Members whose values are sorted. -/
def sortedMembers : List (String × Json) → List (String × Json)
  | [] => []
  | (name, value) :: rest => (name, value.sorted) :: sortedMembers rest

end

end Json
end SamplingProfiler
