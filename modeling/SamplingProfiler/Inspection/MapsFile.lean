import SamplingProfiler.Inspection.ProcessView
import SamplingProfiler.Text.Lines
import SamplingProfiler.Text.Words

/-!
# Memory maps as text

The system shows the memory map of a process as text, with a line for each mapped
part. A line has five columns of its own, one blank after each: the range of
addresses, the permissions, the offset, the device and the number of the file. The
rest of the line is the name, and may hold blanks.

The longer kind of map adds details below a line, each on a line of its own: a label
with a capital letter at its beginning, a number, and perhaps a unit. They say
nothing about names, but they have to be well formed too.

A map is taken apart as a whole. If one line is of neither form, nothing is known.
-/

namespace SamplingProfiler.Inspection.MapsFile

/-- The first columns of a line, so many of them, and then the rest of it. -/
def columns : Nat → List Char → List (List Char)
  | 0, line => [line]
  | count + 1, line =>
    match line.dropWhile (· ≠ ' ') with
    | [] => [line]
    | _ :: rest => line.takeWhile (· ≠ ' ') :: columns count rest

/-- Whether text is a number of 64 bits in a base. -/
def isWord (base : Nat) (text : List Char) : Bool :=
  (Text.unsigned? base text).any (· < UInt64.size)

/-- Whether text is a number of 32 bits, with a sign, in base sixteen. -/
def isHalf (text : List Char) : Bool :=
  (Text.signed? 16 text).any fun number =>
    Int32.minValue.toInt ≤ number ∧ number ≤ Int32.maxValue.toInt

/-- Whether text begins with two numbers of a kind and a separator between them. -/
def isPair (separator : Char) (isNumber : List Char → Bool) (text : List Char) : Bool :=
  match Text.pieces separator text with
  | first :: second :: _ => isNumber first && isNumber second
  | _ => false

/-- The name at the end of a line. -/
def name? (line : List Char) : Option (List Char) :=
  match columns 5 line with
  | [addresses, _, offset, device, number, name] =>
    if isPair '-' (isWord 16) addresses && isWord 16 offset && isPair ':' isHalf device &&
      isWord 10 number then some name else none
  | _ => none

/-- Whether a line is a detail of the mapped part above it. Addresses in capital letters
make a line a detail as well. -/
def isDetail (line : List Char) : Bool :=
  line.head?.any Char.isUpper

/-- Whether a detail is well formed. What follows its label is a number of 64 bits; a
label alone is fine, and so are the marks of a mapped part, which are no numbers. -/
def isSoundDetail (line : List Char) : Bool :=
  "VmFlags".toList.isPrefixOf line ||
    match Text.words line with
    | _ :: amount :: _ => isWord 10 amount
    | _ => true

/-- The names in a memory map, line by line. The first line cannot be a detail, because
there is nothing above it. -/
def names? (lines : List (List Char)) : Option (List (List Char)) :=
  let (details, parts) := lines.partition isDetail
  if !lines.head?.any isDetail && details.all isSoundDetail then parts.mapM name? else none

/-- Take a memory map apart. -/
def parse (content : List UInt8) : Mappings :=
  match (Text.ofBytes? content).bind fun text => names? (Text.lines text.toList) with
  | none => .garbled
  | some names => .names (names.map fun name => Text.toBytes (String.ofList name))

end SamplingProfiler.Inspection.MapsFile
