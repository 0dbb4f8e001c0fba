import SamplingProfiler.Toml.Scalar

/-!
# TOML documents

A document is a list of lines: headers, which begin tables, and dotted keys with their
values, which go into the table that was begun last. The value of a document is the
table of the whole file.

Values nest, and keys are dotted, up to a limit.
-/

namespace SamplingProfiler.Toml.Document

open Text (Reader)
open Text.Reader
open Scalar

/-- How deep values may nest, and how many parts a dotted key may have. -/
def limit : Nat := 127

/-- A part of a key. -/
def simpleKey : Reader String :=
  basicText <|> literalText <|> do
    let isBare (character : Char) : Bool :=
      character.isAlphanum || character = '-' || character = '_'
    let first ← one isBare
    return String.ofList (first :: (← run isBare))

/-- A dotted key: its parts. -/
def key : Reader (List String) := do
  let parts ← separated (do blanks; let part ← simpleKey; blanks; return part) (character '.')
  if parts.length ≤ limit then
    return parts
  failure

/-- A dotted key with its value. -/
def pair (value : Reader Toml) : Reader (List String × Toml) := do
  let parts ← key
  character '='
  blanks
  return (parts, ← value)

/-- The table of pairs that are written between braces. -/
def ofPairs (pairs : List (List String × Toml)) : Option (List (String × Toml)) :=
  pairs.foldlM (fun members (parts, value) => assignInside value parts members) []

/-- Values between brackets, which may go over several lines. -/
def array (value : Reader Toml) : Reader Toml := do
  character '['
  let items ← maybe do
    let items ← separated (do gap; let item ← value; gap; return item) (character ',')
    let _ ← maybe (character ',')
    return items
  gap
  character ']'
  return .array (items.getD [])

/-- Pairs between braces, on one line. -/
def inlineTable (value : Reader Toml) : Reader Toml := do
  character '\x7b'
  let pairs ← maybe (separated (do let read ← pair value; blanks; return read) (character ','))
  blanks
  character '\x7d'
  match ofPairs (pairs.getD []) with
  | some members => return .table .inline members
  | none => failure

/-- A value, in which others nest so deep. -/
def value : Nat → Reader Toml
  | 0 => scalar
  | depth + 1 => scalar <|> array (value depth) <|> inlineTable (value depth)

/-- A line that says something. -/
inductive Line where
  | table (parts : List String)
  | element (parts : List String)
  | pair (parts : List String) (value : Toml)

/-- A line, up to its end. An empty one says nothing. -/
def line : Reader (Option Line) := do
  blanks
  let said ← maybe (header <|> do
    let (parts, value) ← pair (value limit)
    return .pair parts value)
  blanks
  let _ ← maybe comment
  return said
where
  /-- A header, in one pair of brackets or in two. -/
  header : Reader Line :=
    (do
      characters ['[', '[']
      let parts ← key
      characters [']', ']']
      return .element parts) <|> do
    character '['
    let parts ← key
    character ']'
    return .table parts

/-- The lines of a document. A mark for the order of bytes may come first. -/
def lines : Reader (List Line) := do
  let _ ← maybe (character '\ufeff')
  let read ← separated line newline
  return read.filterMap id

/-- A document while it is read: the table of the whole file, and the header of the
    table that was begun last. -/
structure Progress where
  root : List (String × Toml)
  current : List String

/-- Do what a line says. -/
def Progress.step (progress : Progress) : Line → Option Progress
  | .pair parts value =>
    (within (assign value parts) progress.current progress.root).map fun root =>
      { progress with root }
  | .table parts => begin parts openTable
  | .element parts => begin parts openElement
where
  /-- Begin a table under a header. -/
  begin (parts : List String)
      (opening : String → List (String × Toml) → Option (List (String × Toml))) :
      Option Progress := do
    let root ← within (opening (← parts.getLast?)) parts.dropLast progress.root
    return ⟨root, parts⟩

/-- The table that a text is written as, if the text is a document. -/
def parse? (text : String) : Option Toml := do
  let read ← lines.whole text.toList
  let progress ← read.foldlM Progress.step ⟨[], []⟩
  return .table .header progress.root

end SamplingProfiler.Toml.Document
