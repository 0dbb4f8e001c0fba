/-!
# Readers of text

A reader takes something from the beginning of a text and leaves the rest, or it
refuses the text. A refused text can be tried with another reader from the same place.

Repetition ends by itself: a round that takes nothing does not lead further, so there
are no more rounds than characters.
-/

namespace SamplingProfiler.Text

/-- A reader: it changes the text that is left, and may refuse. -/
abbrev Reader (Result : Type) : Type :=
  StateT (List Char) Option Result

namespace Reader

variable {Result Separation : Type}

/-- Run a reader that has to take the whole text. -/
def whole (reader : Reader Result) (text : List Char) : Option Result :=
  match reader.run text with
  | some (result, []) => some result
  | _ => none

/-- The next character, which is not taken. -/
def next? : Reader (Option Char) :=
  fun text => some (text.head?, text)

/-- Nothing, at the end of the text. -/
def ending : Reader Unit :=
  fun text => if text.isEmpty then some ((), []) else none

/-- The next character, if it is of a kind. -/
def one (kind : Char → Bool) : Reader Char
  | [] => none
  | first :: rest => if kind first then some (first, rest) else none

/-- A certain character. -/
def character (expected : Char) : Reader Unit := do
  let _ ← one (· == expected)

/-- Certain characters in a row. -/
def characters : List Char → Reader Unit
  | [] => pure ()
  | first :: rest => do
    character first
    characters rest

/-- As many characters of a kind as there are. -/
def run (kind : Char → Bool) : Reader (List Char) :=
  fun text => some (text.takeWhile kind, text.dropWhile kind)

/-- What a reader takes, or nothing where it refuses. -/
def maybe (reader : Reader Result) : Reader (Option Result) :=
  fun text =>
    match reader text with
    | some (result, rest) => some (some result, rest)
    | none => some (none, text)

/-- A reader up to so many times, as long as it does not refuse. -/
def upTo : Nat → Reader Result → Reader (List Result)
  | 0, _ => pure []
  | limit + 1, reader => do
    match ← maybe reader with
    | none => pure []
    | some result => return result :: (← upTo limit reader)

/-- A reader as often as it does not refuse. -/
def many (reader : Reader Result) : Reader (List Result) :=
  fun text => upTo text.length reader text

/-- A reader several times, at least once, with something in between. -/
def separated (reader : Reader Result) (separator : Reader Separation) :
    Reader (List Result) := do
  let first ← reader
  let others ← many (separator *> reader)
  return first :: others

/-- The text that a reader takes. -/
def written (reader : Reader Result) : Reader String :=
  fun text =>
    match reader text with
    | some (_, rest) => some (String.ofList (text.take (text.length - rest.length)), rest)
    | none => none

end Reader
end SamplingProfiler.Text
