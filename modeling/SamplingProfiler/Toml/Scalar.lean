import SamplingProfiler.Text.Numeral
import SamplingProfiler.Text.Reader
import SamplingProfiler.Toml

/-!
# Scalars of TOML

Readers for text, numbers, dates and times as they are written in TOML.

Text comes between double quotes, with escapes, or between single quotes, without
them. Three quotes open text of several lines, which may hold one or two quotes in a
row anywhere, also right before it is closed.

Whole numbers fit 64 bits with a sign. Other numbers are only read as far as they are
numbers: one that is too large for the numbers of 64 bits is refused, unless it is
negative.
-/

namespace SamplingProfiler.Toml.Scalar

open Text (Reader isDigitOf ofDigits)
open Text.Reader

/-- Whether a character may stand in a comment: any but controls, and tabs. -/
def isContent (character : Char) : Bool :=
  character = '\t' || (' ' ≤ character && character ≠ '\x7f')

/-- Whether a character stands for itself between double quotes. -/
def isPlain (character : Char) : Bool :=
  isContent character && character ≠ '"' && character ≠ '\\'

/-- Whether a character stands for itself between single quotes. -/
def isLiteral (character : Char) : Bool :=
  isContent character && character ≠ '\''

/-- Blanks within a line. -/
def blanks : Reader Unit := do
  let _ ← run fun character => character = ' ' || character = '\t'

/-- The end of a line. -/
def newline : Reader Unit :=
  character '\n' <|> characters ['\r', '\n']

/-- A comment, up to the end of its line. -/
def comment : Reader Unit := do
  character '#'
  let _ ← run isContent

/-- What may stand between the parts of a value that goes over several lines. -/
def gap : Reader Unit := do
  let _ ← many (newline <|> comment <|> do
    let _ ← one fun character => character = ' ' || character = '\t')

/-- So many digits in a row. -/
def exactly : Nat → (Char → Bool) → Reader (List Char)
  | 0, _ => pure []
  | count + 1, isDigit => do return (← one isDigit) :: (← exactly count isDigit)

/-! ## Text -/

/-- A character given by its number, in so many digits. -/
def numbered (digits : Nat) : Reader Char := do
  let number := ofDigits 16 (← exactly digits (isDigitOf 16))
  if number < 0xd800 ∨ (0xdfff < number ∧ number < 0x110000) then
    return Char.ofNat number
  failure

/-- An escaped character. -/
def escape : Reader Char := do
  character '\\'
  match ← one fun _ => true with
  | 'b' => return '\x08'
  | 't' => return '\t'
  | 'n' => return '\n'
  | 'f' => return '\x0c'
  | 'r' => return '\r'
  | '"' => return '"'
  | '\\' => return '\\'
  | 'u' => numbered 4
  | 'U' => numbered 8
  | _ => failure

/-- Text of one line between double quotes. -/
def basicText : Reader String := do
  character '"'
  let content ← many (one isPlain <|> escape)
  character '"'
  return String.ofList content

/-- Text of one line between single quotes. -/
def literalText : Reader String := do
  character '\''
  let content ← run isLiteral
  character '\''
  return String.ofList content

/-- One or two quotes that do not close the text. -/
def innerQuotes (quote : Char) : Reader (List Char) := do
  let quotes ← run (· == quote)
  if quotes.length = 1 ∨ quotes.length = 2 then
    return quotes
  failure

/-- The end of a line within text. -/
def innerNewline : Reader (List Char) := do
  newline
  return ['\n']

/-- A backslash at the end of a line: the next text comes after all blanks and ends of
    lines. -/
def continuation : Reader (List Char) := do
  character '\\'
  blanks
  newline
  let _ ← many (newline <|> do
    let _ ← one fun character => character = ' ' || character = '\t')
  return []

/-- Text of several lines between three quotes. An end of line right after the first
    ones does not belong to it. -/
def multiline (quote : Char) (piece : Reader (List Char)) : Reader String := do
  characters [quote, quote, quote]
  let _ ← maybe newline
  let pieces ← many (piece <|> innerNewline <|> innerQuotes quote)
  let quotes ← run (· == quote)
  if 3 ≤ quotes.length ∧ quotes.length ≤ 5 then
    return String.ofList (pieces.flatten ++ quotes.drop 3)
  failure

/-- Text of any form. -/
def anyText : Reader String :=
  multiline '"' ((do return [← one isPlain]) <|> continuation <|> do return [← escape])
    <|> basicText
    <|> multiline '\'' (do return [← one isLiteral])
    <|> literalText

/-! ## Numbers -/

/-- A sign, if there is one; whether it is a minus. -/
def sign : Reader Bool := do
  return (← maybe (one fun character => character = '+' || character = '-')) = some '-'

/-- Digits, with single underscores between them. -/
def digitRun (isDigit : Char → Bool) : Reader (List Char) := do
  let first ← one isDigit
  let others ← many (one isDigit <|> do character '_'; one isDigit)
  return first :: others

/-- The digits of a whole number: a zero, or digits that do not begin with one. -/
def wholeDigits : Reader (List Char) := do
  match ← next? with
  | some '0' => return [← one Char.isDigit]
  | _ => digitRun Char.isDigit

/-- A whole number, if it fits 64 bits. -/
def fitting (number : Int) : Reader Toml :=
  if Int64.minValue.toInt ≤ number ∧ number ≤ Int64.maxValue.toInt then return .integer number
  else failure

/-- A whole number in a base that a letter after a zero stands for. -/
def based (letter : Char) (base : Nat) : Reader Toml := do
  characters ['0', letter]
  fitting (ofDigits base (← digitRun (isDigitOf base)))

/-- A whole number. -/
def integer : Reader Toml :=
  based 'x' 16 <|> based 'o' 8 <|> based 'b' 2
    <|> do
      let negative ← sign
      let magnitude : Int := ofDigits 10 (← wholeDigits)
      fitting (if negative then -magnitude else magnitude)

/-- Whether digits, as a whole number, times a power of ten are too much for the
    numbers of 64 bits with a fraction: whether they reach the middle between the
    largest of these and the next power of two. The number of digits decides where
    it can. -/
def isHuge (digits : List Char) (power : Int) : Bool :=
  let significant := digits.dropWhile (· == '0')
  let order : Int := significant.length + power
  if significant.isEmpty || order ≤ 308 then false
  else if 310 < order then true
  else
    let limit := Nat.pow 2 1024 - Nat.pow 2 970
    limit * Nat.pow 10 (-power).toNat ≤ ofDigits 10 significant * Nat.pow 10 power.toNat

/-- A fraction: its digits. -/
def fraction : Reader (List Char) := do
  character '.'
  digitRun Char.isDigit

/-- An exponent. -/
def exponent : Reader Int := do
  let _ ← one fun character => character = 'e' || character = 'E'
  let negative ← sign
  let magnitude : Int := ofDigits 10 (← digitRun Char.isDigit)
  return if negative then -magnitude else magnitude

/-- A number with a fraction or an exponent or both. -/
def pointed : Reader Unit := do
  let negative ← sign
  let whole ← wholeDigits
  let fractionDigits ← maybe fraction
  let power ← match fractionDigits with
    | none => exponent
    | some _ => pure ((← maybe exponent).getD 0)
  let behind := fractionDigits.getD []
  if !negative && isHuge (whole ++ behind) (power - behind.length) then
    failure

/-- What stands for infinity, or for no number. -/
def special : Reader Unit := do
  let _ ← sign
  characters "inf".toList <|> characters "nan".toList

/-- A number that is not whole. -/
def decimal : Reader Toml := do
  return .decimal (← written (pointed <|> special))

/-! ## Dates and times -/

/-- A number of so many digits, between two bounds. -/
def bounded (digits low high : Nat) : Reader Nat := do
  let number := ofDigits 10 (← exactly digits Char.isDigit)
  if low ≤ number ∧ number ≤ high then
    return number
  failure

/-- A date. Every month may have 31 days. -/
def date : Reader Unit := do
  let _ ← bounded 4 0 9999
  character '-'
  let _ ← bounded 2 1 12
  character '-'
  let _ ← bounded 2 1 31

/-- A time of day. A minute may have a leap second. -/
def time : Reader Unit := do
  let _ ← bounded 2 0 23
  character ':'
  let _ ← bounded 2 0 59
  character ':'
  let _ ← bounded 2 0 60
  let _ ← maybe do
    character '.'
    let _ ← one Char.isDigit
    let _ ← run Char.isDigit

/-- How far a time is from that of the prime meridian. -/
def offset : Reader Unit :=
  (do let _ ← one fun character => character = 'Z' || character = 'z') <|> do
    let _ ← one fun character => character = '+' || character = '-'
    let _ ← bounded 2 0 23
    character ':'
    let _ ← bounded 2 0 59

/-- A date with a time of day, if there is one. -/
def dated : Reader Unit := do
  date
  let _ ← maybe do
    let _ ← one fun character => character = 'T' || character = 't' || character = ' '
    time
    let _ ← maybe offset

/-- A date, a time of day, or both. -/
def moment : Reader Toml := do
  return .moment (← written (dated <|> time))

/-- A value that does not hold others. -/
def scalar : Reader Toml :=
  (do return .text (← anyText))
    <|> moment
    <|> decimal
    <|> integer
    <|> (do characters "true".toList; return .bool true)
    <|> (do characters "false".toList; return .bool false)

end SamplingProfiler.Toml.Scalar
