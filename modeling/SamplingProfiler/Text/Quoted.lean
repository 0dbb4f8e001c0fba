import SamplingProfiler.Text.Formless

/-!
# Quoted text

How a name is shown in a message: between double quotes, with a backslash before
quotes and backslashes, short forms for the common controls, and the number of every
other character that has no form of its own. Single quotes stand as they are.
-/

namespace SamplingProfiler.Text

/-- A number in base sixteen, with small letters. -/
def hexDigits (number : Nat) : List Char :=
  Nat.toDigits 16 number

/-- How a character is written between quotes. -/
def quotedChar (character : Char) : List Char :=
  match character with
  | '\x00' => ['\\', '0']
  | '\t' => ['\\', 't']
  | '\r' => ['\\', 'r']
  | '\n' => ['\\', 'n']
  | '\\' => ['\\', '\\']
  | '"' => ['\\', '"']
  | other =>
    if isFormless other then ['\\', 'u', '\x7b'] ++ hexDigits other.toNat ++ ['\x7d']
    else [other]

/-- A text between quotes. -/
def quoted (text : String) : String :=
  String.ofList (['"'] ++ text.toList.flatMap quotedChar ++ ['"'])

end SamplingProfiler.Text
