/-!
# Numerals

Whole numbers as they are written: digits of a base up to sixteen, with letters of
either size for the digits above nine. A sign may come first, and there is at least
one digit. Numbers have no bound here; who reads one says what fits.
-/

namespace SamplingProfiler.Text

/-- The value of a character as a digit. -/
def digit? (character : Char) : Option Nat :=
  if character.isDigit then some (character.toNat - '0'.toNat)
  else if 'a' ≤ character ∧ character ≤ 'f' then some (character.toNat - 'a'.toNat + 10)
  else if 'A' ≤ character ∧ character ≤ 'F' then some (character.toNat - 'A'.toNat + 10)
  else none

/-- Whether a character is a digit of a base. -/
def isDigitOf (base : Nat) (character : Char) : Bool :=
  (digit? character).any (· < base)

/-- The number that digits of a base are for. -/
def ofDigits (base : Nat) (digits : List Char) : Nat :=
  digits.foldl (fun number digit => number * base + (digit? digit).getD 0) 0

/-- The number that digits of a base are for, if they are any. -/
def natural? (base : Nat) (text : List Char) : Option Nat :=
  if text ≠ [] ∧ text.all (isDigitOf base) then some (ofDigits base text) else none

/-- A number that cannot be negative. A plus sign may precede it. -/
def unsigned? (base : Nat) : List Char → Option Nat
  | '+' :: digits => natural? base digits
  | digits => natural? base digits

/-- A number that a minus sign makes negative. -/
def signed? (base : Nat) : List Char → Option Int
  | '-' :: digits => (natural? base digits).map fun magnitude => -(magnitude : Int)
  | text => (unsigned? base text).map Int.ofNat

end SamplingProfiler.Text
