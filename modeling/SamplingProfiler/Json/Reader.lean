import SamplingProfiler.Json
import SamplingProfiler.Text.Numeral

/-!
# Reading JSON

Text is read in two passes, each a fold. `Scanner` cuts characters into tokens, and
`Builder` puts tokens together to a value, with the containers that are still open
on a stack. Neither looks ahead, so a text is read in one go and nesting has no
limit.

Nothing but the standard's notation is admitted: no comments, no trailing commas, no
leading zeros, no controls within text.
-/

namespace SamplingProfiler.Json

/-- The smallest parts of a written value. -/
inductive Token where
  | openArray
  | closeArray
  | openObject
  | closeObject
  | comma
  | colon
  /-- A value without parts. -/
  | scalar (value : Json)

/-- The digits at the beginning of a list, and what follows them. -/
def digitsOf (characters : List Char) : List Char × List Char :=
  (characters.takeWhile Char.isDigit, characters.dropWhile Char.isDigit)

/-- Pass over a fraction, if there is one. -/
def skipFraction : List Char → Option (List Char)
  | '.' :: rest =>
    let (digits, rest) := digitsOf rest
    if digits.isEmpty then none else some rest
  | rest => some rest

/-- Pass over an exponent, if there is one. -/
def skipExponent : List Char → Option (List Char)
  | [] => some []
  | mark :: rest =>
    if mark = 'e' ∨ mark = 'E' then
      let unsigned := match rest with
        | '+' :: others => others
        | '-' :: others => others
        | others => others
      let (digits, rest) := digitsOf unsigned
      if digits.isEmpty then none else some rest
    else some (mark :: rest)

/-- The number that characters are written as, if they are one. -/
def number? (characters : List Char) : Option Json :=
  let (negative, unsigned) := match characters with
    | '-' :: rest => (true, rest)
    | rest => (false, rest)
  let (whole, rest) := digitsOf unsigned
  if whole.isEmpty || (whole.head? = some '0' && whole.length ≠ 1) then none
  else if rest.isEmpty && !(negative && whole = ['0']) then
    let magnitude : Int := Text.ofDigits 10 whole
    some (.integer (if negative then -magnitude else magnitude))
  else
    match (skipFraction rest).bind skipExponent with
    | some [] => some (.decimal (String.ofList characters))
    | _ => none

/-- The value that a word stands for. -/
def word? (characters : List Char) : Option Json :=
  if characters = "null".toList then some .null
  else if characters = "true".toList then some (.bool true)
  else if characters = "false".toList then some (.bool false)
  else number? characters

/-- Whether a character can stand in a word: in a number or a name of a value. -/
def isWordChar (character : Char) : Bool :=
  character.isAlphanum || character = '+' || character = '-' || character = '.'

/-- Whether a character may stand between tokens. -/
def isSpace (character : Char) : Bool :=
  character = ' ' || character = '\n' || character = '\t' || character = '\r'

/-- Text that is being read. -/
structure Draft where
  /-- The characters so far, the last one first. -/
  reversed : List Char
  /-- The first half of a surrogate pair, whose second half has to come next. -/
  half? : Option Nat
  /-- Whether every escape so far meant a character. -/
  sound : Bool

namespace Draft

/-- No text yet. -/
def empty : Draft := ⟨[], none, true⟩

/-- Go on with a character. -/
def push (draft : Draft) (character : Char) : Draft :=
  ⟨character :: draft.reversed, none, draft.sound && draft.half?.isNone⟩

/-- Go on with an escaped unit of sixteen bits. -/
def pushUnit (draft : Draft) (unit : Nat) : Draft :=
  let isSecond := 0xdc00 ≤ unit && unit ≤ 0xdfff
  match draft.half? with
  | some half =>
    if isSecond then
      let number := 0x10000 + (half - 0xd800) * 0x400 + (unit - 0xdc00)
      ⟨Char.ofNat number :: draft.reversed, none, draft.sound⟩
    else ⟨draft.reversed, none, false⟩
  | none =>
    if 0xd800 ≤ unit && unit ≤ 0xdbff then ⟨draft.reversed, some unit, draft.sound⟩
    else if isSecond then ⟨draft.reversed, none, false⟩
    else draft.push (Char.ofNat unit)

/-- The value of the text, once it has ended. -/
def finish (draft : Draft) : Json :=
  if draft.sound && draft.half?.isNone then .text (String.ofList draft.reversed.reverse)
  else .broken

end Draft

/-- What a scanner is in the middle of. -/
inductive Mode where
  | between
  /-- In a word; the last character first. -/
  | word (reversed : List Char)
  | text (draft : Draft)
  /-- After a backslash. -/
  | escape (draft : Draft)
  /-- In an escaped unit, of which some digits are still to come. -/
  | unit (draft : Draft) (missing : Nat) (value : Nat)

/-- A scanner: the tokens so far, the last one first, and what it is in. -/
structure Scanner where
  reversed : List Token
  mode : Mode

namespace Scanner

/-- The character that a letter after a backslash stands for. -/
def escaped? : Char → Option Char
  | '"' => some '"'
  | '\\' => some '\\'
  | '/' => some '/'
  | 'b' => some '\x08'
  | 'f' => some '\x0c'
  | 'n' => some '\n'
  | 'r' => some '\r'
  | 't' => some '\t'
  | _ => none

/-- The token of a character that is one by itself. -/
def mark? : Char → Option Token
  | '[' => some .openArray
  | ']' => some .closeArray
  | '\x7b' => some .openObject
  | '\x7d' => some .closeObject
  | ',' => some .comma
  | ':' => some .colon
  | _ => none

/-- Read a character between tokens. -/
def enter (reversed : List Token) (character : Char) : Option Scanner :=
  if isSpace character then some ⟨reversed, .between⟩
  else if character = '"' then some ⟨reversed, .text Draft.empty⟩
  else if isWordChar character then some ⟨reversed, .word [character]⟩
  else (mark? character).map fun token => ⟨token :: reversed, .between⟩

/-- Read a character. -/
def step (scanner : Scanner) (character : Char) : Option Scanner :=
  match scanner.mode with
  | .between => enter scanner.reversed character
  | .word letters =>
    if isWordChar character then some { scanner with mode := .word (character :: letters) }
    else
      (word? letters.reverse).bind fun value => enter (.scalar value :: scanner.reversed) character
  | .text draft =>
    if character = '"' then some ⟨.scalar draft.finish :: scanner.reversed, .between⟩
    else if character = '\\' then some { scanner with mode := .escape draft }
    else if character.toNat < 0x20 then none
    else some { scanner with mode := .text (draft.push character) }
  | .escape draft =>
    if character = 'u' then some { scanner with mode := .unit draft 4 0 }
    else (escaped? character).map fun meant => { scanner with mode := .text (draft.push meant) }
  | .unit draft missing value =>
    (Text.digit? character).map fun digit =>
      let value := value * 16 + digit
      if missing ≤ 1 then { scanner with mode := .text (draft.pushUnit value) }
      else { scanner with mode := .unit draft (missing - 1) value }

/-- The tokens, the last one first, unless the text ends within one. -/
def finish (scanner : Scanner) : Option (List Token) :=
  match scanner.mode with
  | .between => some scanner.reversed
  | .word letters => (word? letters.reverse).map fun value => .scalar value :: scanner.reversed
  | _ => none

/-- Cut characters into tokens. -/
def tokens? (characters : List Char) : Option (List Token) :=
  ((characters.foldlM step ⟨[], .between⟩).bind finish).map List.reverse

end Scanner

/-- A container that is still open; what it holds so far, the last first. -/
inductive Container where
  | items (reversed : List Json)
  /-- An object is broken as soon as one of its names is. -/
  | members (reversed : List (String × Json)) (sound : Bool)

/-- What a builder waits for. -/
inductive Stage where
  | value
  | firstItem
  | firstName
  | name
  /-- The colon after a name, if the name is text. -/
  | colon (name? : Option String)
  /-- The value of a member. -/
  | member (name? : Option String)
  /-- What comes after a value: a comma or the end of its container. -/
  | after (value : Json)

/-- A builder: the containers that are open, the innermost first, each with the name
    of the member that is being read in it, and what the builder waits for. -/
structure Builder where
  outer : List (Container × Option String)
  stage : Stage

namespace Builder

/-- A container with a value put into it, under a name if it has names. -/
def put (name? : Option String) (value : Json) : Container → Container
  | .items reversed => .items (value :: reversed)
  | .members reversed sound =>
    match name? with
    | some name => .members ((name, value) :: reversed) sound
    | none => .members reversed false

/-- The value of a container that is closed. -/
def closed : Container → Json
  | .items reversed => .array reversed.reverse
  | .members reversed true => .object reversed.reverse
  | .members _ false => .broken

/-- Begin a value, in containers that wait for it. -/
def begin (outer : List (Container × Option String)) : Token → Option Builder
  | .scalar value => some ⟨outer, .after value⟩
  | .openArray => some ⟨(.items [], none) :: outer, .firstItem⟩
  | .openObject => some ⟨(.members [] true, none) :: outer, .firstName⟩
  | _ => none

/-- The name that a token is, if it is one. A broken one is a name without text. -/
def name? : Token → Option (Option String)
  | .scalar (.text content) => some (some content)
  | .scalar .broken => some none
  | _ => none

/-- Read a token. -/
def step (builder : Builder) (token : Token) : Option Builder :=
  match builder.stage, token, builder.outer with
  | .value, token, outer => begin outer token
  | .firstItem, .closeArray, (container, _) :: outer => some ⟨outer, .after (closed container)⟩
  | .firstItem, token, outer => begin outer token
  | .firstName, .closeObject, (container, _) :: outer => some ⟨outer, .after (closed container)⟩
  | .firstName, token, outer => (name? token).map fun name => ⟨outer, .colon name⟩
  | .name, token, outer => (name? token).map fun name => ⟨outer, .colon name⟩
  | .colon name, .colon, outer => some ⟨outer, .member name⟩
  | .member name, token, (container, _) :: outer => begin ((container, name) :: outer) token
  | .after value, .comma, (container, name) :: outer =>
    let stage : Stage := match container with
      | .items _ => .value
      | .members _ _ => .name
    some ⟨(put name value container, none) :: outer, stage⟩
  | .after value, .closeArray, (.items reversed, name) :: outer =>
    some ⟨outer, .after (closed (put name value (.items reversed)))⟩
  | .after value, .closeObject, (.members reversed sound, name) :: outer =>
    some ⟨outer, .after (closed (put name value (.members reversed sound)))⟩
  | _, _, _ => none

/-- The value, once every container is closed. -/
def finish (builder : Builder) : Option Json :=
  match builder.outer, builder.stage with
  | [], .after value => some value
  | _, _ => none

end Builder

/-- The value that a text is written as. -/
def parse? (text : String) : Option Json := do
  let tokens ← Scanner.tokens? text.toList
  let builder ← tokens.foldlM Builder.step ⟨[], .value⟩
  builder.finish

end SamplingProfiler.Json
