import SamplingProfiler.CommandLine.Grammar

/-!
# Help

The text that explains a command line. It begins with what a command does and how it is
called. Lists follow, in two columns: commands, operands, switches. Each list is as
wide as its longest entry.
-/

namespace SamplingProfiler.CommandLine

/-- An entry of a list and what is said about it. -/
abbrev HelpEntry : Type :=
  String × String

namespace HelpEntry

/-- A line with an entry, when all entries of the list are so wide. -/
def line (width : Nat) (entry : HelpEntry) : String :=
  "  " ++ String.ofList (entry.1.toList ++ List.replicate (width - entry.1.length) ' ') ++ "  " ++
    entry.2

/-- A list under its title. A list without entries is left out. -/
def section? (title : String) (entries : List HelpEntry) : Option (List String) :=
  if entries.isEmpty then none
  else
    let width := (entries.map fun entry => entry.1.length).foldl max 0
    some ((title ++ ":") :: entries.map (line width))

end HelpEntry

namespace Switch

variable {Settings : Type}

/-- The entry of a switch. -/
def entry (switch : Switch Settings) : HelpEntry :=
  let letter := match switch.letter with
    | none => "    "
    | some letter => String.ofList ['-', letter, ',', ' ']
  let value := match switch.effect with
    | .value name _ => " <" ++ name ++ ">"
    | _ => ""
  (letter ++ "--" ++ switch.long ++ value, switch.description)

end Switch

namespace Operands

variable {Settings : Type}

/-- How operands are shown where a command is called. -/
def shown? : Operands Settings → Option String
  | .refused => none
  | .anywhere name _ => some ("[" ++ name ++ "]...")
  | .afterDashes name _ => some ("[-- <" ++ name ++ ">...]")

end Operands

/-- Parts of a text with an empty line between any two. -/
def paragraphs (parts : List (List String)) : List String :=
  [""].intercalate parts

namespace Grammar

variable {Settings : Type}

/-- The text that explains a command, which is called by some words. -/
def help (grammar : Grammar Settings) (call : String) : List String :=
  let operands := grammar.operands.shown?
  let optional := if grammar.switches.isEmpty then [] else ["[OPTIONS]"]
  let about := if grammar.description = "" then [] else [[grammar.description]]
  paragraphs (about
    ++ [["Usage: " ++ " ".intercalate (call :: optional ++ operands.toList)]]
    ++ (HelpEntry.section? "Arguments" (operands.toList.map fun shown => (shown, ""))).toList
    ++ (HelpEntry.section? "Options" (grammar.switches.map Switch.entry)).toList)

end Grammar
end SamplingProfiler.CommandLine
