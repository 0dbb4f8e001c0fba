import SamplingProfiler.CommandLine.Help

/-!
# Programs with commands

The first argument of a program names one of its commands, and the others are for that
command. There is one more command, which explains the program or one of the others.
Whoever calls a program without a command has called it wrongly.
-/

namespace SamplingProfiler.CommandLine

/-- How a program ends: with a code, after lines of output, and perhaps with a message
    about what went wrong. -/
structure Report where
  code : UInt8
  output : List String
  message : Option String
deriving DecidableEq, Repr

namespace Report

/-- All went well. -/
def success (output : List String) : Report :=
  ⟨0, output, none⟩

/-- Something went wrong. -/
def failure (message : String) : Report :=
  ⟨1, [], some message⟩

/-- The arguments were wrong. -/
def misuse : Report :=
  ⟨2, [], none⟩

end Report

/-- A command of a program: how its arguments are read, and how it is explained to
    those who call it by some words. -/
structure Subcommand (Command : Type) where
  name : String
  description : String
  read : List String → Except Stop Command
  help : String → List String

namespace Subcommand

variable {Settings Command : Type}

/-- The command that settings are for. It can be asked for help. -/
def ofGrammar (name : String) (grammar : Grammar Settings) (finish : Settings → Command) :
    Subcommand Command :=
  let explained :=
    { grammar with switches := grammar.switches ++ [helpSwitch Settings] }
  ⟨name, grammar.description, fun arguments => (explained.read arguments).map finish,
    explained.help⟩

end Subcommand

/-- A program by its name, the switches that it has of its own, and its commands. -/
structure Program (Command : Type) where
  name : String
  version : String
  switches : List (Switch Unit)
  commands : List (Subcommand Command)

namespace Program

variable {Command : Type}

/-- What is read where no command is named. -/
def grammar (program : Program Command) : Grammar Unit :=
  ⟨"", program.switches, .refused, ()⟩

/-- The command that explains things. -/
def helpDescription : String :=
  "Print this message or the help of the given subcommand(s)"

/-- The text that explains the command for help. -/
def helpOnHelp (program : Program Command) : List String :=
  paragraphs ([[helpDescription], ["Usage: " ++ program.name ++ " help [COMMAND]..."]]
    ++ (HelpEntry.section? "Arguments" [("[COMMAND]...", "Print help for the subcommand(s)")]).toList)

/-- The text that explains the program. -/
def help (program : Program Command) : List String :=
  let listed := program.commands.map fun command => (command.name, command.description)
  paragraphs ([["Usage: " ++ program.name ++ " <COMMAND>"]]
    ++ (HelpEntry.section? "Commands" (listed ++ [("help", helpDescription)])).toList
    ++ (HelpEntry.section? "Options" (program.switches.map Switch.entry)).toList)

/-- The command of a name. -/
def command? (program : Program Command) (name : String) : Option (Subcommand Command) :=
  program.commands.find? fun command => command.name == name

/-- The text that explains a command of the program. -/
def helpOn (program : Program Command) (command : Subcommand Command) : List String :=
  command.help (program.name ++ " " ++ command.name)

/-- What the command for help answers to its arguments. -/
def answerHelp (program : Program Command) : List String → Report
  | [] => .success program.help
  | ["help"] => .success program.helpOnHelp
  | [name] =>
    match program.command? name with
    | some command => .success (program.helpOn command)
    | none => .misuse
  | _ => .misuse

/-- What is answered to an argument that names no command. -/
def answerSwitch (program : Program Command) (argument : String) : Report :=
  match program.grammar.read [argument] with
  | .error .help => .success program.help
  | .error .version => .success [program.name ++ " " ++ program.version]
  | _ => .misuse

/-- The command that arguments ask for, or what is answered where there is none. -/
def read (program : Program Command) : List String → Except Report Command
  | [] => .error .misuse
  | first :: rest =>
    match program.command? first with
    | none =>
      .error (if first = "help" then program.answerHelp rest else program.answerSwitch first)
    | some command =>
      match command.read rest with
      | .ok asked => .ok asked
      | .error .help => .error (.success (program.helpOn command))
      | .error _ => .error .misuse

/-- Do what arguments ask for. -/
def run (program : Program Command) (execute : Command → Report) (arguments : List String) :
    Report :=
  match program.read arguments with
  | .ok command => execute command
  | .error report => report

end Program
end SamplingProfiler.CommandLine
