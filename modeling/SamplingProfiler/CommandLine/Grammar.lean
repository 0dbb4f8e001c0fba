/-!
# Command lines

Arguments are read one after the other into the settings of a command. A switch is
called by its long name after two dashes or by its letter after one; letters may be
joined. Its value follows as the next argument, or is attached: after the long name
and an equals sign, or right after the letter. An argument that looks like a switch is
no value unless it is attached, and no switch is given twice. After two dashes alone
there are only operands.

Each argument is judged when it is read. So a switch that asks for help is answered
if nothing before it was wrong, whatever comes after it.
-/

namespace SamplingProfiler.CommandLine

/-- Why reading stops before the end. -/
inductive Stop where
  /-- The arguments are wrong. -/
  | usage
  /-- Help is asked for. -/
  | help
  /-- The version is asked for. -/
  | version
deriving DecidableEq, Repr

/-- What a switch does. A value that does not fit is refused. -/
inductive Effect (Settings : Type) where
  | stop (reason : Stop)
  | change (apply : Settings → Settings)
  | value (name : String) (apply : String → Settings → Option Settings)

/-- A switch of a command. -/
structure Switch (Settings : Type) where
  long : String
  letter : Option Char
  description : String
  effect : Effect Settings

/-- What arguments that belong to no switch are for. -/
inductive Operands (Settings : Type) where
  | refused
  /-- Operands may stand between switches. -/
  | anywhere (name : String) (add : String → Settings → Option Settings)
  /-- Operands stand after two dashes. -/
  | afterDashes (name : String) (add : String → Settings → Option Settings)

/-- What arguments a command takes, and its settings where none is given. -/
structure Grammar (Settings : Type) where
  description : String
  switches : List (Switch Settings)
  operands : Operands Settings
  standard : Settings

/-- How far reading has come. -/
structure Reading (Settings : Type) where
  settings : Settings
  /-- The long names of the switches so far. -/
  given : List String
  /-- What the next argument is the value for. -/
  awaiting : Option (String → Settings → Option Settings)
  /-- Whether two dashes have been read. -/
  onlyOperands : Bool

namespace Reading

variable {Settings : Type}

/-- The settings after a value, if it fits. -/
def accept (reading : Reading Settings) (apply : String → Settings → Option Settings)
    (value : String) : Except Stop (Reading Settings) :=
  match apply value reading.settings with
  | none => .error .usage
  | some settings => .ok { reading with settings, awaiting := none }

/-- Take a switch with the value that is attached to it, if there is one. -/
def give (reading : Reading Settings) (switch : Switch Settings) (attached : Option String) :
    Except Stop (Reading Settings) :=
  let marked := { reading with given := switch.long :: reading.given }
  if reading.given.contains switch.long then .error .usage
  else match switch.effect, attached with
    | .stop reason, none => .error reason
    | .change apply, none => .ok { marked with settings := apply reading.settings }
    | .value _ apply, none => .ok { marked with awaiting := some apply }
    | .value _ apply, some value => marked.accept apply value
    | _, some _ => .error .usage

end Reading

namespace Grammar

variable {Settings : Type}

/-- Nothing has been read. -/
def start (grammar : Grammar Settings) : Reading Settings :=
  ⟨grammar.standard, [], none, false⟩

/-- Read an argument that belongs to no switch. -/
def operand (grammar : Grammar Settings) (reading : Reading Settings) (argument : String) :
    Except Stop (Reading Settings) :=
  match grammar.operands with
  | .refused => .error .usage
  | .anywhere _ add => reading.accept add argument
  | .afterDashes _ add =>
    if reading.onlyOperands then reading.accept add argument else .error .usage

/-- Read what comes after two dashes: a long name, and perhaps its value. -/
def long (grammar : Grammar Settings) (reading : Reading Settings) (characters : List Char) :
    Except Stop (Reading Settings) :=
  let name := String.ofList (characters.takeWhile (· ≠ '='))
  let attached := match characters.dropWhile (· ≠ '=') with
    | [] => none
    | _ :: value => some (String.ofList value)
  match grammar.switches.find? fun switch => switch.long == name with
  | none => .error .usage
  | some switch => reading.give switch attached

/-- A value that is attached to a letter. An equals sign may stand in between. -/
def attachedToLetter : List Char → Option String
  | [] => none
  | '=' :: value => some (String.ofList value)
  | value => some (String.ofList value)

/-- Read what comes after one dash: letters, the last of which may have its value. -/
def letters (grammar : Grammar Settings) (reading : Reading Settings) :
    List Char → Except Stop (Reading Settings)
  | [] => .ok reading
  | letter :: rest =>
    match grammar.switches.find? fun switch => switch.letter == some letter with
    | none => .error .usage
    | some switch =>
      match switch.effect with
      | .value _ _ => reading.give switch (attachedToLetter rest)
      | _ => do grammar.letters (← reading.give switch none) rest

/-- Read an argument. -/
def step (grammar : Grammar Settings) (reading : Reading Settings) (argument : String) :
    Except Stop (Reading Settings) :=
  if reading.onlyOperands then grammar.operand reading argument
  else match reading.awaiting, argument.toList with
    | some _, '-' :: _ :: _ => .error .usage
    | some apply, _ => reading.accept apply argument
    | none, ['-', '-'] => .ok { reading with onlyOperands := true }
    | none, '-' :: '-' :: name => grammar.long reading name
    | none, '-' :: letter :: rest => grammar.letters reading (letter :: rest)
    | none, _ => grammar.operand reading argument

/-- Read all arguments. No switch may be left without its value. -/
def read (grammar : Grammar Settings) (arguments : List String) : Except Stop Settings := do
  let reading ← arguments.foldlM grammar.step grammar.start
  if reading.awaiting.isSome then .error .usage else .ok reading.settings

end Grammar

/-- The switch that asks for help. -/
def helpSwitch (Settings : Type) : Switch Settings :=
  ⟨"help", some 'h', "Print help", .stop .help⟩

/-- The switch that asks for the version. -/
def versionSwitch (Settings : Type) : Switch Settings :=
  ⟨"version", some 'V', "Print version", .stop .version⟩

end SamplingProfiler.CommandLine
