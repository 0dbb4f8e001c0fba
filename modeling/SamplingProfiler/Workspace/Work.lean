import SamplingProfiler.Dialogue
import SamplingProfiler.Directory
import SamplingProfiler.Text.Quoted

/-!
# Work in the workspace

Work asks its surroundings whether files are there, makes files, and runs commands. It
goes on as long as everything succeeds. What it ends with otherwise says what was tried
and why that failed.
-/

namespace SamplingProfiler.Workspace

/-- A command that is to be run. -/
structure Command where
  program : String
  arguments : List String
  /-- Where it is run, seen from the top of the workspace. -/
  directory : String
  /-- Whether it has to use the toolchain that the surroundings chose. -/
  keepsToolchain : Bool
  /-- The file that its output goes to, if it is not shown. -/
  output : Option String
deriving DecidableEq, Repr

namespace Command

/-- A command that is run at the top of the workspace. -/
def plain (program : String) (arguments : List String) : Command :=
  ⟨program, arguments, "", true, none⟩

end Command

/-- The calls of work. -/
inductive Call where
  /-- Ask whether anything stands where a path leads. -/
  | contains (path : String)
  /-- Make a file, or empty the one that is there. -/
  | create (path : String)
  /-- Run a command to its end; the reply is its code. -/
  | run (command : Command)
deriving DecidableEq, Repr

/-- The type of the reply to each call. -/
abbrev Reply : Call → Type
  | .contains _ => Bool
  | .create _ => Except FileError Unit
  | .run _ => Except FileError UInt8

/-- Why work ends early. -/
inductive WorkError where
  /-- The bindings to the kernel have not been generated. -/
  | noBindings (path : String)
  /-- A file cannot be made. -/
  | notCreated (path : String) (reason : FileError)
  /-- A command cannot be started. -/
  | notStarted (attempt : String) (reason : FileError)
  /-- A command ended with a code that is not zero. -/
  | ended (attempt : String) (code : UInt8)
  /-- Something went wrong during a larger piece of work. -/
  | during (attempt : String) (error : WorkError)
deriving DecidableEq, Repr

namespace WorkError

/-- The message of an error, with its reasons. -/
def message : WorkError → String
  | .noBindings path => path ++ " is missing, run `cargo xtask codegen` first"
  | .notCreated path reason => "unable to create " ++ Text.quoted path ++ ": " ++ reason.message
  | .notStarted attempt reason => attempt ++ ": " ++ reason.message
  | .ended attempt code => attempt ++ "exit status: " ++ toString code.toNat
  | .during attempt error => attempt ++ ": " ++ error.message

end WorkError

/-- A piece of work. -/
abbrev Work (Result : Type) : Type :=
  ExceptT WorkError (Dialogue Call Reply) Result

namespace Work

/-- Make one call. -/
def request (call : Call) : Work (Reply call) :=
  ExceptT.lift (Dialogue.request call)

/-- Work that needs a file. -/
def need (path : String) (error : WorkError) : Work Unit := do
  if !(← request (.contains path)) then
    throw error

/-- Make an empty file. -/
def create (path : String) : Work Unit := do
  match ← request (.create path) with
  | .ok () => return ()
  | .error reason => throw (.notCreated path reason)

/-- Run a command. What is said if it cannot be started, and what is said if it ends
    with a code, are given. -/
def run (command : Command) (starting ending : String) : Work Unit := do
  match ← request (.run command) with
  | .error reason => throw (.notStarted starting reason)
  | .ok 0 => return ()
  | .ok code => throw (.ended ending code)

/-- Do work as a part of something larger. -/
def within {Result : Type} (attempt : String) (work : Work Result) : Work Result :=
  tryCatch work fun error => throw (.during attempt error)

end Work
end SamplingProfiler.Workspace
