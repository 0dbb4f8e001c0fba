import SamplingProfiler.Directory
import SamplingProfiler.Records
import SamplingProfiler.Text.Quoted
import SamplingProfiler.Toml.Document

/-!
# Configuration files

Options are configured by a file of TOML. Its top table is a record of options, where
those that are not given are the standard ones. What cannot be a size is refused
wherever options are admitted.

Unless a file is named, one in the working directory is taken, if it is there.
-/

namespace SamplingProfiler

/-- Why options are refused. -/
inductive ConfigError where
  /-- The file cannot be read, or is not text. -/
  | unreadable (path : String)
  /-- The text is not a record of options. -/
  | invalid (path : String)
  /-- An option may not be zero and is. -/
  | zero (option : String)
deriving DecidableEq, Repr

namespace ConfigError

/-- The message of an error. -/
def message : ConfigError → String
  | .unreadable path => "unable to read " ++ Text.quoted path
  | .invalid path => "invalid config " ++ Text.quoted path
  | .zero option => option ++ " must be greater than 0"

end ConfigError

namespace Options

/-- Admit options if none of those that have to be positive is zero. -/
def checked (options : Options) : Except ConfigError Options :=
  match options.zeroOption? with
  | none => .ok options
  | some option => .error (.zero option)

/-- Read options from TOML. -/
def ofToml? (text : String) : Option Options := do
  ofJson? (← Toml.Document.parse? text).toJson

end Options

namespace ConfigFile

/-- The file that is taken where none is named. -/
def standardPath : String :=
  "Pyroprof.toml"

/-- What looking at a path brings. -/
abbrev Look : Type :=
  String → Except FileError (List UInt8)

/-- The options that a file of some content configures. -/
def options (path : String) (content : List UInt8) : Except ConfigError Options :=
  match Text.ofBytes? content with
  | none => .error (.unreadable path)
  | some text =>
    match Options.ofToml? text with
    | none => .error (.invalid path)
    | some options => options.checked

/-- The options of the file that is named. -/
def load (look : Look) (path : String) : Except ConfigError Options :=
  match look path with
  | .error _ => .error (.unreadable path)
  | .ok content => options path content

/-- The options of the file that is named, or else of the standard one. Where that is
    missing, options are the standard ones. -/
def loadOr (look : Look) : Option String → Except ConfigError Options
  | some path => load look path
  | none =>
    match look standardPath with
    | .error .missing => .ok Options.standard
    | _ => load look standardPath

end ConfigFile
end SamplingProfiler
