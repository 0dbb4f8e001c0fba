import SamplingProfiler.CommandLine.Program
import SamplingProfiler.ConfigFile
import SamplingProfiler.Inspection.ProcessView
import SamplingProfiler.Text.Numeral

/-!
# The profiler's commands

One command samples every processor, the other one shows how processes would be
profiled. Both begin with the options of a configuration file, which switches change.
Switches for collecting only turn it off, and the one for python only turns it on.

Sampling needs the part that talks to the kernel. Here it goes as far as the options:
what is wrong with them is said first.
-/

namespace SamplingProfiler.CommandLine.Profiler

/-- The settings of sampling. -/
structure RunSettings where
  object : String
  config : Option String
  sampleRate : Option UInt64
  interval : UInt64
  noUser : Bool
  noKernel : Bool
  python : Bool
deriving DecidableEq, Repr

/-- The settings of showing how processes would be profiled. -/
structure ResolveSettings where
  config : Option String
  python : Bool
  pids : List UInt32
deriving DecidableEq, Repr

/-- The commands of the profiler. -/
inductive Command where
  | run (settings : RunSettings)
  | resolve (settings : ResolveSettings)
deriving DecidableEq, Repr

/-- A path, which may not be empty. -/
def path? (text : String) : Option String :=
  if text = "" then none else some text

/-- A number of 64 bits. -/
def word? (text : String) : Option UInt64 := do
  let number ← Text.unsigned? 10 text.toList
  if number < UInt64.size then some (UInt64.ofNat number) else none

/-- The number of a process. -/
def pid? (text : String) : Option UInt32 := do
  let number ← Text.signed? 10 text.toList
  if 0 ≤ number ∧ number < UInt32.size then some (UInt32.ofNat number.toNat) else none

/-- What sampling can be told. -/
def runGrammar : Grammar RunSettings where
  description := "Sample every cpu and print aggregated stacks as json lines"
  switches := [
    ⟨"bpf", none, "Compiled eBPF object [default: target/bpfel-unknown-none/release/pyroprof]",
      .value "BPF" fun text settings =>
        (path? text).map fun object => { settings with object }⟩,
    ⟨"config", some 'c', "Defaults to Pyroprof.toml in the current dir",
      .value "CONFIG" fun text settings =>
        (path? text).map fun path => { settings with config := some path }⟩,
    ⟨"sample-rate", none, "Hz",
      .value "SAMPLE_RATE" fun text settings =>
        (word? text).map fun rate => { settings with sampleRate := some rate }⟩,
    ⟨"interval", none, "Seconds between collections [default: 10]",
      .value "INTERVAL" fun text settings =>
        (word? text).map fun interval => { settings with interval }⟩,
    ⟨"no-user", none, "", .change fun settings => { settings with noUser := true }⟩,
    ⟨"no-kernel", none, "", .change fun settings => { settings with noKernel := true }⟩,
    ⟨"python", none, "Send python processes to the python unwinder",
      .change fun settings => { settings with python := true }⟩]
  operands := .refused
  standard := ⟨"target/bpfel-unknown-none/release/pyroprof", none, none, 10, false, false, false⟩

/-- What showing can be told. -/
def resolveGrammar : Grammar ResolveSettings where
  description := "Print the policy that would be picked for running processes"
  switches := [
    ⟨"config", some 'c', "",
      .value "CONFIG" fun text settings =>
        (path? text).map fun path => { settings with config := some path }⟩,
    ⟨"python", none, "", .change fun settings => { settings with python := true }⟩]
  operands := .anywhere "PIDS" fun text settings =>
    (pid? text).map fun pid => { settings with pids := settings.pids ++ [pid] }
  standard := ⟨none, false, []⟩

/-- The profiler. -/
def program : Program Command where
  name := "pyroprof"
  version := "0.1.0"
  switches := [helpSwitch Unit, versionSwitch Unit]
  commands := [.ofGrammar "run" runGrammar .run, .ofGrammar "resolve" resolveGrammar .resolve]

namespace Command

/-- The configuration file that a command names. -/
def config? : Command → Option String
  | .run settings => settings.config
  | .resolve settings => settings.config

/-- The processes that a command looks at. -/
def pids : Command → List UInt32
  | .run _ => []
  | .resolve settings => settings.pids

end Command

namespace RunSettings

/-- Options as they are changed by switches. -/
def change (settings : RunSettings) (options : Options) : Options :=
  { options with
    sampleRate := settings.sampleRate.getD options.sampleRate
    collectUser := options.collectUser && !settings.noUser
    collectKernel := options.collectKernel && !settings.noKernel
    python := options.python || settings.python }

end RunSettings

/-- The line that shows how a process would be profiled. -/
def policyLine (pid : UInt32) (policy : Option Policy) : String :=
  (Json.object [("pid", toJson pid), ("config", toJson policy)]).sorted.render

/-- Carry out a command where files and processes look as they do. -/
def execute (look : ConfigFile.Look) (processes : UInt32 → Option Inspection.ProcessView)
    (command : Command) : Report :=
  match ConfigFile.loadOr look command.config? with
  | .error error => .failure ("Error: " ++ error.message)
  | .ok options =>
    match command with
    | .run settings =>
      match (settings.change options).checked with
      | .error error => .failure ("Error: " ++ error.message)
      | .ok _ => .failure "Error: built without the aya feature"
    | .resolve settings =>
      let resolver := Inspection.resolver
        { options with python := options.python || settings.python } processes
      .success (settings.pids.map fun pid => policyLine pid (resolver.resolve pid))

end SamplingProfiler.CommandLine.Profiler
