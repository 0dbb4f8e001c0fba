import SamplingProfiler.Text.Blank
import SamplingProfiler.Workspace.Work

/-!
# Chores

What is done in the workspace again and again: building the programs for the kernel,
generating the bindings that these need, building and running everything, and testing.

A program for the kernel is built with a toolchain of its own. A whole run goes through
a runner, a command that comes before the profiler's path; an empty runner leaves the
path to stand for itself.
-/

namespace SamplingProfiler.Workspace

/-- The order of bytes of the machine that programs for the kernel are built for. -/
inductive KernelTarget where
  | littleEndian
  | bigEndian
deriving DecidableEq, Repr

namespace KernelTarget

/-- The name of a target. -/
def name : KernelTarget → String
  | .littleEndian => "bpfel-unknown-none"
  | .bigEndian => "bpfeb-unknown-none"

/-- The target of a name. -/
def ofName? (name : String) : Option KernelTarget :=
  [littleEndian, bigEndian].find? fun target => target.name == name

end KernelTarget

/-- A whole run. -/
structure Launch where
  target : KernelTarget
  release : Bool
  /-- The words that come before the profiler's path. -/
  runner : String
  /-- What the profiler is told besides. -/
  arguments : List String
deriving DecidableEq, Repr

/-- The chores. -/
inductive Chore where
  | build (target : KernelTarget) (release : Bool)
  | generateBindings (types : List String)
  | launch (plan : Launch)
  | test (release : Bool)
deriving DecidableEq, Repr

namespace Chore

/-- The file with the bindings to the kernel. -/
def bindings : String :=
  "pyroprof-ebpf/src/vmlinux.rs"

/-- The switch that asks for a release. -/
def releaseSwitch (release : Bool) : List String :=
  if release then ["--release"] else []

/-- Where what is built is put. -/
def profile (release : Bool) : String :=
  if release then "release" else "debug"

/-- The command that builds the programs for the kernel. -/
def buildCommand (target : KernelTarget) (release : Bool) : Command where
  program := "cargo"
  arguments := ["+nightly", "build", "--target=" ++ target.name, "--target-dir", "../target", "-Z",
    "build-std=core"] ++ releaseSwitch release
  directory := "pyroprof-ebpf"
  keepsToolchain := false
  output := none

/-- Build the programs for the kernel. -/
def buildPrograms (target : KernelTarget) (release : Bool) : Work Unit := do
  Work.need bindings (.noBindings bindings)
  Work.run (buildCommand target release) "failed to run cargo" "failed to build bpf program: "

/-- Build the profiler. -/
def buildProfiler (release : Bool) : Work Unit :=
  Work.run (.plain "cargo" (["build", "-p", "pyroprof"] ++ releaseSwitch release))
    "failed to build userspace" "failed to build userspace: "

/-- The words of a runner. Blanks around it do not count, and a blank after another one
    begins an empty word. -/
def runnerWords (runner : String) : List String :=
  match Text.trim runner.toList with
  | [] => []
  | text => (Text.pieces ' ' text).map String.ofList

/-- The words that run the profiler. -/
def launchWords (launch : Launch) : String × List String :=
  let placed (directory : String) : String :=
    directory ++ "/" ++ profile launch.release ++ "/pyroprof"
  let told := ["run", "--bpf", placed ("target/" ++ launch.target.name)] ++ launch.arguments
  match runnerWords launch.runner with
  | [] => (placed "target", told)
  | first :: rest => (first, rest ++ placed "target" :: told)

/-- Build everything and run the profiler. -/
def launchProfiler (launch : Launch) : Work Unit := do
  Work.within "Error while building eBPF program" (buildPrograms launch.target launch.release)
  Work.within "Error while building userspace application" (buildProfiler launch.release)
  let (program, arguments) := launchWords launch
  Work.run (.plain program arguments) "failed to run pyroprof" "pyroprof exited with "

/-- Generate the bindings to the kernel for some types. -/
def writeBindings (types : List String) : Work Unit := do
  Work.create bindings
  Work.run { Command.plain "aya-tool" ("generate" :: types) with output := some bindings }
    "failed to run aya-tool, install it with `cargo install bindgen-cli aya-tool`"
    "aya-tool failed: "

/-- Run tests that arguments tell. -/
def runTests (arguments : List String) : Work Unit :=
  Work.run (.plain "cargo" arguments) "failed to run cargo"
    ("cargo " ++ " ".intercalate arguments ++ " failed: ")

/-- Test the workspace, and then the part that kernel programs share. -/
def testAll (release : Bool) : Work Unit := do
  runTests (["test", "--workspace"] ++ releaseSwitch release)
  runTests ["test", "-p", "pyroprof-common", "--no-default-features"]

/-- The work of a chore. -/
def work : Chore → Work Unit
  | .build target release => buildPrograms target release
  | .generateBindings types => writeBindings types
  | .launch plan => launchProfiler plan
  | .test release => testAll release

end Chore
end SamplingProfiler.Workspace
