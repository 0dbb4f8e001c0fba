import SamplingProfiler.CommandLine.Program
import SamplingProfiler.Workspace.Chore

/-!
# Calling chores

The command line of the chores in the workspace.
-/

namespace SamplingProfiler.CommandLine.Chores

open Workspace (Chore KernelTarget Launch)

/-- The switch that asks for a release. -/
def releaseSwitch {Settings : Type} (apply : Settings → Settings) : Switch Settings :=
  ⟨"release", none, "Build the release target", .change apply⟩

/-- The switch for the target of programs for the kernel. -/
def targetSwitch {Settings : Type} (name : String)
    (apply : KernelTarget → Settings → Settings) : Switch Settings :=
  ⟨name, none, "Set the endianness of the BPF target [default: bpfel-unknown-none]",
    .value "TARGET" fun text settings =>
      (KernelTarget.ofName? text).map fun target => apply target settings⟩

/-- What building can be told. -/
def buildGrammar : Grammar (KernelTarget × Bool) where
  description := ""
  switches := [targetSwitch "target" fun target settings => (target, settings.2),
    releaseSwitch fun settings => (settings.1, true)]
  operands := .refused
  standard := (.littleEndian, false)

/-- What generating can be told: the types, unless the task's is meant. -/
def generateGrammar : Grammar (List String) where
  description := ""
  switches := []
  operands := .anywhere "TYPES" fun text types => some (types ++ [text])
  standard := []

/-- The types that bindings are generated for. -/
def typesOrTask (types : List String) : List String :=
  if types = [] then ["task_struct"] else types

/-- What a whole run can be told. -/
def launchGrammar : Grammar Launch where
  description := ""
  switches := [targetSwitch "bpf-target" fun target launch => { launch with target },
    releaseSwitch fun launch => { launch with release := true },
    ⟨"runner", some 'r', "The command used to wrap your application [default: \"sudo -E\"]",
      .value "RUNNER" fun runner launch => some { launch with runner }⟩]
  operands := .afterDashes "args" fun text launch =>
    some { launch with arguments := launch.arguments ++ [text] }
  standard := ⟨.littleEndian, false, "sudo -E", []⟩

/-- What testing can be told. -/
def testGrammar : Grammar Bool where
  description := ""
  switches := [releaseSwitch fun _ => true]
  operands := .refused
  standard := false

/-- The program that does chores. -/
def program : Program Chore where
  name := "xtask"
  version := "0.1.0"
  switches := [helpSwitch Unit]
  commands := [
    .ofGrammar "build-ebpf" buildGrammar fun (target, release) => .build target release,
    .ofGrammar "codegen" generateGrammar fun types => .generateBindings (typesOrTask types),
    .ofGrammar "run" launchGrammar .launch,
    .ofGrammar "test" testGrammar .test]

end SamplingProfiler.CommandLine.Chores
