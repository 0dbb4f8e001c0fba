/-!
# Outcomes

Every run of an entry point ends in exactly one outcome, and outcomes are
counted. Some produce data: a counted sample, a notice, a hand-over to an
unwinder. The others are errors: nothing was produced, for the reason that the
outcome names.

Outcomes are numbered from zero. The number after the last one is the number of
outcomes; it has a name too, because tables are sized by it.
-/

namespace SamplingProfiler

/-- How a run of an entry point ended. -/
inductive Outcome where
  /-- The sample's key was present and its count went up. -/
  | sampleCounted
  /-- The sample's key was written with the count one. -/
  | sampleNewKey
  /-- The sample's key was refused; the sample is dropped. -/
  | sampleKeyRace
  /-- The process was written as undecided and a notice went out. -/
  | newProcess
  /-- The process was refused although it was absent a moment before. -/
  | newProcessRace
  /-- There is no room for the process. -/
  | processesFull
  /-- The sample was handed over to an unwinder. -/
  | tailCall
  /-- There is no unwinder to hand the sample over to. -/
  | tailCallMissing
  /-- The sample has no process. -/
  | noProcess
  /-- The sample has no task. -/
  | noTask
  /-- The task's flags cannot be read. -/
  | unreadableTask
  /-- The task is a worker thread of the kernel. -/
  | kernelThread
  /-- The process has not been looked at yet. -/
  | policyUnknown
  /-- The process could not be looked at. -/
  | policyError
  /-- The stored policy names no unwinder. -/
  | policyInvalid
  /-- A notice of an exit went out. -/
  | processExited
  /-- The terminal was let go of without an exit. -/
  | notExiting
  /-- A notice of a new image went out. -/
  | imageReplaced
  /-- The lifecycle probe has no process. -/
  | lifecycleNoProcess
  /-- The number of outcomes; no run ends here. -/
  | limit
deriving DecidableEq, Repr

namespace Outcome

/-- Every outcome in the order of its number, the limit last. -/
def all : List Outcome :=
  [.sampleCounted, .sampleNewKey, .sampleKeyRace, .newProcess, .newProcessRace, .processesFull,
    .tailCall, .tailCallMissing, .noProcess, .noTask, .unreadableTask, .kernelThread,
    .policyUnknown, .policyError, .policyInvalid, .processExited, .notExiting, .imageReplaced,
    .lifecycleNoProcess, .limit]

/-- The number of an outcome. -/
def number : Outcome → Fin 20
  | .sampleCounted => 0
  | .sampleNewKey => 1
  | .sampleKeyRace => 2
  | .newProcess => 3
  | .newProcessRace => 4
  | .processesFull => 5
  | .tailCall => 6
  | .tailCallMissing => 7
  | .noProcess => 8
  | .noTask => 9
  | .unreadableTask => 10
  | .kernelThread => 11
  | .policyUnknown => 12
  | .policyError => 13
  | .policyInvalid => 14
  | .processExited => 15
  | .notExiting => 16
  | .imageReplaced => 17
  | .lifecycleNoProcess => 18
  | .limit => 19

/-- The number of an outcome as the word under which it is counted. -/
def word (outcome : Outcome) : UInt32 :=
  UInt32.ofNat outcome.number

/-- The outcome with a number. -/
def ofNumber? (number : Nat) : Option Outcome :=
  all[number]?

/-- The written name of an outcome. -/
def name : Outcome → String
  | .sampleCounted => "Sample_Counted"
  | .sampleNewKey => "Sample_NewKey"
  | .sampleKeyRace => "Sample_KeyRace"
  | .newProcess => "TraceMgmt_NewPid"
  | .newProcessRace => "TraceMgmt_NewPidRace"
  | .processesFull => "ErrSample_PidsFull"
  | .tailCall => "Sample_TailCall"
  | .tailCallMissing => "ErrSample_TailCallMissing"
  | .noProcess => "ErrSample_NoPid"
  | .noTask => "ErrSample_NoTask"
  | .unreadableTask => "ErrSample_TaskRead"
  | .kernelThread => "ErrSample_KernelThread"
  | .policyUnknown => "ErrSample_PolicyUnknown"
  | .policyError => "ErrSample_PolicyError"
  | .policyInvalid => "ErrSample_PolicyInvalid"
  | .processExited => "Lifecycle_PidDead"
  | .notExiting => "Lifecycle_NotExiting"
  | .imageReplaced => "Lifecycle_Exec"
  | .lifecycleNoProcess => "ErrLifecycle_NoPid"
  | .limit => "Max"

/-- Whether nothing was produced. -/
def isError : Outcome → Bool
  | .sampleKeyRace | .newProcessRace | .processesFull | .tailCallMissing | .noProcess | .noTask
  | .unreadableTask | .kernelThread | .policyUnknown | .policyError | .policyInvalid
  | .notExiting | .lifecycleNoProcess => true
  | .sampleCounted | .sampleNewKey | .newProcess | .tailCall | .processExited | .imageReplaced
  | .limit => false

/-- An outcome stands in the list at its number. -/
@[simp] theorem ofNumber?_number (outcome : Outcome) :
    ofNumber? outcome.number = some outcome := by
  cases outcome <;> rfl

/-- Different outcomes have different numbers. -/
theorem number_injective {first second : Outcome} (same : first.number = second.number) :
    first = second := by
  have read := congrArg (fun number : Fin 20 => ofNumber? number) same
  simpa using read

end Outcome
end SamplingProfiler
