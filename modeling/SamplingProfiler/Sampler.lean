import SamplingProfiler.Dialogue
import SamplingProfiler.Limits
import SamplingProfiler.Policy
import SamplingProfiler.Notice
import SamplingProfiler.SampleKey
import SamplingProfiler.Outcome

/-!
# The sampling decision

What happens at a sampling interrupt and at the lifecycle probes, as dialogues:
the decision is here, and the tables it consults are whatever answers its calls.
The same dialogues drive the tables of a session and the maps of a kernel.

A decision never waits and never asks twice. What it learns of the interrupted
task is given to it; reading the task is not a call.
-/

namespace SamplingProfiler

/-- What a program can see of the task it interrupted. -/
structure Subject where
  /-- Zero for the idle task and wherever the process cannot be told. -/
  pid : UInt32
  hasTask : Bool
  /-- Nothing when the task's flags cannot be read. -/
  flags : Option UInt32
deriving DecidableEq, Repr

namespace Sampler

/-- The calls of a decision. Errors are negative error numbers. -/
inductive Call where
  /-- Look a process up. -/
  | findPolicy (pid : UInt32)
  /-- Write a process that is absent. -/
  | insertPolicy (pid : UInt32) (policy : Policy)
  /-- Capture a stack; the reply is its id, negative if there is none. -/
  | captureStack (flags : UInt64)
  /-- Raise the count of a key that is present; the reply says whether it was. -/
  | increment (key : SampleKey)
  /-- Write the count of a key that is absent. -/
  | insertCount (key : SampleKey) (count : UInt32)
  /-- Send a notice, without learning what became of it. -/
  | send (notice : Notice)
  /-- Hand over to the unwinder in a slot. -/
  | tailCall (slot : UInt32)
deriving DecidableEq, Repr

/-- The type of the reply to each call. -/
abbrev Reply : Call → Type
  | .findPolicy _ => Option Policy
  | .insertPolicy _ _ => Except Int Unit
  | .captureStack _ => Int
  | .increment _ => Bool
  | .insertCount _ _ => Except Int Unit
  | .send _ => Unit
  | .tailCall _ => Except Int Unit

/-- A decision: a dialogue over the sampler's calls. -/
abbrev Decision (Result : Type) : Type :=
  Dialogue Call Reply Result

/-- Look a process up. -/
def findPolicy (pid : UInt32) : Decision (Option Policy) :=
  Dialogue.request (Call.findPolicy pid)

/-- Write a process that is absent. -/
def insertPolicy (pid : UInt32) (policy : Policy) : Decision (Except Int Unit) :=
  Dialogue.request (Call.insertPolicy pid policy)

/-- Capture a stack. -/
def captureStack (flags : UInt64) : Decision Int :=
  Dialogue.request (Call.captureStack flags)

/-- Raise the count of a key that is present. -/
def increment (key : SampleKey) : Decision Bool :=
  Dialogue.request (Call.increment key)

/-- Write the count of a key that is absent. -/
def insertCount (key : SampleKey) (count : UInt32) : Decision (Except Int Unit) :=
  Dialogue.request (Call.insertCount key count)

/-- Send a notice. -/
def send (notice : Notice) : Decision Unit :=
  Dialogue.request (Call.send notice)

/-- Hand over to the unwinder in a slot. -/
def tailCall (slot : UInt32) : Decision (Except Int Unit) :=
  Dialogue.request (Call.tailCall slot)

/-- The error number with which a table says that it is full. -/
def tableFull : Int := -7

/-- A failed capture counts as a side that was not collected. -/
def collectedStack (id : Int) : Int :=
  if id < 0 then SampleKey.notCollected else id

/-- Capture a side if it is wanted. -/
def captureSide (wanted : Bool) (flags : UInt64) : Decision Int := do
  if wanted then
    return collectedStack (← captureStack flags)
  else
    return SampleKey.notCollected

/-- Write a process that was not found as undecided and ask the controller about
    it. The sample itself is not counted. -/
def reportNewProcess (pid : UInt32) : Decision Outcome := do
  match ← insertPolicy pid Policy.undecided with
  | .ok () =>
    send (Notice.ofKind .firstSeen pid)
    return .newProcess
  | .error number => return if number = tableFull then .processesFull else .newProcessRace

/-- Capture the wanted sides, the kernel's first, and count the sample. A key
    refused after it was not found is not tried again: whoever wrote it meanwhile
    has counted a sample. -/
def countSample (pid : UInt32) (policy : Policy) : Decision Outcome := do
  let kernelStack ← captureSide policy.collectsKernel StackFlags.kernelSide
  let userStack ← captureSide policy.collectsUser StackFlags.userSide
  let key : SampleKey := { SampleKey.ofPid pid with kernelStack, userStack }
  if ← increment key then
    return .sampleCounted
  match ← insertCount key 1 with
  | .ok () => return .sampleNewKey
  | .error _ => return .sampleKeyRace

/-- Do what the policy of a process says. -/
def followPolicy (pid : UInt32) (policy : Policy) : Decision Outcome := do
  match policy.kind? with
  | none => return .policyInvalid
  | some .unknown => return .policyUnknown
  | some .error => return .policyError
  | some .python =>
    match ← tailCall Limits.pythonSlot with
    | .ok () => return .tailCall
    | .error _ => return .tailCallMissing
  | some .framePointers => countSample pid policy

/-- Why a subject is not sampled at all, if it is not. -/
def refusal? (subject : Subject) : Option Outcome :=
  if subject.pid = 0 then some .noProcess
  else if !subject.hasTask then some .noTask
  else match subject.flags with
    | none => some .unreadableTask
    | some flags => if flags &&& TaskFlags.kernelThread != 0 then some .kernelThread else none

/-- The sampling interrupt. -/
def sample (subject : Subject) : Decision Outcome := do
  match refusal? subject with
  | some outcome => return outcome
  | none =>
    match ← findPolicy subject.pid with
    | none => reportNewProcess subject.pid
    | some policy => followPolicy subject.pid policy

/-- Send a notice about the subject's process, if it has one. -/
def report (subject : Subject) (kind : NoticeKind) (outcome : Outcome) : Decision Outcome := do
  if subject.pid = 0 then
    return .lifecycleNoProcess
  send (Notice.ofKind kind subject.pid)
  return outcome

/-- The controlling terminal was let go of. Only at an exit does this mean that
    the process is going away. -/
def terminalReleased (subject : Subject) (onExit : Bool) : Decision Outcome :=
  if onExit then report subject .exited .processExited else return .notExiting

/-- The process replaced its image. -/
def imageReplaced (subject : Subject) : Decision Outcome :=
  report subject .replaced .imageReplaced

end Sampler
end SamplingProfiler
