import SamplingProfiler.Kernel.Tables
import SamplingProfiler.Sampler

/-!
# The kernel programs

The programs that a kernel runs at sampling interrupts and lifecycle probes. Each
runs one decision of the sampler over the kernel's tables and counts its outcome.

Processes are reported as the pid namespace of user space sees them. A hand-over to
an unwinder does not come back: the program ends there, and nothing is counted.
-/

namespace SamplingProfiler.Kernel

/-- The pid namespace of a task, and the task's number in it. -/
structure NamespaceView where
  device : UInt64
  inode : UInt64
  pid : UInt32
deriving DecidableEq, Repr

/-- What a program finds when it is invoked. -/
structure Invocation where
  /-- The number of the task's process outside any namespace. -/
  pid : UInt32
  /-- Nothing when the namespace cannot be told. -/
  view : Option NamespaceView
  hasTask : Bool
  /-- Nothing when the task's flags cannot be read. -/
  flags : Option UInt32
  /-- The first argument of the probed function, if it can be read. -/
  argument : Option UInt64
  /-- What a capture of the kernel's side replies. -/
  kernelStack : Int
  /-- What a capture of the side of user space replies. -/
  userStack : Int
  /-- A table that refuses every insertion, with the error number. -/
  refusing : Option (Tables.Name × Int)
deriving DecidableEq, Repr

/-- What a program did besides writing to tables. -/
structure Trace where
  /-- The notices sent, with the flags of the sending. -/
  sent : List (Notice × UInt64)
  /-- The flags of the captures. -/
  captures : List UInt64
  log : List String
deriving DecidableEq, Repr

namespace Trace

/-- Nothing done. -/
def empty : Trace := ⟨[], [], []⟩

end Trace

/-- How a program ended. -/
inductive Ending where
  | returned (value : UInt32)
  | handedOver (slot : UInt32)
deriving DecidableEq, Repr

/-- The tables, and what a program did so far. -/
structure State where
  tables : Tables
  trace : Trace

namespace Invocation

/-- The process of the task as the namespace that user space asked for sees it. If
    none was asked for, the number outside any namespace; zero for a task that is
    not in the namespace. -/
def processIn (invocation : Invocation) (tables : Tables) : UInt32 :=
  let device := (tables.settings.get? NamespaceKey.device).getD 0
  let inode := (tables.settings.get? NamespaceKey.inode).getD 0
  if device = 0 ∧ inode = 0 then invocation.pid
  else match invocation.view with
    | none => 0
    | some view => if view.device = device ∧ view.inode = inode then view.pid else 0

/-- What a decision can see of the task. -/
def subject (invocation : Invocation) (tables : Tables) : Subject :=
  ⟨invocation.processIn tables, invocation.hasTask, invocation.flags⟩

/-- Whether the first argument, read as a number of 32 bits, says yes. One that
    cannot be read says no. -/
def onExit (invocation : Invocation) : Bool :=
  match invocation.argument with
  | none => false
  | some word => word.toUInt32 != 0

/-- The error number with which a table refuses this time, if it does. -/
def refusal? (invocation : Invocation) (name : Tables.Name) : Option Int :=
  match invocation.refusing with
  | some (refusing, number) => if refusing = name then some number else none
  | none => none

/-- Write a process that is absent. -/
def insertPolicy (invocation : Invocation) (pid : UInt32) (policy : Policy) (tables : Tables) :
    Except Int Unit × Tables :=
  match invocation.refusal? .policies with
  | some number => (.error number, tables)
  | none =>
    let (result, policies) := tables.policies.insert pid policy UpdateFlags.onlyNew
    (result, { tables with policies })

/-- Raise the count of a key that is present, modulo 2 ^ 32. -/
def increment (key : SampleKey) (tables : Tables) : Bool × Tables :=
  match tables.counts.get? key with
  | some count => (true, { tables with counts := tables.counts.set key (count + 1) })
  | none => (false, tables)

/-- Write the count of a key that is absent. -/
def insertCount (invocation : Invocation) (key : SampleKey) (count : UInt32) (tables : Tables) :
    Except Int Unit × Tables :=
  match invocation.refusal? .counts with
  | some number => (.error number, tables)
  | none =>
    let (result, counts) := tables.counts.insert key count UpdateFlags.onlyNew
    (result, { tables with counts })

/-- Answer a call of a decision. A hand-over to an unwinder that is there halts the
    program. -/
def answer (invocation : Invocation) : (call : Sampler.Call) → State →
    Except UInt32 (Sampler.Reply call) × State
  | .findPolicy pid, state => (.ok (state.tables.policies.get? pid), state)
  | .insertPolicy pid policy, state =>
    let (result, tables) := invocation.insertPolicy pid policy state.tables
    (.ok result, { state with tables })
  | .captureStack flags, state =>
    let id := if flags &&& StackFlags.user != 0 then invocation.userStack
      else invocation.kernelStack
    (.ok id, { state with trace.captures := state.trace.captures ++ [flags] })
  | .increment key, state =>
    let (found, tables) := increment key state.tables
    (.ok found, { state with tables })
  | .insertCount key count, state =>
    let (result, tables) := invocation.insertCount key count state.tables
    (.ok result, { state with tables })
  | .send notice, state =>
    (.ok (), { state with trace.sent := state.trace.sent ++ [(notice, 0)] })
  | .tailCall slot, state =>
    if state.tables.unwinder then (.error slot, state)
    else (.ok (.error HashTable.absent), state)

/-- Count an outcome. Its counter is raised if it is there, and written otherwise; a
    refused counter is not made good. -/
def record (invocation : Invocation) (outcome : Outcome) (tables : Tables) : Tables :=
  match tables.tally.get? outcome.word with
  | some count => { tables with tally := tables.tally.set outcome.word (count + 1) }
  | none =>
    match invocation.refusal? .tally with
    | some _ => tables
    | none => { tables with tally := (tables.tally.insert outcome.word 1 UpdateFlags.any).2 }

/-- What the sampling program logs about an outcome. -/
def remark? (pid : UInt32) : Outcome → Option String
  | .unreadableTask => some "failed to read task->flags"
  | .kernelThread => some s!"skipping kthread {pid}"
  | .newProcessRace => some "failed to update pids map. probably concurrent update"
  | .processesFull => some s!"pids map full, dropping {pid}"
  | .tailCallMissing => some "no python unwinder loaded"
  | _ => none

/-- Run a decision, log a remark about its outcome, and count it. -/
def run (invocation : Invocation) (decision : Sampler.Decision Outcome)
    (remark : Outcome → Option String) (tables : Tables) : Ending × State :=
  match decision.runUntil invocation.answer ⟨tables, Trace.empty⟩ with
  | (.error slot, state) => (.handedOver slot, state)
  | (.ok outcome, state) =>
    (.returned 0,
      ⟨invocation.record outcome state.tables,
        { state.trace with log := state.trace.log ++ (remark outcome).toList }⟩)

/-- The program at the sampling interrupt. -/
def sample (invocation : Invocation) (tables : Tables) : Ending × State :=
  invocation.run (Sampler.sample (invocation.subject tables))
    (remark? (invocation.processIn tables)) tables

/-- The program where a controlling terminal is let go of. -/
def terminalReleased (invocation : Invocation) (tables : Tables) : Ending × State :=
  invocation.run (Sampler.terminalReleased (invocation.subject tables) invocation.onExit)
    (fun _ => none) tables

/-- The programs where a process replaces its image. -/
def imageReplaced (invocation : Invocation) (tables : Tables) : Ending × State :=
  invocation.run (Sampler.imageReplaced (invocation.subject tables)) (fun _ => none) tables

end Invocation
end SamplingProfiler.Kernel
