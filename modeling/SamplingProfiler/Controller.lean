import SamplingProfiler.Dialogue
import SamplingProfiler.Entries
import SamplingProfiler.Policy
import SamplingProfiler.Notice

/-!
# The controller

The controller reads notices and keeps the table of policies up to date. It
remembers two sets of processes: the dead, whose entries are to be removed, and
the undecided, about which it has to ask again.

Its operations are dialogues. The table and the resolver that says how a process
is profiled answer their calls, and a table operation may fail without effect.
-/

namespace SamplingProfiler

/-- A set of processes. The order in which they came in stands for one that is left
    open. What a controller knows of each process does not depend on it, with one
    exception: if more undecided processes are decided about than the table has room
    for, it determines which of them are written. How many are does not depend on it. -/
abbrev ProcessSet : Type :=
  Entries UInt32 Unit

/-- What the controller remembers. -/
structure Controller where
  dead : ProcessSet
  undecided : ProcessSet

namespace Controller

/-- The calls of the controller. -/
inductive Call where
  /-- Ask the resolver whether a process still exists. -/
  | isAlive (pid : UInt32)
  /-- Ask the resolver how a process is profiled; it may not know yet. -/
  | resolve (pid : UInt32)
  /-- Write a process to the table; the reply says whether that worked. -/
  | write (pid : UInt32) (policy : Policy)
  /-- Remove a process from the table; the reply says whether that worked. -/
  | remove (pid : UInt32)
  /-- List the processes of the table, if that works. -/
  | list
deriving DecidableEq, Repr

/-- The type of the reply to each call. -/
abbrev Reply : Call → Type
  | .isAlive _ => Bool
  | .resolve _ => Option Policy
  | .write _ _ => Bool
  | .remove _ => Bool
  | .list => Option (List UInt32)

/-- An operation of the controller. -/
abbrev Operation (Result : Type) : Type :=
  Dialogue Call Reply Result

/-- Ask whether a process still exists. -/
def askAlive (pid : UInt32) : Operation Bool :=
  Dialogue.request (Call.isAlive pid)

/-- Ask how a process is profiled. -/
def askPolicy (pid : UInt32) : Operation (Option Policy) :=
  Dialogue.request (Call.resolve pid)

/-- Write a process to the table. -/
def writePolicy (pid : UInt32) (policy : Policy) : Operation Bool :=
  Dialogue.request (Call.write pid policy)

/-- Remove a process from the table. -/
def removePolicy (pid : UInt32) : Operation Bool :=
  Dialogue.request (Call.remove pid)

/-- List the processes of the table. -/
def listProcesses : Operation (Option (List UInt32)) :=
  Dialogue.request Call.list

/-- The controller before its first notice. -/
def initial : Controller :=
  ⟨Entries.empty, Entries.empty⟩

/-- Whether a process is to be removed. -/
def isDead (controller : Controller) (pid : UInt32) : Bool :=
  controller.dead.contains pid

/-- Whether a process is to be asked about again. -/
def isUndecided (controller : Controller) (pid : UInt32) : Bool :=
  controller.undecided.contains pid

/-- A process is to be removed, and not to be asked about again. -/
def markDead (controller : Controller) (pid : UInt32) : Controller :=
  ⟨controller.dead.set pid (), controller.undecided.erase pid⟩

/-- Find out how a process is profiled and write it down. Nothing is asked about a
    dead process, and one that is gone is marked dead. A failed write is not made
    good. -/
def resolve (controller : Controller) (pid : UInt32) : Operation Controller := do
  if controller.isDead pid then
    return controller
  if !(← askAlive pid) then
    return controller.markDead pid
  match ← askPolicy pid with
  | some policy =>
    let _ ← writePolicy pid policy
    return { controller with undecided := controller.undecided.erase pid }
  | none => return { controller with undecided := controller.undecided.set pid () }

/-- Handle a notice. One whose word stands for nothing is ignored. -/
def handle (controller : Controller) (notice : Notice) : Operation Controller :=
  match notice.kind? with
  | some .firstSeen => controller.resolve notice.pid
  | some .replaced => controller.resolve notice.pid
  | some .exited => return controller.markDead notice.pid
  | none => return controller

/-- Handle notices one after the other. -/
def handleAll (controller : Controller) : List Notice → Operation Controller
  | [] => return controller
  | notice :: rest => do
    (← controller.handle notice).handleAll rest

/-- Hear of lost notices. What they said cannot be known, so nothing changes. -/
def handleLost (controller : Controller) (_cpu : UInt32) (_lost : UInt64) : Controller :=
  controller

/-- Mark dead the listed processes that are gone, and count them. -/
def markGone (controller : Controller) : List UInt32 → Operation (Nat × Controller)
  | [] => return (0, controller)
  | pid :: rest => do
    if controller.isDead pid then
      controller.markGone rest
    else if ← askAlive pid then
      controller.markGone rest
    else
      let (found, last) ← (controller.markDead pid).markGone rest
      return (found + 1, last)

/-- Mark dead every process of the table that is gone, whether or not a notice of
    its exit came through, and count them. -/
def reconcile (controller : Controller) : Operation (Nat × Controller) := do
  match ← listProcesses with
  | some pids => controller.markGone pids
  | none => return (0, controller)

/-- Find out about processes one after the other. -/
def resolveAll (controller : Controller) : List UInt32 → Operation Controller
  | [] => return controller
  | pid :: rest => do
    (← controller.resolve pid).resolveAll rest

/-- Ask again about every undecided process. The set is emptied first, and those
    about which there is still no decision come back into it. -/
def retryUndecided (controller : Controller) : Operation Controller :=
  { controller with undecided := Entries.empty }.resolveAll controller.undecided.keys

/-- Remove processes from the table one after the other, and count the removals
    that worked. -/
def removeAll : List UInt32 → Operation Nat
  | [] => return 0
  | pid :: rest => do
    let removed ← removePolicy pid
    return (if removed then 1 else 0) + (← removeAll rest)

/-- Remove every dead process from the table and forget it, and count the removals
    that worked. -/
def cleanup (controller : Controller) : Operation (Nat × Controller) := do
  let removed ← removeAll controller.dead.keys
  return (removed, { controller with dead := Entries.empty })

end Controller
end SamplingProfiler
