import SamplingProfiler.Kernel.HashTable
import SamplingProfiler.Policy
import SamplingProfiler.Loader.RecordBuffer
import SamplingProfiler.Loader.Setup

/-!
# Kernels with faults

A kernel held in memory, for the loader to be run against. It has one object file to
load, some online processors, and the tables that the programs of that file share
with user space. It keeps the requests that were put to it.

Any call can be told to fail. A call that fails has no effect. The tables and the
buffers of the processors outlive the objects that are loaded over them.

It stands for the operating system and for the package outside the repository
through which the loader talks to it. What is assumed of both: the maps are finite
tables, a listing shows every key that is present once, reading or deleting an
absent key says that it is not found and changes nothing, and a deletion that
succeeds takes away that key alone. Which calls fail, and when, is not assumed.
-/

namespace SamplingProfiler.Loader

/-- The kinds of calls that can be told to fail. -/
inductive Site where
  | memoryLimit
  | objectFile
  | onlineCpus
  | loading (program : String)
  | attaching (program : String)
  | slots
  | buffers
  | get (map : String)
  | insert (map : String)
  | remove (map : String)
  | keys (map : String)
deriving DecidableEq, Repr

/-- Calls that fail, and how. -/
structure Fault where
  site : Site
  /-- Only calls for this key fail, if there is one. -/
  key? : Option UInt32
  error : CallError
deriving DecidableEq, Repr

/-- A kernel in memory. -/
structure FaultyKernel where
  file : ObjectFile
  cpus : List UInt32
  faults : List Fault
  policies : Kernel.HashTable UInt32 Policy
  counts : Kernel.HashTable SampleKey UInt32
  /-- The pid namespace that the loader asks for, under `NamespaceKey`. -/
  settings : Kernel.HashTable UInt32 UInt64
  /-- How often each outcome occurred, under its number. -/
  tally : Kernel.HashTable UInt32 UInt64
  storedStacks : Entries UInt32 (List UInt64)
  /-- The buffers that were opened, by their processors. -/
  buffers : Entries UInt32 RecordBuffer
  /-- What was asked, the oldest first. -/
  requests : List Request

namespace Fault

/-- Whether a call for a key, if it is for one, is among those that fail. -/
def covers (fault : Fault) (site : Site) (key? : Option UInt32) : Bool :=
  fault.site = site && (fault.key?.isNone || fault.key? = key?)

end Fault

namespace FaultyKernel

/-- The refusal of a call that is told to fail, and of a write to a full map. -/
def refusal : CallError :=
  .refused "injected"

/-- The device and the inode of the pid namespace that the loader runs in. -/
def ownNamespace : UInt64 × UInt64 :=
  (4, 4026531836)

/-- A kernel before anything is loaded. The tables have the capacities that the file
    declares for its maps. -/
def ofFile (file : ObjectFile) (cpus : List UInt32) : FaultyKernel where
  file := file
  cpus := cpus
  faults := []
  policies := Kernel.HashTable.ofCapacity (file.capacity "PIDS")
  counts := Kernel.HashTable.ofCapacity (file.capacity "COUNTS")
  settings := Kernel.HashTable.ofCapacity (file.capacity "CONFIG")
  tally := Kernel.HashTable.ofCapacity (file.capacity "METRICS")
  storedStacks := Entries.empty
  buffers := Entries.empty
  requests := []

/-- How a call fails, if it does: as the first fault says that covers it. -/
def failure? (kernel : FaultyKernel) (site : Site) (key? : Option UInt32) : Option CallError :=
  (kernel.faults.find? fun fault => fault.covers site key?).map Fault.error

/-- Do something that has no effect where its call fails. -/
def attempt {Result : Type} (kernel : FaultyKernel) (site : Site) (key? : Option UInt32)
    (effect : Except CallError Result × FaultyKernel) :
    Except CallError Result × FaultyKernel :=
  match kernel.failure? site key? with
  | some error => (.error error, kernel)
  | none => effect

/-- The value under a key, in the terms of a call. -/
def found {Value : Type} : Option Value → Except CallError Value
  | some value => .ok value
  | none => .error .keyNotFound

/-- Answer a request, and keep it. -/
def answer : (request : Request) → FaultyKernel → request.Reply × FaultyKernel :=
  fun request before =>
    let kernel := { before with requests := before.requests ++ [request] }
    match request with
    | .liftMemoryLimit => kernel.attempt .memoryLimit none (.ok (), kernel)
    | .loadFile _ => kernel.attempt .objectFile none (.ok kernel.file, kernel)
    | .loadProgram name => kernel.attempt (.loading name) none (.ok (), kernel)
    | .onlineCpus => kernel.attempt .onlineCpus none (.ok kernel.cpus, kernel)
    | .attachClock program _ _ => kernel.attempt (.attaching program) none (.ok (), kernel)
    | .attachProbe program _ => kernel.attempt (.attaching program) none (.ok (), kernel)
    | .fillSlot _ _ => kernel.attempt .slots none (.ok (), kernel)
    | .openBuffer cpu =>
      kernel.attempt .buffers (some cpu)
        (.ok (), { kernel with
          buffers := kernel.buffers.set cpu
            ((kernel.buffers.lookup cpu).getD RecordBuffer.empty) })
    | .close _ => ((), kernel)
    | .ownNamespace => (ownNamespace, kernel)
    | .writeSetting key value =>
      kernel.attempt (.insert "CONFIG") (some key)
        (match kernel.settings.insert key value UpdateFlags.any with
        | (.ok (), settings) => (.ok (), { kernel with settings })
        | (.error _, _) => (.error refusal, kernel))
    | .readTally key =>
      kernel.attempt (.get "METRICS") (some key) (found (kernel.tally.get? key), kernel)

/-- Answer a call of a collector. -/
def answerCollector : (call : Collector.Call) → FaultyKernel →
    Collector.Reply call × FaultyKernel
  | .listCounts, kernel =>
    kernel.attempt (.keys "COUNTS") none (.ok kernel.counts.entries.keys, kernel)
  | .getCount key, kernel =>
    kernel.attempt (.get "COUNTS") (some key.pid) (found (kernel.counts.get? key), kernel)
  | .removeCount key, kernel =>
    kernel.attempt (.remove "COUNTS") (some key.pid)
      (found ((kernel.counts.get? key).map fun _ => ()),
        { kernel with counts := kernel.counts.erase key })
  | .listStacks, kernel =>
    kernel.attempt (.keys "STACKS") none (.ok (kernel.storedStacks.keys.mergeSort), kernel)
  | .getStack id, kernel =>
    kernel.attempt (.get "STACKS") (some id) (found (kernel.storedStacks.lookup id), kernel)
  | .removeStack id, kernel =>
    kernel.attempt (.remove "STACKS") (some id)
      (found ((kernel.storedStacks.lookup id).map fun _ => ()),
        { kernel with storedStacks := kernel.storedStacks.erase id })

/-- Write how a process is profiled. -/
def setPolicy (kernel : FaultyKernel) (pid : UInt32) (policy : Policy) :
    Except CallError Unit × FaultyKernel :=
  kernel.attempt (.insert "PIDS") (some pid)
    (match kernel.policies.insert pid policy UpdateFlags.any with
    | (.ok (), policies) => (.ok (), { kernel with policies })
    | (.error _, _) => (.error refusal, kernel))

/-- Remove a process. -/
def removePolicy (kernel : FaultyKernel) (pid : UInt32) : Except CallError Unit × FaultyKernel :=
  kernel.attempt (.remove "PIDS") (some pid)
    (found ((kernel.policies.get? pid).map fun _ => ()),
      { kernel with policies := kernel.policies.erase pid })

/-- List the processes in the table. -/
def listPolicies (kernel : FaultyKernel) : Except CallError (List UInt32) :=
  match kernel.failure? (.keys "PIDS") none with
  | some error => .error error
  | none => .ok kernel.policies.entries.keys

/-- Without faults every call has its effect. -/
theorem attempt_of_faults_nil {Result : Type} (kernel : FaultyKernel) (site : Site)
    (key? : Option UInt32) (effect : Except CallError Result × FaultyKernel)
    (faultless : kernel.faults = []) : kernel.attempt site key? effect = effect := by
  simp [attempt, failure?, faultless]

/-- A call that a fault covers fails as the fault says, and changes nothing. -/
theorem attempt_of_failure {Result : Type} (kernel : FaultyKernel) (site : Site)
    (key? : Option UInt32) (effect : Except CallError Result × FaultyKernel) (error : CallError)
    (failing : kernel.failure? site key? = some error) :
    kernel.attempt site key? effect = (.error error, kernel) := by
  simp [attempt, failing]

end FaultyKernel
end SamplingProfiler.Loader
