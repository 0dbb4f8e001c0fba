import SamplingProfiler.Loader.FaultyKernel

/-!
# Deployments

What a loader holds while it runs against a kernel in memory: the loaded object, the
maps that were taken from it, and the readers that were started. A reader reads as soon
as it is started, and whenever something comes in.

An operation that needs something which is not there yet has no result.
-/

namespace SamplingProfiler.Loader

/-- The readers that were started together, and what they forward. -/
structure ReaderGroup where
  /-- How many readers were started. -/
  started : Nat
  /-- The processors whose readers have not ended. -/
  running : List UInt32
  /-- Whether anybody takes what the readers forward. -/
  received : Bool
  /-- What was forwarded and nobody has looked at yet. -/
  forwarded : List Delivery
  /-- Whether the readers were told to stop. -/
  stopped : Bool
deriving DecidableEq, Repr

namespace ReaderGroup

/-- Readers that were just started. -/
def ofCpus (cpus : List UInt32) : ReaderGroup :=
  ⟨cpus.length, cpus, true, [], false⟩

/-- Take a delivery, if anybody takes any. -/
def answer (received : Bool) : (call : Reader.Call) → List Delivery →
    Reader.Reply call × List Delivery
  | .send delivery, taken => if received then (true, taken ++ [delivery]) else (false, taken)

/-- Let the reader of a processor read until there is nothing more to report, or until
    it ends. A reader that has ended reads nothing. -/
def read (group : ReaderGroup) (cpu : UInt32) (buffer : RecordBuffer) :
    ReaderGroup × RecordBuffer :=
  if cpu ∈ group.running then
    let ((goesOn, unserved), forwarded) :=
      (Reader.serveAll cpu buffer.wakes).run (answer group.received) group.forwarded
    let running := if goesOn then group.running else group.running.erase cpu
    ({ group with running, forwarded }, buffer.leaving unserved)
  else (group, buffer)

/-- Tell the readers to stop, which works once. The result says whether a reader was
    left to hear it. -/
def stop (group : ReaderGroup) : Option Bool × ReaderGroup :=
  if group.stopped then (none, group)
  else (some !group.running.isEmpty, { group with running := [], stopped := true })

end ReaderGroup

/-- A loader and its kernel. -/
structure Deployment where
  kernel : FaultyKernel
  object? : Option ObjectFile
  /-- The array that keeps an unwinder in its slot. -/
  slots? : Option MapShape
  /-- Whether the table of processes was taken. -/
  hasProcesses : Bool
  collector? : Option Collector
  readers? : Option ReaderGroup

namespace Deployment

/-- A loader that has done nothing yet. -/
def ofKernel (kernel : FaultyKernel) : Deployment :=
  ⟨kernel, none, none, false, none, none⟩

/-- Carry a plan out. -/
def carryOut {Result : Type} (deployment : Deployment) (plan : Plan Result) :
    Result × Deployment :=
  let (result, kernel) := plan.run FaultyKernel.answer deployment.kernel
  (result, { deployment with kernel })

/-- Carry a plan out on the loaded object, if there is one. -/
def onObject {Result : Type} (deployment : Deployment)
    (plan : ObjectFile → Plan (Result × ObjectFile)) : Option (Result × Deployment) :=
  deployment.object?.map fun object =>
    let ((result, object), next) := deployment.carryOut (plan object)
    (result, { next with object? := some object })

/-- Carry a plan out that takes nothing from the loaded object. -/
def withObject {Result : Type} (deployment : Deployment) (plan : ObjectFile → Plan Result) :
    Option (Result × Deployment) :=
  deployment.object?.map fun object => deployment.carryOut (plan object)

/-- Load an object. The one that was loaded before is let go of afterwards. -/
def load (deployment : Deployment) (path : String) : Except LoadError Unit × Deployment :=
  match deployment.carryOut (Plan.load path) with
  | (.error error, next) => (.error error, next)
  | (.ok object, next) =>
    let before := (next.object?.map ObjectFile.maps).getD []
    let ((), next) := next.carryOut (Plan.closeAll before)
    (.ok (), { next with object? := some object })

/-- Let go of the array that keeps an unwinder in its slot. -/
def closeSlots (deployment : Deployment) : Deployment :=
  let ((), next) := deployment.carryOut (Plan.closeAll deployment.slots?.toList)
  { next with slots? := none }

/-- Register the unwinder for python. What was kept for an earlier one is let go of
    afterwards. The result says whether there is an unwinder. -/
def registerPython (deployment : Deployment) : Option (Except LoadError Bool × Deployment) :=
  (deployment.onObject Plan.registerPython).map fun
    | (.error error, next) => (.error error, next)
    | (.ok slots?, next) => (.ok slots?.isSome, { next.closeSlots with slots? })

/-- Attach the sampling program, and count the processors. -/
def attachSampler (deployment : Deployment) (rate : UInt64) :
    Option (Except LoadError Nat × Deployment) :=
  deployment.withObject fun object => Plan.attachSampler object rate

/-- Attach the lifecycle programs. -/
def attachLifecycle (deployment : Deployment) : Option (Except LoadError Unit × Deployment) :=
  deployment.withObject Plan.attachLifecycle

/-- Take the table of processes. -/
def takeProcesses (deployment : Deployment) : Option (Except LoadError Unit × Deployment) :=
  (deployment.onObject Plan.takeProcesses).map fun
    | (.error error, next) => (.error error, next)
    | (.ok _, next) => (.ok (), { next with hasProcesses := true })

/-- Take the tables of counts and of stacks. -/
def takeProfiles (deployment : Deployment) (interval : UInt32) :
    Option (Except LoadError Unit × Deployment) :=
  (deployment.onObject fun object => Plan.takeProfiles object interval).map fun
    | (.error error, next) => (.error error, next)
    | (.ok collector, next) => (.ok (), { next with collector? := some collector })

/-- Let the reader of a processor read, if there are readers. -/
def readBuffer (deployment : Deployment) (cpu : UInt32) : Deployment :=
  match deployment.readers?, deployment.kernel.buffers.lookup cpu with
  | some group, some buffer =>
    let (group, buffer) := group.read cpu buffer
    { deployment with
      kernel := { deployment.kernel with buffers := deployment.kernel.buffers.set cpu buffer }
      readers? := some group }
  | _, _ => deployment

/-- Start a reader on every processor, and count them. They read what an earlier one
    left behind. -/
def startReaders (deployment : Deployment) : Option (Except LoadError Nat × Deployment) :=
  (deployment.onObject Plan.openReaders).map fun
    | (.error error, next) => (.error error, next)
    | (.ok cpus, next) =>
      (.ok cpus.length, cpus.foldl readBuffer { next with readers? := some (.ofCpus cpus) })

/-- Read how often each outcome occurred. -/
def readTally (deployment : Deployment) :
    Option (Except LoadError (List (Outcome × UInt64)) × Deployment) :=
  deployment.withObject Plan.readTally

/-- Collect from the tables of counts and of stacks. -/
def collect (deployment : Deployment) :
    Option (Except CallError (List ProfileSample) × Deployment) :=
  deployment.collector?.map fun collector =>
    let ((result, collector), kernel) :=
      collector.collect.run FaultyKernel.answerCollector deployment.kernel
    (result, { deployment with kernel, collector? := some collector })

/-- Work on the table of processes. -/
def onProcesses {Result : Type} (deployment : Deployment)
    (work : FaultyKernel → Result × FaultyKernel) : Option (Result × Deployment) :=
  if deployment.hasProcesses then
    let (result, kernel) := work deployment.kernel
    some (result, { deployment with kernel })
  else none

/-- Look at what was forwarded. It is looked at once. -/
def takeForwarded (deployment : Deployment) : List Delivery × Deployment :=
  match deployment.readers? with
  | none => ([], deployment)
  | some group =>
    (group.forwarded, { deployment with readers? := some { group with forwarded := [] } })

/-- Let something come into the buffer of a processor, if it was opened; what was
    forwarded until then is the result. -/
def feed (deployment : Deployment) (cpu : UInt32) (arrival : RecordBuffer) :
    Option (List Delivery × Deployment) :=
  (deployment.kernel.buffers.lookup cpu).map fun buffer =>
    let buffers := deployment.kernel.buffers.set cpu (buffer.append arrival)
    let fed := { deployment with kernel := { deployment.kernel with buffers } }
    (fed.readBuffer cpu).takeForwarded

/-- Take nothing any more of what the readers forward. -/
def hangUp (deployment : Deployment) : Deployment :=
  { deployment with
    readers? := deployment.readers?.map fun group =>
      { group with received := false, forwarded := [] } }

/-- Tell the readers to stop. There is no result if none were started, or if they were
    told before. -/
def stop (deployment : Deployment) : Option Bool × Deployment :=
  match deployment.readers? with
  | none => (none, deployment)
  | some group =>
    let (heard, group) := group.stop
    (heard, { deployment with readers? := some group })

/-- How many readers still run, once any were started. -/
def running? (deployment : Deployment) : Option Nat :=
  deployment.readers?.bind fun group =>
    if 0 < group.started then some group.running.length else none

end Deployment
end SamplingProfiler.Loader
