import SamplingProfiler.Dialogue
import SamplingProfiler.Profile
import SamplingProfiler.Loader.LoadError

/-!
# Collecting from the maps of a kernel

The same collection as that of a session, over maps of which every call may fail.
Each key is read, deleted and resolved before the next one is looked at. A key
whose deletion fails is left for the next round with whatever is counted meanwhile;
a failed deletion of a stack is only counted. The round ends with an error where
the maps cannot be listed or a count cannot be read.
-/

namespace SamplingProfiler.Loader

/-- Collects from the tables of counts and of stacks. -/
structure Collector where
  /-- The number of rounds so far, modulo 2 ^ 32. -/
  rounds : UInt32
  resetInterval : UInt32
deriving DecidableEq, Repr

namespace Collector

/-- The calls of a collection. -/
inductive Call where
  | listCounts
  | getCount (key : SampleKey)
  | removeCount (key : SampleKey)
  | listStacks
  | getStack (id : UInt32)
  | removeStack (id : UInt32)
deriving DecidableEq, Repr

/-- The type of the reply to each call. -/
abbrev Reply : Call → Type
  | .listCounts => Except CallError (List SampleKey)
  | .getCount _ => Except CallError UInt32
  | .removeCount _ => Except CallError Unit
  | .listStacks => Except CallError (List UInt32)
  | .getStack _ => Except CallError (List UInt64)
  | .removeStack _ => Except CallError Unit

/-- A part of a collection. -/
abbrev Step (Result : Type) : Type :=
  Dialogue Call Reply Result

/-- List the keys that are counted. -/
def listCounts : Step (Except CallError (List SampleKey)) :=
  Dialogue.request Call.listCounts

/-- Read the count of a key. -/
def getCount (key : SampleKey) : Step (Except CallError UInt32) :=
  Dialogue.request (Call.getCount key)

/-- Delete a key. -/
def removeCount (key : SampleKey) : Step (Except CallError Unit) :=
  Dialogue.request (Call.removeCount key)

/-- List the ids of the stored stacks. -/
def listStacks : Step (Except CallError (List UInt32)) :=
  Dialogue.request Call.listStacks

/-- Read the frames of a stack. -/
def getStack (id : UInt32) : Step (Except CallError (List UInt64)) :=
  Dialogue.request (Call.getStack id)

/-- Delete a stack. -/
def removeStack (id : UInt32) : Step (Except CallError Unit) :=
  Dialogue.request (Call.removeStack id)

/-- A collector before its first round. A zero interval counts as one. -/
def ofInterval (interval : UInt32) : Collector :=
  ⟨0, max interval 1⟩

/-- Whether a key is gone after its deletion. One that was missing is as good as
    deleted. -/
def deleted : Except CallError Unit → Bool
  | .ok () => true
  | .error .keyNotFound => true
  | .error (.refused _) => false

/-- The frames of an id, noting it as used. An id that names no stack, or one that
    cannot be read, has none. -/
def resolve (id : Int) (used : List UInt32) : Step (List UInt64 × List UInt32) := do
  match ProfileSample.bucket? id with
  | none => return ([], used)
  | some bucket =>
    match ← getStack bucket with
    | .ok frames => return (frames, ProfileSample.noteUsed bucket used)
    | .error _ => return ([], ProfileSample.noteUsed bucket used)

/-- Read, delete and resolve keys one after the other. A key that is gone by then
    is passed over. -/
def collectKeys : List SampleKey → List UInt32 →
    Step (Except CallError (List ProfileSample × List UInt32))
  | [], used => return .ok ([], used)
  | key :: rest, used => do
    match ← getCount key with
    | .error .keyNotFound => collectKeys rest used
    | .error (.refused wording) => return .error (.refused wording)
    | .ok count =>
      if deleted (← removeCount key) then
        let (kernelFrames, used) ← resolve key.kernelStack used
        let (userFrames, used) ← resolve key.userStack used
        match ← collectKeys rest used with
        | .error error => return .error error
        | .ok (samples, used) =>
          return .ok (⟨key, count, kernelFrames, userFrames⟩ :: samples, used)
      else
        collectKeys rest used

/-- Delete stacks one after the other, whether or not that works. -/
def removeStacks : List UInt32 → Step Unit
  | [] => return ()
  | id :: rest => do
    let _ ← removeStack id
    removeStacks rest

/-- The stacks that are stale after a round: all of them where the round resets the
    store, and otherwise those that were used. -/
def staleStacks (collector : Collector) (used : List UInt32) :
    Step (Except CallError (List UInt32)) :=
  if collector.rounds % collector.resetInterval == 0 then listStacks else return .ok used

/-- Collect over the maps, in the round that a collector has begun. -/
def collectRound (collector : Collector) : Step (Except CallError (List ProfileSample)) := do
  match ← listCounts with
  | .error error => return .error error
  | .ok keys =>
    match ← collectKeys keys [] with
    | .error error => return .error error
    | .ok (samples, used) =>
      match ← collector.staleStacks used with
      | .error error => return .error error
      | .ok stale =>
        removeStacks stale
        return .ok samples

/-- One collection, which counts as a round whether or not it succeeds. -/
def collect (collector : Collector) :
    Step (Except CallError (List ProfileSample) × Collector) := do
  let begun := { collector with rounds := collector.rounds + 1 }
  return (← begun.collectRound, begun)

end Collector
end SamplingProfiler.Loader
