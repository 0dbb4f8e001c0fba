import SamplingProfiler.Session
import SamplingProfiler.Profile

/-!
# Collecting a session's samples

A collection empties the table of counts, resolves the stacks of every key it
found there, and then frees those stacks. Every few rounds it frees all stacks
instead, so that stacks whose samples were dropped do not stay for good.

It is a dialogue, because it is not one step: between any two of its calls other
collections and sampling interrupts may act on the same tables. `Session.collect`
is the collection with nothing in between.
-/

namespace SamplingProfiler
namespace Collection

/-- The calls of a collection. Each is one indivisible step. -/
inductive Call where
  /-- Count a round; the reply is its number. -/
  | beginRound
  /-- List the keys that are counted now. -/
  | listKeys
  /-- Remove a key and return its count. -/
  | takeCount (key : SampleKey)
  /-- The frames in a bucket. -/
  | readStack (id : UInt32)
  /-- Free a bucket. -/
  | dropStack (id : UInt32)
  /-- Free every bucket. -/
  | dropAllStacks
deriving DecidableEq, Repr

/-- The type of the reply to each call. -/
abbrev Reply : Call → Type
  | .beginRound => UInt32
  | .listKeys => List SampleKey
  | .takeCount _ => Option UInt32
  | .readStack _ => Option (List UInt64)
  | .dropStack _ => Unit
  | .dropAllStacks => Unit

/-- A part of a collection. -/
abbrev Step (Result : Type) : Type :=
  Dialogue Call Reply Result

/-- Count a round. -/
def beginRound : Step UInt32 :=
  Dialogue.request Call.beginRound

/-- List the keys that are counted now. -/
def listKeys : Step (List SampleKey) :=
  Dialogue.request Call.listKeys

/-- Remove a key and return its count. -/
def takeCount (key : SampleKey) : Step (Option UInt32) :=
  Dialogue.request (Call.takeCount key)

/-- The frames in a bucket. -/
def readStack (id : UInt32) : Step (Option (List UInt64)) :=
  Dialogue.request (Call.readStack id)

/-- Free a bucket. -/
def dropStack (id : UInt32) : Step Unit :=
  Dialogue.request (Call.dropStack id)

/-- Free every bucket. -/
def dropAllStacks : Step Unit :=
  Dialogue.request Call.dropAllStacks

/-- Remove keys one after the other; one that is gone by then is passed over. -/
def takeCounts : List SampleKey → Step (List (SampleKey × UInt32))
  | [] => return []
  | key :: rest => do
    match ← takeCount key with
    | some count => return (key, count) :: (← takeCounts rest)
    | none => takeCounts rest

/-- The frames of an id, noting it as used. An id that names no bucket, or a free
    one, has none. -/
def resolve (id : Int) (used : List UInt32) : Step (List UInt64 × List UInt32) := do
  match ProfileSample.bucket? id with
  | none => return ([], used)
  | some bucket => return ((← readStack bucket).getD [], ProfileSample.noteUsed bucket used)

/-- Resolve the stacks of counted keys, the kernel's side first. -/
def resolveAll : List (SampleKey × UInt32) → List UInt32 →
    Step (List ProfileSample × List UInt32)
  | [], used => return ([], used)
  | (key, count) :: rest, used => do
    let (kernelFrames, used) ← resolve key.kernelStack used
    let (userFrames, used) ← resolve key.userStack used
    let (samples, used) ← resolveAll rest used
    return (⟨key, count, kernelFrames, userFrames⟩ :: samples, used)

/-- Free buckets one after the other. -/
def dropStacks : List UInt32 → Step Unit
  | [] => return ()
  | id :: rest => do
    dropStack id
    dropStacks rest

/-- Whether a round frees every bucket. -/
def isResetRound (round interval : UInt32) : Bool :=
  round % interval == 0

/-- One collection. -/
def collect (interval : UInt32) : Step (List ProfileSample) := do
  let round ← beginRound
  let counted ← takeCounts (← listKeys)
  let (samples, used) ← resolveAll counted []
  if isResetRound round interval then
    dropAllStacks
  else
    dropStacks used
  return samples

end Collection

namespace Session

/-- Answer a call of a collection. -/
def answerCollection : (call : Collection.Call) → Session → Collection.Reply call × Session
  | .beginRound, session =>
    (session.rounds + 1, { session with rounds := session.rounds + 1 })
  | .listKeys, session => (session.counts.keys, session)
  | .takeCount key, session =>
    let (count, counts) := session.counts.remove key
    (count, { session with counts })
  | .readStack id, session => (session.stackStore.lookup id, session)
  | .dropStack id, session => ((), { session with stackStore := (session.stackStore.remove id).2 })
  | .dropAllStacks, session => ((), { session with stackStore := session.stackStore.clear })

/-- Collect the samples of a session. -/
def collect (session : Session) : List ProfileSample × Session :=
  (Collection.collect session.options.stacksResetInterval).run answerCollection session

end Session
end SamplingProfiler
