import SamplingProfiler.Dialogue
import SamplingProfiler.Notice

/-!
# Readers of notices

A reader waits for the notices of one processor and forwards them. It offers a fixed
number of buffers, so that what is there may come in several batches; a batch fills
the first buffers, and the others keep what an earlier batch left in them.

A reader ends when a read fails, when nobody takes what it forwards, or when it is
told to stop.
-/

namespace SamplingProfiler.Loader

/-- What a reader forwards. -/
inductive Delivery where
  | notice (notice : Notice)
  | lost (cpu : UInt32) (count : Nat)
deriving DecidableEq, Repr

/-- Why a reader stopped waiting. -/
inductive Wake where
  /-- A batch came in: the buffers, how many of them it filled, and how many records
      were lost. -/
  | batch (buffers : List (List UInt8)) (filled lost : Nat)
  /-- The read failed. -/
  | failed
  /-- The reader is to stop. -/
  | stopped
deriving DecidableEq, Repr

/-- The records that a wake brings. -/
def Wake.records : Wake → List (List UInt8)
  | .batch buffers filled _ => buffers.take filled
  | .failed => []
  | .stopped => []

namespace Reader

/-- How many buffers a reader offers. -/
def bufferCount : Nat := 16

/-- Forward something; the reply says whether anybody took it. -/
inductive Call where
  | send (delivery : Delivery)
deriving DecidableEq, Repr

/-- The type of the reply to each call. -/
abbrev Reply : Call → Type
  | .send _ => Bool

/-- A part of a reader's work. -/
abbrev Step (Result : Type) : Type :=
  Dialogue Call Reply Result

/-- Forward something. -/
def send (delivery : Delivery) : Step Bool :=
  Dialogue.request (Call.send delivery)

/-- Forward the records that are notices, in order; the result says whether the
    reader goes on. A record that is too short is passed over. -/
def forwardRecords : List (List UInt8) → Step Bool
  | [] => return true
  | record :: rest => do
    match Notice.ofBytes? record with
    | none => forwardRecords rest
    | some notice =>
      if ← send (.notice notice) then forwardRecords rest else return false

/-- Forward how many records were lost, if any were. -/
def forwardLost (cpu : UInt32) (lost : Nat) : Step Bool :=
  if 0 < lost then send (.lost cpu lost) else return true

/-- Do what there is to do after waking up; the result says whether the reader goes
    on. -/
def serve (cpu : UInt32) : Wake → Step Bool
  | .batch buffers filled lost => do
    if ← forwardLost cpu lost then forwardRecords (buffers.take filled) else return false
  | .failed => return false
  | .stopped => return false

/-- Serve one wake after the other, as long as the reader goes on; the result says
    whether it still does, and which wakes it did not come to. -/
def serveAll (cpu : UInt32) : List Wake → Step (Bool × List Wake)
  | [] => return (true, [])
  | wake :: rest => do
    if ← serve cpu wake then serveAll cpu rest else return (false, rest)

end Reader
end SamplingProfiler.Loader
