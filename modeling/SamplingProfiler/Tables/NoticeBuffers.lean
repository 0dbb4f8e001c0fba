import SamplingProfiler.Notice
import SamplingProfiler.Tables.TableError

/-!
# Notice buffers

Notices wait in one queue per processor until they are read. Sending never waits:
a notice that finds its queue full, or its reader gone, is dropped and counted as
lost on that processor.

A queue has one reader for good. Before the reader is taken the queue fills up;
once the reader is dropped, what it had not read goes with it and the queue takes
nothing more.

The queue stands for a bounded channel from a package outside the repository. What
is assumed of it: it delivers in the order of sending, it takes a notice exactly if
fewer wait than its capacity says and its reader was not dropped, and it discards
what waits when the reader is dropped.
-/

namespace SamplingProfiler

/-- What has become of a queue's reader. -/
inductive ReaderState where
  | waiting
  | taken
  | dropped
deriving DecidableEq, Repr

/-- The queue of one processor. -/
structure NoticeBuffer where
  queue : List Notice
  /-- Notices dropped since they were last reported, modulo 2 ^ 64. -/
  lost : UInt64
  reader : ReaderState
deriving DecidableEq, Repr

namespace NoticeBuffer

/-- A queue before its first notice. -/
def empty : NoticeBuffer :=
  ⟨[], 0, .waiting⟩

/-- Whether a queue with a capacity takes another notice. -/
def accepts (buffer : NoticeBuffer) (capacity : UInt64) : Bool :=
  buffer.reader ≠ .dropped && decide (buffer.queue.length < capacity.toNat)

/-- Queue a notice, or count it as lost. -/
def send (buffer : NoticeBuffer) (capacity : UInt64) (notice : Notice) : NoticeBuffer :=
  if buffer.accepts capacity then { buffer with queue := buffer.queue ++ [notice] }
  else { buffer with lost := buffer.lost + 1 }

/-- Take the reader, if it was not taken before. -/
def take? (buffer : NoticeBuffer) : Option NoticeBuffer :=
  if buffer.reader = .waiting then some { buffer with reader := .taken } else none

/-- Read what is queued, and report what was lost. -/
def read (buffer : NoticeBuffer) : (List Notice × UInt64) × NoticeBuffer :=
  ((buffer.queue, buffer.lost), { buffer with queue := [], lost := 0 })

/-- Read the first notice, if there is one. -/
def next (buffer : NoticeBuffer) : Option Notice × NoticeBuffer :=
  (buffer.queue.head?, { buffer with queue := buffer.queue.tail })

/-- Report what was lost. -/
def takeLost (buffer : NoticeBuffer) : UInt64 × NoticeBuffer :=
  (buffer.lost, { buffer with lost := 0 })

/-- Drop the reader with what it had not read. -/
def dropReader (buffer : NoticeBuffer) : NoticeBuffer :=
  { buffer with queue := [], reader := .dropped }

end NoticeBuffer

/-- The queues of all processors; each holds up to the capacity. -/
structure NoticeBuffers where
  capacity : UInt64
  buffers : List NoticeBuffer
deriving DecidableEq, Repr

namespace NoticeBuffers

/-- Empty queues. There is at least one, and each holds at least one notice. -/
def ofCpus (cpus : UInt32) (capacity : UInt64) : NoticeBuffers :=
  ⟨max capacity 1, List.replicate (max cpus.toNat 1) NoticeBuffer.empty⟩

/-- The number of queues. -/
def cpuCount (all : NoticeBuffers) : UInt32 :=
  UInt32.ofNat all.buffers.length

/-- The queue that a processor's notices go to: processors beyond the last queue
    wrap around. -/
def queueOf (all : NoticeBuffers) (cpu : UInt32) : Nat :=
  cpu.toNat % all.buffers.length

/-- Send a notice from a processor. -/
def send (all : NoticeBuffers) (cpu : UInt32) (notice : Notice) : NoticeBuffers :=
  { all with
    buffers := all.buffers.modify (all.queueOf cpu) fun buffer =>
      buffer.send all.capacity notice }

/-- What a queue has lost and not reported; nothing where there is no queue. -/
def lost (all : NoticeBuffers) (cpu : UInt32) : UInt64 :=
  (all.buffers[cpu.toNat]?.map NoticeBuffer.lost).getD 0

/-- Take the reader of a queue. -/
def openReader (all : NoticeBuffers) (cpu : UInt32) :
    Except TableError Unit × NoticeBuffers :=
  match all.buffers[cpu.toNat]? with
  | none => (.error (.outOfBounds cpu all.cpuCount), all)
  | some buffer =>
    match buffer.take? with
    | none => (.error (.alreadyOpened cpu), all)
    | some taken => (.ok (), { all with buffers := all.buffers.set cpu.toNat taken })

/-- Do something to a queue whose reader is taken; elsewhere nothing happens. -/
def withReader {Result : Type} (all : NoticeBuffers) (cpu : UInt32)
    (act : NoticeBuffer → Result × NoticeBuffer) : Option Result × NoticeBuffers :=
  match all.buffers[cpu.toNat]? with
  | none => (none, all)
  | some buffer =>
    if buffer.reader = .taken then
      let (result, next) := act buffer
      (some result, { all with buffers := all.buffers.set cpu.toNat next })
    else (none, all)

/-- Read a queue whose reader is taken. -/
def read (all : NoticeBuffers) (cpu : UInt32) :
    Option (List Notice × UInt64) × NoticeBuffers :=
  all.withReader cpu NoticeBuffer.read

/-- Read the first notice of a queue whose reader is taken. -/
def next (all : NoticeBuffers) (cpu : UInt32) : Option (Option Notice) × NoticeBuffers :=
  all.withReader cpu NoticeBuffer.next

/-- Report what a queue whose reader is taken has lost. -/
def takeLost (all : NoticeBuffers) (cpu : UInt32) : Option UInt64 × NoticeBuffers :=
  all.withReader cpu NoticeBuffer.takeLost

/-- Drop the reader of a queue. -/
def dropReader (all : NoticeBuffers) (cpu : UInt32) : Option Unit × NoticeBuffers :=
  all.withReader cpu fun buffer => ((), buffer.dropReader)

/-- The processors whose readers are taken, in order. -/
def openCpus (all : NoticeBuffers) : List UInt32 :=
  (all.buffers.mapIdx fun cpu buffer =>
    if buffer.reader = .taken then some (UInt32.ofNat cpu) else none).filterMap id

end NoticeBuffers
end SamplingProfiler
