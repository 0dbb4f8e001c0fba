import SamplingProfiler.Loader.Reader

/-!
# Record buffers

The buffer of one processor holds the records that came in and were not read yet, and
how many others were lost. It outlives the readers that are opened on it, so that what
one of them left behind is read by the next.

A read takes as many records as a reader offers buffers, and reports all that were
lost. A buffer may break; then every read of it fails from there on.
-/

namespace SamplingProfiler.Loader

/-- What is in the buffer of one processor. -/
structure RecordBuffer where
  records : List (List UInt8)
  /-- How many records were lost since the last read. -/
  lost : Nat
  /-- Whether reads of it fail. -/
  broken : Bool
deriving DecidableEq, Repr

namespace RecordBuffer

/-- A buffer before anything came in. -/
def empty : RecordBuffer :=
  ⟨[], 0, false⟩

/-- A buffer after more came in. What is broken stays broken. -/
def append (buffer arrival : RecordBuffer) : RecordBuffer :=
  ⟨buffer.records ++ arrival.records, buffer.lost + arrival.lost,
    buffer.broken || arrival.broken⟩

/-- Records in batches as large as a reader's buffers allow, with none of them lost. -/
def batches (records : List (List UInt8)) : List Wake :=
  match records with
  | [] => []
  | record :: others =>
    let batch := (record :: others).take Reader.bufferCount
    .batch batch batch.length 0 :: batches ((record :: others).drop Reader.bufferCount)
termination_by records.length
decreasing_by
  simp only [List.length_drop, List.length_cons, Reader.bufferCount]
  omega

/-- What wakes the reader of a buffer, one read after the other, until there is nothing
    more to report. The first read reports what was lost. -/
def wakes (buffer : RecordBuffer) : List Wake :=
  if buffer.broken then [.failed]
  else if buffer.records.isEmpty && buffer.lost = 0 then []
  else
    let batch := buffer.records.take Reader.bufferCount
    .batch batch batch.length buffer.lost
      :: batches (buffer.records.drop Reader.bufferCount)

/-- What stays in a buffer whose reader left some of its wakes unserved. A read that
    fails takes nothing. -/
def leaving (buffer : RecordBuffer) (unserved : List Wake) : RecordBuffer :=
  if buffer.broken then buffer else ⟨unserved.flatMap Wake.records, 0, false⟩

end RecordBuffer
end SamplingProfiler.Loader
