import SamplingProfiler.SampleKey

/-!
# Exported samples

What a collection hands out: a key, how often it was counted, and the frames that
its stack ids stood for. A set of ids is kept beside the samples so that their
stacks can be freed afterwards.
-/

namespace SamplingProfiler

/-- One sample with its frames, innermost first. -/
structure ProfileSample where
  key : SampleKey
  count : UInt32
  kernelFrames : List UInt64
  userFrames : List UInt64
deriving DecidableEq, Repr

namespace ProfileSample

/-- A stack id that names a bucket of a store. Negative numbers and numbers beyond
    32 bits name none. -/
def bucket? (id : Int) : Option UInt32 :=
  if 0 ≤ id ∧ id < UInt32.size then some (UInt32.ofNat id.toNat) else none

/-- Note an id among those used, once. -/
def noteUsed (id : UInt32) (used : List UInt32) : List UInt32 :=
  if id ∈ used then used else used ++ [id]

/-- Noting an id adds it and nothing else. -/
theorem mem_noteUsed (id tested : UInt32) (used : List UInt32) :
    tested ∈ noteUsed id used ↔ tested = id ∨ tested ∈ used := by
  unfold noteUsed
  split
  · rename_i present
    exact ⟨Or.inr, fun member => member.elim (fun same => same ▸ present) (fun earlier => earlier)⟩
  · simp [or_comm]

end ProfileSample
end SamplingProfiler
