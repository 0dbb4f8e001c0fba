/-!
# Sample keys

Samples of one process with the same stacks are the same sample, counted more
than once. The key of a sample names the stacks by their ids in the stack store;
a negative id says that the side was not collected.
-/

namespace SamplingProfiler

/-- What the samples counted together have in common. Stack ids are read from
    64-bit words, so a key may carry any signed value. -/
structure SampleKey where
  pid : UInt32
  /-- Reserved; the sampler always writes zero. -/
  flags : UInt32
  kernelStack : Int
  userStack : Int
deriving DecidableEq, Repr

namespace SampleKey

/-- The number of bytes of a stored key: two words of 32 bits and two of 64. -/
def byteSize : Nat := 24

/-- The id of a side that was not collected. -/
def notCollected : Int := -1

/-- The key of a sample for which no stack was collected. -/
def ofPid (pid : UInt32) : SampleKey :=
  ⟨pid, 0, notCollected, notCollected⟩

/-- Whether the kernel's side was collected. -/
def hasKernelStack (key : SampleKey) : Bool :=
  decide (0 ≤ key.kernelStack)

/-- Whether the side of user space was collected. -/
def hasUserStack (key : SampleKey) : Bool :=
  decide (0 ≤ key.userStack)

end SampleKey
end SamplingProfiler
