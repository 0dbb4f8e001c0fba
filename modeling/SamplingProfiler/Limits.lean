/-!
# Limits and flag words

The fixed numbers that the sampler, its tables and whoever loads them have to
agree on: table sizes, the depth to which a stack is kept, and the bits of the
flag words that table operations and stack captures take.
-/

namespace SamplingProfiler

namespace Limits

/-- Capacity of the table of processes. -/
def processes : UInt32 := 1024

/-- Capacity of the stack store and of the table of counts. -/
def profiles : UInt32 := 16384

/-- A captured stack keeps at most this many frames, innermost first. -/
def stackDepth : Nat := 127

/-- The number of slots for specialised unwinders. -/
def unwinders : UInt32 := 1

/-- The slot of the unwinder for the interpreter of python. -/
def pythonSlot : UInt32 := 0

end Limits

namespace TaskFlags

/-- The bit of a task's flags that marks a worker thread of the kernel. -/
def kernelThread : UInt32 := 0x200000

end TaskFlags

namespace UpdateFlags

/-- Write whether or not the key is present. -/
def any : UInt64 := 0

/-- Write only a key that is absent. -/
def onlyNew : UInt64 := 1

/-- Write only a key that is present. -/
def onlyPresent : UInt64 := 2

end UpdateFlags

namespace StackFlags

/-- The low bits of a capture's flags say how many innermost frames to skip. -/
def skipMask : UInt64 := 0xff

/-- Capture the stack of user space and not that of the kernel. -/
def user : UInt64 := 0x100

/-- Two stacks are the same when their hashes are. -/
def fastCompare : UInt64 := 0x200

/-- A different stack in the bucket is replaced. -/
def reuse : UInt64 := 0x400

/-- Every bit that a capture may carry. -/
def valid : UInt64 := skipMask ||| user ||| fastCompare ||| reuse

/-- The flags with which the sampler captures the kernel's side. -/
def kernelSide : UInt64 := fastCompare

/-- The flags with which the sampler captures the side of user space. -/
def userSide : UInt64 := fastCompare ||| user

end StackFlags

namespace NamespaceKey

/-- The configuration key under which the device of the pid namespace is kept. -/
def device : UInt32 := 0

/-- The configuration key under which the inode of the pid namespace is kept. -/
def inode : UInt32 := 1

end NamespaceKey

end SamplingProfiler
