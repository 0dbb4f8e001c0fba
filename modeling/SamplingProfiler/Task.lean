import SamplingProfiler.Sampler

/-!
# Tasks

The task that an interrupt or a probe found running, with both sides of its stack.
-/

namespace SamplingProfiler

/-- An interrupted task. Frames are innermost first. -/
structure Task extends Subject where
  cpu : UInt32
  kernelStack : List UInt64
  userStack : List UInt64
deriving DecidableEq, Repr

namespace Task

/-- A task of user space, without frames. -/
def ofPid (cpu pid : UInt32) : Task where
  pid := pid
  hasTask := true
  flags := some 0
  cpu := cpu
  kernelStack := []
  userStack := []

/-- A worker thread of the kernel, without frames. -/
def kernelThread (cpu pid : UInt32) : Task :=
  { ofPid cpu pid with flags := some TaskFlags.kernelThread }

/-- The same task with these stacks. -/
def withStacks (task : Task) (kernel user : List UInt64) : Task :=
  { task with kernelStack := kernel, userStack := user }

end Task
end SamplingProfiler
