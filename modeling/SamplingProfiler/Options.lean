import SamplingProfiler.Limits

/-!
# Options

The sizes of a session's tables and the defaults of its policies. Zero is no
size: `zeroOption?` names the first option that may not be zero and is.
-/

namespace SamplingProfiler

/-- What a session is made from. -/
structure Options where
  maxPids : UInt32
  profileMapsSize : UInt32
  progArraySize : UInt32
  /-- Zero stands for every processor of the machine. -/
  numCpus : UInt32
  perfBufferCapacity : UInt64
  /-- Samples per second. -/
  sampleRate : UInt64
  collectUser : Bool
  collectKernel : Bool
  python : Bool
  /-- The stack store is emptied every this many collections. -/
  stacksResetInterval : UInt32
deriving DecidableEq, Repr

namespace Options

/-- The options where nothing else is said. -/
def standard : Options where
  maxPids := Limits.processes
  profileMapsSize := Limits.profiles
  progArraySize := Limits.unwinders
  numCpus := 0
  perfBufferCapacity := 1024
  sampleRate := 97
  collectUser := true
  collectKernel := true
  python := false
  stacksResetInterval := 10

/-- The options that may not be zero, by their names, with their values. -/
def positive (options : Options) : List (String × Nat) :=
  [("max_pids", options.maxPids.toNat),
    ("profile_maps_size", options.profileMapsSize.toNat),
    ("prog_array_size", options.progArraySize.toNat),
    ("perf_buffer_capacity", options.perfBufferCapacity.toNat),
    ("sample_rate", options.sampleRate.toNat),
    ("stacks_reset_interval", options.stacksResetInterval.toNat)]

/-- The first option that may not be zero and is. -/
def zeroOption? (options : Options) : Option String :=
  (options.positive.find? fun (_, value) => value == 0).map Prod.fst

/-- The number of processors, on a machine that has so many of them. -/
def cpus (options : Options) (available : UInt32) : UInt32 :=
  if 0 < options.numCpus then options.numCpus else available

end Options
end SamplingProfiler
