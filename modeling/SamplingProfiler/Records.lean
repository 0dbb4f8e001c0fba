import SamplingProfiler.Json.Coding
import SamplingProfiler.Notice
import SamplingProfiler.Options
import SamplingProfiler.Outcome
import SamplingProfiler.Policy
import SamplingProfiler.Profile

/-!
# Records

The written form of what the profiler exchanges: its records, by the names of their
fields, and its enumerations, by the names of their values. Only options have values
for fields that are not given.
-/

namespace SamplingProfiler

instance : ToJson PolicyKind := ⟨fun kind => .text kind.name⟩
instance : OfJson PolicyKind := ⟨Json.named? PolicyKind.all PolicyKind.name⟩
instance : ToJson NoticeKind := ⟨fun kind => .text kind.name⟩
instance : OfJson NoticeKind := ⟨Json.named? NoticeKind.all NoticeKind.name⟩
instance : ToJson Outcome := ⟨fun outcome => .text outcome.name⟩

namespace Policy

/-- The names of the fields of a policy. -/
def fieldNames : List String :=
  ["profile_type", "collect_user", "collect_kernel", "padding_"]

instance : ToJson Policy where
  toJson policy := .object (fieldNames.zip
    [toJson policy.kindByte, toJson policy.userByte, toJson policy.kernelByte,
      toJson policy.padding])

instance : OfJson Policy where
  ofJson? json := do
    let [kind?, user?, kernel?, padding?] ← json.fields? fieldNames | none
    return ⟨← Json.required kind?, ← Json.required user?, ← Json.required kernel?,
      ← Json.required padding?⟩

end Policy

namespace Notice

/-- The names of the fields of a notice. -/
def fieldNames : List String :=
  ["op", "pid"]

instance : ToJson Notice where
  toJson notice := .object (fieldNames.zip [toJson notice.code, toJson notice.pid])

instance : OfJson Notice where
  ofJson? json := do
    let [code?, pid?] ← json.fields? fieldNames | none
    return ⟨← Json.required code?, ← Json.required pid?⟩

end Notice

namespace SampleKey

/-- The names of the fields of a sample's key. -/
def fieldNames : List String :=
  ["pid", "flags", "kern_stack", "user_stack"]

instance : ToJson SampleKey where
  toJson key := .object (fieldNames.zip
    [toJson key.pid, toJson key.flags, toJson key.kernelStack, toJson key.userStack])

instance : OfJson SampleKey where
  ofJson? json := do
    let [pid?, flags?, kernel?, user?] ← json.fields? fieldNames | none
    return ⟨← Json.required pid?, ← Json.required flags?, ← kernel?.bind Json.int64?,
      ← user?.bind Json.int64?⟩

end SampleKey

instance : ToJson ProfileSample where
  toJson sample := .object [("key", toJson sample.key), ("count", toJson sample.count),
    ("kernel_frames", toJson sample.kernelFrames), ("user_frames", toJson sample.userFrames)]

namespace Options

/-- The names of the options. -/
def fieldNames : List String :=
  ["max_pids", "profile_maps_size", "prog_array_size", "num_cpus", "perf_buffer_capacity",
    "sample_rate", "collect_user", "collect_kernel", "python", "stacks_reset_interval"]

instance : ToJson Options where
  toJson options := .object (fieldNames.zip
    [toJson options.maxPids, toJson options.profileMapsSize, toJson options.progArraySize,
      toJson options.numCpus, toJson options.perfBufferCapacity, toJson options.sampleRate,
      toJson options.collectUser, toJson options.collectKernel, toJson options.python,
      toJson options.stacksResetInterval])

/-- Read options; those that are not given are as in some others. -/
def ofJsonOver? (base : Options) (json : Json) : Option Options := do
  let [maxPids?, profileMapsSize?, progArraySize?, numCpus?, perfBufferCapacity?, sampleRate?,
    collectUser?, collectKernel?, python?, stacksResetInterval?] ← json.fields? fieldNames | none
  return {
    maxPids := ← Json.optional base.maxPids maxPids?
    profileMapsSize := ← Json.optional base.profileMapsSize profileMapsSize?
    progArraySize := ← Json.optional base.progArraySize progArraySize?
    numCpus := ← Json.optional base.numCpus numCpus?
    perfBufferCapacity := ← Json.optional base.perfBufferCapacity perfBufferCapacity?
    sampleRate := ← Json.optional base.sampleRate sampleRate?
    collectUser := ← Json.optional base.collectUser collectUser?
    collectKernel := ← Json.optional base.collectKernel collectKernel?
    python := ← Json.optional base.python python?
    stacksResetInterval := ← Json.optional base.stacksResetInterval stacksResetInterval? }

instance : OfJson Options := ⟨ofJsonOver? standard⟩

end Options
end SamplingProfiler
