import SamplingProfiler.Dialogue
import SamplingProfiler.Limits
import SamplingProfiler.Outcome
import SamplingProfiler.Loader.Collector
import SamplingProfiler.Loader.ObjectFile

/-!
# Setting the kernel programs up

What the loader asks of the kernel to get an object file running: loading it,
attaching its programs, filling the slot of the unwinder, and taking its maps. Every
request may fail.

A map that is taken from the object and then not wanted is closed. Closing shows
where it empties slots, which is with arrays of programs.
-/

namespace SamplingProfiler.Loader

/-- What the loader asks of the kernel. -/
inductive Request where
  /-- Lift the limit on locked memory. -/
  | liftMemoryLimit
  | loadFile (path : String)
  | loadProgram (name : String)
  | onlineCpus
  /-- Attach a program to the clock of a processor. -/
  | attachClock (program : String) (cpu : UInt32) (rate : UInt64)
  /-- Attach a program to a function of the kernel. -/
  | attachProbe (program function : String)
  /-- Put a program into a slot. -/
  | fillSlot (index : UInt32) (program : String)
  /-- Open the buffer of a processor. -/
  | openBuffer (cpu : UInt32)
  /-- Let go of an array of programs. -/
  | close (map : String)
  /-- The device and the inode of the loader's own pid namespace. -/
  | ownNamespace
  | writeSetting (key : UInt32) (value : UInt64)
  | readTally (key : UInt32)
deriving DecidableEq, Repr

namespace Request

/-- The type of the reply to each request. -/
abbrev Reply : Request → Type
  | .liftMemoryLimit => Except CallError Unit
  | .loadFile _ => Except CallError ObjectFile
  | .loadProgram _ => Except CallError Unit
  | .onlineCpus => Except CallError (List UInt32)
  | .attachClock _ _ _ => Except CallError Unit
  | .attachProbe _ _ => Except CallError Unit
  | .fillSlot _ _ => Except CallError Unit
  | .openBuffer _ => Except CallError Unit
  | .close _ => Unit
  | .ownNamespace => UInt64 × UInt64
  | .writeSetting _ _ => Except CallError Unit
  | .readTally _ => Except CallError UInt64

/-- How a request is shown, where it is shown at all. -/
def line? : Request → Option String
  | .liftMemoryLimit => some "setrlimit memlock infinite=true"
  | .loadFile path => some ("load_file " ++ path)
  | .loadProgram name => some ("load " ++ name)
  | .attachClock program cpu rate =>
    some s!"attach {program} type=Software config=0 cpu={cpu} hz={rate} inherit=false"
  | .attachProbe program function => some s!"attach {program} fn={function} offset=0"
  | .fillSlot index program => some s!"set PROGS[{index}] = {program} flags=0"
  | .openBuffer cpu => some s!"open EVENTS cpu={cpu} pages=None"
  | .close map => some ("close " ++ map)
  | .onlineCpus | .ownNamespace | .writeSetting _ _ | .readTally _ => none

end Request

/-- A part of the loader's work. -/
abbrev Plan (Result : Type) : Type :=
  Dialogue Request Request.Reply Result

namespace Plan

/-- Ask the kernel. -/
def ask (request : Request) : Plan request.Reply :=
  Dialogue.request request

/-- Let go of a map. -/
def close (shape : MapShape) : Plan Unit := do
  if shape.kind = .progArray then
    ask (.close shape.name)

/-- Let go of maps one after the other. -/
def closeAll : List MapShape → Plan Unit
  | [] => return ()
  | shape :: rest => do
    close shape
    closeAll rest

/-- Take a map of a kind from an object. One of another kind is taken and closed. -/
def takeMap (object : ObjectFile) (name : String) (kind : MapKind) :
    Plan (Except LoadError MapShape × ObjectFile) := do
  match object.map? name with
  | none => return (.error (.noMap name), object)
  | some shape =>
    if shape.kind = kind then
      return (.ok shape, object.without name)
    close shape
    return (.error .wrongMapKind, object.without name)

/-- Find a program of a kind. -/
def findProgram (object : ObjectFile) (name : String) (kind : ProgramKind) :
    Except LoadError Unit :=
  match object.program? name with
  | none => .error (.noProgram name)
  | some shape => if shape.kind = kind then .ok () else .error .wrongProgramKind

/-- Lift the limit on locked memory. -/
def liftMemoryLimit : Plan (Except LoadError Unit) := do
  match ← ask .liftMemoryLimit with
  | .ok () => return .ok ()
  | .error _ => return .error .memoryLimit

/-- Tell the programs in which pid namespace to report processes: that of the loader. -/
def writeNamespace (object : ObjectFile) : Plan (Except LoadError Unit) := do
  match object.map? "CONFIG" with
  | none => return .error (.noMap "CONFIG")
  | some shape =>
    if shape.kind ≠ .hash then
      return .error .wrongMapKind
    let (device, inode) ← ask .ownNamespace
    match ← ask (.writeSetting NamespaceKey.device device) with
    | .error error => return .error (.call error)
    | .ok () =>
      match ← ask (.writeSetting NamespaceKey.inode inode) with
      | .error error => return .error (.call error)
      | .ok () => return .ok ()

/-- Load an object file. A missing log is no reason to give up; without its
    namespace the object is dropped again. -/
def load (path : String) : Plan (Except LoadError ObjectFile) := do
  match ← liftMemoryLimit with
  | .error error => return .error error
  | .ok () =>
    match ← ask (.loadFile path) with
    | .error _ => return .error (.unloadable path)
    | .ok object =>
      let (_, object) ← takeMap object "AYA_LOGS" .perfEventArray
      match ← writeNamespace object with
      | .ok () => return .ok object
      | .error error =>
        closeAll object.maps
        return .error error

/-- Attach a program to the clocks of processors one after the other. -/
def attachClocks (program : String) (rate : UInt64) : List UInt32 → Plan (Except LoadError Unit)
  | [] => return .ok ()
  | cpu :: rest => do
    match ← ask (.attachClock program cpu rate) with
    | .error error => return .error (.call error)
    | .ok () => attachClocks program rate rest

/-- Attach the sampling program to the clock of every online processor, and count
    these. -/
def attachSampler (object : ObjectFile) (rate : UInt64) : Plan (Except LoadError Nat) := do
  match findProgram object "do_perf_event" .perfEvent with
  | .error error => return .error error
  | .ok () =>
    match ← ask (.loadProgram "do_perf_event") with
    | .error error => return .error (.call error)
    | .ok () =>
      match ← ask .onlineCpus with
      | .error _ => return .error .noCpus
      | .ok cpus =>
        match ← attachClocks "do_perf_event" rate cpus with
        | .error error => return .error error
        | .ok () => return .ok cpus.length

/-- Load a program and attach it to a function of the kernel. -/
def attachProbe (object : ObjectFile) (program function : String) :
    Plan (Except LoadError Unit) := do
  match findProgram object program .probe with
  | .error error => return .error error
  | .ok () =>
    match ← ask (.loadProgram program) with
    | .error error => return .error (.call error)
    | .ok () =>
      match ← ask (.attachProbe program function) with
      | .error error => return .error (.call error)
      | .ok () => return .ok ()

/-- The kernel's function behind a system call. -/
def systemCall (name : String) : String :=
  "__x64_" ++ name

/-- Attach the lifecycle programs. Exits have to be seen; new images need not be. -/
def attachLifecycle (object : ObjectFile) : Plan (Except LoadError Unit) := do
  match ← attachProbe object "disassociate_ctty" "disassociate_ctty" with
  | .error error => return .error error
  | .ok () =>
    let _ ← attachProbe object "exec" (systemCall "sys_execve")
    let _ ← attachProbe object "execveat" (systemCall "sys_execveat")
    return .ok ()

/-- Load the unwinder for python and put it into its slot. -/
def fillPythonSlot (object : ObjectFile) : Plan (Except LoadError Unit) := do
  match findProgram object "pyperf" .perfEvent with
  | .error error => return .error error
  | .ok () =>
    match ← ask (.loadProgram "pyperf") with
    | .error error => return .error (.call error)
    | .ok () =>
      match ← ask (.fillSlot Limits.pythonSlot "pyperf") with
      | .error error => return .error (.call error)
      | .ok () => return .ok ()

/-- Register the unwinder for python, if the object has one, and return the array
    that keeps it in its slot. The array is closed where it keeps nothing. -/
def registerPython (object : ObjectFile) :
    Plan (Except LoadError (Option MapShape) × ObjectFile) := do
  match ← takeMap object "PROGS" .progArray with
  | (.error error, object) => return (.error error, object)
  | (.ok slots, object) =>
    if (object.program? "pyperf").isNone then
      close slots
      return (.ok none, object)
    match ← fillPythonSlot object with
    | .ok () => return (.ok (some slots), object)
    | .error error =>
      close slots
      return (.error error, object)

/-- Take the table of processes. -/
def takeProcesses (object : ObjectFile) : Plan (Except LoadError MapShape × ObjectFile) :=
  takeMap object "PIDS" .hash

/-- Take the tables of counts and of stacks, for a collector. -/
def takeProfiles (object : ObjectFile) (interval : UInt32) :
    Plan (Except LoadError Collector × ObjectFile) := do
  match ← takeMap object "COUNTS" .hash with
  | (.error error, object) => return (.error error, object)
  | (.ok _, object) =>
    match ← takeMap object "STACKS" .stackTrace with
    | (.error error, object) => return (.error error, object)
    | (.ok _, object) => return (.ok (Collector.ofInterval interval), object)

/-- Open the buffers of processors one after the other, up to the first failure. -/
def openBuffers : List UInt32 → Plan (Except LoadError Unit)
  | [] => return .ok ()
  | cpu :: rest => do
    match ← ask (.openBuffer cpu) with
    | .error error => return .error (.call error)
    | .ok () => openBuffers rest

/-- Open the buffer of every online processor, and list these. -/
def openReaders (object : ObjectFile) :
    Plan (Except LoadError (List UInt32) × ObjectFile) := do
  match ← takeMap object "EVENTS" .perfEventArray with
  | (.error error, object) => return (.error error, object)
  | (.ok _, object) =>
    match ← ask .onlineCpus with
    | .error _ => return (.error .noCpus, object)
    | .ok cpus =>
      match ← openBuffers cpus with
      | .error error => return (.error error, object)
      | .ok () => return (.ok cpus, object)

/-- Read the counters of outcomes one after the other, and keep those that are not
    zero. An outcome that never occurred has no counter. -/
def readOutcomes : List Outcome → Plan (Except LoadError (List (Outcome × UInt64)))
  | [] => return .ok []
  | outcome :: rest => do
    match ← ask (.readTally outcome.word) with
    | .error .keyNotFound => readOutcomes rest
    | .error (.refused wording) => return .error (.call (.refused wording))
    | .ok count =>
      match ← readOutcomes rest with
      | .error error => return .error error
      | .ok others => return .ok (if 0 < count then (outcome, count) :: others else others)

/-- Read how often each outcome occurred. -/
def readTally (object : ObjectFile) : Plan (Except LoadError (List (Outcome × UInt64))) := do
  match object.map? "METRICS" with
  | none => return .error (.noMap "METRICS")
  | some shape =>
    if shape.kind ≠ .hash then
      return .error .wrongMapKind
    readOutcomes Outcome.all

end Plan
end SamplingProfiler.Loader
