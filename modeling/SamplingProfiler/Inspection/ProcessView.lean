import SamplingProfiler.Controller.Tending
import SamplingProfiler.Inspection.FileName
import SamplingProfiler.Inspection.MappedName

/-!
# Looking at processes

How a process is profiled follows from what it has mapped: one that runs the
interpreter of python, or has its library mapped, is left to the unwinder for
python, provided that this is wanted. All others are unwound by frame pointers.

A process may go away while it is looked at, and its memory map may be unreadable;
the first is a decision, the second is not.
-/

namespace SamplingProfiler.Inspection

/-- The memory map of a process. -/
inductive Mappings where
  /-- The process has no memory map any more. -/
  | missing
  /-- A map that cannot be taken apart into lines. -/
  | garbled
  /-- The bytes at the end of each line. -/
  | names (names : List (List UInt8))
deriving DecidableEq, Repr

/-- What can be seen of a process. -/
structure ProcessView where
  /-- Where the link to the executable leads, if there is one. -/
  executable : Option (List UInt8)
  mappings : Mappings
deriving DecidableEq, Repr

/-- Why a process cannot be looked at. -/
inductive Failure where
  /-- It is not there any more. -/
  | gone
  /-- What it shows cannot be read. -/
  | unreadable
deriving DecidableEq, Repr

/-- How the system shows the path of a mapped file. An end of a line in it becomes a
    number, so that the line goes on. -/
def shownPath (path : List UInt8) : List UInt8 :=
  path.flatMap fun byte => if byte = 0x0a then Text.toBytes "\\012" else [byte]

/-- The memory map of a process that has some files mapped, by their paths. -/
def Mappings.ofFiles (paths : List (List UInt8)) : Mappings :=
  .names (paths.map shownPath)

/-- The name at the end of one line. A line ends at its end. -/
def readName (name : List UInt8) : MappedName :=
  if name.contains 0x0a then .unreadable
  else match Text.ofBytes? name with
    | none => .unreadable
    | some text => MappedName.ofText text

/-- The paths of the mapped files. Every line is read before any path is looked at. -/
def mappedFiles : Mappings → Except Failure (List String)
  | .missing => .error .gone
  | .garbled => .error .unreadable
  | .names names =>
    let read := names.map readName
    if read.contains .unreadable then .error .unreadable
    else .ok (read.filterMap fun
      | .file path => some path
      | _ => none)

/-- How a process is profiled. The executable is looked at first, and the memory
    map only where it can make a difference. -/
def detect (python : Bool) (process : ProcessView) : Except Failure PolicyKind :=
  if !python then .ok .framePointers
  else if process.executable.any isPython then .ok .python
  else (mappedFiles process.mappings).map fun paths =>
    if paths.any fun path => isPython (Text.toBytes path) then .python else .framePointers

/-- The policy of a process, if a decision about it can be made. A process that is
    gone is rejected. -/
def decide? (options : Options) (process : Option ProcessView) : Option Policy :=
  match process with
  | none => some Policy.rejected
  | some process =>
    match detect options.python process with
    | .ok kind => some (Policy.ofKind kind options.collectUser options.collectKernel)
    | .error .gone => some Policy.rejected
    | .error .unreadable => none

/-- The resolver that looks at processes. One that is there is alive. -/
def resolver (options : Options) (processes : UInt32 → Option ProcessView) : Resolver where
  resolve pid := decide? options (processes pid)
  isAlive pid := (processes pid).isSome

end SamplingProfiler.Inspection
