import SamplingProfiler.CommandLine.Profiler
import SamplingProfiler.Inspection.MapsFile

/-!
# The profiler as a program

Looks at the files and the processes that a command needs, and prints what it answers.
What to look for and what to answer is decided elsewhere.
-/

namespace SamplingProfiler.Main

open CommandLine (Report)
open CommandLine.Profiler (Command program execute)

/-- Look at a path. -/
def lookAt (path : String) : IO (Except FileError (List UInt8)) := do
  try
    return .ok (← IO.FS.readBinFile path).data.toList
  catch
    | .noFileOrDirectory _ _ _ => return .error .missing
    | _ => return .error .denied

/-- Where the link to the executable of a process leads. -/
def executable (pid : UInt32) : IO (Option (List UInt8)) := do
  try
    let path ← IO.FS.realPath s!"/proc/{pid}/exe"
    return some (Text.toBytes path.toString)
  catch _ =>
    return none

/-- Look at a process, if it is there. -/
def viewOf (pid : UInt32) : IO (Option Inspection.ProcessView) := do
  match ← lookAt s!"/proc/{pid}/stat" with
  | .error _ => return none
  | .ok _ =>
    let mappings := match ← lookAt s!"/proc/{pid}/maps" with
      | .ok content => Inspection.MapsFile.parse content
      | .error .missing => .missing
      | .error _ => .garbled
    return some ⟨← executable pid, mappings⟩

/-- Look at what a command needs, and carry it out. -/
def carryOut (command : Command) : IO Report := do
  let configured ← lookAt (command.config?.getD ConfigFile.standardPath)
  let views ← command.pids.mapM fun pid => return (pid, ← viewOf pid)
  return execute (fun _ => configured) (fun pid => (views.lookup pid).join) command

/-- Print a report. -/
def print (report : Report) : IO Unit := do
  for line in report.output do
    IO.println line
  if let some message := report.message then
    IO.eprintln message

end SamplingProfiler.Main

/-- Do what the arguments ask for. -/
def main (arguments : List String) : IO UInt32 := do
  let report ← match SamplingProfiler.CommandLine.Profiler.program.read arguments with
    | .ok command => SamplingProfiler.Main.carryOut command
    | .error report => pure report
  SamplingProfiler.Main.print report
  return report.code.toUInt32
