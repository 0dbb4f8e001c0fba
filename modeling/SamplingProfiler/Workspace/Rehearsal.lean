import SamplingProfiler.CommandLine.Chores

/-!
# Rehearsing chores

Chores done without consequences. Files are those of a directory, and every program
that is there stands for itself: it does nothing but write one fixed text, and ends
with a code that is given beforehand.
-/

namespace SamplingProfiler.Workspace

open CommandLine (Report)

/-- What chores find, and what they have done. -/
structure Rehearsal where
  directory : Directory
  /-- The programs that are found by their names alone. -/
  programs : List String
  /-- The codes that runs end with, one after the other; zero where none is given. -/
  codes : List UInt8
  /-- What every run writes. -/
  written : List UInt8
  /-- The commands that were run. -/
  runs : List Command

namespace Rehearsal

/-- Check that a program can be run. A name with a slash is a path. -/
def checkProgram (rehearsal : Rehearsal) (program : String) : Except FileError Unit :=
  if program.toList.contains '/' then rehearsal.directory.checkProgram program
  else if program = "." ∨ program = ".." then .error .denied
  else if Directory.longestName < program.utf8ByteSize then .error .nameTooLong
  else if rehearsal.programs.contains program then .ok ()
  else .error .missing

/-- Run a command whose program is there. -/
def run (rehearsal : Rehearsal) (command : Command) : UInt8 × Rehearsal :=
  let directory := match command.output with
    | none => rehearsal.directory
    | some path => (rehearsal.directory.write path rehearsal.written).toOption.getD
      rehearsal.directory
  (rehearsal.codes[rehearsal.runs.length]?.getD 0,
    { rehearsal with directory, runs := rehearsal.runs ++ [command] })

/-- Answer a call of work. -/
def answer : (call : Call) → Rehearsal → Reply call × Rehearsal
  | .contains path, rehearsal => (rehearsal.directory.contains path, rehearsal)
  | .create path, rehearsal =>
    match rehearsal.directory.write path [] with
    | .ok directory => (.ok (), { rehearsal with directory })
    | .error reason => (.error reason, rehearsal)
  | .run command, rehearsal =>
    match rehearsal.checkProgram command.program with
    | .ok () =>
      let (code, next) := rehearsal.run command
      (.ok code, next)
    | .error reason => (.error reason, rehearsal)

/-- Do a chore. -/
def perform (rehearsal : Rehearsal) (chore : Chore) : Report × Rehearsal :=
  match (ExceptT.run chore.work).run answer rehearsal with
  | (.ok (), next) => (.success [], next)
  | (.error error, next) => (.failure error.message, next)

/-- Do what arguments ask for. -/
def call (rehearsal : Rehearsal) (arguments : List String) : Report × Rehearsal :=
  match CommandLine.Chores.program.read arguments with
  | .ok chore => rehearsal.perform chore
  | .error report => (report, rehearsal)

end Rehearsal
end SamplingProfiler.Workspace
