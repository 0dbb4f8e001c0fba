import SamplingProfiler.CommandLine.Program
import SamplingProfiler.Controller.Tending
import SamplingProfiler.Records
import SamplingProfiler.Session.Collection

/-!
# Scenarios

Three short runs of a session on two processors, each of which prints what came out of
it. They show that the parts work together: the first sample of a process, counting
samples whose policy is known, and the life of a process from its first sample to its
removal.
-/

namespace SamplingProfiler.CommandLine.Scenarios

/-- The session that a scenario begins with. -/
def freshSession : Session :=
  Session.ofOptions { Options.standard with numCpus := 2 } 2

/-- The session with the readers of all processors taken. -/
def takeReaders (session : Session) : Session :=
  { session with
    notices := (List.range session.notices.cpuCount.toNat).foldl
      (fun notices cpu => (notices.openReader (UInt32.ofNat cpu)).2) session.notices }

/-- A line with an object, its members by their names. -/
def sortedLine (members : List (String × Json)) : String :=
  (Json.object members).sorted.render

/-- A process is sampled for the first time. -/
def firstSample : List String :=
  let task := (Task.ofPid 0 4242).withStacks [0xffff1000] [0x1000]
  let (outcome, session) := freshSession.sample task
  let (_, notices, last) := (takeReaders session).readNotices
  [sortedLine [("outcome", toJson outcome), ("config", toJson (last.policies.get? 4242)),
    ("counts", toJson last.counts.size), ("events", toJson notices)]]

/-- A process whose user side is unwound is sampled three times. -/
def framePointers : List String :=
  let task := (Task.ofPid 1 77).withStacks [0xffff1000] [0x1000, 0x2000]
  let policy := Policy.ofKind .framePointers true false
  let (_, session) := freshSession.insertPolicy 77 policy UpdateFlags.any
  let sampled := (List.replicate 3 task).foldl (fun current task => (current.sample task).2) session
  let (samples, last) := sampled.collect
  samples.map (fun sample => (toJson sample).render)
    ++ [sortedLine [("metrics", toJson last.tally.nonzero)]]

/-- The resolver that unwinds both sides of every process, and for which all are there. -/
def unwindAll : Resolver where
  resolve _ := some (Policy.ofKind .framePointers true true)
  isAlive _ := true

/-- Read all notices, and let a controller handle them. -/
def pump (controller : Controller) (session : Session) : Controller × Session :=
  let (_, notices, read) := session.readNotices
  let (next, _, tended) := read.tend unwindAll Refusals.none (controller.handleAll notices)
  (next, tended)

/-- A process is sampled, resolved, sampled again, replaces its image, exits, and is
    removed. -/
def lifecycle : List String :=
  let task := (Task.ofPid 0 10).withStacks [0xffff1000] [0x1000]
  let (first, session) := (takeReaders freshSession).sample task
  let (controller, session) := pump Controller.initial session
  let (second, session) := session.sample task
  let (third, session) := session.imageReplaced task
  let (fourth, session) := session.terminalReleased task true
  let (controller, session) := pump controller session
  let (samples, collected) := session.collect
  let ((removed, _), _, last) := collected.tend unwindAll Refusals.none controller.cleanup
  [sortedLine [("outcomes", toJson [first, second, third, fourth]),
    ("profiles", toJson samples.length), ("pids_before", toJson session.policies.size),
    ("removed", toJson removed), ("pids_after", toJson last.policies.size)]]

/-- Run the scenario that the first argument names. -/
def run : List String → Report
  | [] => .failure "Error: no input"
  | "first-sample" :: _ => .success firstSample
  | "frame-pointers" :: _ => .success framePointers
  | "lifecycle" :: _ => .success lifecycle
  | other :: _ => .failure ("Error: unknown scenario " ++ other)

end SamplingProfiler.CommandLine.Scenarios
