import SamplingProfiler.Options
import SamplingProfiler.Task
import SamplingProfiler.Tables.BoundedMap
import SamplingProfiler.Tables.StackStore
import SamplingProfiler.Tables.NoticeBuffers
import SamplingProfiler.Tables.UnwinderSlots
import SamplingProfiler.Tables.OutcomeTally

/-!
# Sessions

A session owns every table that the sampler uses and answers the calls of its
decisions from them. Its entry points run one decision for one task and count the
outcome.

Unwinders are outside: that a session handed a sample over is recorded, and what
the unwinder made of it is not.
-/

namespace SamplingProfiler

/-- A sample that was handed over to an unwinder. -/
structure Handover where
  unwinder : String
  pid : UInt32
deriving DecidableEq, Repr

/-- The tables of a session. -/
structure Session where
  options : Options
  policies : BoundedMap UInt32 Policy
  stackStore : StackStore
  counts : BoundedMap SampleKey UInt32
  notices : NoticeBuffers
  unwinders : UnwinderSlots
  tally : OutcomeTally
  /-- The number of collections so far, modulo 2 ^ 32. -/
  rounds : UInt32
  /-- The samples handed over so far, the first one first. -/
  handovers : List Handover

namespace Session

/-- A fresh session. The stack store is emptied at least at every collection that
    the interval says, and a zero there counts as one. -/
def ofOptions (options : Options) (availableCpus : UInt32) : Session where
  options := { options with stacksResetInterval := max options.stacksResetInterval 1 }
  policies := BoundedMap.ofCapacity options.maxPids
  stackStore := StackStore.ofCapacity options.profileMapsSize
  counts := BoundedMap.ofCapacity options.profileMapsSize
  notices := NoticeBuffers.ofCpus (options.cpus availableCpus) options.perfBufferCapacity
  unwinders := UnwinderSlots.ofCount options.progArraySize
  tally := OutcomeTally.zero
  rounds := 0
  handovers := []

/-- A refusal as the error number that a decision sees. -/
def numbered {Value : Type} : Except TableError Value → Except Int Value
  | .ok value => .ok value
  | .error refusal => .error refusal.number

/-- Write a process that is absent. -/
def insertPolicy (session : Session) (pid : UInt32) (policy : Policy) (flags : UInt64) :
    Except TableError Unit × Session :=
  let (result, policies) := session.policies.insert pid policy flags
  (result, { session with policies })

/-- Write the count of a key. -/
def insertCount (session : Session) (key : SampleKey) (count : UInt32) (flags : UInt64) :
    Except TableError Unit × Session :=
  let (result, counts) := session.counts.insert key count flags
  (result, { session with counts })

/-- Raise the count of a key that is present, modulo 2 ^ 32. -/
def increment (session : Session) (key : SampleKey) : Bool × Session :=
  let (found, counts) := session.counts.update key (· + 1)
  (found, { session with counts })

/-- Capture one side of a task's stack. -/
def captureStack (session : Session) (task : Task) (flags : UInt64) : Int × Session :=
  let (id, stackStore) := session.stackStore.capture task.kernelStack task.userStack flags
  (id, { session with stackStore })

/-- Send a notice from a processor. -/
def send (session : Session) (cpu : UInt32) (notice : Notice) : Session :=
  { session with notices := session.notices.send cpu notice }

/-- Hand a task over to the unwinder in a slot. -/
def handOver (session : Session) (task : Task) (slot : UInt32) :
    Except TableError Unit × Session :=
  match session.unwinders.find slot with
  | .ok unwinder =>
    (.ok (), { session with handovers := session.handovers ++ [⟨unwinder, task.pid⟩] })
  | .error refusal => (.error refusal, session)

/-- Answer a call that a decision about a task makes. -/
def answer (task : Task) : (call : Sampler.Call) → Session → Sampler.Reply call × Session
  | .findPolicy pid, session => (session.policies.get? pid, session)
  | .insertPolicy pid policy, session =>
    let (result, next) := session.insertPolicy pid policy UpdateFlags.onlyNew
    (numbered result, next)
  | .captureStack flags, session => session.captureStack task flags
  | .increment key, session => session.increment key
  | .insertCount key count, session =>
    let (result, next) := session.insertCount key count UpdateFlags.onlyNew
    (numbered result, next)
  | .send notice, session => ((), session.send task.cpu notice)
  | .tailCall slot, session =>
    let (result, next) := session.handOver task slot
    (numbered result, next)

/-- Count an outcome. -/
def record (session : Session) (outcome : Outcome) : Session :=
  { session with tally := session.tally.record outcome }

/-- Run a decision about a task and count its outcome. -/
def decide (session : Session) (task : Task) (decision : Sampler.Decision Outcome) :
    Outcome × Session :=
  let (outcome, next) := decision.run (answer task) session
  (outcome, next.record outcome)

/-- The sampling interrupt. -/
def sample (session : Session) (task : Task) : Outcome × Session :=
  session.decide task (Sampler.sample task.toSubject)

/-- The task let go of its terminal. -/
def terminalReleased (session : Session) (task : Task) (onExit : Bool) : Outcome × Session :=
  session.decide task (Sampler.terminalReleased task.toSubject onExit)

/-- The task replaced its image. -/
def imageReplaced (session : Session) (task : Task) : Outcome × Session :=
  session.decide task (Sampler.imageReplaced task.toSubject)

/-- Read every queue whose reader is taken, in the order of the processors: how
    much each one delivered and lost, and the notices. -/
def readNotices (session : Session) :
    List (UInt32 × Nat × UInt64) × List Notice × Session :=
  session.notices.openCpus.foldl (fun (reports, notices, current) cpu =>
    match current.notices.read cpu with
    | (some (queued, lost), next) =>
      (reports ++ [(cpu, queued.length, lost)], notices ++ queued, { current with notices := next })
    | (none, _) => (reports, notices, current)) ([], [], session)

end Session
end SamplingProfiler
