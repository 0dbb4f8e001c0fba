import SamplingProfiler.Kernel.Programs
import SamplingProfiler.Proofs.NoticeQueues
import SamplingProfiler.Proofs.OutcomeEffects
import SamplingProfiler.Proofs.TableContents
import SamplingProfiler.Proofs.Ticks

/-!
# Decisions that end alike

The programs of a kernel and the entry points of a session run the same decisions over
tables of their own. A decision cannot tell the two apart: as long as the tables of the
kernel have the contents and the room of those of the session, both reply alike to every
call, refusals with their numbers included. What a capture replies is the matter of the
stack stores and is given to both.

One call is different. Handing over to an unwinder comes back to a session and does not
come back to a kernel program, which ends there.

A decision concurs where running it on both sides ends alike and sends the same notices.
This is proved call by call, for each decision along its own structure.
-/

namespace SamplingProfiler.Kernel

open Sampler (sent?)

/-- The notices that a program has sent. -/
def Trace.notices (trace : Trace) : List Notice :=
  trace.sent.map Prod.fst

/-- A session and the tables and the trace of a kernel program, while both run the same
decision for a task. The tallies are those from before. -/
structure Paired (task : Task) (origin : Session) (tables : Tables) (session : Session)
    (state : State) : Prop where
  policies : session.policies.Mirrors state.tables.policies
  counts : session.counts.Mirrors state.tables.counts
  /-- In the queues of the session is what the program has sent. -/
  notices : NoticeBuffers.Posts task.cpu origin.notices state.trace.notices session.notices
  slot : (session.unwinders.name? Limits.pythonSlot).isSome = state.tables.unwinder
  tally : session.tally = origin.tally
  tableTally : state.tables.tally = tables.tally

/-- How a decision ends on both sides: with the same outcome, or with a hand-over that
only the session comes back from. -/
inductive EndsAlike (task : Task) (origin : Session) (tables : Tables) :
    Outcome × Session → Except UInt32 Outcome × State → Prop where
  | returned (outcome : Outcome) (session : Session) (state : State)
      (possible : outcome ≠ .limit) (paired : Paired task origin tables session state) :
      EndsAlike task origin tables (outcome, session) (.ok outcome, state)
  | handedOver (session : Session) (state : State)
      (paired : Paired task origin tables session state) :
      EndsAlike task origin tables (.tailCall, session) (.error Limits.pythonSlot, state)

section Decisions

variable {task : Task} {invocation : Invocation} {origin : Session} {tables : Tables}

/-- A decision ends alike on both sides, from a session and whatever is paired with it, and
on both sides it sends the same notices. -/
structure Concurs (task : Task) (invocation : Invocation) (origin : Session) (tables : Tables)
    (decision : Sampler.Decision Outcome) (session : Session) : Prop where
  ends : ∀ state, Paired task origin tables session state →
    EndsAlike task origin tables (decision.run (Session.answer task) session)
      (decision.runUntil invocation.answer state)
  sends : ∀ state, Paired task origin tables session state →
    (decision.runUntil invocation.answer state).2.trace.notices =
      state.trace.notices ++
        (decision.exchanges (Session.answer task) session).filterMap sent?

/-- Both sides reply alike to a call, and stay paired. Of the calls only a sending adds to what
the program has sent. -/
structure RepliesAlike (task : Task) (invocation : Invocation) (origin : Session)
    (tables : Tables) (call : Sampler.Call) (session : Session) (state : State) : Prop where
  replies : (invocation.answer call state).1 = .ok (Session.answer task call session).1
  paired : Paired task origin tables (Session.answer task call session).2
    (invocation.answer call state).2
  sends : (invocation.answer call state).2.trace.notices =
    state.trace.notices ++ (sent? ⟨call, (Session.answer task call session).1⟩).toList

/-- A decision concurs that has its outcome. -/
theorem concurs_done {outcome : Outcome} (session : Session) (possible : outcome ≠ .limit) :
    Concurs task invocation origin tables (.done outcome) session where
  ends state paired := .returned outcome session state possible paired
  sends _ _ := (List.append_nil _).symm

/-- A decision concurs that makes a call to which both sides reply alike, and concurs
after it. -/
theorem concurs_ask {call : Sampler.Call} {resume : Sampler.Reply call → Sampler.Decision Outcome}
    {session : Session}
    (alike : ∀ state, Paired task origin tables session state →
      RepliesAlike task invocation origin tables call session state)
    (further : Concurs task invocation origin tables
      (resume (Session.answer task call session).1) (Session.answer task call session).2) :
    Concurs task invocation origin tables (.ask call resume) session where
  ends state paired := by
    have replied := alike state paired
    rw [Dialogue.run_ask, Dialogue.runUntil_ask invocation.answer replied.replies]
    exact further.ends _ replied.paired
  sends state paired := by
    have replied := alike state paired
    rw [Dialogue.runUntil_ask invocation.answer replied.replies, further.sends _ replied.paired,
      replied.sends, List.append_assoc, Dialogue.exchanges]
    cases sent : sent? ⟨call, (Session.answer task call session).1⟩ with
    | none => rw [List.filterMap_cons_none sent]; rfl
    | some notice => rw [List.filterMap_cons_some sent]; rfl

/-- Both sides find the same policy. -/
theorem repliesAlike_findPolicy (session : Session) (pid : UInt32) (state : State)
    (paired : Paired task origin tables session state) :
    RepliesAlike task invocation origin tables (.findPolicy pid) session state where
  replies := by simp only [Invocation.answer, Session.answer, paired.policies.contents pid]
  paired := paired
  sends := (List.append_nil _).symm

/-- Both sides take a new process, or refuse it under the same number. -/
theorem repliesAlike_insertPolicy (unrefused : invocation.refusing = none) (session : Session)
    (pid : UInt32) (policy : Policy) (state : State)
    (paired : Paired task origin tables session state) :
    RepliesAlike task invocation origin tables (.insertPolicy pid policy) session state := by
  obtain ⟨replied, mirrors⟩ := paired.policies.insert_onlyNew pid policy
  have refusal : invocation.refusal? .policies = none := by
    simp only [Invocation.refusal?, unrefused]
  constructor
  · simp only [Invocation.answer, Invocation.insertPolicy, refusal, Session.answer,
      Session.insertPolicy, replied]
  · simp only [Invocation.answer, Invocation.insertPolicy, refusal, Session.answer,
      Session.insertPolicy]
    exact { paired with policies := mirrors }
  · exact (List.append_nil _).symm

/-- A program raises the count of a key that is present, and says whether it is. -/
theorem answer_increment (key : SampleKey) (state : State) :
    invocation.answer (.increment key) state =
      (.ok (state.tables.counts.get? key).isSome, { state with
        tables.counts := match state.tables.counts.get? key with
          | some count => state.tables.counts.set key (count + 1)
          | none => state.tables.counts }) := by
  simp only [Invocation.answer, Invocation.increment]
  cases state.tables.counts.get? key <;> rfl

/-- Both sides raise the count of a key, or find it absent. -/
theorem repliesAlike_increment (session : Session) (key : SampleKey) (state : State)
    (paired : Paired task origin tables session state) :
    RepliesAlike task invocation origin tables (.increment key) session state := by
  obtain ⟨found, mirrors⟩ := paired.counts.update key (· + 1)
  constructor
  · simp only [answer_increment, Session.answer, Session.increment, found]
  · simp only [answer_increment, Session.answer, Session.increment]
    refine { paired with counts := ?_ }
    cases present : state.tables.counts.get? key with
    | none => simpa only [present] using mirrors
    | some count => simpa only [present] using mirrors
  · simp only [answer_increment]
    exact (List.append_nil _).symm

/-- Both sides take a new key, or refuse it under the same number. -/
theorem repliesAlike_insertCount (unrefused : invocation.refusing = none) (session : Session)
    (key : SampleKey) (count : UInt32) (state : State)
    (paired : Paired task origin tables session state) :
    RepliesAlike task invocation origin tables (.insertCount key count) session state := by
  obtain ⟨replied, mirrors⟩ := paired.counts.insert_onlyNew key count
  have refusal : invocation.refusal? .counts = none := by
    simp only [Invocation.refusal?, unrefused]
  constructor
  · simp only [Invocation.answer, Invocation.insertCount, refusal, Session.answer,
      Session.insertCount, replied]
  · simp only [Invocation.answer, Invocation.insertCount, refusal, Session.answer,
      Session.insertCount]
    exact { paired with counts := mirrors }
  · exact (List.append_nil _).symm

/-- Both sides send a notice. -/
theorem repliesAlike_send (session : Session) (notice : Notice) (state : State)
    (paired : Paired task origin tables session state) :
    RepliesAlike task invocation origin tables (.send notice) session state := by
  have sends : (invocation.answer (.send notice) state).2.trace.notices =
      state.trace.notices ++ [notice] := List.map_append ..
  refine ⟨rfl, { paired with notices := ?_ }, sends⟩
  rw [sends]
  exact paired.notices.concat (session.notices.posted_send task.cpu notice)

/-- What an invocation replies to a capture. -/
def Invocation.stackOf (invocation : Invocation) (flags : UInt64) : Int :=
  if flags &&& StackFlags.user != 0 then invocation.userStack else invocation.kernelStack

/-- Both sides reply alike to a capture if the program is replied what the store of the
session says. -/
theorem repliesAlike_captureStack (session : Session) (flags : UInt64)
    (matched : invocation.stackOf flags = (session.captureStack task flags).1) (state : State)
    (paired : Paired task origin tables session state) :
    RepliesAlike task invocation origin tables (.captureStack flags) session state where
  replies := congrArg Except.ok matched
  paired := { paired with }
  sends := (List.append_nil _).symm

/-- A report of a process concurs. -/
theorem concurs_report (session : Session) (subject : Subject) (kind : NoticeKind)
    {outcome : Outcome} (possible : outcome ≠ .limit) :
    Concurs task invocation origin tables (Sampler.report subject kind outcome) session := by
  simp only [Sampler.report]
  split
  · exact concurs_done session (by decide)
  · exact concurs_ask (repliesAlike_send session _) (concurs_done _ possible)

/-- The decision where a controlling terminal is let go of concurs. -/
theorem concurs_terminalReleased (session : Session) (subject : Subject) (onExit : Bool) :
    Concurs task invocation origin tables (Sampler.terminalReleased subject onExit) session := by
  cases onExit with
  | false => exact concurs_done session (by decide)
  | true => exact concurs_report session subject .exited (by decide)

/-- The decision where a process replaces its image concurs. -/
theorem concurs_imageReplaced (session : Session) (subject : Subject) :
    Concurs task invocation origin tables (Sampler.imageReplaced subject) session :=
  concurs_report session subject .replaced (by decide)

/-- Writing a new process concurs: it is taken, and the notice is sent, or it is refused
on both sides for the same reason. -/
theorem concurs_reportNewProcess (unrefused : invocation.refusing = none) (session : Session)
    (pid : UInt32) :
    Concurs task invocation origin tables (Sampler.reportNewProcess pid) session := by
  refine concurs_ask (repliesAlike_insertPolicy unrefused session pid Policy.undecided) ?_
  generalize (Session.answer task (.insertPolicy pid Policy.undecided) session).1 = reply
  cases reply with
  | ok written => exact concurs_ask (repliesAlike_send _ _) (concurs_done _ (by decide))
  | error number =>
    refine concurs_done _ ?_
    split <;> decide

/-- Capturing a side concurs if what follows does. -/
theorem concurs_captureSide {next : Int → Sampler.Decision Outcome} (session : Session)
    (wanted : Bool) (flags : UInt64)
    (matched : wanted = true → invocation.stackOf flags = (session.captureStack task flags).1)
    (further : Concurs task invocation origin tables
      (next (session.captureSide task wanted flags).1)
      (session.captureSide task wanted flags).2) :
    Concurs task invocation origin tables (Sampler.captureSide wanted flags >>= next) session := by
  cases wanted with
  | false => exact further
  | true => exact concurs_ask (repliesAlike_captureStack session flags (matched rfl)) further

/-- Counting a key concurs: it is raised, or written, or refused on both sides. -/
theorem concurs_countKey (unrefused : invocation.refusing = none) (session : Session)
    (key : SampleKey) :
    Concurs task invocation origin tables (do
      if ← Sampler.increment key then
        return .sampleCounted
      match ← Sampler.insertCount key 1 with
      | .ok () => return .sampleNewKey
      | .error _ => return .sampleKeyRace) session := by
  refine concurs_ask (repliesAlike_increment session key) ?_
  generalize (Session.answer task (.increment key) session).1 = found
  cases found with
  | true => exact concurs_done _ (by decide)
  | false =>
    refine concurs_ask (repliesAlike_insertCount unrefused _ key 1) ?_
    generalize (Session.answer task (.insertCount key 1)
      (Session.answer task (.increment key) session).2).1 = reply
    cases reply with
    | ok written => exact concurs_done _ (by decide)
    | error number => exact concurs_done _ (by decide)

/-- A program is invoked for a task of a session: it sees the same process and the same
flags, and the same slot filled, no table refuses it out of turn, and the captures that a
policy wants are replied what the stack store of the session says. -/
structure Matches (session : Session) (tables : Tables) (task : Task)
    (invocation : Invocation) : Prop where
  subject : invocation.subject tables = task.toSubject
  unrefused : invocation.refusing = none
  slot : (session.unwinders.name? Limits.pythonSlot).isSome = tables.unwinder
  kernelStack : ∀ policy, session.policies.get? task.pid = some policy →
    policy.collectsKernel = true →
      invocation.kernelStack = (session.captureStack task StackFlags.kernelSide).1
  userStack : ∀ policy, session.policies.get? task.pid = some policy →
    policy.collectsUser = true →
      invocation.userStack =
        ((session.afterKernelSide task policy).captureStack task StackFlags.userSide).1

/-- Counting a sample concurs. -/
theorem concurs_countSample {session : Session} (matching : Matches session tables task invocation)
    (policy : Policy) (known : session.policies.get? task.pid = some policy) :
    Concurs task invocation origin tables (Sampler.countSample task.pid policy) session := by
  refine concurs_captureSide session policy.collectsKernel StackFlags.kernelSide
    (matching.kernelStack policy known) ?_
  refine concurs_captureSide _ policy.collectsUser StackFlags.userSide
    (matching.userStack policy known) ?_
  exact concurs_countKey matching.unrefused _ _

/-- Handing over to the unwinder concurs: where the slot is filled only the session comes
back, and where it is empty both do. -/
theorem concurs_handOver (session : Session) :
    Concurs task invocation origin tables (do
      match ← Sampler.tailCall Limits.pythonSlot with
      | .ok () => return .tailCall
      | .error _ => return .tailCallMissing) session := by
  simp only [Sampler.tailCall, Dialogue.request_bind]
  cases found : session.unwinders.find Limits.pythonSlot with
  | ok unwinder =>
    -- only the session comes back, and it sends nothing any more
    have halted (state : State) (paired : Paired task origin tables session state) :
        invocation.answer (.tailCall Limits.pythonSlot) state = (.error Limits.pythonSlot, state) := by
      have filled : state.tables.unwinder = true := by
        simpa [UnwinderSlots.name?, found, Except.toOption] using paired.slot.symm
      simp only [Invocation.answer, filled, if_true]
    constructor
    · intro state paired
      simp only [Dialogue.run_ask, Dialogue.runUntil, halted state paired, Session.answer,
        Session.handOver, found]
      exact .handedOver _ state { paired with }
    · intro state paired
      simp only [Dialogue.runUntil, halted state paired, Dialogue.exchanges, Session.answer,
        Session.handOver, found]
      exact (List.append_nil _).symm
  | error refusal =>
    -- both come back, though with numbers of their own, which the decision does not look at
    have answered (state : State) (paired : Paired task origin tables session state) :
        invocation.answer (.tailCall Limits.pythonSlot) state =
          (.ok (.error HashTable.absent), state) := by
      have empty : state.tables.unwinder = false := by
        simpa [UnwinderSlots.name?, found, Except.toOption] using paired.slot.symm
      simp only [Invocation.answer, empty, Bool.false_eq_true, if_false]
    constructor
    · intro state paired
      simp only [Dialogue.run_ask, Dialogue.runUntil, answered state paired, Session.answer,
        Session.handOver, found]
      exact .returned .tailCallMissing session state (by decide) paired
    · intro state paired
      simp only [Dialogue.runUntil, answered state paired, Dialogue.exchanges, Session.answer,
        Session.handOver, found]
      exact (List.append_nil _).symm

/-- Following a policy concurs. -/
theorem concurs_followPolicy {session : Session}
    (matching : Matches session tables task invocation) (policy : Policy)
    (known : session.policies.get? task.pid = some policy) :
    Concurs task invocation origin tables (Sampler.followPolicy task.pid policy) session := by
  simp only [Sampler.followPolicy]
  cases policy.kind? with
  | none => exact concurs_done session (by decide)
  | some kind =>
    cases kind with
    | unknown => exact concurs_done session (by decide)
    | error => exact concurs_done session (by decide)
    | python => exact concurs_handOver session
    | framePointers => exact concurs_countSample matching policy known

/-- A task that is not sampled is refused with an outcome that there is. -/
theorem refusal_possible (subject : Subject) (outcome : Outcome)
    (refused : Sampler.refusal? subject = some outcome) : outcome ≠ .limit := by
  have possible : ∀ reason ∈ Sampler.refusals, reason ≠ .limit := by decide
  exact possible outcome (Sampler.refusal_mem subject outcome refused)

/-- The sampling decision concurs. -/
theorem concurs_sample {session : Session} (matching : Matches session tables task invocation) :
    Concurs task invocation origin tables (Sampler.sample task.toSubject) session := by
  simp only [Sampler.sample]
  cases refused : Sampler.refusal? task.toSubject with
  | some outcome =>
    exact concurs_done session (refusal_possible task.toSubject outcome refused)
  | none =>
    refine concurs_ask (repliesAlike_findPolicy session task.pid) ?_
    cases known : session.policies.get? task.pid with
    | none =>
      simp only [Session.answer, known]
      exact concurs_reportNewProcess matching.unrefused session task.pid
    | some policy =>
      simp only [Session.answer, known]
      exact concurs_followPolicy matching policy known

end Decisions

end SamplingProfiler.Kernel
