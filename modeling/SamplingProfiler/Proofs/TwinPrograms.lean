import SamplingProfiler.Proofs.ConcurringDecisions
import SamplingProfiler.Proofs.KernelTallies

/-!
# Kernel programs and sessions behave alike

A session and the tables of a kernel are alike if they hold equal processes and equal
counts with equal room, and equal counters of outcomes. Programs that are invoked for the
tasks of the session keep them alike, and send the notices that the session sends. Compared
are the notices that both send, and what becomes of them in the queues of the session. The
counters of a kernel always have room.

A hand-over to an unwinder does not come back in a kernel and so is not counted there. The
relation says by how many hand-overs the counters differ.
-/

namespace SamplingProfiler.Kernel

/-- What is invoked: the program at the sampling interrupt, the one where a controlling
terminal is let go of, or one of those where a process replaces its image. -/
inductive Program where
  | sample
  | terminalReleased
  | imageReplaced
deriving DecidableEq, Repr

namespace Program

/-- The decision that a program runs. -/
def decision : Program → Subject → Bool → Sampler.Decision Outcome
  | .sample, subject, _ => Sampler.sample subject
  | .terminalReleased, subject, onExit => Sampler.terminalReleased subject onExit
  | .imageReplaced, subject, _ => Sampler.imageReplaced subject

/-- The entry point of a session that goes with a program. -/
def onSession : Program → Task → Bool → Session → Outcome × Session
  | .sample, task, _, session => session.sample task
  | .terminalReleased, task, onExit, session => session.terminalReleased task onExit
  | .imageReplaced, task, _, session => session.imageReplaced task

/-- The program in a kernel. -/
def onTables : Program → Invocation → Tables → Ending × State
  | .sample, invocation, tables => invocation.sample tables
  | .terminalReleased, invocation, tables => invocation.terminalReleased tables
  | .imageReplaced, invocation, tables => invocation.imageReplaced tables

/-- The entry point runs the decision of the program. -/
theorem onSession_eq (program : Program) (task : Task) (onExit : Bool) (session : Session) :
    program.onSession task onExit session =
      session.decide task (program.decision task.toSubject onExit) := by
  cases program <;> rfl

/-- The program runs its decision, with some remark. -/
theorem onTables_eq (program : Program) (invocation : Invocation) (tables : Tables) :
    ∃ remark, program.onTables invocation tables =
      invocation.run (program.decision (invocation.subject tables) invocation.onExit) remark
        tables := by
  cases program <;> exact ⟨_, rfl⟩

/-- The decision of every program concurs. -/
theorem concurs (program : Program) {session origin : Session} {tables : Tables}
    {task : Task} {invocation : Invocation} (matching : Matches session tables task invocation)
    (onExit : Bool) :
    Concurs task invocation origin tables (program.decision task.toSubject onExit) session := by
  cases program with
  | sample => exact concurs_sample matching
  | terminalReleased => exact concurs_terminalReleased session _ onExit
  | imageReplaced => exact concurs_imageReplaced session _

end Program

/-- A session, the tables of a kernel, and how many samples the programs have handed over to
an unwinder. -/
structure Beside where
  session : Session
  tables : Tables
  handovers : Nat

/-- Both sides hold equal processes and equal counts and have equal room for more, and have
counted the same outcomes, except that a kernel does not count hand-overs. -/
structure Alike (beside : Beside) : Prop where
  policies : beside.session.policies.Mirrors beside.tables.policies
  counts : beside.session.counts.Mirrors beside.tables.counts
  tally : ∀ outcome, beside.session.tally.count outcome =
    (beside.tables.tally.get? outcome.word).getD 0 +
      if outcome = .tailCall then UInt64.ofNat beside.handovers else 0
  fits : TallyFits beside.tables.tally

/-- Fresh tables are alike with a fresh session of the same sizes. -/
theorem alike_fresh (options : Options) (availableCpus : UInt32)
    (processes : options.maxPids = Limits.processes)
    (profiles : options.profileMapsSize = Limits.profiles) :
    Alike ⟨Session.ofOptions options availableCpus, Tables.fresh, 0⟩ := by
  refine ⟨?_, ?_, ?_, .fresh⟩
  · simp only [Session.ofOptions, processes]
    exact BoundedMap.mirrors_ofCapacity Limits.processes
  · simp only [Session.ofOptions, profiles]
    exact BoundedMap.mirrors_ofCapacity Limits.profiles
  · intro outcome
    have uncounted : Tables.fresh.tally.get? outcome.word = none := rfl
    simp [Session.ofOptions, uncounted]

/-- The hand-overs after an invocation ended. -/
def handoversAfter (handovers : Nat) : Ending → Nat
  | .returned _ => handovers
  | .handedOver _ => handovers + 1

/-- What a program of a kernel and the entry point of a session do alike for a task. Their
tables stay alike. The decision of the session sends the notices that the program sends, and
each is queued, or lost, at the processor of the task. The program returns, or hands over where
the session does. -/
structure SameEffects (before : Beside) (program : Program) (task : Task)
    (invocation : Invocation) : Prop where
  alike : Alike ⟨(program.onSession task invocation.onExit before.session).2,
    (program.onTables invocation before.tables).2.tables,
    handoversAfter before.handovers (program.onTables invocation before.tables).1⟩
  sends : ((program.decision task.toSubject invocation.onExit).exchanges (Session.answer task)
      before.session).filterMap Sampler.sent? =
    (program.onTables invocation before.tables).2.trace.notices
  queues : NoticeBuffers.Posts task.cpu before.session.notices
    (program.onTables invocation before.tables).2.trace.notices
    (program.onSession task invocation.onExit before.session).2.notices
  ends : (program.onTables invocation before.tables).1 = .returned 0 ∨
    (program.onTables invocation before.tables).1 = .handedOver Limits.pythonSlot ∧
      (program.onSession task invocation.onExit before.session).1 = .tailCall

/-- Counting an outcome on both sides keeps the counters equal. -/
theorem tally_record {session : Session} {tables : Tables} {handovers : Nat}
    (tally : ∀ outcome, session.tally.count outcome =
      (tables.tally.get? outcome.word).getD 0 +
        if outcome = .tailCall then UInt64.ofNat handovers else 0)
    (outcome tested : Outcome) :
    (session.tally.record outcome).count tested =
      ((tables.tally.set outcome.word ((tables.tally.get? outcome.word).getD 0 + 1)).get?
        tested.word).getD 0 + if tested = .tailCall then UInt64.ofNat handovers else 0 := by
  rw [OutcomeTally.count_record, HashTable.get?_set]
  by_cases same : tested = outcome
  · subst same
    simp only [if_true, tally, Option.getD_some]
    ac_rfl
  · have different : tested.word ≠ outcome.word := fun equal => same (Outcome.word_injective equal)
    rw [if_neg same, if_neg different, tally]

/-- Counting a hand-over in the session alone makes the counters differ by one more. -/
theorem tally_handedOver {session : Session} {tables : Tables} {handovers : Nat}
    (tally : ∀ outcome, session.tally.count outcome =
      (tables.tally.get? outcome.word).getD 0 +
        if outcome = .tailCall then UInt64.ofNat handovers else 0)
    (tested : Outcome) :
    (session.tally.record .tailCall).count tested =
      (tables.tally.get? tested.word).getD 0 +
        if tested = .tailCall then UInt64.ofNat (handovers + 1) else 0 := by
  rw [OutcomeTally.count_record]
  by_cases same : tested = .tailCall
  · subst same
    simp only [if_true, tally, UInt64.ofNat_add]
    ac_rfl
  · rw [if_neg same, tally, if_neg same, if_neg same]

/-- A program that is invoked for a task of an alike session has the same effects as the
entry point. -/
theorem sameEffects_of_matches {beside : Beside} (alike : Alike beside) (program : Program)
    {task : Task} {invocation : Invocation}
    (matching : Matches beside.session beside.tables task invocation) :
    SameEffects beside program task invocation := by
  obtain ⟨session, tables, handovers⟩ := beside
  obtain ⟨remark, ran⟩ := program.onTables_eq invocation tables
  have paired : Paired task session tables session ⟨tables, Trace.empty⟩ :=
    ⟨alike.policies, alike.counts, .none _, matching.slot, rfl, rfl⟩
  have concurs : Concurs task invocation session tables
      (program.decision task.toSubject invocation.onExit) session :=
    program.concurs matching invocation.onExit
  have ends := concurs.ends _ paired
  have sends := concurs.sends _ paired
  rw [matching.subject] at ran
  generalize decided : (program.decision task.toSubject invocation.onExit).run
    (Session.answer task) session = result at ends
  generalize halted : (program.decision task.toSubject invocation.onExit).runUntil
    invocation.answer ⟨tables, Trace.empty⟩ = ending at ends sends
  cases ends with
  | returned outcome next state possible paired =>
    have fits : TallyFits state.tables.tally := paired.tableTally ▸ alike.fits
    have recorded := invocation.record_eq matching.unrefused state.tables fits possible
    have onTables : program.onTables invocation tables =
        (.returned 0, ⟨invocation.record outcome state.tables,
          { state.trace with log := state.trace.log ++ (remark outcome).toList }⟩) := by
      rw [ran, Invocation.run, halted]
    have onSession : program.onSession task invocation.onExit session =
        (outcome, next.record outcome) := by
      rw [program.onSession_eq, Session.decide, decided]
    constructor <;> simp only [onTables, onSession]
    · refine ⟨?_, ?_, ?_, ?_⟩
      all_goals simp only [recorded]
      · exact paired.policies
      · exact paired.counts
      · intro tested
        have counted := tally_record alike.tally outcome tested
        simp only [Session.record, paired.tally, paired.tableTally, handoversAfter]
        exact counted
      · exact fits.set possible _
    · exact sends.symm
    · exact paired.notices
    · exact .inl trivial
  | handedOver next state paired =>
    have onTables : program.onTables invocation tables =
        (.handedOver Limits.pythonSlot, state) := by
      rw [ran, Invocation.run, halted]
    have onSession : program.onSession task invocation.onExit session =
        (.tailCall, next.record .tailCall) := by
      rw [program.onSession_eq, Session.decide, decided]
    constructor <;> simp only [onTables, onSession]
    · refine ⟨paired.policies, paired.counts, ?_, paired.tableTally ▸ alike.fits⟩
      intro tested
      have counted := tally_handedOver alike.tally tested
      simp only [Session.record, paired.tally, paired.tableTally, handoversAfter]
      exact counted
    · exact sends.symm
    · exact paired.notices
    · exact .inr ⟨trivial, trivial⟩

/-- What happens to both sides: a program is invoked for a task, or somebody else changes
both to the same processes and counts, or changes stacks, slots or settings. Only programs
count outcomes. -/
inductive Step : Beside → Beside → Prop where
  | invoked (before : Beside) (program : Program) (task : Task) (invocation : Invocation)
      (matching : Matches before.session before.tables task invocation) :
      Step before
        ⟨(program.onSession task invocation.onExit before.session).2,
          (program.onTables invocation before.tables).2.tables,
          handoversAfter before.handovers (program.onTables invocation before.tables).1⟩
  | elsewhere (before after : Beside)
      (policies : after.session.policies.Mirrors after.tables.policies)
      (counts : after.session.counts.Mirrors after.tables.counts)
      (tally : after.session.tally = before.session.tally)
      (tableTally : after.tables.tally = before.tables.tally)
      (handovers : after.handovers = before.handovers) : Step before after

/-- Any number of steps. -/
inductive Runs : Beside → Beside → Prop where
  | finished (beside : Beside) : Runs beside beside
  | step (first next last : Beside) (step : Step first next) (further : Runs next last) :
      Runs first last

/-- A step keeps both sides alike. -/
theorem alike_step {before after : Beside} (alike : Alike before) (step : Step before after) :
    Alike after := by
  cases step with
  | invoked program task invocation matching =>
    exact (sameEffects_of_matches alike program matching).alike
  | elsewhere _ policies counts tally tableTally handovers =>
    refine ⟨policies, counts, ?_, tableTally ▸ alike.fits⟩
    rw [tally, tableTally, handovers]
    exact alike.tally

/-- A run keeps both sides alike. -/
theorem alike_run {first last : Beside} (alike : Alike first) (runs : Runs first last) :
    Alike last := by
  induction runs with
  | finished beside => exact alike
  | step first next last step further inductionHypothesis =>
    exact inductionHypothesis (alike_step alike step)

/-- The counters of both sides are read alike, but for the hand-overs. -/
theorem Alike.read {beside : Beside} (alike : Alike beside) :
    (beside.tables.outcomes.filter fun pair => pair.1 ≠ .tailCall) =
        (beside.session.tally.nonzero.filter fun pair => pair.1 ≠ .tailCall) ∧
      (beside.handovers = 0 → beside.tables.outcomes = beside.session.tally.nonzero) := by
  constructor
  · refine beside.tables.outcomes_compared beside.session.tally (fun outcome => outcome ≠ .tailCall)
      ?_
    intro outcome compared
    have other : outcome ≠ .tailCall := by simpa using compared
    rw [alike.tally, if_neg other, UInt64.add_zero]
  · intro none
    have everywhere := beside.tables.outcomes_compared beside.session.tally (fun _ => true) (by
      intro outcome _
      rw [alike.tally, none]
      simp)
    simpa using everywhere

/-- The programs of a kernel and the entry points of a session behave alike. After any run
from tables that are alike with a session, they are alike again: processes and counts are
equal, no counter of an outcome is refused for want of room, and user space reads the
counters that the session lists, except that hand-overs are counted in the session alone.
Any program that is then invoked for a task of the session does what the entry point
does. -/
theorem programs_and_sessions_behave_alike (first last : Beside) (alike : Alike first)
    (runs : Runs first last) :
    Alike last ∧
    (∀ outcome : Outcome, outcome ≠ .limit →
      (last.tables.tally.insert outcome.word 1 UpdateFlags.any).1 = .ok ()) ∧
    (∀ kernel : Loader.FaultyKernel, kernel.faults = [] → kernel.tally = last.tables.tally →
      ∃ counted,
        ((Loader.Plan.readOutcomes Outcome.all).run Loader.FaultyKernel.answer kernel).1 =
          .ok counted ∧
        (counted.filter fun pair => pair.1 ≠ .tailCall) =
          (last.session.tally.nonzero.filter fun pair => pair.1 ≠ .tailCall) ∧
        (last.handovers = 0 → counted = last.session.tally.nonzero)) ∧
    ∀ (program : Program) (task : Task) (invocation : Invocation),
      Matches last.session last.tables task invocation →
        SameEffects last program task invocation := by
  have reached := alike_run alike runs
  refine ⟨reached, ?_, ?_, ?_⟩
  · intro outcome possible
    rw [reached.fits.insert_any possible]
  · intro kernel faultless same
    refine ⟨last.tables.outcomes, ?_, reached.read⟩
    rw [Loader.Plan.run_readOutcomes Outcome.all kernel faultless, same]
    rfl
  · intro program task invocation matching
    exact sameEffects_of_matches reached program matching

/-- A process that nobody knows yet. -/
def newcomer : Task :=
  Task.ofPid 0 7

/-- The invocation of a program for it. -/
def newcomerInvocation : Invocation where
  pid := 7
  view := none
  hasTask := true
  flags := some 0
  argument := none
  kernelStack := -1
  userStack := -1
  refusing := none

/-- Both sides before the first tick. -/
def beforeTick : Beside :=
  ⟨Session.ofOptions Options.standard 1, Tables.fresh, 0⟩

/-- Both sides after the first tick of the process. -/
def afterTick : Beside where
  session := (Program.sample.onSession newcomer newcomerInvocation.onExit beforeTick.session).2
  tables := (Program.sample.onTables newcomerInvocation beforeTick.tables).2.tables
  handovers := 0

/-- The first tick of a process writes it and sends a notice on both sides, and both list the
outcome. When it then replaces its image, both send the notice of that, and the queue of the
session holds the two. -/
theorem new_process_alike_on_both_sides :
    Alike beforeTick ∧ Runs beforeTick afterTick ∧ Alike afterTick ∧
      afterTick.session.tally.nonzero = [(.newProcess, 1)] ∧
      SameEffects afterTick .sample newcomer newcomerInvocation ∧
      SameEffects afterTick .imageReplaced newcomer newcomerInvocation ∧
      (Program.imageReplaced.onTables newcomerInvocation afterTick.tables).2.trace.notices =
        [.ofKind .replaced 7] ∧
      (Program.imageReplaced.onSession newcomer false afterTick.session).2.notices.queueAt 0 =
        [.ofKind .firstSeen 7, .ofKind .replaced 7] := by
  have alike : Alike beforeTick := alike_fresh Options.standard 1 rfl rfl
  have first : Matches beforeTick.session beforeTick.tables newcomer newcomerInvocation := by
    refine ⟨rfl, rfl, rfl, ?_, ?_⟩
    · intro policy known
      cases known
    · intro policy known
      cases known
  have second : Matches afterTick.session afterTick.tables newcomer newcomerInvocation := by
    have undecided : afterTick.session.policies.get? newcomer.pid = some Policy.undecided := rfl
    refine ⟨rfl, rfl, rfl, ?_, ?_⟩
    · intro policy known
      cases undecided.symm.trans known
      exact fun wanted => absurd wanted (by decide)
    · intro policy known
      cases undecided.symm.trans known
      exact fun wanted => absurd wanted (by decide)
  have runs : Runs beforeTick afterTick :=
    .step _ _ _ (.invoked beforeTick .sample newcomer newcomerInvocation first) (.finished _)
  obtain ⟨reached, _, _, effects⟩ :=
    programs_and_sessions_behave_alike beforeTick afterTick alike runs
  exact ⟨alike, runs, reached, by rfl, effects .sample newcomer newcomerInvocation second,
    effects .imageReplaced newcomer newcomerInvocation second, by rfl, by rfl⟩

end SamplingProfiler.Kernel
