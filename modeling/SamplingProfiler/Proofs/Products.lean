import Mathlib.Logic.ExistsUnique
import SamplingProfiler.Proofs.NoticeQueues
import SamplingProfiler.Proofs.Ticks

/-!
# What a call produces

Every call of an entry point ends with an outcome, and some outcomes are errors. An outcome
that is no error stands for exactly one product: a count that was raised, a count that was
written, a process that was written and announced, a sample that was handed over, or a notice
about the life of a process. An error stands for nothing. The one exception is a sample that is
dropped at the very end, when its stacks have been captured already.

Nothing is assumed of the session: its tables may hold anything, and their counters may be
wrong.
-/

namespace SamplingProfiler

/-- What a call of an entry point can produce. -/
inductive Product where
  /-- The count of a key went up by one, modulo 2 ^ 32. -/
  | raisedCount
  /-- A key that was absent was written with the count one. -/
  | newCount
  /-- A process that was absent was written as undecided, and announced. -/
  | newProcess
  /-- The sample was handed over to the unwinder in its slot. -/
  | handover
  /-- A notice about the life of the process was sent. -/
  | lifecycleNotice
deriving DecidableEq, Repr

/-- Writing another value than the present one changes a table. -/
theorem Entries.set_ne_self {Key Value : Type} [DecidableEq Key] (entries : Entries Key Value)
    (key : Key) (value : Value) (other : entries.lookup key ≠ some value) :
    entries.set key value ≠ entries := by
  intro same
  have found := entries.lookup_set key key value
  rw [same, if_pos rfl] at found
  exact other found

/-- A table to which a key was added is another one. -/
theorem BoundedMap.grown_ne {Key Value : Type} (map : BoundedMap Key Value)
    (entries : Entries Key Value) :
    { map with entries := entries, count := map.count + 1 } ≠ map := by
  intro same
  simpa using congrArg BoundedMap.count same

namespace Session

/-- A session is another one in which the call of an entry point for a task has produced
something, and in which nothing else has changed. The stacks of a counted sample are captured
as well. A notice is in the queue of the task's processor, or counted as lost there. -/
def Produces (session : Session) (task : Task) (next : Session) : Product → Prop
  | .raisedCount => ∃ policy count,
      session.policies.get? task.pid = some policy ∧ policy.kind? = some .framePointers ∧
        session.counts.get? (session.tickKey task policy) = some count ∧
        next = { session with
          stackStore := (session.afterCaptures task policy).stackStore
          counts.entries :=
            session.counts.entries.set (session.tickKey task policy) (count + 1) }
  | .newCount => ∃ policy,
      session.policies.get? task.pid = some policy ∧ policy.kind? = some .framePointers ∧
        session.counts.get? (session.tickKey task policy) = none ∧
        next = { session with
          stackStore := (session.afterCaptures task policy).stackStore
          counts.entries := session.counts.entries.set (session.tickKey task policy) 1
          counts.count := session.counts.count + 1 }
  | .newProcess => ∃ notices, session.policies.get? task.pid = none ∧
      session.notices.Posted task.cpu ⟨NoticeKind.firstSeen.code, task.pid⟩ notices ∧
      next = { session with
        policies.entries := session.policies.entries.set task.pid Policy.undecided
        policies.count := session.policies.count + 1
        notices }
  | .handover => ∃ unwinder, session.unwinders.find Limits.pythonSlot = .ok unwinder ∧
      next = { session with handovers := session.handovers ++ [⟨unwinder, task.pid⟩] }
  | .lifecycleNotice => ∃ kind notices, (kind = NoticeKind.exited ∨ kind = NoticeKind.replaced) ∧
      session.notices.Posted task.cpu ⟨kind.code, task.pid⟩ notices ∧
      next = { session with notices }

/-- An outcome classifies what its call did. An error changed nothing but the tally, except
that the stacks of a dropped sample were captured. Every other outcome stands for exactly one
product. -/
structure Classified (session : Session) (task : Task) (ended : Outcome × Session) : Prop where
  failed : ended.1.isError = true →
    ended.2 = session.record ended.1 ∨
      ended.1 = .sampleKeyRace ∧ ∃ policy, session.policies.get? task.pid = some policy ∧
        ended.2 = { session with
          stackStore := (session.afterCaptures task policy).stackStore }.record ended.1
  produced : ended.1.isError = false →
    ∃ next, ended.2 = next.record ended.1 ∧ ∃! product, Produces session task next product

variable {session next : Session} {task : Task}

/-- Products are told apart by the tables that they change, and the two that change counts by
whether a key was added. -/
theorem Produces.changes {product : Product} (produces : Produces session task next product) :
    (next.counts = session.counts ↔ product ≠ .raisedCount ∧ product ≠ .newCount) ∧
      (next.counts.count = session.counts.count ↔ product ≠ .newCount) ∧
      (next.policies = session.policies ↔ product ≠ .newProcess) ∧
      (next.handovers = session.handovers ↔ product ≠ .handover) := by
  cases product with
  | raisedCount =>
    obtain ⟨policy, count, -, -, present, rfl⟩ := produces
    have grown : count + 1 ≠ count := by simp
    have raised : session.counts.entries.set (session.tickKey task policy) (count + 1) ≠
        session.counts.entries := by
      apply Entries.set_ne_self
      intro same
      exact grown (Option.some.inj (same.symm.trans present))
    have changed : { session.counts with
        entries := session.counts.entries.set (session.tickKey task policy) (count + 1) } ≠
          session.counts := fun same => raised (congrArg BoundedMap.entries same)
    simpa using changed
  | newCount =>
    obtain ⟨policy, -, -, absent, rfl⟩ := produces
    simp [BoundedMap.grown_ne]
  | newProcess =>
    obtain ⟨notices, absent, posted, rfl⟩ := produces
    simp [BoundedMap.grown_ne]
  | handover =>
    obtain ⟨unwinder, -, rfl⟩ := produces
    simp
  | lifecycleNotice =>
    obtain ⟨kind, notices, -, posted, rfl⟩ := produces
    simp

/-- No change of a session is two products. -/
theorem Produces.unique {product other : Product} (produces : Produces session task next product)
    (likewise : Produces session task next other) : other = product := by
  have first := produces.changes
  have second := likewise.changes
  cases product <;> cases other <;> simp_all

/-- A call that produced something and did not fail is classified. -/
theorem classified_of_produces {outcome : Outcome} (product : Product)
    (right : outcome.isError = false) (produces : Produces session task next product) :
    Classified session task (outcome, next.record outcome) where
  failed wrong := absurd wrong (by simp [right])
  produced _ := ⟨next, rfl, product, produces, fun _ likewise => produces.unique likewise⟩

/-- A call that changed nothing and failed is classified. -/
theorem classified_of_unchanged {outcome : Outcome} (wrong : outcome.isError = true) :
    Classified session task (outcome, session.record outcome) where
  failed _ := .inl rfl
  produced right := absurd wrong (by simp [right])

/-- Counting a sample captures its stacks. Then it raises the count of a key that is present,
or writes a key that is absent, unless the counter of the table says that there is no room. -/
theorem countTick_eq (session : Session) (task : Task) (policy : Policy) :
    session.countTick task policy =
      match session.counts.get? (session.tickKey task policy) with
      | some count => (.sampleCounted, { session with
          stackStore := (session.afterCaptures task policy).stackStore
          counts.entries :=
            session.counts.entries.set (session.tickKey task policy) (count + 1) })
      | none =>
        if session.counts.capacity ≤ session.counts.count then
          (.sampleKeyRace,
            { session with stackStore := (session.afterCaptures task policy).stackStore })
        else (.sampleNewKey, { session with
          stackStore := (session.afterCaptures task policy).stackStore
          counts.entries := session.counts.entries.set (session.tickKey task policy) 1
          counts.count := session.counts.count + 1 }) := by
  have counted := (session.afterCaptures task policy).countKey_eq (session.tickKey task policy)
  rw [afterCaptures_frame] at counted
  rw [countTick, afterCaptures_frame]
  exact counted

/-- A sample that is counted is classified. -/
theorem countTick_classified (policy : Policy)
    (known : session.policies.get? task.pid = some policy)
    (kind : policy.kind? = some .framePointers) :
    Classified session task ((session.countTick task policy).1,
      (session.countTick task policy).2.record (session.countTick task policy).1) := by
  rw [countTick_eq]
  cases present : session.counts.get? (session.tickKey task policy) with
  | some count =>
    exact classified_of_produces .raisedCount rfl
      ⟨policy, count, known, kind, present, rfl⟩
  | none =>
    by_cases full : session.counts.capacity ≤ session.counts.count
    · simp only [full, if_true]
      exact ⟨fun _ => .inr ⟨rfl, policy, known, rfl⟩, nofun⟩
    · simp only [full, if_false]
      exact classified_of_produces .newCount rfl ⟨policy, known, kind, present, rfl⟩

/-- Every reason not to sample a task is an error. -/
theorem refusal_isError {outcome : Outcome}
    (refused : Sampler.refusal? task.toSubject = some outcome) : outcome.isError = true := by
  have wrong : ∀ refusal ∈ Sampler.refusals, refusal.isError = true := by decide
  exact wrong outcome (Sampler.refusal_mem task.toSubject outcome refused)

/-- A tick is classified, whatever it does. -/
theorem sample_classified (session : Session) (task : Task) :
    Classified session task (session.sample task) := by
  obtain ⟨next, recorded, ticked⟩ := session.sample_ticked task
  have ended : session.sample task =
      ((session.sample task).1, next.record (session.sample task).1) :=
    Prod.ext rfl recorded
  rw [ended]
  generalize (session.sample task).1 = outcome at ticked
  cases ticked with
  | refused _ reason => exact classified_of_unchanged (refusal_isError reason)
  | newProcess admitted absent room =>
    exact classified_of_produces .newProcess rfl
      ⟨_, absent, session.notices.posted_send task.cpu _, rfl⟩
  | processesFull => exact classified_of_unchanged rfl
  | unprofiled policy _ admitted known reason =>
    obtain ⟨-, rfl⟩ | ⟨-, rfl⟩ | ⟨-, rfl⟩ := reason <;> exact classified_of_unchanged rfl
  | handedOver policy unwinder admitted known kind found =>
    exact classified_of_produces .handover rfl ⟨unwinder, found, rfl⟩
  | notHandedOver => exact classified_of_unchanged rfl
  | counted policy admitted known kind => exact countTick_classified policy known kind

/-- A probe that reports a task is classified. -/
theorem report_classified (session : Session) (task : Task) {kind : NoticeKind}
    {outcome : Outcome} (lifecycle : kind = .exited ∨ kind = .replaced)
    (right : outcome.isError = false) :
    Classified session task
      (session.decide task (Sampler.report task.toSubject kind outcome)) := by
  rw [report_eq]
  split
  · exact classified_of_unchanged rfl
  · exact classified_of_produces .lifecycleNotice right
      ⟨kind, _, lifecycle, session.notices.posted_send task.cpu _, rfl⟩

/-- A worker thread of the kernel is refused, whatever else it is refused for. -/
theorem refused_of_kernelThread {task : Task} {flags : UInt32} (given : task.flags = some flags)
    (worker : flags &&& TaskFlags.kernelThread ≠ 0) :
    ∃ outcome, Sampler.refusal? task.toSubject = some outcome := by
  rw [← Option.ne_none_iff_exists']
  intro admitted
  obtain ⟨-, -, unforced⟩ := (Sampler.refusal?_eq_none_iff _).mp admitted
  have idle : flags &&& TaskFlags.kernelThread = 0 := by simpa [given] using unforced
  exact worker idle

/-- Whether an outcome is an error says exactly whether its call produced something. In any
session and for any task, a call of an entry point that ends with an error changed nothing but
the tally, and the stack store only if a sample was dropped at the very end. A call that ends
otherwise did exactly one thing, and nothing else but to capture the stacks of a counted sample.
Nothing ever comes of a worker thread of the kernel, whatever the tables say of it. -/
theorem isError_classifies_effects (session : Session) (task : Task) :
    Classified session task (session.sample task) ∧
      (∀ onExit, Classified session task (session.terminalReleased task onExit)) ∧
      Classified session task (session.imageReplaced task) ∧
      ((∃ flags, task.flags = some flags ∧ flags &&& TaskFlags.kernelThread ≠ 0) →
        (session.sample task).1.isError = true ∧
          (session.sample task).2 = session.record (session.sample task).1) := by
  refine ⟨session.sample_classified task, ?_, session.report_classified task (.inr rfl) rfl, ?_⟩
  · intro onExit
    cases onExit with
    | false => exact classified_of_unchanged rfl
    | true => exact session.report_classified task (.inl rfl) rfl
  · rintro ⟨flags, given, worker⟩
    obtain ⟨outcome, refused⟩ := refused_of_kernelThread given worker
    rw [session.sample_refused task outcome refused]
    exact ⟨refusal_isError refused, rfl⟩

end Session
end SamplingProfiler
