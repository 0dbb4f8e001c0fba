import SamplingProfiler.Proofs.BoundedMaps
import SamplingProfiler.Proofs.Exchanges
import SamplingProfiler.Proofs.StackCaptures
import SamplingProfiler.Session

/-!
# Ticks of a session

What a sampling interrupt does to the tables of a session. A tick of an eligible
task captures the wanted sides, builds the sample's key from the answers, and counts
the key: its counter is raised, or the key is written, or it is refused because the
table of counts is full. Every other tick leaves the counts and the stacks alone, and
so do the lifecycle probes.

The closed form is proved equal to the run of the decision, so that no later proof
opens the decision again.
-/

namespace SamplingProfiler
namespace Session

/-- Whether a tick is to be counted: the task has a process and can be read, is no
worker of the kernel, and the table says that frame pointers are followed. -/
def isEligible (session : Session) (task : Task) : Bool :=
  task.pid != 0 && task.hasTask &&
    task.flags.any (fun flags => flags &&& TaskFlags.kernelThread == 0) &&
    (session.policies.get? task.pid).any fun policy => policy.kind? == some .framePointers

/-- Capture a side of a task's stack if it is wanted. -/
def captureSide (session : Session) (task : Task) (wanted : Bool) (flags : UInt64) :
    Int × Session :=
  if wanted then
    (Sampler.collectedStack (session.captureStack task flags).1,
      (session.captureStack task flags).2)
  else (SampleKey.notCollected, session)

/-- The session after the kernel's side of a tick was captured. -/
def afterKernelSide (session : Session) (task : Task) (policy : Policy) : Session :=
  (session.captureSide task policy.collectsKernel StackFlags.kernelSide).2

/-- The session after both sides of a tick were captured. -/
def afterCaptures (session : Session) (task : Task) (policy : Policy) : Session :=
  ((session.afterKernelSide task policy).captureSide task policy.collectsUser
    StackFlags.userSide).2

/-- The key under which a tick is counted. -/
def tickKey (session : Session) (task : Task) (policy : Policy) : SampleKey where
  pid := task.pid
  flags := 0
  kernelStack := (session.captureSide task policy.collectsKernel StackFlags.kernelSide).1
  userStack := ((session.afterKernelSide task policy).captureSide task policy.collectsUser
    StackFlags.userSide).1

/-- Count a key once: raise its counter, or write it. -/
def countKey (session : Session) (key : SampleKey) : Outcome × Session :=
  match session.increment key with
  | (true, raised) => (.sampleCounted, raised)
  | (false, unraised) =>
    match unraised.insertCount key 1 UpdateFlags.onlyNew with
    | (.ok (), written) => (.sampleNewKey, written)
    | (.error _, refused) => (.sampleKeyRace, refused)

/-- Capture the sides of a tick and count its key. -/
def countTick (session : Session) (task : Task) (policy : Policy) : Outcome × Session :=
  (session.afterCaptures task policy).countKey (session.tickKey task policy)

/-- What collections read and change is the same in both sessions. -/
structure SameProfile (before after : Session) : Prop where
  options : after.options = before.options
  rounds : after.rounds = before.rounds
  counts : after.counts = before.counts
  stackStore : after.stackStore = before.stackStore

/-- Exactly the eligible ticks pass every test of the decision, up to the policy that
makes them count. -/
theorem isEligible_iff (session : Session) (task : Task) :
    session.isEligible task = true ↔
      Sampler.refusal? task.toSubject = none ∧
        ∃ policy, session.policies.get? task.pid = some policy ∧
          policy.kind? = some .framePointers := by
  simp only [isEligible, Bool.and_eq_true, bne_iff_ne, ne_eq, Sampler.refusal?_eq_none_iff,
    Option.any_eq_true, beq_iff_eq, and_assoc]

/-- Capturing a side is answered by the session's stack store. -/
theorem run_captureSide (session : Session) (task : Task) (wanted : Bool) (flags : UInt64) :
    (Sampler.captureSide wanted flags).run (answer task) session =
      session.captureSide task wanted flags := by
  cases wanted <;> rfl

/-- Raising the count of a key, or writing it where it is absent, counts it once. -/
theorem run_countKey (session : Session) (task : Task) (key : SampleKey) :
    (do
      if ← Sampler.increment key then
        return .sampleCounted
      match ← Sampler.insertCount key 1 with
      | .ok () => return .sampleNewKey
      | .error _ => return .sampleKeyRace : Sampler.Decision Outcome).run (answer task) session =
        session.countKey key := by
  rcases counted : session.increment key with ⟨found, raised⟩
  rcases written : raised.insertCount key 1 UpdateFlags.onlyNew with ⟨result, last⟩
  simp only [Sampler.increment, Sampler.insertCount, Dialogue.request_bind, Dialogue.run_ask,
    answer, countKey, counted]
  cases found with
  | true => simp
  | false => cases result <;> simp [answer, written, numbered]

/-- Counting a sample captures the sides, builds the key and counts it. -/
theorem run_countSample (session : Session) (task : Task) (policy : Policy) :
    (Sampler.countSample task.pid policy).run (answer task) session =
      session.countTick task policy := by
  simp only [Sampler.countSample, Dialogue.run_bind, run_captureSide]
  exact run_countKey _ task (session.tickKey task policy)

/-- What a tick does, before its outcome is recorded. It is refused, or it writes and announces
a process that was absent, or it does what the policy of its process says. -/
inductive Ticked (session : Session) (task : Task) : Outcome → Session → Prop where
  | refused (outcome : Outcome) (reason : Sampler.refusal? task.toSubject = some outcome) :
      Ticked session task outcome session
  | newProcess (admitted : Sampler.refusal? task.toSubject = none)
      (absent : session.policies.get? task.pid = none)
      (room : ¬ session.policies.capacity ≤ session.policies.count) :
      Ticked session task .newProcess { session with
        policies := { session.policies with
          entries := session.policies.entries.set task.pid Policy.undecided
          count := session.policies.count + 1 }
        notices := session.notices.send task.cpu (.ofKind .firstSeen task.pid) }
  | processesFull (admitted : Sampler.refusal? task.toSubject = none)
      (absent : session.policies.get? task.pid = none)
      (full : session.policies.capacity ≤ session.policies.count) :
      Ticked session task .processesFull session
  | unprofiled (policy : Policy) (outcome : Outcome)
      (admitted : Sampler.refusal? task.toSubject = none)
      (known : session.policies.get? task.pid = some policy)
      (reason : policy.kind? = none ∧ outcome = .policyInvalid ∨
        policy.kind? = some .unknown ∧ outcome = .policyUnknown ∨
        policy.kind? = some .error ∧ outcome = .policyError) :
      Ticked session task outcome session
  | handedOver (policy : Policy) (unwinder : String)
      (admitted : Sampler.refusal? task.toSubject = none)
      (known : session.policies.get? task.pid = some policy)
      (kind : policy.kind? = some .python)
      (found : session.unwinders.find Limits.pythonSlot = .ok unwinder) :
      Ticked session task .tailCall
        { session with handovers := session.handovers ++ [⟨unwinder, task.pid⟩] }
  | notHandedOver (policy : Policy) (refusal : TableError)
      (admitted : Sampler.refusal? task.toSubject = none)
      (known : session.policies.get? task.pid = some policy)
      (kind : policy.kind? = some .python)
      (missing : session.unwinders.find Limits.pythonSlot = .error refusal) :
      Ticked session task .tailCallMissing session
  | counted (policy : Policy) (admitted : Sampler.refusal? task.toSubject = none)
      (known : session.policies.get? task.pid = some policy)
      (kind : policy.kind? = some .framePointers) :
      Ticked session task (session.countTick task policy).1 (session.countTick task policy).2

/-- A process that was not found is written and announced where there is room for it. -/
theorem run_reportNewProcess (session : Session) (task : Task)
    (admitted : Sampler.refusal? task.toSubject = none)
    (absent : session.policies.get? task.pid = none) :
    Ticked session task ((Sampler.reportNewProcess task.pid).run (answer task) session).1
      ((Sampler.reportNewProcess task.pid).run (answer task) session).2 := by
  simp only [Sampler.reportNewProcess, Sampler.insertPolicy, Dialogue.request_bind,
    Dialogue.run_ask, answer, insertPolicy, BoundedMap.insert_onlyNew, absent, Option.isSome_none,
    Bool.false_eq_true, if_false]
  by_cases full : session.policies.capacity ≤ session.policies.count
  · simp only [full, if_true]
    exact .processesFull admitted absent full
  · simp only [full, if_false]
    exact .newProcess admitted absent full

/-- A policy that was found is followed. -/
theorem run_followPolicy (session : Session) (task : Task) (policy : Policy)
    (admitted : Sampler.refusal? task.toSubject = none)
    (known : session.policies.get? task.pid = some policy) :
    Ticked session task ((Sampler.followPolicy task.pid policy).run (answer task) session).1
      ((Sampler.followPolicy task.pid policy).run (answer task) session).2 := by
  simp only [Sampler.followPolicy]
  cases kind : policy.kind? with
  | none => exact .unprofiled policy _ admitted known (.inl ⟨kind, rfl⟩)
  | some named =>
    cases named with
    | unknown => exact .unprofiled policy _ admitted known (.inr (.inl ⟨kind, rfl⟩))
    | error => exact .unprofiled policy _ admitted known (.inr (.inr ⟨kind, rfl⟩))
    | framePointers =>
      simp only [run_countSample]
      exact .counted policy admitted known kind
    | python =>
      simp only [Sampler.tailCall, Dialogue.request_bind, Dialogue.run_ask, answer, handOver]
      cases found : session.unwinders.find Limits.pythonSlot with
      | ok unwinder => exact .handedOver policy unwinder admitted known kind found
      | error refusal => exact .notHandedOver policy refusal admitted known kind found

/-- Every tick does one of these things, and then its outcome is recorded.

The cases are those of the decision: a task that is refused, a process that is new, and a
process with a policy. -/
theorem sample_ticked (session : Session) (task : Task) :
    ∃ next, (session.sample task).2 = next.record (session.sample task).1 ∧
      Ticked session task (session.sample task).1 next := by
  refine ⟨((Sampler.sample task.toSubject).run (answer task) session).2, rfl, ?_⟩
  simp only [sample, decide, Sampler.sample]
  cases refused : Sampler.refusal? task.toSubject with
  | some outcome => exact .refused outcome refused
  | none =>
    simp only [Sampler.findPolicy, Dialogue.request_bind, Dialogue.run_ask, answer]
    cases known : session.policies.get? task.pid with
    | none => exact run_reportNewProcess session task refused known
    | some policy => exact run_followPolicy session task policy refused known

/-- A tick that is refused only has its outcome recorded. -/
theorem sample_refused (session : Session) (task : Task) (outcome : Outcome)
    (refused : Sampler.refusal? task.toSubject = some outcome) :
    session.sample task = (outcome, session.record outcome) := by
  simp only [sample, decide, Sampler.sample, refused, Dialogue.pure_eq_done, Dialogue.run_done]

/-- A tick that follows frame pointers captures the sides and counts its key. -/
theorem sample_counting (session : Session) (task : Task) (policy : Policy)
    (admitted : Sampler.refusal? task.toSubject = none)
    (known : session.policies.get? task.pid = some policy)
    (kind : policy.kind? = some .framePointers) :
    session.sample task =
      ((session.countTick task policy).1,
        (session.countTick task policy).2.record (session.countTick task policy).1) := by
  have followed : (Sampler.sample task.toSubject).run (answer task) session =
      (Sampler.countSample task.pid policy).run (answer task) session := by
    simp only [Sampler.sample, admitted, Sampler.findPolicy, Dialogue.request_bind,
      Dialogue.run_ask, answer, known, Sampler.followPolicy, kind]
  simp only [sample, decide, followed, run_countSample]

/-- A tick that is not eligible changes neither counts nor stacks, and its outcome
does not speak of a key. -/
theorem sample_uncounted (session : Session) (task : Task)
    (ineligible : session.isEligible task = false) :
    session.SameProfile (session.sample task).2 ∧
      Sampler.concernsKey (session.sample task).1 = false := by
  have uncounted : ¬ (session.isEligible task = true) := by simp [ineligible]
  rw [isEligible_iff] at uncounted
  obtain ⟨next, recorded, ticked⟩ := session.sample_ticked task
  rw [recorded]
  generalize (session.sample task).1 = outcome at ticked
  cases ticked with
  | refused _ reason =>
    exact ⟨⟨rfl, rfl, rfl, rfl⟩, Sampler.refusal_unconcerned task.toSubject outcome reason⟩
  | newProcess => exact ⟨⟨rfl, rfl, rfl, rfl⟩, rfl⟩
  | processesFull => exact ⟨⟨rfl, rfl, rfl, rfl⟩, rfl⟩
  | unprofiled policy _ admitted known reason =>
    refine ⟨⟨rfl, rfl, rfl, rfl⟩, ?_⟩
    obtain ⟨-, rfl⟩ | ⟨-, rfl⟩ | ⟨-, rfl⟩ := reason <;> rfl
  | handedOver => exact ⟨⟨rfl, rfl, rfl, rfl⟩, rfl⟩
  | notHandedOver => exact ⟨⟨rfl, rfl, rfl, rfl⟩, rfl⟩
  | counted policy admitted known kind => exact absurd ⟨admitted, policy, known, kind⟩ uncounted

/-- What no call changes, running a decision does not change. -/
theorem run_keeps {Kept : Type} (read : Session → Kept) (task : Task)
    (kept : ∀ call session, read (answer task call session).2 = read session)
    (session : Session) (decision : Sampler.Decision Outcome) :
    read (decision.run (answer task) session).2 = read session := by
  induction decision generalizing session with
  | done outcome => rfl
  | ask call resume inductionHypothesis =>
    rw [Dialogue.run_ask, inductionHypothesis, kept]

/-- Running a decision changes neither the options nor the unwinders, and counts neither an
outcome nor a round. -/
theorem run_frame (session : Session) (task : Task) (decision : Sampler.Decision Outcome) :
    let last := (decision.run (answer task) session).2
    last.options = session.options ∧ last.unwinders = session.unwinders ∧
      last.tally = session.tally ∧ last.rounds = session.rounds := by
  have answered (call : Sampler.Call) (current : Session) :
      let next := (answer task call current).2
      (next.options, next.unwinders, next.tally, next.rounds) =
        (current.options, current.unwinders, current.tally, current.rounds) := by
    cases call with
    | tailCall slot =>
      simp only [answer, handOver]
      cases current.unwinders.find slot <;> rfl
    | _ => rfl
  have kept := run_keeps
    (fun current => (current.options, current.unwinders, current.tally, current.rounds)) task
    answered session decision
  simpa only [Prod.mk.injEq] using kept

/-- A probe that reports a task sends one notice, if the task has a process. -/
theorem report_eq (session : Session) (task : Task) (kind : NoticeKind) (outcome : Outcome) :
    session.decide task (Sampler.report task.toSubject kind outcome) =
      if task.pid = 0 then (.lifecycleNoProcess, session.record .lifecycleNoProcess)
      else (outcome, { session with
        notices := session.notices.send task.cpu (.ofKind kind task.pid) }.record outcome) := by
  simp only [decide, Sampler.report]
  by_cases idle : task.pid = 0 <;> simp only [idle, if_true, if_false] <;> rfl

/-- A probe that reports a task sends at most a notice. -/
theorem report_sameProfile (session : Session) (task : Task) (kind : NoticeKind)
    (outcome : Outcome) :
    session.SameProfile (session.decide task (Sampler.report task.toSubject kind outcome)).2 := by
  rw [report_eq]
  split <;> exact ⟨rfl, rfl, rfl, rfl⟩

/-- The lifecycle probes change neither counts nor stacks. -/
theorem terminalReleased_sameProfile (session : Session) (task : Task) (onExit : Bool) :
    session.SameProfile (session.terminalReleased task onExit).2 := by
  cases onExit with
  | false => exact ⟨rfl, rfl, rfl, rfl⟩
  | true => exact session.report_sameProfile task .exited .processExited

/-- The lifecycle probes change neither counts nor stacks. -/
theorem imageReplaced_sameProfile (session : Session) (task : Task) :
    session.SameProfile (session.imageReplaced task).2 :=
  session.report_sameProfile task .replaced .imageReplaced

/-- What counting a key once does to the table of counts. -/
inductive KeyCounted (counts : BoundedMap SampleKey UInt32) (key : SampleKey) :
    Outcome → BoundedMap SampleKey UInt32 → Prop where
  | raised (count : UInt32) (present : counts.get? key = some count) :
      KeyCounted counts key .sampleCounted
        { counts with entries := counts.entries.set key (count + 1) }
  | written (absent : counts.get? key = none) (room : counts.entries.size < counts.capacity.toNat) :
      KeyCounted counts key .sampleNewKey
        { counts with entries := counts.entries.set key 1, count := counts.count + 1 }
  | refused (absent : counts.get? key = none) (full : counts.entries.size = counts.capacity.toNat) :
      KeyCounted counts key .sampleKeyRace counts

/-- Counting a key raises it where it is present. Elsewhere it is written, unless the counter
of the table says that there is no room. -/
theorem countKey_eq (session : Session) (key : SampleKey) :
    session.countKey key =
      match session.counts.get? key with
      | some count => (.sampleCounted, { session with
          counts.entries := session.counts.entries.set key (count + 1) })
      | none =>
        if session.counts.capacity ≤ session.counts.count then (.sampleKeyRace, session)
        else (.sampleNewKey, { session with
          counts.entries := session.counts.entries.set key 1
          counts.count := session.counts.count + 1 }) := by
  simp only [countKey, increment, BoundedMap.update]
  cases present : session.counts.get? key with
  | some count => rfl
  | none =>
    simp only [insertCount, BoundedMap.insert_onlyNew, present, Option.isSome_none,
      Bool.false_eq_true, if_false]
    by_cases full : session.counts.capacity ≤ session.counts.count <;> simp [full]

/-- Counting a key once raises it if it is there, and else writes it where there is
room for it. -/
theorem countKey_counted (session : Session) (consistent : session.counts.Consistent)
    (key : SampleKey) :
    KeyCounted session.counts key (session.countKey key).1 (session.countKey key).2.counts := by
  rw [countKey_eq]
  cases present : session.counts.get? key with
  | some count => exact .raised count present
  | none =>
    by_cases full : session.counts.capacity ≤ session.counts.count
    · simp only [full, if_true]
      exact .refused present (consistent.full_iff.mp full)
    · simp only [full, if_false]
      have unfilled := mt consistent.full_iff.mpr full
      have bounded := consistent.bounded
      exact .written present (by omega)

/-- Counting a key touches nothing but the table of counts. -/
theorem countKey_frame (session : Session) (key : SampleKey) :
    (session.countKey key).2 =
      { session with counts := (session.countKey key).2.counts } := by
  rw [countKey_eq]
  cases session.counts.get? key with
  | some count => rfl
  | none =>
    dsimp only
    split <;> rfl

/-- Counting a key keeps the counter of the table right. -/
theorem KeyCounted.consistent {counts next : BoundedMap SampleKey UInt32} {key : SampleKey}
    {outcome : Outcome} (counted : KeyCounted counts key outcome next)
    (consistent : counts.Consistent) : next.Consistent := by
  cases counted with
  | raised count present =>
    have updated := counts.consistent_update consistent key (· + 1)
    simpa only [BoundedMap.update, present] using updated
  | written absent room =>
    have inserted := counts.consistent_insert consistent key 1 UpdateFlags.onlyNew
    have unfilled : ¬ counts.capacity ≤ counts.count := by
      rw [consistent.full_iff]
      omega
    simpa only [BoundedMap.insert_onlyNew, absent, Option.isSome_none, Bool.false_eq_true,
      if_false, unfilled] using inserted
  | refused => exact consistent

/-- A side of a tick: it is not wanted, its capture is refused, or its capture gives
an id. -/
inductive SideTaken (wanted : Bool) (store : StackStore) (frames : List UInt64) :
    Int → StackStore → Prop where
  | unwanted (skipped : wanted = false) :
      SideTaken wanted store frames SampleKey.notCollected store
  | refused (reason : store.Refuses frames) :
      SideTaken wanted store frames SampleKey.notCollected store
  | collected (id : Int) (next : StackStore) (stored : 0 ≤ id)
      (captured : store.Captured frames id next) : SideTaken wanted store frames id next

/-- A capture that is refused leaves its side uncollected. -/
theorem sideTaken_of_captured {store next : StackStore} {frames : List UInt64} {number : Int}
    (wanted : Bool) (captured : store.Captured frames number next) :
    SideTaken wanted store frames (Sampler.collectedStack number) next := by
  by_cases negative : number < 0
  · simp only [Sampler.collectedStack, negative, if_true]
    cases captured with
    | refused _ _ reason => exact .refused reason
    | shared => omega
    | filled => omega
  · simp only [Sampler.collectedStack, negative, if_false]
    exact .collected number next (by omega) captured

/-- The kernel's side of a tick, wanted or not. -/
theorem captureSide_kernel (session : Session) (task : Task) (wanted : Bool) :
    SideTaken wanted session.stackStore task.kernelStack
      (session.captureSide task wanted StackFlags.kernelSide).1
      (session.captureSide task wanted StackFlags.kernelSide).2.stackStore := by
  cases wanted with
  | false => exact .unwanted rfl
  | true => exact sideTaken_of_captured true (session.stackStore.capture_kernelSide _ _)

/-- The side of user space of a tick, wanted or not. -/
theorem captureSide_user (session : Session) (task : Task) (wanted : Bool) :
    SideTaken wanted session.stackStore task.userStack
      (session.captureSide task wanted StackFlags.userSide).1
      (session.captureSide task wanted StackFlags.userSide).2.stackStore := by
  cases wanted with
  | false => exact .unwanted rfl
  | true => exact sideTaken_of_captured true (session.stackStore.capture_userSide _ _)

/-- Capturing a side touches nothing but the stack store. -/
theorem captureSide_frame (session : Session) (task : Task) (wanted : Bool) (flags : UInt64) :
    (session.captureSide task wanted flags).2 =
      { session with stackStore := (session.captureSide task wanted flags).2.stackStore } := by
  cases wanted <;> rfl

/-- Capturing both sides touches nothing but the stack store. -/
theorem afterCaptures_frame (session : Session) (task : Task) (policy : Policy) :
    session.afterCaptures task policy =
      { session with stackStore := (session.afterCaptures task policy).stackStore } := by
  rw [afterCaptures, captureSide_frame, afterKernelSide, captureSide_frame]

end Session
end SamplingProfiler
