import SamplingProfiler.Proofs.Announcements
import SamplingProfiler.Proofs.OutcomeEffects
import SamplingProfiler.Proofs.Runs
import SamplingProfiler.Proofs.TendedTables

/-!
# Sightings

The entry points of a session only ever add processes to the table, each as undecided, and
each is announced once. Three things are tied together here that come from separate calls:
what the table gained, how the calls ended, and which notices were sent. A notice counts as
sent when the decision sends it, whatever its queue makes of it.

Between two announcements of one process somebody else has removed it from the table.
-/

namespace SamplingProfiler
namespace SessionEvent

/-- The task and the decision of an entry point. -/
def decision? : SessionEvent → Option (Task × Sampler.Decision Outcome)
  | .sampled task => some (task, Sampler.sample task.toSubject)
  | .terminalReleased task onExit => some (task, Sampler.terminalReleased task.toSubject onExit)
  | .imageReplaced task => some (task, Sampler.imageReplaced task.toSubject)
  | _ => none

/-- An entry point is called. -/
def isEntryPoint (event : SessionEvent) : Bool :=
  event.decision?.isSome

/-- The outcomes of the entry points are truthful. -/
theorem truthful {event : SessionEvent} {task : Task} {decision : Sampler.Decision Outcome}
    (called : event.decision? = some (task, decision)) :
    decision.Along (Dialogue.Finally (Sampler.Truthful task.toSubject)) := by
  cases event with
  | sampled sampledTask =>
    cases called
    exact Sampler.sample_truthful _
  | terminalReleased leaving onExit =>
    cases called
    exact Sampler.terminalReleased_truthful _ onExit
  | imageReplaced renewed =>
    cases called
    exact Sampler.imageReplaced_truthful _
  | collected => cases called
  | policiesChanged change => cases called
  | noticesChanged change => cases called
  | unwindersChanged change => cases called

end SessionEvent

namespace Session

/-- The notices that an event sends, each with the processor from which it is sent. -/
def sentAt (session : Session) (event : SessionEvent) : List (UInt32 × Notice) :=
  match event.decision? with
  | some (task, decision) =>
    ((decision.exchanges (answer task) session).filterMap Sampler.sent?).map (task.cpu, ·)
  | none => []

/-- The process of an event that ends with a new process. -/
def newcomersAt (session : Session) (event : SessionEvent) : List UInt32 :=
  match event.decision? with
  | some (task, decision) =>
    if (session.decide task decision).1 = .newProcess then [task.pid] else []
  | none => []

/-- The notices that a run sends. -/
def sent (session : Session) (events : List SessionEvent) : List (UInt32 × Notice) :=
  session.gathered sentAt events

/-- The processes of the events of a run that end with a new process. -/
def newcomers (session : Session) (events : List SessionEvent) : List UInt32 :=
  session.gathered newcomersAt events

/-- The processes that notices say were seen for the first time. -/
def announced (sent : List (UInt32 × Notice)) : List UInt32 :=
  sent.filterMap fun (_, notice) =>
    if notice.kind? = some .firstSeen then some notice.pid else none

/-- Queue a notice that was sent from a processor. -/
def post (notices : NoticeBuffers) (sent : UInt32 × Notice) : NoticeBuffers :=
  notices.send sent.1 sent.2

/-- Running a decision queues the notices that it sends, and changes no queue otherwise.

Induct over the calls. -/
theorem notices_run (session : Session) (task : Task) (decision : Sampler.Decision Outcome) :
    (decision.run (answer task) session).2.notices =
      (((decision.exchanges (answer task) session).filterMap Sampler.sent?).map
        (task.cpu, ·)).foldl post session.notices := by
  induction decision generalizing session with
  | done outcome => rfl
  | ask call resume inductionHypothesis =>
    rw [Dialogue.run_ask, inductionHypothesis]
    cases call with
    | send notice => rfl
    | findPolicy pid => rfl
    | insertPolicy pid policy => rfl
    | captureStack flags => rfl
    | increment key => rfl
    | insertCount key count => rfl
    | tailCall slot =>
      simp only [answer, handOver, Dialogue.exchanges]
      cases session.unwinders.find slot <;> rfl

/-- An entry point queues the notices that it sends, and changes no queue otherwise. -/
theorem notices_step (session : Session) (event : SessionEvent)
    (entry : event.isEntryPoint = true) :
    (session.step event).notices = (session.sentAt event).foldl post session.notices := by
  cases event with
  | sampled task => exact session.notices_run task _
  | terminalReleased task onExit => exact session.notices_run task _
  | imageReplaced task => exact session.notices_run task _
  | collected => cases entry
  | policiesChanged change => cases entry
  | noticesChanged change => cases entry
  | unwindersChanged change => cases entry

/-- The table of processes is consistent, and as large as the options allow. -/
structure Sized (session : Session) : Prop where
  consistent : session.policies.Consistent
  capacity : session.policies.capacity = session.options.maxPids

/-- The table of a fresh session is as large as the options allow. -/
theorem sized_ofOptions (options : Options) (cpus : UInt32) : (ofOptions options cpus).Sized :=
  ⟨BoundedMap.consistent_ofCapacity _, rfl⟩

/-- Of a notice that its outcome speaks of, a decision announces a process exactly if it ends
with a new one. -/
theorem announced_spoken (cpu pid : UInt32) (outcome : Outcome) :
    announced (((outcome.noticeKind?.map fun kind => Notice.ofKind kind pid).toList).map
        (cpu, ·)) = if outcome = .newProcess then [pid] else [] := by
  cases outcome <;> rfl

/-- The processes that an event announces are those of calls that end with a new process. -/
theorem announced_sentAt (session : Session) (event : SessionEvent) :
    announced (session.sentAt event) = session.newcomersAt event := by
  unfold sentAt newcomersAt
  cases called : event.decision? with
  | none => rfl
  | some call =>
    obtain ⟨task, decision⟩ := call
    have sends := ((SessionEvent.truthful called).ended (answer task) session).sends
    simp only [decide, sends]
    exact announced_spoken task.cpu task.pid _

/-- A probe ends as it is told to, or finds no process. -/
theorem decide_report (session : Session) (task : Task) (kind : NoticeKind) (outcome : Outcome) :
    (session.decide task (Sampler.report task.toSubject kind outcome)).1 = outcome ∨
      (session.decide task (Sampler.report task.toSubject kind outcome)).1 =
        .lifecycleNoProcess :=
  (Sampler.report_ends task.toSubject kind outcome).ended (answer task) session

/-- A probe ends with no new process. -/
theorem report_known (session : Session) (task : Task) (kind : NoticeKind) (outcome : Outcome)
    (other : outcome ≠ .newProcess) :
    (session.decide task (Sampler.report task.toSubject kind outcome)).1 ≠ .newProcess := by
  rcases session.decide_report task kind outcome with given | idle
  · rwa [given]
  · simp [idle]

/-- A task that lets go of its terminal is no new process. -/
theorem terminalReleased_known (session : Session) (task : Task) (onExit : Bool) :
    session.newcomersAt (.terminalReleased task onExit) = [] := by
  cases onExit with
  | false => rfl
  | true => exact if_neg (session.report_known task .exited .processExited (by simp))

/-- A task that replaces its image is no new process. -/
theorem imageReplaced_known (session : Session) (task : Task) :
    session.newcomersAt (.imageReplaced task) = [] :=
  if_neg (session.report_known task .replaced .imageReplaced (by simp))

/-- The processes that a run announces are those of calls that end with a new process, in
the same order. -/
theorem announced_sent (session : Session) (events : List SessionEvent) :
    announced (session.sent events) = session.newcomers events := by
  induction events generalizing session with
  | nil => rfl
  | cons event rest inductionHypothesis =>
    have first := session.announced_sentAt event
    have remaining := inductionHypothesis (session.step event)
    simp only [announced, sent, newcomers, gathered, List.filterMap_append] at first remaining ⊢
    rw [first, remaining]

/-- What an event does to the table of processes, if it is not changed from elsewhere: it
writes one process that was absent, as undecided, or nothing. -/
inductive Sighted (session : Session) (event : SessionEvent) : Prop where
  | newcomer (pid : UInt32) (listed : session.newcomersAt event = [pid]) (named : pid ≠ 0)
      (absent : session.policies.get? pid = none)
      (accepted : (session.policies.insert pid Policy.undecided UpdateFlags.onlyNew).1 = .ok ())
      (written : (session.step event).policies =
        (session.policies.insert pid Policy.undecided UpdateFlags.onlyNew).2)
  | nobody (listed : session.newcomersAt event = [])
      (unwritten : (session.step event).policies = session.policies)

/-- The table of processes is not changed from elsewhere. -/
def Unmeddled (events : List SessionEvent) : Prop :=
  ∀ change, .policiesChanged change ∉ events

/-- The table is not changed from elsewhere by a run if it is not by its events. -/
theorem unmeddled_cons {event : SessionEvent} {rest : List SessionEvent} :
    Unmeddled (event :: rest) ↔
      (∀ change, event ≠ .policiesChanged change) ∧ Unmeddled rest := by
  simp only [Unmeddled, List.mem_cons, not_or, forall_and, ne_comm, ne_eq]

/-- Every event has one of these effects, unless it changes the table from elsewhere. -/
theorem sighted (session : Session) (event : SessionEvent)
    (other : ∀ change, event ≠ .policiesChanged change) : Sighted session event := by
  cases event with
  | sampled task =>
    have ended := (Sampler.sample_truthful task.toSubject).ended (answer task) session
    have happened := session.sample_announced task
    rcases reached : session.sample task with ⟨outcome, next⟩
    have outcome_eq : (session.decide task (Sampler.sample task.toSubject)).1 = outcome :=
      congrArg Prod.fst reached
    have next_eq : session.step (.sampled task) = next := congrArg Prod.snd reached
    rw [reached] at happened
    cases happened with
    | newProcess policies _ absent inserted written sent =>
      have spoken : ((Sampler.sample task.toSubject).run (answer task) session).1 = .newProcess :=
        outcome_eq
      have named : task.pid ≠ 0 := ended.named (by rw [spoken]; rfl)
      refine .newcomer task.pid (if_pos outcome_eq) named absent ?_ ?_
      · rw [inserted]
      · rw [next_eq, written, inserted]
    | silent _ _ known unwritten unsent =>
      refine .nobody (if_neg ?_) ?_
      · rwa [outcome_eq]
      · rw [next_eq, unwritten]
  | terminalReleased task onExit =>
    exact .nobody (session.terminalReleased_known task onExit)
      (session.terminalReleased_announced task onExit).1
  | imageReplaced task =>
    exact .nobody (session.imageReplaced_known task)
      (session.imageReplaced_announced task).1
  | collected => exact .nobody rfl session.collect_announced.1
  | policiesChanged change => exact absurd rfl (other change)
  | noticesChanged change => exact .nobody rfl rfl
  | unwindersChanged change => exact .nobody rfl rfl

section Table

variable {session : Session} {event : SessionEvent}

/-- An event adds the processes of calls that end with a new process, as undecided, and
leaves all others as they are. -/
theorem Sighted.get?_step (sighted : Sighted session event) (pid : UInt32) :
    (session.step event).policies.get? pid =
      if pid ∈ session.newcomersAt event then some Policy.undecided
      else session.policies.get? pid := by
  cases sighted with
  | newcomer first listed named absent accepted written =>
    rw [written, listed, session.policies.get?_insert_ok first pid _ _ accepted]
    simp only [List.mem_singleton]
  | nobody listed unwritten => simp [listed, unwritten]

/-- A process of a call that ends with a new process has a number and was absent. -/
theorem Sighted.absent (sighted : Sighted session event) {pid : UInt32}
    (newly : pid ∈ session.newcomersAt event) :
    pid ≠ 0 ∧ session.policies.get? pid = none := by
  cases sighted with
  | newcomer first listed named absent accepted written =>
    rw [listed, List.mem_singleton] at newly
    subst newly
    exact ⟨named, absent⟩
  | nobody listed unwritten => simp [listed] at newly

/-- An event leaves the table as large as the options allow. -/
theorem Sighted.sized (sighted : Sighted session event) (sized : session.Sized) :
    (session.step event).Sized := by
  cases sighted with
  | newcomer first listed named absent accepted written =>
    constructor
    · rw [written]
      exact session.policies.consistent_insert sized.consistent _ _ _
    · rw [written, options_step]
      exact (session.policies.capacity_insert _ _ _).trans sized.capacity
  | nobody listed unwritten =>
    constructor
    · rw [unwritten]
      exact sized.consistent
    · rw [unwritten, options_step]
      exact sized.capacity

/-- An event ends with one new process or with none. -/
theorem newcomersAt_cases (session : Session) (event : SessionEvent) :
    session.newcomersAt event = [] ∨ ∃ pid, session.newcomersAt event = [pid] := by
  unfold newcomersAt
  split
  · split <;> simp
  · exact .inl rfl

/-- A run adds the processes of calls that end with a new process, as undecided, and leaves
all others as they are. -/
theorem get?_after (session : Session) (events : List SessionEvent)
    (unmeddled : Unmeddled events) (pid : UInt32) :
    (session.after events).policies.get? pid =
      if pid ∈ session.newcomers events then some Policy.undecided
      else session.policies.get? pid := by
  induction events generalizing session with
  | nil => simp [newcomers, gathered]
  | cons event rest inductionHypothesis =>
    obtain ⟨other, unmeddledRest⟩ := unmeddled_cons.mp unmeddled
    have first := session.sighted event other
    rw [after_cons, inductionHypothesis _ unmeddledRest, first.get?_step]
    simp only [newcomers, gathered, List.mem_append]
    by_cases later : pid ∈ (session.step event).gathered newcomersAt rest <;> simp [later]

/-- The processes that a run adds have numbers and were absent.

Induct over the events: one that is absent after an event was absent before it. -/
theorem newcomers_absent (session : Session) (events : List SessionEvent)
    (unmeddled : Unmeddled events) :
    ∀ pid ∈ session.newcomers events, pid ≠ 0 ∧ session.policies.get? pid = none := by
  induction events generalizing session with
  | nil => simp [newcomers, gathered]
  | cons event rest inductionHypothesis =>
    obtain ⟨other, unmeddledRest⟩ := unmeddled_cons.mp unmeddled
    have first := session.sighted event other
    intro pid member
    rcases List.mem_append.mp member with newly | later
    · exact first.absent newly
    · obtain ⟨named, absent⟩ := inductionHypothesis _ unmeddledRest pid later
      refine ⟨named, ?_⟩
      rw [first.get?_step] at absent
      split at absent
      · cases absent
      · exact absent

/-- A run adds no process twice.

Induct over the events: what an event adds is present afterwards, so it is not added again. -/
theorem newcomers_nodup (session : Session) (events : List SessionEvent)
    (unmeddled : Unmeddled events) : (session.newcomers events).Nodup := by
  induction events generalizing session with
  | nil => exact List.nodup_nil
  | cons event rest inductionHypothesis =>
    obtain ⟨other, unmeddledRest⟩ := unmeddled_cons.mp unmeddled
    have first := session.sighted event other
    have single : (session.newcomersAt event).Nodup := by
      rcases session.newcomersAt_cases event with nobody | ⟨pid, alone⟩
      · simp [nobody]
      · simp [alone]
    refine List.nodup_append.mpr ⟨single, inductionHypothesis _ unmeddledRest, ?_⟩
    rintro pid newly _ again rfl
    obtain ⟨-, absent⟩ := newcomers_absent _ rest unmeddledRest pid again
    rw [first.get?_step, if_pos newly] at absent
    cases absent

/-- A run leaves the table as large as the options allow, if whoever changes it from
elsewhere keeps it consistent and its capacity as it is. -/
theorem sized_after (session : Session) (events : List SessionEvent)
    (lawful : ∀ change, .policiesChanged change ∈ events → ∀ policies,
      policies.Consistent →
        (change policies).Consistent ∧ (change policies).capacity = policies.capacity)
    (sized : session.Sized) : (session.after events).Sized := by
  induction events generalizing session with
  | nil => exact sized
  | cons event rest inductionHypothesis =>
    apply inductionHypothesis
    · intro change member
      exact lawful change (List.mem_cons_of_mem event member)
    · by_cases meddled : ∃ change, event = .policiesChanged change
      · obtain ⟨change, rfl⟩ := meddled
        obtain ⟨right, kept⟩ :=
          lawful change List.mem_cons_self session.policies sized.consistent
        exact ⟨right, kept.trans sized.capacity⟩
      · exact (session.sighted event fun change same => meddled ⟨change, same⟩).sized sized

/-- Entry points queue the notices that they send, and change no queue otherwise. -/
theorem notices_after (session : Session) (events : List SessionEvent)
    (entries : ∀ event ∈ events, event.isEntryPoint = true) :
    (session.after events).notices = (session.sent events).foldl post session.notices := by
  induction events generalizing session with
  | nil => rfl
  | cons event rest inductionHypothesis =>
    have remaining := inductionHypothesis (session.step event) fun later member =>
      entries later (List.mem_cons_of_mem event member)
    rw [after_cons, remaining, session.notices_step event (entries event List.mem_cons_self)]
    exact List.foldl_append.symm

/-- A process that was in the table and is not any more was removed from it in between. -/
theorem exists_removal (session : Session) (events : List SessionEvent) (pid : UInt32)
    (present : (session.policies.get? pid).isSome = true)
    (absent : (session.after events).policies.get? pid = none) :
    ∃ before change rest, events = before ++ .policiesChanged change :: rest ∧
      ((session.after before).policies.get? pid).isSome = true ∧
      (change (session.after before).policies).get? pid = none := by
  induction events generalizing session with
  | nil => simp [show session.policies.get? pid = none from absent] at present
  | cons event rest inductionHypothesis =>
    by_cases kept : ((session.step event).policies.get? pid).isSome = true
    · obtain ⟨before, change, last, rfl, presentThere, removed⟩ :=
        inductionHypothesis (session.step event) kept absent
      exact ⟨event :: before, change, last, rfl, presentThere, removed⟩
    · rw [Bool.not_eq_true, Option.isSome_eq_false_iff, Option.isNone_iff_eq_none] at kept
      by_cases meddled : ∃ change, event = .policiesChanged change
      · obtain ⟨change, rfl⟩ := meddled
        exact ⟨[], change, rest, rfl, present, kept⟩
      · have first := session.sighted event fun change same => meddled ⟨change, same⟩
        rw [first.get?_step] at kept
        split at kept
        · cases kept
        · simp [kept] at present

end Table

/-- Processes are only added by the entry points, as undecided, and each is announced once.

Take any session and any sequence of calls of its entry points. The table says of every
process what it said before, except that those of the calls which ended with a new process
are undecided. These have numbers, were absent before, and are different from each other.
The notices that were sent say of exactly these that they were seen for the first time, one
notice for each and in the same order, and each notice went into the queue of its processor.
The table is not larger than the options allow, if it was not before.

In any run of a session, whatever else happens there, an event announces at most one
process. If two events of a run announce the same one, then in between the table was changed
from elsewhere so that the process, which was in it, was not in it any more. -/
theorem processes_announced_once (session : Session) :
    (∀ events : List SessionEvent, (∀ event ∈ events, event.isEntryPoint = true) →
      let last := session.after events
      let newcomers := session.newcomers events
      (∀ pid, last.policies.get? pid =
        if pid ∈ newcomers then some Policy.undecided else session.policies.get? pid) ∧
      (∀ pid ∈ newcomers, pid ≠ 0 ∧ session.policies.get? pid = none) ∧
      newcomers.Nodup ∧
      announced (session.sent events) = newcomers ∧
      last.notices = (session.sent events).foldl post session.notices ∧
      (session.Sized →
        last.Sized ∧ last.policies.entries.size ≤ session.options.maxPids.toNat)) ∧
    ∀ first : SessionEvent, (announced (session.sentAt first)).length ≤ 1 ∧
      ∀ (between : List SessionEvent) (last : SessionEvent) (pid : UInt32),
        pid ∈ announced (session.sentAt first) →
        pid ∈ announced (((session.step first).after between).sentAt last) →
        ∃ before change rest, between = before ++ .policiesChanged change :: rest ∧
          (((session.step first).after before).policies.get? pid).isSome = true ∧
          (change ((session.step first).after before).policies).get? pid = none := by
  constructor
  · intro events entries last newcomers
    have unmeddled : Unmeddled events := by
      intro change member
      cases entries _ member
    refine ⟨session.get?_after events unmeddled, session.newcomers_absent events unmeddled,
      session.newcomers_nodup events unmeddled, session.announced_sent events,
      session.notices_after events entries, ?_⟩
    intro sized
    have sizedLast : last.Sized := session.sized_after events
      (fun change member => absurd member (unmeddled change)) sized
    refine ⟨sizedLast, ?_⟩
    have bounded := sizedLast.consistent.bounded
    rwa [sizedLast.capacity, options_after] at bounded
  · intro first
    constructor
    · rw [announced_sentAt]
      rcases session.newcomersAt_cases first with nobody | ⟨pid, alone⟩
      · simp [nobody]
      · simp [alone]
    · intro between last pid announcedFirst announcedLast
      rw [announced_sentAt] at announcedFirst announcedLast
      have untouched : ∀ (current : Session) (event : SessionEvent),
          pid ∈ current.newcomersAt event → Sighted current event := by
        intro current event newly
        refine current.sighted event ?_
        rintro change rfl
        cases newly
      have sightedFirst := untouched session first announcedFirst
      have sightedLast := untouched _ last announcedLast
      apply exists_removal (session.step first) between pid
      · rw [sightedFirst.get?_step, if_pos announcedFirst]
        rfl
      · exact (sightedLast.absent announcedLast).2

/-- A process sampled, replaced, sampled again and released, another one sampled, and a third
one for which there is no room. -/
def crowdedSightings : List SessionEvent :=
  [.sampled (Task.ofPid 0 7), .imageReplaced (Task.ofPid 0 7), .sampled (Task.ofPid 0 7),
    .sampled (Task.kernelThread 0 2), .sampled (Task.ofPid 0 8), .sampled (Task.ofPid 0 9),
    .terminalReleased (Task.ofPid 0 7) true]

/-- Two processes fit into a table, and each is announced once. After the first is removed it
is announced again. -/
theorem crowded_table_announced :
    let session := ofOptions { Options.standard with maxPids := 2 } 1
    let last := session.after crowdedSightings
    let removal : SessionEvent := .policiesChanged fun policies => (policies.remove 7).2
    (session.newcomers crowdedSightings = [7, 8] ∧
      announced (session.sent crowdedSightings) = [7, 8] ∧
      last.policies.get? 8 = some Policy.undecided ∧ last.policies.get? 9 = none ∧
      last.policies.entries.size ≤ 2) ∧
    ∃ before change rest, [removal] = before ++ .policiesChanged change :: rest ∧
      (((session.step (.sampled (Task.ofPid 0 7))).after before).policies.get? 7).isSome =
        true ∧
      (change ((session.step (.sampled (Task.ofPid 0 7))).after before).policies).get? 7 =
        none := by
  intro session last removal
  obtain ⟨run, events⟩ := session.processes_announced_once
  obtain ⟨told, -, -, announces, -, bounded⟩ := run crowdedSightings (by decide +kernel)
  obtain ⟨-, separated⟩ := events (.sampled (Task.ofPid 0 7))
  have newcomers : session.newcomers crowdedSightings = [7, 8] := by decide +kernel
  rw [newcomers] at told announces
  refine ⟨⟨newcomers, announces, told 8, told 9, ?_⟩, ?_⟩
  · exact (bounded (sized_ofOptions _ _)).2
  · refine separated [removal] (.sampled (Task.ofPid 0 7)) 7 ?_ ?_
    · decide +kernel
    · decide +kernel

end Session
end SamplingProfiler
