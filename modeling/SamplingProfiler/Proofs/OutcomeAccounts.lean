import SamplingProfiler.Proofs.Conservation
import SamplingProfiler.Proofs.NoticeLedgers
import SamplingProfiler.Proofs.Sightings

/-!
# Outcomes as accounts

The counters of a session are all that is seen of it from outside while it runs. Each of them
is raised in one place and stands for something that happens in another: a count that is
raised, a notice that goes into a queue or is lost there, a sample that an unwinder gets.

An event is accounted for by what its decision says truthfully about itself, and by what its
calls did. A run adds up its events.
-/

namespace SamplingProfiler

namespace OutcomeTally

/-- After outcomes were counted one after the other, each counter is larger by the number of
times that its outcome was among them. -/
theorem count_recorded (tally : OutcomeTally) (outcomes : List Outcome) (tested : Outcome) :
    (outcomes.foldl record tally).count tested =
      tally.count tested + UInt64.ofNat (outcomes.count tested) := by
  induction outcomes generalizing tally with
  | nil => simp
  | cons outcome rest inductionHypothesis =>
    rw [List.foldl_cons, inductionHypothesis, count_record, List.count_cons]
    by_cases same : tested = outcome
    · subst same
      simp only [if_true, beq_self_eq_true, UInt64.ofNat_add, UInt64.reduceOfNat]
      ac_rfl
    · simp [same, Ne.symm same]

end OutcomeTally

namespace Outcome

/-- Every outcome is listed once among all. -/
theorem listed_once (outcome : Outcome) :
    sumOf (fun listed => if outcome == listed then 1 else 0) all = 1 := by
  cases outcome <;> rfl

/-- How often each of all outcomes is in a list adds up to its length. -/
theorem sumOf_count (outcomes : List Outcome) :
    sumOf (fun outcome => outcomes.count outcome) all = outcomes.length := by
  induction outcomes with
  | nil => rfl
  | cons first rest inductionHypothesis =>
    simp only [List.count_cons, sumOf_add, inductionHypothesis, listed_once, List.length_cons]

/-- Two outcomes say that a sample was counted. -/
theorem countP_saysCounted (outcomes : List Outcome) :
    outcomes.countP Sampler.saysCounted =
      outcomes.count .sampleCounted + outcomes.count .sampleNewKey := by
  induction outcomes with
  | nil => rfl
  | cons outcome rest inductionHypothesis =>
    simp only [List.countP_cons, List.count_cons, inductionHypothesis, Sampler.saysCounted]
    by_cases raised : outcome = .sampleCounted
    · subst raised
      simp
      omega
    · by_cases written : outcome = .sampleNewKey <;> simp [raised, written]
      omega

end Outcome

/-- What can happen to a session of which the notices are read, and nothing else is done to
them from elsewhere. -/
inductive UsageEvent where
  | sampled (task : Task)
  | terminalReleased (task : Task) (onExit : Bool)
  | imageReplaced (task : Task)
  | collected
  | policiesChanged (change : BoundedMap UInt32 Policy → BoundedMap UInt32 Policy)
  | unwindersChanged (change : UnwinderSlots → UnwinderSlots)
  | readerActed (cpu : UInt32) (act : ReaderAct)

namespace UsageEvent

/-- What it is for the session. -/
def toSessionEvent : UsageEvent → SessionEvent
  | .sampled task => .sampled task
  | .terminalReleased task onExit => .terminalReleased task onExit
  | .imageReplaced task => .imageReplaced task
  | .collected => .collected
  | .policiesChanged change => .policiesChanged change
  | .unwindersChanged change => .unwindersChanged change
  | .readerActed cpu act => .noticesChanged fun notices => notices.act cpu act

end UsageEvent

namespace Session

/-- How an event ends, if it is a call of an entry point. -/
def outcomesAt (session : Session) (event : SessionEvent) : List Outcome :=
  match event.decision? with
  | some (task, decision) => [(session.decide task decision).1]
  | none => []

/-- How the calls of entry points in a run end. -/
def outcomes (session : Session) (events : List SessionEvent) : List Outcome :=
  session.gathered outcomesAt events

/-- The samples that an event exports. -/
def exportedAt (session : Session) : SessionEvent → List ProfileSample
  | .collected => session.collect.1
  | _ => []

/-- The samples that a run exports. -/
def exported (session : Session) (events : List SessionEvent) : List ProfileSample :=
  session.gathered exportedAt events

/-- What an event does to the queues. -/
def queueEventsAt (session : Session) : UsageEvent → List QueueEvent
  | .readerActed cpu act => [.acted cpu act]
  | event => (session.sentAt event.toSessionEvent).map fun sent => .sent sent.1 sent.2

/-- What a run does to the queues. -/
def queueEvents (session : Session) : List UsageEvent → List QueueEvent
  | [] => []
  | event :: rest =>
    session.queueEventsAt event ++ (session.step event.toSessionEvent).queueEvents rest

section Steps

variable (session : Session)

/-- Running a decision counts no outcome. -/
theorem tally_run (task : Task) (decision : Sampler.Decision Outcome) :
    (decision.run (answer task) session).2.tally = session.tally :=
  (session.run_frame task decision).2.2.1

/-- An event counts its outcome, if it has one. -/
theorem tally_step (event : SessionEvent) :
    (session.step event).tally =
      (session.outcomesAt event).foldl OutcomeTally.record session.tally := by
  have counted (task : Task) (decision : Sampler.Decision Outcome)
      (called : event.decision? = some (task, decision)) :
      (session.decide task decision).2.tally =
        (session.outcomesAt event).foldl OutcomeTally.record session.tally := by
    simp only [outcomesAt, called, decide, record, tally_run, List.foldl_cons, List.foldl_nil]
  cases event with
  | sampled task => exact counted task _ rfl
  | terminalReleased task onExit => exact counted task _ rfl
  | imageReplaced task => exact counted task _ rfl
  | collected =>
    rw [step, collect_eq]
    rfl
  | policiesChanged change => rfl
  | noticesChanged change => rfl
  | unwindersChanged change => rfl

/-- Running a decision hands the sample over as often as its exchanges say.

Induct over the calls. -/
theorem handovers_run (task : Task) (decision : Sampler.Decision Outcome) :
    (decision.run (answer task) session).2.handovers.length =
      session.handovers.length +
        ((decision.exchanges (answer task) session).filterMap Sampler.handedOver?).length := by
  induction decision generalizing session with
  | done outcome => rfl
  | ask call resume inductionHypothesis =>
    rw [Dialogue.run_ask, inductionHypothesis]
    cases call with
    | tailCall slot =>
      simp only [answer, handOver, Dialogue.exchanges]
      cases session.unwinders.find slot with
      | ok unwinder =>
        simp only [numbered, List.length_append, List.length_cons, List.length_nil,
          Sampler.handedOver?, List.filterMap_cons]
        omega
      | error refusal => rfl
    | _ => rfl

/-- A call hands its sample over exactly if it ends so. -/
theorem handovers_step (event : SessionEvent) :
    (session.step event).handovers.length =
      session.handovers.length + (session.outcomesAt event).count .tailCall := by
  have handed (task : Task) (decision : Sampler.Decision Outcome)
      (called : event.decision? = some (task, decision)) :
      (session.decide task decision).2.handovers.length =
        session.handovers.length + (session.outcomesAt event).count .tailCall := by
    have said := ((SessionEvent.truthful called).ended (answer task) session).handsOver
    simp only [outcomesAt, called, decide, record, handovers_run, said, List.count_singleton,
      beq_iff_eq]
  cases event with
  | sampled task => exact handed task _ rfl
  | terminalReleased task onExit => exact handed task _ rfl
  | imageReplaced task => exact handed task _ rfl
  | collected =>
    rw [step, collect_eq]
    rfl
  | policiesChanged change => rfl
  | noticesChanged change => rfl
  | unwindersChanged change => rfl

/-- A call sends a notice of a kind exactly if it ends so. -/
theorem countP_sentAt (event : SessionEvent) (kind : NoticeKind) :
    (session.sentAt event).countP (fun sent => sent.2.kind? = some kind) =
      (session.outcomesAt event).count (.ofNoticeKind kind) := by
  unfold sentAt outcomesAt
  cases called : event.decision? with
  | none => rfl
  | some call =>
    obtain ⟨task, decision⟩ := call
    have said := ((SessionEvent.truthful called).ended (answer task) session).sends
    simp only [decide, said, List.count_singleton]
    have speaks := Outcome.noticeKind?_eq_some_iff (decision.run (answer task) session).1 kind
    generalize (decision.run (answer task) session).1 = outcome at speaks ⊢
    cases spoken : outcome.noticeKind? with
    | none =>
      have other : outcome ≠ .ofNoticeKind kind := by
        rw [Ne, ← speaks, spoken]
        simp
      simp [other]
    | some named =>
      rw [spoken, Option.some.injEq] at speaks
      simp [speaks]

/-- No call ends with the number of outcomes. -/
theorem limit_not_mem_outcomesAt (event : SessionEvent) : .limit ∉ session.outcomesAt event := by
  unfold outcomesAt
  cases called : event.decision? with
  | none => simp
  | some call =>
    obtain ⟨task, decision⟩ := call
    have possible := ((SessionEvent.truthful called).ended (answer task) session).possible
    simpa [decide] using possible.symm

/-- An event has one outcome if it is a call of an entry point, and else none. -/
theorem length_outcomesAt (event : SessionEvent) :
    (session.outcomesAt event).length = if event.isEntryPoint then 1 else 0 := by
  unfold outcomesAt SessionEvent.isEntryPoint
  cases event.decision? with
  | none => rfl
  | some call => rfl

/-- Counting a key adds one to the counts exactly if the outcome says so. -/
theorem KeyCounted.total_counted {counts next : BoundedMap SampleKey UInt32} {key : SampleKey}
    {outcome : Outcome} (counted : KeyCounted counts key outcome next) :
    (next.entries.total fun _ count => count.toNat) % UInt32.size =
      ((counts.entries.total fun _ count => count.toNat) +
        if Sampler.saysCounted outcome then 1 else 0) % UInt32.size := by
  have everyKey : countIf (fun _ => True) = fun _ count => count.toNat := rfl
  have added := counted.total fun _ => True
  rw [everyKey] at added
  cases counted with
  | raised count present => simpa [Sampler.saysCounted] using added
  | written absent room => simpa [Sampler.saysCounted] using added
  | refused => simp [Sampler.saysCounted]

/-- Only an eligible tick says that it counted a sample. -/
theorem countP_outcomesAt_uncounted (event : SessionEvent)
    (ineligible : ∀ task, event = .sampled task → session.isEligible task = false) :
    (session.outcomesAt event).countP Sampler.saysCounted = 0 := by
  have single {outcome : Outcome} (unsaid : Sampler.saysCounted outcome = false) :
      [outcome].countP Sampler.saysCounted = 0 := by
    simp [unsaid]
  have reported (task : Task) (kind : NoticeKind) (outcome : Outcome)
      (unsaid : Sampler.saysCounted outcome = false) :
      Sampler.saysCounted
        (session.decide task (Sampler.report task.toSubject kind outcome)).1 = false := by
    rcases session.decide_report task kind outcome with given | idle
    · rwa [given]
    · rw [idle]
      rfl
  cases event with
  | sampled task =>
    have unconcerned := (session.sample_uncounted task (ineligible task rfl)).2
    simp only [Sampler.concernsKey, Bool.or_eq_false_iff] at unconcerned
    exact single unconcerned.1
  | terminalReleased task onExit =>
    cases onExit with
    | false => rfl
    | true => exact single (reported task .exited .processExited rfl)
  | imageReplaced task => exact single (reported task .replaced .imageReplaced rfl)
  | collected => rfl
  | policiesChanged change => rfl
  | noticesChanged change => rfl
  | unwindersChanged change => rfl

/-- What an event exports and what is counted afterwards is what was counted before, and one
more if the event says that it counted a sample. -/
theorem counted_step (event : SessionEvent) (consistent : session.counts.Consistent) :
    (sumOf (fun sample => sample.count.toNat) (session.exportedAt event) +
        (session.step event).counts.entries.total fun _ count => count.toNat) % UInt32.size =
      ((session.counts.entries.total fun _ count => count.toNat) +
        (session.outcomesAt event).countP Sampler.saysCounted) % UInt32.size := by
  generalize reached : session.step event = next
  cases reached ▸ session.step_effect event with
  | counted task policy eligible known ticked =>
    have counted := (session.counted_counts task policy consistent).total_counted
    have ended : (session.sample task).1 = (session.countTick task policy).1 := by rw [ticked]
    have listed : session.outcomesAt (.sampled task) = [(session.sample task).1] := rfl
    rw [listed, ended, ticked, List.countP_singleton]
    simpa only [exportedAt, sumOf_nil, Nat.zero_add, record] using counted
  | collected =>
    have exported := session.sumOf_collect fun _ count => count.toNat
    have emptied := session.total_collect fun _ count => count.toNat
    rw [exportedAt, exported, emptied]
    rfl
  | elsewhere _ _ other ineligible same =>
    have unexported : session.exportedAt event = [] := by
      cases event with
      | collected => exact absurd rfl other
      | _ => rfl
    rw [session.countP_outcomesAt_uncounted event ineligible, unexported, same.counts]
    simp

end Steps

section Runs

variable (session : Session) (events : List SessionEvent)

/-- A run counts the outcomes of its calls. -/
theorem tally_after :
    (session.after events).tally =
      (session.outcomes events).foldl OutcomeTally.record session.tally := by
  induction events generalizing session with
  | nil => rfl
  | cons event rest inductionHypothesis =>
    rw [after_cons, inductionHypothesis, tally_step, ← List.foldl_append]
    rfl

/-- A run hands a sample over for every call that ends so. -/
theorem handovers_after :
    (session.after events).handovers.length =
      session.handovers.length + (session.outcomes events).count .tailCall := by
  induction events generalizing session with
  | nil => rfl
  | cons event rest inductionHypothesis =>
    rw [after_cons, inductionHypothesis, handovers_step, Nat.add_assoc, ← List.count_append]
    rfl

/-- A run sends a notice of a kind for every call that ends so. -/
theorem countP_sent (kind : NoticeKind) :
    (session.sent events).countP (fun sent => sent.2.kind? = some kind) =
      (session.outcomes events).count (.ofNoticeKind kind) := by
  induction events generalizing session with
  | nil => rfl
  | cons event rest inductionHypothesis =>
    have first := session.countP_sentAt event kind
    have remaining := inductionHypothesis (session.step event)
    simp only [sent, outcomes, gathered, List.countP_append, List.count_append] at remaining ⊢
    rw [first, remaining]

/-- No call of a run ends with the number of outcomes. -/
theorem count_limit : (session.outcomes events).count .limit = 0 := by
  induction events generalizing session with
  | nil => rfl
  | cons event rest inductionHypothesis =>
    have first := List.count_eq_zero.mpr (session.limit_not_mem_outcomesAt event)
    have remaining := inductionHypothesis (session.step event)
    simp only [outcomes, gathered, List.count_append] at remaining ⊢
    rw [first, remaining]

/-- A run has an outcome for every call of an entry point. -/
theorem length_outcomes :
    (session.outcomes events).length = events.countP SessionEvent.isEntryPoint := by
  induction events generalizing session with
  | nil => rfl
  | cons event rest inductionHypothesis =>
    have first := session.length_outcomesAt event
    have remaining := inductionHypothesis (session.step event)
    simp only [outcomes, gathered, List.length_append, List.countP_cons] at remaining ⊢
    rw [first, remaining, Nat.add_comm]

/-- What a run exported and what is counted at its end is what was counted before and the
samples that it says it counted. -/
theorem counted_after (consistent : session.counts.Consistent) :
    (sumOf (fun sample => sample.count.toNat) (session.exported events) +
        (session.after events).counts.entries.total fun _ count => count.toNat) % UInt32.size =
      ((session.counts.entries.total fun _ count => count.toNat) +
        (session.outcomes events).countP Sampler.saysCounted) % UInt32.size := by
  induction events generalizing session with
  | nil => simp [exported, outcomes, gathered]
  | cons event rest inductionHypothesis =>
    have first := session.counted_step event consistent
    have remaining := inductionHypothesis _ (session.step_consistent event consistent)
    simp only [exported, outcomes, gathered, sumOf_append, List.countP_append, after_cons,
      UInt32.size] at first remaining ⊢
    omega

end Runs

section Queues

variable (session : Session) (events : List UsageEvent)

/-- An event does to the queues what it is said to do to them. -/
theorem notices_usage_step (event : UsageEvent) :
    (session.step event.toSessionEvent).notices =
      session.notices.after (session.queueEventsAt event) := by
  have entered (entry : event.toSessionEvent.isEntryPoint = true) :
      (session.step event.toSessionEvent).notices =
        session.notices.after
          ((session.sentAt event.toSessionEvent).map fun sent => .sent sent.1 sent.2) := by
    rw [session.notices_step _ entry, NoticeBuffers.after, List.foldl_map]
    rfl
  cases event with
  | sampled task => exact entered rfl
  | terminalReleased task onExit => exact entered rfl
  | imageReplaced task => exact entered rfl
  | collected => exact session.collect_announced.2
  | policiesChanged change => rfl
  | unwindersChanged change => rfl
  | readerActed cpu act => rfl

/-- A run does to the queues what it is said to do to them. -/
theorem notices_usage :
    (session.after (events.map UsageEvent.toSessionEvent)).notices =
      session.notices.after (session.queueEvents events) := by
  induction events generalizing session with
  | nil => rfl
  | cons event rest inductionHypothesis =>
    rw [List.map_cons, after_cons, inductionHypothesis, notices_usage_step, queueEvents,
      NoticeBuffers.after, NoticeBuffers.after, NoticeBuffers.after, List.foldl_append]

/-- The notices among those sent that go to a queue. -/
def sentTo (notices : NoticeBuffers) (queue : Nat) (sent : List (UInt32 × Notice)) :
    List Notice :=
  sent.filterMap fun (cpu, notice) => if notices.queueOf cpu = queue then some notice else none

/-- An event outputs to a queue the notices that it sends there. -/
theorem outputs_usage_step (notices : NoticeBuffers) (queue : Nat) (event : UsageEvent) :
    notices.outputs queue (session.queueEventsAt event) =
      sentTo notices queue (session.sentAt event.toSessionEvent) := by
  have entered (sent : List (UInt32 × Notice)) :
      notices.outputs queue (sent.map fun item => .sent item.1 item.2) =
        sentTo notices queue sent := by
    rw [NoticeBuffers.outputs, List.filterMap_map]
    rfl
  cases event with
  | readerActed cpu act => rfl
  | _ => exact entered _

/-- A run outputs to a queue the notices that it sends there. -/
theorem outputs_usage (notices : NoticeBuffers) (queue : Nat) :
    notices.outputs queue (session.queueEvents events) =
      sentTo notices queue (session.sent (events.map UsageEvent.toSessionEvent)) := by
  induction events generalizing session with
  | nil => rfl
  | cons event rest inductionHypothesis =>
    have first := session.outputs_usage_step notices queue event
    have remaining := inductionHypothesis (session.step event.toSessionEvent)
    simp only [NoticeBuffers.outputs, sentTo, sent, queueEvents, List.map_cons, gathered,
      List.filterMap_append] at first remaining ⊢
    rw [first, remaining]

end Queues

/-- The counters of outcomes account for what happened. In every run of a fresh session whose
notices are only read, each counter says how many calls of entry points ended with its outcome,
modulo 2 ^ 64; all of them together say how many calls there were, and the number of outcomes is
never counted.

The calls that say that they counted a sample are as many as the exported samples and those
that are still counted, modulo 2 ^ 32. The calls that speak of a notice are as many as the
notices of that kind that were sent, and each of these was accepted by the queue of its
processor or refused by it, where the ledger of a queue agrees with what is left in it. The
calls that speak of an unwinder are as many as the samples that were handed over. -/
theorem outcomes_account_for_effects (options : Options) (cpus : UInt32)
    (events : List UsageEvent) :
    let fresh := ofOptions options cpus
    let run := events.map UsageEvent.toSessionEvent
    let last := fresh.after run
    (∀ outcome, last.tally.count outcome =
      UInt64.ofNat ((fresh.outcomes run).count outcome)) ∧
    sumOf (fun outcome => (last.tally.count outcome).toNat) Outcome.all % UInt64.size =
      run.countP SessionEvent.isEntryPoint % UInt64.size ∧
    last.tally.count .limit = 0 ∧
    ((last.tally.count .sampleCounted).toNat + (last.tally.count .sampleNewKey).toNat) %
        UInt32.size =
      (sumOf (fun sample => sample.count.toNat) (fresh.exported run) +
        last.counts.entries.total fun _ count => count.toNat) % UInt32.size ∧
    (∀ kind, last.tally.count (.ofNoticeKind kind) =
      UInt64.ofNat ((fresh.sent run).countP fun sent => sent.2.kind? = some kind)) ∧
    (∀ queue, queue < max (options.cpus cpus).toNat 1 →
      let ledger := fresh.notices.ledgerAfter queue QueueLedger.empty (fresh.queueEvents events)
      (ledger.accepted ++ ledger.refused).Perm (sentTo fresh.notices queue (fresh.sent run)) ∧
      ∃ buffer, last.notices.buffers[queue]? = some buffer ∧ buffer.Accounted ledger) ∧
    last.tally.count .tailCall = UInt64.ofNat last.handovers.length := by
  intro fresh run last
  have counters (outcome : Outcome) :
      last.tally.count outcome = UInt64.ofNat ((fresh.outcomes run).count outcome) := by
    simp only [last, tally_after, OutcomeTally.count_recorded]
    exact (congrArg (· + _) (OutcomeTally.count_zero outcome)).trans (UInt64.zero_add _)
  have counterOf (outcome : Outcome) :
      (last.tally.count outcome).toNat = (fresh.outcomes run).count outcome % UInt64.size := by
    rw [counters]
    exact UInt64.toNat_ofNat
  refine ⟨counters, ?_, ?_, ?_, ?_, ?_, ?_⟩
  · simp only [counterOf, sumOf_mod, Outcome.sumOf_count, length_outcomes]
  · rw [counters, count_limit]
    rfl
  · have conserved := fresh.counted_after run (BoundedMap.consistent_ofCapacity _)
    have initial : (fresh.counts.entries.total fun _ count => count.toNat) = 0 := rfl
    rw [initial, Nat.zero_add] at conserved
    rw [conserved, Outcome.countP_saysCounted, counterOf, counterOf]
    simp only [UInt32.size, UInt64.size]
    omega
  · intro kind
    rw [counters, countP_sent]
  · intro queue inside ledger
    constructor
    · rw [← outputs_usage]
      exact (fresh.notices.outputs_entered queue _).2
    · simp only [last, run, notices_usage]
      exact NoticeBuffers.accounted_ofCpus queue _ _ _ inside
  · have handed := fresh.handovers_after run
    have initial : fresh.handovers.length = 0 := rfl
    rw [initial, Nat.zero_add] at handed
    rw [counters, ← handed]

/-- Every kind of effect once, and some twice: samples counted before and after a collection, a
sample handed over, and three notices, for the second of which there is no room. -/
def eventfulUsage : List UsageEvent :=
  [.policiesChanged fun policies =>
      ((policies.insert 7 (Policy.ofKind .framePointers true true) UpdateFlags.any).2.insert 3
        (Policy.ofKind .python true true) UpdateFlags.any).2,
    .unwindersChanged fun unwinders => (unwinders.write Limits.pythonSlot (some "pyperf")).2,
    .sampled (Task.ofPid 0 7), .sampled (Task.ofPid 0 7), .collected, .sampled (Task.ofPid 0 7),
    .sampled (Task.ofPid 0 3), .sampled (Task.ofPid 0 9), .terminalReleased (Task.ofPid 0 9) true,
    .readerActed 0 .taken, .readerActed 0 .readAll, .imageReplaced (Task.ofPid 0 9)]

/-- Seven calls are counted in this run. Of its three notices one was delivered, one was
reported as lost and one waits; two samples were exported and one is still counted. -/
theorem eventful_usage_accounted :
    let fresh := ofOptions { Options.standard with perfBufferCapacity := 1, profileMapsSize := 4 } 1
    let run := eventfulUsage.map UsageEvent.toSessionEvent
    let last := fresh.after run
    sumOf (fun outcome => (last.tally.count outcome).toNat) Outcome.all % UInt64.size = 7 ∧
      ((last.tally.count .sampleCounted).toNat + (last.tally.count .sampleNewKey).toNat) %
        UInt32.size = 3 ∧
      last.tally.count .processExited = 1 ∧ last.tally.count .tailCall = 1 ∧
      ∃ buffer, last.notices.buffers[0]? = some buffer ∧
        buffer.Accounted
          { accepted := [.ofKind .firstSeen 9, .ofKind .replaced 9]
            refused := [.ofKind .exited 9]
            delivered := [.ofKind .firstSeen 9]
            discarded := []
            reported := [1]
            openings := 1
            isDropped := false } := by
  intro fresh run last
  obtain ⟨-, calls, -, samples, sent, queues, handed⟩ := outcomes_account_for_effects
    { Options.standard with perfBufferCapacity := 1, profileMapsSize := 4 } 1 eventfulUsage
  obtain ⟨-, agrees⟩ := queues 0 (by decide)
  refine ⟨calls.trans ?_, samples.trans ?_, (sent .exited).trans ?_, handed.trans ?_, ?_⟩
  · decide +kernel
  · decide +kernel
  · decide +kernel
  · decide +kernel
  · have ledger : fresh.notices.ledgerAfter 0 QueueLedger.empty (fresh.queueEvents eventfulUsage) =
        ⟨[.ofKind .firstSeen 9, .ofKind .replaced 9], [.ofKind .exited 9],
          [.ofKind .firstSeen 9], [], [1], 1, false⟩ := by
      decide +kernel
    rwa [ledger] at agrees

end Session
end SamplingProfiler
