import SamplingProfiler.Proofs.AccountedProcesses

/-!
# Overlooked processes

Maintenance marks the exited processes of the table dead, removes the dead, and asks again
about the undecided. So it makes good the loss of any notice of an exit, and it never makes
good the loss of an announcement: a process that lives on as undecided in the table, and
that the controller does not remember, is passed over by each of the three.

Such a process is overlooked. One round of maintenance leaves exactly those overlooked that
were so before and are alive. Where no notice is waiting they are processes whose
announcement was lost, and they stay overlooked whatever happens, until a probe reports them
or they exit: a process that is in the table is not announced again.
-/

namespace SamplingProfiler

namespace Standing

/-- The table holds the process as undecided, and the controller does not remember it. -/
def isOverlooked (standing : Standing) : Bool :=
  standing.isUnresolved && !standing.isRemembered

/-- Looking for exited processes leaves those overlooked that are alive. -/
theorem isOverlooked_reconciled (alive : Bool) (standing : Standing) :
    (standing.reconciled alive).isOverlooked = (standing.isOverlooked && alive) := by
  obtain ⟨dead, undecided, policy?⟩ := standing
  cases policy? with
  | none => cases alive <;> simp [reconciled, isOverlooked, isUnresolved]
  | some policy =>
    cases dead <;> cases alive <;>
      simp [reconciled, markedDead, isOverlooked, isUnresolved, isRemembered]

/-- A cleanup leaves overlooked processes as they are, and makes none. -/
theorem isOverlooked_cleaned (standing : Standing) :
    standing.cleaned.isOverlooked = standing.isOverlooked := by
  obtain ⟨dead, undecided, policy?⟩ := standing
  cases dead <;> simp [cleaned, isOverlooked, isUnresolved, isRemembered]

/-- Asking again about the undecided processes leaves overlooked ones as they are, and makes
none. -/
theorem isOverlooked_retried (resolver : DecisiveResolver) (pid : UInt32) (admitted : Bool)
    (standing : Standing) (known : standing.policy?.isSome = true → admitted = true) :
    (standing.retried (resolver.isAlive pid) (resolver.resolve pid) admitted).isOverlooked =
      standing.isOverlooked := by
  unfold retried
  split
  · rename_i undecided
    have resolving := resolved_unresolved resolver pid admitted
      { standing with isUndecided := false } known
    have remembered : standing.isOverlooked = false := by
      simp [isOverlooked, isRemembered, undecided]
    rw [remembered, isOverlooked, Bool.and_eq_false_iff, Bool.not_eq_false']
    cases unresolved : (resolved (resolver.isAlive pid) (resolver.resolve pid) admitted
      { standing with isUndecided := false }).isUnresolved with
    | false => exact .inl rfl
    | true => exact .inr (resolving unresolved).2
  · rfl

end Standing

/-- What leaves a process alone: no probe and no notice from elsewhere is about it, and a
resolver that is asked finds it alive. Ticks may find it running. -/
def OversightEvent.Spares (pid : UInt32) : OversightEvent → Prop
  | .terminalReleased task _ => task.pid ≠ pid
  | .imageReplaced task => task.pid ≠ pid
  | .noticeSent _ notice => notice.pid ≠ pid
  | .tended _ resolver => resolver.isAlive pid = true
  | _ => True

/-- A tick that finds an undecided process is not counted. -/
theorem Session.sample_unresolved (session : Session) (task : Task) (policy : Policy)
    (admitted : Sampler.refusal? task.toSubject = none)
    (known : session.policies.get? task.pid = some policy)
    (kind : policy.kind? = some .unknown) : (session.sample task).1 = .policyUnknown := by
  simp only [sample, decide, Sampler.sample, admitted, Sampler.findPolicy,
    Dialogue.request_bind, Dialogue.run_ask, answer, known, Sampler.followPolicy, kind,
    Dialogue.pure_eq_done, Dialogue.run_done]

namespace Oversight

/-- One round of maintenance. The resolver may answer otherwise in the end than at first. -/
def maintenance (first last : DecisiveResolver) : List OversightEvent :=
  [.tended .reconcile first, .tended .cleanUp first, .tended .retry last]

/-- Nothing waits in a queue or to be handled. -/
structure IsQuiet (world : Oversight) : Prop where
  read : ∀ queue, world.session.notices.queueAt queue = []
  handled : world.unhandled = []

/-- Nothing that waits is about a process. -/
structure Unmentioned (world : Oversight) (pid : UInt32) : Prop where
  read : ∀ queue, ∀ notice ∈ world.session.notices.queueAt queue, notice.pid ≠ pid
  handled : ∀ notice ∈ world.unhandled, notice.pid ≠ pid

/-- Where nothing waits, nothing that waits is about a process. -/
theorem IsQuiet.unmentioned {world : Oversight} (quiet : world.IsQuiet) (pid : UInt32) :
    world.Unmentioned pid := by
  constructor
  · intro queue notice member
    simp [quiet.read] at member
  · intro notice member
    simp [quiet.handled] at member

/-- A round of maintenance leaves exactly those overlooked that were so and are alive. -/
theorem isOverlooked_maintenance (world : Oversight) (pid : UInt32)
    (first last : DecisiveResolver) :
    ((world.after (maintenance first last)).standing pid).isOverlooked =
      ((world.standing pid).isOverlooked && first.isAlive pid) := by
  simp only [maintenance, after_cons, after_nil, step]
  obtain ⟨_, -, reconciled⟩ := world.standing_tend pid first.toResolver .reconcile
  generalize world.tend first.toResolver .reconcile = marked at reconciled ⊢
  obtain ⟨_, -, cleaned⟩ := marked.standing_tend pid first.toResolver .cleanUp
  generalize marked.tend first.toResolver .cleanUp = tidy at cleaned ⊢
  obtain ⟨admitted, known, retried⟩ := tidy.standing_tend pid last.toResolver .retry
  rw [retried, tended, Standing.isOverlooked_retried last pid admitted _ known, cleaned, tended,
    Standing.isOverlooked_cleaned, reconciled, tended, Standing.isOverlooked_reconciled]

/-- A round of maintenance sends, reads and handles nothing. -/
theorem unmentioned_maintenance {world : Oversight} {pid : UInt32}
    (unmentioned : world.Unmentioned pid) (first last : DecisiveResolver) :
    (world.after (maintenance first last)).Unmentioned pid := by
  simp only [maintenance, after_cons, after_nil, step]
  constructor
  · simpa only [notices_tend] using unmentioned.read
  · simpa only [unhandled_tend, unhandledAfter] using unmentioned.handled

/-- Where nothing waits, an overlooked process is one whose announcement was lost. -/
theorem overlooked_lost (start : Oversight)
    (empty : ∀ pid, start.session.policies.get? pid = none) (events : List OversightEvent)
    (quiet : (start.after events).IsQuiet) (pid : UInt32)
    (overlooked : ((start.after events).standing pid).isOverlooked = true) :
    start.placeAfter pid none events = some .refused ∨
      start.placeAfter pid none events = some .discarded := by
  obtain ⟨unresolved, forgotten⟩ := Bool.and_eq_true_iff.mp overlooked
  simp only [Standing.isRemembered, Bool.not_eq_true', Bool.or_eq_false_iff] at forgotten
  have accounted := start.accounted_from_empty empty events pid unresolved
  generalize start.placeAfter pid none events = place? at accounted ⊢
  cases accounted with
  | announced place waits =>
    cases place <;> simp [noticeAt, quiet.read, quiet.handled] at waits
  | refused => exact .inl rfl
  | discarded => exact .inr rfl
  | undecided _ asked => exact absurd (forgotten.2.symm.trans asked) (by simp)
  | dead _ marked => exact absurd (forgotten.1.symm.trans marked) (by simp)

/-- A process that nothing is going to remember: the controller does not, and nothing that
waits is about it. -/
structure IsForgotten (world : Oversight) (pid : UInt32) (policy : Policy) : Prop where
  known : world.standing pid = ⟨false, false, some policy⟩
  unresolved : policy.kind? = some .unknown
  unmentioned : world.Unmentioned pid

/-- A duty passes over a forgotten process that is alive. -/
theorem IsForgotten.tended {world : Oversight} {pid : UInt32} {policy : Policy}
    (forgotten : world.IsForgotten pid policy) (resolver : Resolver) (admitted : Bool)
    (duty : Duty) (alive : resolver.isAlive pid = true) :
    world.tended pid resolver admitted (world.standing pid) duty = world.standing pid := by
  rw [forgotten.known]
  cases duty with
  | handle position =>
    simp only [Oversight.tended]
    cases taken : world.unhandled[position]? with
    | none => rfl
    | some notice =>
      have other := forgotten.unmentioned.handled notice (List.mem_of_getElem? taken)
      exact if_neg (Ne.symm other)
  | reconcile => simp [Oversight.tended, Standing.reconciled, alive]
  | cleanUp => rfl
  | retry => rfl

section Unmentioned

variable {world next : Oversight} {pid : UInt32} (unmentioned : world.Unmentioned pid)
include unmentioned

/-- Notices about another process do not mention this one. -/
theorem Unmentioned.of_sent {about : UInt32}
    (sent : NoticeBuffers.SentAbout about world.session.notices next.session.notices)
    (other : about ≠ pid) (untaken : next.unhandled = world.unhandled) : next.Unmentioned pid :=
  ⟨fun queue => sent.spares other (unmentioned.read queue), untaken ▸ unmentioned.handled⟩

/-- Where no queue gains a notice, and those to be handled come from a queue, nothing new is
mentioned. -/
theorem Unmentioned.of_subset
    (shorter : ∀ queue, next.session.notices.queueAt queue ⊆ world.session.notices.queueAt queue)
    (moved : ∀ notice ∈ next.unhandled, notice ∈ world.unhandled ∨
      ∃ queue, notice ∈ world.session.notices.queueAt queue) : next.Unmentioned pid := by
  refine ⟨fun queue notice member => unmentioned.read queue notice (shorter queue member), ?_⟩
  intro notice member
  rcases moved notice member with waited | ⟨queue, waited⟩
  · exact unmentioned.handled notice waited
  · exact unmentioned.read queue notice waited

/-- Notices that were read mention nothing new. -/
theorem Unmentioned.read_delivered (cpu : UInt32) {notices : NoticeBuffers}
    {delivered : List Notice}
    (shorter : ∀ queue, notices.queueAt queue ⊆ world.session.notices.queueAt queue)
    (waited : delivered ⊆ world.session.notices.queueAt cpu.toNat) (held : Bool) :
    Unmentioned { world.withNotices notices with
      unhandled := world.unhandled ++ if held then delivered else [] } pid := by
  refine unmentioned.of_subset shorter fun notice member => ?_
  rcases List.mem_append.mp member with before | read
  · exact .inl before
  · cases held with
    | true => exact .inr ⟨cpu.toNat, waited read⟩
    | false => cases read

/-- An event that spares a process sends no notice about it, if it is in the table. -/
theorem Unmentioned.step (listed : (world.standing pid).policy?.isSome = true)
    (event : OversightEvent) (spared : event.Spares pid) : (world.step event).Unmentioned pid := by
  have stays : (∀ queue, (world.step event).session.notices.queueAt queue =
        world.session.notices.queueAt queue) →
      (world.step event).unhandled = world.unhandled → (world.step event).Unmentioned pid :=
    fun same untaken => unmentioned.of_subset (fun queue _ member => same queue ▸ member)
      fun notice member => .inl (untaken ▸ member)
  cases event with
  | sampled task =>
    have announced := world.session.sample_announced task
    by_cases here : task.pid = pid
    · -- the process is in the table, so it is not announced
      have unsent := announced.unsent_of_present (here ▸ listed)
      exact stays (fun queue => congrArg (NoticeBuffers.queueAt · queue) unsent) rfl
    · exact unmentioned.of_sent announced.sentAbout here rfl
  | terminalReleased task onExit =>
    exact unmentioned.of_sent (world.session.terminalReleased_announced task onExit).2 spared rfl
  | imageReplaced task =>
    exact unmentioned.of_sent (world.session.imageReplaced_announced task).2 spared rfl
  | collected =>
    exact stays (fun queue => congrArg (NoticeBuffers.queueAt · queue)
      world.session.collect_announced.2) rfl
  | unwindersChanged change => exact stays (fun _ => rfl) rfl
  | noticeSent cpu notice =>
    exact unmentioned.of_sent (NoticeBuffers.sentAbout_send _ cpu notice) spared rfl
  | readerTaken cpu => exact stays (NoticeBuffers.queueAt_openReader _ cpu) rfl
  | noticesRead cpu =>
    rw [Oversight.step, readNotices_eq]
    exact unmentioned.read_delivered cpu (fun queue => NoticeBuffers.queueAt_withReader_subset _ cpu
      queue _ (fun _ => []) (fun _ => rfl) List.nil_subset) (List.Subset.refl _) _
  | firstNoticeRead cpu =>
    rw [Oversight.step, readFirstNotice_eq]
    refine unmentioned.read_delivered cpu (fun queue =>
      NoticeBuffers.queueAt_withReader_subset _ cpu queue _ List.tail (fun _ => rfl)
        fun queued => (List.tail_sublist queued).subset) ?_ _
    intro notice member
    exact List.mem_of_mem_head? (Option.mem_toList.mp member)
  | lossTaken cpu => exact stays (NoticeBuffers.queueAt_takeLost _ cpu) rfl
  | readerDropped cpu =>
    exact unmentioned.of_subset (fun queue => NoticeBuffers.queueAt_withReader_subset _ cpu queue
      _ (fun _ => []) (fun _ => rfl) List.nil_subset) fun notice member => .inl member
  | tended duty resolver =>
    refine unmentioned.of_subset (fun queue => List.Subset.refl _) fun notice member => .inl ?_
    simp only [Oversight.step, unhandled_tend] at member
    cases duty with
    | handle position => exact List.mem_of_mem_eraseIdx member
    | reconcile => exact member
    | cleanUp => exact member
    | retry => exact member

end Unmentioned

/-- A forgotten process stays so at every event that spares it. -/
theorem IsForgotten.step {world : Oversight} {pid : UInt32} {policy : Policy}
    (forgotten : world.IsForgotten pid policy) (event : OversightEvent)
    (spared : event.Spares pid) : (world.step event).IsForgotten pid policy := by
  have listed : (world.standing pid).policy?.isSome = true := by
    rw [forgotten.known]
    rfl
  refine ⟨?_, forgotten.unresolved, forgotten.unmentioned.step listed event spared⟩
  have affected := world.standing_step pid event
  generalize (world.step event).standing pid = next at affected ⊢
  cases affected with
  | announced task about absent newly => simp [absent] at listed
  | tended duty resolver admitted known =>
    exact (forgotten.tended resolver.toResolver admitted duty spared).trans forgotten.known
  | untouched _ unannounced untended => exact forgotten.known

/-- A forgotten process stays so for good, if it is spared. -/
theorem IsForgotten.after {world : Oversight} {pid : UInt32} {policy : Policy}
    (forgotten : world.IsForgotten pid policy) (events : List OversightEvent)
    (spared : ∀ event ∈ events, event.Spares pid) :
    (world.after events).IsForgotten pid policy := by
  induction events generalizing world with
  | nil => exact forgotten
  | cons event rest inductionHypothesis =>
    exact inductionHypothesis (forgotten.step event (spared event (List.mem_cons_self ..)))
      fun later member => spared later (List.mem_cons_of_mem event member)

/-- An overlooked process about which nothing waits is forgotten. -/
theorem IsForgotten.of_overlooked {world : Oversight} {pid : UInt32}
    (overlooked : (world.standing pid).isOverlooked = true)
    (unmentioned : world.Unmentioned pid) : ∃ policy, world.IsForgotten pid policy := by
  obtain ⟨unresolved, unremembered⟩ := Bool.and_eq_true_iff.mp overlooked
  obtain ⟨policy, listed, kind⟩ := (Option.any_eq_true _ _).mp unresolved
  simp only [Standing.isRemembered, Bool.not_eq_true', Bool.or_eq_false_iff] at unremembered
  refine ⟨policy, ?_, of_decide_eq_true kind, unmentioned⟩
  rcases known : world.standing pid with ⟨dead, undecided, policy?⟩
  rw [known] at listed unremembered
  obtain ⟨rfl, rfl⟩ := unremembered
  rw [show policy? = some policy from listed]

/-- What maintenance makes good of lost announcements: nothing. Take any run of a session
and a controller from an empty table, at whose end nothing waits in a queue or to be
handled, then a round of maintenance, and any process.

The process is overlooked after the round, that is undecided in the table and neither
undecided nor dead for the controller, exactly if it was so before and is alive. Then its
announcement was refused by a queue or discarded with a reader. And it stays overlooked:
whatever comes later, further rounds included, as long as no probe and no notice from
elsewhere is about it and it is found alive, the controller does not remember it, and no
tick of it is counted. -/
theorem lost_announcements_are_not_made_good (start : Oversight)
    (empty : ∀ pid, start.session.policies.get? pid = none) (events : List OversightEvent)
    (quiet : (start.after events).IsQuiet) (first last : DecisiveResolver) (pid : UInt32) :
    let maintained := (start.after events).after (maintenance first last)
    ((maintained.standing pid).isOverlooked = true ↔
        ((start.after events).standing pid).isOverlooked = true ∧ first.isAlive pid = true) ∧
      ((maintained.standing pid).isOverlooked = true →
        (start.placeAfter pid none events = some .refused ∨
          start.placeAfter pid none events = some .discarded) ∧
        ∀ later : List OversightEvent, (∀ event ∈ later, event.Spares pid) →
          ((maintained.after later).standing pid).isOverlooked = true ∧
          ∀ task : Task, task.pid = pid → Sampler.refusal? task.toSubject = none →
            ((maintained.after later).session.sample task).1 = .policyUnknown) := by
  intro maintained
  have condition : (maintained.standing pid).isOverlooked = true ↔
      ((start.after events).standing pid).isOverlooked = true ∧ first.isAlive pid = true := by
    rw [isOverlooked_maintenance, Bool.and_eq_true]
  refine ⟨condition, ?_⟩
  intro overlooked
  refine ⟨start.overlooked_lost empty events quiet pid (condition.mp overlooked).1, ?_⟩
  intro later spared
  obtain ⟨policy, forgotten⟩ := IsForgotten.of_overlooked overlooked
    (unmentioned_maintenance (quiet.unmentioned pid) first last)
  have stays := forgotten.after later spared
  constructor
  · simp [stays.known, Standing.isOverlooked, Standing.isUnresolved, Standing.isRemembered,
      stays.unresolved]
  · rintro task rfl admitted
    exact Session.sample_unresolved _ task policy admitted
      (congrArg Standing.policy? stays.known) stays.unresolved

/-- The resolver that finds every process alive and has it followed by frame pointers. -/
def followsAll : DecisiveResolver where
  resolve _ := some (Policy.ofKind .framePointers true true)
  isAlive _ := true
  decisive := by
    rintro pid policy ⟨⟩
    simp

/-- Two processes are sampled on a processor whose queue holds one notice. Then the queue
is read, and what was read is handled. -/
def lostAnnouncementRun : List OversightEvent :=
  [.sampled (Task.ofPid 0 1), .sampled (Task.ofPid 0 2), .readerTaken 0, .noticesRead 0,
    .tended (.handle 0) followsAll]

/-- Nothing waits after the queue was read and what was read was handled. -/
theorem lostAnnouncementRun_quiet :
    ((ofOptions { Options.standard with perfBufferCapacity := 1 } 1).after
      lostAnnouncementRun).IsQuiet := by
  have emptied : ((ofOptions { Options.standard with perfBufferCapacity := 1 } 1).after
      lostAnnouncementRun).session.notices = ⟨1, [⟨[], 0, .taken⟩]⟩ := by decide +kernel
  refine ⟨fun queue => ?_, by decide +kernel⟩
  rw [emptied]
  cases queue <;> rfl

/-- A missed notice is not tolerated: the announcement of the second process was refused,
all that was read is handled, and a round of maintenance leaves the process undecided in
the table and unknown to the controller. -/
theorem lost_announcement_overlooked :
    let world := (ofOptions { Options.standard with perfBufferCapacity := 1 } 1).after
      lostAnnouncementRun
    let maintained := world.after (maintenance followsAll followsAll)
    world.IsQuiet ∧ maintained.session.policies.get? 2 = some Policy.undecided ∧
      maintained.controller.isUndecided 2 = false ∧ maintained.controller.isDead 2 = false :=
  ⟨lostAnnouncementRun_quiet, by decide +kernel, by decide +kernel, by decide +kernel⟩

/-- The second process is still overlooked after it was sampled again and another round of
maintenance took place. -/
theorem lost_announcement_overlooked_later :
    let maintained := ((ofOptions { Options.standard with perfBufferCapacity := 1 } 1).after
      lostAnnouncementRun).after (maintenance followsAll followsAll)
    let later := maintained.after
      (.sampled (Task.ofPid 0 2) :: maintenance followsAll followsAll)
    (later.standing 2).isOverlooked = true ∧
      (later.session.sample (Task.ofPid 0 2)).1 = .policyUnknown := by
  obtain ⟨-, overlooks⟩ := lost_announcements_are_not_made_good
    (ofOptions { Options.standard with perfBufferCapacity := 1 } 1) (fun _ => rfl)
    lostAnnouncementRun lostAnnouncementRun_quiet followsAll followsAll 2
  obtain ⟨-, stays⟩ := overlooks (by decide +kernel)
  have overlooked := stays (.sampled (Task.ofPid 0 2) :: maintenance followsAll followsAll)
    (by simp [maintenance, OversightEvent.Spares, followsAll])
  exact ⟨overlooked.1, overlooked.2 (Task.ofPid 0 2) rfl (by decide)⟩

end Oversight
end SamplingProfiler
