import SamplingProfiler.Proofs.Oversight

/-!
# Processes accounted for

A process that a tick finds absent is written as undecided, and the notice that announces it
is sent at the same time. From then on something is to come: the notice is on its way, or it
was lost, or the controller remembers the process. This holds at every point of every run,
until a decision is written or the process is removed.

The notice that announced a process is followed from place to place, so that it is told
apart from others about the same process: later ones, and those about an earlier process
with the same number. Its place is computed along the run. The theorem says that the notice
really is where the computation has it.
-/

namespace SamplingProfiler

namespace Standing

/-- The table holds the process as undecided. -/
def isUnresolved (standing : Standing) : Bool :=
  standing.policy?.any fun policy => policy.kind? = some .unknown

/-- The controller remembers the process, to remove it or to ask about it again. -/
def isRemembered (standing : Standing) : Bool :=
  standing.isDead || standing.isUndecided

section Duties

variable (resolver : DecisiveResolver) (pid : UInt32) (admitted : Bool) (standing : Standing)
  (known : standing.policy?.isSome = true → admitted = true)
include known

/-- A process that is undecided after it was asked about was so before, and is remembered. -/
theorem resolved_unresolved
    (unresolved : (standing.resolved (resolver.isAlive pid) (resolver.resolve pid)
      admitted).isUnresolved = true) :
    standing.isUnresolved = true ∧
      (standing.resolved (resolver.isAlive pid) (resolver.resolve pid) admitted).isRemembered =
        true := by
  unfold resolved at unresolved ⊢
  split
  · rename_i dead
    rw [if_pos dead] at unresolved
    exact ⟨unresolved, by simp [isRemembered, dead]⟩
  · rename_i undead
    rw [if_neg undead] at unresolved
    split
    · rename_i alive
      rw [if_pos alive] at unresolved
      cases decision : resolver.resolve pid with
      | none =>
        rw [decision] at unresolved
        exact ⟨unresolved, by simp [isRemembered]⟩
      | some policy =>
        -- a decision is written over what was there, and where nothing was there nothing is
        -- undecided
        rw [decision] at unresolved
        have decided := resolver.decisive pid policy decision
        cases present : standing.policy? with
        | some before =>
          have written : admitted = true := known (by rw [present]; rfl)
          simp [isUnresolved, written, decided] at unresolved
        | none =>
          cases admitted <;> simp [isUnresolved, present, decided] at unresolved
    · rename_i gone
      rw [if_neg gone] at unresolved
      exact ⟨unresolved, by simp [isRemembered, markedDead]⟩

/-- A process that is undecided after a notice about it was so before, and is remembered if
it was before or the notice was recognised. -/
theorem heard_unresolved (kind? : Option NoticeKind)
    (unresolved : (standing.heard kind? (resolver.isAlive pid) (resolver.resolve pid)
      admitted).isUnresolved = true) :
    standing.isUnresolved = true ∧ (standing.isRemembered = true ∨ kind?.isSome = true →
      (standing.heard kind? (resolver.isAlive pid) (resolver.resolve pid)
        admitted).isRemembered = true) := by
  have resolving := standing.resolved_unresolved resolver pid admitted known
  cases kind? with
  | none => exact ⟨unresolved, by simp [heard]⟩
  | some kind =>
    cases kind with
    | firstSeen => exact ⟨(resolving unresolved).1, fun _ => (resolving unresolved).2⟩
    | replaced => exact ⟨(resolving unresolved).1, fun _ => (resolving unresolved).2⟩
    | exited => exact ⟨unresolved, fun _ => by simp [heard, isRemembered, markedDead]⟩

/-- A process that is undecided after the undecided ones were asked about again was so
before, and is remembered if it was. -/
theorem retried_unresolved
    (unresolved : (standing.retried (resolver.isAlive pid) (resolver.resolve pid)
      admitted).isUnresolved = true) :
    standing.isUnresolved = true ∧ (standing.isRemembered = true →
      (standing.retried (resolver.isAlive pid) (resolver.resolve pid)
        admitted).isRemembered = true) := by
  unfold retried at unresolved ⊢
  split
  · rename_i undecided
    rw [if_pos undecided] at unresolved
    have resolving := resolved_unresolved resolver pid admitted
      { standing with isUndecided := false } known unresolved
    exact ⟨resolving.1, fun _ => resolving.2⟩
  · rename_i decided
    rw [if_neg decided] at unresolved
    exact ⟨unresolved, id⟩

end Duties

/-- A process that is undecided after the exited ones were looked for was so before, and is
remembered if it was. -/
theorem reconciled_unresolved (alive : Bool) (standing : Standing)
    (unresolved : (standing.reconciled alive).isUnresolved = true) :
    standing.isUnresolved = true ∧ (standing.isRemembered = true →
      (standing.reconciled alive).isRemembered = true) := by
  unfold reconciled at unresolved ⊢
  split
  · rename_i marked
    rw [if_pos marked] at unresolved
    exact ⟨unresolved, fun _ => by simp [isRemembered, markedDead]⟩
  · rename_i unmarked
    rw [if_neg unmarked] at unresolved
    exact ⟨unresolved, id⟩

/-- A process that is undecided after a cleanup was so before, and is remembered if it
was. -/
theorem cleaned_unresolved (standing : Standing)
    (unresolved : standing.cleaned.isUnresolved = true) :
    standing.isUnresolved = true ∧
      (standing.isRemembered = true → standing.cleaned.isRemembered = true) := by
  unfold cleaned at unresolved ⊢
  split
  · rename_i dead
    simp [dead, isUnresolved] at unresolved
  · rename_i undead
    rw [if_neg undead] at unresolved
    exact ⟨unresolved, id⟩

end Standing

/-- Where a notice is on its way to the controller. -/
inductive Whereabouts where
  /-- It waits in a queue, behind as many others. -/
  | queued (queue position : Nat)
  /-- It was read and is not handled yet. -/
  | unhandled (position : Nat)
  | handled
  /-- It was lost when it was sent: its queue was full, or the reader of it was dropped. -/
  | refused
  /-- It was lost while it waited: the reader of its queue was dropped. -/
  | discarded
deriving DecidableEq, Repr

namespace Oversight

section Notices

variable (world : Oversight)

/-- The notice at a place. -/
def noticeAt : Whereabouts → Option Notice
  | .queued queue position => (world.session.notices.queueAt queue)[position]?
  | .unhandled position => world.unhandled[position]?
  | .handled | .refused | .discarded => none

/-- Where a notice is after an event. -/
def moved (event : OversightEvent) (place : Whereabouts) : Whereabouts :=
  match event, place with
  | .noticesRead cpu, .queued queue position =>
    if queue = cpu.toNat ∧ world.session.notices.isHeld queue = true then
      .unhandled (world.unhandled.length + position)
    else place
  | .firstNoticeRead cpu, .queued queue position =>
    if queue = cpu.toNat ∧ world.session.notices.isHeld queue = true then
      match position with
      | 0 => .unhandled world.unhandled.length
      | ahead + 1 => .queued queue ahead
    else place
  | .readerDropped cpu, .queued queue _ =>
    if queue = cpu.toNat ∧ world.session.notices.isHeld queue = true then .discarded else place
  | .tended (.handle taken) _, .unhandled position =>
    if position = taken then .handled
    else if taken < position then .unhandled (position - 1)
    else place
  | _, _ => place

/-- Where the notice goes that announces the process of a task. -/
def announcementPlace (task : Task) : Whereabouts :=
  let queue := world.session.notices.queueOf task.cpu
  if world.session.notices.takes task.cpu then
    .queued queue (world.session.notices.queueAt queue).length
  else .refused

/-- What a notice that waits can come to at an event: it waits still, or it is discarded,
or it is the one that is handled. -/
inductive Followed (event : OversightEvent) (place : Whereabouts) (notice : Notice) : Prop where
  | waits (still : (world.step event).noticeAt (world.moved event place) = some notice)
  | discarded (lost : world.moved event place = .discarded)
  | handled (position : Nat) (resolver : DecisiveResolver) (here : place = .unhandled position)
      (now : event = .tended (.handle position) resolver)

variable {world} {place : Whereabouts} {notice : Notice}
  (waiting : world.noticeAt place = some notice)
include waiting

/-- A notice that waits does so in a queue or among the unhandled ones. -/
theorem waiting_cases :
    (∃ queue position, place = .queued queue position ∧
        (world.session.notices.queueAt queue)[position]? = some notice) ∨
      ∃ position, place = .unhandled position ∧ world.unhandled[position]? = some notice := by
  cases place with
  | queued queue position => exact .inl ⟨queue, position, rfl, waiting⟩
  | unhandled position => exact .inr ⟨position, rfl, waiting⟩
  | handled => cases waiting
  | refused => cases waiting
  | discarded => cases waiting

/-- A notice waits on while others are sent. -/
theorem noticeAt_of_sent {next : Oversight} {pid : UInt32}
    (sent : NoticeBuffers.SentAbout pid world.session.notices next.session.notices)
    (unread : next.unhandled = world.unhandled) : next.noticeAt place = some notice := by
  rcases waiting_cases waiting with ⟨queue, position, rfl, waits⟩ | ⟨position, rfl, waits⟩
  · exact sent.waits waits
  · rwa [noticeAt, unread]

/-- An unhandled notice keeps its place when others are read. -/
theorem unhandled_append {position : Nat} (here : place = .unhandled position)
    (read : List Notice) : (world.unhandled ++ read)[position]? = some notice := by
  subst here
  obtain ⟨inside, -⟩ := List.getElem?_eq_some_iff.mp waiting
  rwa [List.getElem?_append_left inside]

/-- Reading a queue leaves all other notices where they are, and puts its own behind those
that were read before. -/
theorem followed_noticesRead (cpu : UInt32) : Followed world (.noticesRead cpu) place notice := by
  apply Followed.waits
  rw [step, readNotices_eq]
  rcases waiting_cases waiting with ⟨queue, position, rfl, waits⟩ | ⟨position, rfl, waits⟩
  · simp only [moved]
    by_cases here : queue = cpu.toNat ∧ world.session.notices.isHeld queue = true
    · obtain ⟨rfl, held⟩ := here
      simp only [held, and_self, if_true, noticeAt]
      rwa [List.getElem?_append_right (by omega), Nat.add_sub_cancel_left]
    · simp only [here, if_false, noticeAt, withNotices, NoticeBuffers.queueAt_read]
      exact waits
  · exact unhandled_append waiting rfl _

/-- Reading the first notice of a queue moves its other notices up. -/
theorem followed_firstNoticeRead (cpu : UInt32) :
    Followed world (.firstNoticeRead cpu) place notice := by
  apply Followed.waits
  rw [step, readFirstNotice_eq]
  rcases waiting_cases waiting with ⟨queue, position, rfl, waits⟩ | ⟨position, rfl, waits⟩
  · simp only [moved]
    by_cases here : queue = cpu.toNat ∧ world.session.notices.isHeld queue = true
    · obtain ⟨rfl, held⟩ := here
      cases position with
      | zero =>
        simp only [held, and_self, if_true, noticeAt, List.head?_eq_getElem?, waits]
        exact List.getElem?_concat_length
      | succ ahead =>
        simp only [held, and_self, if_true, noticeAt, withNotices, NoticeBuffers.queueAt_next,
          List.getElem?_tail]
        exact waits
    · simp only [here, if_false, noticeAt, withNotices, NoticeBuffers.queueAt_next]
      exact waits
  · exact unhandled_append waiting rfl _

/-- A reader that is dropped discards what waited in its queue, and nothing else. -/
theorem followed_readerDropped (cpu : UInt32) :
    Followed world (.readerDropped cpu) place notice := by
  rcases waiting_cases waiting with ⟨queue, position, rfl, waits⟩ | ⟨position, rfl, waits⟩
  · by_cases here : queue = cpu.toNat ∧ world.session.notices.isHeld queue = true
    · exact .discarded (if_pos here)
    · apply Followed.waits
      simp only [moved, here, if_false, step, noticeAt, withNotices,
        NoticeBuffers.queueAt_dropReader]
      exact waits
  · exact .waits waits

/-- The controller takes the notice that it handles from among the unhandled ones; those
behind it move up. -/
theorem followed_handled (taken : Nat) (resolver : DecisiveResolver) :
    Followed world (.tended (.handle taken) resolver) place notice := by
  rcases waiting_cases waiting with ⟨queue, position, rfl, waits⟩ | ⟨position, rfl, waits⟩
  · exact .waits waits
  · by_cases here : position = taken
    · exact .handled position resolver rfl (here ▸ rfl)
    · apply Followed.waits
      simp only [moved, if_neg here, step, tend, unhandledAfter]
      by_cases behind : taken < position
      · have above : ¬ position - 1 < taken := by omega
        have second : position - 1 + 1 = position := by omega
        simp only [behind, if_true, noticeAt, List.getElem?_eraseIdx, above, if_false, second]
        exact waits
      · have below : position < taken := by omega
        simp only [behind, if_false, noticeAt, List.getElem?_eraseIdx, below, if_true]
        exact waits

end Notices

/-- Every event leaves a notice that waits to wait on, discards it or handles it. -/
theorem followed (world : Oversight) (event : OversightEvent) (place : Whereabouts)
    (notice : Notice) (waiting : world.noticeAt place = some notice) :
    Followed world event place notice := by
  -- where no notice is taken, every notice keeps its place
  have stays : ∀ {pid : UInt32}, world.moved event place = place →
      NoticeBuffers.SentAbout pid world.session.notices (world.step event).session.notices →
      (world.step event).unhandled = world.unhandled → Followed world event place notice :=
    fun here sent untaken => .waits (here.symm ▸ noticeAt_of_sent waiting sent untaken)
  have rests : world.moved event place = place →
      (∀ queue, (world.step event).session.notices.queueAt queue =
        world.session.notices.queueAt queue) →
      (world.step event).unhandled = world.unhandled → Followed world event place notice :=
    fun here same => stays here (NoticeBuffers.sentAbout_of_same 0 same)
  cases event with
  | sampled task =>
    exact stays (by cases place <;> rfl) (world.session.sample_announced task).sentAbout rfl
  | terminalReleased task onExit =>
    exact stays (by cases place <;> rfl) (world.session.terminalReleased_announced task onExit).2
      rfl
  | imageReplaced task =>
    exact stays (by cases place <;> rfl) (world.session.imageReplaced_announced task).2 rfl
  | collected =>
    refine rests (by cases place <;> rfl) (fun queue => ?_) rfl
    rw [step, world.session.collect_announced.2]
  | unwindersChanged change => exact rests (by cases place <;> rfl) (fun _ => rfl) rfl
  | noticeSent cpu other =>
    exact stays (by cases place <;> rfl) (NoticeBuffers.sentAbout_send _ cpu other) rfl
  | readerTaken cpu =>
    exact rests (by cases place <;> rfl) (NoticeBuffers.queueAt_openReader _ cpu) rfl
  | noticesRead cpu => exact followed_noticesRead waiting cpu
  | firstNoticeRead cpu => exact followed_firstNoticeRead waiting cpu
  | lossTaken cpu =>
    exact rests (by cases place <;> rfl) (NoticeBuffers.queueAt_takeLost _ cpu) rfl
  | readerDropped cpu => exact followed_readerDropped waiting cpu
  | tended duty resolver =>
    cases duty with
    | handle taken => exact followed_handled waiting taken resolver
    | reconcile => exact rests (by cases place <;> rfl) (fun _ => rfl) rfl
    | cleanUp => exact rests (by cases place <;> rfl) (fun _ => rfl) rfl
    | retry => exact rests (by cases place <;> rfl) (fun _ => rfl) rfl

/-- Where the notice goes that announces a process at an event, if the event is a tick that
announces it. -/
def announcement? (world : Oversight) (pid : UInt32) : OversightEvent → Option Whereabouts
  | .sampled task =>
    if task.pid = pid ∧ (world.session.sample task).1 = .newProcess then
      some (world.announcementPlace task)
    else none
  | _ => none

/-- Where the notice is that announced a process, after an event. A process that is
announced anew has a new one, and a process that is not in the table has none. -/
def follow (world : Oversight) (pid : UInt32) (place? : Option Whereabouts)
    (event : OversightEvent) : Option Whereabouts :=
  if ((world.step event).standing pid).policy?.isNone then none
  else (world.announcement? pid event).or (place?.map (world.moved event))

/-- Where the notice is that announced a process, after a list of events. There is none as
long as no tick has announced the process since it came into the table. -/
def placeAfter (world : Oversight) (pid : UInt32) (place? : Option Whereabouts) :
    List OversightEvent → Option Whereabouts
  | [] => place?
  | event :: rest => (world.step event).placeAfter pid (world.follow pid place? event) rest

/-- A process for which something is to come, or whose announcement was lost. -/
inductive AccountedFor (world : Oversight) (pid : UInt32) : Option Whereabouts → Prop where
  /-- The notice that announced the process waits in a queue, or was read and is not handled
  yet. -/
  | announced (place : Whereabouts)
      (waits : world.noticeAt place = some (.ofKind .firstSeen pid)) :
      AccountedFor world pid (some place)
  | refused : AccountedFor world pid (some .refused)
  | discarded : AccountedFor world pid (some .discarded)
  | undecided (place? : Option Whereabouts) (asked : world.controller.isUndecided pid = true) :
      AccountedFor world pid place?
  | dead (place? : Option Whereabouts) (marked : world.controller.isDead pid = true) :
      AccountedFor world pid place?

/-- A process that the controller remembers is accounted for. -/
theorem AccountedFor.of_remembered {world : Oversight} {pid : UInt32}
    (place? : Option Whereabouts) (remembered : (world.standing pid).isRemembered = true) :
    AccountedFor world pid place? := by
  rcases Bool.or_eq_true_iff.mp remembered with marked | asked
  · exact .dead place? marked
  · exact .undecided place? asked

/-- A process whose announcement waits, was lost or was handled is accounted for after the
next event, if the controller still remembers it where it did, and has come to remember it
where the announcement was handled. -/
theorem AccountedFor.step {world : Oversight} {pid : UInt32} {place? : Option Whereabouts}
    (accounted : AccountedFor world pid place?) (event : OversightEvent)
    (remembers : (world.standing pid).isRemembered = true →
      ((world.step event).standing pid).isRemembered = true)
    (heeds : ∀ position resolver, event = .tended (.handle position) resolver →
      world.unhandled[position]? = some (.ofKind .firstSeen pid) →
      ((world.step event).standing pid).isRemembered = true) :
    AccountedFor (world.step event) pid (place?.map (world.moved event)) := by
  cases accounted with
  | announced place waits =>
    cases world.followed event place _ waits with
    | waits still => exact .announced _ still
    | discarded lost =>
      rw [Option.map_some, lost]
      exact .discarded
    | handled position resolver here now =>
      subst here
      exact .of_remembered _ (heeds position resolver now waits)
  | refused =>
    cases event with
    | tended duty resolver => cases duty <;> exact .refused
    | _ => exact .refused
  | discarded =>
    cases event with
    | tended duty resolver => cases duty <;> exact .discarded
    | _ => exact .discarded
  | undecided _ asked =>
    exact .of_remembered _ (remembers (Bool.or_eq_true_iff.mpr (.inr asked)))
  | dead _ marked => exact .of_remembered _ (remembers (Bool.or_eq_true_iff.mpr (.inl marked)))

/-- The notice that announces a process waits at the end of its queue, or is lost. -/
theorem announced_accounted (world : Oversight) (task : Task)
    (newly : (world.session.sample task).1 = .newProcess) :
    AccountedFor (world.step (.sampled task)) task.pid (some (world.announcementPlace task)) := by
  have sent : (world.session.sample task).2.notices =
      world.session.notices.send task.cpu (.ofKind .firstSeen task.pid) := by
    have announced := world.session.sample_announced task
    rw [newly] at announced
    generalize (world.session.sample task).2 = next at announced ⊢
    cases announced with
    | newProcess _ _ _ _ _ sent => exact sent
    | silent _ _ other _ _ => exact absurd rfl other
  unfold announcementPlace
  split
  · rename_i taken
    apply AccountedFor.announced
    simp only [noticeAt, step, sent, NoticeBuffers.queueAt_send, taken, and_self, if_true]
    exact List.getElem?_concat_length
  · exact .refused

/-- A process that is undecided after a duty was so before. The controller remembers it if
it did before, or if it has just handled its announcement. -/
theorem tended_unresolved (world : Oversight) (pid : UInt32) (resolver : DecisiveResolver)
    (admitted : Bool) (known : (world.standing pid).policy?.isSome = true → admitted = true)
    (duty : Duty)
    (unresolved : (world.tended pid resolver.toResolver admitted (world.standing pid)
      duty).isUnresolved = true) :
    (world.standing pid).isUnresolved = true ∧
      ((world.standing pid).isRemembered = true ∨
          (∃ position, duty = .handle position ∧
            world.unhandled[position]? = some (.ofKind .firstSeen pid)) →
        (world.tended pid resolver.toResolver admitted (world.standing pid) duty).isRemembered =
          true) := by
  cases duty with
  | handle position =>
    simp only [tended] at unresolved ⊢
    cases taken : world.unhandled[position]? with
    | none => simpa [taken] using unresolved
    | some notice =>
      simp only [taken] at unresolved ⊢
      by_cases about : pid = notice.pid
      · rw [if_pos about] at unresolved ⊢
        obtain ⟨before, remembers⟩ := (world.standing pid).heard_unresolved resolver pid admitted
          known notice.kind? unresolved
        refine ⟨before, fun reason => remembers ?_⟩
        rcases reason with remembered | ⟨other, same, announcement⟩
        · exact .inl remembered
        · cases same
          cases taken.symm.trans announcement
          exact .inr (by simp)
      · rw [if_neg about] at unresolved ⊢
        refine ⟨unresolved, ?_⟩
        rintro (remembered | ⟨other, same, announcement⟩)
        · exact remembered
        · cases same
          cases taken.symm.trans announcement
          exact absurd rfl about
  | reconcile =>
    have looked := (world.standing pid).reconciled_unresolved _ unresolved
    exact ⟨looked.1, fun reason => looked.2 (reason.resolve_right (by simp))⟩
  | cleanUp =>
    have cleaned := (world.standing pid).cleaned_unresolved unresolved
    exact ⟨cleaned.1, fun reason => cleaned.2 (reason.resolve_right (by simp))⟩
  | retry =>
    have asked := (world.standing pid).retried_unresolved resolver pid admitted known unresolved
    exact ⟨asked.1, fun reason => asked.2 (reason.resolve_right (by simp))⟩

/-- An undecided process that is accounted for is so after the next event, if it is
undecided still.

The cases are the effects of the event on the process: a tick announces it, the controller
does a duty, or nothing changes but the places of notices. -/
theorem accounted_step (world : Oversight) (pid : UInt32) (place? : Option Whereabouts)
    (accounted : (world.standing pid).isUnresolved = true → AccountedFor world pid place?)
    (event : OversightEvent)
    (unresolved : ((world.step event).standing pid).isUnresolved = true) :
    AccountedFor (world.step event) pid (world.follow pid place? event) := by
  have present : ((world.step event).standing pid).policy?.isNone = false := by
    obtain ⟨policy, listed, -⟩ := (Option.any_eq_true _ _).mp unresolved
    rw [listed]
    rfl
  have affected := world.standing_step pid event
  generalize reached : (world.step event).standing pid = next at affected unresolved present
  unfold follow
  rw [reached, present]
  simp only [Bool.false_eq_true, if_false]
  cases affected with
  | announced task about absent newly =>
    subst about
    rw [announcement?, if_pos ⟨rfl, newly⟩]
    exact world.announced_accounted task newly
  | tended duty resolver admitted known =>
    obtain ⟨before, remembers⟩ := world.tended_unresolved pid resolver admitted known duty
      unresolved
    refine (accounted before).step (.tended duty resolver) ?_ ?_
    · intro remembered
      rw [reached]
      exact remembers (.inl remembered)
    · intro position other same announcement
      cases same
      rw [reached]
      exact remembers (.inr ⟨position, rfl, announcement⟩)
  | untouched _ unannounced untended =>
    have moves := (accounted unresolved).step event (by rw [reached]; exact id)
      fun position resolver same => absurd same (untended _ _)
    cases event with
    | sampled task =>
      rw [announcement?, if_neg fun newly => unannounced task rfl newly.1 newly.2]
      exact moves
    | _ => exact moves

/-- What is accounted for at the start of a run is accounted for after it. -/
theorem accounted_after (world : Oversight) (pid : UInt32) (place? : Option Whereabouts)
    (accounted : (world.standing pid).isUnresolved = true → AccountedFor world pid place?)
    (events : List OversightEvent)
    (unresolved : ((world.after events).standing pid).isUnresolved = true) :
    AccountedFor (world.after events) pid (world.placeAfter pid place? events) := by
  induction events generalizing world place? with
  | nil => exact accounted unresolved
  | cons event rest inductionHypothesis =>
    exact inductionHypothesis _ _ (world.accounted_step pid place? accounted event) unresolved

/-- In a run from an empty table every undecided process is accounted for. -/
theorem accounted_from_empty (start : Oversight)
    (empty : ∀ pid, start.session.policies.get? pid = none) (events : List OversightEvent)
    (pid : UInt32) (unresolved : ((start.after events).standing pid).isUnresolved = true) :
    AccountedFor (start.after events) pid (start.placeAfter pid none events) := by
  refine start.accounted_after pid none ?_ events unresolved
  intro present
  simp [standing, Controller.standing, empty, Standing.isUnresolved] at present

/-- Every unresolved process is accounted for. Take any run of a session and a controller
whose table is empty at first: ticks and probes on any processors, readers that come and
go, notices read and handled in any order, and duties at any time, with resolvers whose
answers may change from one duty to the next. Whenever the table says that a process is
undecided, the notice that was sent when it came into the table is waiting in a queue or to
be handled, or it was refused or discarded, or the controller remembers the process as
undecided or as dead. -/
theorem unresolved_processes_are_accounted_for (start : Oversight)
    (empty : ∀ pid, start.session.policies.get? pid = none) (events : List OversightEvent)
    (pid : UInt32) (policy : Policy)
    (listed : (start.after events).session.policies.get? pid = some policy)
    (unresolved : policy.kind? = some .unknown) :
    AccountedFor (start.after events) pid (start.placeAfter pid none events) := by
  apply start.accounted_from_empty empty
  simp [standing, Controller.standing, listed, unresolved, Standing.isUnresolved]

/-- Three processes are sampled on a processor whose queue holds one notice. The queue is
read after the second one. -/
def crowdedQueueRun : List OversightEvent :=
  [.sampled (Task.ofPid 0 1), .sampled (Task.ofPid 0 2), .readerTaken 0, .noticesRead 0,
    .sampled (Task.ofPid 0 3)]

/-- After this run the first process is to be handled, the announcement of the second one
was refused, and that of the third one waits in the queue. -/
theorem crowded_queue_accounted :
    let start := ofOptions { Options.standard with perfBufferCapacity := 1 } 1
    AccountedFor (start.after crowdedQueueRun) 1 (some (.unhandled 0)) ∧
      AccountedFor (start.after crowdedQueueRun) 2 (some .refused) ∧
      AccountedFor (start.after crowdedQueueRun) 3 (some (.queued 0 0)) := by
  intro start
  have accounted : ∀ pid place?, start.placeAfter pid none crowdedQueueRun = place? →
      (start.after crowdedQueueRun).session.policies.get? pid = some Policy.undecided →
      AccountedFor (start.after crowdedQueueRun) pid place? := by
    rintro pid place? rfl listed
    exact unresolved_processes_are_accounted_for start (fun _ => rfl) crowdedQueueRun pid _
      listed rfl
  exact ⟨accounted 1 _ (by decide +kernel) (by decide +kernel),
    accounted 2 _ (by decide +kernel) (by decide +kernel),
    accounted 3 _ (by decide +kernel) (by decide +kernel)⟩

end Oversight
end SamplingProfiler
