import SamplingProfiler.Proofs.Announcements
import SamplingProfiler.Proofs.Standings

/-!
# Oversight

A session and a controller share the table of processes, and the notices of the one are the
work of the other. In between a notice waits in a queue, or it was read and is not handled
yet. A run is a list of events of both sides, each of which finishes before the next one
begins. They come in any order: queues fill up and are read at any time, their readers come
and go, and of the notices that were read any one may be handled next.

`standing_step` says once what an event does to what the controller and the table know of a
process. Invariants of runs follow from it by induction over the events. The reading of all
queues at once that a session offers is such a run (`readNotices_eq_after`).
-/

namespace SamplingProfiler

/-- A resolver whose decisions decide something: it never answers with a policy that leaves
a process undecided, though it may have no answer. -/
structure DecisiveResolver extends Resolver where
  decisive : ∀ pid policy, resolve pid = some policy → policy.kind? ≠ some .unknown

/-- A session, the controller of its table of processes, and the notices that were read and
not handled yet. -/
structure Oversight where
  session : Session
  controller : Controller
  unhandled : List Notice

/-- What a controller does for its table. -/
inductive Duty where
  /-- Handle one of the notices that were read. -/
  | handle (position : Nat)
  | reconcile
  | cleanUp
  | retry
deriving DecidableEq, Repr

/-- What can happen to a session and its controller. -/
inductive OversightEvent where
  | sampled (task : Task)
  | terminalReleased (task : Task) (onExit : Bool)
  | imageReplaced (task : Task)
  | collected
  | unwindersChanged (change : UnwinderSlots → UnwinderSlots)
  /-- A notice, recognised or not, came from elsewhere. -/
  | noticeSent (cpu : UInt32) (notice : Notice)
  | readerTaken (cpu : UInt32)
  /-- All that waited in a queue was read, and the controller was told what was lost. -/
  | noticesRead (cpu : UInt32)
  | firstNoticeRead (cpu : UInt32)
  | lossTaken (cpu : UInt32)
  | readerDropped (cpu : UInt32)
  | tended (duty : Duty) (resolver : DecisiveResolver)

namespace Oversight

/-- A fresh session and a controller before its first notice. -/
def ofOptions (options : Options) (availableCpus : UInt32) : Oversight :=
  ⟨Session.ofOptions options availableCpus, Controller.initial, []⟩

/-- Other notices wait in the queues. -/
def withNotices (world : Oversight) (notices : NoticeBuffers) : Oversight :=
  { world with session := { world.session with notices } }

/-- Read a queue. -/
def readNotices (world : Oversight) (cpu : UInt32) : Oversight :=
  match world.session.notices.read cpu with
  | (some (queued, lost), notices) =>
    { world.withNotices notices with
      controller := world.controller.handleLost cpu lost
      unhandled := world.unhandled ++ queued }
  | (none, notices) => world.withNotices notices

/-- Read the first notice of a queue. -/
def readFirstNotice (world : Oversight) (cpu : UInt32) : Oversight :=
  match world.session.notices.next cpu with
  | (some (some notice), notices) =>
    { world.withNotices notices with unhandled := world.unhandled ++ [notice] }
  | (_, notices) => world.withNotices notices

/-- The operation that a duty asks of the controller. -/
def operation (world : Oversight) : Duty → Controller.Operation Controller
  | .handle position =>
    match world.unhandled[position]? with
    | some notice => world.controller.handle notice
    | none => return world.controller
  | .reconcile => do return (← world.controller.reconcile).2
  | .cleanUp => do return (← world.controller.cleanup).2
  | .retry => world.controller.retryUndecided

/-- The notices that a duty leaves to be handled. -/
def unhandledAfter (world : Oversight) : Duty → List Notice
  | .handle position => world.unhandled.eraseIdx position
  | _ => world.unhandled

/-- Let the controller do a duty. -/
def tend (world : Oversight) (resolver : Resolver) (duty : Duty) : Oversight :=
  let (controller, _, session) :=
    world.session.tend resolver Refusals.none (world.operation duty)
  ⟨session, controller, world.unhandledAfter duty⟩

/-- The world after an event. -/
def step (world : Oversight) : OversightEvent → Oversight
  | .sampled task => { world with session := (world.session.sample task).2 }
  | .terminalReleased task onExit =>
    { world with session := (world.session.terminalReleased task onExit).2 }
  | .imageReplaced task => { world with session := (world.session.imageReplaced task).2 }
  | .collected => { world with session := world.session.collect.2 }
  | .unwindersChanged change =>
    { world with session := { world.session with unwinders := change world.session.unwinders } }
  | .noticeSent cpu notice => world.withNotices (world.session.notices.send cpu notice)
  | .readerTaken cpu => world.withNotices (world.session.notices.openReader cpu).2
  | .noticesRead cpu => world.readNotices cpu
  | .firstNoticeRead cpu => world.readFirstNotice cpu
  | .lossTaken cpu => world.withNotices (world.session.notices.takeLost cpu).2
  | .readerDropped cpu => world.withNotices (world.session.notices.dropReader cpu).2
  | .tended duty resolver => world.tend resolver.toResolver duty

/-- The world after a list of events. -/
def after (world : Oversight) (events : List OversightEvent) : Oversight :=
  events.foldl step world

/-- What the controller and the table know of a process. -/
def standing (world : Oversight) (pid : UInt32) : Standing :=
  Controller.standing (world.controller, world.session.policies) pid

/-- What a duty does to a session it does to the table of processes. -/
theorem tend_eq (world : Oversight) (resolver : Resolver) (duty : Duty) :
    world.tend resolver duty =
      let performed := Controller.perform resolver (world.operation duty) world.session.policies
      ⟨{ world.session with policies := performed.2 }, performed.1, world.unhandledAfter duty⟩ :=
  rfl

/-- A duty neither sends notices nor reads them. -/
theorem notices_tend (world : Oversight) (resolver : Resolver) (duty : Duty) :
    (world.tend resolver duty).session.notices = world.session.notices := rfl

/-- A duty takes from the unhandled notices what it handles. -/
theorem unhandled_tend (world : Oversight) (resolver : Resolver) (duty : Duty) :
    (world.tend resolver duty).unhandled = world.unhandledAfter duty := rfl

@[simp] theorem after_nil (world : Oversight) : world.after [] = world := rfl

@[simp] theorem after_cons (world : Oversight) (event : OversightEvent)
    (events : List OversightEvent) :
    world.after (event :: events) = (world.step event).after events := rfl

section Steps

variable (world : Oversight) (cpu pid : UInt32)

/-- Reading a queue appends what waited there to the unhandled notices. -/
theorem readNotices_eq :
    world.readNotices cpu =
      { world.withNotices (world.session.notices.read cpu).2 with
        unhandled := world.unhandled ++
          if world.session.notices.isHeld cpu.toNat then
            world.session.notices.queueAt cpu.toNat else [] } := by
  have delivered := world.session.notices.read_fst cpu
  unfold readNotices
  rcases read : world.session.notices.read cpu with ⟨read?, notices⟩
  rw [read] at delivered
  cases held : world.session.notices.isHeld cpu.toNat with
  | true =>
    simp only [held, if_true, Option.map_eq_some_iff] at delivered
    obtain ⟨⟨queued, lost⟩, rfl, rfl⟩ := delivered
    rfl
  | false =>
    simp only [held, Bool.false_eq_true, if_false, Option.map_eq_none_iff] at delivered
    subst delivered
    simp [withNotices]

/-- Reading the first notice of a queue appends it to the unhandled ones, if there is one. -/
theorem readFirstNotice_eq :
    world.readFirstNotice cpu =
      { world.withNotices (world.session.notices.next cpu).2 with
        unhandled := world.unhandled ++
          if world.session.notices.isHeld cpu.toNat then
            (world.session.notices.queueAt cpu.toNat).head?.toList else [] } := by
  have delivered := world.session.notices.next_fst cpu
  unfold readFirstNotice
  rcases read : world.session.notices.next cpu with ⟨first?, notices⟩
  rw [read] at delivered
  cases held : world.session.notices.isHeld cpu.toNat with
  | true =>
    simp only [held, if_true] at delivered
    subst delivered
    cases (world.session.notices.queueAt cpu.toNat).head? <;> simp [withNotices]
  | false =>
    simp only [held, Bool.false_eq_true, if_false] at delivered
    subst delivered
    simp [withNotices]

/-- Reading every queue whose reader is held is a run of readings, in the order of the
processors. What was read so far are the unhandled notices. -/
theorem readNotices_eq_after (session : Session) (controller : Controller) :
    (⟨session, controller, []⟩ : Oversight).after
        (session.notices.openCpus.map OversightEvent.noticesRead) =
      ⟨session.readNotices.2.2, controller, session.readNotices.2.1⟩ := by
  unfold after Session.readNotices
  rw [List.foldl_map]
  refine @List.foldl_hom _ _ _
    (fun reading : List (UInt32 × Nat × UInt64) × List Notice × Session =>
      (⟨reading.2.2, controller, reading.2.1⟩ : Oversight))
    _ _ session.notices.openCpus ([], [], session) ?_
  rintro ⟨reports, read, current⟩ cpu
  have unheld := current.notices.withReader_unheld cpu NoticeBuffer.read
  simp only [step, readNotices]
  rcases delivered : current.notices.read cpu with ⟨_ | ⟨queued, lost⟩, next⟩
  · have same : next = current.notices := by
      rw [NoticeBuffers.read] at delivered
      rw [delivered] at unheld
      exact unheld rfl
    subst same
    rfl
  · rfl

/-- What a duty does to the standing of a process. -/
def tended (resolver : Resolver) (admitted : Bool) (standing : Standing) : Duty → Standing
  | .handle position =>
    match world.unhandled[position]? with
    | some notice =>
      if pid = notice.pid then
        standing.heard notice.kind? (resolver.isAlive pid) (resolver.resolve pid) admitted
      else standing
    | none => standing
  | .reconcile => standing.reconciled (resolver.isAlive pid)
  | .cleanUp => standing.cleaned
  | .retry => standing.retried (resolver.isAlive pid) (resolver.resolve pid) admitted

/-- A duty changes the standing of each process by itself, except that a process which is
absent may find the table full. -/
theorem standing_tend (resolver : Resolver) (duty : Duty) :
    ∃ admitted, ((world.standing pid).policy?.isSome = true → admitted = true) ∧
      (world.tend resolver duty).standing pid =
        world.tended pid resolver admitted (world.standing pid) duty := by
  have room : (world.standing pid).policy?.isSome = true →
      world.session.policies.admits pid = true := by
    intro present
    simp only [standing, Controller.standing] at present
    simp [BoundedMap.admits, present]
  have performed : (world.tend resolver duty).standing pid =
      Controller.standing (Controller.perform resolver (world.operation duty)
        world.session.policies) pid := by
    rw [tend_eq]
    rfl
  rw [performed]
  cases duty with
  | handle position =>
    refine ⟨_, room, ?_⟩
    simp only [operation, tended]
    cases world.unhandled[position]? with
    | none => rfl
    | some notice =>
      exact Controller.standing_handle resolver world.controller world.session.policies pid notice
  | reconcile =>
    refine ⟨_, room, ?_⟩
    have marked := Controller.standing_reconcile resolver world.controller world.session.policies
      pid
    have untouched := Controller.policies_reconcile resolver world.controller
      world.session.policies
    simp only [operation, Controller.perform_bind, Dialogue.pure_eq_done,
      Controller.perform_done, untouched]
    exact marked
  | cleanUp =>
    refine ⟨_, room, ?_⟩
    have cleaned := Controller.standing_cleanup resolver world.controller world.session.policies
      pid
    simp only [operation, Controller.perform_bind, Dialogue.pure_eq_done, Controller.perform_done]
    exact cleaned
  | retry =>
    obtain ⟨admitted, known, retried⟩ := Controller.standing_retryUndecided resolver
      world.controller world.session.policies pid
    exact ⟨admitted, known, retried⟩

/-- What an event does to the standing of a process: a tick announces the process, the
controller does a duty, or nothing changes. -/
inductive Affected : OversightEvent → Standing → Prop where
  | announced (task : Task) (about : task.pid = pid)
      (absent : (world.standing pid).policy? = none)
      (newly : (world.session.sample task).1 = .newProcess) :
      Affected (.sampled task) { world.standing pid with policy? := some Policy.undecided }
  | tended (duty : Duty) (resolver : DecisiveResolver) (admitted : Bool)
      (known : (world.standing pid).policy?.isSome = true → admitted = true) :
      Affected (.tended duty resolver)
        (world.tended pid resolver.toResolver admitted (world.standing pid) duty)
  | untouched (event : OversightEvent)
      (unannounced : ∀ task, event = .sampled task → task.pid = pid →
        (world.session.sample task).1 ≠ .newProcess)
      (untended : ∀ duty resolver, event ≠ .tended duty resolver) :
      Affected event (world.standing pid)

/-- An event that is neither a tick nor a duty, and leaves the table and the controller
alone, leaves standings alone. -/
theorem untouched_of_same {event : OversightEvent} {after : Oversight}
    (unsampled : ∀ task, event ≠ .sampled task)
    (untended : ∀ duty resolver, event ≠ .tended duty resolver)
    (sameController : after.controller = world.controller)
    (samePolicies : after.session.policies = world.session.policies) :
    Affected world pid event (after.standing pid) := by
  have same : after.standing pid = world.standing pid := by
    rw [standing, sameController, samePolicies]
    rfl
  rw [same]
  exact .untouched event (fun task sampled => absurd sampled (unsampled task)) untended

/-- A sample announces its process, or has no effect on any process. -/
theorem standing_sampled (task : Task) :
    Affected world pid (.sampled task) ((world.step (.sampled task)).standing pid) := by
  rcases reached : world.session.sample task with ⟨outcome, next⟩
  have announced : Session.Announced world.session task outcome next := by
    have always := world.session.sample_announced task
    rwa [reached] at always
  have stepped : world.step (.sampled task) = { world with session := next } := by
    rw [step, reached]
  rw [stepped]
  cases announced with
  | newProcess policies _ absent inserted written sent =>
    have told := world.session.policies.get?_insert_ok task.pid pid Policy.undecided
      UpdateFlags.onlyNew (by rw [inserted])
    rw [inserted] at told
    by_cases about : task.pid = pid
    · have listed : ({ world with session := next } : Oversight).standing pid =
          { world.standing pid with policy? := some Policy.undecided } := by
        simp only [standing, Controller.standing, written, told, about, if_true]
      rw [listed]
      exact .announced task about (about ▸ absent) (by rw [reached])
    · have same : ({ world with session := next } : Oversight).standing pid =
          world.standing pid := by
        simp only [standing, Controller.standing, written, told, Ne.symm about, if_false]
      rw [same]
      refine .untouched _ ?_ (by simp)
      rintro other ⟨⟩ here
      exact absurd here about
  | silent _ _ other unwritten unsent =>
    have same : ({ world with session := next } : Oversight).standing pid =
        world.standing pid := by
      simp only [standing, unwritten]
    rw [same]
    refine .untouched _ ?_ (by simp)
    rintro task ⟨⟩ -
    rwa [reached]

/-- Every event has one of these effects on a process. -/
theorem standing_step (event : OversightEvent) :
    Affected world pid event ((world.step event).standing pid) := by
  cases event with
  | sampled task => exact world.standing_sampled pid task
  | terminalReleased task onExit =>
    exact world.untouched_of_same pid (by simp) (by simp) rfl
      (world.session.terminalReleased_announced task onExit).1
  | imageReplaced task =>
    exact world.untouched_of_same pid (by simp) (by simp) rfl
      (world.session.imageReplaced_announced task).1
  | collected =>
    exact world.untouched_of_same pid (by simp) (by simp) rfl world.session.collect_announced.1
  | unwindersChanged change => exact world.untouched_of_same pid (by simp) (by simp) rfl rfl
  | noticeSent cpu notice => exact world.untouched_of_same pid (by simp) (by simp) rfl rfl
  | readerTaken cpu => exact world.untouched_of_same pid (by simp) (by simp) rfl rfl
  | noticesRead cpu =>
    rw [step, readNotices_eq]
    exact world.untouched_of_same pid (by simp) (by simp) rfl rfl
  | firstNoticeRead cpu =>
    rw [step, readFirstNotice_eq]
    exact world.untouched_of_same pid (by simp) (by simp) rfl rfl
  | lossTaken cpu => exact world.untouched_of_same pid (by simp) (by simp) rfl rfl
  | readerDropped cpu => exact world.untouched_of_same pid (by simp) (by simp) rfl rfl
  | tended duty resolver =>
    obtain ⟨admitted, known, settled⟩ := world.standing_tend pid resolver.toResolver duty
    rw [step, settled]
    exact .tended duty resolver admitted known

end Steps

end Oversight
end SamplingProfiler
