import SamplingProfiler.Controller.Tending
import SamplingProfiler.Proofs.Collections
import SamplingProfiler.Proofs.Ticks

/-!
# Runs of a session

A run is a list of events, each of which finishes before the next one begins: ticks,
lifecycle probes, collections, and changes of the tables that collections do not
look at. Counts and stacks are written by ticks and collections alone. The table of
processes may change in any way at any time, so whatever a controller does to it is
covered.

`step_effect` says once what an event can do to counts and stacks. Invariants of runs
follow from it by one induction.
-/

namespace SamplingProfiler

/-- What can happen to a session. -/
inductive SessionEvent where
  | sampled (task : Task)
  | terminalReleased (task : Task) (onExit : Bool)
  | imageReplaced (task : Task)
  | collected
  /-- The table of processes was changed by somebody else. -/
  | policiesChanged (change : BoundedMap UInt32 Policy → BoundedMap UInt32 Policy)
  /-- Notices were read, or readers came and went. -/
  | noticesChanged (change : NoticeBuffers → NoticeBuffers)
  /-- An unwinder was put into a slot or taken out of it. -/
  | unwindersChanged (change : UnwinderSlots → UnwinderSlots)

namespace Session

/-- The session after an event. -/
def step (session : Session) : SessionEvent → Session
  | .sampled task => (session.sample task).2
  | .terminalReleased task onExit => (session.terminalReleased task onExit).2
  | .imageReplaced task => (session.imageReplaced task).2
  | .collected => session.collect.2
  | .policiesChanged change => { session with policies := change session.policies }
  | .noticesChanged change => { session with notices := change session.notices }
  | .unwindersChanged change => { session with unwinders := change session.unwinders }

/-- The session after a list of events. -/
def after (session : Session) (events : List SessionEvent) : Session :=
  events.foldl step session

/-- What is read off the events of a run, each in the session where it happens. -/
def gathered {Item : Type} (read : Session → SessionEvent → List Item) (session : Session) :
    List SessionEvent → List Item
  | [] => []
  | event :: rest => read session event ++ (session.step event).gathered read rest

/-- What an event does to counts and stacks: a tick is counted, a collection takes
place, or nothing changes there. -/
inductive StepEffect (session : Session) : SessionEvent → Session → Prop where
  | counted (task : Task) (policy : Policy) (eligible : session.isEligible task = true)
      (known : session.policies.get? task.pid = some policy)
      (ticked : session.sample task =
        ((session.countTick task policy).1,
          (session.countTick task policy).2.record (session.countTick task policy).1)) :
      StepEffect session (.sampled task) (session.sample task).2
  | collected : StepEffect session .collected session.collect.2
  | elsewhere (event : SessionEvent) (next : Session) (other : event ≠ .collected)
      (ineligible : ∀ task, event = .sampled task → session.isEligible task = false)
      (same : session.SameProfile next) : StepEffect session event next

/-- Every event has one of these effects. -/
theorem step_effect (session : Session) (event : SessionEvent) :
    StepEffect session event (session.step event) := by
  cases event with
  | sampled task =>
    cases eligible : session.isEligible task with
    | true =>
      obtain ⟨admitted, policy, known, kind⟩ := (session.isEligible_iff task).mp eligible
      exact .counted task policy eligible known
        (session.sample_counting task policy admitted known kind)
    | false =>
      refine .elsewhere _ _ (by simp) ?_ (session.sample_uncounted task eligible).1
      intro other same
      cases same
      exact eligible
  | terminalReleased task onExit =>
    exact .elsewhere _ _ (by simp) (by simp) (session.terminalReleased_sameProfile task onExit)
  | imageReplaced task =>
    exact .elsewhere _ _ (by simp) (by simp) (session.imageReplaced_sameProfile task)
  | collected => exact .collected
  | policiesChanged change => exact .elsewhere _ _ (by simp) (by simp) ⟨rfl, rfl, rfl, rfl⟩
  | noticesChanged change => exact .elsewhere _ _ (by simp) (by simp) ⟨rfl, rfl, rfl, rfl⟩
  | unwindersChanged change => exact .elsewhere _ _ (by simp) (by simp) ⟨rfl, rfl, rfl, rfl⟩

/-- No event changes the options. -/
theorem options_step (session : Session) (event : SessionEvent) :
    (session.step event).options = session.options := by
  cases event with
  | sampled task => exact (session.run_frame task _).1
  | terminalReleased task onExit => exact (session.run_frame task _).1
  | imageReplaced task => exact (session.run_frame task _).1
  | collected =>
    rw [step, collect_eq]
  | policiesChanged change => rfl
  | noticesChanged change => rfl
  | unwindersChanged change => rfl

/-- No event but a collection counts a round. -/
theorem rounds_step (session : Session) (event : SessionEvent) (other : event ≠ .collected) :
    (session.step event).rounds = session.rounds := by
  cases event with
  | sampled task => exact (session.run_frame task _).2.2.2
  | terminalReleased task onExit => exact (session.run_frame task _).2.2.2
  | imageReplaced task => exact (session.run_frame task _).2.2.2
  | collected => exact absurd rfl other
  | policiesChanged change => rfl
  | noticesChanged change => rfl
  | unwindersChanged change => rfl

@[simp] theorem after_nil (session : Session) : session.after [] = session := rfl

@[simp] theorem after_cons (session : Session) (event : SessionEvent)
    (events : List SessionEvent) :
    session.after (event :: events) = (session.step event).after events := rfl

/-- Events that follow others start from the session those leave behind. -/
theorem after_append (session : Session) (first second : List SessionEvent) :
    session.after (first ++ second) = (session.after first).after second :=
  List.foldl_append

/-- What every event preserves, every run preserves. -/
theorem after_preserves (invariant : Session → Prop)
    (preserved : ∀ session event, invariant session → invariant (session.step event))
    (session : Session) (events : List SessionEvent) (initial : invariant session) :
    invariant (session.after events) := by
  induction events generalizing session with
  | nil => exact initial
  | cons event rest inductionHypothesis =>
    exact inductionHypothesis _ (preserved session event initial)

/-- No run changes the options. -/
theorem options_after (session : Session) (events : List SessionEvent) :
    (session.after events).options = session.options :=
  after_preserves (fun current => current.options = session.options)
    (fun current event same => (current.options_step event).trans same) session events rfl

/-- The counts after a tick are those after counting its key. -/
theorem counted_counts (session : Session) (task : Task) (policy : Policy)
    (consistent : session.counts.Consistent) :
    KeyCounted session.counts (session.tickKey task policy)
      (session.countTick task policy).1 (session.countTick task policy).2.counts := by
  have unchanged : (session.afterCaptures task policy).counts = session.counts := by
    rw [afterCaptures_frame]
  have counted := (session.afterCaptures task policy).countKey_counted
    (unchanged ▸ consistent) (session.tickKey task policy)
  rwa [unchanged] at counted

/-- The stacks after a tick are those after its captures. -/
theorem counted_stacks (session : Session) (task : Task) (policy : Policy) :
    (session.countTick task policy).2.stackStore =
      (session.afterCaptures task policy).stackStore := by
  rw [countTick, countKey_frame]

/-- Every event keeps the counter of the table of counts right. -/
theorem step_consistent (session : Session) (event : SessionEvent)
    (consistent : session.counts.Consistent) : (session.step event).counts.Consistent := by
  generalize reached : session.step event = next
  cases reached ▸ session.step_effect event with
  | counted task policy eligible known ticked =>
    rw [ticked]
    exact (session.counted_counts task policy consistent).consistent consistent
  | collected =>
    rw [collect_eq]
    exact session.counts.consistent_drain consistent
  | elsewhere _ _ _ _ same => exact same.counts ▸ consistent

/-- In every run of a fresh session the counter of the table of counts is right. -/
theorem consistent_after (options : Options) (cpus : UInt32) (events : List SessionEvent) :
    ((ofOptions options cpus).after events).counts.Consistent :=
  after_preserves (fun session => session.counts.Consistent) step_consistent _ events
    (BoundedMap.consistent_ofCapacity _)

end Session
end SamplingProfiler
