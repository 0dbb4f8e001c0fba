import SamplingProfiler.Proofs.Upkeep

/-!
# Dead processes

From the moment on that a controller takes a process for dead nothing is done about it
until the next cleanup: the resolver is not asked about it, the table is not told about it,
and it stays dead, whatever notices come in and whatever the replies are. A dead process is
never undecided at the same time.

What an operation leaves of the dead is a relation between the controllers before and after
it and the exchanges made on the way. It holds of single exchanges and can be put together,
so each operation is a chain of such steps, and so is a run.
-/

namespace SamplingProfiler
namespace Controller

open Dialogue (Finally finally_some finally_none)

/-- No process is both dead and undecided. -/
def SetsDisjoint (controller : Controller) : Prop :=
  ∀ pid, controller.isDead pid = true → controller.isUndecided pid = false

/-- The exchange that finds a process gone. -/
def foundGone (pid : UInt32) : Exchange :=
  ⟨.isAlive pid, false⟩

/-- The dead are left alone: they stay dead, and no call is about them. A process that is
found gone on the way is one of them from then on. -/
structure LeavesDead (before : Controller) (made : List Exchange) (after : Controller) :
    Prop where
  disjoint : before.SetsDisjoint → after.SetsDisjoint
  kept : ∀ pid, before.isDead pid = true → after.isDead pid = true
  untouched : ∀ pid, before.isDead pid = true →
    ∀ exchange ∈ made, exchange.1.pid? ≠ some pid
  marked : ∀ pid, foundGone pid ∈ made → after.isDead pid = true
  untouchedOnceGone : made.Pairwise fun earlier later =>
    ∀ pid, earlier = foundGone pid → later.1.pid? ≠ some pid

/-- Where nothing happens, the dead are left alone. -/
theorem LeavesDead.refl (controller : Controller) : LeavesDead controller [] controller where
  disjoint := id
  kept _ dead := dead
  untouched := by simp
  marked := by simp
  untouchedOnceGone := List.Pairwise.nil

/-- The dead are left alone in a sequence if they are in both parts.

What was found gone in the first part is dead when the second one begins, so no call of the
second part is about it. -/
theorem LeavesDead.trans {first second third : Controller} {made later : List Exchange}
    (earlier : LeavesDead first made second) (further : LeavesDead second later third) :
    LeavesDead first (made ++ later) third where
  disjoint apart := further.disjoint (earlier.disjoint apart)
  kept pid dead := further.kept pid (earlier.kept pid dead)
  untouched := by
    intro pid dead exchange member
    rcases List.mem_append.mp member with member | member
    · exact earlier.untouched pid dead exchange member
    · exact further.untouched pid (earlier.kept pid dead) exchange member
  marked := by
    intro pid member
    rcases List.mem_append.mp member with member | member
    · exact further.kept pid (earlier.marked pid member)
    · exact further.marked pid member
  untouchedOnceGone := by
    refine List.pairwise_append.mpr
      ⟨earlier.untouchedOnceGone, further.untouchedOnceGone, ?_⟩
    rintro found member exchange following pid rfl
    exact further.untouched pid (earlier.marked pid member) exchange following

/-- A single exchange leaves the dead alone if it is about none of them, and a process that
it finds gone is dead afterwards. -/
theorem LeavesDead.single {before after : Controller} (exchange : Exchange)
    (disjoint : before.SetsDisjoint → after.SetsDisjoint)
    (kept : ∀ pid, before.isDead pid = true → after.isDead pid = true)
    (about : ∀ pid, exchange.1.pid? = some pid → before.isDead pid = false)
    (marked : ∀ pid, foundGone pid = exchange → after.isDead pid = true) :
    LeavesDead before [exchange] after where
  disjoint := disjoint
  kept := kept
  untouched := by
    intro pid dead other member
    cases List.mem_singleton.mp member
    intro same
    simp [about pid same] at dead
  marked pid member := marked pid (List.mem_singleton.mp member)
  untouchedOnceGone := List.pairwise_singleton _ _

variable (controller : Controller) (pid : UInt32)

/-- Marking a process dead takes it out of the undecided ones. -/
theorem setsDisjoint_markDead (disjoint : controller.SetsDisjoint) :
    (controller.markDead pid).SetsDisjoint := by
  intro tested dead
  rw [isDead_markDead, Bool.or_eq_true] at dead
  rw [isUndecided_markDead]
  rcases dead with here | dead
  · simp [here]
  · simp [disjoint tested dead]

/-- A process that is not dead may come into the undecided ones. -/
theorem setsDisjoint_setUndecided (alive : controller.isDead pid = false)
    (disjoint : controller.SetsDisjoint) :
    SetsDisjoint { controller with undecided := controller.undecided.set pid () } := by
  intro tested dead
  have other : tested ≠ pid := by
    rintro rfl
    simp [show controller.isDead tested = true from dead] at alive
  have unlisted : controller.undecided.contains tested = false := disjoint tested dead
  simp [isUndecided, contains_set, other, unlisted]

/-- A process may leave the undecided ones. -/
theorem setsDisjoint_eraseUndecided (disjoint : controller.SetsDisjoint) :
    SetsDisjoint { controller with undecided := controller.undecided.erase pid } := by
  intro tested dead
  have unlisted : controller.undecided.contains tested = false := disjoint tested dead
  simp [isUndecided, contains_erase, unlisted]

/-- Marking a process dead leaves the dead alone. -/
theorem leavesDead_markDead : LeavesDead controller [] (controller.markDead pid) where
  disjoint := controller.setsDisjoint_markDead pid
  kept tested dead := by simp [isDead_markDead, dead]
  untouched := by simp
  marked := by simp
  untouchedOnceGone := List.Pairwise.nil

/-- Asking about a process that is not dead, and being told that it is gone, leaves the dead
alone if the process is marked dead then. -/
theorem leavesDead_gone (alive : controller.isDead pid = false) :
    LeavesDead controller [foundGone pid] (controller.markDead pid) := by
  refine .single _ (controller.setsDisjoint_markDead pid) ?_ ?_ ?_
  · intro tested dead
    simp [isDead_markDead, dead]
  · rintro tested ⟨⟩
    exact alive
  · rintro tested ⟨⟩
    simp [isDead_markDead]

/-- Any other exchange about a process that is not dead leaves the dead alone. -/
theorem leavesDead_exchange {after : Controller} (exchange : Exchange)
    (about : exchange.1.pid? = some pid) (alive : controller.isDead pid = false)
    (present : exchange ≠ foundGone pid) (same : after.dead = controller.dead)
    (disjoint : controller.SetsDisjoint → after.SetsDisjoint) :
    LeavesDead controller [exchange] after := by
  refine .single exchange disjoint ?_ ?_ ?_
  · intro tested dead
    rwa [isDead, same]
  · intro tested concerned
    cases about.symm.trans concerned
    exact alive
  · rintro tested rfl
    cases about
    exact absurd rfl present

/-- Resolving a process leaves the dead alone. -/
theorem resolve_leavesDead :
    (controller.resolve pid).Along (Finally fun made last => LeavesDead controller made last) := by
  unfold resolve
  cases alive : controller.isDead pid with
  | true => exact finally_some (.refl controller)
  | false =>
    simp only [Bool.false_eq_true, if_false]
    refine ⟨finally_none _ _, ?_⟩
    intro found
    cases found with
    | false => exact finally_some (controller.leavesDead_gone pid alive)
    | true =>
      have asked : LeavesDead controller [⟨.isAlive pid, true⟩] controller :=
        controller.leavesDead_exchange pid _ rfl alive (by simp [foundGone]) rfl id
      refine ⟨finally_none _ _, ?_⟩
      intro decision
      cases decision with
      | none =>
        refine finally_some (asked.trans ?_)
        exact controller.leavesDead_exchange pid _ rfl alive (by simp [foundGone]) rfl
          (controller.setsDisjoint_setUndecided pid alive)
      | some policy =>
        refine ⟨finally_none _ _, ?_⟩
        intro written
        have told : LeavesDead controller [⟨.resolve pid, some policy⟩] controller :=
          controller.leavesDead_exchange pid _ rfl alive (by simp [foundGone]) rfl id
        refine finally_some (asked.trans (told.trans ?_))
        exact controller.leavesDead_exchange pid _ rfl alive (by simp [foundGone]) rfl
          (controller.setsDisjoint_eraseUndecided pid)

/-- Handling a notice leaves the dead alone. -/
theorem handle_leavesDead (notice : Notice) :
    (controller.handle notice).Along
      (Finally fun made last => LeavesDead controller made last) := by
  unfold handle
  cases notice.kind? with
  | none => exact finally_some (.refl controller)
  | some kind =>
    cases kind with
    | firstSeen => exact controller.resolve_leavesDead notice.pid
    | replaced => exact controller.resolve_leavesDead notice.pid
    | exited => exact finally_some (controller.leavesDead_markDead notice.pid)

/-- Resolving processes one after the other leaves the dead alone. -/
theorem resolveAll_leavesDead (pids : List UInt32) :
    (controller.resolveAll pids).Along
      (Finally fun made last => LeavesDead controller made last) := by
  induction pids generalizing controller with
  | nil => exact finally_some (.refl controller)
  | cons pid rest inductionHypothesis =>
    refine (controller.resolve_leavesDead pid).bindFinally ?_
    intro made next resolved
    refine (inductionHypothesis next).imp ?_
    intro later last? remaining last given
    exact resolved.trans (remaining last given)

/-- Asking again about undecided processes leaves the dead alone. -/
theorem retryUndecided_leavesDead :
    controller.retryUndecided.Along
      (Finally fun made last => LeavesDead controller made last) := by
  have emptied : LeavesDead controller [] { controller with undecided := Entries.empty } :=
    ⟨fun _ _ _ => rfl, fun _ dead => dead, by simp, by simp, List.Pairwise.nil⟩
  refine (resolveAll_leavesDead _ controller.undecided.keys).imp ?_
  intro made last? resolved last given
  exact emptied.trans (resolved last given)

/-- Looking for processes that are gone leaves the dead alone, those found on the way
included: a process that is listed twice is not asked about twice. -/
theorem markGone_leavesDead (pids : List UInt32) :
    (controller.markGone pids).Along
      (Finally fun made result => LeavesDead controller made result.2) := by
  induction pids generalizing controller with
  | nil => exact finally_some (.refl controller)
  | cons pid rest inductionHypothesis =>
    unfold markGone
    cases alive : controller.isDead pid with
    | true => exact inductionHypothesis controller
    | false =>
      simp only [Bool.false_eq_true, if_false]
      refine ⟨finally_none _ _, ?_⟩
      intro found
      cases found with
      | true =>
        have asked : LeavesDead controller [⟨.isAlive pid, true⟩] controller :=
          controller.leavesDead_exchange pid _ rfl alive (by simp [foundGone]) rfl id
        refine (inductionHypothesis controller).imp ?_
        intro made result? remaining result given
        exact asked.trans (remaining result given)
      | false =>
        refine (inductionHypothesis (controller.markDead pid)).bindFinally ?_
        intro made result remaining
        refine finally_some ?_
        rw [List.append_nil]
        exact (controller.leavesDead_gone pid alive).trans remaining

/-- A reconciliation leaves the dead alone. -/
theorem reconcile_leavesDead :
    controller.reconcile.Along
      (Finally fun made result => LeavesDead controller made result.2) := by
  refine ⟨finally_none _ _, ?_⟩
  intro listed
  have asked : LeavesDead controller [⟨.list, listed⟩] controller :=
    .single _ id (fun _ dead => dead) (by rintro tested ⟨⟩) (by rintro tested ⟨⟩)
  cases listed with
  | none =>
    rintro result ⟨⟩
    exact asked
  | some pids =>
    refine (controller.markGone_leavesDead pids).imp ?_
    intro made result? marked result given
    exact asked.trans (marked result given)

/-- Every job but a cleanup leaves the dead alone. -/
theorem operation_leavesDead (job : Job) (other : job ≠ .cleanUp) :
    (controller.operation job).Along
      (Finally fun made last => LeavesDead controller made last) := by
  cases job with
  | handle notice => exact controller.handle_leavesDead notice
  | hearLost cpu lost => exact finally_some (.refl controller)
  | reconcile => exact controller.reconcile_leavesDead.returning Prod.snd
  | retry => exact controller.retryUndecided_leavesDead
  | cleanUp => exact absurd rfl other

/-- Every job keeps the two sets disjoint, a cleanup by forgetting the dead. -/
theorem operation_setsDisjoint (job : Job) :
    (controller.operation job).Along
      (Finally fun _ last => controller.SetsDisjoint → last.SetsDisjoint) := by
  by_cases other : job = .cleanUp
  · subst other
    refine controller.cleanUp_along.imp ?_
    intro made last? cleaned last given disjoint pid dead
    rw [(cleaned last given).2] at dead
    cases dead
  · refine (controller.operation_leavesDead job other).imp ?_
    intro made last? left last given
    exact (left last given).disjoint

end Controller

namespace Upkeep

open Controller (Call Reply Exchange foundGone LeavesDead)

variable {World : Type} (answer : (call : Call) → World → Reply call × World)

/-- In every run from a fresh controller the two sets are disjoint. -/
theorem setsDisjoint_after (world : World) (events : List (UpkeepEvent World)) :
    ((⟨Controller.initial, world⟩ : Upkeep World).after answer
      events).controller.SetsDisjoint := by
  refine exchanges_relate answer
    (fun before _ after => before.SetsDisjoint → after.SetsDisjoint) (fun _ => id)
    (fun first second apart => second (first apart)) ⟨Controller.initial, world⟩ events ?_ ?_
  · intro current event member
    cases event with
    | worked job => exact (current.controller.operation_setsDisjoint job).ended answer current.world
    | elapsed change => exact id
  · intro pid dead
    cases dead

/-- A run without a cleanup leaves the dead alone. -/
theorem exchanges_leaveDead (upkeep : Upkeep World) (events : List (UpkeepEvent World))
    (uncleaned : .worked .cleanUp ∉ events) :
    LeavesDead upkeep.controller (upkeep.exchanges answer events)
      (upkeep.after answer events).controller := by
  refine exchanges_relate answer LeavesDead .refl .trans upkeep events ?_
  intro current event member
  cases event with
  | worked job =>
    have other : job ≠ .cleanUp := by
      rintro rfl
      exact uncleaned member
    exact (current.controller.operation_leavesDead job other).ended answer current.world
  | elapsed change => exact .refl current.controller

/-- Dead processes stay untouched until the next cleanup. Take any table and any resolver,
whose answers may vary in any way, and any state that a controller comes to from its start.

No process is both dead and undecided. As long as no cleanup follows, whatever else does, a
process that is dead stays dead, and no call is made about it: neither is its entry written
or removed, nor is the resolver asked whether it is alive or how it is profiled. The same
holds from the reply on that finds a process gone, also within the operation that asked. -/
theorem dead_processes_stay_untouched (world : World) (earlier : List (UpkeepEvent World)) :
    let reached := (⟨Controller.initial, world⟩ : Upkeep World).after answer earlier
    reached.controller.SetsDisjoint ∧
      ∀ later : List (UpkeepEvent World), .worked .cleanUp ∉ later →
        (∀ pid, reached.controller.isDead pid = true →
          (reached.after answer later).controller.isDead pid = true ∧
            ∀ exchange ∈ reached.exchanges answer later, exchange.1.pid? ≠ some pid) ∧
        (∀ pid, foundGone pid ∈ reached.exchanges answer later →
          (reached.after answer later).controller.isDead pid = true) ∧
        (reached.exchanges answer later).Pairwise fun found next =>
          ∀ pid, found = foundGone pid → next.1.pid? ≠ some pid := by
  intro reached
  refine ⟨setsDisjoint_after answer world earlier, ?_⟩
  intro later uncleaned
  have left := exchanges_leaveDead answer reached later uncleaned
  refine ⟨?_, left.marked, left.untouchedOnceGone⟩
  intro pid dead
  exact ⟨left.kept pid dead, left.untouched pid dead⟩

/-- The resolver for which every process but the sixth is alive. -/
def allButSixth : Resolver where
  resolve _ := none
  isAlive pid := pid != 6

/-- A table with an entry of the fifth process and one of the sixth. -/
def twoEntries : BoundedMap UInt32 Policy :=
  [5, 6].foldl (fun table pid => (table.insert pid Policy.undecided UpdateFlags.any).2)
    (BoundedMap.ofCapacity 4)

/-- A fifth process has exited, and a notice comes in that it was seen. A reconciliation
finds a sixth one gone, and a notice comes in that this one replaced its image. All that was
asked is whether the sixth process is alive. -/
theorem exited_process_left_alone :
    let answer := Tending.answer allButSixth Refusals.none
    let reached := (⟨Controller.initial, ⟨twoEntries, []⟩⟩ : Upkeep Tending).after answer
      [.worked (.handle (.ofKind .exited 5))]
    let later : List (UpkeepEvent Tending) :=
      [.worked (.handle (.ofKind .firstSeen 5)), .worked .reconcile,
        .worked (.handle (.ofKind .replaced 6))]
    reached.exchanges answer later = [⟨.list, some [5, 6]⟩, foundGone 6] ∧
      ((reached.after answer later).controller.isDead 5 = true ∧
        ∀ exchange ∈ reached.exchanges answer later, exchange.1.pid? ≠ some 5) ∧
      (reached.after answer later).controller.isDead 6 = true := by
  intro answer reached later
  have dead : reached.controller.isDead 5 = true := rfl
  have made : reached.exchanges answer later = [⟨.list, some [5, 6]⟩, foundGone 6] := rfl
  obtain ⟨-, untouched⟩ := dead_processes_stay_untouched answer ⟨twoEntries, []⟩
    [.worked (.handle (.ofKind .exited 5))]
  obtain ⟨leftAlone, marked, -⟩ := untouched later (by simp [later])
  refine ⟨made, leftAlone 5 dead, ?_⟩
  apply marked 6
  change foundGone 6 ∈ reached.exchanges answer later
  simp [made]

end Upkeep
end SamplingProfiler
