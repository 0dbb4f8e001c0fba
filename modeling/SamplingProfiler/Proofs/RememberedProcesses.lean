import SamplingProfiler.Proofs.DeadProcesses

/-!
# Remembered processes

A controller comes back by itself to the processes that it remembers, the dead and the
undecided ones. It forgets one only when it calls for a change of that process's entry, and
a process that it was asked to resolve is remembered unless its entry was to be changed.
Whether the change worked makes no difference to what is remembered.

What an operation does for the processes that it has to account for is a relation between
the controllers before and after it and the exchanges made on the way, as for the dead.
-/

namespace SamplingProfiler
namespace Controller

open Dialogue (Finally finally_some finally_none)

/-- The process whose entry a call changes, if the call works. -/
def Call.changed? : Call → Option UInt32
  | .write pid _ => some pid
  | .remove pid => some pid
  | _ => none

/-- Whether a controller comes back to a process by itself. -/
def isMarked (controller : Controller) (pid : UInt32) : Bool :=
  controller.isDead pid || controller.isUndecided pid

variable (controller : Controller) (pid : UInt32)

/-- A process that is marked dead is marked. -/
theorem isMarked_markDead (tested : UInt32) :
    (controller.markDead pid).isMarked tested =
      (decide (tested = pid) || controller.isMarked tested) := by
  simp only [isMarked, isDead_markDead, isUndecided_markDead]
  by_cases here : tested = pid <;> simp [here]

/-- A process that comes into the undecided ones is marked. -/
theorem isMarked_setUndecided (tested : UInt32) :
    isMarked { controller with undecided := controller.undecided.set pid () } tested =
      (decide (tested = pid) || controller.isMarked tested) := by
  simp only [isMarked, isDead, isUndecided, contains_set]
  by_cases here : tested = pid <;> simp [here]

/-- When a process leaves the undecided ones, all others are marked as before. -/
theorem isMarked_eraseUndecided (tested : UInt32) (other : tested ≠ pid) :
    isMarked { controller with undecided := controller.undecided.erase pid } tested =
      controller.isMarked tested := by
  simp [isMarked, isDead, isUndecided, contains_erase, other]

/-- A controller accounts for processes: one that was marked, or that was asked about, is
marked afterwards unless its entry was to be changed. It writes only what it was told. -/
structure Accounts (asked : List UInt32) (before : Controller) (made : List Exchange)
    (after : Controller) : Prop where
  remembered : ∀ pid, before.isMarked pid = true ∨ pid ∈ asked →
    after.isMarked pid = true ∨ ∃ exchange ∈ made, exchange.1.changed? = some pid
  told : ∀ pid policy worked, ⟨.write pid policy, worked⟩ ∈ made →
    ⟨.resolve pid, some policy⟩ ∈ made

/-- Where nothing happens, processes are accounted for. -/
theorem Accounts.refl : Accounts [] controller [] controller :=
  ⟨fun pid marked => .inl (by simpa using marked), by simp⟩

/-- A sequence accounts for what its parts account for. -/
theorem Accounts.trans {asked further : List UInt32} {first second third : Controller}
    {made later : List Exchange} (earlier : Accounts asked first made second)
    (next : Accounts further second later third) :
    Accounts (asked ++ further) first (made ++ later) third where
  remembered := by
    intro pid known
    have onwards : second.isMarked pid = true ∨ pid ∈ further →
        third.isMarked pid = true ∨
          ∃ exchange ∈ made ++ later, exchange.1.changed? = some pid := by
      intro marked
      rcases next.remembered pid marked with marked | ⟨exchange, member, changes⟩
      · exact .inl marked
      · exact .inr ⟨exchange, List.mem_append_right _ member, changes⟩
    rw [List.mem_append, ← or_assoc] at known
    rcases known with known | asked
    · rcases earlier.remembered pid known with marked | ⟨exchange, member, changes⟩
      · exact onwards (.inl marked)
      · exact .inr ⟨exchange, List.mem_append_left _ member, changes⟩
    · exact onwards (.inr asked)
  told := by
    intro pid policy worked member
    rcases List.mem_append.mp member with member | member
    · exact List.mem_append_left _ (earlier.told pid policy worked member)
    · exact List.mem_append_right _ (next.told pid policy worked member)

/-- Exchanges that change no entry account for processes if no mark is lost and what was asked
about is marked. -/
theorem Accounts.asking {after : Controller} {asked : List UInt32} {made : List Exchange}
    (marks : ∀ pid, controller.isMarked pid = true ∨ pid ∈ asked → after.isMarked pid = true)
    (unchanged : ∀ exchange ∈ made, exchange.1.changed? = none) :
    Accounts asked controller made after where
  remembered pid known := .inl (marks pid known)
  told := by
    intro pid policy worked member
    cases unchanged _ member

/-- A process that is resolved is accounted for: it is dead, or it becomes dead or
undecided, or what the resolver says of it is written. -/
theorem resolve_accounts :
    (controller.resolve pid).Along
      (Finally fun made last => Accounts [pid] controller made last) := by
  unfold resolve
  cases alive : controller.isDead pid with
  | true =>
    refine finally_some (.asking controller ?_ (by simp))
    rintro tested (marked | asked)
    · exact marked
    · cases List.mem_singleton.mp asked
      simp [isMarked, alive]
  | false =>
    simp only [Bool.false_eq_true, if_false]
    refine ⟨finally_none _ _, ?_⟩
    intro found
    cases found with
    | false =>
      refine finally_some (.asking controller ?_ (by simp [Call.changed?]))
      intro tested known
      rw [isMarked_markDead]
      simpa [or_comm] using known
    | true =>
      refine ⟨finally_none _ _, ?_⟩
      intro decision
      cases decision with
      | none =>
        refine finally_some (.asking controller ?_ (by simp [Call.changed?]))
        intro tested known
        rw [isMarked_setUndecided]
        simpa [or_comm] using known
      | some policy =>
        refine ⟨finally_none _ _, ?_⟩
        intro written
        refine finally_some ⟨?_, ?_⟩
        · intro tested known
          by_cases here : tested = pid
          · exact .inr ⟨⟨.write pid policy, written⟩, by simp, by rw [here]; rfl⟩
          · left
            rw [isMarked_eraseUndecided _ _ _ here]
            simpa [here] using known
        · intro other decided worked member
          simp only [List.mem_cons, List.not_mem_nil, or_false] at member
          rcases member with ⟨⟨⟩⟩ | ⟨⟨⟩⟩ | ⟨⟨⟩⟩
          simp

/-- Resolving processes one after the other accounts for each of them. -/
theorem resolveAll_accounts (pids : List UInt32) :
    (controller.resolveAll pids).Along
      (Finally fun made last => Accounts pids controller made last) := by
  induction pids generalizing controller with
  | nil => exact finally_some (.refl controller)
  | cons pid rest inductionHypothesis =>
    refine (controller.resolve_accounts pid).bindFinally ?_
    intro made next resolved
    refine (inductionHypothesis next).imp ?_
    intro later last? remaining last given
    exact resolved.trans (remaining last given)

/-- Asking again about undecided processes accounts for them, although the set is emptied
first. -/
theorem retryUndecided_accounts :
    controller.retryUndecided.Along
      (Finally fun made last => Accounts [] controller made last) := by
  refine (resolveAll_accounts _ controller.undecided.keys).imp ?_
  intro made last? resolved last given
  obtain ⟨remembered, told⟩ := resolved last given
  refine ⟨?_, told⟩
  rintro pid (marked | asked)
  · apply remembered
    rw [isMarked, Bool.or_eq_true] at marked
    rcases marked with dead | undecided
    · left
      simpa [isMarked] using .inl dead
    · right
      exact (contains_iff controller.undecided pid).mp undecided
  · cases asked

/-- Looking for processes that are gone accounts for all. -/
theorem markGone_accounts (pids : List UInt32) :
    (controller.markGone pids).Along
      (Finally fun made result => Accounts [] controller made result.2) := by
  induction pids generalizing controller with
  | nil => exact finally_some (.refl controller)
  | cons pid rest inductionHypothesis =>
    unfold markGone
    split
    · exact inductionHypothesis controller
    · refine ⟨finally_none _ _, ?_⟩
      intro found
      cases found with
      | true =>
        have asked : Accounts [] controller [⟨.isAlive pid, true⟩] controller :=
          .asking controller (by simp) (by simp [Call.changed?])
        refine (inductionHypothesis controller).imp ?_
        intro made result? remaining result given
        exact asked.trans (remaining result given)
      | false =>
        have marked : Accounts [] controller [foundGone pid] (controller.markDead pid) := by
          refine .asking controller ?_ (by simp [foundGone, Call.changed?])
          rintro tested (known | ⟨⟨⟩⟩)
          simp [isMarked_markDead, known]
        refine (inductionHypothesis (controller.markDead pid)).bindFinally ?_
        intro made result remaining
        refine finally_some ?_
        rw [List.append_nil]
        exact marked.trans remaining

/-- A reconciliation accounts for all. -/
theorem reconcile_accounts :
    controller.reconcile.Along
      (Finally fun made result => Accounts [] controller made result.2) := by
  refine ⟨finally_none _ _, ?_⟩
  intro listed
  have asked : Accounts [] controller [⟨.list, listed⟩] controller :=
    .asking controller (by simp) (by simp [Call.changed?])
  cases listed with
  | none =>
    rintro result ⟨⟩
    exact asked
  | some pids =>
    refine (controller.markGone_accounts pids).imp ?_
    intro made result? marked result given
    exact asked.trans (marked result given)

/-- A cleanup accounts for all: it asks for the removal of the dead. -/
theorem cleanUp_accounts :
    (controller.operation .cleanUp).Along
      (Finally fun made last => Accounts [] controller made last) := by
  refine controller.cleanUp_along.imp ?_
  intro made last? cleaned last given
  obtain ⟨called, rfl⟩ := cleaned last given
  constructor
  · rintro pid (marked | asked)
    · rw [isMarked, Bool.or_eq_true] at marked
      rcases marked with dead | undecided
      · right
        have listed : Call.remove pid ∈ made.map Sigma.fst := by
          rw [called]
          exact List.mem_map_of_mem ((contains_iff controller.dead pid).mp dead)
        obtain ⟨exchange, member, same⟩ := List.mem_map.mp listed
        exact ⟨exchange, member, by rw [same]; rfl⟩
      · left
        simpa [isMarked] using .inr undecided
    · cases asked
  · intro pid policy worked member
    have listed : Call.write pid policy ∈ controller.dead.keys.map Call.remove :=
      called ▸ List.mem_map_of_mem member
    simp at listed

/-- The processes that a job is asked to resolve by a notice. -/
def Job.requested : Job → List UInt32
  | .handle notice =>
    match notice.kind? with
    | some .firstSeen => [notice.pid]
    | some .replaced => [notice.pid]
    | _ => []
  | _ => []

/-- Every job accounts for what was marked and for what it was asked to resolve. -/
theorem operation_accounts (job : Job) :
    (controller.operation job).Along
      (Finally fun made last => Accounts job.requested controller made last) := by
  cases job with
  | handle notice =>
    simp only [operation, handle, Job.requested]
    cases notice.kind? with
    | none => exact finally_some (.refl controller)
    | some kind =>
      cases kind with
      | firstSeen => exact controller.resolve_accounts notice.pid
      | replaced => exact controller.resolve_accounts notice.pid
      | exited =>
        refine finally_some (.asking controller ?_ (by simp))
        rintro tested (known | ⟨⟨⟩⟩)
        simp [isMarked_markDead, known]
  | hearLost cpu lost => exact finally_some (.refl controller)
  | reconcile => exact controller.reconcile_accounts.returning Prod.snd
  | retry => exact controller.retryUndecided_accounts
  | cleanUp => exact controller.cleanUp_accounts

/-- Of the listed processes, those that are not found alive are dead afterwards. -/
theorem markGone_marks (pids : List UInt32) :
    (controller.markGone pids).Along (Finally fun made result =>
      ∀ pid, controller.isDead pid = true ∨ pid ∈ pids →
        ⟨.isAlive pid, true⟩ ∈ made ∨ result.2.isDead pid = true) := by
  induction pids generalizing controller with
  | nil => exact finally_some (by simp)
  | cons first rest inductionHypothesis =>
    unfold markGone
    split
    · rename_i dead
      refine (inductionHypothesis controller).imp ?_
      rintro made result? marks result given pid (known | member)
      · exact marks result given pid (.inl known)
      · rcases List.mem_cons.mp member with rfl | member
        · exact marks result given _ (.inl dead)
        · exact marks result given pid (.inr member)
    · refine ⟨finally_none _ _, ?_⟩
      intro found
      cases found with
      | true =>
        refine (inductionHypothesis controller).imp ?_
        intro made result? marks result given pid known
        by_cases here : pid = first
        · subst here
          exact .inl List.mem_cons_self
        · have before : controller.isDead pid = true ∨ pid ∈ rest := by
            simpa [here] using known
          rcases marks result given pid before with alive | dead
          · exact .inl (List.mem_cons_of_mem _ alive)
          · exact .inr dead
      | false =>
        refine (inductionHypothesis (controller.markDead first)).bindFinally ?_
        intro made result marks
        refine finally_some ?_
        intro pid known
        have before : (controller.markDead first).isDead pid = true ∨ pid ∈ rest := by
          rw [isDead_markDead]
          by_cases here : pid = first
          · simp [here]
          · simpa [here] using known
        rw [List.append_nil]
        rcases marks pid before with alive | dead
        · exact .inl (List.mem_cons_of_mem _ alive)
        · exact .inr dead

/-- A reconciliation lists the table first. Every process that is listed is dead afterwards,
unless it was found alive. -/
theorem reconcile_marks :
    (controller.operation .reconcile).Along (Finally fun made last =>
      ∃ listed rest, made = ⟨.list, listed⟩ :: rest ∧ ∀ pids, listed = some pids →
        ∀ pid ∈ pids, ⟨.isAlive pid, true⟩ ∈ made ∨ last.isDead pid = true) := by
  have reconciled : controller.reconcile.Along (Finally fun made result =>
      ∃ listed rest, made = ⟨.list, listed⟩ :: rest ∧ ∀ pids, listed = some pids →
        ∀ pid ∈ pids, ⟨.isAlive pid, true⟩ ∈ made ∨ result.2.isDead pid = true) := by
    refine ⟨finally_none _ _, ?_⟩
    intro listed
    cases listed with
    | none =>
      rintro result ⟨⟩
      exact ⟨none, [], rfl, by simp⟩
    | some pids =>
      refine (controller.markGone_marks pids).imp ?_
      intro made result? marks result given
      refine ⟨some pids, made, rfl, ?_⟩
      rintro _ ⟨⟩ pid member
      rcases marks result given pid (.inr member) with alive | dead
      · exact .inl (List.mem_cons_of_mem _ alive)
      · exact .inr dead
  exact reconciled.returning Prod.snd

end Controller

namespace Upkeep

open Controller (Call Reply Exchange Job Accounts)

variable {World : Type} (answer : (call : Call) → World → Reply call × World)

/-- A run accounts for what was marked before it. -/
theorem exchanges_account (upkeep : Upkeep World) (events : List (UpkeepEvent World)) :
    Accounts [] upkeep.controller (upkeep.exchanges answer events)
      (upkeep.after answer events).controller := by
  refine exchanges_relate answer (Accounts []) Accounts.refl Accounts.trans upkeep events ?_
  intro current event member
  cases event with
  | worked job =>
    obtain ⟨remembered, told⟩ :=
      (current.controller.operation_accounts job).ended answer current.world
    refine ⟨?_, told⟩
    rintro pid (marked | asked)
    · exact remembered pid (.inl marked)
    · cases asked
  | elapsed change => exact .refl current.controller

/-- A run that begins with a job accounts for what the job was asked to resolve. -/
theorem exchanges_account_for (upkeep : Upkeep World) (job : Job)
    (later : List (UpkeepEvent World)) :
    Accounts job.requested upkeep.controller (upkeep.exchanges answer (.worked job :: later))
      (upkeep.after answer (.worked job :: later)).controller := by
  have first := (upkeep.controller.operation_accounts job).ended answer upkeep.world
  have further := exchanges_account answer (upkeep.step answer (.worked job)) later
  have whole := first.trans further
  rwa [List.append_nil] at whole

end Upkeep
end SamplingProfiler
