import SamplingProfiler.Proofs.TendedTables

/-!
# Standings

The standing of a process is what a controller and its table know of it: whether it is
to be removed, whether it is to be asked about again, and what the table says of it.

Every operation of a controller acts on the standing of each process by itself. The one
thing that processes share is room: a process that is absent is written only if the table
has a place left. So whether a write was admitted is a parameter here, and what an
operation does is said for one process at a time. Each such change of a standing is proved
equal to what the run of the operation leaves.
-/

namespace SamplingProfiler

/-- What a controller and its table know of a process. -/
structure Standing where
  isDead : Bool
  isUndecided : Bool
  policy? : Option Policy
deriving DecidableEq, Repr

namespace Standing

/-- The process is to be removed, and not to be asked about again. -/
def markedDead (standing : Standing) : Standing :=
  { standing with isDead := true, isUndecided := false }

/-- The process was asked about, unless it is dead already. -/
def resolved (alive : Bool) (decision : Option Policy) (admitted : Bool)
    (standing : Standing) : Standing :=
  if standing.isDead then standing
  else if alive then
    match decision with
    | some policy =>
      { standing with
        isUndecided := false
        policy? := if admitted then some policy else standing.policy? }
    | none => { standing with isUndecided := true }
  else standing.markedDead

/-- A notice about the process was handled. -/
def heard (kind? : Option NoticeKind) (alive : Bool) (decision : Option Policy)
    (admitted : Bool) (standing : Standing) : Standing :=
  match kind? with
  | some .firstSeen => standing.resolved alive decision admitted
  | some .replaced => standing.resolved alive decision admitted
  | some .exited => standing.markedDead
  | none => standing

/-- The process was looked for among the exited ones, if it is in the table. -/
def reconciled (alive : Bool) (standing : Standing) : Standing :=
  if standing.policy?.isSome && !standing.isDead && !alive then standing.markedDead
  else standing

/-- The process was removed and forgotten, if it is dead. -/
def cleaned (standing : Standing) : Standing :=
  if standing.isDead then { standing with isDead := false, policy? := none } else standing

/-- The process was asked about again, if it is undecided. -/
def retried (alive : Bool) (decision : Option Policy) (admitted : Bool)
    (standing : Standing) : Standing :=
  if standing.isUndecided then
    { standing with isUndecided := false }.resolved alive decision admitted
  else standing

end Standing

namespace Controller

/-- The standing of a process with a controller and its table. -/
def standing (known : Controller × BoundedMap UInt32 Policy) (pid : UInt32) : Standing where
  isDead := known.1.isDead pid
  isUndecided := known.1.isUndecided pid
  policy? := known.2.get? pid

/-- Membership in a set of processes after one came in. -/
theorem contains_set (set : ProcessSet) (pid tested : UInt32) :
    Entries.contains (set.set pid ()) tested = (decide (tested = pid) || set.contains tested) := by
  simp only [Entries.contains, Entries.lookup_set]
  by_cases here : tested = pid <;> simp [here]

/-- Membership in a set of processes after one was taken out. -/
theorem contains_erase (set : ProcessSet) (pid tested : UInt32) :
    Entries.contains (set.erase pid) tested = (!decide (tested = pid) && set.contains tested) := by
  simp only [Entries.contains, Entries.lookup_erase]
  by_cases here : tested = pid <;> simp [here]

/-- A process is in a set exactly if it is listed there. -/
theorem contains_iff (set : ProcessSet) (pid : UInt32) :
    Entries.contains set pid = true ↔ pid ∈ set.keys :=
  Entries.lookup_isSome_iff set pid

section Operations

variable (resolver : Resolver) (controller : Controller) (policies : BoundedMap UInt32 Policy)
  (pid tested : UInt32)

/-- Marking a process dead changes its standing and no other. -/
theorem standing_markDead :
    standing (controller.markDead pid, policies) tested =
      if tested = pid then (standing (controller, policies) tested).markedDead
      else standing (controller, policies) tested := by
  simp only [standing, Standing.markedDead, isDead, isUndecided, markDead, contains_set,
    contains_erase]
  by_cases here : tested = pid <;> simp [here]

/-- A process that comes into the undecided ones is among them. -/
theorem standing_setUndecided :
    standing ({ controller with undecided := controller.undecided.set pid () }, policies) tested =
      if tested = pid then { standing (controller, policies) tested with isUndecided := true }
      else standing (controller, policies) tested := by
  simp only [standing, isDead, isUndecided, contains_set]
  by_cases here : tested = pid <;> simp [here]

/-- A process that leaves the undecided ones is not among them. -/
theorem standing_eraseUndecided :
    standing ({ controller with undecided := controller.undecided.erase pid }, policies) tested =
      if tested = pid then { standing (controller, policies) tested with isUndecided := false }
      else standing (controller, policies) tested := by
  simp only [standing, isDead, isUndecided, contains_erase]
  by_cases here : tested = pid <;> simp [here]

/-- A process that is written has the written policy, if the table admits it. -/
theorem standing_insert (policy : Policy) :
    standing (controller, (policies.insert pid policy UpdateFlags.any).2) tested =
      if tested = pid then
        { standing (controller, policies) tested with
          policy? := if policies.admits pid then some policy else policies.get? tested }
      else standing (controller, policies) tested := by
  simp only [standing, BoundedMap.get?_insert_any]
  by_cases here : tested = pid <;> simp [here]

/-- Resolving a process leaves a dead one as it is, marks an exited one dead, and else
writes down what the resolver says, or that it did not know. -/
theorem perform_resolve :
    perform resolver (controller.resolve pid) policies =
      if controller.isDead pid then (controller, policies)
      else if resolver.isAlive pid then
        match resolver.resolve pid with
        | some policy =>
          ({ controller with undecided := controller.undecided.erase pid },
            (policies.insert pid policy UpdateFlags.any).2)
        | none => ({ controller with undecided := controller.undecided.set pid () }, policies)
      else (controller.markDead pid, policies) := by
  unfold resolve
  cases controller.isDead pid with
  | true => rfl
  | false =>
    simp only [Bool.false_eq_true, if_false]
    rw [perform_askAlive]
    cases resolver.isAlive pid with
    | false => rfl
    | true =>
      simp only [Bool.not_true, Bool.false_eq_true, if_false, if_true]
      rw [perform_askPolicy]
      cases resolver.resolve pid with
      | none => rfl
      | some policy => exact perform_writePolicy resolver policies pid policy _

/-- Resolving a process changes its standing and no other. It is written if the table
admits it. -/
theorem standing_resolve :
    standing (perform resolver (controller.resolve pid) policies) tested =
      if tested = pid then
        (standing (controller, policies) tested).resolved (resolver.isAlive tested)
          (resolver.resolve tested) (policies.admits tested)
      else standing (controller, policies) tested := by
  rw [perform_resolve]
  by_cases here : tested = pid
  · subst here
    simp only [if_true, Standing.resolved,
      show (standing (controller, policies) tested).isDead = controller.isDead tested from rfl]
    split
    · rfl
    · split
      · cases resolver.resolve tested with
        | none => exact (standing_setUndecided controller policies tested tested).trans (if_pos rfl)
        | some policy =>
          simp only [standing_eraseUndecided, standing_insert, if_true]
          rfl
      · exact (standing_markDead controller policies tested tested).trans (if_pos rfl)
  · simp only [if_neg here]
    split
    · rfl
    · split
      · split
        · simp only [standing_eraseUndecided, standing_insert, if_neg here]
        · simp only [standing_setUndecided, if_neg here]
      · simp only [standing_markDead, if_neg here]

/-- Handling a notice changes the standing of its process and no other. -/
theorem standing_handle (notice : Notice) :
    standing (perform resolver (controller.handle notice) policies) tested =
      if tested = notice.pid then
        (standing (controller, policies) tested).heard notice.kind? (resolver.isAlive tested)
          (resolver.resolve tested) (policies.admits tested)
      else standing (controller, policies) tested := by
  have resolving := standing_resolve resolver controller policies notice.pid tested
  unfold handle Standing.heard
  cases notice.kind? with
  | none => exact (ite_self _).symm
  | some kind =>
    cases kind with
    | firstSeen => exact resolving
    | replaced => exact resolving
    | exited => exact standing_markDead controller policies notice.pid tested

/-- Looking for exited processes leaves the table alone. -/
theorem policies_markGone (pids : List UInt32) :
    (perform resolver (controller.markGone pids) policies).2 = policies := by
  induction pids generalizing controller with
  | nil => rfl
  | cons pid rest inductionHypothesis =>
    unfold markGone
    split
    · exact inductionHypothesis controller
    · rw [perform_askAlive]
      split
      · exact inductionHypothesis controller
      · simp only [perform_bind, inductionHypothesis, Dialogue.pure_eq_done, perform_done]

/-- Looking for exited processes counts those of the listed ones that are gone and were not
dead before. -/
theorem count_markGone (pids : List UInt32) (distinct : pids.Nodup) :
    (perform resolver (controller.markGone pids) policies).1.1 =
      (pids.filter fun pid => !controller.isDead pid && !resolver.isAlive pid).length := by
  induction pids generalizing controller with
  | nil => rfl
  | cons pid rest inductionHypothesis =>
    obtain ⟨absent, distinctRest⟩ := List.nodup_cons.mp distinct
    unfold markGone
    cases dead : controller.isDead pid with
    | true =>
      simp only [if_true, inductionHypothesis controller distinctRest, List.filter_cons, dead,
        Bool.not_true, Bool.false_and, Bool.false_eq_true, if_false]
    | false =>
      simp only [Bool.false_eq_true, if_false]
      rw [perform_askAlive]
      cases alive : resolver.isAlive pid with
      | true =>
        simp only [if_true, inductionHypothesis controller distinctRest, List.filter_cons, alive,
          Bool.not_true, Bool.and_false, Bool.false_eq_true, if_false]
      | false =>
        -- the process that is marked now does not come again, so the rest sees the same marks
        have unmarked : ∀ other ∈ rest,
            (controller.markDead pid).isDead other = controller.isDead other := by
          intro other member
          have apart : other ≠ pid := fun same => absent (same ▸ member)
          simp only [isDead, markDead, contains_set, apart, decide_false, Bool.false_or]
        have sameCount : (rest.filter fun other =>
              !(controller.markDead pid).isDead other && !resolver.isAlive other) =
            rest.filter fun other => !controller.isDead other && !resolver.isAlive other := by
          apply List.filter_congr
          intro other member
          rw [unmarked other member]
        simp only [Bool.false_eq_true, if_false, perform_bind, Dialogue.pure_eq_done,
          perform_done, inductionHypothesis _ distinctRest, sameCount, List.filter_cons, dead,
          alive, Bool.not_false, Bool.and_true, if_true, List.length_cons]

/-- Looking for exited processes marks those of the listed ones dead that are gone. -/
theorem standing_markGone (pids : List UInt32) :
    standing ((perform resolver (controller.markGone pids) policies).1.2, policies) tested =
      if tested ∈ pids ∧ controller.isDead tested = false ∧ resolver.isAlive tested = false then
        (standing (controller, policies) tested).markedDead
      else standing (controller, policies) tested := by
  induction pids generalizing controller with
  | nil => simp [markGone]
  | cons pid rest inductionHypothesis =>
    unfold markGone
    cases dead : controller.isDead pid with
    | true =>
      simp only [if_true, inductionHypothesis controller]
      by_cases here : tested = pid
      · simp [here, dead]
      · simp [here]
    | false =>
      simp only [Bool.false_eq_true, if_false]
      rw [perform_askAlive]
      cases alive : resolver.isAlive pid with
      | true =>
        simp only [if_true, inductionHypothesis controller]
        by_cases here : tested = pid
        · simp [here, alive]
        · simp [here]
      | false =>
        simp only [Bool.false_eq_true, if_false, perform_bind, policies_markGone,
          Dialogue.pure_eq_done, perform_done, inductionHypothesis, standing_markDead]
        have marked : (controller.markDead pid).isDead tested =
            (decide (tested = pid) || controller.isDead tested) := contains_set _ _ _
        by_cases here : tested = pid
        · subst here
          simp [marked, dead, alive]
        · simp [marked, here]

/-- Reconciling leaves the table alone. -/
theorem policies_reconcile :
    (perform resolver controller.reconcile policies).2 = policies :=
  policies_markGone resolver controller policies policies.keys

/-- Reconciling counts the processes of the table that are gone and were not dead before. -/
theorem count_reconcile :
    (perform resolver controller.reconcile policies).1.1 =
      (policies.keys.filter fun pid => !controller.isDead pid && !resolver.isAlive pid).length :=
  count_markGone resolver controller policies policies.keys policies.entries.distinct

/-- Reconciling marks the processes of the table dead that are gone. -/
theorem standing_reconcile :
    standing ((perform resolver controller.reconcile policies).1.2, policies) tested =
      (standing (controller, policies) tested).reconciled (resolver.isAlive tested) := by
  have marked := standing_markGone resolver controller policies tested policies.keys
  have listed : (standing (controller, policies) tested).policy?.isSome = true ↔
      tested ∈ policies.keys := Entries.lookup_isSome_iff policies.entries tested
  have known : (standing (controller, policies) tested).isDead = controller.isDead tested := rfl
  refine marked.trans ?_
  simp only [Standing.reconciled, Bool.and_eq_true, listed, known, Bool.not_eq_true', and_assoc]

/-- Removing processes one after the other erases each from the table. -/
theorem get?_removeAll (pids : List UInt32) :
    (perform resolver (removeAll pids) policies).2.get? tested =
      if tested ∈ pids then none else policies.get? tested := by
  induction pids generalizing policies with
  | nil => simp [removeAll]
  | cons pid rest inductionHypothesis =>
    rw [removeAll, perform_removePolicy]
    simp only [perform_bind, Dialogue.pure_eq_done, perform_done, inductionHypothesis,
      BoundedMap.get?_remove]
    by_cases here : tested = pid <;> simp [here]

/-- The removals that worked are those that the table has become smaller by. -/
theorem count_removeAll (pids : List UInt32) :
    (perform resolver (removeAll pids) policies).1 +
        (perform resolver (removeAll pids) policies).2.entries.size = policies.entries.size := by
  induction pids generalizing policies with
  | nil => simp [removeAll]
  | cons pid rest inductionHypothesis =>
    have first := policies.size_remove pid
    have remaining := inductionHypothesis (policies.remove pid).2
    rw [removeAll, perform_removePolicy]
    simp only [perform_bind, Dialogue.pure_eq_done, perform_done]
    rw [Nat.add_assoc, remaining]
    exact first

/-- A cleanup forgets every dead process and remembers the undecided ones. -/
theorem controller_cleanup :
    (perform resolver controller.cleanup policies).1.2 =
      { controller with dead := Entries.empty } := by
  simp only [cleanup, perform_bind, Dialogue.pure_eq_done, perform_done]

/-- A cleanup counts the entries that it removes. -/
theorem count_cleanup :
    (perform resolver controller.cleanup policies).1.1 +
        (perform resolver controller.cleanup policies).2.entries.size = policies.entries.size := by
  have removed := count_removeAll resolver policies controller.dead.keys
  simpa only [cleanup, perform_bind, Dialogue.pure_eq_done, perform_done] using removed

/-- A cleanup removes dead processes and leaves all others as they are. -/
theorem standing_cleanup :
    standing ((perform resolver controller.cleanup policies).1.2,
        (perform resolver controller.cleanup policies).2) tested =
      (standing (controller, policies) tested).cleaned := by
  have removed := get?_removeAll resolver policies tested controller.dead.keys
  have forgotten : Entries.contains (Entries.empty : ProcessSet) tested = false := rfl
  simp only [cleanup, perform_bind, Dialogue.pure_eq_done, perform_done, standing, removed,
    ← contains_iff controller.dead tested, Standing.cleaned, isDead, isUndecided, forgotten]
  by_cases dead : Entries.contains controller.dead tested = true
  · simp only [dead, if_true]
  · simp only [Bool.eq_false_iff.mpr dead, Bool.false_eq_true, if_false]

/-- Resolving processes one after the other resolves each of the listed ones once. One that
is in the table already is admitted; any other may find the table full by then. -/
theorem standing_resolveAll (pids : List UInt32) (distinct : pids.Nodup) :
    ∃ admitted, ((policies.get? tested).isSome = true → admitted = true) ∧
      standing (perform resolver (controller.resolveAll pids) policies) tested =
        if tested ∈ pids then
          (standing (controller, policies) tested).resolved (resolver.isAlive tested)
            (resolver.resolve tested) admitted
        else standing (controller, policies) tested := by
  induction pids generalizing controller policies with
  | nil => exact ⟨true, fun _ => rfl, by simp [resolveAll]⟩
  | cons pid rest inductionHypothesis =>
    obtain ⟨absent, distinctRest⟩ := List.nodup_cons.mp distinct
    have first := standing_resolve resolver controller policies pid tested
    obtain ⟨admitted, known, remaining⟩ := inductionHypothesis
      (perform resolver (controller.resolve pid) policies).1
      (perform resolver (controller.resolve pid) policies).2 distinctRest
    simp only [resolveAll, perform_bind, remaining, first]
    by_cases here : tested = pid
    · subst here
      refine ⟨policies.admits tested, ?_, ?_⟩
      · intro present
        simp [BoundedMap.admits, present]
      · simp [absent]
    · refine ⟨admitted, ?_, ?_⟩
      · intro present
        have kept := congrArg Standing.policy? (first.trans (if_neg here))
        simp only [standing] at kept
        exact known (by rw [kept]; exact present)
      · simp [here]

/-- Asking again resolves each undecided process once, and leaves all others as they are. -/
theorem standing_retryUndecided :
    ∃ admitted, ((policies.get? tested).isSome = true → admitted = true) ∧
      standing (perform resolver controller.retryUndecided policies) tested =
        (standing (controller, policies) tested).retried (resolver.isAlive tested)
          (resolver.resolve tested) admitted := by
  obtain ⟨admitted, known, settled⟩ := standing_resolveAll resolver
    { controller with undecided := Entries.empty } policies tested controller.undecided.keys
    controller.undecided.distinct
  refine ⟨admitted, known, settled.trans ?_⟩
  have forgotten : standing ({ controller with undecided := Entries.empty }, policies) tested =
      { standing (controller, policies) tested with isUndecided := false } := rfl
  have listed : tested ∈ controller.undecided.keys ↔
      (standing (controller, policies) tested).isUndecided = true :=
    (contains_iff controller.undecided tested).symm
  simp only [forgotten, listed, Standing.retried]
  split
  · rfl
  · rename_i decided
    simp only [← Bool.eq_false_iff.mpr decided]

end Operations
end Controller
end SamplingProfiler
