import SamplingProfiler.Proofs.RememberedProcesses

/-!
# Refused writes

A table may refuse to write or to remove an entry, and is as it was then. The controller
does not make up for that. It forgets that a process was undecided before it writes the
decision, and it forgets the dead when it cleans up, whether or not the removals worked.

So a process whose request was handled, and whose entry still leaves it undecided, is
remembered only if no change of its entry was refused since. An entry that a cleanup could
not remove is found again by a reconciliation, as long as its process is gone.
-/

namespace SamplingProfiler
namespace Controller

/-- What an exchange leaves in the entry of a process, if it changes it. -/
def left? (pid : UInt32) : Exchange → Option (Option Policy)
  | ⟨.write other policy, true⟩ => if other = pid then some (some policy) else none
  | ⟨.remove other, true⟩ => if other = pid then some none else none
  | _ => none

/-- The entry of a process was to be changed, and that was refused. -/
def WasRefused (pid : UInt32) (exchange : Exchange) : Prop :=
  exchange = ⟨.remove pid, false⟩ ∨ ∃ policy, exchange = ⟨.write pid policy, false⟩

/-- An entry leaves its process undecided. -/
def LeavesUndecided (held? : Option Policy) : Prop :=
  ∃ policy, held? = some policy ∧ policy.kind? = some .unknown

/-- A call for a change of an entry is refused, or it leaves something there. -/
theorem refused_or_left {pid : UInt32} {exchange : Exchange}
    (changes : exchange.1.changed? = some pid) :
    WasRefused pid exchange ∨ (left? pid exchange).isSome = true := by
  obtain ⟨call, reply⟩ := exchange
  cases call with
  | write other policy =>
    cases changes
    cases reply with
    | false => exact .inl (.inr ⟨policy, rfl⟩)
    | true => exact .inr (by simp [left?])
  | remove other =>
    cases changes
    cases reply with
    | false => exact .inl (.inl rfl)
    | true => exact .inr (by simp [left?])
  | isAlive other => cases changes
  | resolve other => cases changes
  | list => cases changes

/-- An exchange leaves in an entry what it wrote there, or nothing if it removed it. -/
theorem left?_eq_some {pid : UInt32} {exchange : Exchange} {held? : Option Policy}
    (left : left? pid exchange = some held?) :
    (exchange = ⟨.remove pid, true⟩ ∧ held? = none) ∨
      ∃ policy, exchange = ⟨.write pid policy, true⟩ ∧ held? = some policy := by
  unfold left? at left
  split at left
  · rename_i other policy
    split at left
    · rename_i here
      cases left
      exact .inr ⟨policy, by rw [here], rfl⟩
    · cases left
  · rename_i other
    split at left
    · rename_i here
      cases left
      exact .inl ⟨by rw [here], rfl⟩
    · cases left
  · cases left

end Controller

open Controller (Call Reply Exchange Operation Job LeavesUndecided WasRefused left?
  refused_or_left left?_eq_some)

/-- A table that may refuse to write and to remove entries, in any pattern, and a resolver
beside it. An entry changes by the calls for it that work, and by no other call. The table
is listed completely, or not at all, and a decision of the resolver decides something. -/
structure Fallible {World : Type} (answer : (call : Call) → World → Reply call × World)
    (held? : World → UInt32 → Option Policy) : Prop where
  entered : ∀ call world pid, held? (answer call world).2 pid =
    (left? pid ⟨call, (answer call world).1⟩).getD (held? world pid)
  listed : ∀ world pids, (answer .list world).1 = some pids →
    ∀ pid, (held? world pid).isSome = true → pid ∈ pids
  decisive : ∀ pid world policy, (answer (.resolve pid) world).1 = some policy →
    policy.kind? ≠ some .unknown

/-- A bounded map is such a table, whatever it refuses. -/
theorem fallible_tending (resolver : Resolver) (refusals : Refusals)
    (decisive : ∀ pid policy, resolver.resolve pid = some policy →
      policy.kind? ≠ some .unknown) :
    Fallible (Tending.answer resolver refusals)
      (fun tending pid => tending.policies.get? pid) where
  entered := by
    intro call tending pid
    cases call with
    | isAlive other => rfl
    | resolve other => rfl
    | list => rfl
    | write other policy =>
      simp only [Tending.answer]
      split
      · rfl
      · rcases inserted : tending.policies.insert other policy UpdateFlags.any with
          ⟨result, policies⟩
        cases result with
        | ok accepted =>
          have told := tending.policies.get?_insert_ok other pid policy UpdateFlags.any
            (by rw [inserted])
          rw [inserted] at told
          simp only [Except.isOk, Except.toBool, left?, told, eq_comm (a := pid)]
          split <;> rfl
        | error refusal =>
          have kept := tending.policies.insert_error other policy UpdateFlags.any refusal
            (by rw [inserted])
          rw [inserted] at kept
          subst kept
          rfl
    | remove other =>
      simp only [Tending.answer]
      split
      · rfl
      · have told := tending.policies.get?_remove other pid
        have value := tending.policies.remove_value other
        rcases removed : tending.policies.remove other with ⟨value?, policies⟩
        rw [removed] at told value
        simp only at told value ⊢
        rw [told]
        cases value? with
        | some policy =>
          simp only [Option.isSome_some, left?, eq_comm (a := pid)]
          split <;> rfl
        | none =>
          by_cases here : pid = other
          · subst here
            simp [left?, ← value]
          · simp [left?, here]
  listed := by
    intro tending pids listed pid present
    simp only [Tending.answer] at listed
    split at listed
    · cases listed
    · cases listed
      exact (Entries.lookup_isSome_iff _ _).mp present
  decisive pid tending policy told := decisive pid policy told

namespace Upkeep

/-- A cleanup tries to remove the entry of each dead process. -/
theorem removal_tried {World : Type} (answer : (call : Call) → World → Reply call × World)
    (upkeep : Upkeep World) (pid : UInt32) (dead : upkeep.controller.isDead pid = true) :
    ∃ worked, ⟨.remove pid, worked⟩ ∈ upkeep.exchangesAt answer (.worked .cleanUp) := by
  have called := (upkeep.controller.cleanUp_along.ended answer upkeep.world).1
  have listed : Call.remove pid ∈ (upkeep.exchangesAt answer (.worked .cleanUp)).map Sigma.fst := by
    rw [exchangesAt, called]
    exact List.mem_map_of_mem ((Controller.contains_iff upkeep.controller.dead pid).mp dead)
  obtain ⟨⟨call, worked⟩, member, same⟩ := List.mem_map.mp listed
  cases same
  exact ⟨worked, member⟩

end Upkeep

namespace Fallible

variable {World : Type} {answer : (call : Call) → World → Reply call × World}
  {held? : World → UInt32 → Option Policy} (fallible : Fallible answer held?)
  (settled : Option Policy → Prop) (pid : UInt32)

include fallible

/-- If every change of an entry that works settles it, then it is settled after an operation
if it was before, or if a change worked.

Induct over the calls. -/
theorem settled_run {Result : Type} (operation : Operation Result) (world : World)
    (settles : ∀ exchange ∈ operation.exchanges answer world,
      ∀ value?, left? pid exchange = some value? → settled value?)
    (known : settled (held? world pid) ∨
      ∃ exchange ∈ operation.exchanges answer world, (left? pid exchange).isSome = true) :
    settled (held? (operation.run answer world).2 pid) := by
  induction operation generalizing world with
  | done result => simpa [Dialogue.exchanges] using known
  | ask call resume inductionHypothesis =>
    apply inductionHypothesis
    · intro exchange member
      exact settles exchange (List.mem_cons_of_mem _ member)
    · rw [fallible.entered]
      cases left : left? pid ⟨call, (answer call world).1⟩ with
      | some value? => exact .inl (settles _ List.mem_cons_self value? left)
      | none =>
        rcases known with known | ⟨exchange, member, works⟩
        · exact .inl known
        · rcases List.mem_cons.mp member with rfl | member
          · simp [left] at works
          · exact .inr ⟨exchange, member, works⟩

/-- If every change of an entry that works settles it, and the world does not unsettle it,
then it is settled after a run if it was before, or if a change worked.

Induct over the events. -/
theorem settled_after (upkeep : Upkeep World) (events : List (UpkeepEvent World))
    (settles : ∀ exchange ∈ upkeep.exchanges answer events,
      ∀ value?, left? pid exchange = some value? → settled value?)
    (stays : ∀ change, .elapsed change ∈ events →
      ∀ world, settled (held? world pid) → settled (held? (change world) pid))
    (known : settled (held? upkeep.world pid) ∨
      ∃ exchange ∈ upkeep.exchanges answer events, (left? pid exchange).isSome = true) :
    settled (held? (upkeep.after answer events).world pid) := by
  induction events generalizing upkeep with
  | nil => simpa [Upkeep.exchanges] using known
  | cons event rest inductionHypothesis =>
    apply inductionHypothesis
    · intro exchange member
      exact settles exchange (List.mem_append_right _ member)
    · intro change member
      exact stays change (List.mem_cons_of_mem event member)
    · rw [Upkeep.exchanges_cons] at known
      simp only [List.mem_append] at known
      cases event with
      | worked job =>
        have after := fallible.settled_run settled pid (upkeep.controller.operation job)
          upkeep.world fun exchange member => settles exchange (List.mem_append_left _ member)
        rcases known with known | ⟨exchange, member | member, works⟩
        · exact .inl (after (.inl known))
        · exact .inl (after (.inr ⟨exchange, member, works⟩))
        · exact .inr ⟨exchange, member, works⟩
      | elapsed change =>
        rcases known with known | ⟨exchange, member | member, works⟩
        · exact .inl (stays change List.mem_cons_self upkeep.world known)
        · cases member
        · exact .inr ⟨exchange, member, works⟩

/-- A change of an entry that works does not leave its process undecided: what is written is
a decision of the resolver. -/
theorem left_decided (upkeep : Upkeep World) (events : List (UpkeepEvent World)) :
    ∀ exchange ∈ upkeep.exchanges answer events,
      ∀ value?, left? pid exchange = some value? → ¬ LeavesUndecided value? := by
  intro exchange member value? left
  rcases left?_eq_some left with ⟨-, rfl⟩ | ⟨policy, rfl, rfl⟩
  · rintro ⟨policy, ⟨⟩, -⟩
  · have told := (Upkeep.exchanges_account answer upkeep events).told pid policy true member
    have decisive := Upkeep.exchanges_satisfy answer
      (fun exchange => ∀ decision, exchange = ⟨.resolve pid, some decision⟩ →
        decision.kind? ≠ some .unknown)
      (by
        intro call world decision same
        obtain ⟨rfl, told⟩ := Sigma.mk.inj same
        exact fallible.decisive pid world decision (eq_of_heq told))
      upkeep events _ told policy rfl
    rintro ⟨same, ⟨⟩, undecided⟩
    exact decisive undecided

/-- A process whose request was handled, and whose entry leaves it undecided, is remembered
unless a change of its entry was refused since. -/
theorem remembered_unless_refused (upkeep : Upkeep World) (job : Job)
    (later : List (UpkeepEvent World)) (asked : pid ∈ job.requested)
    (unannounced : ∀ change, .elapsed change ∈ later → ∀ world,
      LeavesUndecided (held? (change world) pid) → LeavesUndecided (held? world pid))
    (undecided : LeavesUndecided
      (held? (upkeep.after answer (.worked job :: later)).world pid)) :
    (upkeep.after answer (.worked job :: later)).controller.isMarked pid = true ∨
      ∃ exchange ∈ upkeep.exchanges answer (.worked job :: later), WasRefused pid exchange := by
  have accounts := Upkeep.exchanges_account_for answer upkeep job later
  rcases accounts.remembered pid (.inr asked) with marked | ⟨exchange, member, changes⟩
  · exact .inl marked
  · rcases refused_or_left changes with refused | works
    · exact .inr ⟨exchange, member, refused⟩
    · have decided := fallible.settled_after (fun value? => ¬ LeavesUndecided value?) pid upkeep
        (.worked job :: later) (fallible.left_decided pid upkeep _) ?_
        (.inr ⟨exchange, member, works⟩)
      · exact absurd undecided decided
      · intro change listed world decided undecided
        rcases List.mem_cons.mp listed with ⟨⟨⟩⟩ | listed
        exact decided (unannounced change listed world undecided)

/-- An entry that is there after a cleanup, although its process was dead, was not removed
because the table refused to. -/
theorem removal_refused (upkeep : Upkeep World) (dead : upkeep.controller.isDead pid = true)
    (present : (held? (upkeep.step answer (.worked .cleanUp)).world pid).isSome = true) :
    ⟨.remove pid, false⟩ ∈ upkeep.exchangesAt answer (.worked .cleanUp) := by
  obtain ⟨worked, tried⟩ := Upkeep.removal_tried answer upkeep pid dead
  cases worked with
  | false => exact tried
  | true =>
    have called := (upkeep.controller.cleanUp_along.ended answer upkeep.world).1
    have removed := fallible.settled_run (fun value? => value? = none) pid
      (upkeep.controller.operation .cleanUp) upkeep.world ?_
      (.inr ⟨⟨.remove pid, true⟩, tried, by simp [left?]⟩)
    · rw [show held? (upkeep.step answer (.worked .cleanUp)).world pid = none from removed]
        at present
      cases present
    · intro exchange member value? left
      rcases left?_eq_some left with ⟨-, rfl⟩ | ⟨policy, rfl, rfl⟩
      · rfl
      · have listed : Call.write pid policy ∈
            upkeep.controller.dead.keys.map Call.remove :=
          called ▸ List.mem_map_of_mem member
        simp at listed

/-- A reconciliation that lists the table marks a process dead that has an entry, unless it
finds the process alive. -/
theorem entry_reconciled (upkeep : Upkeep World)
    (present : (held? upkeep.world pid).isSome = true) :
    ⟨.list, none⟩ ∈ upkeep.exchangesAt answer (.worked .reconcile) ∨
      ⟨.isAlive pid, true⟩ ∈ upkeep.exchangesAt answer (.worked .reconcile) ∨
      (upkeep.step answer (.worked .reconcile)).controller.isDead pid = true := by
  obtain ⟨listed, rest, made, marks⟩ :=
    upkeep.controller.reconcile_marks.ended answer upkeep.world
  cases listed with
  | none =>
    left
    rw [Upkeep.exchangesAt, made]
    exact List.mem_cons_self
  | some pids =>
    right
    have told : (answer .list upkeep.world).1 = some pids :=
      eq_of_heq (Sigma.mk.inj (List.cons.inj made).1).2
    exact marks pids rfl pid (fallible.listed upkeep.world pids told pid present)

/-- What a controller remembers where its table refuses. Take any table that may refuse to
write and to remove entries, in any pattern, any resolver beside it whose decisions decide
something, any state of the controller, and any process.

Suppose that a request about the process is handled, and that whatever comes later, of jobs
and of changes from elsewhere, its entry is not made to leave it undecided by the latter. If
the entry leaves it undecided at the end, the controller has it among the undecided or the
dead, unless a change of its entry was refused since the request.

Suppose that the process is dead. A cleanup tries to remove its entry and forgets it. If the
entry is there afterwards, then its removal was refused. Whatever comes later, as long as the
entry is there a reconciliation makes the process dead again, unless the table is not listed
or the process is found alive; and then the next cleanup tries to remove the entry again. -/
theorem processes_remembered_unless_refused (upkeep : Upkeep World) :
    (∀ (notice : Notice) (later : List (UpkeepEvent World)),
      pid ∈ (Job.handle notice).requested →
      (∀ change, .elapsed change ∈ later → ∀ world,
        LeavesUndecided (held? (change world) pid) → LeavesUndecided (held? world pid)) →
      let last := upkeep.after answer (.worked (.handle notice) :: later)
      LeavesUndecided (held? last.world pid) →
        last.controller.isUndecided pid = true ∨ last.controller.isDead pid = true ∨
          ∃ exchange ∈ upkeep.exchanges answer (.worked (.handle notice) :: later),
            WasRefused pid exchange) ∧
    (upkeep.controller.isDead pid = true →
      let cleaned := upkeep.step answer (.worked .cleanUp)
      cleaned.controller.isDead pid = false ∧
        (∃ worked, ⟨.remove pid, worked⟩ ∈ upkeep.exchangesAt answer (.worked .cleanUp)) ∧
        ((held? cleaned.world pid).isSome = true →
          ⟨.remove pid, false⟩ ∈ upkeep.exchangesAt answer (.worked .cleanUp)) ∧
        ∀ later : List (UpkeepEvent World),
          let current := cleaned.after answer later
          let reconciled := current.step answer (.worked .reconcile)
          (held? current.world pid).isSome = true →
            ⟨.list, none⟩ ∈ current.exchangesAt answer (.worked .reconcile) ∨
            ⟨.isAlive pid, true⟩ ∈ current.exchangesAt answer (.worked .reconcile) ∨
            reconciled.controller.isDead pid = true ∧
              ∀ further : List (UpkeepEvent World), .worked .cleanUp ∉ further →
                ∃ worked, ⟨.remove pid, worked⟩ ∈
                  (reconciled.after answer further).exchangesAt answer (.worked .cleanUp)) := by
  constructor
  · intro notice later asked unannounced last undecided
    rcases fallible.remembered_unless_refused pid upkeep (.handle notice) later asked unannounced
      undecided with marked | refused
    · rw [Controller.isMarked, Bool.or_eq_true] at marked
      rcases marked with dead | undecided
      · exact .inr (.inl dead)
      · exact .inl undecided
    · exact .inr (.inr refused)
  · intro dead cleaned
    have forgotten := (upkeep.controller.cleanUp_along.ended answer upkeep.world).2
    refine ⟨?_, Upkeep.removal_tried answer upkeep pid dead,
      fallible.removal_refused pid upkeep dead, ?_⟩
    · rw [show cleaned.controller = _ from forgotten]
      rfl
    · intro later current reconciled present
      rcases fallible.entry_reconciled pid current present with unlisted | alive | deadAgain
      · exact .inl unlisted
      · exact .inr (.inl alive)
      · refine .inr (.inr ⟨deadAgain, ?_⟩)
        intro further uncleaned
        apply Upkeep.removal_tried
        exact (Upkeep.exchanges_leaveDead answer reconciled further uncleaned).kept pid deadAgain

end Fallible

/-- A table that refuses every write and every removal holds two undecided processes, of
which the sixth is gone, and nothing is decided about the fifth. After its request was
handled the fifth is undecided for the controller. The sixth is found and cannot be removed,
and the next reconciliation finds it again. -/
theorem entries_found_again :
    let answer := Tending.answer Upkeep.allButSixth ⟨true, true, false⟩
    let start : Upkeep Tending := ⟨Controller.initial, ⟨Upkeep.twoEntries, []⟩⟩
    let asked := start.after answer
      [.worked (.handle (.ofKind .firstSeen 5)), .worked .retry]
    let found := start.after answer [.worked .reconcile]
    let cleaned := found.step answer (.worked .cleanUp)
    asked.controller.isUndecided 5 = true ∧
      found.controller.isDead 6 = true ∧ cleaned.controller.isDead 6 = false ∧
      ⟨.remove 6, false⟩ ∈ found.exchangesAt answer (.worked .cleanUp) ∧
      (cleaned.step answer (.worked .reconcile)).controller.isDead 6 = true := by
  intro answer start asked found cleaned
  have asking : start.exchanges answer
      [.worked (.handle (.ofKind .firstSeen 5)), .worked .retry] =
        [⟨.isAlive 5, true⟩, ⟨.resolve 5, none⟩, ⟨.isAlive 5, true⟩, ⟨.resolve 5, none⟩] := rfl
  have left : cleaned = ⟨Controller.initial, ⟨Upkeep.twoEntries, [.alive 5, .alive 6]⟩⟩ := rfl
  have reconciling : cleaned.exchangesAt answer (.worked .reconcile) =
      [⟨.list, some [5, 6]⟩, ⟨.isAlive 5, true⟩, ⟨.isAlive 6, false⟩] := by
    rw [left]
    rfl
  have fallible : Fallible answer (fun tending pid => tending.policies.get? pid) :=
    fallible_tending _ _ (by rintro pid policy ⟨⟩)
  obtain ⟨remembered, -⟩ := fallible.processes_remembered_unless_refused 5 start
  obtain ⟨-, forgotten⟩ := fallible.processes_remembered_unless_refused 6 found
  have dead : found.controller.isDead 6 = true := by decide +kernel
  have present : (cleaned.world.policies.get? 6).isSome = true := by decide +kernel
  obtain ⟨unmarked, -, refused, foundAgain⟩ := forgotten dead
  refine ⟨?_, dead, unmarked, refused present, ?_⟩
  · have outcome := remembered (.ofKind .firstSeen 5) [.worked .retry] (by decide) (by simp)
      ⟨Policy.undecided, rfl, rfl⟩
    rcases outcome with undecided | dead | ⟨exchange, member, refused⟩
    · exact undecided
    · cases dead
    · rw [asking] at member
      simp only [List.mem_cons, List.not_mem_nil, or_false] at member
      rcases member with rfl | rfl | rfl | rfl <;> rcases refused with ⟨⟨⟩⟩ | ⟨policy, ⟨⟩⟩
  · have outcome := foundAgain [] present
    change ⟨.list, none⟩ ∈ cleaned.exchangesAt answer (.worked .reconcile) ∨
      ⟨.isAlive 6, true⟩ ∈ cleaned.exchangesAt answer (.worked .reconcile) ∨ _ at outcome
    rw [reconciling] at outcome
    rcases outcome with unlisted | alive | ⟨dead, -⟩
    · simp at unlisted
    · simp at alive
    · exact dead

/-- The resolver that finds every process alive and has it followed by frame pointers. -/
def followsFrames : Resolver where
  resolve _ := some (Policy.ofKind .framePointers true true)
  isAlive _ := true

/-- Refused operations are not made good: after a refused write the fifth process is
undecided in the table and forgotten by the controller, and after a refused removal the
process is in the table and not dead for the controller. -/
theorem refused_changes_forgotten :
    let answer := Tending.answer followsFrames ⟨true, true, false⟩
    let held? : Tending → UInt32 → Option Policy := fun tending pid => tending.policies.get? pid
    let start : Upkeep Tending := ⟨Controller.initial, ⟨Upkeep.twoEntries, []⟩⟩
    let handled := start.after answer [.worked (.handle (.ofKind .firstSeen 5))]
    let exited := start.after answer [.worked (.handle (.ofKind .exited 5))]
    let cleaned := exited.step answer (.worked .cleanUp)
    Fallible answer held? ∧
      (LeavesUndecided (held? handled.world 5) ∧
        handled.controller.isUndecided 5 = false ∧ handled.controller.isDead 5 = false) ∧
      exited.controller.isDead 5 = true ∧ (held? cleaned.world 5).isSome = true ∧
        cleaned.controller.isDead 5 = false := by
  intro answer held? start handled exited cleaned
  refine ⟨fallible_tending _ _ ?_, ⟨⟨Policy.undecided, rfl, rfl⟩, rfl, rfl⟩, rfl, rfl, rfl⟩
  rintro pid policy ⟨⟩
  decide

end SamplingProfiler
