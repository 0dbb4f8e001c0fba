import SamplingProfiler.Controller.Tending
import SamplingProfiler.Proofs.TableContents

/-!
# Operations on a table

What an operation of a controller does does not depend on what was asked before, so it can
be looked at as a function of the resolver and the table alone. A table that refuses
nothing on purpose still refuses a new process when it is full; whether it admits a process
is decided before the write, by what it holds.

No operation makes the counter of the table wrong or changes its capacity.
-/

namespace SamplingProfiler

namespace BoundedMap

variable {Key Value : Type} [DecidableEq Key]

/-- Whether a key can be written: it is there already, or there is room for it. -/
def admits (map : BoundedMap Key Value) (key : Key) : Bool :=
  (map.get? key).isSome || !decide (map.capacity ≤ map.count)

/-- An insertion that demands nothing overwrites its key, or adds it where there is room. -/
theorem get?_insert_any (map : BoundedMap Key Value) (key tested : Key) (value : Value) :
    (map.insert key value UpdateFlags.any).2.get? tested =
      if tested = key ∧ map.admits key = true then some value else map.get? tested := by
  rw [insert_any]
  simp only [admits, get?]
  by_cases present : (map.entries.lookup key).isSome = true
  · simp only [present, if_true, Bool.true_or, and_true]
    exact Entries.lookup_set map.entries key tested value
  · by_cases full : map.capacity ≤ map.count
    · simp [present, full]
    · simp only [present, full, Bool.false_eq_true, if_false, decide_false, Bool.not_false,
        Bool.or_true, and_true]
      exact Entries.lookup_set map.entries key tested value

/-- An insertion leaves the capacity as it is. -/
theorem capacity_insert (map : BoundedMap Key Value) (key : Key) (value : Value)
    (flags : UInt64) : (map.insert key value flags).2.capacity = map.capacity := by
  simp only [insert]
  repeat' split
  all_goals rfl

/-- A removal leaves the capacity as it is. -/
theorem capacity_remove (map : BoundedMap Key Value) (key : Key) :
    (map.remove key).2.capacity = map.capacity := by
  simp only [remove]
  split <;> rfl

/-- A removal that finds its key takes one entry away, and any other none. -/
theorem size_remove (map : BoundedMap Key Value) (key : Key) :
    (if (map.remove key).1.isSome then 1 else 0) + (map.remove key).2.entries.size =
      map.entries.size := by
  rcases removed : map.remove key with ⟨value?, left⟩
  simp only [remove] at removed
  cases found : map.get? key with
  | none =>
    simp only [found, Prod.mk.injEq] at removed
    simp [← removed.1, ← removed.2]
  | some value =>
    simp only [found, Prod.mk.injEq] at removed
    have present : (map.entries.lookup key).isSome = true := by
      rw [show map.entries.lookup key = some value from found]
      rfl
    have listed : key ∈ map.entries.keys := (Entries.lookup_isSome_iff _ _).mp present
    have positive : 0 < map.entries.size := by
      rw [← Entries.length_keys]
      exact List.length_pos_of_mem listed
    simp only [← removed.1, ← removed.2, Option.isSome_some, if_true, Entries.size_erase, present]
    omega

end BoundedMap

/-- What insertions and removals preserve of a table, the operations of controllers preserve,
whatever the table refuses.

Induct over the operation; a call that is refused changes nothing. -/
theorem Tending.run_preserves {Result : Type} (invariant : BoundedMap UInt32 Policy → Prop)
    (written : ∀ table pid policy, invariant table →
      invariant (table.insert pid policy UpdateFlags.any).2)
    (removed : ∀ table pid, invariant table → invariant (table.remove pid).2)
    (resolver : Resolver) (refusals : Refusals) (operation : Controller.Operation Result)
    (tending : Tending) (initial : invariant tending.policies) :
    invariant (operation.run (Tending.answer resolver refusals) tending).2.policies := by
  induction operation generalizing tending with
  | done result => exact initial
  | ask call resume inductionHypothesis =>
    rw [Dialogue.run_ask]
    apply inductionHypothesis
    cases call with
    | isAlive pid => exact initial
    | resolve pid => exact initial
    | list => exact initial
    | write pid policy =>
      simp only [Tending.answer]
      split
      · exact initial
      · exact written tending.policies pid policy initial
    | remove pid =>
      simp only [Tending.answer]
      split
      · exact initial
      · exact removed tending.policies pid initial

namespace Controller

/-- Run an operation on a table of processes. Nothing is refused but what the table has no
room for. -/
def perform {Result : Type} (resolver : Resolver) (operation : Operation Result)
    (policies : BoundedMap UInt32 Policy) : Result × BoundedMap UInt32 Policy :=
  let (result, tending) := operation.run (Tending.answer resolver Refusals.none) ⟨policies, []⟩
  (result, tending.policies)

/-- What a call of a controller gets from the table or the resolver, whatever was asked
before. -/
def answerFrom (resolver : Resolver) :
    (call : Call) → BoundedMap UInt32 Policy → Reply call × BoundedMap UInt32 Policy
  | .isAlive pid, policies => (resolver.isAlive pid, policies)
  | .resolve pid, policies => (resolver.resolve pid, policies)
  | .write pid policy, policies =>
    ((policies.insert pid policy UpdateFlags.any).1.isOk,
      (policies.insert pid policy UpdateFlags.any).2)
  | .remove pid, policies => ((policies.remove pid).1.isSome, (policies.remove pid).2)
  | .list, policies => (some policies.keys, policies)

section Performing

variable {First Second : Type} (resolver : Resolver) (policies : BoundedMap UInt32 Policy)

/-- The questions that were asked before make no difference to an operation. -/
theorem perform_eq (operation : Operation First) :
    perform resolver operation policies = operation.run (answerFrom resolver) policies := by
  have seen := Dialogue.run_view (Tending.answer resolver Refusals.none) (answerFrom resolver)
    Tending.policies (fun _ => True) (fun call tending _ => ⟨trivial, by cases call <;> rfl⟩)
    operation ⟨policies, []⟩ trivial
  exact seen.2

@[simp] theorem perform_done (result : First) :
    perform resolver (.done result) policies = (result, policies) := rfl

/-- An operation goes on with the reply to its call. -/
theorem perform_ask (call : Call) (resume : Reply call → Operation First) :
    perform resolver (.ask call resume) policies =
      perform resolver (resume (answerFrom resolver call policies).1)
        (answerFrom resolver call policies).2 := by
  simp only [perform_eq, Dialogue.run_ask]

/-- A sequence is performed part by part on the same table. -/
theorem perform_bind (operation : Operation First) (next : First → Operation Second) :
    perform resolver (operation >>= next) policies =
      perform resolver (next (perform resolver operation policies).1)
        (perform resolver operation policies).2 := by
  simp only [perform_eq, Dialogue.run_bind]

/-- An operation goes on with what the resolver says of a process being alive. -/
theorem perform_askAlive (pid : UInt32) (next : Bool → Operation First) :
    perform resolver (askAlive pid >>= next) policies =
      perform resolver (next (resolver.isAlive pid)) policies :=
  perform_ask resolver policies (.isAlive pid) next

/-- An operation goes on with what the resolver says of the policy of a process. -/
theorem perform_askPolicy (pid : UInt32) (next : Option Policy → Operation First) :
    perform resolver (askPolicy pid >>= next) policies =
      perform resolver (next (resolver.resolve pid)) policies :=
  perform_ask resolver policies (.resolve pid) next

/-- An operation goes on with the table in which a process was written. -/
theorem perform_writePolicy (pid : UInt32) (policy : Policy) (next : Bool → Operation First) :
    perform resolver (writePolicy pid policy >>= next) policies =
      perform resolver (next (policies.insert pid policy UpdateFlags.any).1.isOk)
        (policies.insert pid policy UpdateFlags.any).2 :=
  perform_ask resolver policies (.write pid policy) next

/-- An operation goes on with the table from which a process was removed. -/
theorem perform_removePolicy (pid : UInt32) (next : Bool → Operation First) :
    perform resolver (removePolicy pid >>= next) policies =
      perform resolver (next (policies.remove pid).1.isSome) (policies.remove pid).2 :=
  perform_ask resolver policies (.remove pid) next

/-- What insertions and removals preserve, every operation preserves. -/
theorem perform_preserves (invariant : BoundedMap UInt32 Policy → Prop)
    (written : ∀ table pid policy, invariant table →
      invariant (table.insert pid policy UpdateFlags.any).2)
    (removed : ∀ table pid, invariant table → invariant (table.remove pid).2)
    (operation : Operation First) (initial : invariant policies) :
    invariant (perform resolver operation policies).2 :=
  Tending.run_preserves invariant written removed resolver Refusals.none operation
    ⟨policies, []⟩ initial

/-- Every operation keeps the counter of the table right. -/
theorem consistent_perform (operation : Operation First) (consistent : policies.Consistent) :
    (perform resolver operation policies).2.Consistent :=
  perform_preserves resolver policies BoundedMap.Consistent
    (fun table pid policy right => table.consistent_insert right pid policy UpdateFlags.any)
    (fun table pid right => table.consistent_remove right pid) operation consistent

/-- No operation changes the capacity of the table. -/
theorem capacity_perform (operation : Operation First) :
    (perform resolver operation policies).2.capacity = policies.capacity :=
  perform_preserves resolver policies (fun table => table.capacity = policies.capacity)
    (fun table pid policy same => (table.capacity_insert pid policy _).trans same)
    (fun table pid same => (table.capacity_remove pid).trans same) operation rfl

end Performing

end Controller

end SamplingProfiler
