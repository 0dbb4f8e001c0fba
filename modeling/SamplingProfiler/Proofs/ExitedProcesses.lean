import SamplingProfiler.Proofs.Standings

/-!
# Exited processes

Whatever notices of exits were lost, a reconciliation followed by a cleanup leaves exactly
the live processes in the table, with the policies that they had. Nothing remains to be
reconciled then, and there is a place for every exited process that the table held. Asking
again about undecided processes writes live ones only, and these may take the places: the
table is then as full as the processes that are left and the ones that come in make it.

A reconciliation marks, and a cleanup consumes the marks. Both are looked at one process
at a time; what is left to do here is to put their changes of a standing together, and to
count. What asking again leaves is counted along the list of the undecided processes
(`size_resolveAll`), since whether one of them is written depends on the places that those
before it have taken.
-/

namespace SamplingProfiler

namespace Standing

/-- After a reconciliation and a cleanup the table knows of a process what it knew before,
if the process is alive and was not dead, and else nothing. -/
theorem policy?_cleaned_reconciled (standing : Standing) (alive : Bool) :
    (standing.reconciled alive).cleaned.policy? =
      if alive = true ∧ standing.isDead = false then standing.policy? else none := by
  obtain ⟨dead, undecided, policy?⟩ := standing
  cases policy? with
  | none => cases dead <;> cases alive <;> simp [reconciled, cleaned]
  | some policy => cases dead <;> cases alive <;> simp [reconciled, cleaned, markedDead]

/-- A process that was asked about again is in the table as before, or it was undecided and is
alive, and the table says of it what was decided. -/
theorem policy?_retried (standing : Standing) (alive : Bool) (decision : Option Policy)
    (admitted : Bool) :
    (standing.retried alive decision admitted).policy? = standing.policy? ∨
      standing.isUndecided = true ∧ alive = true ∧ decision.isSome = true ∧
        (standing.retried alive decision admitted).policy? = decision := by
  obtain ⟨dead, undecided, policy?⟩ := standing
  simp only [retried]
  cases undecided with
  | false => exact .inl rfl
  | true =>
    cases dead with
    | true => exact .inl rfl
    | false =>
      cases alive with
      | false => exact .inl rfl
      | true =>
        cases decision with
        | none => exact .inl rfl
        | some policy =>
          cases admitted with
          | false => exact .inl rfl
          | true => exact .inr ⟨rfl, rfl, rfl, rfl⟩

end Standing

namespace BoundedMap

variable {Key Value : Type} [DecidableEq Key]

/-- Writing a key that is absent takes a place, if there is one. -/
theorem Consistent.size_insert_any {map : BoundedMap Key Value} (consistent : map.Consistent)
    (key : Key) (value : Value) :
    (map.insert key value UpdateFlags.any).2.entries.size =
      if (map.get? key).isSome then map.entries.size
      else min map.capacity.toNat (map.entries.size + 1) := by
  have bounded := consistent.bounded
  rw [insert_any]
  by_cases present : (map.get? key).isSome = true
  · simp only [present, if_true]
    exact Entries.size_set_present _ _ _ present
  · by_cases full : map.capacity ≤ map.count
    · have size := consistent.full_iff.mp full
      simp only [present, full, Bool.false_eq_true, if_false, if_true]
      omega
    · have size := mt consistent.full_iff.mpr full
      have absent : ¬ (map.entries.lookup key).isSome = true := present
      simp only [present, full, Bool.false_eq_true, if_false, Entries.size_set, absent]
      omega

end BoundedMap

namespace Controller

variable (resolver : Resolver) (controller : Controller) (policies : BoundedMap UInt32 Policy)

/-- Where no listed process is both gone and unmarked, looking for such marks none. -/
theorem markGone_unchanged (pids : List UInt32)
    (known : ∀ pid ∈ pids, controller.isDead pid = true ∨ resolver.isAlive pid = true) :
    perform resolver (controller.markGone pids) policies = ((0, controller), policies) := by
  induction pids with
  | nil => rfl
  | cons pid rest inductionHypothesis =>
    have remaining := inductionHypothesis fun other member =>
      known other (List.mem_cons_of_mem pid member)
    unfold markGone
    rcases known pid List.mem_cons_self with dead | alive
    · rw [if_pos dead]
      exact remaining
    · split
      · exact remaining
      · rw [perform_askAlive, if_pos alive]
        exact remaining

/-- Where every process of the table is marked or alive, there is nothing to reconcile. -/
theorem reconcile_unchanged
    (known : ∀ pid ∈ policies.keys, controller.isDead pid = true ∨ resolver.isAlive pid = true) :
    perform resolver controller.reconcile policies = ((0, controller), policies) :=
  markGone_unchanged resolver controller policies policies.keys known

/-- What the table says after a reconciliation and a cleanup. -/
theorem get?_maintained (pid : UInt32) :
    (perform resolver (perform resolver controller.reconcile policies).1.2.cleanup
        policies).2.get? pid =
      if resolver.isAlive pid = true ∧ controller.isDead pid = false then policies.get? pid
      else none := by
  have cleaned := standing_cleanup resolver
    (perform resolver controller.reconcile policies).1.2 policies pid
  rw [standing_reconcile] at cleaned
  have told := congrArg Standing.policy? cleaned
  rw [Standing.policy?_cleaned_reconciled] at told
  simp only [standing] at told
  exact told

/-- The listed processes that come into the table when they are asked about, if there is room:
they are absent and alive, and it is decided how they are profiled. -/
def entering (pids : List UInt32) : List UInt32 :=
  pids.filter fun pid =>
    (policies.get? pid).isNone && resolver.isAlive pid && (resolver.resolve pid).isSome

/-- Resolving a process that is not dead lets it into the table, if there is a place. -/
theorem size_resolve (consistent : policies.Consistent) (pid : UInt32)
    (unmarked : controller.isDead pid = false) :
    (perform resolver (controller.resolve pid) policies).2.entries.size =
      min policies.capacity.toNat
        (policies.entries.size + (entering resolver policies [pid]).length) := by
  have bounded := consistent.bounded
  rw [perform_resolve, unmarked]
  cases alive : resolver.isAlive pid with
  | false => simp [entering, alive, bounded]
  | true =>
    cases decision : resolver.resolve pid with
    | none => simp [entering, decision, bounded]
    | some policy =>
      simp only [Bool.false_eq_true, if_false, if_true, consistent.size_insert_any]
      cases known : policies.get? pid with
      | none => simp [entering, known, alive, decision]
      | some old => simp [entering, known, bounded]

/-- Resolving processes one after the other lets those in that enter, as long as there is a
place. -/
theorem size_resolveAll (pids : List UInt32) (distinct : pids.Nodup)
    (consistent : policies.Consistent)
    (unmarked : ∀ pid ∈ pids, controller.isDead pid = false) :
    (perform resolver (controller.resolveAll pids) policies).2.entries.size =
      min policies.capacity.toNat
        (policies.entries.size + (entering resolver policies pids).length) := by
  induction pids generalizing controller policies with
  | nil => exact (Nat.min_eq_right consistent.bounded).symm
  | cons pid rest inductionHypothesis =>
    obtain ⟨absent, distinctRest⟩ := List.nodup_cons.mp distinct
    have first := size_resolve resolver controller policies consistent pid
      (unmarked pid List.mem_cons_self)
    have elsewhere : ∀ other ∈ rest,
        standing (perform resolver (controller.resolve pid) policies) other =
          standing (controller, policies) other := by
      intro other member
      have apart : other ≠ pid := fun same => absent (same ▸ member)
      exact (standing_resolve resolver controller policies pid other).trans (if_neg apart)
    have sized := capacity_perform resolver policies (controller.resolve pid)
    have right := consistent_perform resolver policies (controller.resolve pid) consistent
    rw [resolveAll, perform_bind]
    generalize perform resolver (controller.resolve pid) policies = resolved at *
    have remaining := inductionHypothesis resolved.1 resolved.2 distinctRest right
      fun other member => (congrArg Standing.isDead (elsewhere other member)).trans
        (unmarked other (List.mem_cons_of_mem pid member))
    -- the one that was asked about does not come again, so the others enter as before
    have others : entering resolver resolved.2 rest = entering resolver policies rest := by
      apply List.filter_congr
      intro other member
      have same : resolved.2.get? other = policies.get? other :=
        congrArg Standing.policy? (elsewhere other member)
      rw [same]
    have counted : (entering resolver policies (pid :: rest)).length =
        (entering resolver policies [pid]).length + (entering resolver policies rest).length := by
      rw [← List.length_append]
      exact congrArg List.length (List.filter_append [pid] rest)
    rw [remaining, others, first, sized, counted]
    omega

/-- What asking again about undecided processes leaves in a table, where no process is dead: of
each process what was there, or what is decided now; and as many as there were and as come in,
up to the capacity. -/
theorem policies_retryUndecided (unmarked : controller.dead = Entries.empty) :
    (∀ pid, (perform resolver controller.retryUndecided policies).2.get? pid = policies.get? pid ∨
      controller.isUndecided pid = true ∧ resolver.isAlive pid = true ∧
        (resolver.resolve pid).isSome = true ∧
        (perform resolver controller.retryUndecided policies).2.get? pid =
          resolver.resolve pid) ∧
    (policies.Consistent →
      (perform resolver controller.retryUndecided policies).2.entries.size =
        min policies.capacity.toNat (policies.entries.size +
          (entering resolver policies controller.undecided.keys).length)) := by
  constructor
  · intro pid
    obtain ⟨admitted, -, retried⟩ := standing_retryUndecided resolver controller policies pid
    have told := Standing.policy?_retried (standing (controller, policies) pid)
      (resolver.isAlive pid) (resolver.resolve pid) admitted
    rw [← retried] at told
    exact told
  · intro consistent
    refine size_resolveAll resolver { controller with undecided := Entries.empty } policies
      controller.undecided.keys controller.undecided.distinct consistent ?_
    intro pid _
    simp only [isDead, unmarked]
    rfl

/-- Exited processes free the table, whatever notices were lost. Reconcile, and then clean
up: the table is left with the processes that are alive and were not dead, under the
policies that they had, and no process is marked. The reconciliation reports the processes
of the table that were gone and not yet marked, the cleanup those that it removed.
Reconciling once more finds nothing and changes nothing. If a process of the table was
gone, the next new process is accepted.

If undecided processes are asked about next, with the same processes alive, every process
of the table is still alive: it was left by the cleanup, or it was undecided and is decided
now. A new process is accepted then exactly if those that were left, and the undecided ones
that come in, are together fewer than the places. -/
theorem exited_processes_free_the_table :
    ∃ found marked removed cleaned kept,
      perform resolver controller.reconcile policies = ((found, marked), policies) ∧
      perform resolver marked.cleanup policies = ((removed, cleaned), kept) ∧
      (∀ pid, kept.get? pid =
        if resolver.isAlive pid = true ∧ controller.isDead pid = false then policies.get? pid
        else none) ∧
      cleaned.dead = Entries.empty ∧
      found = (policies.keys.filter fun pid =>
        !controller.isDead pid && !resolver.isAlive pid).length ∧
      removed + kept.entries.size = policies.entries.size ∧
      perform resolver cleaned.reconcile kept = ((0, cleaned), kept) ∧
      (policies.Consistent →
        (∃ gone ∈ policies.keys,
          controller.isDead gone = true ∨ resolver.isAlive gone = false) →
        ∀ pid policy, kept.get? pid = none →
          (kept.insert pid policy UpdateFlags.onlyNew).1 = .ok ()) ∧
      ∀ later : Resolver, later.isAlive = resolver.isAlive →
        ∃ settled last,
          perform later cleaned.retryUndecided kept = (settled, last) ∧
          (∀ pid, (last.get? pid).isSome = true → resolver.isAlive pid = true) ∧
          (∀ pid, last.get? pid = kept.get? pid ∨
            cleaned.isUndecided pid = true ∧ (later.resolve pid).isSome = true ∧
              last.get? pid = later.resolve pid) ∧
          (policies.Consistent → ∀ pid policy, last.get? pid = none →
            ((last.insert pid policy UpdateFlags.onlyNew).1 = .ok () ↔
              kept.entries.size + (entering later kept cleaned.undecided.keys).length <
                policies.capacity.toNat)) := by
  rcases reconciled : perform resolver controller.reconcile policies
    with ⟨⟨found, marked⟩, untouched⟩
  have same : untouched = policies := by
    rw [← policies_reconcile resolver controller policies, reconciled]
  subst same
  rcases maintained : perform resolver marked.cleanup untouched with ⟨⟨removed, cleaned⟩, kept⟩
  have told := get?_maintained resolver controller untouched
  have found_eq := count_reconcile resolver controller untouched
  have removed_eq := count_cleanup resolver marked untouched
  have forgotten := controller_cleanup resolver marked untouched
  have right := consistent_perform resolver untouched marked.cleanup
  have sized := capacity_perform resolver untouched marked.cleanup
  rw [reconciled] at told found_eq
  simp only [maintained] at told removed_eq forgotten right sized
  have unmarked : cleaned.dead = Entries.empty := by rw [forgotten]
  have live : ∀ pid, (kept.get? pid).isSome = true → resolver.isAlive pid = true := by
    intro pid present
    rw [told] at present
    split at present
    · rename_i spared
      exact spared.1
    · cases present
  refine ⟨found, marked, removed, cleaned, kept, rfl, maintained, told, unmarked, found_eq,
    removed_eq, ?_, ?_, ?_⟩
  · exact reconcile_unchanged resolver cleaned kept fun pid member =>
      .inr (live pid ((Entries.lookup_isSome_iff _ _).mpr member))
  · rintro consistent ⟨gone, listed, reason⟩ pid policy absent
    have thinned : untouched.Thinned kept := by
      constructor
      · refine ⟨gone, (Entries.lookup_isSome_iff _ _).mpr listed, ?_⟩
        rw [told, if_neg]
        rintro ⟨alive, unmarked⟩
        rcases reason with dead | exit
        · simp [dead] at unmarked
        · simp [exit] at alive
      · intro pid present
        rw [told] at present
        split at present
        · exact present
        · cases present
    have smaller := thinned.size_lt
    have bounded := consistent.bounded
    rw [(right consistent).takes_iff pid policy absent, sized]
    omega
  · intro later liveness
    obtain ⟨decided, counted⟩ := policies_retryUndecided later cleaned kept unmarked
    have rightLater := consistent_perform later kept cleaned.retryUndecided
    have sizedLater := capacity_perform later kept cleaned.retryUndecided
    rcases retried : perform later cleaned.retryUndecided kept with ⟨settled, last⟩
    rw [retried] at decided counted rightLater sizedLater
    refine ⟨settled, last, rfl, ?_, ?_, ?_⟩
    · intro pid present
      rcases decided pid with as_before | ⟨-, alive, -, -⟩
      · exact live pid (as_before ▸ present)
      · exact liveness ▸ alive
    · intro pid
      rcases decided pid with as_before | ⟨undecided, -, known, written⟩
      · exact .inl as_before
      · exact .inr ⟨undecided, known, written⟩
    · intro consistent pid policy absent
      rw [(rightLater (right consistent)).takes_iff pid policy absent, counted (right consistent),
        sizedLater, sized]
      omega

/-- A table with one process for each place, all of which were looked at. -/
def crowdedTable (pids : List UInt32) : BoundedMap UInt32 Policy :=
  pids.foldl (fun table pid =>
    (table.insert pid (Policy.ofKind .framePointers true true) UpdateFlags.any).2)
    (BoundedMap.ofCapacity (UInt32.ofNat pids.length))

/-- The resolver for which only processes from the fourth on are alive. -/
def fourthOn : Resolver where
  resolve _ := some (Policy.ofKind .framePointers true true)
  isAlive pid := 4 ≤ pid

/-- The controller that is to ask again about process 9. -/
def askingAboutNine : Controller :=
  { initial with undecided := Entries.empty.set 9 () }

/-- In a full table of four processes three have exited without a notice. One round of
maintenance finds the three, removes them, and makes room for a new process. Another one that
was undecided comes in, and there is still room. -/
theorem crowded_table_freed :
    ∃ marked cleaned kept settled last,
      perform fourthOn askingAboutNine.reconcile (crowdedTable [1, 2, 3, 4]) =
        ((3, marked), crowdedTable [1, 2, 3, 4]) ∧
      perform fourthOn marked.cleanup (crowdedTable [1, 2, 3, 4]) = ((3, cleaned), kept) ∧
      kept.get? 4 = (crowdedTable [1, 2, 3, 4]).get? 4 ∧ kept.get? 3 = none ∧
      (kept.insert 5 Policy.undecided UpdateFlags.onlyNew).1 = .ok () ∧
      perform fourthOn cleaned.retryUndecided kept = (settled, last) ∧
      (last.insert 5 Policy.undecided UpdateFlags.onlyNew).1 = .ok () := by
  obtain ⟨found, marked, removed, cleaned, kept, reconciled, maintained, told, -, found_eq,
    -, -, room, later⟩ :=
      exited_processes_free_the_table fourthOn askingAboutNine (crowdedTable [1, 2, 3, 4])
  obtain ⟨settled, last, retried, -, decided, accepts⟩ := later fourthOn rfl
  have three : found = 3 := found_eq
  have marked_eq : marked =
      (perform fourthOn askingAboutNine.reconcile (crowdedTable [1, 2, 3, 4])).1.2 := by
    rw [reconciled]
  have cleaned_eq : ((removed, cleaned), kept) =
      perform fourthOn marked.cleanup (crowdedTable [1, 2, 3, 4]) := maintained.symm
  subst three marked_eq
  cases cleaned_eq
  have right : (crowdedTable [1, 2, 3, 4]).Consistent := ⟨rfl, by decide⟩
  refine ⟨_, _, _, settled, last, reconciled, maintained, ?_, ?_, ?_, retried, ?_⟩
  · rw [told, if_pos (by decide)]
  · rw [told, if_neg (by decide)]
  · exact room right ⟨3, by decide, .inr (by decide)⟩ 5 Policy.undecided (by rw [told]; decide)
  · rw [accepts right 5 Policy.undecided]
    · decide
    · rcases decided 5 with as_before | ⟨undecided, -, -⟩
      · rw [as_before, told]
        decide
      · exact absurd undecided (by decide)

/-- The only process of a table with one place has exited, and process 9 was undecided and is
decided about now. After reconciling, cleaning up and asking again the table is full: the
place that was freed is taken, and a new process is refused. -/
theorem retried_process_fills_the_table :
    let table := crowdedTable [1]
    let reconciled := perform fourthOn askingAboutNine.reconcile table
    let cleaned := perform fourthOn reconciled.1.2.cleanup reconciled.2
    let retried := perform fourthOn cleaned.1.2.retryUndecided cleaned.2
    table.entries.size = table.capacity.toNat ∧
      (∀ pid ∈ table.keys, fourthOn.isAlive pid = false) ∧
      retried.2.get? 5 = none ∧
      (retried.2.insert 5 Policy.undecided UpdateFlags.onlyNew).1 = .error (.full 1) := by
  refine ⟨rfl, ?_, rfl, rfl⟩
  intro pid listed
  rw [List.mem_singleton.mp listed]
  rfl

end Controller
end SamplingProfiler
