import Mathlib.Data.Finset.Card
import SamplingProfiler.Proofs.Standings

/-!
# The order of notices

Processors send their notices in no common order, and a controller takes them as they
come. Two notices about the same process do not commute: a policy is written before the
exit is heard of, and not after it. But what differs then is only what the table says of a
dead process, and the next cleanup removes that.

So the policy of a dead process is left out of a standing, and what is left is changed by
notices in a way that commutes. Notices about different processes share nothing but room,
and there is room for all of them where the table can hold every process that it knows or
hears of.
-/

namespace SamplingProfiler

namespace Standing

/-- What lasts of a standing over the next cleanup. The policy of a dead process does not. -/
def lasting (standing : Standing) : Standing :=
  if standing.isDead then { standing with policy? := none } else standing

/-- What lasts of a standing after a notice, if it is about the process. -/
def hears (alive : Bool) (decision : Option Policy) (pid : UInt32) (standing : Standing)
    (notice : Notice) : Standing :=
  if notice.pid = pid then (standing.heard notice.kind? alive decision true).lasting
  else standing

/-- A cleanup sees only what lasts. -/
theorem cleaned_lasting (standing : Standing) : standing.lasting.cleaned = standing.cleaned := by
  obtain ⟨dead, undecided, policy?⟩ := standing
  cases dead <;> rfl

/-- What lasts after a notice depends on what lasted before it. -/
theorem lasting_heard (standing : Standing) (kind? : Option NoticeKind) (alive : Bool)
    (decision : Option Policy) :
    (standing.lasting.heard kind? alive decision true).lasting =
      (standing.heard kind? alive decision true).lasting := by
  obtain ⟨dead, undecided, policy?⟩ := standing
  cases dead with
  | false => rfl
  | true =>
    cases kind? with
    | none => rfl
    | some kind => cases kind <;> rfl

/-- Two notices about a process leave the same in either order, as far as it lasts. -/
theorem heard_comm (standing : Standing) (first second : Option NoticeKind) (alive : Bool)
    (decision : Option Policy) :
    ((standing.heard first alive decision true).heard second alive decision true).lasting =
      ((standing.heard second alive decision true).heard first alive decision true).lasting := by
  obtain ⟨dead, undecided, policy?⟩ := standing
  cases first with
  | none => rfl
  | some first =>
    cases second with
    | none => rfl
    | some second =>
      cases dead <;> cases alive <;> cases decision <;> cases first <;> cases second <;> rfl

/-- Any two notices commute, as far as their effect on a process lasts. -/
theorem hears_comm (alive : Bool) (decision : Option Policy) (pid : UInt32)
    (standing : Standing) (first second : Notice) :
    (standing.hears alive decision pid first).hears alive decision pid second =
      (standing.hears alive decision pid second).hears alive decision pid first := by
  simp only [hears]
  by_cases one : first.pid = pid
  · by_cases other : second.pid = pid
    · simp only [one, other, if_true, lasting_heard]
      exact heard_comm standing first.kind? second.kind? alive decision
    · simp only [one, other, if_true, if_false]
  · simp only [one, if_false]

end Standing

namespace Controller

/-- Handle notices, and clean up. -/
def settle (controller : Controller) (notices : List Notice) : Operation Controller := do
  let heard ← controller.handleAll notices
  let (_, cleaned) ← heard.cleanup
  return cleaned

/-- A table that can hold every process that it knows or is to hear of. -/
structure Roomy (policies : BoundedMap UInt32 Policy) (notices : List Notice) : Prop where
  consistent : policies.Consistent
  room : (policies.keys ++ notices.map Notice.pid).toFinset.card ≤ policies.capacity.toNat

/-- A roomy table admits the process of the next notice. -/
theorem Roomy.admits {policies : BoundedMap UInt32 Policy} {notice : Notice}
    {rest : List Notice} (roomy : Roomy policies (notice :: rest)) :
    policies.admits notice.pid = true := by
  simp only [BoundedMap.admits, Bool.or_eq_true, Bool.not_eq_true', decide_eq_false_iff_not]
  by_cases present : (policies.get? notice.pid).isSome = true
  · exact .inl present
  right
  rw [roomy.consistent.full_iff]
  -- the absent process makes one more than the keys, and there is room for all together
  have absent : notice.pid ∉ policies.keys := fun listed =>
    present ((Entries.lookup_isSome_iff _ _).mpr listed)
  have distinct : (notice.pid :: policies.keys).Nodup :=
    List.nodup_cons.mpr ⟨absent, policies.entries.distinct⟩
  have among : (notice.pid :: policies.keys).toFinset ⊆
      (policies.keys ++ (notice :: rest).map Notice.pid).toFinset := by
    intro pid member
    simp only [List.mem_toFinset, List.mem_cons, List.mem_append, List.map_cons] at member ⊢
    rcases member with same | known
    · exact .inr (.inl same)
    · exact .inl known
  have fits := (Finset.card_le_card among).trans roomy.room
  rw [List.toFinset_card_of_nodup distinct, List.length_cons] at fits
  have counted := Entries.length_keys policies.entries
  simp only [BoundedMap.keys] at fits
  omega

/-- Handling a notice leaves room for the processes of those that follow. -/
theorem Roomy.handle {policies : BoundedMap UInt32 Policy} {notice : Notice}
    {rest : List Notice} (roomy : Roomy policies (notice :: rest)) (resolver : Resolver)
    (controller : Controller) :
    Roomy (perform resolver (controller.handle notice) policies).2 rest := by
  refine ⟨consistent_perform resolver policies _ roomy.consistent, ?_⟩
  rw [capacity_perform]
  refine (Finset.card_le_card ?_).trans roomy.room
  intro pid member
  simp only [List.mem_toFinset, List.mem_append, List.map_cons, List.mem_cons] at member ⊢
  rcases member with listed | coming
  · by_cases same : pid = notice.pid
    · exact .inr (.inl same)
    · have stands := standing_handle resolver controller policies pid notice
      rw [if_neg same] at stands
      have told := congrArg Standing.policy? stands
      have present : (policies.get? pid).isSome = true := by
        rw [← show _ = policies.get? pid from told]
        exact (Entries.lookup_isSome_iff _ _).mpr listed
      exact .inl ((Entries.lookup_isSome_iff _ _).mp present)
  · exact .inr (.inr coming)

variable (resolver : Resolver) (controller : Controller) (policies : BoundedMap UInt32 Policy)

/-- What lasts of a standing after notices is what hearing them one after the other
makes of what lasted before.

Induct over the notices. Those about other processes leave the standing alone, and each
about this one finds its process admitted. -/
theorem lasting_handleAll (notices : List Notice) (roomy : Roomy policies notices)
    (pid : UInt32) :
    (standing (perform resolver (controller.handleAll notices) policies) pid).lasting =
      notices.foldl (Standing.hears (resolver.isAlive pid) (resolver.resolve pid) pid)
        (standing (controller, policies) pid).lasting := by
  induction notices generalizing controller policies with
  | nil => rfl
  | cons notice rest inductionHypothesis =>
    have stands := standing_handle resolver controller policies pid notice
    have first : (standing (perform resolver (controller.handle notice) policies) pid).lasting =
        Standing.hears (resolver.isAlive pid) (resolver.resolve pid) pid
          (standing (controller, policies) pid).lasting notice := by
      rw [stands]
      simp only [Standing.hears]
      by_cases same : pid = notice.pid
      · subst same
        simp only [if_true, roomy.admits, Standing.lasting_heard]
      · simp only [if_neg same, if_neg (Ne.symm same)]
    rw [handleAll, perform_bind, List.foldl_cons, ← first]
    exact inductionHypothesis _ _ (roomy.handle resolver controller)

/-- The standing of a process after notices and a cleanup. -/
theorem standing_settle (notices : List Notice) (roomy : Roomy policies notices) (pid : UInt32) :
    standing (perform resolver (controller.settle notices) policies) pid =
      (notices.foldl (Standing.hears (resolver.isAlive pid) (resolver.resolve pid) pid)
        (standing (controller, policies) pid).lasting).cleaned := by
  rw [← lasting_handleAll resolver controller policies notices roomy, Standing.cleaned_lasting,
    ← standing_cleanup resolver]
  simp only [settle, perform_bind, Dialogue.pure_eq_done, perform_done]

/-- The order of notices does not matter. Take any controller, a resolver whose answers
do not change, and notices, recognised or not, such that the table can hold all the
processes that it knows together with those of the notices. In whatever order the notices
are handled, the cleanup after them leaves the same table of processes, the same undecided
processes, and none that is dead. -/
theorem notices_settle_in_any_order (first second : List Notice) (same : first.Perm second)
    (consistent : policies.Consistent)
    (room : (policies.keys ++ first.map Notice.pid).toFinset.card ≤ policies.capacity.toNat) :
    ∃ one oneTable other otherTable,
      perform resolver (controller.settle first) policies = (one, oneTable) ∧
      perform resolver (controller.settle second) policies = (other, otherTable) ∧
      (∀ pid, oneTable.get? pid = otherTable.get? pid) ∧
      oneTable.count = otherTable.count ∧ oneTable.capacity = otherTable.capacity ∧
      (∀ pid, one.isUndecided pid = other.isUndecided pid) ∧
      one.dead = Entries.empty ∧ other.dead = Entries.empty := by
  have roomy : Roomy policies first := ⟨consistent, room⟩
  have roomyToo : Roomy policies second := by
    refine ⟨consistent, ?_⟩
    rwa [← List.toFinset_eq_of_perm _ _ ((same.map Notice.pid).append_left policies.keys)]
  have agree : ∀ pid, standing (perform resolver (controller.settle first) policies) pid =
      standing (perform resolver (controller.settle second) policies) pid := by
    intro pid
    rw [standing_settle resolver controller policies first roomy,
      standing_settle resolver controller policies second roomyToo]
    congr 1
    exact same.foldl_eq' (fun one _ other _ standing =>
      Standing.hears_comm _ _ pid standing one other) _
  have forgets : ∀ notices,
      (perform resolver (controller.settle notices) policies).1.dead = Entries.empty := by
    intro notices
    simp only [settle, perform_bind, Dialogue.pure_eq_done, perform_done, controller_cleanup]
  have right := consistent_perform resolver policies (controller.settle first) consistent
  have rightToo := consistent_perform resolver policies (controller.settle second) consistent
  have bound := capacity_perform resolver policies (controller.settle first)
  have boundToo := capacity_perform resolver policies (controller.settle second)
  have forgotten := forgets first
  have forgottenToo := forgets second
  rcases settled : perform resolver (controller.settle first) policies with ⟨one, oneTable⟩
  rcases settledToo : perform resolver (controller.settle second) policies with
    ⟨other, otherTable⟩
  simp only [settled] at agree right bound forgotten
  simp only [settledToo] at agree rightToo boundToo forgottenToo
  have contents : ∀ pid, oneTable.get? pid = otherTable.get? pid := fun pid =>
    congrArg Standing.policy? (agree pid)
  refine ⟨one, oneTable, other, otherTable, rfl, rfl, contents, ?_, bound.trans boundToo.symm,
    fun pid => congrArg Standing.isUndecided (agree pid), forgotten, forgottenToo⟩
  apply UInt32.toNat_inj.mp
  rw [right.counted, rightToo.counted]
  exact Entries.size_eq _ _ contents

/-- The resolver that finds every process alive, and knows the policies of the first two. -/
def knowsTwo : Resolver where
  resolve pid := if pid ≤ 2 then some (Policy.ofKind .framePointers true true) else none
  isAlive _ := true

/-- A table with room for three processes that holds the first one. -/
def sparseTable : BoundedMap UInt32 Policy :=
  ((BoundedMap.ofCapacity 3).insert 1 Policy.undecided UpdateFlags.any).2

/-- The first process replaced its image and exited. Where the exit is heard of last its
policy is still written, and where it is heard of first it is not. Either way the first
process is removed, the second has its policy and the third is undecided. -/
theorem exits_and_sightings_settle_alike :
    ∃ one oneTable other otherTable,
      perform knowsTwo (initial.settle [⟨2, 1⟩, ⟨1, 2⟩, ⟨42, 2⟩, ⟨3, 1⟩, ⟨1, 3⟩]) sparseTable =
        (one, oneTable) ∧
      perform knowsTwo (initial.settle [⟨3, 1⟩, ⟨1, 3⟩, ⟨2, 1⟩, ⟨42, 2⟩, ⟨1, 2⟩]) sparseTable =
        (other, otherTable) ∧
      otherTable.get? 1 = none ∧
      otherTable.get? 2 = some (Policy.ofKind .framePointers true true) ∧
      other.isUndecided 3 = true ∧ other.isDead 1 = false := by
  obtain ⟨one, oneTable, other, otherTable, settled, settledToo, contents, -, -, same, -,
    forgotten⟩ := notices_settle_in_any_order knowsTwo initial sparseTable
      [⟨2, 1⟩, ⟨1, 2⟩, ⟨42, 2⟩, ⟨3, 1⟩, ⟨1, 3⟩] [⟨3, 1⟩, ⟨1, 3⟩, ⟨2, 1⟩, ⟨42, 2⟩, ⟨1, 2⟩]
      (by decide) ⟨rfl, by decide⟩ (by decide)
  have one_eq : one = _ := (congrArg Prod.fst settled).symm
  have oneTable_eq : oneTable = _ := (congrArg Prod.snd settled).symm
  refine ⟨one, oneTable, other, otherTable, settled, settledToo, ?_, ?_, ?_, ?_⟩
  · rw [← contents, oneTable_eq]
    rfl
  · rw [← contents, oneTable_eq]
    rfl
  · rw [← same, one_eq]
    rfl
  · rw [isDead, forgotten]
    rfl

end Controller
end SamplingProfiler
