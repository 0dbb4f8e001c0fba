import Mathlib.Data.List.Dedup
import Mathlib.Data.List.Perm.Subperm
import SamplingProfiler.Proofs.Announcements
import SamplingProfiler.Proofs.Attribution
import SamplingProfiler.Proofs.OutcomeAccounts
import SamplingProfiler.Proofs.StackContents
import SamplingProfiler.Proofs.TableContents

/-!
# The order of ticks

Which tick writes a key and which one raises it depends on their order, and so does which tick
fills a bucket. What the tables hold in the end does not, as long as no two stacks want the
same bucket and there is room for all keys: then the tables can be described without the
order, by the keys and the stacks that the ticks have by themselves.

The description is an invariant of runs. Two runs with the same ticks in different orders meet
the same description.
-/

namespace SamplingProfiler

/-- The same task on some processor. -/
def Task.onCpu (cpu : UInt32) (task : Task) : Task :=
  { task with cpu }

/-- A table of counts says how often each of these keys is listed, modulo 2 ^ 32, and has no
others. -/
structure Tallied (keys : List SampleKey) (counts : BoundedMap SampleKey UInt32) : Prop where
  consistent : counts.Consistent
  counted : ∀ key, counts.get? key =
    if key ∈ keys then some (UInt32.ofNat (keys.count key)) else none

/-- The outcomes of ticks that are counted under these keys: each key is written once, and
raised as often as it comes again. -/
def keyOutcomes (keys : List SampleKey) : List Outcome :=
  List.replicate keys.dedup.length .sampleNewKey ++
    List.replicate (keys.length - keys.dedup.length) .sampleCounted

section Keys

variable {keys : List SampleKey} {counts next : BoundedMap SampleKey UInt32} {key : SampleKey}
  {outcome : Outcome}

/-- A key that comes last is written if it was not there before, and else raised. -/
theorem keyOutcomes_append (keys : List SampleKey) (key : SampleKey) :
    (keyOutcomes (keys ++ [key])).Perm
      (keyOutcomes keys ++ [if key ∈ keys then .sampleCounted else .sampleNewKey]) := by
  have fewer : keys.dedup.length ≤ keys.length := (List.dedup_sublist keys).length_le
  have distinct : (keys ++ [key]).dedup.length = (key :: keys).dedup.length :=
    (List.perm_append_singleton key keys).dedup.length_eq
  rw [List.perm_iff_count]
  intro tested
  simp only [keyOutcomes, distinct, List.length_append, List.length_singleton, List.count_append,
    List.count_replicate, List.count_singleton]
  by_cases present : key ∈ keys
  · rw [List.dedup_cons_of_mem present, if_pos present]
    cases tested <;> simp
    omega
  · rw [List.dedup_cons_of_notMem present, if_neg present, List.length_cons]
    cases tested <;> simp

/-- As many keys are counted as different ones are listed. -/
theorem Tallied.size (tallied : Tallied keys counts) :
    counts.entries.size = keys.dedup.length := by
  have listed : counts.entries.keys.Perm keys.dedup := by
    refine (List.perm_ext_iff_of_nodup counts.entries.distinct (List.nodup_dedup keys)).mpr ?_
    intro key
    have counted := tallied.counted key
    rw [List.mem_dedup]
    change key ∈ counts.entries.keys ↔ key ∈ keys
    rw [← Entries.lookup_isSome_iff]
    change (counts.get? key).isSome = true ↔ key ∈ keys
    rw [counted]
    by_cases present : key ∈ keys <;> simp [present]
  rw [← Entries.length_keys, listed.length_eq]

/-- A table in which the number of one key went up by one tallies it once more. -/
theorem Tallied.append (tallied : Tallied keys counts) (consistent : next.Consistent)
    (shows : ∀ tested, next.get? tested =
      if tested = key then some (UInt32.ofNat (keys.count key + 1)) else counts.get? tested) :
    Tallied (keys ++ [key]) next := by
  refine ⟨consistent, ?_⟩
  intro tested
  rw [shows]
  by_cases same : tested = key
  · subst same
    simp [List.count_append]
  · rw [if_neg same, tallied.counted]
    simp [same, List.count_append, Ne.symm same]

/-- Counting a key once tallies it, if there is room for all keys. -/
theorem Tallied.count (tallied : Tallied keys counts)
    (counted : Session.KeyCounted counts key outcome next)
    (room : (keys ++ [key]).dedup.length ≤ counts.capacity.toNat) :
    Tallied (keys ++ [key]) next ∧ next.capacity = counts.capacity ∧
      outcome = if key ∈ keys then .sampleCounted else .sampleNewKey := by
  have before := tallied.counted key
  have consistent := counted.consistent tallied.consistent
  cases counted with
  | raised count present =>
    by_cases listed : key ∈ keys
    · rw [if_pos listed] at before ⊢
      have value : count = UInt32.ofNat (keys.count key) :=
        Option.some.inj (present.symm.trans before)
      refine ⟨tallied.append consistent ?_, rfl, rfl⟩
      intro tested
      simp only [BoundedMap.get?, Entries.lookup_set, value, UInt32.ofNat_add, UInt32.reduceOfNat]
    · rw [if_neg listed, present] at before
      cases before
  | written absent unfilled =>
    by_cases listed : key ∈ keys
    · rw [if_pos listed, absent] at before
      cases before
    · rw [if_neg listed]
      refine ⟨tallied.append consistent ?_, rfl, rfl⟩
      intro tested
      simp only [BoundedMap.get?, Entries.lookup_set, List.count_eq_zero.mpr listed, Nat.zero_add,
        UInt32.reduceOfNat]
  | refused absent full =>
    exfalso
    have unlisted : key ∉ keys := by
      intro listed
      rw [if_pos listed, absent] at before
      cases before
    have distinct : (keys ++ [key]).dedup.length = (key :: keys).dedup.length :=
      (List.perm_append_singleton key keys).dedup.length_eq
    rw [distinct, List.dedup_cons_of_notMem unlisted, List.length_cons, ← tallied.size] at room
    omega

end Keys

namespace Session

section Description

variable (session : Session)

/-- The policy by which a tick is counted, if it is counted. -/
def followed? (task : Task) : Option Policy :=
  if session.isEligible task then session.policies.get? task.pid else none

/-- The key of a tick each of whose stacks is in its own bucket. -/
def ownKey (task : Task) (policy : Policy) : SampleKey :=
  { SampleKey.ofPid task.pid with
    kernelStack := session.stackStore.sideId policy.collectsKernel task.kernelStack
    userStack := session.stackStore.sideId policy.collectsUser task.userStack }

/-- The stacks of a tick that are captured. -/
def ownStacks (task : Task) (policy : Policy) : List (List UInt64) :=
  session.stackStore.sideStacks policy.collectsKernel task.kernelStack ++
    session.stackStore.sideStacks policy.collectsUser task.userStack

/-- The keys of the ticks that are counted. -/
def sampleKeys (tasks : List Task) : List SampleKey :=
  tasks.filterMap fun task => (session.followed? task).map (session.ownKey task)

/-- The stacks of the ticks that are counted. -/
def capturedStacks (tasks : List Task) : List (List UInt64) :=
  tasks.flatMap fun task => (session.followed? task).elim [] (session.ownStacks task)

/-- The outcomes of the ticks that are not counted. -/
def idleOutcomes (tasks : List Task) : List Outcome :=
  tasks.filterMap fun task =>
    if session.isEligible task then none else some (session.sample task).1

/-- The ticks of a list, as events. -/
def ticks (tasks : List Task) : List SessionEvent :=
  tasks.map .sampled

/-- Nothing was counted or captured yet. -/
structure Unprofiled : Prop where
  consistent : session.counts.Consistent
  uncounted : ∀ key, session.counts.get? key = none
  unoccupied : ∀ id, session.stackStore.occupied.lookup id = none

/-- Ticks of known processes that get along with each other: no two different stacks want one
bucket, and there is room for all keys. -/
structure Compatible (tasks : List Task) : Prop where
  known : ∀ task ∈ tasks, (session.policies.get? task.pid).isSome = true
  apart : session.stackStore.BucketsApart (session.capturedStacks tasks)
  room : (session.sampleKeys tasks).dedup.length ≤ session.counts.capacity.toNat

/-- A session after ticks, described without their order. -/
structure Reached (tasks : List Task) (ended : List Outcome) (current : Session) : Prop where
  policies : current.policies = session.policies
  unwinders : current.unwinders = session.unwinders
  capacity : current.counts.capacity = session.counts.capacity
  counts : Tallied (session.sampleKeys tasks) current.counts
  captures : StackStore.HoldsExactly session.stackStore (session.capturedStacks tasks)
    current.stackStore
  ended : ended.Perm (session.idleOutcomes tasks ++ keyOutcomes (session.sampleKeys tasks))

end Description

section Sides

variable (current : Session) (task : Task) (wanted : Bool) {base : StackStore}
  {captures : List (List UInt64)}

/-- A side of a tick has its own id, and its stack is held afterwards. -/
theorem side_own (flags : UInt64) (frames : List UInt64)
    (captured : current.stackStore.Captured frames (current.captureStack task flags).1
      (current.captureStack task flags).2.stackStore)
    (stored : 0 ≤ (current.captureStack task flags).1 → current.stackStore.admits frames = true)
    (holds : StackStore.HoldsExactly base captures current.stackStore)
    (apart : base.BucketsApart (captures ++ base.sideStacks wanted frames)) :
    (current.captureSide task wanted flags).1 = base.sideId wanted frames ∧
      StackStore.HoldsExactly base (captures ++ base.sideStacks wanted frames)
        (current.captureSide task wanted flags).2.stackStore := by
  cases wanted with
  | false => exact ⟨rfl, by simpa [captureSide, StackStore.sideStacks] using holds⟩
  | true => exact holds.side captured stored apart

/-- A counted tick has the key that it has by itself, and its stacks are held afterwards. -/
theorem tick_own (origin : Session) (policy : Policy)
    (holds : StackStore.HoldsExactly origin.stackStore captures current.stackStore)
    (apart : origin.stackStore.BucketsApart (captures ++ origin.ownStacks task policy)) :
    current.tickKey task policy = origin.ownKey task policy ∧
      StackStore.HoldsExactly origin.stackStore (captures ++ origin.ownStacks task policy)
        (current.afterCaptures task policy).stackStore := by
  rw [ownStacks, ← List.append_assoc] at apart ⊢
  obtain ⟨kernelId, kernelHeld⟩ := current.side_own task policy.collectsKernel
    StackFlags.kernelSide task.kernelStack (current.stackStore.capture_kernelSide _ _)
    (current.stackStore.capture_admits _ _ _ StackStore.plain_kernelSide) holds
    (apart.mono fun frames member => List.mem_append_left _ member)
  obtain ⟨userId, userHeld⟩ := (current.afterKernelSide task policy).side_own task
    policy.collectsUser StackFlags.userSide task.userStack
    ((current.afterKernelSide task policy).stackStore.capture_userSide _ _)
    ((current.afterKernelSide task policy).stackStore.capture_admits _ _ _
      StackStore.plain_userSide) kernelHeld apart
  refine ⟨?_, userHeld⟩
  rw [tickKey, kernelId, userId]
  rfl

end Sides

section Idle

variable (session : Session) (task : Task)

/-- Which ticks are counted depends on the table of processes alone, and not on the
processor. -/
theorem isEligible_eq {first second : Session} (policies : first.policies = second.policies)
    {one other : Task} (subject : one.toSubject = other.toSubject) :
    first.isEligible one = second.isEligible other := by
  obtain ⟨⟨pid, hasTask, flags⟩, cpu, kernelStack, userStack⟩ := one
  obtain ⟨⟨_, _, _⟩, _, _, _⟩ := other
  cases subject
  simp only [isEligible, policies]

/-- How a tick ends that is not counted depends on the tables of processes and of unwinders
alone, and not on the processor or the stacks. -/
theorem idle_outcome_eq {first second : Session} (policies : first.policies = second.policies)
    (unwinders : first.unwinders = second.unwinders) {one other : Task}
    (subject : one.toSubject = other.toSubject) (ineligible : first.isEligible one = false)
    (known : (first.policies.get? one.pid).isSome = true) :
    (first.sample one).1 = (second.sample other).1 := by
  obtain ⟨policy, found⟩ := Option.isSome_iff_exists.mp known
  have foundOther : second.policies.get? other.toSubject.pid = some policy := by
    rw [← policies, ← subject]
    exact found
  have uncounted : ¬ (first.isEligible one = true) := by simp [ineligible]
  rw [isEligible_iff] at uncounted
  simp only [sample, decide, Sampler.sample, subject]
  cases refused : Sampler.refusal? other.toSubject with
  | some outcome => rfl
  | none =>
    have samePid : one.pid = other.toSubject.pid := congrArg Subject.pid subject
    rw [samePid] at found
    simp only [Sampler.findPolicy, Dialogue.request_bind, Dialogue.run_ask, answer, found,
      foundOther, Sampler.followPolicy]
    cases kind : policy.kind? with
    | none => rfl
    | some named =>
      cases named with
      | unknown => rfl
      | error => rfl
      | framePointers =>
        exact absurd ⟨subject ▸ refused, policy, samePid ▸ found, kind⟩ uncounted
      | python =>
        simp only [Sampler.tailCall, Dialogue.request_bind, Dialogue.run_ask, answer, handOver,
          unwinders]
        cases second.unwinders.find Limits.pythonSlot <;> rfl

/-- A tick leaves the unwinders alone, and if its process is known also the processes. -/
theorem sample_frame (known : (session.policies.get? task.pid).isSome = true) :
    (session.sample task).2.policies = session.policies ∧
      (session.sample task).2.unwinders = session.unwinders := by
  constructor
  · have announced := session.sample_announced task
    generalize (session.sample task).1 = outcome at announced
    cases announced with
    | newProcess policies _ absent => simp [absent] at known
    | silent _ _ other unwritten => exact unwritten
  · exact (session.run_frame task (Sampler.sample task.toSubject)).2.1

end Idle

section Appending

variable (session : Session) (tasks : List Task) (task : Task)

/-- A counted tick adds its key and its stacks to those of the ticks before. -/
theorem described_counted {policy : Policy} (eligible : session.isEligible task = true)
    (known : session.policies.get? task.pid = some policy) :
    session.sampleKeys (tasks ++ [task]) =
        session.sampleKeys tasks ++ [session.ownKey task policy] ∧
      session.capturedStacks (tasks ++ [task]) =
        session.capturedStacks tasks ++ session.ownStacks task policy ∧
      session.idleOutcomes (tasks ++ [task]) = session.idleOutcomes tasks := by
  have followed : session.followed? task = some policy := by rw [followed?, if_pos eligible, known]
  refine ⟨?_, ?_, ?_⟩
  · simp [sampleKeys, List.filterMap_append, followed]
  · simp [capturedStacks, followed]
  · simp [idleOutcomes, List.filterMap_append, eligible]

/-- A tick that is not counted adds its outcome to those of the ticks before. -/
theorem described_idle (ineligible : session.isEligible task = false) :
    session.sampleKeys (tasks ++ [task]) = session.sampleKeys tasks ∧
      session.capturedStacks (tasks ++ [task]) = session.capturedStacks tasks ∧
      session.idleOutcomes (tasks ++ [task]) =
        session.idleOutcomes tasks ++ [(session.sample task).1] := by
  have unfollowed : session.followed? task = none := by simp [followed?, ineligible]
  refine ⟨?_, ?_, ?_⟩
  · simp [sampleKeys, List.filterMap_append, unfollowed]
  · simp [capturedStacks, unfollowed]
  · simp [idleOutcomes, List.filterMap_append, ineligible]

end Appending

section Run

variable {session current : Session} {tasks : List Task} {ended : List Outcome}

/-- A tick that is counted comes where the description says. -/
theorem Reached.counted (reached : session.Reached tasks ended current) (task : Task)
    (compatible : session.Compatible (tasks ++ [task]))
    (eligible : session.isEligible task = true) :
    session.Reached (tasks ++ [task]) (ended ++ [(current.sample task).1])
      (current.sample task).2 := by
  have known := compatible.known task (by simp)
  obtain ⟨policies, unwinders⟩ := current.sample_frame task (reached.policies ▸ known)
  have eligibleHere : current.isEligible task = true :=
    (isEligible_eq reached.policies rfl).trans eligible
  obtain ⟨admitted, policy, found, kind⟩ := (current.isEligible_iff task).mp eligibleHere
  obtain ⟨keys, captures, idle⟩ :=
    session.described_counted tasks task eligible (reached.policies ▸ found)
  obtain ⟨ownKey, held⟩ := current.tick_own task session policy reached.captures
    (captures ▸ compatible.apart)
  have room := compatible.room
  rw [keys, ← reached.capacity] at room
  have counted := current.counted_counts task policy reached.counts.consistent
  rw [ownKey] at counted
  obtain ⟨tallied, capacity, outcome⟩ := reached.counts.count counted room
  have sampled := current.sample_counting task policy admitted found kind
  refine ⟨policies.trans reached.policies, unwinders.trans reached.unwinders, ?_, ?_, ?_, ?_⟩
  · rw [sampled]
    exact capacity.trans reached.capacity
  · rw [sampled, keys]
    exact tallied
  · rw [sampled, captures]
    simpa only [record, counted_stacks] using held
  · rw [sampled, keys, idle, outcome]
    refine (reached.ended.append_right _).trans ?_
    rw [List.append_assoc]
    exact (keyOutcomes_append _ _).symm.append_left _

/-- A tick that is not counted comes where the description says. -/
theorem Reached.idle (reached : session.Reached tasks ended current) (task : Task)
    (known : (session.policies.get? task.pid).isSome = true)
    (ineligible : session.isEligible task = false) :
    session.Reached (tasks ++ [task]) (ended ++ [(current.sample task).1])
      (current.sample task).2 := by
  obtain ⟨policies, unwinders⟩ := current.sample_frame task (reached.policies ▸ known)
  have ineligibleHere : current.isEligible task = false :=
    (isEligible_eq reached.policies rfl).trans ineligible
  obtain ⟨same, -⟩ := current.sample_uncounted task ineligibleHere
  have outcome : (current.sample task).1 = (session.sample task).1 :=
    idle_outcome_eq reached.policies reached.unwinders rfl ineligibleHere
      (reached.policies ▸ known)
  obtain ⟨keys, captures, idle⟩ := session.described_idle tasks task ineligible
  refine ⟨policies.trans reached.policies, unwinders.trans reached.unwinders, ?_, ?_, ?_, ?_⟩
  · rw [same.counts]
    exact reached.capacity
  · rw [same.counts, keys]
    exact reached.counts
  · rw [same.stackStore, captures]
    exact reached.captures
  · rw [keys, idle, outcome, List.append_assoc]
    refine (reached.ended.append_right _).trans ?_
    rw [List.append_assoc]
    exact List.perm_append_comm.append_left _

/-- Some ticks of a compatible list are compatible. -/
theorem Compatible.of_append {first second : List Task}
    (compatible : session.Compatible (first ++ second)) : session.Compatible first where
  known task member := compatible.known task (List.mem_append_left _ member)
  apart := compatible.apart.mono (by simp [capturedStacks])
  room := by
    refine Nat.le_trans ?_ compatible.room
    have among : (session.sampleKeys first).dedup ⊆ (session.sampleKeys (first ++ second)).dedup := by
      intro key member
      rw [List.mem_dedup] at member ⊢
      simp only [sampleKeys, List.filterMap_append]
      exact List.mem_append_left _ member
    exact (List.subperm_of_subset (List.nodup_dedup _) among).length_le

/-- Ticks come where the description says. -/
theorem Reached.ticks (reached : session.Reached tasks ended current) (more : List Task)
    (compatible : session.Compatible (tasks ++ more)) :
    session.Reached (tasks ++ more) (ended ++ current.outcomes (ticks more))
      (current.after (Session.ticks more)) := by
  induction more generalizing tasks ended current with
  | nil => simpa [Session.ticks, outcomes, gathered] using reached
  | cons task rest inductionHypothesis =>
    have split : tasks ++ task :: rest = (tasks ++ [task]) ++ rest := by simp
    rw [split] at compatible ⊢
    have first := compatible.of_append
    have stepped : session.Reached (tasks ++ [task]) (ended ++ [(current.sample task).1])
        (current.sample task).2 := by
      cases eligible : session.isEligible task with
      | true => exact reached.counted task first eligible
      | false => exact reached.idle task (first.known task (by simp)) eligible
    have last := inductionHypothesis stepped compatible
    rw [List.append_assoc ended] at last
    exact last

/-- From a session in which nothing was profiled yet, ticks come where the description
says. -/
theorem Unprofiled.reached (unprofiled : session.Unprofiled) (compatible : session.Compatible tasks) :
    session.Reached tasks (session.outcomes (ticks tasks)) (session.after (ticks tasks)) := by
  have start : session.Reached [] [] session := by
    refine ⟨rfl, rfl, rfl, ⟨unprofiled.consistent, ?_⟩, ?_, List.Perm.refl []⟩
    · intro key
      rw [unprofiled.uncounted]
      rfl
    · exact StackStore.holdsExactly_of_unoccupied _ unprofiled.unoccupied
  exact start.ticks tasks compatible

end Run

section Rearranged

variable {session : Session} {first second : List Task}

/-- The same ticks in another order, each on any processor. -/
def Rearranged (first second : List Task) : Prop :=
  (first.map (Task.onCpu 0)).Perm (second.map (Task.onCpu 0))

/-- Keys, stacks and outcomes do not depend on the processors. -/
theorem described_onCpu (session : Session) (tasks : List Task)
    (known : ∀ task ∈ tasks, (session.policies.get? task.pid).isSome = true) :
    session.sampleKeys (tasks.map (Task.onCpu 0)) = session.sampleKeys tasks ∧
      session.capturedStacks (tasks.map (Task.onCpu 0)) = session.capturedStacks tasks ∧
      session.idleOutcomes (tasks.map (Task.onCpu 0)) = session.idleOutcomes tasks := by
  refine ⟨List.filterMap_map, List.flatMap_map _ _ _, ?_⟩
  rw [idleOutcomes, List.filterMap_map]
  refine List.filterMap_congr ?_
  intro task member
  have subject : task.toSubject = (Task.onCpu 0 task).toSubject := rfl
  have sameTest : session.isEligible (Task.onCpu 0 task) = session.isEligible task := rfl
  simp only [Function.comp_apply, sameTest]
  cases eligible : session.isEligible task with
  | true => rfl
  | false =>
    rw [idle_outcome_eq rfl rfl subject eligible (known task member)]

/-- The same ticks in another order are of known processes if they were before. -/
theorem Rearranged.known (rearranged : Rearranged first second)
    (known : ∀ task ∈ first, (session.policies.get? task.pid).isSome = true) :
    ∀ task ∈ second, (session.policies.get? task.pid).isSome = true := by
  intro task member
  have moved : Task.onCpu 0 task ∈ first.map (Task.onCpu 0) :=
    rearranged.mem_iff.mpr (List.mem_map_of_mem member)
  obtain ⟨other, memberOther, same⟩ := List.mem_map.mp moved
  have samePid : task.pid = other.pid := congrArg (fun moved => moved.pid) same.symm
  rw [samePid]
  exact known other memberOther

/-- The same ticks in another order have the same keys, stacks and outcomes. -/
theorem Rearranged.described (rearranged : Rearranged first second)
    (known : ∀ task ∈ first, (session.policies.get? task.pid).isSome = true) :
    (session.sampleKeys first).Perm (session.sampleKeys second) ∧
      (session.capturedStacks first).Perm (session.capturedStacks second) ∧
      (session.idleOutcomes first).Perm (session.idleOutcomes second) := by
  obtain ⟨keysFirst, stacksFirst, idleFirst⟩ := described_onCpu session first known
  obtain ⟨keysSecond, stacksSecond, idleSecond⟩ :=
    described_onCpu session second (rearranged.known known)
  rw [← keysFirst, ← stacksFirst, ← idleFirst, ← keysSecond, ← stacksSecond, ← idleSecond]
  exact ⟨rearranged.filterMap _, rearranged.flatMap_right _, rearranged.filterMap _⟩

/-- The same ticks in another order are compatible if they were before. -/
theorem Compatible.rearranged (compatible : session.Compatible first)
    (rearranged : Rearranged first second) : session.Compatible second := by
  obtain ⟨keys, captures, -⟩ := rearranged.described compatible.known
  refine ⟨rearranged.known compatible.known, compatible.apart.mono captures.symm.subset, ?_⟩
  rw [← keys.dedup.length_eq]
  exact compatible.room

end Rearranged

/-- Stores with the same buckets give a key the same sample. -/
theorem exportedSample_congr {first second : StackStore}
    (same : ∀ id, first.occupied.lookup id = second.occupied.lookup id) :
    exportedSample first = exportedSample second := by
  have frames : first.lookup = second.lookup := by
    funext id
    rw [StackStore.lookup, StackStore.lookup, same]
  funext pair
  simp only [exportedSample, StackStore.framesOf, frames]

/-- Ticks may come in any order. From a session in which nothing was profiled yet, take ticks
of processes that the table knows, no two different stacks of which want the same bucket and
for all keys of which there is room. In whatever order and on whatever processors they come, in
the end the same keys are counted equally often, the same buckets hold the same stacks, the
outcomes are the same and each was counted as often, and a collection exports the same
samples. -/
theorem ticks_profiled_in_any_order (session : Session) (first second : List Task)
    (unprofiled : session.Unprofiled) (compatible : session.Compatible first)
    (rearranged : Rearranged first second) :
    let one := session.after (ticks first)
    let other := session.after (ticks second)
    one.counts.pairs.Perm other.counts.pairs ∧ one.counts.count = other.counts.count ∧
    one.counts.capacity = other.counts.capacity ∧
    one.stackStore.occupied.pairs.Perm other.stackStore.occupied.pairs ∧
    one.stackStore.bucketCount = other.stackStore.bucketCount ∧
    (session.outcomes (ticks first)).Perm (session.outcomes (ticks second)) ∧
    (∀ outcome, one.tally.count outcome = other.tally.count outcome) ∧
    one.collect.1.Perm other.collect.1 := by
  intro one other
  obtain ⟨keys, captures, idle⟩ := rearranged.described compatible.known
  have reachedOne := unprofiled.reached compatible
  have reachedOther := unprofiled.reached (compatible.rearranged rearranged)
  have counts (key : SampleKey) : one.counts.get? key = other.counts.get? key := by
    rw [reachedOne.counts.counted, reachedOther.counts.counted, keys.count_eq]
    simp only [keys.mem_iff]
  have buckets (id : UInt32) :
      one.stackStore.occupied.lookup id = other.stackStore.occupied.lookup id :=
    reachedOne.captures.lookup_eq reachedOther.captures captures id
  have pairs := Entries.pairs_perm one.counts.entries other.counts.entries counts
  have outcomes : (session.outcomes (ticks first)).Perm (session.outcomes (ticks second)) := by
    refine reachedOne.ended.trans (List.Perm.trans ?_ reachedOther.ended.symm)
    rw [keyOutcomes, keyOutcomes, keys.length_eq, keys.dedup.length_eq]
    exact idle.append_right _
  refine ⟨pairs, ?_, ?_, Entries.pairs_perm _ _ buckets, ?_, outcomes, ?_, ?_⟩
  · rw [← UInt32.toNat_inj, reachedOne.counts.consistent.counted,
      reachedOther.counts.consistent.counted]
    exact pairs.length_eq
  · exact reachedOne.capacity.trans reachedOther.capacity.symm
  · exact reachedOne.captures.bucketCount.trans reachedOther.captures.bucketCount.symm
  · intro outcome
    simp only [one, other, tally_after, OutcomeTally.count_recorded, outcomes.count_eq]
  · rw [collect_eq, collect_eq, exportedSample_congr buckets]
    exact pairs.map _

/-- Four buckets, two processors, and a process to be sampled on the side of user space. -/
def orderedSession : Session :=
  (ofOptions { Options.standard with profileMapsSize := 4, numCpus := 2 } 1).after [userSideOnly]

/-- Two stacks, one of them twice, and a worker of the kernel that is not sampled. -/
def orderedTicks : List Task :=
  [shallowTask 1, shallowTask 2, Task.kernelThread 0 7, shallowTask 1]

/-- The same ticks, the other stack first, and two of them on the other processor. -/
def rearrangedTicks : List Task :=
  [Task.onCpu 1 (shallowTask 2), shallowTask 1, Task.onCpu 1 (shallowTask 1),
    Task.kernelThread 0 7]

/-- The two orders list their samples differently, and they are the same samples: one stack
was sampled twice and the other one once. -/
theorem rearranged_ticks_profiled :
    let one := orderedSession.after (ticks orderedTicks)
    let other := orderedSession.after (ticks rearrangedTicks)
    one.collect.1 =
        [⟨⟨7, 0, -1, 1⟩, 2, [], [1]⟩, ⟨⟨7, 0, -1, 3⟩, 1, [], [2]⟩] ∧
      one.collect.1 ≠ other.collect.1 ∧ one.collect.1.Perm other.collect.1 ∧
      other.tally.count .sampleNewKey = 2 := by
  intro one other
  have unprofiled : orderedSession.Unprofiled :=
    ⟨consistent_after _ _ [userSideOnly], fun _ => rfl, fun _ => rfl⟩
  have compatible : orderedSession.Compatible orderedTicks := by
    refine ⟨?_, ?_, ?_⟩
    · decide +kernel
    · unfold StackStore.BucketsApart
      decide +kernel
    · decide +kernel
  have rearranged : Rearranged orderedTicks rearrangedTicks := by
    unfold Rearranged
    decide +kernel
  obtain ⟨-, -, -, -, -, -, tallies, samples⟩ := ticks_profiled_in_any_order orderedSession
    orderedTicks rearrangedTicks unprofiled compatible rearranged
  refine ⟨?_, ?_, samples, (tallies .sampleNewKey).symm.trans ?_⟩
  · decide +kernel
  · decide +kernel
  · decide +kernel

end Session
end SamplingProfiler
