import SamplingProfiler.Loader.Collector
import SamplingProfiler.Loader.FaultyKernel

/-!
# Collections that fail

Any call of a collection over the maps of a kernel may fail, and a call that fails
leaves its map as it was. A collection ends with an error where the maps cannot be
listed or a count cannot be read. By then keys may have been deleted whose samples
nobody gets, because the error takes the place of the samples. A collection that fails
therefore loses exactly the keys that it deleted before, and nothing is lost exactly if
it deleted none.
-/

namespace SamplingProfiler.Loader

/-- Which calls of one collection fail, and how. The maps are listed once, and a key is
read and deleted once; a stack may be read several times, so its calls are told apart by
the number of calls made before. -/
structure FailurePattern where
  listCounts : Option CallError
  getCount : SampleKey → Option CallError
  removeCount : SampleKey → Option CallError
  listStacks : Option CallError
  getStack : Nat → UInt32 → Option CallError
  removeStack : Nat → UInt32 → Option CallError

/-- The kind of call that is told to fail where a call of a collection does. -/
def Collector.Call.site : Collector.Call → Site
  | .listCounts => .keys "COUNTS"
  | .getCount _ => .get "COUNTS"
  | .removeCount _ => .remove "COUNTS"
  | .listStacks => .keys "STACKS"
  | .getStack _ => .get "STACKS"
  | .removeStack _ => .remove "STACKS"

namespace FailurePattern

/-- How a call fails that comes after so many others, if it does. -/
def failure? (pattern : FailurePattern) (made : Nat) : Collector.Call → Option CallError
  | .listCounts => pattern.listCounts
  | .getCount key => pattern.getCount key
  | .removeCount key => pattern.removeCount key
  | .listStacks => pattern.listStacks
  | .getStack id => pattern.getStack made id
  | .removeStack id => pattern.removeStack made id

/-- The faults of a kernel for one call. -/
def faults (pattern : FailurePattern) (made : Nat) (call : Collector.Call) : List Fault :=
  ((pattern.failure? made call).map fun error => ⟨call.site, none, error⟩).toList

/-- A kernel with the faults for one call. -/
def faulted (pattern : FailurePattern) (call : Collector.Call) (state : FaultyKernel × Nat) :
    FaultyKernel :=
  { state.1 with faults := pattern.faults state.2 call }

/-- Answer a call from a kernel, where it does not fail, and count it. -/
def answer (pattern : FailurePattern) (call : Collector.Call) (state : FaultyKernel × Nat) :
    Collector.Reply call × FaultyKernel × Nat :=
  let (reply, kernel) := FaultyKernel.answerCollector call (pattern.faulted call state)
  (reply, kernel, state.2 + 1)

/-- The result of a collection under a pattern of failures, and the kernel after it. -/
def collect (pattern : FailurePattern) (collector : Collector) (kernel : FaultyKernel) :
    Except CallError (List ProfileSample) × FaultyKernel :=
  let ((result, _), (after, _)) := collector.collect.run pattern.answer (kernel, 0)
  (result, after)

/-- Whether the read of a key fails in a way that ends the collection. -/
def refusesRead (pattern : FailurePattern) (key : SampleKey) : Bool :=
  match pattern.getCount key with
  | some (.refused _) => true
  | _ => false

/-- The keys of a list that are deleted: those before the first refused read whose calls
do not fail. -/
def deletes (pattern : FailurePattern) (keys : List SampleKey) : List SampleKey :=
  (keys.takeWhile fun key => !pattern.refusesRead key).filter fun key =>
    (pattern.getCount key).isNone && (pattern.removeCount key).isNone

/-- The keys that a collection deletes from a kernel. -/
def deleted (pattern : FailurePattern) (kernel : FaultyKernel) : List SampleKey :=
  if pattern.listCounts.isSome then [] else pattern.deletes kernel.counts.entries.keys

/-- A collection fails if a map cannot be listed that it has to list, or the count of a
key cannot be read. The stacks are listed in the rounds that reset them. -/
def Fails (pattern : FailurePattern) (collector : Collector) (kernel : FaultyKernel) : Prop :=
  pattern.listCounts.isSome = true ∨
    (∃ key ∈ kernel.counts.entries.keys, pattern.refusesRead key = true) ∨
    ((collector.rounds + 1) % collector.resetInterval = 0 ∧ pattern.listStacks.isSome = true)

/-- A call that fails has no effect, and any other has its own. -/
theorem attempt_faulted {Result : Type} (pattern : FailurePattern) (call : Collector.Call)
    (state : FaultyKernel × Nat) (key? : Option UInt32)
    (effect : Except CallError Result × FaultyKernel) :
    (pattern.faulted call state).attempt call.site key? effect =
      match pattern.failure? state.2 call with
      | some error => (.error error, pattern.faulted call state)
      | none => effect := by
  cases failing : pattern.failure? state.2 call with
  | none =>
    refine FaultyKernel.attempt_of_faults_nil _ _ _ _ ?_
    simp [faulted, faults, failing]
  | some error =>
    refine FaultyKernel.attempt_of_failure _ _ _ _ error ?_
    simp [FaultyKernel.failure?, faulted, faults, failing, Fault.covers]

/-- Only a deletion changes the counts. -/
theorem counts_answer (pattern : FailurePattern) (call : Collector.Call)
    (state : FaultyKernel × Nat) (kept : ∀ key, call ≠ .removeCount key) :
    (pattern.answer call state).2.1.counts = state.1.counts := by
  have attempted {Result : Type} (key? : Option UInt32)
      (effect : Except CallError Result × FaultyKernel)
      (unchanged : effect.2.counts = state.1.counts) :
      ((pattern.faulted call state).attempt call.site key? effect).2.counts = state.1.counts := by
    rw [pattern.attempt_faulted call state key? effect]
    split
    · rfl
    · exact unchanged
  cases call with
  | removeCount key => exact absurd rfl (kept key)
  | listCounts => exact attempted none _ rfl
  | getCount key => exact attempted (some key.pid) _ rfl
  | listStacks => exact attempted none _ rfl
  | getStack id => exact attempted (some id) _ rfl
  | removeStack id => exact attempted (some id) _ rfl

/-- A read of a key that does not fail tells its count. -/
theorem reply_getCount (pattern : FailurePattern) (key : SampleKey) (state : FaultyKernel × Nat) :
    (pattern.answer (.getCount key) state).1 =
      match pattern.getCount key with
      | some error => .error error
      | none => FaultyKernel.found (state.1.counts.get? key) := by
  refine (congrArg Prod.fst (pattern.attempt_faulted (.getCount key) state (some key.pid)
    (FaultyKernel.found (state.1.counts.get? key), pattern.faulted (.getCount key) state))).trans ?_
  simp only [failure?]
  cases pattern.getCount key <;> rfl

/-- The keys are listed where that does not fail. -/
theorem reply_listCounts (pattern : FailurePattern) (state : FaultyKernel × Nat) :
    (pattern.answer .listCounts state).1 =
      match pattern.listCounts with
      | some error => .error error
      | none => .ok state.1.counts.entries.keys := by
  refine (congrArg Prod.fst (pattern.attempt_faulted .listCounts state none
    (.ok state.1.counts.entries.keys, pattern.faulted .listCounts state))).trans ?_
  simp only [failure?]
  cases pattern.listCounts <;> rfl

/-- The stacks are listed where that does not fail. -/
theorem reply_listStacks (pattern : FailurePattern) (state : FaultyKernel × Nat) :
    (pattern.answer .listStacks state).1 =
      match pattern.listStacks with
      | some error => .error error
      | none => .ok state.1.storedStacks.keys.mergeSort := by
  refine (congrArg Prod.fst (pattern.attempt_faulted .listStacks state none
    (.ok state.1.storedStacks.keys.mergeSort, pattern.faulted .listStacks state))).trans ?_
  simp only [failure?]
  cases pattern.listStacks <;> rfl

/-- A deletion of a key that does not fail takes the key away. -/
theorem answer_removeCount (pattern : FailurePattern) (key : SampleKey)
    (state : FaultyKernel × Nat) :
    ((pattern.answer (.removeCount key) state).1,
        (pattern.answer (.removeCount key) state).2.1.counts) =
      match pattern.removeCount key with
      | some error => (.error error, state.1.counts)
      | none => (FaultyKernel.found ((state.1.counts.get? key).map fun _ => ()),
          state.1.counts.erase key) := by
  have attempted := pattern.attempt_faulted (.removeCount key) state (some key.pid)
    (FaultyKernel.found ((state.1.counts.get? key).map fun _ => ()),
      { pattern.faulted (.removeCount key) state with counts := state.1.counts.erase key })
  refine (congrArg (fun result => (result.1, result.2.counts)) attempted).trans ?_
  simp only [failure?]
  cases pattern.removeCount key <;> rfl

/-- Resolving an id leaves the counts alone. -/
theorem counts_resolve (pattern : FailurePattern) (id : Int) (used : List UInt32)
    (state : FaultyKernel × Nat) :
    ((Collector.resolve id used).run pattern.answer state).2.1.counts = state.1.counts := by
  simp only [Collector.resolve]
  cases ProfileSample.bucket? id with
  | none => rfl
  | some bucket =>
    simp only [Collector.getStack, Dialogue.request_bind, Dialogue.run_ask]
    have kept := pattern.counts_answer (.getStack bucket) state (by simp)
    split <;> exact kept

/-- Deleting stacks leaves the counts alone. -/
theorem counts_removeStacks (pattern : FailurePattern) (ids : List UInt32)
    (state : FaultyKernel × Nat) :
    ((Collector.removeStacks ids).run pattern.answer state).2.1.counts = state.1.counts := by
  induction ids generalizing state with
  | nil => rfl
  | cons id rest inductionHypothesis =>
    simp only [Collector.removeStacks, Collector.removeStack, Dialogue.request_bind,
      Dialogue.run_ask]
    rw [inductionHypothesis]
    exact pattern.counts_answer (.removeStack id) state (by simp)

/-- The first key of a list ends the deletions, or is one of them, or is passed over. -/
theorem deletes_cons (pattern : FailurePattern) (key : SampleKey) (rest : List SampleKey) :
    pattern.deletes (key :: rest) =
      if pattern.refusesRead key then []
      else if pattern.getCount key = none ∧ pattern.removeCount key = none then
        key :: pattern.deletes rest
      else pattern.deletes rest := by
  cases refused : pattern.refusesRead key with
  | true => simp [deletes, refused]
  | false =>
    simp only [deletes, List.takeWhile_cons, refused, Bool.not_false, if_true, List.filter_cons,
      Bool.and_eq_true, Option.isNone_iff_eq_none, Bool.false_eq_true, if_false]

/-- What collecting keys does: it fails at the first refused read, and deletes the keys
before it whose calls do not fail. -/
structure Collects (pattern : FailurePattern) (keys : List SampleKey)
    (before : Kernel.HashTable SampleKey UInt32)
    (result : Except CallError (List ProfileSample × List UInt32))
    (after : Kernel.HashTable SampleKey UInt32) : Prop where
  fails : (∃ error, result = .error error) ↔ ∃ key ∈ keys, pattern.refusesRead key = true
  counts : ∀ tested, after.get? tested =
    if tested ∈ pattern.deletes keys then none else before.get? tested

namespace Collects

variable {pattern : FailurePattern} {key : SampleKey} {rest : List SampleKey}
  {before after : Kernel.HashTable SampleKey UInt32}
  {result : Except CallError (List ProfileSample × List UInt32)}

/-- A refused read ends the collection. -/
theorem refused (refuses : pattern.refusesRead key = true) (error : CallError) :
    pattern.Collects (key :: rest) before (.error error) before := by
  constructor
  · constructor
    · intro failed
      exact ⟨key, by simp, refuses⟩
    · intro refusing
      exact ⟨error, rfl⟩
  · intro tested
    simp [deletes_cons, refuses]

/-- A key is passed over that is absent, or of which a call fails. -/
theorem passedOver (unrefused : pattern.refusesRead key = false)
    (untouched : pattern.getCount key = none → pattern.removeCount key = none →
      before.get? key = none)
    (collects : pattern.Collects rest before result after) :
    pattern.Collects (key :: rest) before result after := by
  constructor
  · rw [collects.fails]
    simp [unrefused]
  · intro tested
    rw [collects.counts tested, deletes_cons, unrefused]
    simp only [Bool.false_eq_true, if_false]
    by_cases quiet : pattern.getCount key = none ∧ pattern.removeCount key = none
    · have absent := untouched quiet.1 quiet.2
      by_cases same : tested = key
      · simp [same, absent]
      · simp [quiet, same]
    · simp only [quiet, if_false]

/-- A key is deleted of which no call fails. -/
theorem deleting (read : pattern.getCount key = none) (removed : pattern.removeCount key = none)
    (collects : pattern.Collects rest (before.erase key) result after) :
    pattern.Collects (key :: rest) before result after := by
  have unrefused : pattern.refusesRead key = false := by simp [refusesRead, read]
  constructor
  · rw [collects.fails]
    simp [unrefused]
  · intro tested
    rw [collects.counts tested, deletes_cons, unrefused]
    simp only [Bool.false_eq_true, if_false, read, removed, and_self, if_true, List.mem_cons,
      Kernel.HashTable.get?, Kernel.HashTable.erase, Entries.lookup_erase]
    by_cases same : tested = key <;> by_cases later : tested ∈ pattern.deletes rest <;>
      simp [same, later]

/-- Whether it fails is all that is said of a result. -/
theorem relabel {other : Except CallError (List ProfileSample × List UInt32)}
    {keys : List SampleKey} (collects : pattern.Collects keys before result after)
    (same : (∃ error, other = .error error) ↔ ∃ error, result = .error error) :
    pattern.Collects keys before other after :=
  ⟨same.trans collects.fails, collects.counts⟩

end Collects

/-- What is deleted was counted. -/
theorem counted_of_deleted (pattern : FailurePattern) (kernel : FaultyKernel) (key : SampleKey)
    (gone : key ∈ pattern.deleted kernel) : (kernel.counts.get? key).isSome = true := by
  simp only [deleted] at gone
  split at gone
  · cases gone
  · have passed := (List.mem_filter.mp gone).1
    have listed := List.takeWhile_subset _ passed
    exact (Entries.lookup_isSome_iff _ _).mpr listed

/-- What is done with a key once it is deleted. -/
def exporting (key : SampleKey) (count : UInt32) (rest : List SampleKey) (used : List UInt32) :
    Collector.Step (Except CallError (List ProfileSample × List UInt32)) := do
  let (kernelFrames, used) ← Collector.resolve key.kernelStack used
  let (userFrames, used) ← Collector.resolve key.userStack used
  match ← Collector.collectKeys rest used with
  | .error error => return .error error
  | .ok (samples, used) =>
    return .ok (⟨key, count, kernelFrames, userFrames⟩ :: samples, used)

/-- What is done with a key once it is deleted changes no counts itself. -/
theorem collects_exporting (pattern : FailurePattern) (key : SampleKey) (count : UInt32)
    (rest : List SampleKey) (used : List UInt32) (state : FaultyKernel × Nat)
    (collects : ∀ used state, pattern.Collects rest state.1.counts
      ((Collector.collectKeys rest used).run pattern.answer state).1
      ((Collector.collectKeys rest used).run pattern.answer state).2.1.counts) :
    pattern.Collects rest state.1.counts
      ((exporting key count rest used).run pattern.answer state).1
      ((exporting key count rest used).run pattern.answer state).2.1.counts := by
  have kernelKept := pattern.counts_resolve key.kernelStack used state
  simp only [exporting, Dialogue.run_bind]
  generalize (Collector.resolve key.kernelStack used).run pattern.answer state = kernelSide
    at kernelKept ⊢
  obtain ⟨⟨kernelFrames, kernelUsed⟩, afterKernel⟩ := kernelSide
  have userKept := pattern.counts_resolve key.userStack kernelUsed afterKernel
  simp only at kernelKept ⊢
  generalize (Collector.resolve key.userStack kernelUsed).run pattern.answer afterKernel = userSide
    at userKept ⊢
  obtain ⟨⟨userFrames, userUsed⟩, afterUser⟩ := userSide
  have further := collects userUsed afterUser
  simp only at userKept ⊢
  rw [userKept, kernelKept] at further
  generalize (Collector.collectKeys rest userUsed).run pattern.answer afterUser = collected
    at further ⊢
  obtain ⟨result, afterRest⟩ := collected
  cases result with
  | error error => exact further
  | ok exported => exact further.relabel (by simp)

/-- Collecting keys one after the other deletes those keys, and fails at a refused read.

Follow the first key: its read may be refused, it may be absent, and its deletion may
fail. In every case but the first, the remaining keys are collected from the counts
that its calls leave behind. -/
theorem collects_keys (pattern : FailurePattern) (keys : List SampleKey) (used : List UInt32)
    (state : FaultyKernel × Nat) :
    pattern.Collects keys state.1.counts
      ((Collector.collectKeys keys used).run pattern.answer state).1
      ((Collector.collectKeys keys used).run pattern.answer state).2.1.counts := by
  induction keys generalizing used state with
  | nil =>
    constructor
    · simp [Collector.collectKeys]
    · intro tested
      simp [Collector.collectKeys, deletes]
  | cons key rest inductionHypothesis =>
    have read := pattern.reply_getCount key state
    have kept := pattern.counts_answer (.getCount key) state (by simp)
    simp only [Collector.collectKeys, Collector.getCount, Dialogue.request_bind,
      Dialogue.run_ask]
    generalize pattern.answer (.getCount key) state = answered at read kept ⊢
    obtain ⟨reply, afterRead⟩ := answered
    simp only at read kept ⊢
    rw [← kept] at read ⊢
    have passing := fun used => inductionHypothesis used afterRead
    cases failing : pattern.getCount key with
    | some error =>
      simp only [failing] at read
      subst read
      cases error with
      | keyNotFound =>
        have unrefused : pattern.refusesRead key = false := by simp [refusesRead, failing]
        exact (passing used).passedOver unrefused (by simp [failing])
      | refused wording =>
        have refuses : pattern.refusesRead key = true := by simp [refusesRead, failing]
        exact .refused refuses _
    | none =>
      have unrefused : pattern.refusesRead key = false := by simp [refusesRead, failing]
      simp only [failing] at read
      subst read
      cases present : afterRead.1.counts.get? key with
      | none => exact (passing used).passedOver unrefused (fun _ _ => present)
      | some count =>
        simp only [FaultyKernel.found, Collector.removeCount, Dialogue.request_bind,
          Dialogue.run_ask]
        have removal := pattern.answer_removeCount key afterRead
        generalize pattern.answer (.removeCount key) afterRead = answered at removal ⊢
        obtain ⟨reply, afterRemoval⟩ := answered
        simp only at removal ⊢
        cases removing : pattern.removeCount key with
        | some error =>
          simp only [removing, Prod.mk.injEq] at removal
          obtain ⟨rfl, same⟩ := removal
          cases error with
          | keyNotFound =>
            refine Collects.passedOver unrefused (by simp [removing]) ?_
            rw [← same]
            exact pattern.collects_exporting key count rest used afterRemoval inductionHypothesis
          | refused wording =>
            refine Collects.passedOver unrefused (by simp [removing]) ?_
            rw [← same]
            exact inductionHypothesis used afterRemoval
        | none =>
          simp only [removing, present, Prod.mk.injEq] at removal
          obtain ⟨rfl, erased⟩ := removal
          refine Collects.deleting failing removing ?_
          rw [← erased]
          exact pattern.collects_exporting key count rest used afterRemoval inductionHypothesis

/-- Finding the stale stacks fails where they have to be listed and cannot be. -/
theorem staleStacks_fails (pattern : FailurePattern) (collector : Collector)
    (used : List UInt32) (state : FaultyKernel × Nat) :
    (∃ error, ((collector.staleStacks used).run pattern.answer state).1 = .error error) ↔
      collector.rounds % collector.resetInterval = 0 ∧ pattern.listStacks.isSome = true := by
  simp only [Collector.staleStacks, beq_iff_eq]
  by_cases resets : collector.rounds % collector.resetInterval = 0
  · have listed := pattern.reply_listStacks state
    simp only [resets, if_true, Collector.listStacks, Dialogue.request, Dialogue.run_ask,
      Dialogue.run_done, listed, true_and]
    cases pattern.listStacks <;> simp
  · simp [resets]

/-- Finding the stale stacks leaves the counts alone. -/
theorem counts_staleStacks (pattern : FailurePattern) (collector : Collector)
    (used : List UInt32) (state : FaultyKernel × Nat) :
    ((collector.staleStacks used).run pattern.answer state).2.1.counts = state.1.counts := by
  simp only [Collector.staleStacks]
  split
  · exact pattern.counts_answer .listStacks state (by simp)
  · rfl

/-- What is done once all keys were looked at. -/
def clearing (collector : Collector) (samples : List ProfileSample) (used : List UInt32) :
    Collector.Step (Except CallError (List ProfileSample)) := do
  match ← collector.staleStacks used with
  | .error error => return .error error
  | .ok stale =>
    Collector.removeStacks stale
    return .ok samples

/-- What is done once all keys were looked at fails where the stacks cannot be listed, and
leaves the counts alone. -/
theorem run_clearing (pattern : FailurePattern) (collector : Collector)
    (samples : List ProfileSample) (used : List UInt32) (state : FaultyKernel × Nat) :
    ((∃ error, ((clearing collector samples used).run pattern.answer state).1 = .error error) ↔
      collector.rounds % collector.resetInterval = 0 ∧ pattern.listStacks.isSome = true) ∧
    ((clearing collector samples used).run pattern.answer state).2.1.counts =
      state.1.counts := by
  have fails := pattern.staleStacks_fails collector used state
  have kept := pattern.counts_staleStacks collector used state
  simp only [clearing, Dialogue.run_bind]
  generalize (collector.staleStacks used).run pattern.answer state = listed at fails kept ⊢
  obtain ⟨reply, afterListing⟩ := listed
  cases reply with
  | error error => exact ⟨by simpa using fails, kept⟩
  | ok stale =>
    have removed := pattern.counts_removeStacks stale afterListing
    simp only [Dialogue.run_bind, Dialogue.pure_eq_done, Dialogue.run_done]
    exact ⟨by simpa using fails, removed.trans kept⟩

/-- A collection fails exactly as its calls say, and it deletes keys whether or not it
fails. -/
theorem collect_deletes (pattern : FailurePattern) (collector : Collector)
    (kernel : FaultyKernel) :
    ((∃ error, (pattern.collect collector kernel).1 = .error error) ↔
      pattern.Fails collector kernel) ∧
    ∀ key, (pattern.collect collector kernel).2.counts.get? key =
      if key ∈ pattern.deleted kernel then none else kernel.counts.get? key := by
  have listed := pattern.reply_listCounts (kernel, 0)
  have kept := pattern.counts_answer .listCounts (kernel, 0) (by simp)
  simp only [collect, Collector.collect, Collector.collectRound, Collector.listCounts,
    Dialogue.run_bind, Dialogue.request_bind, Dialogue.run_ask, Dialogue.pure_eq_done,
    Dialogue.run_done]
  generalize pattern.answer .listCounts (kernel, 0) = answered at listed kept ⊢
  obtain ⟨reply, afterListing⟩ := answered
  simp only at listed kept ⊢
  cases failing : pattern.listCounts with
  | some error =>
    simp only [failing] at listed
    subst listed
    simp [Fails, deleted, failing, kept]
  | none =>
    simp only [failing] at listed
    subst listed
    have collects := pattern.collects_keys kernel.counts.entries.keys [] afterListing
    simp only [Dialogue.run_bind]
    generalize (Collector.collectKeys kernel.counts.entries.keys []).run pattern.answer
      afterListing = collected at collects ⊢
    obtain ⟨result, afterKeys⟩ := collected
    have fails := collects.fails
    have counts := collects.counts
    rw [kept] at counts
    have deletions : pattern.deleted kernel = pattern.deletes kernel.counts.entries.keys := by
      simp [deleted, failing]
    rw [deletions]
    cases result with
    | error error =>
      refine ⟨?_, counts⟩
      have refusing := fails.mp ⟨error, rfl⟩
      simpa [Fails, failing] using Or.inl refusing
    | ok exported =>
      obtain ⟨samples, used⟩ := exported
      obtain ⟨clears, unchanged⟩ := pattern.run_clearing
        { collector with rounds := collector.rounds + 1 } samples used afterKeys
      have unrefused : ¬ ∃ key ∈ kernel.counts.entries.keys, pattern.refusesRead key = true := by
        rw [← fails]
        simp
      constructor
      · simp only [Fails, failing, unrefused, Option.isSome_none, Bool.false_eq_true, false_or]
        exact clears
      · intro key
        rw [← counts key]
        exact congrArg (fun table => table.get? key) unchanged

/-- What a failed collection loses. For every content of the maps and every pattern of
failures: a collection fails exactly if it cannot list the keys, or read a count, or, in
a round that resets the stacks, list these. Afterwards exactly the keys are gone that it
deleted, which are those before the first refused read of which no call failed. If it
fails, nobody gets their samples; so it loses nothing exactly if it deleted none. -/
theorem failed_collection_loses_what_it_deleted (pattern : FailurePattern)
    (collector : Collector) (kernel : FaultyKernel) :
    ((∃ error, (pattern.collect collector kernel).1 = .error error) ↔
      pattern.Fails collector kernel) ∧
    (∀ key, (pattern.collect collector kernel).2.counts.get? key =
      if key ∈ pattern.deleted kernel then none else kernel.counts.get? key) ∧
    ((∀ key count, kernel.counts.get? key = some count →
        (pattern.collect collector kernel).2.counts.get? key = some count) ↔
      pattern.deleted kernel = []) := by
  obtain ⟨fails, counts⟩ := pattern.collect_deletes collector kernel
  refine ⟨fails, counts, ?_⟩
  constructor
  · intro kept
    cases deletions : pattern.deleted kernel with
    | nil => rfl
    | cons key others =>
      have gone := counts key
      rw [deletions, if_pos (by simp)] at gone
      have present := pattern.counted_of_deleted kernel key (by simp [deletions])
      obtain ⟨count, found⟩ := Option.isSome_iff_exists.mp present
      have left := kept key count found
      rw [gone] at left
      cases left
  · intro nothing key count found
    rw [counts key, nothing, if_neg (by simp)]
    exact found

/-- A kernel in which two keys are counted. -/
def twoKeys : FaultyKernel :=
  { FaultyKernel.ofFile ⟨[], []⟩ [] with
    counts := ((Kernel.HashTable.ofCapacity 16).set (SampleKey.ofPid 1) 3).set
      (SampleKey.ofPid 2) 5 }

/-- The count of a key cannot be read, and nothing else fails. -/
def unreadable (pid : UInt32) : FailurePattern where
  listCounts := none
  getCount key := if key.pid = pid then some FaultyKernel.refusal else none
  removeCount _ := none
  listStacks := none
  getStack _ _ := none
  removeStack _ _ := none

/-- Where the first of two keys cannot be read, the collection fails and loses
nothing. -/
theorem unreadable_first_key_loses_nothing :
    (∃ error, ((unreadable 1).collect (Collector.ofInterval 10) twoKeys).1 = .error error) ∧
      ∀ key count, twoKeys.counts.get? key = some count →
        ((unreadable 1).collect (Collector.ofInterval 10) twoKeys).2.counts.get? key =
          some count := by
  obtain ⟨fails, _, kept⟩ := failed_collection_loses_what_it_deleted (unreadable 1)
    (Collector.ofInterval 10) twoKeys
  constructor
  · refine fails.mpr (.inr (.inl ⟨SampleKey.ofPid 1, ?_, ?_⟩)) <;> decide
  · exact kept.mpr (by decide)

/-- Where the second of two keys cannot be read, the collection fails after it deleted
the first one, which was counted three times. -/
theorem unreadable_second_key_loses_first :
    (∃ error, ((unreadable 2).collect (Collector.ofInterval 10) twoKeys).1 = .error error) ∧
      twoKeys.counts.get? (SampleKey.ofPid 1) = some 3 ∧
      ((unreadable 2).collect (Collector.ofInterval 10) twoKeys).2.counts.get?
        (SampleKey.ofPid 1) = none :=
  ⟨⟨FaultyKernel.refusal, rfl⟩, by decide, by decide⟩

end FailurePattern
end SamplingProfiler.Loader
