import SamplingProfiler.Kernel.Programs
import SamplingProfiler.Proofs.ProfileMaps

/-!
# Exports in spite of failing deletions

A run is a list of events: programs of the kernel raise and write counters, stacks are
stored and replaced, and a collector makes its rounds. In every round any deletions may
fail, of counts and of stacks. A round exports a key with all that is counted of it and
takes it from the table, or leaves it there as it is. So what is exported of a key and
what remains of it are together what was counted of it, modulo 2 ^ 32: nothing is lost
and nothing is exported twice, however often a deletion fails.

The law for one event is proved from what the event does to the table of counts, and the
law for a run adds these up.
-/

namespace SamplingProfiler.Loader

/-- A kernel and the collector that makes its rounds over it. -/
structure Collecting where
  collector : Collector
  kernel : FaultyKernel

/-- What can happen to the counts of a kernel. -/
inductive CollectingEvent where
  /-- A program raises the count of a key, if it is present. -/
  | raised (key : SampleKey)
  /-- A program writes the count of a key that is absent. The table may be full, or refuse
  for another reason. -/
  | written (invocation : Kernel.Invocation) (key : SampleKey) (count : UInt32)
  /-- The stored stacks were changed by somebody else. -/
  | stacksChanged (change : Entries UInt32 (List UInt64) → Entries UInt32 (List UInt64))
  /-- A round, with the deletions that fail in it. -/
  | collected (failing : FailingDeletions)

/-- The tables that the programs of a kernel write to. -/
def FaultyKernel.tables (kernel : FaultyKernel) : Kernel.Tables where
  policies := kernel.policies
  counts := kernel.counts
  settings := kernel.settings
  tally := kernel.tally
  unwinder := false

namespace Collecting

/-- The state after an event. -/
def step (state : Collecting) : CollectingEvent → Collecting
  | .raised key =>
    { state with
      kernel.counts := (Kernel.Invocation.increment key state.kernel.tables).2.counts }
  | .written invocation key count =>
    { state with
      kernel.counts := (invocation.insertCount key count state.kernel.tables).2.counts }
  | .stacksChanged change =>
    { state with kernel.storedStacks := change state.kernel.storedStacks }
  | .collected failing =>
    let (_, collector, kernel) := failing.round state.collector state.kernel
    ⟨collector, kernel⟩

/-- The state after a list of events. -/
def after (state : Collecting) (events : List CollectingEvent) : Collecting :=
  events.foldl step state

/-- What remains counted of a key. -/
def remaining (key : SampleKey) (state : Collecting) : UInt32 :=
  (state.kernel.counts.get? key).getD 0

/-- What an event counts of a key: one where its count is raised, and its count where it
is written. -/
def countedBy (key : SampleKey) (state : Collecting) : CollectingEvent → UInt32
  | .raised other =>
    if other = key ∧ (Kernel.Invocation.increment other state.kernel.tables).1 = true then 1
    else 0
  | .written invocation other count =>
    match (invocation.insertCount other count state.kernel.tables).1 with
    | .ok () => if other = key then count else 0
    | .error _ => 0
  | .stacksChanged _ | .collected _ => 0

/-- The counts of a key in a list of samples, together. -/
def exportedOf (key : SampleKey) (samples : List ProfileSample) : UInt32 :=
  (samples.filter fun sample => sample.key = key).foldr (fun sample rest => sample.count + rest) 0

/-- What an event exports of a key. -/
def exportedBy (key : SampleKey) (state : Collecting) : CollectingEvent → UInt32
  | .collected failing =>
    match (failing.round state.collector state.kernel).1 with
    | .ok samples => exportedOf key samples
    | .error _ => 0
  | .raised _ | .written _ _ _ | .stacksChanged _ => 0

/-- A measure of events, added up along a run in words of 32 bits. -/
def summed (measure : Collecting → CollectingEvent → UInt32) (state : Collecting) :
    List CollectingEvent → UInt32
  | [] => 0
  | event :: rest => measure state event + summed measure (state.step event) rest

/-- What a round does with every key: a key that is counted is exported once with its full
count and is gone, or, where its deletion failed, it is not exported and stays with the
same count. -/
structure Settles (failing : FailingDeletions) (before after : FaultyKernel)
    (samples : List ProfileSample) : Prop where
  exported : ∀ key count, before.counts.get? key = some count → failing.counts key = none →
    (∃ sample, (samples.filter fun sample => sample.key = key) = [sample] ∧
      sample.count = count) ∧ after.counts.get? key = none
  kept : ∀ key count, before.counts.get? key = some count → failing.counts key ≠ none →
    (∀ sample ∈ samples, sample.key ≠ key) ∧ after.counts.get? key = some count
  uncounted : ∀ key, before.counts.get? key = none →
    (∀ sample ∈ samples, sample.key ≠ key) ∧ after.counts.get? key = none

/-- Raising the count of a key adds one to it if it is there, and changes no other. -/
theorem remaining_raised (key other : SampleKey) (state : Collecting) :
    remaining key (state.step (.raised other)) =
      remaining key state + countedBy key state (.raised other) := by
  have tables : state.kernel.tables.counts = state.kernel.counts := rfl
  simp only [remaining, step, countedBy, Kernel.Invocation.increment, tables]
  cases present : state.kernel.counts.get? other with
  | none => simp [tables]
  | some count =>
    simp only [Kernel.HashTable.get?_set, and_true]
    by_cases same : key = other
    · simp [same, present]
    · simp [same, Ne.symm same]

/-- Writing the count of a key adds it where it is accepted, which it is only for a key
without a count, and changes no other. -/
theorem remaining_written (key other : SampleKey) (invocation : Kernel.Invocation)
    (count : UInt32) (state : Collecting) :
    remaining key (state.step (.written invocation other count)) =
      remaining key state + countedBy key state (.written invocation other count) := by
  have tables : state.kernel.tables.counts = state.kernel.counts := rfl
  simp only [remaining, step, countedBy, Kernel.Invocation.insertCount]
  cases invocation.refusal? .counts with
  | some number => simp [tables]
  | none =>
    simp only [Kernel.HashTable.insert_new, tables]
    cases present : state.kernel.counts.get? other with
    | some old => simp
    | none =>
      by_cases full : state.kernel.counts.capacity.toNat ≤ state.kernel.counts.size
      · simp [full]
      · simp only [Option.isSome_none, Bool.false_eq_true, if_false, full,
          Kernel.HashTable.get?_set]
        by_cases same : key = other
        · simp [same, present]
        · simp [same, Ne.symm same]

/-- What a round exports of a key is what was counted of it, or nothing where the deletion
of the key fails. -/
theorem exportedBy_collected (key : SampleKey) (failing : FailingDeletions)
    (state : Collecting) :
    exportedBy key state (.collected failing) =
      if failing.counts key = none then remaining key state else 0 := by
  simp only [exportedBy, (failing.round_eq state.collector state.kernel).1, exportedOf,
    failing.samples_of_key, remaining]
  by_cases deleted : failing.counts key = none
  · simp only [deleted, if_true]
    have looked : state.kernel.profileMaps.counts.lookup key = state.kernel.counts.get? key := rfl
    rw [looked]
    cases state.kernel.counts.get? key with
    | none => rfl
    | some count => simp [ProfileMaps.sampleOf]
  · simp [deleted]

/-- A round moves the count of a key to the export, or leaves it. -/
theorem remaining_collected (key : SampleKey) (failing : FailingDeletions)
    (state : Collecting) :
    remaining key (state.step (.collected failing)) =
      if failing.counts key = none then 0 else remaining key state := by
  have counts := failing.counts_round state.collector state.kernel key
  simp only [remaining, step, counts]
  by_cases deleted : failing.counts key = none <;> simp [deleted]

/-- One event accounts for every key: what it exports and what it leaves are together what
was there and what it counts. -/
theorem accounted_step (key : SampleKey) (state : Collecting) (event : CollectingEvent) :
    exportedBy key state event + remaining key (state.step event) =
      remaining key state + countedBy key state event := by
  cases event with
  | raised other => rw [remaining_raised, exportedBy, UInt32.zero_add]
  | written invocation other count => rw [remaining_written, exportedBy, UInt32.zero_add]
  | stacksChanged change => rw [exportedBy, countedBy, UInt32.zero_add, UInt32.add_zero]; rfl
  | collected failing =>
    rw [exportedBy_collected, remaining_collected, countedBy, UInt32.add_zero]
    by_cases deleted : failing.counts key = none <;> simp [deleted]

/-- A run accounts for every key, from wherever it starts. -/
theorem accounted_run (key : SampleKey) (state : Collecting) (events : List CollectingEvent) :
    summed (exportedBy key) state events + remaining key (state.after events) =
      remaining key state + summed (countedBy key) state events := by
  induction events generalizing state with
  | nil => simp [summed, after]
  | cons event rest inductionHypothesis =>
    have first := accounted_step key state event
    have further := inductionHypothesis (state.step event)
    have passed : state.after (event :: rest) = (state.step event).after rest := rfl
    calc summed (exportedBy key) state (event :: rest) + remaining key (state.after (event :: rest))
        = exportedBy key state event +
            (summed (exportedBy key) (state.step event) rest +
              remaining key ((state.step event).after rest)) := by
          rw [passed, summed, UInt32.add_assoc]
      _ = exportedBy key state event + remaining key (state.step event) +
            summed (countedBy key) (state.step event) rest := by
          rw [further, UInt32.add_assoc]
      _ = remaining key state + summed (countedBy key) state (event :: rest) := by
          rw [first, summed, UInt32.add_assoc]

/-- Every round settles all keys. -/
theorem settles_round (failing : FailingDeletions) (collector : Collector)
    (kernel : FaultyKernel) :
    ∃ samples, (failing.round collector kernel).1 = .ok samples ∧
      Settles failing kernel (failing.round collector kernel).2.2 samples := by
  have ofKey := failing.samples_of_key kernel.profileMaps
  have counts := failing.counts_round collector kernel
  have unexported (key : SampleKey)
      (passedOver : failing.counts key ≠ none ∨ kernel.counts.get? key = none) :
      ∀ sample ∈ (failing.exported kernel.profileMaps).map kernel.profileMaps.sampleOf,
        sample.key ≠ key := by
    have nothing : (((failing.exported kernel.profileMaps).map
        kernel.profileMaps.sampleOf).filter fun sample => sample.key = key) = [] := by
      rw [ofKey key]
      rcases passedOver with refused | absent
      · rw [if_neg refused]
      · have missing : kernel.profileMaps.counts.lookup key = none := absent
        simp [missing]
    intro sample member same
    have absent := List.filter_eq_nil_iff.mp nothing sample member
    exact absent (by simpa using same)
  refine ⟨_, (failing.round_eq collector kernel).1, ?_, ?_, ?_⟩
  · intro key count counted deleted
    have present : kernel.profileMaps.counts.lookup key = some count := counted
    refine ⟨⟨kernel.profileMaps.sampleOf (key, count), ?_, rfl⟩, ?_⟩
    · rw [ofKey key, if_pos deleted, present]
      rfl
    · rw [counts key, if_pos deleted]
  · intro key count counted refused
    refine ⟨unexported key (.inl refused), ?_⟩
    rw [counts key, if_neg refused]
    exact counted
  · intro key absent
    refine ⟨unexported key (.inr absent), ?_⟩
    rw [counts key, absent, ite_self]

/-- Whether deletions of stacks fail makes no difference to samples and counts. -/
theorem stacks_indifferent (failing other : FailingDeletions) (collector : Collector)
    (kernel : FaultyKernel) (same : other.counts = failing.counts) :
    (other.round collector kernel).1 = (failing.round collector kernel).1 ∧
      ∀ key, (other.round collector kernel).2.2.counts.get? key =
        (failing.round collector kernel).2.2.counts.get? key := by
  constructor
  · rw [(other.round_eq collector kernel).1, (failing.round_eq collector kernel).1]
    simp only [FailingDeletions.exported, FailingDeletions.exportedOf, same]
  · intro key
    rw [other.counts_round, failing.counts_round, same]

/-- Every count is exported once, whatever deletions fail. In every run, and for every key,
what was exported and what remains are together what was there and what was counted,
modulo 2 ^ 32. Whatever run came before and whatever deletions fail in it, a round ends
with samples: it exports every counted key once with its full count and takes it from the
table, or leaves it there with the same count. A failing deletion of a stack changes
neither a sample nor a count. -/
theorem every_count_is_exported_once (state : Collecting) (events : List CollectingEvent) :
    (∀ key, summed (exportedBy key) state events + remaining key (state.after events) =
      remaining key state + summed (countedBy key) state events) ∧
    ∀ failing : FailingDeletions,
      (∃ samples,
        (failing.round (state.after events).collector (state.after events).kernel).1 =
          .ok samples ∧
        Settles failing (state.after events).kernel
          (state.after (events ++ [.collected failing])).kernel samples) ∧
      ∀ storedStacks : UInt32 → Option CallError,
        (FailingDeletions.round ⟨failing.counts, storedStacks⟩ (state.after events).collector
            (state.after events).kernel).1 =
          (failing.round (state.after events).collector (state.after events).kernel).1 ∧
        ∀ key,
          (state.after
            (events ++ [.collected ⟨failing.counts, storedStacks⟩])).kernel.counts.get? key =
            (state.after (events ++ [.collected failing])).kernel.counts.get? key := by
  have reached (failing : FailingDeletions) :
      (state.after (events ++ [.collected failing])).kernel =
        (failing.round (state.after events).collector (state.after events).kernel).2.2 := by
    simp only [after, List.foldl_append, List.foldl_cons, List.foldl_nil, step]
  refine ⟨fun key => accounted_run key state events, ?_⟩
  intro failing
  refine ⟨?_, ?_⟩
  · rw [reached]
    exact settles_round failing _ _
  · intro storedStacks
    simp only [reached]
    exact stacks_indifferent failing ⟨failing.counts, storedStacks⟩ _ _ rfl

end Collecting
end SamplingProfiler.Loader
