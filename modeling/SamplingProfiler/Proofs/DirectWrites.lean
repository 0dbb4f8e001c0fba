import SamplingProfiler.Proofs.StackReferences

/-!
# Collections from tables that anybody writes to

A session hands its tables out. Its caller may write counts under keys that no tick would make,
whose ids are negative, too large or those of free buckets, may store and free stacks, and may
count outcomes. A collection does the same whatever it finds. It exports one sample for every
key, resolves the ids of all keys before it frees the first stack, and frees the stacks of
those keys and no others, unless it is its turn to empty the store.

Only one thing needs more than the session at hand. The counter of the table of counts is kept
apart from the entries, and a collection takes it down by as many as it removes. So it reaches
zero only if it was right before. It is right in every run, because every operation that the
table offers keeps it so.

Main statements:

* `collects` - what a collection does to any session.
* `collect_from_any_tables` - the same with the counter, which is at zero after every run.
-/

namespace SamplingProfiler

/-- What the caller of a session can do to it, where the tables are within its reach. -/
inductive DirectEvent where
  /-- What happens without reaching for the tables of counts and stacks. -/
  | regular (event : SessionEvent)
  /-- A count was written, under any key and with any flags. -/
  | countWritten (key : SampleKey) (count : UInt32) (flags : UInt64)
  /-- The count of a key was changed in place. -/
  | countChanged (key : SampleKey) (change : UInt32 → UInt32)
  | countRemoved (key : SampleKey)
  | countsDrained
  /-- Stacks were stored or freed. -/
  | stacksChanged (change : StackStore → StackStore)
  /-- An outcome was counted that no entry point had. -/
  | outcomeRecorded (outcome : Outcome)

namespace Session

/-- The session after something was done to it. -/
def stepDirect (session : Session) : DirectEvent → Session
  | .regular event => session.step event
  | .countWritten key count flags => (session.insertCount key count flags).2
  | .countChanged key change =>
    { session with counts := (session.counts.update key change).2 }
  | .countRemoved key => { session with counts := (session.counts.remove key).2 }
  | .countsDrained => { session with counts := session.counts.drain.2 }
  | .stacksChanged change => { session with stackStore := change session.stackStore }
  | .outcomeRecorded outcome => session.record outcome

/-- The session after all of a list was done to it. -/
def afterDirect (session : Session) (events : List DirectEvent) : Session :=
  events.foldl stepDirect session

/-- Whatever is done to a session keeps the counter of the table of counts right. -/
theorem stepDirect_consistent (session : Session) (event : DirectEvent)
    (consistent : session.counts.Consistent) : (session.stepDirect event).counts.Consistent := by
  cases event with
  | regular event => exact session.step_consistent event consistent
  | countWritten key count flags =>
    exact session.counts.consistent_insert consistent key count flags
  | countChanged key change => exact session.counts.consistent_update consistent key change
  | countRemoved key => exact session.counts.consistent_remove consistent key
  | countsDrained => exact session.counts.consistent_drain consistent
  | stacksChanged change => exact consistent
  | outcomeRecorded outcome => exact consistent

/-- In a session to which anything was done the counter of the table of counts is right.

Induct over what was done. -/
theorem afterDirect_consistent (session : Session) (events : List DirectEvent)
    (consistent : session.counts.Consistent) : (session.afterDirect events).counts.Consistent := by
  induction events generalizing session with
  | nil => exact consistent
  | cons event rest inductionHypothesis =>
    exact inductionHypothesis _ (session.stepDirect_consistent event consistent)

/-- The frames that an id stands for in a store: those of the bucket with this number, and none
where that is free, or the id is no word of 32 bits. -/
structure StandsFor (store : StackStore) (id : Int) (frames : List UInt64) : Prop where
  inside : ∀ bucketId : UInt32, id = (bucketId.toNat : Int) →
    frames = (store.lookup bucketId).getD []
  outside : id < 0 ∨ (UInt32.size : Int) ≤ id → frames = []

/-- What a collection does to a session. Every key is exported once, with its count and with the
frames that its ids stood for. No key is left. The stacks are all freed if it is the turn, and
else those that a key referred to. Nothing else changes. -/
structure Collects (before : Session) (samples : List ProfileSample) (after : Session) :
    Prop where
  once : (samples.map ProfileSample.key).Nodup
  every : ∀ key count, before.counts.get? key = some count →
    ∃ sample ∈ samples, sample.key = key
  genuine : ∀ sample ∈ samples, before.counts.get? sample.key = some sample.count ∧
    StandsFor before.stackStore sample.key.kernelStack sample.kernelFrames ∧
    StandsFor before.stackStore sample.key.userStack sample.userFrames
  emptied : after.counts.entries = Entries.empty
  cleared : (before.rounds + 1) % before.options.stacksResetInterval = 0 →
    after.stackStore.size = 0 ∧
      ∀ bucketId, after.stackStore.occupied.lookup bucketId = none
  freed : (before.rounds + 1) % before.options.stacksResetInterval ≠ 0 →
    ∀ bucketId, before.Referenced bucketId → after.stackStore.occupied.lookup bucketId = none
  kept : (before.rounds + 1) % before.options.stacksResetInterval ≠ 0 →
    ∀ bucketId, ¬ before.Referenced bucketId →
      after.stackStore.occupied.lookup bucketId = before.stackStore.occupied.lookup bucketId
  frame : after = { before with
    rounds := before.rounds + 1
    counts := ⟨before.counts.capacity, after.counts.entries, after.counts.count⟩
    stackStore := ⟨before.stackStore.bucketCount, after.stackStore.occupied⟩ }

/-- Resolving an id gives the frames that it stands for. -/
theorem standsFor_framesOf (store : StackStore) (id : Int) :
    StandsFor store id (store.framesOf id) where
  inside bucketId same := by
    rw [StackStore.framesOf, (StackStore.bucket?_eq_some_iff id bucketId).mpr same]
    rfl
  outside := store.framesOf_outside id

/-- The next collection empties the store where the number of its round is a multiple of the
interval. -/
theorem resetsNext_iff (session : Session) :
    session.resetsNext = true ↔
      (session.rounds + 1) % session.options.stacksResetInterval = 0 := by
  simp [resetsNext, Collection.isResetRound]

/-- A collection changes neither how many keys may be counted nor how many buckets there are. -/
theorem collect_capacities (session : Session) :
    session.collect.2.counts.capacity = session.counts.capacity ∧
      session.collect.2.stackStore.bucketCount = session.stackStore.bucketCount := by
  rw [collect_eq]
  constructor
  · rw [BoundedMap.drain_eq]
  · simp only [stacksAfter]
    split
    · rfl
    · exact session.stackStore.bucketCount_removeAll _

/-- A collection does to any session what it should. -/
theorem collects (session : Session) : Collects session session.collect.1 session.collect.2 where
  once := session.nodup_collect_keys
  every key count counted := by
    refine ⟨exportedSample session.stackStore (key, count), ?_, rfl⟩
    exact (session.mem_collect_iff _).mpr ⟨counted, rfl, rfl⟩
  genuine sample member := by
    obtain ⟨counted, kernel, user⟩ := (session.mem_collect_iff sample).mp member
    rw [kernel, user]
    exact ⟨counted, standsFor_framesOf _ _, standsFor_framesOf _ _⟩
  emptied := by
    rw [collect_eq]
    exact congrArg (fun drained => drained.2.entries) session.counts.drain_eq
  cleared turn := by
    have unoccupied := session.collect_resets (session.resetsNext_iff.mpr turn)
    exact ⟨Entries.size_eq_zero _ unoccupied, unoccupied⟩
  freed waits bucketId referenced := by
    have unreset : session.resetsNext = false := by simpa [← resetsNext_iff] using waits
    rw [collect_frees session unreset, if_pos ((session.used_iff_referenced _).mpr referenced)]
  kept waits bucketId unreferenced := by
    have unreset : session.resetsNext = false := by simpa [← resetsNext_iff] using waits
    rw [collect_frees session unreset,
      if_neg (mt (session.used_iff_referenced _).mp unreferenced)]
  frame := by
    obtain ⟨capacity, bucketCount⟩ := session.collect_capacities
    rw [← capacity, ← bucketCount, collect_eq]

/-- Whatever the tables hold, a collection exports every counted key once, with its count and
with the frames that its ids stood for before, and leaves no key. It frees exactly the stacks
of those keys, or all stacks in a round that empties the store, and changes nothing else. In
every session that was made with options, whatever was done to its tables since, it leaves the
counter of the table of counts at zero. -/
theorem collect_from_any_tables :
    (∀ session : Session, Collects session session.collect.1 session.collect.2) ∧
      ∀ (options : Options) (cpus : UInt32) (events : List DirectEvent),
        ((ofOptions options cpus).afterDirect events).collect.2.counts.size = 0 := by
  refine ⟨collects, ?_⟩
  intro options cpus events
  have consistent := afterDirect_consistent (ofOptions options cpus) events
    (BoundedMap.consistent_ofCapacity _)
  have drained := stepDirect_consistent _ (.regular .collected) consistent
  exact drained.counted.trans (congrArg Entries.size (collects _).emptied)

/-- Both sides of one key are in one bucket, and the ids of another key are no words. -/
example :
    let sharing : SampleKey := ⟨7, 0, 5, 5⟩
    let outside : SampleKey := ⟨7, 0, -2, UInt32.size + 5⟩
    let session := (ofOptions Options.standard 1).afterDirect
      [.countWritten sharing 3 UpdateFlags.any, .countWritten outside 1 UpdateFlags.any,
        .stacksChanged fun store => { store with occupied := store.occupied.set 5 ⟨0, [1, 2]⟩ }]
    session.collect.1 = [⟨sharing, 3, [1, 2], [1, 2]⟩, ⟨outside, 1, [], []⟩] := by
  decide

end Session
end SamplingProfiler
