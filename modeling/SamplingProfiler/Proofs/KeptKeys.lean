import SamplingProfiler.Proofs.DelayedExports

/-!
# The stacks of kept keys

A key whose deletion is refused is kept for a later round, with its count. Its stacks are
kept with it where the round does not reset the stacks and exports no key that names the
same stack: a round frees the stacks of the keys that it exports, and does not look at
the keys that it keeps.

A key may be kept through many rounds, while it is counted further and other keys come and
go. An event spares a key if it neither exports the key nor touches its stacks (`Spares`).
What one such event leaves of the key is proved by the kinds of events, and what a run of
them leaves by induction. The round that deletes the key at last exports it then with the
frames that it was counted with.

Main statements:

* `FailingDeletions.kept_keys_keep_unshared_stacks` - which stacks of a kept key stay, and
  with which frames it is exported.
* `FailingDeletions.kept_keys_lose_stacks` - two rounds after which a kept key names a
  stack that is gone.
-/

namespace SamplingProfiler.Loader
namespace FailingDeletions

/-- Whether no key that a round exports names a stack. -/
def Unshared (failing : FailingDeletions) (kernel : FaultyKernel) (bucket : UInt32) : Prop :=
  ∀ key, failing.Exports kernel.profileMaps key → ¬ key.Names bucket

/-- A stack is unshared if no exported pair names it. -/
theorem unshared_iff (failing : FailingDeletions) (kernel : FaultyKernel) (bucket : UInt32) :
    failing.Unshared kernel bucket ↔
      ¬ ∃ pair ∈ failing.exported kernel.profileMaps, pair.1.Names bucket := by
  rw [failing.exists_exported_iff kernel.profileMaps fun key => key.Names bucket]
  simp only [Unshared, not_exists, not_and]

instance (failing : FailingDeletions) (kernel : FaultyKernel) (bucket : UInt32) :
    Decidable (failing.Unshared kernel bucket) :=
  decidable_of_iff _ (failing.unshared_iff kernel bucket).symm

/-- Every key that is still counted names the stacks that it named before, with the same
frames. -/
def KeepsStacks (before after : FaultyKernel) : Prop :=
  ∀ key bucket frames, (after.counts.get? key).isSome = true → key.Names bucket →
    before.storedStacks.lookup bucket = some frames →
      after.storedStacks.lookup bucket = some frames

/-- A round that does not reset the stacks frees none that is unshared. -/
theorem unshared_stays (failing : FailingDeletions) (collector : Collector)
    (kernel : FaultyKernel) (bucket : UInt32) (unreset : ¬ collector.begun.Resets)
    (unshared : failing.Unshared kernel bucket) :
    (failing.round collector kernel).2.2.storedStacks.lookup bucket =
      kernel.storedStacks.lookup bucket := by
  rw [failing.stacks_round]
  refine (failing.stacks_after collector.begun kernel.profileMaps bucket).2 ?_
  rintro ⟨_, resets | ⟨key, exports, names⟩⟩
  · exact unreset resets
  · exact unshared key exports names

/-- The frames of an id stay where it names no stack, or one that stays. -/
theorem framesOf_stays (before after : FaultyKernel) (id : Int)
    (stays : ∀ bucket, ProfileSample.bucket? id = some bucket →
      after.storedStacks.lookup bucket = before.storedStacks.lookup bucket) :
    after.profileMaps.framesOf id = before.profileMaps.framesOf id := by
  simp only [ProfileMaps.framesOf]
  cases named : ProfileSample.bucket? id with
  | none => rfl
  | some bucket => exact congrArg (fun frames => frames.getD []) (stays bucket named)

end FailingDeletions

/-- A key that was counted is counted, and the stacks that it names are the same. -/
structure KeepsKey (key : SampleKey) (before after : FaultyKernel) : Prop where
  counted : (before.counts.get? key).isSome = true → (after.counts.get? key).isSome = true
  storedStacks : ∀ bucket, key.Names bucket →
    after.storedStacks.lookup bucket = before.storedStacks.lookup bucket

namespace Collecting

/-- Whether an event spares a key. Whoever changes stacks leaves those that the key names. A
round refuses to delete the key, does not reset the stacks, and exports no key that names one
of them. -/
def Spares (key : SampleKey) (state : Collecting) : CollectingEvent → Prop
  | .raised _ | .written _ _ _ => True
  | .stacksChanged change => ∀ bucket, key.Names bucket →
    (change state.kernel.storedStacks).lookup bucket = state.kernel.storedStacks.lookup bucket
  | .collected failing => failing.counts key ≠ none ∧ ¬ state.collector.begun.Resets ∧
    ∀ bucket, key.Names bucket → failing.Unshared state.kernel bucket

/-- Whether every event of a run spares a key. -/
def SparedAlong (key : SampleKey) (state : Collecting) : List CollectingEvent → Prop
  | [] => True
  | event :: rest => Spares key state event ∧ SparedAlong key (state.step event) rest

/-- An event that spares a key exports nothing of it. -/
theorem Spares.unexported {key : SampleKey} {state : Collecting} {event : CollectingEvent}
    (spares : Spares key state event) : exportedBy key state event = 0 := by
  cases event with
  | raised other => rfl
  | written invocation other count => rfl
  | stacksChanged change => rfl
  | collected failing => rw [exportedBy_collected, if_neg spares.1]

/-- An event that spares a key keeps it. -/
theorem Spares.keepsKey {key : SampleKey} {state : Collecting} {event : CollectingEvent}
    (spares : Spares key state event) :
    KeepsKey key state.kernel (state.step event).kernel := by
  have tables : state.kernel.tables.counts = state.kernel.counts := rfl
  cases event with
  | raised other =>
    refine ⟨?_, fun _ _ => rfl⟩
    intro counted
    simp only [step, Kernel.Invocation.increment, tables]
    cases state.kernel.counts.get? other with
    | none => exact counted
    | some count =>
      simp only [Kernel.HashTable.get?_set]
      split
      · rfl
      · exact counted
  | written invocation other count =>
    refine ⟨?_, fun _ _ => rfl⟩
    intro counted
    simp only [step, Kernel.Invocation.insertCount]
    cases invocation.refusal? .counts with
    | some number => exact counted
    | none =>
      simp only [Kernel.HashTable.insert_new, tables]
      split
      · exact counted
      · split
        · exact counted
        · simp only [Kernel.HashTable.get?_set]
          split
          · rfl
          · exact counted
  | stacksChanged change => exact ⟨id, spares⟩
  | collected failing =>
    obtain ⟨refused, unreset, unshared⟩ := spares
    constructor
    · intro counted
      simp only [step, failing.counts_round, if_neg refused]
      exact counted
    · intro bucket names
      exact failing.unshared_stays state.collector state.kernel bucket unreset
        (unshared bucket names)

/-- A run that spares a key keeps it, and exports nothing of it.

Induct over the events. -/
theorem SparedAlong.keepsKey {key : SampleKey} {state : Collecting}
    {events : List CollectingEvent} (spared : SparedAlong key state events) :
    KeepsKey key state.kernel (state.after events).kernel ∧
      summed (exportedBy key) state events = 0 := by
  induction events generalizing state with
  | nil => exact ⟨⟨id, fun _ _ => rfl⟩, rfl⟩
  | cons event rest inductionHypothesis =>
    obtain ⟨spares, sparedRest⟩ := spared
    obtain ⟨further, unexported⟩ := inductionHypothesis sparedRest
    have first := spares.keepsKey
    refine ⟨⟨fun counted => further.counted (first.counted counted), ?_⟩, ?_⟩
    · intro bucket names
      exact (further.storedStacks bucket names).trans (first.storedStacks bucket names)
    · rw [summed, spares.unexported, unexported, UInt32.add_zero]

/-- The round that deletes a key at last, after a run that spared it, exports it once: with all
that was counted of it, and with the frames that it had in the beginning. -/
theorem SparedAlong.exported {key : SampleKey} {state : Collecting}
    {events : List CollectingEvent} (spared : SparedAlong key state events)
    (counted : (state.kernel.counts.get? key).isSome = true) (failing : FailingDeletions)
    (deleted : failing.counts key = none) :
    ∃ samples,
      (failing.round (state.after events).collector (state.after events).kernel).1 =
        .ok samples ∧
      (samples.filter fun sample => sample.key = key) =
        [⟨key, remaining key state + summed (countedBy key) state events,
          state.kernel.profileMaps.framesOf key.kernelStack,
          state.kernel.profileMaps.framesOf key.userStack⟩] := by
  obtain ⟨keeps, unexported⟩ := spared.keepsKey
  have accounted := accounted_run key state events
  rw [unexported, UInt32.zero_add] at accounted
  have kernelFrames := FailingDeletions.framesOf_stays state.kernel (state.after events).kernel
    key.kernelStack fun bucket named => keeps.storedStacks bucket (.inl named)
  have userFrames := FailingDeletions.framesOf_stays state.kernel (state.after events).kernel
    key.userStack fun bucket named => keeps.storedStacks bucket (.inr named)
  refine ⟨_, (failing.round_eq _ _).1, ?_⟩
  rw [failing.samples_of_key, if_pos deleted, ← accounted]
  obtain ⟨count, present⟩ := Option.isSome_iff_exists.mp (keeps.counted counted)
  have listed : (state.after events).kernel.profileMaps.counts.lookup key = some count := present
  simp only [listed, remaining, present, ProfileMaps.sampleOf, kernelFrames, userFrames]
  rfl

end Collecting

namespace FailingDeletions

/-- What rounds do to the stacks of the keys that they keep. For every content of the maps,
every collector and all deletions that fail: the round ends with samples, and keeps exactly the
keys whose deletion failed, with their counts. If it does not reset the stacks, a kept key
still names every stack that it named before and that no exported key names, with the same
frames. If it resets the stacks, all are freed whose deletion does not fail.

So if every round that keeps a key spares it in this way, and nobody else touches the stacks of
the key, then the round that deletes the key at last exports it once, with all that was counted
of it and with the frames that it had in the beginning. -/
theorem kept_keys_keep_unshared_stacks (failing : FailingDeletions) (collector : Collector)
    (kernel : FaultyKernel) :
    (∃ samples, (failing.round collector kernel).1 = .ok samples) ∧
    (∀ key, (failing.round collector kernel).2.2.counts.get? key =
      if failing.counts key = none then none else kernel.counts.get? key) ∧
    (¬ collector.begun.Resets → ∀ key bucket frames,
      ((failing.round collector kernel).2.2.counts.get? key).isSome = true →
      key.Names bucket → failing.Unshared kernel bucket →
      kernel.storedStacks.lookup bucket = some frames →
        (failing.round collector kernel).2.2.storedStacks.lookup bucket = some frames) ∧
    (collector.begun.Resets → ∀ bucket, failing.storedStacks bucket = none →
      (failing.round collector kernel).2.2.storedStacks.lookup bucket = none) ∧
    ∀ key events (last : FailingDeletions),
      (kernel.counts.get? key).isSome = true →
      Collecting.SparedAlong key ⟨collector, kernel⟩ events → last.counts key = none →
        ∃ samples,
          (last.round (Collecting.after ⟨collector, kernel⟩ events).collector
            (Collecting.after ⟨collector, kernel⟩ events).kernel).1 = .ok samples ∧
          (samples.filter fun sample => sample.key = key) =
            [⟨key,
              Collecting.remaining key ⟨collector, kernel⟩ +
                Collecting.summed (Collecting.countedBy key) ⟨collector, kernel⟩ events,
              kernel.profileMaps.framesOf key.kernelStack,
              kernel.profileMaps.framesOf key.userStack⟩] := by
  refine ⟨⟨_, (failing.round_eq collector kernel).1⟩, failing.counts_round collector kernel,
    ?_, ?_, ?_⟩
  · intro unreset key bucket frames _ _ unshared stored
    rw [failing.unshared_stays collector kernel bucket unreset unshared]
    exact stored
  · intro resets bucket deleted
    rw [failing.stacks_round]
    exact (failing.stacks_after collector.begun kernel.profileMaps bucket).1
      ⟨deleted, .inl resets⟩
  · intro key events last counted spared deleted
    exact spared.exported counted last deleted

/-- Refuse the deletion of the counts of a process. -/
def refusing (pid : UInt32) : FailingDeletions where
  counts key := if key.pid = pid then some "injected" else none
  storedStacks _ := none

/-- A key of a process with a stack of user space. -/
def keyOf (pid : UInt32) (bucket : Nat) : SampleKey :=
  { SampleKey.ofPid pid with userStack := bucket }

/-- A kernel in which keys are counted, and stacks are stored. -/
def holding (counted : List (SampleKey × UInt32)) (stored : List (UInt32 × List UInt64)) :
    FaultyKernel :=
  { FaultyKernel.ofFile ⟨[], []⟩ [] with
    counts := counted.foldl (fun table pair => table.set pair.1 pair.2)
      (Kernel.HashTable.ofCapacity 16)
    storedStacks := stored.foldl (fun storedStacks pair => storedStacks.set pair.1 pair.2)
      Entries.empty }

/-- Two processes with a stack each. -/
def apartStacks : FaultyKernel :=
  holding [(keyOf 1 4, 3), (keyOf 2 5, 4)] [(4, [1]), (5, [1, 2])]

/-- Two processes with the same stack. -/
def oneStack : FaultyKernel :=
  holding [(keyOf 1 5, 3), (keyOf 2 5, 4)] [(5, [1, 2])]

/-- Two rounds that refuse to delete the key of process 2, which is counted once more between
them. -/
def keptTwice : List CollectingEvent :=
  [.collected (refusing 2), .raised (keyOf 2 5), .collected (refusing 2)]

/-- Where the deletion of one of two keys is refused that share no stack, the kept key
keeps its stack. After the second round that refuses it, a third one exports it with both
counts and with the stack. -/
theorem unshared_stack_of_kept_key_stays :
    ¬ (Collector.ofInterval 10).begun.Resets ∧
      ((refusing 2).round (Collector.ofInterval 10) apartStacks).2.2.counts.get? (keyOf 2 5) =
        some 4 ∧
      ((refusing 2).round (Collector.ofInterval 10) apartStacks).2.2.storedStacks.lookup 5 =
        some [1, 2] ∧
      ∃ samples,
        (never.round (Collecting.after ⟨Collector.ofInterval 10, apartStacks⟩ keptTwice).collector
          (Collecting.after ⟨Collector.ofInterval 10, apartStacks⟩ keptTwice).kernel).1 =
            .ok samples ∧
        (samples.filter fun sample => sample.key = keyOf 2 5) = [⟨keyOf 2 5, 5, [], [1, 2]⟩] := by
  have unreset : ¬ (Collector.ofInterval 10).begun.Resets := by decide
  have kept : ((refusing 2).round (Collector.ofInterval 10) apartStacks).2.2.counts.get?
      (keyOf 2 5) = some 4 := by decide
  have named (bucket : UInt32) (names : (keyOf 2 5).Names bucket) : bucket = 5 := by
    rcases names with kernelSide | userSide
    · cases kernelSide
    · exact (Option.some.inj userSide).symm
  obtain ⟨_, _, stays, _, exports⟩ := kept_keys_keep_unshared_stacks (refusing 2)
    (Collector.ofInterval 10) apartStacks
  refine ⟨unreset, kept, ?_, ?_⟩
  · exact stays unreset (keyOf 2 5) 5 [1, 2] (by simp [kept]) (.inr rfl) (by decide) (by decide)
  · refine exports (keyOf 2 5) keptTwice never (by decide) ⟨?_, trivial, ?_, trivial⟩ rfl
    · refine ⟨by decide, unreset, ?_⟩
      rintro bucket names
      rw [named bucket names]
      decide
    · refine ⟨by decide, by decide, ?_⟩
      rintro bucket names
      rw [named bucket names]
      decide

/-- A key that is still counted and names a stack that is gone has not kept its stacks. -/
theorem loses_stack (before after : FaultyKernel) (key : SampleKey) (bucket : UInt32)
    (frames : List UInt64) (counted : (after.counts.get? key).isSome = true)
    (names : key.Names bucket) (stored : before.storedStacks.lookup bucket = some frames)
    (freed : after.storedStacks.lookup bucket = none) : ¬ KeepsStacks before after := by
  intro keeps
  have left := keeps key bucket frames counted names stored
  rw [freed] at left
  cases left

/-- The deletion of one of two keys is refused. A round that resets the stacks takes the
stack of the kept key although no other key names it. A round that does not takes it
where the exported key names it too, and the next round exports the kept key without
frames. -/
theorem kept_keys_lose_stacks :
    ((∃ samples, ((refusing 2).round (Collector.ofInterval 1) apartStacks).1 = .ok samples) ∧
      ¬ KeepsStacks apartStacks
        ((refusing 2).round (Collector.ofInterval 1) apartStacks).2.2) ∧
    ((∃ samples, ((refusing 2).round (Collector.ofInterval 10) oneStack).1 = .ok samples) ∧
      ¬ KeepsStacks oneStack ((refusing 2).round (Collector.ofInterval 10) oneStack).2.2) ∧
    (never.round ((refusing 2).round (Collector.ofInterval 10) oneStack).2.1
      ((refusing 2).round (Collector.ofInterval 10) oneStack).2.2).1 =
        .ok [⟨keyOf 2 5, 4, [], []⟩] := by
  refine ⟨⟨⟨_, ((refusing 2).round_eq _ _).1⟩, ?_⟩, ⟨⟨_, ((refusing 2).round_eq _ _).1⟩, ?_⟩,
    by rfl⟩
  · have kept := (refusing 2).counts_round (Collector.ofInterval 1) apartStacks (keyOf 2 5)
    have freed := ((refusing 2).stacks_after (Collector.ofInterval 1).begun
      apartStacks.profileMaps 5).1 ⟨rfl, .inl (by decide)⟩
    rw [← (refusing 2).stacks_round] at freed
    refine loses_stack _ _ (keyOf 2 5) 5 [1, 2] ?_ (.inr rfl) (by decide) freed
    rw [kept]
    decide
  · exact loses_stack _ _ (keyOf 2 5) 5 [1, 2] (by decide) (.inr rfl) (by decide) (by decide)

end SamplingProfiler.Loader.FailingDeletions
