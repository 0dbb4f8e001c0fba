import SamplingProfiler.Proofs.Collections
import SamplingProfiler.Proofs.FailedCollections
import SamplingProfiler.Proofs.TableContents

/-!
# Rounds over maps whose deletions may fail

Where the maps of a kernel can be listed and read, a collection over them ends with
samples, whatever deletions fail. A key whose deletion is refused stays as it is and is
not exported. Every other key is exported with its count and is gone. Of the stacks
those are freed that exported keys name, or all of them in the rounds that reset the
stacks, except where a deletion fails.

The round is first given in closed form over the two maps alone, and proved equal to the
run of the dialogue, part by part. The kernels that answer it are then related to the
two maps by a view: they reply alike.

Main statements:

* `FailingDeletions.run_collectRound` - the closed form of a round.
* `FailingDeletions.round_eq` - a round over a kernel in which deletions fail.
* `Collector.run_faultless` - a round over a kernel in which nothing fails.
* `FailingDeletions.counts_after`, `FailingDeletions.stacks_after` - what looking up shows
  after a round.
-/

namespace SamplingProfiler

/-- Whether one of the ids of a key names a bucket. -/
def SampleKey.Names (key : SampleKey) (bucket : UInt32) : Prop :=
  ProfileSample.bucket? key.kernelStack = some bucket ∨
    ProfileSample.bucket? key.userStack = some bucket

instance (key : SampleKey) (bucket : UInt32) : Decidable (key.Names bucket) :=
  inferInstanceAs (Decidable (ProfileSample.bucket? key.kernelStack = some bucket ∨
    ProfileSample.bucket? key.userStack = some bucket))

namespace Session

/-- An id adds the bucket that it names. -/
theorem mem_noteId (used : List UInt32) (id : Int) (bucket : UInt32) :
    bucket ∈ noteId used id ↔ bucket ∈ used ∨ ProfileSample.bucket? id = some bucket := by
  simp only [noteId]
  cases ProfileSample.bucket? id with
  | none => simp
  | some named =>
    simp only [ProfileSample.mem_noteUsed, Option.some.injEq]
    rw [or_comm, eq_comm]

/-- The used buckets are those that the counted keys name. -/
theorem mem_usedBuckets (pairs : List (SampleKey × UInt32)) (used : List UInt32)
    (bucket : UInt32) :
    bucket ∈ usedBuckets pairs used ↔
      bucket ∈ used ∨ ∃ pair ∈ pairs, pair.1.Names bucket := by
  induction pairs generalizing used with
  | nil => simp [usedBuckets]
  | cons pair rest inductionHypothesis =>
    have further := inductionHypothesis (noteId (noteId used pair.1.kernelStack) pair.1.userStack)
    simp only [usedBuckets, List.foldl_cons] at further ⊢
    rw [further, mem_noteId, mem_noteId]
    simp only [List.mem_cons, exists_eq_or_imp, SampleKey.Names, or_assoc]

end Session

namespace Loader

/-- What a collection reads and changes of a kernel. -/
structure ProfileMaps where
  counts : Entries SampleKey UInt32
  storedStacks : Entries UInt32 (List UInt64)

/-- The counts and the stored stacks of a kernel. -/
def FaultyKernel.profileMaps (kernel : FaultyKernel) : ProfileMaps :=
  ⟨kernel.counts.entries, kernel.storedStacks⟩

namespace ProfileMaps

/-- The frames that an id stands for; none for an id that names no stored stack. -/
def framesOf (maps : ProfileMaps) (id : Int) : List UInt64 :=
  ((ProfileSample.bucket? id).bind maps.storedStacks.lookup).getD []

/-- The sample that is exported for a counted key. -/
def sampleOf (maps : ProfileMaps) (pair : SampleKey × UInt32) : ProfileSample where
  key := pair.1
  count := pair.2
  kernelFrames := maps.framesOf pair.1.kernelStack
  userFrames := maps.framesOf pair.1.userStack

end ProfileMaps

/-- A call that fails shows its error and leaves the two maps alone; any other shows its
own effect. -/
theorem FailurePattern.view_attempt {Result : Type} (pattern : FailurePattern)
    (call : Collector.Call) (state : FaultyKernel × Nat) (key? : Option UInt32)
    (effect : Except CallError Result × FaultyKernel) :
    ((pattern.faulted call state).attempt call.site key? effect).map id
        FaultyKernel.profileMaps =
      match pattern.failure? state.2 call with
      | some error => (.error error, state.1.profileMaps)
      | none => effect.map id FaultyKernel.profileMaps := by
  rw [pattern.attempt_faulted call state key? effect]
  cases pattern.failure? state.2 call <;> rfl

namespace Collector

/-- A collector that has begun its next round. -/
def begun (collector : Collector) : Collector :=
  { collector with rounds := collector.rounds + 1 }

/-- Whether the round that a collector has begun resets the stacks. -/
def Resets (collector : Collector) : Prop :=
  collector.rounds % collector.resetInterval = 0

instance (collector : Collector) : Decidable collector.Resets :=
  inferInstanceAs (Decidable (collector.rounds % collector.resetInterval = 0))

end Collector

/-- The deletions that fail in one round. That a key is missing is no failure of its
deletion, so the deletion of a count fails with a refusal. -/
structure FailingDeletions where
  counts : SampleKey → Option String
  storedStacks : UInt32 → Option CallError

namespace FailingDeletions

/-- No deletion fails. -/
def never : FailingDeletions :=
  ⟨fun _ => none, fun _ => none⟩

/-- Deletions fail, and no other call. -/
def pattern (failing : FailingDeletions) : FailurePattern where
  listCounts := none
  getCount _ := none
  removeCount key := (failing.counts key).map CallError.refused
  listStacks := none
  getStack _ _ := none
  removeStack _ id := failing.storedStacks id

/-- Answer a call of a collection from the two maps. -/
def answer (failing : FailingDeletions) : (call : Collector.Call) → ProfileMaps →
    Collector.Reply call × ProfileMaps
  | .listCounts, maps => (.ok maps.counts.keys, maps)
  | .getCount key, maps => (FaultyKernel.found (maps.counts.lookup key), maps)
  | .removeCount key, maps =>
    match failing.counts key with
    | some wording => (.error (.refused wording), maps)
    | none =>
      (FaultyKernel.found ((maps.counts.lookup key).map fun _ => ()),
        { maps with counts := maps.counts.erase key })
  | .listStacks, maps => (.ok maps.storedStacks.keys.mergeSort, maps)
  | .getStack id, maps => (FaultyKernel.found (maps.storedStacks.lookup id), maps)
  | .removeStack id, maps =>
    match failing.storedStacks id with
    | some error => (.error error, maps)
    | none =>
      (FaultyKernel.found ((maps.storedStacks.lookup id).map fun _ => ()),
        { maps with storedStacks := maps.storedStacks.erase id })

/-- The pairs of a list that are exported: those whose deletion does not fail. -/
def exportedOf (failing : FailingDeletions) (pairs : List (SampleKey × UInt32)) :
    List (SampleKey × UInt32) :=
  pairs.filter fun pair => (failing.counts pair.1).isNone

/-- The pairs that a round exports. -/
def exported (failing : FailingDeletions) (maps : ProfileMaps) : List (SampleKey × UInt32) :=
  failing.exportedOf maps.counts.pairs

/-- The stacks that a round tries to delete: all in a round that resets the stacks, and
else those that exported keys name. -/
def stale (failing : FailingDeletions) (collector : Collector) (maps : ProfileMaps) :
    List UInt32 :=
  if collector.Resets then maps.storedStacks.keys.mergeSort
  else Session.usedBuckets (failing.exported maps) []

/-- Delete stacks where that does not fail. -/
def clear (failing : FailingDeletions) (ids : List UInt32)
    (storedStacks : Entries UInt32 (List UInt64)) : Entries UInt32 (List UInt64) :=
  storedStacks.eraseAll (ids.filter fun id => (failing.storedStacks id).isNone)

/-- The maps after the round that a collector has begun. -/
def mapsAfter (failing : FailingDeletions) (collector : Collector) (maps : ProfileMaps) :
    ProfileMaps where
  counts := maps.counts.eraseAll ((failing.exported maps).map Prod.fst)
  storedStacks := failing.clear (failing.stale collector maps) maps.storedStacks

/-- Resolving an id reads the stored stacks and notes the bucket. -/
theorem run_resolve (failing : FailingDeletions) (maps : ProfileMaps) (id : Int)
    (used : List UInt32) :
    (Collector.resolve id used).run failing.answer maps =
      ((maps.framesOf id, Session.noteId used id), maps) := by
  simp only [Collector.resolve, ProfileMaps.framesOf, Session.noteId]
  cases ProfileSample.bucket? id with
  | none => rfl
  | some bucket =>
    simp only [Collector.getStack, Dialogue.request_bind, Dialogue.run_ask, answer,
      Option.bind_some]
    cases maps.storedStacks.lookup bucket <;> rfl

/-- Collecting keys that are counted exports those whose deletion does not fail, and
deletes them.

Induct over the pairs. The first key is read and its deletion is tried; the remaining keys
are other keys, so they are still counted as before. -/
theorem run_collectKeys (failing : FailingDeletions) (maps : ProfileMaps)
    (pairs : List (SampleKey × UInt32)) (used : List UInt32)
    (distinct : (pairs.map Prod.fst).Nodup)
    (counted : ∀ pair ∈ pairs, maps.counts.lookup pair.1 = some pair.2) :
    (Collector.collectKeys (pairs.map Prod.fst) used).run failing.answer maps =
      (.ok ((failing.exportedOf pairs).map maps.sampleOf,
          Session.usedBuckets (failing.exportedOf pairs) used),
        { maps with
          counts := maps.counts.eraseAll ((failing.exportedOf pairs).map Prod.fst) }) := by
  induction pairs generalizing maps used with
  | nil => rfl
  | cons pair rest inductionHypothesis =>
    obtain ⟨key, count⟩ := pair
    obtain ⟨absent, distinctRest⟩ := List.nodup_cons.mp distinct
    have present : maps.counts.lookup key = some count := counted (key, count) (by simp)
    have countedRest : ∀ pair ∈ rest, maps.counts.lookup pair.1 = some pair.2 :=
      fun pair member => counted pair (List.mem_cons_of_mem _ member)
    simp only [List.map_cons, Collector.collectKeys, Collector.getCount, Collector.removeCount,
      Dialogue.request_bind, Dialogue.run_ask, answer, present, FaultyKernel.found]
    cases refused : failing.counts key with
    | some wording =>
      have passed : failing.exportedOf ((key, count) :: rest) = failing.exportedOf rest := by
        simp [exportedOf, refused]
      rw [passed]
      exact inductionHypothesis maps used distinctRest countedRest
    | none =>
      have taken : failing.exportedOf ((key, count) :: rest) =
          (key, count) :: failing.exportedOf rest := by
        simp [exportedOf, refused]
      have countedAfter : ∀ pair ∈ rest,
          (maps.counts.erase key).lookup pair.1 = some pair.2 := by
        intro pair member
        have other : pair.1 ≠ key := fun same =>
          absent (List.mem_map.mpr ⟨pair, member, same⟩)
        rw [Entries.lookup_erase, if_neg other]
        exact countedRest pair member
      rw [taken]
      simp only [Option.map_some, Collector.deleted, if_true, Dialogue.run_bind, run_resolve,
        inductionHypothesis { maps with counts := maps.counts.erase key } _ distinctRest
          countedAfter, Dialogue.pure_eq_done, Dialogue.run_done]
      rfl

/-- Deleting stacks frees those whose deletion does not fail. -/
theorem run_removeStacks (failing : FailingDeletions) (maps : ProfileMaps) (ids : List UInt32) :
    (Collector.removeStacks ids).run failing.answer maps =
      ((), { maps with storedStacks := failing.clear ids maps.storedStacks }) := by
  induction ids generalizing maps with
  | nil => rfl
  | cons id rest inductionHypothesis =>
    simp only [Collector.removeStacks, Collector.removeStack, Dialogue.request_bind,
      Dialogue.run_ask, answer, inductionHypothesis]
    cases failed : failing.storedStacks id with
    | some error => simp [clear, failed]
    | none => simp [clear, failed]

/-- The round that a collector has begun exports every pair whose deletion does not fail,
with the frames that are stored for its ids. -/
theorem run_collectRound (failing : FailingDeletions) (collector : Collector)
    (maps : ProfileMaps) :
    collector.collectRound.run failing.answer maps =
      (.ok ((failing.exported maps).map maps.sampleOf), failing.mapsAfter collector maps) := by
  have collected := failing.run_collectKeys maps maps.counts.pairs [] maps.counts.distinct
    (fun pair member => (Entries.lookup_eq_some_iff _ _ _).mpr member)
  simp only [Collector.collectRound, Collector.listCounts, Dialogue.request_bind,
    Dialogue.run_ask, answer, Dialogue.run_bind, Entries.keys, collected]
  by_cases resets : collector.Resets
  · have divides : (collector.rounds % collector.resetInterval == 0) = true := by
      simpa [Collector.Resets] using resets
    simp only [Collector.staleStacks, divides, if_true, Collector.listStacks,
      Dialogue.request, Dialogue.run_ask, answer, Dialogue.run_done, Dialogue.run_bind,
      run_removeStacks, Dialogue.pure_eq_done, mapsAfter, stale, resets, exported]
  · have unreset : (collector.rounds % collector.resetInterval == 0) = false := by
      simpa [Collector.Resets] using resets
    simp only [Collector.staleStacks, unreset, Bool.false_eq_true, if_false,
      Dialogue.run_done, Dialogue.run_bind, run_removeStacks, Dialogue.pure_eq_done, mapsAfter,
      stale, resets, exported]

/-- A kernel in which deletions fail replies as its two maps do. -/
theorem view_answer (failing : FailingDeletions) (call : Collector.Call)
    (state : FaultyKernel × Nat) :
    ((failing.pattern.answer call state).1, (failing.pattern.answer call state).2.1.profileMaps) =
      failing.answer call state.1.profileMaps := by
  cases call with
  | listCounts =>
    exact failing.pattern.view_attempt .listCounts state none
      (.ok state.1.counts.entries.keys, failing.pattern.faulted .listCounts state)
  | getCount key =>
    exact failing.pattern.view_attempt (.getCount key) state (some key.pid)
      (FaultyKernel.found (state.1.counts.get? key), failing.pattern.faulted (.getCount key) state)
  | listStacks =>
    exact failing.pattern.view_attempt .listStacks state none
      (.ok state.1.storedStacks.keys.mergeSort, failing.pattern.faulted .listStacks state)
  | getStack id =>
    exact failing.pattern.view_attempt (.getStack id) state (some id)
      (FaultyKernel.found (state.1.storedStacks.lookup id),
        failing.pattern.faulted (.getStack id) state)
  | removeCount key =>
    refine (failing.pattern.view_attempt (.removeCount key) state (some key.pid)
      (FaultyKernel.found ((state.1.counts.get? key).map fun _ => ()),
        { failing.pattern.faulted (.removeCount key) state with
          counts := state.1.counts.erase key })).trans ?_
    simp only [FailurePattern.failure?, pattern, answer]
    cases failing.counts key <;> rfl
  | removeStack id =>
    refine (failing.pattern.view_attempt (.removeStack id) state (some id)
      (FaultyKernel.found ((state.1.storedStacks.lookup id).map fun _ => ()),
        { failing.pattern.faulted (.removeStack id) state with
          storedStacks := state.1.storedStacks.erase id })).trans ?_
    simp only [FailurePattern.failure?, pattern, answer]
    cases failing.storedStacks id <;> rfl

/-- One round of a collector over a kernel in which deletions fail: its result, and the
collector and the kernel after it. -/
def round (failing : FailingDeletions) (collector : Collector) (kernel : FaultyKernel) :
    Except CallError (List ProfileSample) × Collector × FaultyKernel :=
  let ((result, next), (after, _)) := collector.collect.run failing.pattern.answer (kernel, 0)
  (result, next, after)

/-- A round ends with samples whatever deletions fail, and is given by the two maps. -/
theorem round_eq (failing : FailingDeletions) (collector : Collector) (kernel : FaultyKernel) :
    (failing.round collector kernel).1 =
        .ok ((failing.exported kernel.profileMaps).map kernel.profileMaps.sampleOf) ∧
      (failing.round collector kernel).2.1 = collector.begun ∧
      (failing.round collector kernel).2.2.profileMaps =
        failing.mapsAfter collector.begun kernel.profileMaps := by
  have seen := (Dialogue.run_view failing.pattern.answer failing.answer
    (fun state => state.1.profileMaps) (fun _ => True)
    (fun call state _ => ⟨trivial, failing.view_answer call state⟩)
    collector.begun.collectRound (kernel, 0) trivial).2
  rw [run_collectRound, Prod.mk.injEq] at seen
  simp only [round, Collector.collect, Dialogue.run_bind, Dialogue.pure_eq_done,
    Dialogue.run_done]
  exact ⟨seen.1, rfl, seen.2⟩

/-- Whether a round exports a key: it is counted, and its deletion does not fail. -/
def Exports (failing : FailingDeletions) (maps : ProfileMaps) (key : SampleKey) : Prop :=
  (maps.counts.lookup key).isSome = true ∧ failing.counts key = none

/-- Whether the round that a collector has begun frees a stack: its deletion does not
fail, and the round resets the stacks or exports a key that names the stack. -/
def Frees (failing : FailingDeletions) (collector : Collector) (maps : ProfileMaps)
    (bucket : UInt32) : Prop :=
  failing.storedStacks bucket = none ∧
    (collector.Resets ∨ ∃ key, failing.Exports maps key ∧ key.Names bucket)

/-- The exported pairs are the counts of the exported keys. -/
theorem exists_exported_iff (failing : FailingDeletions) (maps : ProfileMaps)
    (property : SampleKey → Prop) :
    (∃ pair ∈ failing.exported maps, property pair.1) ↔
      ∃ key, failing.Exports maps key ∧ property key := by
  simp only [exported, exportedOf, List.mem_filter, Option.isNone_iff_eq_none, Prod.exists,
    ← Entries.lookup_eq_some_iff, Exports, Option.isSome_iff_exists]
  constructor
  · rintro ⟨key, count, ⟨counted, deleted⟩, holds⟩
    exact ⟨key, ⟨⟨count, counted⟩, deleted⟩, holds⟩
  · rintro ⟨key, ⟨⟨count, counted⟩, deleted⟩, holds⟩
    exact ⟨key, count, ⟨counted, deleted⟩, holds⟩

/-- Of the samples of a round at most one is that of a key: it is there if the key is
counted and its deletion does not fail. -/
theorem samples_of_key (failing : FailingDeletions) (maps : ProfileMaps) (key : SampleKey) :
    (((failing.exported maps).map maps.sampleOf).filter fun sample => sample.key = key) =
      if failing.counts key = none then
        ((maps.counts.lookup key).map fun count => maps.sampleOf (key, count)).toList
      else [] := by
  have ofKey : (failing.exported maps).filter (fun pair => pair.1 = key) =
      if failing.counts key = none then
        ((maps.counts.lookup key).map fun count => (key, count)).toList
      else [] := by
    have swapped : (failing.exported maps).filter (fun pair => pair.1 = key) =
        failing.exportedOf (maps.counts.pairs.filter fun pair => pair.1 = key) := by
      simp only [exported, exportedOf, List.filter_filter, Bool.and_comm]
    rw [swapped, Entries.filter_pairs]
    cases maps.counts.lookup key with
    | none => simp [exportedOf]
    | some count => cases refused : failing.counts key <;> simp [exportedOf, refused]
  have sameKey : (fun sample : ProfileSample => decide (sample.key = key)) ∘ maps.sampleOf =
      fun pair => decide (pair.1 = key) := rfl
  rw [List.filter_map, sameKey, ofKey]
  cases maps.counts.lookup key <;> by_cases deleted : failing.counts key = none <;>
    simp [deleted]

/-- After a round exactly those keys are counted whose deletion failed, as often as
before. -/
theorem counts_after (failing : FailingDeletions) (collector : Collector) (maps : ProfileMaps)
    (key : SampleKey) :
    (failing.mapsAfter collector maps).counts.lookup key =
      if failing.counts key = none then none else maps.counts.lookup key := by
  have gone : key ∈ (failing.exported maps).map Prod.fst ↔ failing.Exports maps key := by
    have named := failing.exists_exported_iff maps (fun other => other = key)
    simpa only [List.mem_map, exists_eq_right] using named
  simp only [mapsAfter, Entries.lookup_eraseAll, gone, Exports]
  cases maps.counts.lookup key with
  | none => simp
  | some count => simp

/-- The stacks that a round tries to delete are the stored ones in a round that resets the
stacks, and else those that exported keys name. -/
theorem mem_stale (failing : FailingDeletions) (collector : Collector) (maps : ProfileMaps)
    (bucket : UInt32) :
    bucket ∈ failing.stale collector maps ↔
      if collector.Resets then bucket ∈ maps.storedStacks.keys
      else ∃ key, failing.Exports maps key ∧ key.Names bucket := by
  simp only [stale]
  by_cases resets : collector.Resets
  · simp only [resets, if_true, List.mem_mergeSort]
  · simp only [resets, if_false, Session.mem_usedBuckets, List.not_mem_nil, false_or]
    exact failing.exists_exported_iff maps (fun key => key.Names bucket)

/-- After a round those stacks are gone that it frees, and the others are as before. -/
theorem stacks_after (failing : FailingDeletions) (collector : Collector) (maps : ProfileMaps)
    (bucket : UInt32) :
    (failing.Frees collector maps bucket →
        (failing.mapsAfter collector maps).storedStacks.lookup bucket = none) ∧
      (¬ failing.Frees collector maps bucket →
        (failing.mapsAfter collector maps).storedStacks.lookup bucket =
          maps.storedStacks.lookup bucket) := by
  have tried := failing.mem_stale collector maps bucket
  simp only [mapsAfter, clear, Entries.lookup_eraseAll, List.mem_filter,
    Option.isNone_iff_eq_none]
  by_cases resets : collector.Resets
  · rw [if_pos resets] at tried
    constructor
    · rintro ⟨unfailing, _⟩
      by_cases stored : bucket ∈ maps.storedStacks.keys
      · rw [if_pos ⟨tried.mpr stored, unfailing⟩]
      · rw [if_neg (fun both => stored (tried.mp both.1))]
        exact (Entries.lookup_eq_none_iff _ _).mpr stored
    · intro unfreed
      rw [if_neg (fun both => unfreed ⟨both.2, .inl resets⟩)]
  · rw [if_neg resets] at tried
    constructor
    · rintro ⟨unfailing, freeing⟩
      have named := freeing.resolve_left resets
      rw [if_pos ⟨tried.mpr named, unfailing⟩]
    · intro unfreed
      rw [if_neg (fun both => unfreed ⟨both.2, .inr (tried.mp both.1)⟩)]

/-- After a round over a kernel exactly those keys are counted whose deletion failed, as
often as before. -/
theorem counts_round (failing : FailingDeletions) (collector : Collector)
    (kernel : FaultyKernel) (key : SampleKey) :
    (failing.round collector kernel).2.2.counts.get? key =
      if failing.counts key = none then none else kernel.counts.get? key := by
  have after := congrArg (fun maps => maps.counts.lookup key)
    (failing.round_eq collector kernel).2.2
  exact after.trans (failing.counts_after collector.begun kernel.profileMaps key)

/-- A round over a kernel frees stacks of its store. -/
theorem stacks_round (failing : FailingDeletions) (collector : Collector)
    (kernel : FaultyKernel) (bucket : UInt32) :
    (failing.round collector kernel).2.2.storedStacks.lookup bucket =
      (failing.mapsAfter collector.begun kernel.profileMaps).storedStacks.lookup bucket :=
  congrArg (fun maps => maps.storedStacks.lookup bucket) (failing.round_eq collector kernel).2.2

/-- Where no deletion fails, every pair is exported. -/
theorem exported_never (maps : ProfileMaps) : never.exported maps = maps.counts.pairs := by
  simp [exported, exportedOf, never]

end FailingDeletions

/-- A kernel without faults replies as its two maps do, and stays without faults. -/
theorem FaultyKernel.view_answerCollector (call : Collector.Call) (kernel : FaultyKernel)
    (faultless : kernel.faults = []) :
    (answerCollector call kernel).2.faults = [] ∧
      ((answerCollector call kernel).1, (answerCollector call kernel).2.profileMaps) =
        FailingDeletions.never.answer call kernel.profileMaps := by
  cases call <;>
    simp only [answerCollector, attempt_of_faults_nil _ _ _ _ faultless] <;>
    exact ⟨faultless, rfl⟩

/-- A round over a kernel without faults exports every pair, and is given by the two
maps. -/
theorem Collector.run_faultless (collector : Collector) (kernel : FaultyKernel)
    (faultless : kernel.faults = []) :
    (collector.collect.run FaultyKernel.answerCollector kernel).1 =
        (.ok (kernel.counts.entries.pairs.map kernel.profileMaps.sampleOf),
          collector.begun) ∧
      (collector.collect.run FaultyKernel.answerCollector kernel).2.faults = [] ∧
      (collector.collect.run FaultyKernel.answerCollector kernel).2.profileMaps =
        FailingDeletions.never.mapsAfter collector.begun kernel.profileMaps := by
  obtain ⟨kept, seen⟩ := Dialogue.run_view FaultyKernel.answerCollector
    FailingDeletions.never.answer FaultyKernel.profileMaps (fun kernel => kernel.faults = [])
    FaultyKernel.view_answerCollector
    collector.begun.collectRound kernel faultless
  rw [FailingDeletions.run_collectRound, FailingDeletions.exported_never, Prod.mk.injEq] at seen
  simp only [Collector.collect, Dialogue.run_bind, Dialogue.pure_eq_done, Dialogue.run_done]
  exact ⟨Prod.ext seen.1 rfl, kept, seen.2⟩

end Loader
end SamplingProfiler
