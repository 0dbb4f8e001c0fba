import SamplingProfiler.Proofs.BoundedMaps
import SamplingProfiler.Proofs.StackCaptures
import SamplingProfiler.Session.Collection

/-!
# A collection with nothing in between

Where no other call comes in between, a collection exports one sample for every pair
of the table of counts, with the frames that the stack store holds for its ids then.
It leaves the table empty, and of the stacks either none or all but those it used.

The closed form is proved equal to the run of the dialogue, part by part.
-/

namespace SamplingProfiler

namespace StackStore

/-- Free buckets one after the other. -/
def removeAll (store : StackStore) (ids : List UInt32) : StackStore :=
  ids.foldl (fun current id => (current.remove id).2) store

/-- Freed buckets are unoccupied, and all others hold what they held. -/
theorem occupied_removeAll (store : StackStore) (ids : List UInt32) (id : UInt32) :
    (store.removeAll ids).occupied.lookup id =
      if id ∈ ids then none else store.occupied.lookup id := by
  induction ids generalizing store with
  | nil => simp [removeAll]
  | cons first rest inductionHypothesis =>
    have later := inductionHypothesis (store.remove first).2
    simp only [removeAll, List.foldl_cons, remove, Entries.lookup_erase] at later ⊢
    rw [later]
    by_cases freed : id ∈ rest
    · simp [freed]
    · by_cases same : id = first <;> simp [freed, same]

/-- What is left after freeing buckets was there before. -/
theorem occupied_of_removeAll (store : StackStore) (ids : List UInt32) (id : UInt32)
    (bucket : StackBucket) (left : (store.removeAll ids).occupied.lookup id = some bucket) :
    store.occupied.lookup id = some bucket := by
  rw [occupied_removeAll] at left
  split at left
  · cases left
  · exact left

/-- Freed buckets are empty, and all others hold what they held. -/
theorem lookup_removeAll (store : StackStore) (ids : List UInt32) (id : UInt32) :
    (store.removeAll ids).lookup id = if id ∈ ids then none else store.lookup id := by
  simp only [lookup, occupied_removeAll]
  split <;> rfl

/-- Freeing buckets leaves their number alone. -/
theorem bucketCount_removeAll (store : StackStore) (ids : List UInt32) :
    (store.removeAll ids).bucketCount = store.bucketCount := by
  induction ids generalizing store with
  | nil => rfl
  | cons first rest inductionHypothesis => exact inductionHypothesis _

end StackStore

namespace Session

/-- The sample that is exported for a counted key. -/
def exportedSample (store : StackStore) (pair : SampleKey × UInt32) : ProfileSample where
  key := pair.1
  count := pair.2
  kernelFrames := store.framesOf pair.1.kernelStack
  userFrames := store.framesOf pair.1.userStack

/-- The used buckets, with that of an id among them if it names one. -/
def noteId (used : List UInt32) (id : Int) : List UInt32 :=
  match ProfileSample.bucket? id with
  | none => used
  | some bucket => ProfileSample.noteUsed bucket used

/-- The buckets that the ids of counted keys name. -/
def usedBuckets (pairs : List (SampleKey × UInt32)) (used : List UInt32) : List UInt32 :=
  pairs.foldl (fun noted pair => noteId (noteId noted pair.1.kernelStack) pair.1.userStack) used

/-- The stacks after a round in which some of them were used. -/
def stacksAfter (session : Session) (used : List UInt32) : StackStore :=
  if Collection.isResetRound (session.rounds + 1) session.options.stacksResetInterval then
    session.stackStore.clear
  else session.stackStore.removeAll used

/-- Taking the counts of keys removes them from the table one after the other. -/
theorem run_takeCounts (session : Session) (keys : List SampleKey) :
    (Collection.takeCounts keys).run answerCollection session =
      ((BoundedMap.removeAll keys session.counts).1,
        { session with counts := (BoundedMap.removeAll keys session.counts).2 }) := by
  induction keys generalizing session with
  | nil => rfl
  | cons key rest inductionHypothesis =>
    rcases removed : session.counts.remove key with ⟨count, counts⟩
    simp only [Collection.takeCounts, Collection.takeCount, Dialogue.request_bind,
      Dialogue.run_ask, answerCollection, removed, BoundedMap.removeAll]
    cases count with
    | none =>
      have unchanged : counts = session.counts := by
        simp only [BoundedMap.remove] at removed
        cases found : session.counts.get? key with
        | none => simpa [found] using removed.symm
        | some value => simp [found] at removed
      simp only [unchanged]
      exact inductionHypothesis session
    | some count =>
      simp only [Dialogue.run_bind, inductionHypothesis, Dialogue.pure_eq_done, Dialogue.run_done]

/-- Resolving an id reads the store and notes the bucket. -/
theorem run_resolve (session : Session) (id : Int) (used : List UInt32) :
    (Collection.resolve id used).run answerCollection session =
      ((session.stackStore.framesOf id, noteId used id), session) := by
  simp only [Collection.resolve, StackStore.framesOf, noteId]
  cases ProfileSample.bucket? id with
  | none => rfl
  | some bucket => rfl

/-- Resolving the stacks of counted keys makes their samples and changes nothing. -/
theorem run_resolveAll (session : Session) (pairs : List (SampleKey × UInt32))
    (used : List UInt32) :
    (Collection.resolveAll pairs used).run answerCollection session =
      ((pairs.map (exportedSample session.stackStore), usedBuckets pairs used), session) := by
  induction pairs generalizing used with
  | nil => rfl
  | cons pair rest inductionHypothesis =>
    obtain ⟨key, count⟩ := pair
    simp only [Collection.resolveAll, Dialogue.run_bind, run_resolve, inductionHypothesis,
      Dialogue.pure_eq_done, Dialogue.run_done, List.map_cons, exportedSample, usedBuckets,
      List.foldl_cons]

/-- Dropping stacks frees their buckets. -/
theorem run_dropStacks (session : Session) (ids : List UInt32) :
    (Collection.dropStacks ids).run answerCollection session =
      ((), { session with stackStore := session.stackStore.removeAll ids }) := by
  induction ids generalizing session with
  | nil => rfl
  | cons id rest inductionHypothesis =>
    simp only [Collection.dropStacks, Collection.dropStack, Dialogue.request_bind,
      Dialogue.run_ask, answerCollection, inductionHypothesis]
    rfl

/-- A collection exports every pair of the table of counts with its frames, empties
the table, and frees the stacks that it used, or all of them. -/
theorem collect_eq (session : Session) :
    session.collect =
      (session.counts.pairs.map (exportedSample session.stackStore),
        { session with
          rounds := session.rounds + 1
          counts := session.counts.drain.2
          stackStore := session.stacksAfter (usedBuckets session.counts.pairs []) }) := by
  have drained := session.counts.drain_eq
  simp only [collect, Collection.collect, Collection.beginRound, Collection.listKeys,
    Dialogue.request_bind, Dialogue.run_ask, answerCollection, Dialogue.run_bind, run_takeCounts,
    run_resolveAll]
  simp only [BoundedMap.drain] at drained
  simp only [drained, stacksAfter, BoundedMap.drain]
  split
  · rfl
  · simp only [Dialogue.run_bind, run_dropStacks, Dialogue.pure_eq_done, Dialogue.run_done]

/-- After a collection no key is counted. -/
theorem counts_collect (session : Session) (key : SampleKey) :
    session.collect.2.counts.get? key = none := by
  simp [collect_eq, BoundedMap.drain_eq, BoundedMap.get?]

/-- A collection fills no bucket. -/
theorem occupied_of_collect (session : Session) (id : UInt32) (bucket : StackBucket)
    (left : session.collect.2.stackStore.occupied.lookup id = some bucket) :
    session.stackStore.occupied.lookup id = some bucket := by
  simp only [collect_eq, stacksAfter] at left
  split at left
  · simp [StackStore.clear] at left
  · exact session.stackStore.occupied_of_removeAll _ id bucket left

/-- The exported samples are those of the counted keys, each with its count. -/
theorem mem_collect_iff (session : Session) (sample : ProfileSample) :
    sample ∈ session.collect.1 ↔
      session.counts.get? sample.key = some sample.count ∧
        sample.kernelFrames = session.stackStore.framesOf sample.key.kernelStack ∧
        sample.userFrames = session.stackStore.framesOf sample.key.userStack := by
  obtain ⟨key, count, kernelFrames, userFrames⟩ := sample
  simp only [collect_eq, List.mem_map, BoundedMap.get?, BoundedMap.pairs,
    Entries.lookup_eq_some_iff, exportedSample, ProfileSample.mk.injEq, Prod.exists]
  constructor
  · rintro ⟨_, _, listed, rfl, rfl, rfl, rfl⟩
    exact ⟨listed, rfl, rfl⟩
  · rintro ⟨listed, rfl, rfl⟩
    exact ⟨key, count, listed, rfl, rfl, rfl, rfl⟩

/-- One collection exports no key twice. -/
theorem nodup_collect_keys (session : Session) :
    (session.collect.1.map ProfileSample.key).Nodup := by
  have keys : session.collect.1.map ProfileSample.key = session.counts.keys := by
    simp [collect_eq, exportedSample, BoundedMap.pairs, BoundedMap.keys, Entries.keys,
      Function.comp_def]
  rw [keys]
  exact session.counts.entries.distinct

end Session
end SamplingProfiler
