import SamplingProfiler.Proofs.Attribution
import SamplingProfiler.Proofs.ProfileMaps

/-!
# References to stacks

A stack is kept for the sake of the keys that name it. As long as no tick is dropped, every
occupied bucket is a stack of some counted key: a tick captures its sides before its key is
counted, and the key names what was captured. So a collection, which frees the stacks of the
keys that it takes, leaves none behind, and it need not empty the store.

Only a tick whose key is refused leaves stacks that no key names. The next round that empties
the store puts that right.

The other direction needs no condition. The ids of counted keys name occupied buckets in
every run.
-/

namespace SamplingProfiler

/-- A table in which no key is found holds none. -/
theorem Entries.size_eq_zero {Key Value : Type} [DecidableEq Key] (entries : Entries Key Value)
    (empty : ∀ key, entries.lookup key = none) : entries.size = 0 := by
  rw [← entries.length_keys, List.length_eq_zero_iff, List.eq_nil_iff_forall_not_mem]
  intro key member
  rw [← entries.lookup_isSome_iff, empty] at member
  cases member

namespace Session

/-- One of the stacks of a key is in a bucket. -/
def Refers (key : SampleKey) (bucketId : UInt32) : Prop :=
  key.kernelStack = (bucketId.toNat : Int) ∨ key.userStack = (bucketId.toNat : Int)

/-- A bucket is that of one of the stacks of a counted key. -/
def Referenced (session : Session) (bucketId : UInt32) : Prop :=
  ∃ key count, session.counts.get? key = some count ∧ Refers key bucketId

/-- Every occupied bucket is one of the stacks of a counted key. -/
def AllReferenced (session : Session) : Prop :=
  ∀ bucketId bucket, session.stackStore.occupied.lookup bucketId = some bucket →
    ∃ key count, session.counts.get? key = some count ∧ Refers key bucketId

/-- How the ticks of a run end. -/
def sampleOutcomes (session : Session) (events : List SessionEvent) : List Outcome :=
  session.gathered (fun current event =>
    match event with
    | .sampled task => [(current.sample task).1]
    | _ => []) events

/-- The next collection empties the stack store. -/
def resetsNext (session : Session) : Bool :=
  Collection.isResetRound (session.rounds + 1) session.options.stacksResetInterval

/-- An id that resolves, and is no negative number, is that of an occupied bucket. -/
theorem Resolves.occupied {store : StackStore} {id : Int} (resolves : Resolves store id)
    (stored : 0 ≤ id) :
    ∃ bucketId bucket, id = (UInt32.toNat bucketId : Int) ∧
      store.occupied.lookup bucketId = some bucket := by
  rcases resolves with rfl | ⟨frames, bucketId, bucket, same, occupied, -⟩
  · cases stored
  · exact ⟨bucketId, bucket, same, occupied⟩

/-- The buckets that a collection uses are those of the stacks of counted keys. -/
theorem used_iff_referenced (session : Session) (bucketId : UInt32) :
    bucketId ∈ usedBuckets session.counts.pairs [] ↔ session.Referenced bucketId := by
  simp only [mem_usedBuckets, List.not_mem_nil, false_or, SampleKey.Names,
    StackStore.bucket?_eq_some_iff, Prod.exists, Referenced, Refers, BoundedMap.get?,
    BoundedMap.pairs, Entries.lookup_eq_some_iff]

/-- A bucket that is occupied after a side was taken was occupied before, or it is the one
whose id was given. -/
theorem SideTaken.given {wanted : Bool} {before after : StackStore} {frames : List UInt64}
    {id : Int} (taken : SideTaken wanted before frames id after) (bucketId : UInt32)
    (bucket : StackBucket) (occupied : after.occupied.lookup bucketId = some bucket) :
    before.occupied.lookup bucketId = some bucket ∨ id = (bucketId.toNat : Int) := by
  cases taken with
  | unwanted skipped => exact .inl occupied
  | refused reason => exact .inl occupied
  | collected _ _ stored captured =>
    cases captured with
    | refused negative => exact .inl occupied
    | shared => exact .inl occupied
    | filled nonempty free =>
      rw [Entries.lookup_set] at occupied
      split at occupied
      · rename_i here
        exact .inr (by rw [here])
      · exact .inl occupied

/-- A key that is counted stays counted when another is. -/
theorem KeyCounted.keeps {counts next : BoundedMap SampleKey UInt32} {key tested : SampleKey}
    {outcome : Outcome} (counted : KeyCounted counts key outcome next) {count : UInt32}
    (present : counts.get? tested = some count) : ∃ later, next.get? tested = some later := by
  by_cases same : tested = key
  · subst same
    cases counted with
    | raised earlier found =>
      exact ⟨earlier + 1, by simp only [BoundedMap.get?, Entries.lookup_set, if_true]⟩
    | written absent room => simp [absent] at present
    | refused absent full => simp [absent] at present
  · exact ⟨count, (counted.unchanged same).trans present⟩

/-- A key is counted unless it was refused. -/
theorem KeyCounted.counts_key {counts next : BoundedMap SampleKey UInt32} {key : SampleKey}
    {outcome : Outcome} (counted : KeyCounted counts key outcome next)
    (accepted : outcome ≠ .sampleKeyRace) : ∃ count, next.get? key = some count := by
  cases counted with
  | raised earlier found =>
    exact ⟨earlier + 1, by simp only [BoundedMap.get?, Entries.lookup_set, if_true]⟩
  | written absent room =>
    exact ⟨1, by simp only [BoundedMap.get?, Entries.lookup_set, if_true]⟩
  | refused => exact absurd rfl accepted

/-- A round that empties the store leaves no bucket occupied. -/
theorem collect_resets (session : Session) (resets : session.resetsNext = true)
    (bucketId : UInt32) : session.collect.2.stackStore.occupied.lookup bucketId = none := by
  rw [resetsNext] at resets
  simp [collect_eq, stacksAfter, resets, StackStore.clear]

/-- A round that does not empty the store frees the buckets that it uses. -/
theorem collect_frees (session : Session) (waits : session.resetsNext = false)
    (bucketId : UInt32) :
    session.collect.2.stackStore.occupied.lookup bucketId =
      if bucketId ∈ usedBuckets session.counts.pairs [] then none
      else session.stackStore.occupied.lookup bucketId := by
  rw [resetsNext] at waits
  simp only [collect_eq, stacksAfter, waits, Bool.false_eq_true, if_false,
    StackStore.occupied_removeAll]

/-- Where every occupied bucket is a stack of a counted key, a collection leaves no bucket
occupied: it frees the stacks of every key. -/
theorem AllReferenced.collect {session : Session} (referenced : session.AllReferenced)
    (bucketId : UInt32) : session.collect.2.stackStore.occupied.lookup bucketId = none := by
  cases resets : session.resetsNext with
  | true => exact session.collect_resets resets bucketId
  | false =>
    rw [collect_frees session resets]
    split
    · rfl
    · rename_i unused
      rw [used_iff_referenced] at unused
      rw [Option.eq_none_iff_forall_ne_some]
      intro bucket occupied
      exact unused (referenced bucketId bucket occupied)

/-- Where no bucket is occupied, every occupied one is referred to. -/
theorem allReferenced_of_empty {session : Session}
    (empty : ∀ bucketId, session.stackStore.occupied.lookup bucketId = none) :
    session.AllReferenced := by
  intro bucketId bucket occupied
  rw [empty] at occupied
  cases occupied

/-- An event after which the ticks so far were not dropped keeps every occupied bucket a
stack of a counted key.

A tick occupies at most the buckets whose ids are in its own key, and that key is counted. A
collection leaves no bucket occupied. -/
theorem referenced_step (session : Session) (event : SessionEvent)
    (consistent : session.counts.Consistent)
    (undropped : ∀ task, event = .sampled task → (session.sample task).1 ≠ .sampleKeyRace)
    (referenced : session.AllReferenced) : (session.step event).AllReferenced := by
  generalize reached : session.step event = next
  cases reached ▸ session.step_effect event with
  | counted task policy eligible known ticked =>
    have counted := session.counted_counts task policy consistent
    have accepted := undropped task rfl
    rw [ticked] at accepted ⊢
    intro bucketId bucket occupied
    have afterBoth : (session.afterCaptures task policy).stackStore.occupied.lookup bucketId =
        some bucket := session.counted_stacks task policy ▸ occupied
    obtain ⟨count, present⟩ := counted.counts_key accepted
    rcases (session.tick_userSide task policy).given bucketId bucket afterBoth with
      afterKernel | user
    · rcases (session.tick_kernelSide task policy).given bucketId bucket afterKernel with
        earlier | kernel
      · obtain ⟨key, count, presentEarlier, refers⟩ := referenced bucketId bucket earlier
        obtain ⟨later, presentLater⟩ := counted.keeps presentEarlier
        exact ⟨key, later, presentLater, refers⟩
      · exact ⟨_, count, present, .inl kernel⟩
    · exact ⟨_, count, present, .inr user⟩
  | collected => exact allReferenced_of_empty referenced.collect
  | elsewhere _ _ other ineligible same =>
    intro bucketId bucket occupied
    rw [same.stackStore] at occupied
    rw [same.counts]
    exact referenced bucketId bucket occupied

/-- A run in which no tick is dropped keeps every occupied bucket a stack of a counted key.

Induct over the events. -/
theorem referenced_after (session : Session) (events : List SessionEvent)
    (consistent : session.counts.Consistent)
    (undropped : .sampleKeyRace ∉ session.sampleOutcomes events)
    (referenced : session.AllReferenced) : (session.after events).AllReferenced := by
  induction events generalizing session with
  | nil => exact referenced
  | cons event rest inductionHypothesis =>
    simp only [sampleOutcomes, gathered, List.mem_append, not_or] at undropped
    obtain ⟨first, remaining⟩ := undropped
    apply inductionHypothesis
    · exact session.step_consistent event consistent
    · exact remaining
    · apply session.referenced_step event consistent _ referenced
      rintro task rfl raced
      exact first (by simp [raced])

/-- No stack outlives its samples unless a sample was dropped. Take any run of a fresh
session in which no tick was dropped since the start, or since a round that emptied the
stack store. Every occupied bucket is one of the stacks of some counted key, and every id of
a counted key that is no negative number is that of an occupied bucket. So a collection
leaves no stack, whether or not it is its turn to empty the store. -/
theorem no_stack_outlives_its_samples (options : Options) (cpus : UInt32)
    (earlier later : List SessionEvent)
    (fresh : earlier = [] ∨ ∃ before, earlier = before ++ [.collected] ∧
      ((ofOptions options cpus).after before).resetsNext = true)
    (undropped : .sampleKeyRace ∉ ((ofOptions options cpus).after earlier).sampleOutcomes later) :
    let session := (ofOptions options cpus).after (earlier ++ later)
    (∀ bucketId bucket, session.stackStore.occupied.lookup bucketId = some bucket →
      ∃ key count, session.counts.get? key = some count ∧
        (key.kernelStack = (bucketId.toNat : Int) ∨ key.userStack = (bucketId.toNat : Int))) ∧
    (∀ key count, session.counts.get? key = some count →
      ∀ id, id = key.kernelStack ∨ id = key.userStack → 0 ≤ id →
        ∃ bucketId bucket, id = (UInt32.toNat bucketId : Int) ∧
          session.stackStore.occupied.lookup bucketId = some bucket) ∧
    session.collect.2.stackStore.size = 0 := by
  intro session
  have attributed : session.Attributed := attributed_after options cpus (earlier ++ later)
  have start : ((ofOptions options cpus).after earlier).AllReferenced := by
    rcases fresh with rfl | ⟨before, rfl, resets⟩
    · exact allReferenced_of_empty fun _ => rfl
    · rw [after_append]
      exact allReferenced_of_empty (collect_resets _ resets)
  have referenced : session.AllReferenced := by
    change ((ofOptions options cpus).after (earlier ++ later)).AllReferenced
    rw [after_append]
    exact referenced_after _ later (consistent_after options cpus earlier) undropped start
  refine ⟨referenced, ?_, Entries.size_eq_zero _ referenced.collect⟩
  intro key count present id named stored
  obtain ⟨kernel, user⟩ := attributed.resolves key count present
  rcases named with rfl | rfl
  · exact kernel.occupied stored
  · exact user.occupied stored

/-- Two buckets, two keys, one processor, and a store that is emptied in every second
round. -/
def resettingOptions : Options :=
  { crowdedOptions with stacksResetInterval := 2 }

/-- Two ticks fill the table of counts. A third one has its stack captured and is dropped.
Two collections follow, the second of which empties the store. -/
def droppingRun : List SessionEvent :=
  [userSideOnly, .sampled (shallowTask 1), .sampled (shallowTask 3), .sampled (shallowTask 4),
    .collected, .collected]

/-- The stack of a dropped tick outlives a collection, until the store is emptied. After that
two ticks are counted whose stacks are in both buckets, and the next collection leaves no
stack although it does not empty the store. -/
theorem dropped_stack_freed_by_reset :
    let fresh := ofOptions resettingOptions 1
    let later : List SessionEvent := [.sampled (shallowTask 4), .sampled (shallowTask 1)]
    let session := fresh.after (droppingRun ++ later)
    (fresh.after (droppingRun.take 5)).stackStore.size = 1 ∧
      .sampleKeyRace ∈ fresh.sampleOutcomes droppingRun ∧
      session.stackStore.size = 2 ∧ session.resetsNext = false ∧
      session.collect.2.stackStore.size = 0 := by
  dsimp only
  obtain ⟨-, -, empty⟩ := no_stack_outlives_its_samples resettingOptions 1 droppingRun
    [.sampled (shallowTask 4), .sampled (shallowTask 1)]
    (.inr ⟨droppingRun.take 5, rfl, by decide +kernel⟩) (by decide +kernel)
  refine ⟨?_, ?_, ?_, ?_, empty⟩
  · decide +kernel
  · decide +kernel
  · decide +kernel
  · decide +kernel

end Session
end SamplingProfiler
