import SamplingProfiler.Proofs.Runs

/-!
# Attribution of stacks

A sample names its stacks by ids, an id is a part of a hash, and stacks of one hash
count as the same stack. What is exported for a sample is what its buckets hold when
the sample is collected. The main statement here is that this is right: on every side
that has an id, the exported frames have the hash of the stack of every tick counted
into the sample, and they are its innermost frames if no other stack of the run has
this hash.

Two facts carry it. A bucket that a counted key names stays occupied, with the same
content, until the key is collected. And what a bucket holds was captured from a tick
of the run.

A side without an id exports no frames, whatever the stacks of its ticks were. This
is so for a side that is not wanted, and also where a capture is refused because
another stack holds the bucket.
-/

namespace SamplingProfiler
namespace Session

/-- A tick is counted under the key whose count it changes. -/
def CountedUnder (session : Session) (task : Task) (key : SampleKey) : Prop :=
  (session.sample task).2.counts.get? key ≠ session.counts.get? key

/-- The stacks of the ticks of a run, cut down to the depth limit. -/
def sampledStacks (events : List SessionEvent) : List (List UInt64) :=
  events.flatMap fun
    | .sampled task =>
      [StackStore.innermost task.kernelStack, StackStore.innermost task.userStack]
    | _ => []

/-- No two different stacks have the same hash. -/
def HashesApart (captured : List (List UInt64)) : Prop :=
  ∀ first ∈ captured, ∀ second ∈ captured,
    StackStore.hashFrames first = StackStore.hashFrames second → first = second

/-- An id holds a stack: it names a bucket that is occupied under the stack's hash. -/
def Holds (store : StackStore) (id : Int) (frames : List UInt64) : Prop :=
  ∃ bucketId bucket, id = (UInt32.toNat bucketId : Int) ∧
    store.occupied.lookup bucketId = some bucket ∧
    bucket.hash = StackStore.hashFrames (StackStore.innermost frames)

/-- An id of a key says that its side was not collected, or holds some stack. -/
def Resolves (store : StackStore) (id : Int) : Prop :=
  id = SampleKey.notCollected ∨ ∃ frames, Holds store id frames

/-- What is exported for a side, of a tick that was counted into the sample.

If the side has an id, it is a stack of the same hash as that of the tick, and the
stack of the tick if hashes tell the stacks of the run apart. If it has none, nothing
is exported, and the tick's side was not wanted or its capture refused. -/
def SideAttributed (events : List SessionEvent) (wanted : Bool) (store : StackStore) (id : Int)
    (exported stack : List UInt64) : Prop :=
  if 0 ≤ id then
    StackStore.hashFrames exported = StackStore.hashFrames (StackStore.innermost stack) ∧
      (HashesApart (sampledStacks events) → exported = StackStore.innermost stack)
  else exported = [] ∧ (wanted = false ∨ store.Refuses stack)

/-- The link between the counts and the stacks: buckets are as captures leave them,
and every id of a counted key resolves. -/
structure Attributed (session : Session) : Prop where
  consistent : session.counts.Consistent
  kept : session.stackStore.AllKept
  resolves : ∀ key count, session.counts.get? key = some count →
    Resolves session.stackStore key.kernelStack ∧ Resolves session.stackStore key.userStack

/-- Every occupied bucket of the first store is occupied by the same stack in the
second. -/
def Extends (before after : StackStore) : Prop :=
  ∀ id bucket, before.occupied.lookup id = some bucket → after.occupied.lookup id = some bucket

/-- An id goes on holding its stack while occupied buckets stay as they are. -/
theorem Holds.persists {before after : StackStore} {id : Int} {frames : List UInt64}
    (holds : Holds before id frames) (extension : Extends before after) :
    Holds after id frames := by
  obtain ⟨bucketId, bucket, named, occupied, same⟩ := holds
  exact ⟨bucketId, bucket, named, extension bucketId bucket occupied, same⟩

/-- An id goes on resolving while occupied buckets stay as they are. -/
theorem Resolves.persists {before after : StackStore} {id : Int}
    (resolves : Resolves before id) (extension : Extends before after) : Resolves after id := by
  rcases resolves with uncollected | ⟨frames, holds⟩
  · exact .inl uncollected
  · exact .inr ⟨frames, holds.persists extension⟩

/-- An id that resolves stands for frames exactly if it is no negative number. -/
theorem Resolves.framesOf_ne_nil_iff {store : StackStore} {id : Int} (kept : store.AllKept)
    (resolves : Resolves store id) : store.framesOf id ≠ [] ↔ 0 ≤ id := by
  rcases resolves with rfl | ⟨frames, bucketId, bucket, rfl, occupied, same⟩
  · simp [StackStore.framesOf_negative, SampleKey.notCollected]
  · have nonempty := (kept bucketId bucket occupied).nonempty
    simp [store.framesOf_occupied bucketId bucket occupied, nonempty]

/-- An id that resolves stands for no more frames than the depth limit says. -/
theorem Resolves.length_framesOf {store : StackStore} {id : Int} (kept : store.AllKept)
    (resolves : Resolves store id) : (store.framesOf id).length ≤ Limits.stackDepth := by
  rcases resolves with rfl | ⟨frames, bucketId, bucket, rfl, occupied, same⟩
  · simp [StackStore.framesOf_negative, SampleKey.notCollected]
  · rw [store.framesOf_occupied bucketId bucket occupied]
    exact (kept bucketId bucket occupied).short

/-- An id stands for frames with the hash of the stack that it holds. -/
theorem Holds.hash_framesOf {store : StackStore} {id : Int} {frames : List UInt64}
    (kept : store.AllKept) (holds : Holds store id frames) :
    StackStore.hashFrames (store.framesOf id) =
      StackStore.hashFrames (StackStore.innermost frames) := by
  obtain ⟨bucketId, bucket, rfl, occupied, same⟩ := holds
  rw [store.framesOf_occupied bucketId bucket occupied, ← same]
  exact (kept bucketId bucket occupied).hashed.symm

namespace SideTaken

variable {wanted : Bool} {before after : StackStore} {frames : List UInt64} {id : Int}

/-- Taking a side keeps occupied buckets as they are. -/
theorem persists (taken : SideTaken wanted before frames id after) : Extends before after := by
  cases taken with
  | unwanted => exact fun _ _ occupied => occupied
  | refused => exact fun _ _ occupied => occupied
  | collected _ _ stored captured => exact captured.persists

/-- Taking a side keeps buckets as captures leave them. -/
theorem allKept (taken : SideTaken wanted before frames id after) (kept : before.AllKept) :
    after.AllKept := by
  cases taken with
  | unwanted => exact kept
  | refused => exact kept
  | collected _ _ stored captured => exact captured.allKept kept

/-- A side that was collected has an id that holds its stack. -/
theorem holds (taken : SideTaken wanted before frames id after) (stored : 0 ≤ id) :
    Holds after id frames := by
  cases taken with
  | unwanted => cases stored
  | refused => cases stored
  | collected _ _ _ captured => exact captured.occupied stored

/-- A side without an id was not wanted, or its capture refused. -/
theorem missing (taken : SideTaken wanted before frames id after) (negative : id < 0) :
    wanted = false ∨ before.Refuses frames := by
  cases taken with
  | unwanted skipped => exact .inl skipped
  | refused reason => exact .inr reason
  | collected _ _ stored => omega

/-- The id of a side resolves once the side is taken. -/
theorem resolves (taken : SideTaken wanted before frames id after) : Resolves after id := by
  cases taken with
  | unwanted => exact .inl rfl
  | refused => exact .inl rfl
  | collected _ _ stored captured => exact .inr ⟨frames, captured.occupied stored⟩

/-- What a bucket holds after a side is taken it held before, or it is the stack of
that side. -/
theorem origin (taken : SideTaken wanted before frames id after) (bucketId : UInt32)
    (bucket : StackBucket) (occupied : after.occupied.lookup bucketId = some bucket) :
    before.occupied.lookup bucketId = some bucket ∨
      bucket.frames = StackStore.innermost frames := by
  cases taken with
  | unwanted => exact .inl occupied
  | refused => exact .inl occupied
  | collected _ _ stored captured =>
    rcases captured.origin bucketId bucket occupied with earlier | ⟨nonempty, rfl⟩
    · exact .inl earlier
    · exact .inr rfl

end SideTaken

/-- The kernel's side of a tick is taken first. -/
theorem tick_kernelSide (session : Session) (task : Task) (policy : Policy) :
    SideTaken policy.collectsKernel session.stackStore task.kernelStack
      (session.tickKey task policy).kernelStack
      (session.afterKernelSide task policy).stackStore :=
  session.captureSide_kernel task policy.collectsKernel

/-- The side of user space of a tick is taken after the kernel's. -/
theorem tick_userSide (session : Session) (task : Task) (policy : Policy) :
    SideTaken policy.collectsUser (session.afterKernelSide task policy).stackStore task.userStack
      (session.tickKey task policy).userStack (session.afterCaptures task policy).stackStore :=
  (session.afterKernelSide task policy).captureSide_user task policy.collectsUser

/-- A key that is there after another was counted is that one, or was there before. -/
theorem KeyCounted.earlier {counts next : BoundedMap SampleKey UInt32} {key tested : SampleKey}
    {outcome : Outcome} (counted : KeyCounted counts key outcome next) (count : UInt32)
    (present : next.get? tested = some count) :
    tested = key ∨ counts.get? tested = some count := by
  by_cases same : tested = key
  · exact .inl same
  · right
    cases counted with
    | raised =>
      simpa only [BoundedMap.get?, Entries.lookup_set, same, if_false] using present
    | written =>
      simpa only [BoundedMap.get?, Entries.lookup_set, same, if_false] using present
    | refused => exact present

/-- Counting a key changes the count of no other. -/
theorem KeyCounted.unchanged {counts next : BoundedMap SampleKey UInt32} {key tested : SampleKey}
    {outcome : Outcome} (counted : KeyCounted counts key outcome next) (other : tested ≠ key) :
    next.get? tested = counts.get? tested := by
  cases counted with
  | raised => simp only [BoundedMap.get?, Entries.lookup_set, other, if_false]
  | written => simp only [BoundedMap.get?, Entries.lookup_set, other, if_false]
  | refused => rfl

/-- Every event but a collection leaves occupied buckets as they are. -/
theorem extends_step (session : Session) (event : SessionEvent) (other : event ≠ .collected) :
    Extends session.stackStore (session.step event).stackStore := by
  generalize reached : session.step event = next
  cases reached ▸ session.step_effect event with
  | counted task policy _ _ ticked =>
    intro id bucket occupied
    have afterKernel := (session.tick_kernelSide task policy).persists id bucket occupied
    have afterBoth := (session.tick_userSide task policy).persists id bucket afterKernel
    rw [ticked]
    exact (session.counted_stacks task policy).symm ▸ afterBoth
  | collected => exact absurd rfl other
  | elsewhere _ _ _ _ same =>
    rw [same.stackStore]
    exact fun _ _ occupied => occupied

/-- Occupied buckets stay as they are until the next collection. -/
theorem extends_after (session : Session) (events : List SessionEvent)
    (uncollected : ∀ event ∈ events, event ≠ .collected) :
    Extends session.stackStore (session.after events).stackStore := by
  induction events generalizing session with
  | nil => exact fun _ _ occupied => occupied
  | cons event rest inductionHypothesis =>
    intro id bucket occupied
    have next := session.extends_step event (uncollected event (by simp)) id bucket occupied
    exact inductionHypothesis _ (fun other member => uncollected other (by simp [member]))
      id bucket next

/-- What a bucket holds after an event it held before, or a tick brought it. -/
theorem origin_step (session : Session) (event : SessionEvent) (id : UInt32)
    (bucket : StackBucket)
    (occupied : (session.step event).stackStore.occupied.lookup id = some bucket) :
    session.stackStore.occupied.lookup id = some bucket ∨
      bucket.frames ∈ sampledStacks [event] := by
  generalize reached : session.step event = next at occupied
  cases reached ▸ session.step_effect event with
  | counted task policy _ _ ticked =>
    rw [ticked] at occupied
    have afterBoth : (session.afterCaptures task policy).stackStore.occupied.lookup id =
        some bucket := session.counted_stacks task policy ▸ occupied
    rcases (session.tick_userSide task policy).origin id bucket afterBoth with afterKernel | user
    · rcases (session.tick_kernelSide task policy).origin id bucket afterKernel with
        earlier | kernel
      · exact .inl earlier
      · exact .inr (by simp [sampledStacks, kernel])
    · exact .inr (by simp [sampledStacks, user])
  | collected => exact .inl (session.occupied_of_collect id bucket occupied)
  | elsewhere _ _ _ _ same => exact .inl (same.stackStore ▸ occupied)

/-- What a bucket holds after a run it held before, or a tick of the run brought it. -/
theorem origin_after (session : Session) (events : List SessionEvent) (id : UInt32)
    (bucket : StackBucket)
    (occupied : (session.after events).stackStore.occupied.lookup id = some bucket) :
    session.stackStore.occupied.lookup id = some bucket ∨
      bucket.frames ∈ sampledStacks events := by
  induction events generalizing session with
  | nil => exact .inl occupied
  | cons event rest inductionHypothesis =>
    have split : sampledStacks (event :: rest) = sampledStacks [event] ++ sampledStacks rest := by
      simp [sampledStacks]
    rw [split, List.mem_append]
    rcases inductionHypothesis _ occupied with before | brought
    · rcases session.origin_step event id bucket before with earlier | brought
      · exact .inl earlier
      · exact .inr (.inl brought)
    · exact .inr (.inr brought)

/-- Every event keeps the link between the counts and the stacks.

A tick takes its sides before its key is counted, so the ids of its own key resolve,
and those of other keys go on to. A collection may free any bucket, but leaves no key
that could name it. -/
theorem attributed_step (session : Session) (event : SessionEvent)
    (attributed : session.Attributed) : (session.step event).Attributed := by
  have consistent := session.step_consistent event attributed.consistent
  generalize reached : session.step event = next at consistent
  cases reached ▸ session.step_effect event with
  | counted task policy _ _ ticked =>
    have kernel := session.tick_kernelSide task policy
    have user := session.tick_userSide task policy
    have afterwards : (session.sample task).2.stackStore =
        (session.afterCaptures task policy).stackStore := by
      rw [ticked]
      exact session.counted_stacks task policy
    refine ⟨consistent, ?_, ?_⟩
    · rw [afterwards]
      exact user.allKept (kernel.allKept attributed.kept)
    · intro key count present
      rw [ticked] at present
      rw [afterwards]
      have counted := session.counted_counts task policy attributed.consistent
      rcases counted.earlier count present with rfl | earlier
      · exact ⟨kernel.resolves.persists user.persists, user.resolves⟩
      · obtain ⟨kernelResolves, userResolves⟩ := attributed.resolves key count earlier
        exact ⟨(kernelResolves.persists kernel.persists).persists user.persists,
          (userResolves.persists kernel.persists).persists user.persists⟩
  | collected =>
    refine ⟨consistent, ?_, ?_⟩
    · intro id bucket occupied
      exact attributed.kept id bucket (session.occupied_of_collect id bucket occupied)
    · intro key count present
      rw [session.counts_collect key] at present
      cases present
  | elsewhere _ _ _ _ same =>
    refine ⟨consistent, same.stackStore ▸ attributed.kept, ?_⟩
    intro key count present
    rw [same.counts] at present
    rw [same.stackStore]
    exact attributed.resolves key count present

/-- In every run of a fresh session the counts and the stacks are linked. -/
theorem attributed_after (options : Options) (cpus : UInt32) (events : List SessionEvent) :
    ((ofOptions options cpus).after events).Attributed := by
  refine after_preserves Attributed attributed_step _ events ⟨?_, ?_, ?_⟩
  · exact BoundedMap.consistent_ofCapacity _
  · intro id bucket occupied
    cases occupied
  · intro key count present
    cases present

/-- A tick that changes the count of a key is counted under a policy, and the key is
the one built for it. -/
theorem tickKey_of_countedUnder (session : Session) (task : Task) (key : SampleKey)
    (consistent : session.counts.Consistent) (countedUnder : CountedUnder session task key) :
    ∃ policy, session.policies.get? task.pid = some policy ∧
      key = session.tickKey task policy ∧
      (session.step (.sampled task)).stackStore =
        (session.afterCaptures task policy).stackStore := by
  cases session.step_effect (.sampled task) with
  | counted _ policy _ known ticked =>
    have counted := session.counted_counts task policy consistent
    refine ⟨policy, known, ?_, ?_⟩
    · by_cases same : key = session.tickKey task policy
      · exact same
      · refine absurd ?_ countedUnder
        rw [ticked]
        exact counted.unchanged same
    · simp only [step, ticked]
      exact session.counted_stacks task policy
  | elsewhere _ _ _ _ unchanged =>
    have same : (session.sample task).2.counts = session.counts := unchanged.counts
    exact absurd (by rw [same]) countedUnder

/-- A side of a tick is attributed if the store, when the sample is collected, still
holds what it held after the side was taken. -/
theorem SideTaken.attributed {wanted : Bool} {before afterwards : StackStore}
    {stack : List UInt64} {id : Int} (taken : SideTaken wanted before stack id afterwards)
    (options : Options) (cpus : UInt32) (events : List SessionEvent)
    (sampled : StackStore.innermost stack ∈ sampledStacks events)
    (extension : Extends afterwards ((ofOptions options cpus).after events).stackStore) :
    SideAttributed events wanted before id
      (((ofOptions options cpus).after events).stackStore.framesOf id) stack := by
  by_cases stored : 0 ≤ id
  · simp only [SideAttributed, stored, if_true]
    have holds := (taken.holds stored).persists extension
    have same := holds.hash_framesOf (attributed_after options cpus events).kept
    refine ⟨same, ?_⟩
    intro apart
    obtain ⟨bucketId, bucket, rfl, occupied, _⟩ := holds
    rw [StackStore.framesOf_occupied _ bucketId bucket occupied] at same ⊢
    rcases origin_after _ events bucketId bucket occupied with initial | brought
    · cases initial
    · exact apart _ brought _ sampled same
  · simp only [SideAttributed, stored, if_false]
    have negative : id < 0 := by omega
    exact ⟨StackStore.framesOf_negative _ id negative, taken.missing negative⟩

/-- Exported frames are those of the ticks. In every run of a fresh session, a sample
has frames on exactly the sides with an id, at most as many as the depth limit says.
On such a side they have the hash of the stack of every tick that was counted into
the sample since the last collection, and if the stacks of the run have different
hashes, they are the innermost frames of every such tick. Where a side has no id, it
was not wanted for any such tick, or its capture was refused.

A tick's ids hold its stacks when it is counted. No bucket that is occupied then is
changed before the next collection, so they still do when the sample is collected. -/
theorem exported_frames_are_those_of_the_ticks (options : Options) (cpus : UInt32)
    (events : List SessionEvent) (sample : ProfileSample)
    (exported : sample ∈ ((ofOptions options cpus).after events).collect.1) :
    ((sample.kernelFrames ≠ [] ↔ 0 ≤ sample.key.kernelStack) ∧
      (sample.userFrames ≠ [] ↔ 0 ≤ sample.key.userStack)) ∧
    (sample.kernelFrames.length ≤ Limits.stackDepth ∧
      sample.userFrames.length ≤ Limits.stackDepth) ∧
    ∀ earlier task later, events = earlier ++ .sampled task :: later →
      (∀ event ∈ later, event ≠ .collected) →
      CountedUnder ((ofOptions options cpus).after earlier) task sample.key →
      ∃ policy, ((ofOptions options cpus).after earlier).policies.get? task.pid = some policy ∧
        SideAttributed events policy.collectsKernel
          ((ofOptions options cpus).after earlier).stackStore
          sample.key.kernelStack sample.kernelFrames task.kernelStack ∧
        SideAttributed events policy.collectsUser
          (((ofOptions options cpus).after earlier).afterKernelSide task policy).stackStore
          sample.key.userStack sample.userFrames task.userStack := by
  obtain ⟨present, kernelFrames, userFrames⟩ := (mem_collect_iff _ sample).mp exported
  have attributed := attributed_after options cpus events
  obtain ⟨kernelResolves, userResolves⟩ := attributed.resolves sample.key sample.count present
  rw [kernelFrames, userFrames]
  refine ⟨⟨kernelResolves.framesOf_ne_nil_iff attributed.kept,
      userResolves.framesOf_ne_nil_iff attributed.kept⟩,
    ⟨kernelResolves.length_framesOf attributed.kept,
      userResolves.length_framesOf attributed.kept⟩, ?_⟩
  intro earlier task later split uncollected countedUnder
  generalize start : (ofOptions options cpus).after earlier = before at countedUnder ⊢
  obtain ⟨policy, known, same, afterwards⟩ := tickKey_of_countedUnder before task sample.key
    (start ▸ consistent_after options cpus earlier) countedUnder
  have kernel := before.tick_kernelSide task policy
  have user := before.tick_userSide task policy
  have reached : (ofOptions options cpus).after events =
      (before.step (.sampled task)).after later := by
    rw [split, after_append, after_cons, start]
  have extension : Extends (before.afterCaptures task policy).stackStore
      ((ofOptions options cpus).after events).stackStore := by
    rw [reached, ← afterwards]
    exact extends_after _ later uncollected
  have kernelSampled : StackStore.innermost task.kernelStack ∈ sampledStacks events := by
    simp [split, sampledStacks]
  have userSampled : StackStore.innermost task.userStack ∈ sampledStacks events := by
    simp [split, sampledStacks]
  rw [same]
  refine ⟨policy, known, ?_, ?_⟩
  · exact kernel.attributed options cpus events kernelSampled
      fun id bucket occupied => extension id bucket (user.persists id bucket occupied)
  · exact user.attributed options cpus events userSampled extension

/-- Two buckets, and one processor. -/
def crowdedOptions : Options :=
  { Options.standard with profileMapsSize := 2, numCpus := 1 }

/-- Process 7 is to be sampled on the side of user space. -/
def userSideOnly : SessionEvent :=
  .policiesChanged fun policies =>
    (policies.insert 7 (Policy.ofKind .framePointers true false) UpdateFlags.any).2

/-- A tick of process 7 whose stack in user space has one frame. -/
def shallowTask (frame : UInt64) : Task :=
  (Task.ofPid 0 7).withStacks [] [frame]

/-- Two ticks whose stacks have different hashes and want the same bucket. -/
def crowdedRun : List SessionEvent :=
  [userSideOnly, .sampled (shallowTask 1), .sampled (shallowTask 3)]

/-- The sample of the first tick of the crowded run has its frames. -/
theorem first_crowded_tick_attributed :
    ⟨⟨7, 0, -1, 1⟩, 1, [], [1]⟩ ∈ ((ofOptions crowdedOptions 1).after crowdedRun).collect.1 ∧
      ∃ policy, ((ofOptions crowdedOptions 1).after [userSideOnly]).policies.get? 7 = some policy ∧
        SideAttributed crowdedRun policy.collectsUser
          (((ofOptions crowdedOptions 1).after [userSideOnly]).afterKernelSide (shallowTask 1)
            policy).stackStore 1 [1] [1] := by
  have exported : ⟨⟨7, 0, -1, 1⟩, 1, [], [1]⟩ ∈
      ((ofOptions crowdedOptions 1).after crowdedRun).collect.1 := by decide
  obtain ⟨_, _, attributed⟩ := exported_frames_are_those_of_the_ticks crowdedOptions 1 crowdedRun
    ⟨⟨7, 0, -1, 1⟩, 1, [], [1]⟩ exported
  have countedUnder : CountedUnder ((ofOptions crowdedOptions 1).after [userSideOnly])
      (shallowTask 1) ⟨7, 0, -1, 1⟩ := by
    unfold CountedUnder
    decide
  obtain ⟨policy, known, _, user⟩ := attributed [userSideOnly] (shallowTask 1)
    [.sampled (shallowTask 3)] rfl (by simp) countedUnder
  exact ⟨exported, policy, known, user⟩

/-- A stack that is not empty may be exported as no frames, although hashes tell the
stacks of the run apart: the second tick of the crowded run finds its bucket taken, and
is counted without an id. -/
theorem second_crowded_tick_unattributed :
    HashesApart (sampledStacks crowdedRun) ∧
    ∃ sample ∈ ((ofOptions crowdedOptions 1).after crowdedRun).collect.1,
      ∃ earlier task later, crowdedRun = earlier ++ .sampled task :: later ∧
        (∀ event ∈ later, event ≠ .collected) ∧
        CountedUnder ((ofOptions crowdedOptions 1).after earlier) task sample.key ∧
        StackStore.hashFrames sample.userFrames ≠
          StackStore.hashFrames (StackStore.innermost task.userStack) ∧
        sample.userFrames ≠ StackStore.innermost task.userStack := by
  refine ⟨?_, ⟨⟨7, 0, -1, -1⟩, 1, [], []⟩, by decide, [userSideOnly, .sampled (shallowTask 1)],
    shallowTask 3, [], rfl, by simp, ?_, by decide, by decide⟩
  · unfold HashesApart
    decide
  · unfold CountedUnder
    decide

end Session
end SamplingProfiler
