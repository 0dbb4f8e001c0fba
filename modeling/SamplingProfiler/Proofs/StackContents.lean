import SamplingProfiler.Proofs.Ticks

/-!
# The contents of the stack store

Captures only add stacks. As long as no two different stacks want the same bucket, no capture
is refused for want of one, so the store holds exactly the stacks that were captured: which
of them came first does not show. The id with which a capture is answered is then that of the
stack's own bucket.

All of this is said beside the store from which the captures started, of which only the number
of buckets matters.
-/

namespace SamplingProfiler
namespace StackStore

/-- A stack can be captured if it has a frame and there is a bucket for it. -/
def admits (store : StackStore) (frames : List UInt64) : Bool :=
  frames ≠ [] && decide (store.bucketOf frames < store.bucketCount)

/-- The stack of a side that is captured, if the side is wanted and its stack can be
captured. -/
def sideStacks (store : StackStore) (wanted : Bool) (frames : List UInt64) :
    List (List UInt64) :=
  if wanted && store.admits frames then [frames] else []

/-- The id of a side whose stack is not refused because of another one. -/
def sideId (store : StackStore) (wanted : Bool) (frames : List UInt64) : Int :=
  if wanted && store.admits frames then (store.bucketOf frames).toNat else SampleKey.notCollected

/-- No two stacks that differ in what is kept of them want the same bucket. -/
def BucketsApart (store : StackStore) (captures : List (List UInt64)) : Prop :=
  ∀ first ∈ captures, ∀ second ∈ captures,
    store.bucketOf first = store.bucketOf second → innermost first = innermost second

/-- A store with the buckets of another one holds these stacks, each in its bucket, and
nothing else. -/
structure HoldsExactly (base : StackStore) (captures : List (List UInt64)) (store : StackStore) :
    Prop where
  bucketCount : store.bucketCount = base.bucketCount
  occupied : ∀ id bucket, store.occupied.lookup id = some bucket ↔
    ∃ frames ∈ captures, base.bucketOf frames = id ∧ bucket = keptBucket frames

/-- Some of these stacks want different buckets if all of them do. -/
theorem BucketsApart.mono {store : StackStore} {fewer more : List (List UInt64)}
    (apart : store.BucketsApart more) (among : fewer ⊆ more) : store.BucketsApart fewer :=
  fun first memberFirst second memberSecond =>
    apart first (among memberFirst) second (among memberSecond)

/-- A store without stacks holds none. -/
theorem holdsExactly_of_unoccupied (store : StackStore)
    (unoccupied : ∀ id, store.occupied.lookup id = none) : HoldsExactly store [] store := by
  refine ⟨rfl, ?_⟩
  intro id bucket
  simp [unoccupied id]

/-- A plain capture that is answered with an id is one of a stack that can be captured. -/
theorem admits_of_stored (store : StackStore) (frames : List UInt64) (flags : UInt64)
    (plain : PlainFlags flags) (stored : 0 ≤ (answered (store.store frames flags)).1) :
    store.admits frames = true := by
  have negative (reason : TableError) : ¬ 0 ≤ (answered (.error reason, store)).1 :=
    Int.not_le.mpr (TableError.number_negative reason)
  have kept : keptFrames frames 0 = innermost frames := by simp [keptFrames, innermost]
  simp only [StackStore.store, plain.valid, plain.unskipped, bne_self_eq_false,
    Bool.false_eq_true, if_false, UInt64.toNat_zero, Nat.le_zero_eq, List.length_eq_zero_iff,
    kept] at stored
  by_cases vacant : frames = []
  · rw [if_pos vacant] at stored
    exact absurd stored (negative _)
  · rw [if_neg vacant] at stored
    by_cases outside : store.bucketCount ≤ hashFrames (innermost frames) &&& store.mask
    · rw [place, if_pos outside] at stored
      exact absurd stored (negative _)
    · simp [admits, vacant, bucketOf, UInt32.not_le.mp outside]

/-- The side that a plain capture names can be captured if it is answered with an id. -/
theorem capture_admits (store : StackStore) (kernel user : List UInt64) (flags : UInt64)
    (plain : PlainFlags flags) (stored : 0 ≤ (store.capture kernel user flags).1) :
    store.admits (if flags &&& StackFlags.user != 0 then user else kernel) = true := by
  rw [capture_eq] at stored
  exact store.admits_of_stored _ flags plain stored

section Capture

variable {base store next : StackStore} {captures : List (List UInt64)} {frames : List UInt64}
  {number : Int}

/-- Stores with as many buckets have the same bucket for a stack. -/
theorem HoldsExactly.bucketOf_eq (holds : HoldsExactly base captures store) (frames : List UInt64) :
    store.bucketOf frames = base.bucketOf frames := by
  simp only [bucketOf, mask, holds.bucketCount]

/-- Stores with as many buckets admit the same stacks. -/
theorem HoldsExactly.admits_eq (holds : HoldsExactly base captures store) (frames : List UInt64) :
    store.admits frames = base.admits frames := by
  simp only [admits, holds.bucketOf_eq, holds.bucketCount]

/-- A bucket that a stack wants holds that stack, or nothing. -/
theorem HoldsExactly.shared (holds : HoldsExactly base captures store)
    (apart : base.BucketsApart (captures ++ [frames])) {bucket : StackBucket}
    (found : store.occupied.lookup (store.bucketOf frames) = some bucket) :
    bucket = keptBucket frames := by
  obtain ⟨other, held, same, rfl⟩ := (holds.occupied _ bucket).mp found
  rw [holds.bucketOf_eq] at same
  have equal : innermost other = innermost frames :=
    apart other (List.mem_append_left _ held) frames (by simp) same
  simp only [keptBucket, equal]

/-- A store that gains at most the bucket of a stack, and has it then, holds that stack too. -/
theorem HoldsExactly.append (holds : HoldsExactly base captures store)
    (sameCount : next.bucketCount = store.bucketCount)
    (gained : ∀ id bucket, next.occupied.lookup id = some bucket ↔
      store.occupied.lookup id = some bucket ∨
        base.bucketOf frames = id ∧ bucket = keptBucket frames) :
    HoldsExactly base (captures ++ [frames]) next where
  bucketCount := sameCount.trans holds.bucketCount
  occupied id bucket := by
    rw [gained, holds.occupied]
    simp [or_and_right, exists_or]

/-- A capture of a stack that can be captured is answered with its bucket and adds it to the
stacks that are held.

It is not refused: there is a bucket for it, and the bucket holds no other stack. -/
theorem HoldsExactly.captured (holds : HoldsExactly base captures store)
    (captured : store.Captured frames number next) (admitted : base.admits frames = true)
    (apart : base.BucketsApart (captures ++ [frames])) :
    number = (base.bucketOf frames).toNat ∧ HoldsExactly base (captures ++ [frames]) next := by
  have admittedHere := (holds.admits_eq frames).trans admitted
  simp only [admits, Bool.and_eq_true, decide_eq_true_eq] at admittedHere
  obtain ⟨nonempty, inside⟩ := admittedHere
  cases captured with
  | refused _ negative reason =>
    exfalso
    rcases reason with vacant | outside | ⟨bucket, found, different⟩
    · exact nonempty vacant
    · exact absurd inside (UInt32.not_lt.mpr outside)
    · rw [holds.shared apart found] at different
      exact different rfl
  | shared bucket _ found same =>
    refine ⟨by rw [holds.bucketOf_eq], holds.append rfl ?_⟩
    intro id tested
    refine (or_iff_left_of_imp ?_).symm
    rintro ⟨rfl, rfl⟩
    rw [← holds.bucketOf_eq, found, holds.shared apart found]
  | filled _ free =>
    refine ⟨by rw [holds.bucketOf_eq], holds.append rfl ?_⟩
    intro id tested
    rw [holds.bucketOf_eq] at free
    rw [Entries.lookup_set, holds.bucketOf_eq]
    by_cases here : id = base.bucketOf frames
    · subst here
      simp [free, eq_comm]
    · simp [here, Ne.symm here]

/-- A capture of a stack that cannot be captured is refused and changes nothing. -/
theorem HoldsExactly.refused (holds : HoldsExactly base captures store)
    (captured : store.Captured frames number next)
    (stored : 0 ≤ number → store.admits frames = true) (unadmitted : base.admits frames = false) :
    number < 0 ∧ next = store := by
  have negative : number < 0 := by
    by_cases positive : 0 ≤ number
    · rw [← holds.admits_eq, stored positive] at unadmitted
      cases unadmitted
    · omega
  cases captured with
  | refused => exact ⟨negative, rfl⟩
  | shared => omega
  | filled => omega

/-- A side that is wanted is answered with its own id, and its stack is held afterwards if it
can be captured. -/
theorem HoldsExactly.side (holds : HoldsExactly base captures store)
    (captured : store.Captured frames number next)
    (stored : 0 ≤ number → store.admits frames = true)
    (apart : base.BucketsApart (captures ++ base.sideStacks true frames)) :
    Sampler.collectedStack number = base.sideId true frames ∧
      HoldsExactly base (captures ++ base.sideStacks true frames) next := by
  unfold Sampler.collectedStack
  cases admitted : base.admits frames with
  | true =>
    simp only [sideStacks, sideId, admitted, Bool.and_self, if_true] at apart ⊢
    obtain ⟨named, held⟩ := holds.captured captured admitted apart
    rw [named, if_neg (by omega)]
    exact ⟨rfl, held⟩
  | false =>
    obtain ⟨negative, same⟩ := holds.refused captured stored admitted
    simp only [sideStacks, sideId, admitted, Bool.and_false, Bool.false_eq_true, if_false,
      negative, if_true, List.append_nil, same]
    exact ⟨trivial, holds⟩

end Capture

/-- Stores that hold the same stacks, in whatever order they came, have the same buckets. -/
theorem HoldsExactly.lookup_eq {base first second : StackStore}
    {firstStacks secondStacks : List (List UInt64)} (holdsFirst : HoldsExactly base firstStacks first)
    (holdsSecond : HoldsExactly base secondStacks second)
    (same : firstStacks.Perm secondStacks) (id : UInt32) :
    first.occupied.lookup id = second.occupied.lookup id := by
  apply Option.ext
  intro bucket
  rw [holdsFirst.occupied, holdsSecond.occupied]
  simp only [same.mem_iff]

end StackStore
end SamplingProfiler
