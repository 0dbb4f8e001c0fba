import SamplingProfiler.Profile
import SamplingProfiler.Tables.StackStore

/-!
# What a capture does to the stack store

The sampler captures with flags that skip nothing, compare by hash, and never give
a bucket over. Such a capture has three outcomes: it is refused, it finds its bucket
holding a stack of the same hash, or it finds its bucket free and fills it. Hence an
occupied bucket is left as it is by every later capture, until it is freed.

The kept frames of a bucket are related to a captured stack by their 32-bit hash
alone. Equality of the frames needs that no other stack has this hash.
-/

namespace SamplingProfiler

/-- A bucket as captures leave it: its hash is that of its frames, of which there is
at least one and at most the depth limit. -/
structure StackBucket.Kept (bucket : StackBucket) : Prop where
  hashed : bucket.hash = StackStore.hashFrames bucket.frames
  nonempty : bucket.frames ≠ []
  short : bucket.frames.length ≤ Limits.stackDepth

namespace StackStore

/-- What is kept of a stack of which nothing is skipped. -/
def innermost (frames : List UInt64) : List UInt64 :=
  frames.take Limits.stackDepth

/-- A captured stack as it is kept. -/
def keptBucket (frames : List UInt64) : StackBucket :=
  ⟨hashFrames (innermost frames), innermost frames⟩

/-- The bucket of a captured stack. -/
def bucketOf (store : StackStore) (frames : List UInt64) : UInt32 :=
  hashFrames (innermost frames) &&& store.mask

/-- The frames that an id stands for; none for an id that names no occupied bucket. -/
def framesOf (store : StackStore) (id : Int) : List UInt64 :=
  ((ProfileSample.bucket? id).bind store.lookup).getD []

/-- Every occupied bucket is as captures leave it. -/
def AllKept (store : StackStore) : Prop :=
  ∀ id bucket, store.occupied.lookup id = some bucket → bucket.Kept

/-- Flags that skip no frame, compare by hash and give no bucket over. -/
structure PlainFlags (flags : UInt64) : Prop where
  valid : flags &&& ~~~StackFlags.valid = 0
  unskipped : skipCount flags = 0
  fast : flags &&& StackFlags.fastCompare ≠ 0
  careful : flags &&& StackFlags.reuse = 0

/-- Both captures of the sampler are plain. -/
theorem plain_kernelSide : PlainFlags StackFlags.kernelSide := by
  constructor <;> decide

/-- Both captures of the sampler are plain. -/
theorem plain_userSide : PlainFlags StackFlags.userSide := by
  constructor <;> decide

/-- Why a plain capture is refused: there are no frames, or no such bucket, or the
bucket holds a stack with another hash. -/
def Refuses (store : StackStore) (frames : List UInt64) : Prop :=
  frames = [] ∨ store.bucketCount ≤ store.bucketOf frames ∨
    ∃ bucket, store.occupied.lookup (store.bucketOf frames) = some bucket ∧
      bucket.hash ≠ hashFrames (innermost frames)

/-- What a plain capture of a stack answers, and what it leaves behind. -/
inductive Captured (store : StackStore) (frames : List UInt64) : Int → StackStore → Prop where
  | refused (number : Int) (negative : number < 0) (reason : store.Refuses frames) :
      Captured store frames number store
  | shared (bucket : StackBucket) (nonempty : frames ≠ [])
      (found : store.occupied.lookup (store.bucketOf frames) = some bucket)
      (same : bucket.hash = hashFrames (innermost frames)) :
      Captured store frames (store.bucketOf frames).toNat store
  | filled (nonempty : frames ≠ [])
      (free : store.occupied.lookup (store.bucketOf frames) = none) :
      Captured store frames (store.bucketOf frames).toNat
        { store with
          occupied := store.occupied.set (store.bucketOf frames) (keptBucket frames) }

/-- The answer to a storing, as a capture gives it. -/
def answered : Except TableError UInt32 × StackStore → Int × StackStore
  | (.ok id, next) => (id.toNat, next)
  | (.error refusal, next) => (refusal.number, next)

/-- A capture stores the side that its flags name. -/
theorem capture_eq (store : StackStore) (kernel user : List UInt64) (flags : UInt64) :
    store.capture kernel user flags =
      answered (store.store (if flags &&& StackFlags.user != 0 then user else kernel) flags) := by
  simp only [capture]
  generalize store.store (if flags &&& StackFlags.user != 0 then user else kernel) flags = reply
  obtain ⟨result, next⟩ := reply
  cases result <;> rfl

/-- Storing with plain flags has one of the three outcomes.

Follow the checks of the store: first the frames, then the range of the bucket, then
what the bucket holds. A taken bucket decides by its hash. -/
theorem store_captured (store : StackStore) (frames : List UInt64) (flags : UInt64)
    (plain : PlainFlags flags) :
    Captured store frames (answered (store.store frames flags)).1
      (answered (store.store frames flags)).2 := by
  have kept : keptFrames frames 0 = innermost frames := by simp [keptFrames, innermost]
  have negative (reason : TableError) : (answered (.error reason, store)).1 < 0 :=
    TableError.number_negative reason
  simp only [StackStore.store, plain.valid, plain.unskipped, bne_self_eq_false,
    Bool.false_eq_true, if_false, UInt64.toNat_zero, Nat.le_zero_eq, List.length_eq_zero_iff, kept]
  by_cases vacant : frames = []
  · simp only [vacant, if_true]
    exact .refused _ (negative _) (.inl rfl)
  · simp only [vacant, if_false, place]
    by_cases outside : store.bucketCount ≤ hashFrames (innermost frames) &&& store.mask
    · simp only [outside, if_true]
      exact .refused _ (negative _) (.inr (.inl outside))
    · simp only [outside, if_false]
      cases found : store.occupied.lookup (hashFrames (innermost frames) &&& store.mask) with
      | none => exact .filled vacant found
      | some bucket =>
        by_cases same : bucket.hash = hashFrames (innermost frames)
        · have shared : sameStack bucket (hashFrames (innermost frames)) (innermost frames)
              flags = true := by
            simp [sameStack, same, plain.fast]
          simp only [shared, if_true]
          exact .shared bucket vacant found same
        · have different : sameStack bucket (hashFrames (innermost frames)) (innermost frames)
              flags = false := by
            simp [sameStack, same]
          simp only [different, Bool.false_eq_true, if_false, plain.careful, if_true]
          exact .refused _ (negative _) (.inr (.inr ⟨bucket, found, same⟩))

/-- A capture of the kernel's side captures the kernel's frames. -/
theorem capture_kernelSide (store : StackStore) (kernel user : List UInt64) :
    Captured store kernel (store.capture kernel user StackFlags.kernelSide).1
      (store.capture kernel user StackFlags.kernelSide).2 := by
  have side : (StackFlags.kernelSide &&& StackFlags.user != 0) = false := by decide
  simp only [capture_eq, side, Bool.false_eq_true, if_false]
  exact store_captured store kernel _ plain_kernelSide

/-- A capture of the side of user space captures the frames of user space. -/
theorem capture_userSide (store : StackStore) (kernel user : List UInt64) :
    Captured store user (store.capture kernel user StackFlags.userSide).1
      (store.capture kernel user StackFlags.userSide).2 := by
  have side : (StackFlags.userSide &&& StackFlags.user != 0) = true := by decide
  simp only [capture_eq, side, if_true]
  exact store_captured store user _ plain_userSide

namespace Captured

variable {store next : StackStore} {frames : List UInt64} {number : Int}

/-- An occupied bucket keeps its content. -/
theorem persists (captured : Captured store frames number next) (id : UInt32)
    (bucket : StackBucket) (occupied : store.occupied.lookup id = some bucket) :
    next.occupied.lookup id = some bucket := by
  cases captured with
  | refused => exact occupied
  | shared => exact occupied
  | filled nonempty free =>
    have different : id ≠ store.bucketOf frames := by
      intro same
      rw [same, free] at occupied
      cases occupied
    simpa only [Entries.lookup_set, different, if_false] using occupied

/-- What a bucket holds afterwards it held before, or it is the captured stack. -/
theorem origin (captured : Captured store frames number next) (id : UInt32)
    (bucket : StackBucket) (occupied : next.occupied.lookup id = some bucket) :
    store.occupied.lookup id = some bucket ∨
      (frames ≠ [] ∧ bucket = keptBucket frames) := by
  cases captured with
  | refused => exact .inl occupied
  | shared => exact .inl occupied
  | filled nonempty free =>
    rw [Entries.lookup_set] at occupied
    split at occupied
    · exact .inr ⟨nonempty, (Option.some.inj occupied).symm⟩
    · exact .inl occupied

/-- An id that is no error number names an occupied bucket with the hash of the
captured stack. -/
theorem occupied (captured : Captured store frames number next) (stored : 0 ≤ number) :
    ∃ id bucket, number = (id.toNat : Int) ∧ next.occupied.lookup id = some bucket ∧
      bucket.hash = hashFrames (innermost frames) := by
  cases captured with
  | refused negative => omega
  | shared bucket nonempty found same => exact ⟨_, bucket, rfl, found, same⟩
  | filled nonempty free =>
    exact ⟨_, keptBucket frames, rfl, by rw [Entries.lookup_set, if_pos rfl], rfl⟩

/-- Captures keep all buckets as captures leave them. -/
theorem allKept (captured : Captured store frames number next) (kept : store.AllKept) :
    next.AllKept := by
  intro id bucket occupied
  rcases captured.origin id bucket occupied with earlier | ⟨nonempty, rfl⟩
  · exact kept id bucket earlier
  · have depth : Limits.stackDepth ≠ 0 := by decide
    refine ⟨rfl, ?_, ?_⟩
    · simp [keptBucket, innermost, List.take_eq_nil_iff, nonempty, depth]
    · exact List.length_take_le _ _

end Captured

/-- An id names the bucket whose number it is. -/
theorem bucket?_eq_some_iff (id : Int) (bucketId : UInt32) :
    ProfileSample.bucket? id = some bucketId ↔ id = (bucketId.toNat : Int) := by
  have small := bucketId.toNat_lt
  simp only [ProfileSample.bucket?, UInt32.size]
  constructor
  · intro named
    split at named
    · rename_i inside
      have number : (UInt32.ofNat id.toNat).toNat = id.toNat :=
        UInt32.toNat_ofNat_of_lt' (by simp only [UInt32.size]; omega)
      rw [← Option.some.inj named, number]
      omega
    · cases named
  · rintro rfl
    rw [if_pos (by omega), Int.toNat_natCast, UInt32.ofNat_toNat]

/-- The number of a bucket, read as an id, names that bucket. -/
theorem bucket?_toNat (id : UInt32) : ProfileSample.bucket? (id.toNat : Int) = some id :=
  (bucket?_eq_some_iff _ id).mpr rfl

/-- An occupied bucket stands for its frames. -/
theorem framesOf_occupied (store : StackStore) (id : UInt32) (bucket : StackBucket)
    (occupied : store.occupied.lookup id = some bucket) :
    store.framesOf (id.toNat : Int) = bucket.frames := by
  simp [framesOf, bucket?_toNat, lookup, occupied]

/-- An id that is no word of 32 bits stands for no frames. -/
theorem framesOf_outside (store : StackStore) (id : Int) (outside : id < 0 ∨ UInt32.size ≤ id) :
    store.framesOf id = [] := by
  have unnamed : ¬ (0 ≤ id ∧ id < UInt32.size) := by omega
  rw [framesOf, ProfileSample.bucket?, if_neg unnamed]
  rfl

/-- A negative id stands for no frames. -/
theorem framesOf_negative (store : StackStore) (id : Int) (negative : id < 0) :
    store.framesOf id = [] :=
  store.framesOf_outside id (.inl negative)

end StackStore
end SamplingProfiler
