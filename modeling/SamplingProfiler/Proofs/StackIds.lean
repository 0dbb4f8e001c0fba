import SamplingProfiler.Proofs.StackCaptures
import SamplingProfiler.Proofs.StackSizes

/-!
# Ids of stored stacks

The id of a stack is the bucket of its hash, whatever the store holds. Under an id that a
storing was answered with one finds the stack that was stored, unless hashes alone were
compared and a stack of the same hash was there before. It stays there until the bucket is
freed, or given over to a stack that may replace another one.

A storing has five outcomes, and `store_stored` says which. That every bucket holds a stack of
its own, and that a stack stays where it is, follow from these by induction over the requests.
Nothing is assumed about the hash.

Main statements:

* `sound_after` - the buckets of a store after any requests.
* `serveAll_lasting` - how long a stack is found under its id.
* `stack_ids_are_sound_and_stable` - both, for stores of at most 2 ^ 31 stacks.
-/

namespace SamplingProfiler

/-- What can be asked of a stack store. -/
inductive StackRequest where
  | store (frames : List UInt64) (flags : UInt64)
  | capture (kernel user : List UInt64) (flags : UInt64)
  | lookup (id : UInt32)
  | remove (id : UInt32)
  | clear
deriving DecidableEq, Repr

namespace StackStore

/-- What is kept of a stack that is stored with flags. -/
def keptOf (frames : List UInt64) (flags : UInt64) : List UInt64 :=
  keptFrames frames (skipCount flags).toNat

/-- The id of frames as they are kept. -/
def idOf (store : StackStore) (kept : List UInt64) : UInt32 :=
  hashFrames kept &&& store.mask

/-- The side of a stack that a capture with flags stores. -/
def sideOf (kernel user : List UInt64) (flags : UInt64) : List UInt64 :=
  if flags &&& StackFlags.user != 0 then user else kernel

/-- The store after a request. -/
def serve (store : StackStore) : StackRequest → StackStore
  | .store frames flags => (store.store frames flags).2
  | .capture kernel user flags => (store.capture kernel user flags).2
  | .lookup _ => store
  | .remove id => (store.remove id).2
  | .clear => store.clear

/-- The store after a list of requests. -/
def serveAll (store : StackStore) (requests : List StackRequest) : StackStore :=
  requests.foldl serve store

/-- A request after which a bucket may hold something else: it frees the bucket, or stores a
stack there that may replace another one. -/
def Endangers (base : StackStore) (id : UInt32) : StackRequest → Prop
  | .store frames flags =>
    flags &&& StackFlags.reuse ≠ 0 ∧ base.idOf (keptOf frames flags) = id
  | .capture kernel user flags =>
    flags &&& StackFlags.reuse ≠ 0 ∧ base.idOf (keptOf (sideOf kernel user flags) flags) = id
  | .lookup _ => False
  | .remove freed => freed = id
  | .clear => True

/-- The bucket of frames as they are kept. -/
def ownBucket (kept : List UInt64) : StackBucket :=
  ⟨hashFrames kept, kept⟩

/-- How storing a stack ends. It is refused for one of three reasons, or its bucket holds a
stack that counts as the same one, or it is put into its bucket. -/
inductive Stored (store : StackStore) (frames : List UInt64) (flags : UInt64) :
    Except TableError UInt32 → StackStore → Prop where
  | unknownFlags (unknown : flags &&& ~~~StackFlags.valid ≠ 0) :
      Stored store frames flags (.error (.invalidFlags flags)) store
  | skipped (short : frames.length ≤ (skipCount flags).toNat) :
      Stored store frames flags (.error (.noFrames (skipCount flags).toUInt32)) store
  | taken (bucket : StackBucket)
      (found : store.occupied.lookup (store.idOf (keptOf frames flags)) = some bucket)
      (different : sameStack bucket (hashFrames (keptOf frames flags)) (keptOf frames flags)
        flags = false)
      (careful : flags &&& StackFlags.reuse = 0) :
      Stored store frames flags (.error .keyExists) store
  | shared (bucket : StackBucket)
      (found : store.occupied.lookup (store.idOf (keptOf frames flags)) = some bucket)
      (same : sameStack bucket (hashFrames (keptOf frames flags)) (keptOf frames flags)
        flags = true) :
      Stored store frames flags (.ok (store.idOf (keptOf frames flags))) store
  | placed (enough : (skipCount flags).toNat < frames.length)
      (yielding : store.occupied.lookup (store.idOf (keptOf frames flags)) = none ∨
        flags &&& StackFlags.reuse ≠ 0) :
      Stored store frames flags (.ok (store.idOf (keptOf frames flags)))
        { store with
          occupied := store.occupied.set (store.idOf (keptOf frames flags))
            (ownBucket (keptOf frames flags)) }

/-- A store with buckets ends every storing in one of these ways.

Follow the checks of the store: the flags, then the frames, then what the bucket holds. -/
theorem store_stored (store : StackStore) (positive : 0 < store.bucketCount)
    (frames : List UInt64) (flags : UInt64) :
    Stored store frames flags (store.store frames flags).1 (store.store frames flags).2 := by
  have named : keptFrames frames (skipCount flags).toNat = keptOf frames flags := rfl
  have inside : ¬ store.bucketCount ≤ hashFrames (keptOf frames flags) &&& store.mask :=
    UInt32.not_le.mpr (store.masked_lt _ positive)
  simp only [StackStore.store, named]
  by_cases unknown : flags &&& ~~~StackFlags.valid = 0
  · simp only [unknown, bne_self_eq_false, Bool.false_eq_true, if_false]
    by_cases short : frames.length ≤ (skipCount flags).toNat
    · simp only [short, if_true]
      exact .skipped short
    · have enough : (skipCount flags).toNat < frames.length := Nat.lt_of_not_le short
      simp only [short, if_false, place, if_neg inside]
      cases found : store.occupied.lookup (hashFrames (keptOf frames flags) &&& store.mask) with
      | none => exact .placed enough (.inl found)
      | some bucket =>
        cases same : sameStack bucket (hashFrames (keptOf frames flags)) (keptOf frames flags)
          flags with
        | true =>
          simp only [same, if_true]
          exact .shared bucket found same
        | false =>
          simp only [same, Bool.false_eq_true, if_false]
          by_cases careful : flags &&& StackFlags.reuse = 0
          · simp only [careful, if_true]
            exact .taken bucket found same careful
          · simp only [careful, if_false]
            exact .placed enough (.inr careful)
  · have refused : (flags &&& ~~~StackFlags.valid != 0) = true := by simpa using unknown
    simp only [refused, if_true]
    exact .unknownFlags unknown

/-- A stack counts as the same one if its hash is the same, and its frames are unless only hashes
are compared. -/
theorem sameStack_iff (bucket : StackBucket) (hash : UInt32) (frames : List UInt64)
    (flags : UInt64) :
    sameStack bucket hash frames flags = true ↔
      bucket.hash = hash ∧ (flags &&& StackFlags.fastCompare ≠ 0 ∨ bucket.frames = frames) := by
  simp [sameStack]

/-- What is stored of a stack of which not every frame is skipped is kept as stacks should be. -/
theorem kept_ownBucket (frames : List UInt64) (flags : UInt64)
    (enough : (skipCount flags).toNat < frames.length) :
    (ownBucket (keptOf frames flags)).Kept := by
  have depth : Limits.stackDepth ≠ 0 := by decide
  constructor
  · rfl
  · simp [ownBucket, keptOf, keptFrames, List.take_eq_nil_iff, depth, enough]
  · exact List.length_take_le _ _

/-- A store with the buckets of another one, in which every occupied bucket holds a stack of its
own: there is at least one frame and at most as many as the depth limit says, the hash is that
of the frames, and masking it gives the bucket. -/
structure Sound (base store : StackStore) : Prop where
  sized : store.bucketCount = base.bucketCount
  addressed : ∀ id bucket, store.occupied.lookup id = some bucket →
    bucket.Kept ∧ bucket.hash &&& base.mask = id

section Serving

variable {base store next : StackStore} {frames : List UInt64} {flags : UInt64} {id : UInt32}
  {result : Except TableError UInt32}

/-- A store without stacks is sound. -/
theorem sound_ofCapacity (requested : UInt32) :
    Sound (ofCapacity requested) (ofCapacity requested) := by
  constructor
  · rfl
  · intro id bucket occupied
    cases occupied

/-- Stores with the same buckets give the same ids. -/
theorem Sound.idOf_eq (sound : Sound base store) (kept : List UInt64) :
    store.idOf kept = base.idOf kept := by
  simp only [idOf, mask, sound.sized]

/-- A storing leaves a sound store. -/
theorem Stored.sound (stored : Stored store frames flags result next)
    (sound : Sound base store) : Sound base next := by
  cases stored with
  | unknownFlags => exact sound
  | skipped => exact sound
  | taken => exact sound
  | shared => exact sound
  | placed enough =>
    refine ⟨sound.sized, ?_⟩
    intro id bucket occupied
    rw [Entries.lookup_set] at occupied
    split at occupied
    · rename_i here
      cases occupied
      exact ⟨kept_ownBucket frames flags enough, by rw [here, sound.idOf_eq]; rfl⟩
    · exact sound.addressed id bucket occupied

/-- A storing leaves an occupied bucket as it is, unless it may give it over to its own stack. -/
theorem Stored.lasting (stored : Stored store frames flags result next)
    (spared : ¬ (flags &&& StackFlags.reuse ≠ 0 ∧ store.idOf (keptOf frames flags) = id))
    {bucket : StackBucket} (occupied : store.occupied.lookup id = some bucket) :
    next.occupied.lookup id = some bucket := by
  cases stored with
  | unknownFlags => exact occupied
  | skipped => exact occupied
  | taken => exact occupied
  | shared => exact occupied
  | placed enough yielding =>
    rw [Entries.lookup_set, if_neg]
    · exact occupied
    · rintro rfl
      rcases yielding with free | replaces
      · rw [free] at occupied
        cases occupied
      · exact spared ⟨replaces, rfl⟩

/-- Under the id of a storing there is a stack with the hash of the stored one. It is that one,
unless only hashes were compared and it was there before. -/
theorem Stored.found (stored : Stored store frames flags (.ok id) next) :
    id = store.idOf (keptOf frames flags) ∧
      ∃ bucket, next.occupied.lookup id = some bucket ∧
        bucket.hash = hashFrames (keptOf frames flags) ∧
        (bucket.frames = keptOf frames flags ∨
          flags &&& StackFlags.fastCompare ≠ 0 ∧ store.occupied.lookup id = some bucket) := by
  cases stored with
  | shared bucket found same =>
    obtain ⟨hash, alike⟩ := (sameStack_iff _ _ _ _).mp same
    refine ⟨rfl, bucket, found, hash, ?_⟩
    rcases alike with fast | equal
    · exact .inr ⟨fast, found⟩
    · exact .inl equal
  | placed =>
    refine ⟨rfl, ownBucket (keptOf frames flags), ?_, rfl, .inl rfl⟩
    rw [Entries.lookup_set, if_pos rfl]

/-- A capture does to the store what storing its side does. -/
theorem capture_snd (store : StackStore) (kernel user : List UInt64) (flags : UInt64) :
    (store.capture kernel user flags).2 = (store.store (sideOf kernel user flags) flags).2 := by
  rw [capture_eq, ← sideOf]
  rcases store.store (sideOf kernel user flags) flags with ⟨_ | _, _⟩ <;> rfl

/-- Every request leaves a sound store. -/
theorem sound_serve (sound : Sound base store) (positive : 0 < base.bucketCount)
    (request : StackRequest) : Sound base (store.serve request) := by
  have stocked : 0 < store.bucketCount := sound.sized ▸ positive
  cases request with
  | store frames flags => exact (store.store_stored stocked frames flags).sound sound
  | capture kernel user flags =>
    rw [serve, capture_snd]
    exact (store.store_stored stocked _ flags).sound sound
  | lookup id => exact sound
  | remove freed =>
    refine ⟨sound.sized, ?_⟩
    intro id bucket occupied
    simp only [serve, remove, Entries.lookup_erase] at occupied
    split at occupied
    · cases occupied
    · exact sound.addressed id bucket occupied
  | clear =>
    refine ⟨sound.sized, ?_⟩
    intro id bucket occupied
    cases occupied

/-- Any requests leave a sound store. -/
theorem sound_after (sound : Sound base store) (positive : 0 < base.bucketCount)
    (requests : List StackRequest) : Sound base (store.serveAll requests) := by
  induction requests generalizing store with
  | nil => exact sound
  | cons request rest inductionHypothesis =>
    apply inductionHypothesis
    exact sound_serve sound positive request

/-- A request leaves an occupied bucket as it is that it does not endanger. -/
theorem serve_lasting (sound : Sound base store) (positive : 0 < base.bucketCount)
    (request : StackRequest) (spared : ¬ base.Endangers id request) {bucket : StackBucket}
    (occupied : store.occupied.lookup id = some bucket) :
    (store.serve request).occupied.lookup id = some bucket := by
  have stocked : 0 < store.bucketCount := sound.sized ▸ positive
  cases request with
  | store frames flags =>
    apply (store.store_stored stocked frames flags).lasting _ occupied
    rw [sound.idOf_eq]
    exact spared
  | capture kernel user flags =>
    rw [serve, capture_snd]
    apply (store.store_stored stocked _ flags).lasting _ occupied
    rw [sound.idOf_eq]
    exact spared
  | lookup looked => exact occupied
  | remove freed =>
    have other : id ≠ freed := fun same => spared same.symm
    rw [serve, remove, Entries.lookup_erase, if_neg other]
    exact occupied
  | clear => exact absurd trivial spared

/-- Requests leave an occupied bucket as it is that none of them endangers.

Induct over the requests; the store stays sound on the way. -/
theorem serveAll_lasting (sound : Sound base store) (positive : 0 < base.bucketCount)
    (requests : List StackRequest) (spared : ∀ request ∈ requests, ¬ base.Endangers id request)
    {bucket : StackBucket} (occupied : store.occupied.lookup id = some bucket) :
    (store.serveAll requests).occupied.lookup id = some bucket := by
  induction requests generalizing store with
  | nil => exact occupied
  | cons request rest inductionHypothesis =>
    obtain ⟨first, remaining⟩ := List.forall_mem_cons.mp spared
    apply inductionHypothesis (sound_serve sound positive request) remaining
    exact serve_lasting sound positive request first occupied

end Serving

/-- Flags under which frames are compared, and no stack replaces another one. -/
structure ExactFlags (flags : UInt64) : Prop where
  compares : flags &&& StackFlags.fastCompare = 0
  careful : flags &&& StackFlags.reuse = 0

/-- What it means that a storing was answered with an id. The id is one of the size that the
store tells, and depends on nothing but what is kept of the stack. Under it there are frames with
the hash of the stack, which are those that were stored unless only hashes were compared and
these frames were there already. They stay there as long as no request endangers them. -/
structure Accepts (base store : StackStore) (frames : List UInt64) (flags : UInt64)
    (id : UInt32) (next : StackStore) : Prop where
  inside : id < base.capacity
  own : id = base.idOf (keptOf frames flags)
  found : ∃ stack, next.lookup id = some stack ∧
    hashFrames stack = hashFrames (keptOf frames flags) ∧
    (stack = keptOf frames flags ∨
      flags &&& StackFlags.fastCompare ≠ 0 ∧ store.lookup id = some stack)
  lasting : ∀ later, (∀ request ∈ later, ¬ base.Endangers id request) →
    (next.serveAll later).lookup id = next.lookup id

/-- What it means that a storing was refused. Nothing has changed. The flags have an unknown bit,
or no frame is left after skipping, or the bucket holds a stack that does not count as the same
one and may not be replaced. -/
structure Declines (base store : StackStore) (frames : List UInt64) (flags : UInt64)
    (refusal : TableError) (next : StackStore) : Prop where
  unchanged : next = store
  reason : refusal = .invalidFlags flags ∧ flags &&& ~~~StackFlags.valid ≠ 0 ∨
    refusal = .noFrames (skipCount flags).toUInt32 ∧
      frames.length ≤ (skipCount flags).toNat ∨
    refusal = .keyExists ∧ flags &&& StackFlags.reuse = 0 ∧
      ∃ stack, store.lookup (base.idOf (keptOf frames flags)) = some stack ∧
        (hashFrames stack ≠ hashFrames (keptOf frames flags) ∨
          flags &&& StackFlags.fastCompare = 0 ∧ stack ≠ keptOf frames flags)

/-- What it means that a store answers storings as it should. -/
structure StoresSoundly (base store : StackStore) (frames : List UInt64) (flags : UInt64) :
    Prop where
  accepted : ∀ id, (store.store frames flags).1 = .ok id →
    Accepts base store frames flags id (store.store frames flags).2
  declined : ∀ refusal, (store.store frames flags).1 = .error refusal →
    Declines base store frames flags refusal (store.store frames flags).2

/-- What it means that a capture stores its side. Its answer is negative exactly if that is
refused, and then the number of the refusal; otherwise it is the id. -/
structure CapturesAlike (store : StackStore) (kernel user : List UInt64) (flags : UInt64) :
    Prop where
  negative_iff : (store.capture kernel user flags).1 < 0 ↔
    ∃ refusal, (store.store (sideOf kernel user flags) flags).1 = .error refusal
  refused : ∀ refusal, (store.store (sideOf kernel user flags) flags).1 = .error refusal →
    (store.capture kernel user flags).1 = refusal.number
  stored : ∀ id, (store.store (sideOf kernel user flags) flags).1 = .ok id →
    (store.capture kernel user flags).1 = id.toNat
  next : (store.capture kernel user flags).2 = (store.store (sideOf kernel user flags) flags).2

/-- What it means that ids tell stacks apart. Two storings that compare frames and replace
nothing are answered with the same id only for the same kept frames, if no request in between
endangers that id. -/
def TellsApart (base store : StackStore) : Prop :=
  ∀ first firstFlags later second secondFlags id,
    ExactFlags firstFlags → ExactFlags secondFlags →
    (∀ request ∈ later, ¬ base.Endangers id request) →
    (store.store first firstFlags).1 = .ok id →
    (((store.store first firstFlags).2.serveAll later).store second secondFlags).1 = .ok id →
    keptOf first firstFlags = keptOf second secondFlags

/-- A capture is answered as the storing of its side is. -/
theorem capturesAlike (store : StackStore) (kernel user : List UInt64) (flags : UInt64) :
    CapturesAlike store kernel user flags := by
  have next := store.capture_snd kernel user flags
  have answer := congrArg Prod.fst (store.capture_eq kernel user flags)
  rw [← sideOf] at answer
  rcases stored : store.store (sideOf kernel user flags) flags with ⟨result, last⟩
  rw [stored] at answer
  cases result with
  | error refusal =>
    have negative : refusal.number < 0 := refusal.number_negative
    constructor <;> simp_all [answered]
  | ok id => constructor <;> simp_all [answered]

section Answers

variable {base store : StackStore} (sound : Sound base store) (positive : 0 < base.bucketCount)
  (frames : List UInt64) (flags : UInt64)

include sound

/-- A storing that ends with an id has put its stack under it. -/
theorem Stored.accepts {id : UInt32} {next : StackStore} (positive : 0 < base.bucketCount)
    (stored : Stored store frames flags (.ok id) next) :
    Accepts base store frames flags id next := by
  have soundNext : Sound base next := stored.sound sound
  obtain ⟨own, bucket, found, hash, alike⟩ := stored.found
  rw [sound.idOf_eq] at own
  constructor
  · rw [own, capacity_eq]
    exact base.masked_lt _ positive
  · exact own
  · refine ⟨bucket.frames, by simp [lookup, found], ?_, ?_⟩
    · rw [← (soundNext.addressed id bucket found).1.hashed, hash]
    · refine alike.imp_right (And.imp_right ?_)
      intro earlier
      simp [lookup, earlier]
  · intro later spared
    have still := serveAll_lasting soundNext positive later spared found
    simp [lookup, still, found]

/-- A storing that ends with a refusal has changed nothing. -/
theorem Stored.declines {refusal : TableError} {next : StackStore}
    (stored : Stored store frames flags (.error refusal) next) :
    Declines base store frames flags refusal next := by
  cases stored with
  | unknownFlags unknown => exact ⟨rfl, .inl ⟨rfl, unknown⟩⟩
  | skipped short => exact ⟨rfl, .inr (.inl ⟨rfl, short⟩)⟩
  | taken bucket found different careful =>
    refine ⟨rfl, .inr (.inr ⟨rfl, careful, bucket.frames, ?_, ?_⟩)⟩
    · rw [← sound.idOf_eq]
      simp [lookup, found]
    · have unlike : ¬ (bucket.hash = hashFrames (keptOf frames flags) ∧
          (flags &&& StackFlags.fastCompare ≠ 0 ∨ bucket.frames = keptOf frames flags)) := by
        rw [← sameStack_iff, different]
        exact Bool.false_ne_true
      rw [(sound.addressed _ bucket found).1.hashed] at unlike
      by_cases hash : hashFrames bucket.frames = hashFrames (keptOf frames flags)
      · obtain ⟨slow, other⟩ := not_or.mp (fun alike => unlike ⟨hash, alike⟩)
        exact .inr ⟨not_not.mp slow, other⟩
      · exact .inl hash

include positive

/-- A sound store answers storings as it should. -/
theorem Sound.storesSoundly : StoresSoundly base store frames flags := by
  have stocked : 0 < store.bucketCount := sound.sized ▸ positive
  have stored := store.store_stored stocked frames flags
  constructor
  · intro id accepted
    rw [accepted] at stored
    exact stored.accepts sound frames flags positive
  · intro refusal declined
    rw [declined] at stored
    exact stored.declines sound frames flags

/-- A storing that compares frames and replaces nothing is answered with the id of an occupied
bucket only if that holds the stack. -/
theorem Sound.shares (exact : ExactFlags flags) {id : UInt32} {stack : List UInt64}
    (present : store.lookup id = some stack)
    (accepted : (store.store frames flags).1 = .ok id) : stack = keptOf frames flags := by
  have accepts := (sound.storesSoundly positive frames flags).accepted id accepted
  obtain ⟨kept, found, -, same | ⟨fast, -⟩⟩ := accepts.found
  · have stays : (store.store frames flags).2.lookup id = store.lookup id := by
      have stocked : 0 < store.bucketCount := sound.sized ▸ positive
      obtain ⟨bucket, occupied, -⟩ := Option.map_eq_some_iff.mp present
      have still := (store.store_stored stocked frames flags).lasting
        (fun replaces => replaces.1 exact.careful) occupied
      simp [lookup, still, occupied]
    rw [stays, present] at found
    exact (Option.some.inj found).trans same
  · exact absurd exact.compares fast

/-- The ids of a sound store tell stacks apart. -/
theorem Sound.tellsApart : TellsApart base store := by
  intro first firstFlags later second secondFlags id exactFirst exactSecond spared answered again
  have accepts := (sound.storesSoundly positive first firstFlags).accepted id answered
  have stocked : 0 < store.bucketCount := sound.sized ▸ positive
  have soundNext := (store.store_stored stocked first firstFlags).sound sound
  have soundLater := sound_after soundNext positive later
  obtain ⟨stack, found, -, same | ⟨fast, -⟩⟩ := accepts.found
  · rw [← accepts.lasting later spared] at found
    exact same.symm.trans (soundLater.shares positive second secondFlags exactSecond found again)
  · exact absurd exactFirst.compares fast

end Answers

/-- The ids of stacks are sound and stable. Take a store that was made for at most 2 ^ 31 stacks,
and any requests. Then every occupied bucket holds a stack of its own. A storing that is answered
with an id has put its stack under this id, where it stays; one that is refused has changed
nothing. A capture is negative exactly if the storing of its side is refused. And ids tell stacks
apart. -/
theorem stack_ids_are_sound_and_stable (requested : UInt32) (fits : requested.toNat ≤ 2 ^ 31)
    (requests : List StackRequest) :
    let base := ofCapacity requested
    let store := base.serveAll requests
    Sound base store ∧
      (∀ frames flags, StoresSoundly base store frames flags) ∧
      (∀ kernel user flags, CapturesAlike store kernel user flags) ∧
      TellsApart base store := by
  intro base store
  have positive : 0 < base.bucketCount := bucketCount_pos requested fits
  have sound : Sound base store := sound_after (sound_ofCapacity requested) positive requests
  refine ⟨sound, ?_, store.capturesAlike, sound.tellsApart positive⟩
  intro frames flags
  exact sound.storesSoundly positive frames flags

/-- In a store with one bucket the second stack is refused and the first one stays. -/
theorem second_stack_declined :
    (1 : UInt32).toNat ≤ 2 ^ 31 ∧
      let store := (ofCapacity 1).serveAll [.store [9, 1] 1]
      Declines (ofCapacity 1) store [2] 0 .keyExists (store.store [2] 0).2 ∧
        store.lookup 0 = some [1] := by
  have fits : (1 : UInt32).toNat ≤ 2 ^ 31 := by decide
  have answers := (stack_ids_are_sound_and_stable 1 fits [.store [9, 1] 1]).2.1 [2] 0
  exact ⟨fits, answers.declined .keyExists (by rfl), by decide⟩

end StackStore
end SamplingProfiler
