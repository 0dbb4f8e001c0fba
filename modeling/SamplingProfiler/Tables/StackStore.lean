import SamplingProfiler.Entries
import SamplingProfiler.Limits
import SamplingProfiler.Tables.TableError

/-!
# The stack store

Captured stacks are kept in buckets. The bucket of a stack is its hash, cut down
to the number of buckets, and this is also the stack's id: equal stacks share an
id, and an id stays good until its bucket is freed or given to another stack.
Two different stacks may want the same bucket, and then the second one is refused
unless it may replace the first.

The number of buckets is a power of two, computed in 32-bit arithmetic. A request
above the largest such power rounds to no buckets at all.
-/

namespace SamplingProfiler

namespace Fnv

/-- The hash of no bytes. -/
def start : UInt64 := 0xcbf29ce484222325

/-- The number by which a hash is multiplied for every byte. -/
def factor : UInt64 := 0x100000001b3

/-- Take one byte into a hash. -/
def addByte (hash : UInt64) (byte : UInt8) : UInt64 :=
  (hash ^^^ byte.toUInt64) * factor

/-- Take the eight bytes of a word into a hash, the low byte first. -/
def addWord (hash word : UInt64) : UInt64 :=
  [word, word >>> 8, word >>> 16, word >>> 24, word >>> 32, word >>> 40, word >>> 48,
    word >>> 56].foldl (fun state shifted => addByte state shifted.toUInt8) hash

/-- The hash of a list of words. -/
def ofWords (words : List UInt64) : UInt64 :=
  words.foldl addWord start

end Fnv

/-- A stack as it is kept: its hash beside its frames, innermost first. -/
structure StackBucket where
  hash : UInt32
  frames : List UInt64
deriving DecidableEq, Repr

/-- The occupied buckets by their ids, and how many buckets there are. -/
structure StackStore where
  bucketCount : UInt32
  occupied : Entries UInt32 StackBucket

namespace StackStore

/-- The least power of two that is not below a number, modulo 2 ^ 32. -/
def roundUp (requested : UInt32) : UInt32 :=
  if requested ≤ 1 then 1 else UInt32.ofNat (Nat.pow 2 ((requested.toNat - 1).log2 + 1))

/-- A store without stacks, with room for at least as many as requested. -/
def ofCapacity (requested : UInt32) : StackStore :=
  ⟨roundUp requested, Entries.empty⟩

/-- The bits of a hash that make an id. -/
def mask (store : StackStore) : UInt32 :=
  store.bucketCount - 1

/-- The hash of a list of frames: 64 bits, folded into 32. -/
def hashFrames (frames : List UInt64) : UInt32 :=
  let hash := Fnv.ofWords frames
  (hash ^^^ (hash >>> 32)).toUInt32

/-- What is kept of a stack: frames after those to skip, down to the depth limit. -/
def keptFrames (frames : List UInt64) (skip : Nat) : List UInt64 :=
  (frames.drop skip).take Limits.stackDepth

/-- How many innermost frames the flags of a capture ask to skip. -/
def skipCount (flags : UInt64) : UInt64 :=
  flags &&& StackFlags.skipMask

/-- Whether the stack in a bucket counts as the one with a hash and frames. Under
    fast comparison the hash alone decides. -/
def sameStack (bucket : StackBucket) (hash : UInt32) (frames : List UInt64) (flags : UInt64) :
    Bool :=
  bucket.hash == hash && (flags &&& StackFlags.fastCompare != 0 || bucket.frames == frames)

/-- Put frames into the bucket of their hash, if that is free, holds the same
    stack, or may be given over. An id is outside the buckets only where there are
    none at all (`bucketCount` is zero). The refusal there stands for a panic: such
    a call does not return, and has no outcome. -/
def place (store : StackStore) (frames : List UInt64) (flags : UInt64) :
    Except TableError UInt32 × StackStore :=
  let hash := hashFrames frames
  let id := hash &&& store.mask
  let replaced : StackStore := { store with occupied := store.occupied.set id ⟨hash, frames⟩ }
  if store.bucketCount ≤ id then (.error (.outOfBounds id store.bucketCount), store)
  else match store.occupied.lookup id with
    | none => (.ok id, replaced)
    | some bucket =>
      if sameStack bucket hash frames flags then (.ok id, store)
      else if flags &&& StackFlags.reuse = 0 then (.error .keyExists, store)
      else (.ok id, replaced)

/-- Store a stack and return its id. The flags are looked at first, then whether
    any frame is left after skipping. -/
def store (all : StackStore) (frames : List UInt64) (flags : UInt64) :
    Except TableError UInt32 × StackStore :=
  let skip := skipCount flags
  if flags &&& ~~~StackFlags.valid != 0 then (.error (.invalidFlags flags), all)
  else if frames.length ≤ skip.toNat then (.error (.noFrames skip.toUInt32), all)
  else all.place (keptFrames frames skip.toNat) flags

/-- Store the side of a stack that the flags name and return its id as a number;
    a refusal is its negative error number. -/
def capture (all : StackStore) (kernel user : List UInt64) (flags : UInt64) :
    Int × StackStore :=
  match all.store (if flags &&& StackFlags.user != 0 then user else kernel) flags with
  | (.ok id, next) => (id.toNat, next)
  | (.error refusal, next) => (refusal.number, next)

/-- The frames of a stack. -/
def lookup (all : StackStore) (id : UInt32) : Option (List UInt64) :=
  (all.occupied.lookup id).map StackBucket.frames

/-- Free a bucket and return the frames that were in it. -/
def remove (all : StackStore) (id : UInt32) : Option (List UInt64) × StackStore :=
  (all.lookup id, { all with occupied := all.occupied.erase id })

/-- Free every bucket. -/
def clear (all : StackStore) : StackStore :=
  { all with occupied := Entries.empty }

/-- How many buckets are occupied. -/
def size (all : StackStore) : Nat :=
  all.occupied.size

/-- The occupied buckets, with their frames. -/
def pairs (all : StackStore) : List (UInt32 × List UInt64) :=
  all.occupied.pairs.map fun (id, bucket) => (id, bucket.frames)

@[simp] theorem lookup_clear (all : StackStore) (id : UInt32) :
    all.clear.lookup id = none := rfl

end StackStore
end SamplingProfiler
