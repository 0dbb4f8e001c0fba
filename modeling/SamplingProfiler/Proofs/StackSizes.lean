import Mathlib.Algebra.Group.Nat.Defs
import Mathlib.Data.Nat.Log
import SamplingProfiler.Session

/-!
# The number of buckets of a stack store

A store is asked for a size and takes the least power of two that is not below it. All of
this is done in words of 32 bits: the rounding, the mask, which is one less, and the size
that the store tells, which is one more than the mask. The greatest power of two in such a
word is 2 ^ 31. Up to there every step is exact, and a masked hash is always below the
number of buckets.

Above it the rounding overflows to zero, the mask wraps to all ones, and no bucket is left
that an index could name. No option is refused for being so large.
-/

namespace SamplingProfiler

namespace StackStore

/-- The size that a store tells: one more than its mask. -/
def capacity (store : StackStore) : UInt32 :=
  store.mask + 1

/-- A store that was made as large as requested. The number of buckets is the power of two
itself and not a remainder of it, and neither the step down to the mask nor the step back up
wraps. -/
structure WellSized (requested : UInt32) (store : StackStore) : Prop where
  power : ∃ exponent, store.bucketCount.toNat = 2 ^ exponent
  room : requested.toNat ≤ store.bucketCount.toNat
  least : ∀ exponent, requested.toNat ≤ 2 ^ exponent → store.bucketCount.toNat ≤ 2 ^ exponent
  masked : store.mask.toNat + 1 = store.bucketCount.toNat
  told : store.capacity.toNat = store.bucketCount.toNat
  inside : ∀ frames, hashFrames frames &&& store.mask < store.bucketCount

/-- A store whose number of buckets has overflowed. It has none, its mask lets every bit of a
hash through, and it tells a size of zero. Every index is outside, and nothing can be stored. -/
structure Overflown (store : StackStore) : Prop where
  bucketless : store.bucketCount = 0
  unmasked : store.mask.toNat = UInt32.size - 1
  told : store.capacity = 0
  outside : ∀ frames, store.bucketCount ≤ hashFrames frames &&& store.mask
  unstorable : ∀ frames flags id, (store.store frames flags).1 ≠ .ok id

/-- Rounding up takes the power of two with the least exponent, modulo 2 ^ 32. -/
theorem roundUp_eq (requested : UInt32) :
    roundUp requested = UInt32.ofNat (2 ^ Nat.clog 2 requested.toNat) := by
  unfold roundUp
  split
  · rename_i small
    rw [UInt32.le_iff_toNat_le] at small
    rw [Nat.clog_of_right_le_one small]
    rfl
  · rename_i large
    have several : 1 < requested.toNat := by
      rw [UInt32.le_iff_toNat_le, Nat.not_le] at large
      exact large
    have exponent : (requested.toNat - 1).log2 + 1 = Nat.clog 2 requested.toNat := by
      apply Nat.le_antisymm
      · have covered := Nat.le_pow_clog Nat.one_lt_two requested.toNat
        exact (Nat.log2_lt (by omega)).mpr (by omega)
      · rw [Nat.clog_le_iff_le_pow Nat.one_lt_two]
        have below := Nat.lt_log2_self (n := requested.toNat - 1)
        omega
    rw [exponent]
    rfl

/-- Up to 2 ^ 31 no power of two is lost by rounding up. -/
theorem toNat_roundUp (requested : UInt32) (fits : requested.toNat ≤ 2 ^ 31) :
    (roundUp requested).toNat = 2 ^ Nat.clog 2 requested.toNat := by
  have exponent : Nat.clog 2 requested.toNat ≤ 31 := Nat.clog_le_of_le_pow fits
  have bounded : 2 ^ Nat.clog 2 requested.toNat ≤ 2 ^ 31 :=
    Nat.pow_le_pow_right (by decide) exponent
  rw [roundUp_eq]
  exact UInt32.toNat_ofNat_of_lt' (by simp only [UInt32.size]; omega)

/-- Above 2 ^ 31 the power of two is 2 ^ 32, and nothing is left of it. -/
theorem roundUp_overflown (requested : UInt32) (large : 2 ^ 31 < requested.toNat) :
    roundUp requested = 0 := by
  have exponent : Nat.clog 2 requested.toNat = 32 := by
    apply Nat.le_antisymm
    · exact Nat.clog_le_of_le_pow requested.toNat_lt.le
    · exact (Nat.lt_clog_iff_pow_lt Nat.one_lt_two).mpr large
  rw [roundUp_eq, exponent]
  rfl

/-- A store tells how many buckets it has, whether or not the mask has wrapped. -/
theorem capacity_eq (store : StackStore) : store.capacity = store.bucketCount :=
  UInt32.sub_add_cancel _ _

/-- Where there is a bucket, the mask is one less than their number. -/
theorem toNat_mask (store : StackStore) (positive : 0 < store.bucketCount) :
    store.mask.toNat + 1 = store.bucketCount.toNat := by
  rw [UInt32.lt_iff_toNat_lt] at positive
  have least : (1 : UInt32) ≤ store.bucketCount := UInt32.le_iff_toNat_le.mpr positive
  have step : store.mask.toNat = store.bucketCount.toNat - 1 := UInt32.toNat_sub_of_le _ _ least
  rw [step]
  exact Nat.sub_add_cancel positive

/-- Where there is a bucket, there is one for every hash: masking makes a hash no larger than
the mask. -/
theorem masked_lt (store : StackStore) (hash : UInt32) (positive : 0 < store.bucketCount) :
    hash &&& store.mask < store.bucketCount := by
  have step := store.toNat_mask positive
  have masked : (hash &&& store.mask).toNat ≤ store.mask.toNat := by
    rw [UInt32.toNat_and]
    exact Nat.and_le_right
  rw [UInt32.lt_iff_toNat_lt]
  omega

/-- A store that is made for at most 2 ^ 31 stacks has a bucket. -/
theorem bucketCount_pos (requested : UInt32) (fits : requested.toNat ≤ 2 ^ 31) :
    0 < (ofCapacity requested).bucketCount := by
  rw [UInt32.lt_iff_toNat_lt, ofCapacity, toNat_roundUp requested fits]
  exact Nat.two_pow_pos _

/-- A store that is made for at most 2 ^ 31 stacks has the size that it should have. -/
theorem wellSized_ofCapacity (requested : UInt32) (fits : requested.toNat ≤ 2 ^ 31) :
    WellSized requested (ofCapacity requested) := by
  have count : (ofCapacity requested).bucketCount.toNat = 2 ^ Nat.clog 2 requested.toNat :=
    toNat_roundUp requested fits
  have positive := bucketCount_pos requested fits
  constructor
  · exact ⟨_, count⟩
  · rw [count]
    exact Nat.le_pow_clog Nat.one_lt_two _
  · intro exponent covered
    rw [count]
    exact Nat.pow_le_pow_right (by decide) (Nat.clog_le_of_le_pow covered)
  · exact toNat_mask _ positive
  · rw [capacity_eq]
  · intro frames
    exact masked_lt _ _ positive

/-- A store without buckets takes no stack. -/
theorem store_bucketless (store : StackStore) (bucketless : store.bucketCount = 0)
    (frames : List UInt64) (flags : UInt64) (id : UInt32) :
    (store.store frames flags).1 ≠ .ok id := by
  have outside (hash : UInt32) : store.bucketCount ≤ hash &&& store.mask := by
    rw [bucketless]
    exact UInt32.zero_le
  simp only [StackStore.store, place]
  split
  · simp
  · split
    · simp
    · rw [if_pos (outside _)]
      simp

/-- A store that is made for more than 2 ^ 31 stacks has overflowed. -/
theorem overflown_ofCapacity (requested : UInt32) (large : 2 ^ 31 < requested.toNat) :
    Overflown (ofCapacity requested) := by
  have bucketless : (ofCapacity requested).bucketCount = 0 := roundUp_overflown requested large
  constructor
  · exact bucketless
  · rw [mask, bucketless]
    rfl
  · rw [capacity_eq, bucketless]
  · intro frames
    rw [bucketless]
    exact UInt32.zero_le
  · exact store_bucketless _ bucketless

/-- A store that has overflowed has not the size that it should have: the hash of any frames is
outside. -/
theorem Overflown.not_wellSized {requested : UInt32} {store : StackStore}
    (overflown : store.Overflown) : ¬ WellSized requested store := by
  intro sized
  exact absurd (sized.inside []) (UInt32.not_lt.mpr (overflown.outside []))

end StackStore

namespace Session

/-- The stack store of a session has the size that the options ask for exactly up to 2 ^ 31
stacks. For more it has overflowed and can hold none, although such options are not refused. -/
theorem stacks_fit_up_to_half_a_word (options : Options) (cpus : UInt32) :
    (options.profileMapsSize.toNat ≤ 2 ^ 31 ∧
        (ofOptions options cpus).stackStore.WellSized options.profileMapsSize) ∨
      (2 ^ 31 < options.profileMapsSize.toNat ∧
        (ofOptions options cpus).stackStore.Overflown ∧
        ¬ (ofOptions options cpus).stackStore.WellSized options.profileMapsSize) := by
  rcases Nat.lt_or_ge (2 ^ 31) options.profileMapsSize.toNat with large | fits
  · have overflown : (ofOptions options cpus).stackStore.Overflown :=
      StackStore.overflown_ofCapacity options.profileMapsSize large
    exact .inr ⟨large, overflown, overflown.not_wellSized⟩
  · exact .inl ⟨fits, StackStore.wellSized_ofCapacity options.profileMapsSize fits⟩

/-- The standard options, but with room for one stack more than 2 ^ 31. -/
def oversizedOptions : Options :=
  { Options.standard with profileMapsSize := 2147483649 }

/-- Options that are not refused leave a session without any bucket for a stack. -/
theorem oversized_options_admitted :
    oversizedOptions.zeroOption? = none ∧
      (ofOptions oversizedOptions 1).stackStore.bucketCount = 0 ∧
      ¬ (ofOptions oversizedOptions 1).stackStore.WellSized oversizedOptions.profileMapsSize := by
  have large : 2 ^ 31 < oversizedOptions.profileMapsSize.toNat := by decide
  have overflown := StackStore.overflown_ofCapacity oversizedOptions.profileMapsSize large
  exact ⟨by decide, overflown.bucketless, overflown.not_wellSized⟩

end Session
end SamplingProfiler
