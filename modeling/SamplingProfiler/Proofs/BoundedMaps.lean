import Mathlib.Data.List.Perm.Subperm
import SamplingProfiler.Proofs.Totals
import SamplingProfiler.Tables.BoundedMap

/-!
# The counter of a bounded map

The number of keys of a bounded map is kept beside its entries. The two agree after
every operation, and there are never more keys than the capacity says, so the
counter neither wraps when a place is claimed nor when one is given back. With this
an insertion is refused for want of room exactly when the map is full.

Draining removes the keys of a list that was taken before; where nothing comes in
between, it returns every pair once and leaves nothing.
-/

namespace SamplingProfiler
namespace BoundedMap

variable {Key Value : Type}

/-- The counter is the number of keys, and this is within the capacity. -/
structure Consistent (map : BoundedMap Key Value) : Prop where
  counted : map.count.toNat = map.entries.size
  bounded : map.entries.size ≤ map.capacity.toNat

/-- A map without entries is consistent for any capacity. -/
theorem consistent_ofCapacity (capacity : UInt32) :
    (ofCapacity capacity : BoundedMap Key Value).Consistent :=
  ⟨rfl, Nat.zero_le _⟩

/-- A consistent map holds as many keys as its capacity exactly when the counter
has reached it. -/
theorem Consistent.full_iff {map : BoundedMap Key Value} (consistent : map.Consistent) :
    map.capacity ≤ map.count ↔ map.entries.size = map.capacity.toNat := by
  rw [UInt32.le_iff_toNat_le, consistent.counted]
  have bounded := consistent.bounded
  omega

/-- Below the capacity the counter has a next value. -/
theorem Consistent.count_succ {map : BoundedMap Key Value} (consistent : map.Consistent)
    (room : ¬ map.capacity ≤ map.count) : (map.count + 1).toNat = map.entries.size + 1 := by
  have below : map.count.toNat < map.capacity.toNat := by
    rw [UInt32.le_iff_toNat_le] at room
    omega
  have limit := map.capacity.toNat_lt
  rw [UInt32.toNat_add, consistent.counted]
  have size := consistent.counted
  simp only [UInt32.reduceToNat]
  omega

variable [DecidableEq Key]

/-- An insertion of a new key finds the key present, or finds no room, or writes it.
Only the last changes the map. -/
theorem insert_onlyNew (map : BoundedMap Key Value) (key : Key) (value : Value) :
    map.insert key value UpdateFlags.onlyNew =
      if (map.get? key).isSome then (.error .keyExists, map)
      else if map.capacity ≤ map.count then (.error (.full map.capacity), map)
      else (.ok (), { map with
        entries := map.entries.set key value, count := map.count + 1 }) := by
  have valid : ¬ UpdateFlags.onlyPresent < UpdateFlags.onlyNew := by decide
  have other : UpdateFlags.onlyNew ≠ UpdateFlags.onlyPresent := by decide
  simp only [insert, if_neg valid, contains, Entries.contains, get?]
  by_cases present : (map.entries.lookup key).isSome = true
  · simp [present]
  · simp only [present, Bool.false_eq_true, if_false, if_neg other]
    by_cases full : map.capacity ≤ map.count <;> simp [full]

/-- An insertion that demands nothing overwrites a key that is present, and else finds no room
or writes it. -/
theorem insert_any (map : BoundedMap Key Value) (key : Key) (value : Value) :
    map.insert key value UpdateFlags.any =
      if (map.get? key).isSome then
        (.ok (), { map with entries := map.entries.set key value })
      else if map.capacity ≤ map.count then (.error (.full map.capacity), map)
      else (.ok (), { map with
        entries := map.entries.set key value, count := map.count + 1 }) := by
  have valid : ¬ UpdateFlags.onlyPresent < UpdateFlags.any := by decide
  have overwrites : UpdateFlags.any ≠ UpdateFlags.onlyNew := by decide
  have demandsNothing : UpdateFlags.any ≠ UpdateFlags.onlyPresent := by decide
  simp only [insert, if_neg valid, if_neg overwrites, if_neg demandsNothing, contains,
    Entries.contains, get?]
  by_cases present : (map.entries.lookup key).isSome = true
  · simp [present]
  · by_cases full : map.capacity ≤ map.count <;> simp [present, full]

/-- An insertion of a new key that is accepted found the key absent and wrote it. -/
theorem insert_onlyNew_accepted (map : BoundedMap Key Value) (key : Key) (value : Value)
    (accepted : (map.insert key value UpdateFlags.onlyNew).1 = .ok ()) :
    map.get? key = none ∧
      (map.insert key value UpdateFlags.onlyNew).2.entries = map.entries.set key value := by
  rw [insert_onlyNew] at accepted ⊢
  cases present : map.get? key with
  | some old => simp [present] at accepted
  | none =>
    by_cases full : map.capacity ≤ map.count
    · simp [present, full] at accepted
    · simp [full]

/-- A map takes an absent key exactly if it holds fewer keys than its capacity says. -/
theorem Consistent.takes_iff {map : BoundedMap Key Value} (consistent : map.Consistent)
    (key : Key) (value : Value) (absent : map.get? key = none) :
    (map.insert key value UpdateFlags.onlyNew).1 = .ok () ↔
      map.entries.size < map.capacity.toNat := by
  have bounded := consistent.bounded
  rw [insert_onlyNew, absent]
  by_cases full : map.capacity ≤ map.count
  · have size := consistent.full_iff.mp full
    simp [full, size]
  · have size := mt consistent.full_iff.mpr full
    simp only [Option.isSome_none, Bool.false_eq_true, if_false, full, true_iff]
    omega

/-- Every insertion keeps the counter right, whatever it finds. -/
theorem consistent_insert (map : BoundedMap Key Value) (consistent : map.Consistent)
    (key : Key) (value : Value) (flags : UInt64) :
    (map.insert key value flags).2.Consistent := by
  have restored : map.count + 1 - 1 = map.count := by simp
  simp only [insert, contains, Entries.contains]
  by_cases invalid : UpdateFlags.onlyPresent < flags
  · simpa only [invalid, if_true] using consistent
  · simp only [invalid, if_false]
    by_cases present : (map.entries.lookup key).isSome = true
    · simp only [present, if_true]
      split
      · exact consistent
      · constructor
        · simpa only [Entries.size_set_present _ _ _ present] using consistent.counted
        · simpa only [Entries.size_set_present _ _ _ present] using consistent.bounded
    · simp only [present, Bool.false_eq_true, if_false]
      split
      · exact consistent
      · by_cases full : map.capacity ≤ map.count
        · simpa only [full, if_true, restored] using consistent
        · simp only [full, if_false]
          have size : (map.entries.set key value).size = map.entries.size + 1 := by
            rw [Entries.size_set, if_neg present]
          have next := consistent.count_succ full
          have below : map.count.toNat < map.capacity.toNat := by
            rw [UInt32.le_iff_toNat_le] at full
            omega
          have counted := consistent.counted
          exact ⟨next.trans size.symm, by simp only [size]; omega⟩

/-- An update changes a value in place, so no key comes or goes. -/
theorem consistent_update (map : BoundedMap Key Value) (consistent : map.Consistent)
    (key : Key) (change : Value → Value) : (map.update key change).2.Consistent := by
  simp only [update, get?]
  cases found : map.entries.lookup key with
  | none => exact consistent
  | some value =>
    have present : (map.entries.lookup key).isSome = true := by simp [found]
    constructor
    · simpa only [Entries.size_set_present _ _ _ present] using consistent.counted
    · simpa only [Entries.size_set_present _ _ _ present] using consistent.bounded

/-- A removal gives the place of its key back. -/
theorem consistent_remove (map : BoundedMap Key Value) (consistent : map.Consistent)
    (key : Key) : (map.remove key).2.Consistent := by
  simp only [remove, get?]
  cases found : map.entries.lookup key with
  | none => exact consistent
  | some value =>
    have present : (map.entries.lookup key).isSome = true := by simp [found]
    have listed : key ∈ map.entries.keys := (Entries.lookup_isSome_iff _ _).mp present
    have positive : 0 < map.entries.size := by
      rw [← Entries.length_keys]
      exact List.length_pos_of_mem listed
    have size : (map.entries.erase key).size = map.entries.size - 1 := by
      rw [Entries.size_erase, if_pos present]
    have counted := consistent.counted
    have bounded := consistent.bounded
    have smaller : (map.count - 1).toNat = map.count.toNat - 1 :=
      UInt32.toNat_sub_of_le _ _ (by rw [UInt32.le_iff_toNat_le]; simp; omega)
    constructor
    · simp only [smaller, size, counted]
    · simp only [size]
      omega

/-- Removing the keys of a map one after the other returns its pairs, in the order of
the keys, and leaves none. The counter goes down once for every pair.

Induct over the pairs: the first key is found where it stands, and erasing it leaves
the map of the remaining pairs. -/
theorem removeAll_pairs (capacity count : UInt32) (pairs : List (Key × Value))
    (distinct : (pairs.map Prod.fst).Nodup) :
    removeAll (pairs.map Prod.fst) ⟨capacity, ⟨pairs, distinct⟩, count⟩ =
      (pairs, ⟨capacity, Entries.empty, count - UInt32.ofNat pairs.length⟩) := by
  induction pairs generalizing count with
  | nil => simp [removeAll, Entries.empty]
  | cons pair rest inductionHypothesis =>
    obtain ⟨key, value⟩ := pair
    have found : remove ⟨capacity, ⟨(key, value) :: rest, distinct⟩, count⟩ key =
        (some value,
          ⟨capacity, ⟨rest, (List.nodup_cons.mp distinct).2⟩, count - 1⟩) := by
      simp [remove, get?, Entries.lookup, Entries.find, Entries.erase_first]
    have counted : count - 1 - UInt32.ofNat rest.length =
        count - UInt32.ofNat (rest.length + 1) := by
      rw [UInt32.ofNat_add]
      grind
    simp only [List.map_cons, removeAll, found, inductionHypothesis, List.length_cons, counted]

/-- Draining returns every pair once and leaves no entry. -/
theorem drain_eq (map : BoundedMap Key Value) :
    map.drain = (map.pairs, { map with
      entries := Entries.empty, count := map.count - UInt32.ofNat map.entries.size }) := by
  obtain ⟨capacity, ⟨pairs, distinct⟩, count⟩ := map
  exact removeAll_pairs capacity count pairs distinct

/-- Draining a consistent map returns its pairs and leaves a fresh map of the same capacity. -/
theorem Consistent.drain_eq {map : BoundedMap Key Value} (consistent : map.Consistent) :
    map.drain = (map.pairs, ofCapacity map.capacity) := by
  have cleared : map.count - UInt32.ofNat map.entries.size = 0 := by
    rw [← consistent.counted, UInt32.ofNat_toNat, UInt32.sub_self]
  rw [BoundedMap.drain_eq, cleared]
  rfl

/-- A drained map is consistent, and its counter is at zero. -/
theorem consistent_drain (map : BoundedMap Key Value) (consistent : map.Consistent) :
    map.drain.2.Consistent := by
  rw [consistent.drain_eq]
  exact consistent_ofCapacity map.capacity

/-- A table has lost a key and has no key that it did not have before. -/
structure Thinned (before after : BoundedMap Key Value) : Prop where
  lost : ∃ key, (before.get? key).isSome = true ∧ after.get? key = none
  earlier : ∀ key, (after.get? key).isSome = true → (before.get? key).isSome = true

/-- A table that was thinned has fewer entries.

The keys that are left are distinct, and together with the lost one they were all there. -/
theorem Thinned.size_lt {before after : BoundedMap Key Value} (thinned : before.Thinned after) :
    after.entries.size < before.entries.size := by
  obtain ⟨key, present, gone⟩ := thinned.lost
  have absent : key ∉ after.entries.keys :=
    (Entries.lookup_eq_none_iff after.entries key).mp gone
  have distinct : (key :: after.entries.keys).Nodup :=
    List.nodup_cons.mpr ⟨absent, after.entries.distinct⟩
  have included : key :: after.entries.keys ⊆ before.entries.keys := by
    apply List.cons_subset.mpr
    constructor
    · exact (Entries.lookup_isSome_iff before.entries key).mp present
    · intro left member
      have there := (Entries.lookup_isSome_iff after.entries left).mpr member
      exact (Entries.lookup_isSome_iff before.entries left).mp (thinned.earlier left there)
  have shorter := (List.subperm_of_subset distinct included).length_le
  rw [List.length_cons, Entries.length_keys, Entries.length_keys] at shorter
  exact shorter

end BoundedMap
end SamplingProfiler
