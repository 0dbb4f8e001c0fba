import SamplingProfiler.Kernel.HashTable
import SamplingProfiler.Proofs.BoundedMaps
import SamplingProfiler.Session

/-!
# The contents of tables

What a table holds is what looking its keys up shows. Two tables of the same contents
may list their keys in different orders, and that is all in which they can differ: the
pairs of one are a rearrangement of those of the other, and there are as many.

A bounded map and a hash table of a kernel count their keys in different ways. With the
same contents and the same capacity they take and refuse the same insertions of new
keys, under the same error numbers.
-/

namespace SamplingProfiler

namespace Entries

variable {Key Value : Type} [DecidableEq Key]

/-- Keys that are looked up alike are listed with the same values. -/
theorem pairs_perm (first second : Entries Key Value)
    (same : ∀ key, first.lookup key = second.lookup key) : first.pairs.Perm second.pairs := by
  have nodup (entries : Entries Key Value) : entries.pairs.Nodup := by
    refine List.Pairwise.of_map Prod.fst ?_ entries.distinct
    intro left right apart equal
    exact apart (congrArg Prod.fst equal)
  refine (List.perm_ext_iff_of_nodup (nodup first) (nodup second)).mpr ?_
  intro pair
  rw [← lookup_eq_some_iff, ← lookup_eq_some_iff, same]

/-- Tables of the same contents have as many keys. -/
theorem size_eq (first second : Entries Key Value)
    (same : ∀ key, first.lookup key = second.lookup key) : first.size = second.size :=
  (pairs_perm first second same).length_eq

/-- Of the pairs of a table at most one is that of a key. -/
theorem filter_pairs (entries : Entries Key Value) (key : Key) :
    (entries.pairs.filter fun pair => pair.1 = key) =
      ((entries.lookup key).map fun value => (key, value)).toList := by
  obtain ⟨pairs, distinct⟩ := entries
  simp only [lookup]
  induction pairs with
  | nil => rfl
  | cons pair rest inductionHypothesis =>
    obtain ⟨other, value⟩ := pair
    obtain ⟨absent, distinctRest⟩ := List.nodup_cons.mp distinct
    by_cases same : other = key
    · subst same
      have noneLeft : (rest.filter fun pair => pair.1 = other) = [] := by
        rw [List.filter_eq_nil_iff]
        intro pair member here
        exact absent (List.mem_map.mpr ⟨pair, member, by simpa using here⟩)
      simp [find, noneLeft]
    · simp [find, same, inductionHypothesis distinctRest]

/-- Erase keys one after the other. -/
def eraseAll (entries : Entries Key Value) (keys : List Key) : Entries Key Value :=
  keys.foldl erase entries

@[simp] theorem eraseAll_nil (entries : Entries Key Value) : entries.eraseAll [] = entries := rfl

@[simp] theorem eraseAll_cons (entries : Entries Key Value) (key : Key) (rest : List Key) :
    entries.eraseAll (key :: rest) = (entries.erase key).eraseAll rest := rfl

/-- Erased keys are absent, and all others keep their values. -/
theorem lookup_eraseAll (entries : Entries Key Value) (keys : List Key) (tested : Key) :
    (entries.eraseAll keys).lookup tested =
      if tested ∈ keys then none else entries.lookup tested := by
  induction keys generalizing entries with
  | nil => simp
  | cons key rest inductionHypothesis =>
    rw [eraseAll_cons, inductionHypothesis, lookup_erase]
    by_cases here : tested = key
    · simp [here]
    · simp [here]

end Entries

namespace Kernel.HashTable

variable {Key Value : Type} [DecidableEq Key]

/-- An insertion of a new key finds the key present, or finds no room, or writes it.
Only the last changes the table. -/
theorem insert_new (table : HashTable Key Value) (key : Key) (value : Value) :
    table.insert key value UpdateFlags.onlyNew =
      if (table.get? key).isSome then (.error present, table)
      else if table.capacity.toNat ≤ table.size then (.error noRoom, table)
      else (.ok (), table.set key value) := by
  have other : UpdateFlags.onlyNew ≠ UpdateFlags.onlyPresent := by decide
  simp only [insert, if_neg other, if_true]

/-- After a write the key has the new value and every other key its old one. -/
theorem get?_set (table : HashTable Key Value) (key tested : Key) (value : Value) :
    (table.set key value).get? tested = if tested = key then some value else table.get? tested :=
  Entries.lookup_set table.entries key tested value

end Kernel.HashTable

namespace BoundedMap

variable {Key Value : Type} [DecidableEq Key]

/-- A bounded map and a hash table of a kernel with the same contents and the same
room. The counter of the map is right. -/
structure Mirrors (map : BoundedMap Key Value) (table : Kernel.HashTable Key Value) : Prop where
  contents : ∀ key, map.get? key = table.get? key
  capacity : map.capacity = table.capacity
  consistent : map.Consistent

/-- Without entries a map mirrors a table of its capacity. -/
theorem mirrors_ofCapacity (capacity : UInt32) :
    (ofCapacity capacity : BoundedMap Key Value).Mirrors (Kernel.HashTable.ofCapacity capacity) :=
  ⟨fun _ => rfl, rfl, consistent_ofCapacity capacity⟩

/-- Both are full at the same time. -/
theorem Mirrors.full_iff {map : BoundedMap Key Value} {table : Kernel.HashTable Key Value}
    (mirrors : map.Mirrors table) :
    map.capacity ≤ map.count ↔ table.capacity.toNat ≤ table.size := by
  have sizes : map.entries.size = table.size := Entries.size_eq _ _ mirrors.contents
  rw [UInt32.le_iff_toNat_le, mirrors.consistent.counted, mirrors.capacity, sizes]

/-- Writing a key on both sides writes it to both contents. -/
theorem Mirrors.set_contents {map : BoundedMap Key Value} {table : Kernel.HashTable Key Value}
    (mirrors : map.Mirrors table) (key : Key) (value : Value) (tested : Key) :
    (map.entries.set key value).lookup tested = (table.set key value).get? tested := by
  have same := mirrors.contents tested
  simp only [get?] at same
  rw [Kernel.HashTable.get?_set, Entries.lookup_set, same]

/-- A new key is taken by both, or refused by both with the same error number. -/
theorem Mirrors.insert_onlyNew {map : BoundedMap Key Value} {table : Kernel.HashTable Key Value}
    (mirrors : map.Mirrors table) (key : Key) (value : Value) :
    Session.numbered (map.insert key value UpdateFlags.onlyNew).1 =
        (table.insert key value UpdateFlags.onlyNew).1 ∧
      (map.insert key value UpdateFlags.onlyNew).2.Mirrors
        (table.insert key value UpdateFlags.onlyNew).2 := by
  have consistent := map.consistent_insert mirrors.consistent key value UpdateFlags.onlyNew
  have written := mirrors.set_contents key value
  have room := mirrors.full_iff
  rw [BoundedMap.insert_onlyNew] at consistent ⊢
  simp only [Kernel.HashTable.insert_new, ← mirrors.contents key, ← room]
  by_cases known : (map.get? key).isSome = true
  · simp only [known, if_true]
    exact ⟨rfl, mirrors⟩
  · rw [if_neg known] at consistent
    simp only [known, Bool.false_eq_true, if_false]
    by_cases full : map.capacity ≤ map.count
    · simp only [full, if_true]
      exact ⟨rfl, mirrors⟩
    · rw [if_neg full] at consistent
      simp only [full, if_false]
      exact ⟨rfl, ⟨written, mirrors.capacity, consistent⟩⟩

/-- A value is changed in both where its key is present. -/
theorem Mirrors.update {map : BoundedMap Key Value} {table : Kernel.HashTable Key Value}
    (mirrors : map.Mirrors table) (key : Key) (change : Value → Value) :
    (map.update key change).1 = (table.get? key).isSome ∧
      (map.update key change).2.Mirrors
        (match table.get? key with
        | some value => table.set key (change value)
        | none => table) := by
  have consistent := map.consistent_update mirrors.consistent key change
  simp only [BoundedMap.update] at consistent ⊢
  rw [← mirrors.contents key]
  cases present : map.get? key with
  | none => exact ⟨rfl, mirrors⟩
  | some value =>
    rw [present] at consistent
    exact ⟨rfl, ⟨mirrors.set_contents key (change value), mirrors.capacity, consistent⟩⟩

end BoundedMap
end SamplingProfiler
