import SamplingProfiler.Entries
import SamplingProfiler.Limits
import SamplingProfiler.Tables.TableError

/-!
# Bounded maps

A bounded map holds at most a fixed number of keys and refuses a new key beyond
it. How many keys are present is kept in a counter of its own, a 32-bit word that
is moved along with the entries: a new key first claims its place in the counter
and gives it back if there was none.

Each operation here is one indivisible step. `drain` is not: it takes a list of
the keys and then removes them one after the other.

The entries stand for a concurrent map from a package outside the repository. What
is assumed of it: each key has at most one value, its operations on one key are
indivisible and read what was written last, and a listing shows every key once.
The counter and the order of the checks are not assumed; they are what is here.
-/

namespace SamplingProfiler

/-- A finite table with a capacity and a counter of its keys. -/
structure BoundedMap (Key Value : Type) where
  capacity : UInt32
  entries : Entries Key Value
  count : UInt32

namespace BoundedMap

variable {Key Value Result : Type} [DecidableEq Key]

/-- The map without entries. -/
def ofCapacity (capacity : UInt32) : BoundedMap Key Value :=
  ⟨capacity, Entries.empty, 0⟩

/-- How many keys the counter says are present. -/
def size (map : BoundedMap Key Value) : Nat :=
  map.count.toNat

/-- Whether the counter says that no key is present. -/
def isEmpty (map : BoundedMap Key Value) : Bool :=
  map.count == 0

/-- The value of a key, if the key is present. -/
def get? (map : BoundedMap Key Value) (key : Key) : Option Value :=
  map.entries.lookup key

/-- Whether a key is present. -/
def contains (map : BoundedMap Key Value) (key : Key) : Bool :=
  map.entries.contains key

/-- What a function makes of the value of a key that is present. -/
def getWith (map : BoundedMap Key Value) (key : Key) (read : Value → Result) : Option Result :=
  (map.get? key).map read

/-- The keys that are present. -/
def keys (map : BoundedMap Key Value) : List Key :=
  map.entries.keys

/-- The keys that are present, with their values. -/
def pairs (map : BoundedMap Key Value) : List (Key × Value) :=
  map.entries.pairs

/-- Write a key. The flags are looked at first, then whether the key is present
    as they demand, and last whether there is room for a new key. -/
def insert (map : BoundedMap Key Value) (key : Key) (value : Value) (flags : UInt64) :
    Except TableError Unit × BoundedMap Key Value :=
  if UpdateFlags.onlyPresent < flags then (.error (.invalidFlags flags), map)
  else if map.contains key then
    if flags = UpdateFlags.onlyNew then (.error .keyExists, map)
    else (.ok (), { map with entries := map.entries.set key value })
  else if flags = UpdateFlags.onlyPresent then (.error .keyNotFound, map)
  else
    let claimed := { map with count := map.count + 1 }
    if map.capacity ≤ map.count then
      (.error (.full map.capacity), { claimed with count := claimed.count - 1 })
    else (.ok (), { claimed with entries := claimed.entries.set key value })

/-- Change the value of a key that is present; the reply says whether it was. -/
def update (map : BoundedMap Key Value) (key : Key) (change : Value → Value) :
    Bool × BoundedMap Key Value :=
  match map.get? key with
  | some value => (true, { map with entries := map.entries.set key (change value) })
  | none => (false, map)

/-- Remove a key and return the value that it had. -/
def remove (map : BoundedMap Key Value) (key : Key) : Option Value × BoundedMap Key Value :=
  match map.get? key with
  | some value => (some value, { map with entries := map.entries.erase key, count := map.count - 1 })
  | none => (none, map)

/-- Remove keys one after the other; one that is absent is passed over. -/
def removeAll : List Key → BoundedMap Key Value → List (Key × Value) × BoundedMap Key Value
  | [], map => ([], map)
  | key :: rest, map =>
    match map.remove key with
    | (some value, without) =>
      let (removed, last) := removeAll rest without
      ((key, value) :: removed, last)
    | (none, _) => removeAll rest map

/-- Remove every key that is present now, and return them with their values. -/
def drain (map : BoundedMap Key Value) : List (Key × Value) × BoundedMap Key Value :=
  removeAll map.keys map

/-- An insertion that is refused leaves the map as it was: a place claimed in the
    counter is given back. -/
theorem insert_error (map : BoundedMap Key Value) (key : Key) (value : Value) (flags : UInt64)
    (refusal : TableError) (refused : (map.insert key value flags).1 = .error refusal) :
    (map.insert key value flags).2 = map := by
  unfold insert at refused ⊢
  split
  · rfl
  · rename_i valid
    rw [if_neg valid] at refused
    split
    · rename_i present
      rw [if_pos present] at refused
      split
      · rfl
      · rename_i overwrites
        rw [if_neg overwrites] at refused
        simp at refused
    · rename_i absent
      rw [if_neg absent] at refused
      split
      · rfl
      · rename_i admitted
        rw [if_neg admitted] at refused
        by_cases full : map.capacity ≤ map.count
        · simp [full]
        · simp [full] at refused

/-- An insertion that succeeds writes its key and no other. -/
theorem get?_insert_ok (map : BoundedMap Key Value) (key tested : Key) (value : Value)
    (flags : UInt64) (accepted : (map.insert key value flags).1 = .ok ()) :
    (map.insert key value flags).2.get? tested =
      if tested = key then some value else map.get? tested := by
  unfold insert at accepted ⊢
  split
  · rename_i invalid
    rw [if_pos invalid] at accepted
    simp at accepted
  · rename_i valid
    rw [if_neg valid] at accepted
    split
    · rename_i present
      rw [if_pos present] at accepted
      split
      · rename_i refuses
        rw [if_pos refuses] at accepted
        simp at accepted
      · exact Entries.lookup_set map.entries key tested value
    · rename_i absent
      rw [if_neg absent] at accepted
      split
      · rename_i demands
        rw [if_pos demands] at accepted
        simp at accepted
      · rename_i admitted
        rw [if_neg admitted] at accepted
        by_cases full : map.capacity ≤ map.count
        · simp [full] at accepted
        · simp only [full, if_false]
          exact Entries.lookup_set map.entries key tested value

/-- A removal takes its key away and no other. -/
theorem get?_remove (map : BoundedMap Key Value) (key tested : Key) :
    (map.remove key).2.get? tested = if tested = key then none else map.get? tested := by
  unfold remove
  cases found : map.get? key with
  | some value => exact Entries.lookup_erase map.entries key tested
  | none =>
    by_cases same : tested = key
    · simpa [same] using found
    · simp [same]

/-- A removal returns the value that the key had. -/
theorem remove_value (map : BoundedMap Key Value) (key : Key) :
    (map.remove key).1 = map.get? key := by
  unfold remove
  cases found : map.get? key <;> rfl

end BoundedMap
end SamplingProfiler
