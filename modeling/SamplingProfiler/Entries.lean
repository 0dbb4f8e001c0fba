/-!
# Finite tables

`Entries` lists the pairs of a finite table in the order in which their keys
first came in. A key occurs once, and writing a key that is present replaces its
value where it stands. Every stored table of the profiler is one of these, so
that listing, counting and looking up agree by construction.

`lookup` is the view: what `set` and `erase` do is stated through it. How many
keys a table may hold is not decided here.

The order of arrival stands for an order that the tables of the profiler leave
open. What a table holds, how many keys it has and what a listing contains do not
depend on it: two tables of the same contents list the same pairs up to a
rearrangement. It does decide what comes first where a task over the listed keys is
cut short, and which keys get the last places of another table.
-/

namespace SamplingProfiler

/-- A finite table that remembers the order of its keys; no key occurs twice. -/
structure Entries (Key Value : Type) where
  pairs : List (Key × Value)
  distinct : (pairs.map Prod.fst).Nodup

namespace Entries

variable {Key Value : Type} [DecidableEq Key]

/-- Find the value of a key in a list of pairs. -/
def find (key : Key) : List (Key × Value) → Option Value
  | [] => none
  | (other, value) :: rest => if other = key then some value else find key rest

/-- Replace the value where the key stands, or add the pair at the end. -/
def put (key : Key) (value : Value) : List (Key × Value) → List (Key × Value)
  | [] => [(key, value)]
  | (other, old) :: rest =>
    if other = key then (other, value) :: rest else (other, old) :: put key value rest

/-- Leave the pair of a key out. -/
def leave (key : Key) : List (Key × Value) → List (Key × Value)
  | [] => []
  | (other, value) :: rest =>
    if other = key then rest else (other, value) :: leave key rest

/-- Writing a key adds at most that key. -/
theorem mem_keys_put (key : Key) (value : Value) (pairs : List (Key × Value)) (tested : Key) :
    tested ∈ (put key value pairs).map Prod.fst ↔
      tested = key ∨ tested ∈ pairs.map Prod.fst := by
  induction pairs with
  | nil => simp [put]
  | cons pair rest remaining =>
    obtain ⟨other, old⟩ := pair
    by_cases same : other = key
    · subst same
      simp [put]
    · simp only [put, same, if_false, List.map_cons, List.mem_cons, remaining]
      exact or_left_comm

/-- What is left are keys that were there. -/
theorem mem_keys_of_leave (key : Key) (pairs : List (Key × Value)) (tested : Key)
    (member : tested ∈ (leave key pairs).map Prod.fst) : tested ∈ pairs.map Prod.fst := by
  induction pairs with
  | nil => simp [leave] at member
  | cons pair rest remaining =>
    obtain ⟨other, old⟩ := pair
    by_cases same : other = key
    · simp only [leave, same, if_true] at member
      exact List.mem_cons_of_mem _ member
    · simp only [leave, same, if_false, List.map_cons, List.mem_cons] at member ⊢
      exact member.imp_right remaining

/-- Writing keeps keys distinct. -/
theorem nodup_put (key : Key) (value : Value) (pairs : List (Key × Value))
    (distinct : (pairs.map Prod.fst).Nodup) : ((put key value pairs).map Prod.fst).Nodup := by
  induction pairs with
  | nil => simp [put]
  | cons pair rest remaining =>
    obtain ⟨other, old⟩ := pair
    obtain ⟨absent, distinctRest⟩ := List.nodup_cons.mp distinct
    by_cases same : other = key
    · simp only [put, same, if_true, List.map_cons]
      exact List.nodup_cons.mpr ⟨same ▸ absent, distinctRest⟩
    · simp only [put, same, if_false, List.map_cons]
      refine List.nodup_cons.mpr ⟨?_, remaining distinctRest⟩
      rw [mem_keys_put]
      exact fun member => member.elim same absent

/-- Leaving a key out keeps keys distinct. -/
theorem nodup_leave (key : Key) (pairs : List (Key × Value))
    (distinct : (pairs.map Prod.fst).Nodup) : ((leave key pairs).map Prod.fst).Nodup := by
  induction pairs with
  | nil => simp [leave]
  | cons pair rest remaining =>
    obtain ⟨other, old⟩ := pair
    obtain ⟨absent, distinctRest⟩ := List.nodup_cons.mp distinct
    by_cases same : other = key
    · simpa only [leave, same, if_true] using distinctRest
    · simp only [leave, same, if_false, List.map_cons]
      exact List.nodup_cons.mpr
        ⟨fun member => absent (mem_keys_of_leave key rest other member), remaining distinctRest⟩

/-- The table without entries. -/
def empty : Entries Key Value := ⟨[], List.nodup_nil⟩

/-- The keys in the order of their arrival, which stands for any order. -/
def keys (entries : Entries Key Value) : List Key :=
  entries.pairs.map Prod.fst

/-- How many keys are present. -/
def size (entries : Entries Key Value) : Nat :=
  entries.pairs.length

/-- The value of a key, if the key is present. -/
def lookup (entries : Entries Key Value) (key : Key) : Option Value :=
  find key entries.pairs

/-- Whether a key is present. -/
def contains (entries : Entries Key Value) (key : Key) : Bool :=
  (entries.lookup key).isSome

/-- Write the value of a key; a new key comes last. -/
def set (entries : Entries Key Value) (key : Key) (value : Value) : Entries Key Value :=
  ⟨put key value entries.pairs, nodup_put key value entries.pairs entries.distinct⟩

/-- Remove a key with its value. -/
def erase (entries : Entries Key Value) (key : Key) : Entries Key Value :=
  ⟨leave key entries.pairs, nodup_leave key entries.pairs entries.distinct⟩

@[simp] theorem lookup_empty (key : Key) : (empty : Entries Key Value).lookup key = none := rfl

omit [DecidableEq Key] in
/-- Counting keys counts entries. -/
theorem length_keys (entries : Entries Key Value) : entries.keys.length = entries.size :=
  List.length_map ..

/-- A key is listed exactly when it has a value. -/
theorem lookup_isSome_iff (entries : Entries Key Value) (key : Key) :
    (entries.lookup key).isSome = true ↔ key ∈ entries.keys := by
  obtain ⟨pairs, distinct⟩ := entries
  simp only [lookup, keys]
  clear distinct
  induction pairs with
  | nil => simp [find]
  | cons pair rest remaining =>
    obtain ⟨other, value⟩ := pair
    by_cases same : other = key
    · simp [find, same]
    · simp [find, same, remaining, Ne.symm same]

/-- A key without a value is not listed. -/
theorem lookup_eq_none_iff (entries : Entries Key Value) (key : Key) :
    entries.lookup key = none ↔ key ∉ entries.keys := by
  rw [← lookup_isSome_iff]
  cases entries.lookup key <;> simp

/-- Looking up finds exactly the pairs of the table. -/
theorem lookup_eq_some_iff (entries : Entries Key Value) (key : Key) (value : Value) :
    entries.lookup key = some value ↔ (key, value) ∈ entries.pairs := by
  obtain ⟨pairs, distinct⟩ := entries
  simp only [lookup]
  induction pairs with
  | nil => simp [find]
  | cons pair rest remaining =>
    obtain ⟨other, first⟩ := pair
    obtain ⟨absent, distinctRest⟩ := List.nodup_cons.mp distinct
    by_cases same : other = key
    · subst same
      have elsewhere : (other, value) ∉ rest :=
        fun member => absent (List.mem_map.mpr ⟨_, member, rfl⟩)
      simp [find, elsewhere, eq_comm]
    · have different : key ≠ other := Ne.symm same
      simp [find, same, different, remaining distinctRest]

/-- After a write the key has the new value and every other key its old one. -/
theorem lookup_set (entries : Entries Key Value) (key tested : Key) (value : Value) :
    (entries.set key value).lookup tested =
      if tested = key then some value else entries.lookup tested := by
  obtain ⟨pairs, distinct⟩ := entries
  simp only [lookup, set]
  clear distinct
  induction pairs with
  | nil => simp [put, find, eq_comm]
  | cons pair rest remaining =>
    obtain ⟨other, old⟩ := pair
    by_cases same : other = key
    · subst same
      by_cases here : other = tested
      · simp [put, find, here]
      · simp [put, find, here, Ne.symm here]
    · by_cases here : other = tested
      · subst here
        simp [put, find, same]
      · simp [put, find, same, here, remaining]

/-- After an erasure the key is absent and every other key keeps its value. -/
theorem lookup_erase (entries : Entries Key Value) (key tested : Key) :
    (entries.erase key).lookup tested = if tested = key then none else entries.lookup tested := by
  obtain ⟨pairs, distinct⟩ := entries
  simp only [lookup, erase]
  induction pairs with
  | nil => simp [leave, find]
  | cons pair rest remaining =>
    obtain ⟨other, old⟩ := pair
    obtain ⟨absent, distinctRest⟩ := List.nodup_cons.mp distinct
    by_cases same : other = key
    · subst same
      by_cases here : other = tested
      · subst here
        have missing : find other rest = none :=
          (lookup_eq_none_iff ⟨rest, distinctRest⟩ other).mpr absent
        simpa [leave] using missing
      · simp [leave, find, here, Ne.symm here]
    · by_cases here : other = tested
      · subst here
        simp [leave, find, same]
      · simp [leave, find, same, here, remaining distinctRest]

/-- A write adds one entry for a new key and none for a present one. -/
theorem size_set (entries : Entries Key Value) (key : Key) (value : Value) :
    (entries.set key value).size =
      if (entries.lookup key).isSome then entries.size else entries.size + 1 := by
  show (put key value entries.pairs).length = if (find key entries.pairs).isSome then
    entries.pairs.length else entries.pairs.length + 1
  generalize entries.pairs = pairs
  induction pairs with
  | nil => simp [put, find]
  | cons pair rest remaining =>
    obtain ⟨other, old⟩ := pair
    by_cases same : other = key
    · simp [put, find, same]
    · simp only [put, find, same, if_false, List.length_cons, remaining]
      split <;> rfl

/-- An erasure takes one entry away exactly when the key was present. -/
theorem size_erase (entries : Entries Key Value) (key : Key) :
    (entries.erase key).size =
      if (entries.lookup key).isSome then entries.size - 1 else entries.size := by
  show (leave key entries.pairs).length = if (find key entries.pairs).isSome then
    entries.pairs.length - 1 else entries.pairs.length
  generalize entries.pairs = pairs
  induction pairs with
  | nil => simp [leave, find]
  | cons pair rest remaining =>
    obtain ⟨other, old⟩ := pair
    by_cases same : other = key
    · simp [leave, find, same]
    · simp only [leave, find, same, if_false, List.length_cons, remaining]
      split
      · rename_i present
        have : 0 < rest.length := by
          cases rest with
          | nil => simp [find] at present
          | cons => simp
        omega
      · rfl

end Entries
end SamplingProfiler
