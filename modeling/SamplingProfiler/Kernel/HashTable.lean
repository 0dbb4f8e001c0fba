import SamplingProfiler.Entries
import SamplingProfiler.Limits

/-!
# Hash tables of a kernel

A hash table of a kernel holds a fixed number of keys. Its refusals are negative
error numbers.

The table stands for a map of the operating system, which is outside the
repository. What is assumed of it: it is a finite table, the flags of an insertion
are looked at before the room, a key that is present is overwritten even where
there is no room, and the refusals have the numbers below.
-/

namespace SamplingProfiler.Kernel

/-- A finite table with a capacity. -/
structure HashTable (Key Value : Type) where
  capacity : UInt32
  entries : Entries Key Value

namespace HashTable

variable {Key Value : Type} [DecidableEq Key]

/-- The error number for a key that is present and should not be. -/
def present : Int := -17

/-- The error number for a key that is absent and should not be. -/
def absent : Int := -2

/-- The error number for a table without room. -/
def noRoom : Int := -7

/-- A table without entries. -/
def ofCapacity (capacity : UInt32) : HashTable Key Value :=
  ⟨capacity, Entries.empty⟩

/-- The value of a key, if the key is present. -/
def get? (table : HashTable Key Value) (key : Key) : Option Value :=
  table.entries.lookup key

/-- How many keys are present. -/
def size (table : HashTable Key Value) : Nat :=
  table.entries.size

/-- Write a key whether or not there is room. -/
def set (table : HashTable Key Value) (key : Key) (value : Value) : HashTable Key Value :=
  { table with entries := table.entries.set key value }

/-- Write a key, where the flags and the capacity allow it. -/
def insert (table : HashTable Key Value) (key : Key) (value : Value) (flags : UInt64) :
    Except Int Unit × HashTable Key Value :=
  if (table.get? key).isSome then
    if flags = UpdateFlags.onlyNew then (.error present, table)
    else (.ok (), table.set key value)
  else if flags = UpdateFlags.onlyPresent then (.error absent, table)
  else if table.capacity.toNat ≤ table.size then (.error noRoom, table)
  else (.ok (), table.set key value)

/-- Remove a key, if it is present. -/
def erase (table : HashTable Key Value) (key : Key) : HashTable Key Value :=
  { table with entries := table.entries.erase key }

end HashTable
end SamplingProfiler.Kernel
