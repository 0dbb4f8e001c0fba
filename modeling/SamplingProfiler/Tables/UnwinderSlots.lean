import SamplingProfiler.Tables.TableError

/-!
# Unwinder slots

A fixed number of slots, each with an unwinder or without one. An unwinder is
known by its name here: what it does with a sample is its own affair.
-/

namespace SamplingProfiler

/-- The slots in order. -/
structure UnwinderSlots where
  slots : List (Option String)
deriving DecidableEq, Repr

namespace UnwinderSlots

/-- Slots without unwinders. -/
def ofCount (count : UInt32) : UnwinderSlots :=
  ⟨List.replicate count.toNat none⟩

/-- The number of slots. -/
def count (table : UnwinderSlots) : UInt32 :=
  UInt32.ofNat table.slots.length

/-- The refusal of an index that names no slot. -/
def noSuchSlot (table : UnwinderSlots) (index : UInt32) : TableError :=
  .outOfBounds index table.count

/-- Fill or empty a slot. -/
def write (table : UnwinderSlots) (index : UInt32) (unwinder : Option String) :
    Except TableError Unit × UnwinderSlots :=
  if index.toNat < table.slots.length then
    (.ok (), ⟨table.slots.set index.toNat unwinder⟩)
  else (.error (table.noSuchSlot index), table)

/-- The unwinder in a slot, or why there is none. -/
def find (table : UnwinderSlots) (index : UInt32) : Except TableError String :=
  match table.slots[index.toNat]? with
  | none => .error (table.noSuchSlot index)
  | some none => .error .keyNotFound
  | some (some unwinder) => .ok unwinder

/-- The name of the unwinder in a slot, if there is one. -/
def name? (table : UnwinderSlots) (index : UInt32) : Option String :=
  (table.find index).toOption

end UnwinderSlots
end SamplingProfiler
