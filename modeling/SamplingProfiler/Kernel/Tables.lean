import SamplingProfiler.Kernel.HashTable
import SamplingProfiler.Outcome
import SamplingProfiler.Policy
import SamplingProfiler.SampleKey

/-!
# The tables of the kernel programs

What the kernel programs share with each other and with user space.
-/

namespace SamplingProfiler.Kernel

/-- The tables by what they hold. Stacks and notices are left to the kernel. -/
structure Tables where
  policies : HashTable UInt32 Policy
  counts : HashTable SampleKey UInt32
  /-- The pid namespace that user space asks for, under `NamespaceKey`. -/
  settings : HashTable UInt32 UInt64
  /-- How often each outcome occurred, under its number. -/
  tally : HashTable UInt32 UInt64
  /-- Whether the slot for an unwinder is filled. -/
  unwinder : Bool

namespace Tables

/-- The tables before the first program runs. -/
def fresh : Tables where
  policies := HashTable.ofCapacity Limits.processes
  counts := HashTable.ofCapacity Limits.profiles
  settings := HashTable.ofCapacity 10
  tally := HashTable.ofCapacity Outcome.limit.word
  unwinder := false

/-- The names under which the tables that programs write to are known. -/
inductive Name where
  | policies
  | counts
  | tally
deriving DecidableEq, Repr

/-- The outcomes that occurred, in their order, as user space reads them. -/
def outcomes (tables : Tables) : List (Outcome × UInt64) :=
  Outcome.all.filterMap fun outcome =>
    match tables.tally.get? outcome.word with
    | some count => if 0 < count then some (outcome, count) else none
    | none => none

end Tables
end SamplingProfiler.Kernel
