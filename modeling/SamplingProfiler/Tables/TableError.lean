/-!
# Refusals of a table

Why a table refused an operation, with the wording and the error number that go
with each reason. Several reasons share a number.
-/

namespace SamplingProfiler

/-- Why a table refused an operation. -/
inductive TableError where
  | keyExists
  | keyNotFound
  | full (capacity : UInt32)
  | outOfBounds (index capacity : UInt32)
  | invalidFlags (flags : UInt64)
  | alreadyOpened (cpu : UInt32)
  | noFrames (skip : UInt32)
deriving DecidableEq, Repr

namespace TableError

/-- A word in base sixteen, with small letters and without leading zeros. -/
def hexadecimal (word : UInt64) : String :=
  "0x" ++ String.ofList (Nat.toDigits 16 word.toNat)

/-- The wording of a refusal. -/
def message : TableError → String
  | .keyExists => "key already exists"
  | .keyNotFound => "key not found"
  | .full capacity => s!"map is full ({capacity} entries)"
  | .outOfBounds index capacity => s!"index {index} out of bounds (max {capacity})"
  | .invalidFlags flags => "invalid flags " ++ hexadecimal flags
  | .alreadyOpened cpu => s!"buffer for cpu {cpu} already opened"
  | .noFrames skip => s!"stack has no frames left after skipping {skip}"

/-- The negative error number of a refusal. -/
def number : TableError → Int
  | .keyExists => -17
  | .keyNotFound => -2
  | .full _ => -7
  | .outOfBounds _ _ => -7
  | .invalidFlags _ => -22
  | .alreadyOpened _ => -16
  | .noFrames _ => -14

/-- Every refusal has a negative number, so it cannot be taken for an id. -/
theorem number_negative (refusal : TableError) : refusal.number < 0 := by
  cases refusal <;> simp [number]

end TableError
end SamplingProfiler
