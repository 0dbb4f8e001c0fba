import SamplingProfiler.Outcome

/-!
# The tally of outcomes

One 64-bit counter per outcome, all at zero in the beginning.
-/

namespace SamplingProfiler

/-- The counters by the number of their outcome. -/
structure OutcomeTally where
  counters : Vector UInt64 20

namespace OutcomeTally

/-- Nothing counted. -/
def zero : OutcomeTally :=
  ⟨Vector.replicate 20 0⟩

/-- How often an outcome was counted, modulo 2 ^ 64. -/
def count (tally : OutcomeTally) (outcome : Outcome) : UInt64 :=
  tally.counters[outcome.number]

/-- Count an outcome once more. -/
def record (tally : OutcomeTally) (outcome : Outcome) : OutcomeTally :=
  ⟨tally.counters.set outcome.number (tally.count outcome + 1)⟩

/-- The outcomes that were counted, in their order. -/
def nonzero (tally : OutcomeTally) : List (Outcome × UInt64) :=
  (Outcome.all.map fun outcome => (outcome, tally.count outcome)).filter fun (_, count) =>
    count != 0

@[simp] theorem count_zero (outcome : Outcome) : zero.count outcome = 0 := by
  simp [zero, count]

/-- Counting an outcome raises its counter and no other. -/
theorem count_record (tally : OutcomeTally) (outcome tested : Outcome) :
    (tally.record outcome).count tested =
      if tested = outcome then tally.count outcome + 1 else tally.count tested := by
  by_cases same : tested = outcome
  · subst same
    simp [record, count]
  · have different : outcome.number.val ≠ tested.number.val := fun equal =>
      same (Outcome.number_injective (Fin.ext equal)).symm
    simp [record, count, same, Vector.getElem_set_ne _ _ different]

end OutcomeTally
end SamplingProfiler
