import Mathlib.Data.List.Perm.Subperm
import SamplingProfiler.Kernel.Programs
import SamplingProfiler.Loader.FaultyKernel
import SamplingProfiler.Proofs.TableContents
import SamplingProfiler.Tables.OutcomeTally

/-!
# Tallies in a kernel

The programs of a kernel count their outcomes in a hash table with room for as many keys
as there are outcomes. A counter is raised if it is there and written otherwise. As
nothing else is written to the table, a new counter always finds room, and so counting
behaves as it does with an array of counters.

Reading the table outcome by outcome tells the counters that are not zero, as listing
them does with an array.
-/

namespace SamplingProfiler

namespace Outcome

/-- Different outcomes are counted under different words. -/
theorem word_injective {first second : Outcome} (same : first.word = second.word) :
    first = second := by
  refine number_injective (Fin.ext ?_)
  have numbers := congrArg UInt32.toNat same
  simp only [word, UInt32.toNat_ofNat'] at numbers
  have firstBound := first.number.isLt
  have secondBound := second.number.isLt
  omega

/-- The words under which outcomes are counted. -/
def words : List UInt32 :=
  (all.filter (· ≠ .limit)).map word

/-- The word of an outcome that a run can end in is among them. -/
theorem word_mem_words {outcome : Outcome} (possible : outcome ≠ .limit) :
    outcome.word ∈ words := by
  cases outcome <;> first | exact absurd rfl possible | decide

end Outcome

namespace Kernel

/-- A tally as programs leave it: its room is the number of outcomes, and only outcomes are
counted in it. -/
structure TallyFits (tally : HashTable UInt32 UInt64) : Prop where
  capacity : tally.capacity = Outcome.limit.word
  known : ∀ word, (tally.get? word).isSome = true → word ∈ Outcome.words

namespace TallyFits

variable {tally : HashTable UInt32 UInt64}

/-- The tally of fresh tables. -/
theorem fresh : TallyFits Tables.fresh.tally := by
  refine ⟨rfl, ?_⟩
  intro word counted
  cases counted

/-- While the counter of an outcome is absent there is room for it. -/
theorem room (fits : TallyFits tally) {outcome : Outcome} (possible : outcome ≠ .limit)
    (absent : tally.get? outcome.word = none) : tally.size < tally.capacity.toNat := by
  have unlisted : outcome.word ∉ tally.entries.keys :=
    (Entries.lookup_eq_none_iff _ _).mp absent
  have distinct : (outcome.word :: tally.entries.keys).Nodup :=
    List.nodup_cons.mpr ⟨unlisted, tally.entries.distinct⟩
  have among : outcome.word :: tally.entries.keys ⊆ Outcome.words := by
    intro word member
    rcases List.mem_cons.mp member with rfl | listed
    · exact Outcome.word_mem_words possible
    · exact fits.known word ((Entries.lookup_isSome_iff _ _).mpr listed)
  have most := (distinct.subperm among).length_le
  have bound : Outcome.words.length = Outcome.limit.word.toNat := by decide
  rw [List.length_cons, Entries.length_keys, bound] at most
  rw [fits.capacity]
  exact most

/-- A counter of an outcome is written without refusal. -/
theorem insert_any (fits : TallyFits tally) {outcome : Outcome} (possible : outcome ≠ .limit)
    (count : UInt64) :
    tally.insert outcome.word count UpdateFlags.any = (.ok (), tally.set outcome.word count) := by
  have overwrites : UpdateFlags.any ≠ UpdateFlags.onlyNew := by decide
  have unconditional : UpdateFlags.any ≠ UpdateFlags.onlyPresent := by decide
  simp only [HashTable.insert, if_neg overwrites, if_neg unconditional]
  cases found : tally.get? outcome.word with
  | some old => rfl
  | none =>
    have unfilled := Nat.not_le_of_lt (fits.room possible found)
    simp only [Option.isSome_none, Bool.false_eq_true, if_false, unfilled]

/-- Writing the counter of an outcome keeps the tally as it should be. -/
theorem set (fits : TallyFits tally) {outcome : Outcome} (possible : outcome ≠ .limit)
    (count : UInt64) : TallyFits (tally.set outcome.word count) := by
  refine ⟨fits.capacity, ?_⟩
  intro word counted
  rw [HashTable.get?_set] at counted
  by_cases same : word = outcome.word
  · rw [same]
    exact Outcome.word_mem_words possible
  · rw [if_neg same] at counted
    exact fits.known word counted

end TallyFits

/-- Counting an outcome raises its counter, which is at zero while it is absent, and does
nothing else. -/
theorem Invocation.record_eq (invocation : Invocation) (unrefused : invocation.refusing = none)
    (tables : Tables) (fits : TallyFits tables.tally) {outcome : Outcome}
    (possible : outcome ≠ .limit) :
    invocation.record outcome tables =
      { tables with
        tally := tables.tally.set outcome.word ((tables.tally.get? outcome.word).getD 0 + 1) } := by
  simp only [record, refusal?, unrefused, fits.insert_any possible]
  cases tables.tally.get? outcome.word with
  | some count => rfl
  | none => rfl

/-- What is read of an outcome: its counter, unless that is absent or zero. -/
def counted? (tally : HashTable UInt32 UInt64) (outcome : Outcome) :
    Option (Outcome × UInt64) :=
  match tally.get? outcome.word with
  | some count => if 0 < count then some (outcome, count) else none
  | none => none

/-- An absent counter is read as zero. -/
theorem counted?_eq (tally : HashTable UInt32 UInt64) (outcome : Outcome) :
    counted? tally outcome =
      if (tally.get? outcome.word).getD 0 = 0 then none
      else some (outcome, (tally.get? outcome.word).getD 0) := by
  simp only [counted?]
  cases tally.get? outcome.word with
  | none => rfl
  | some count =>
    by_cases zero : count = 0
    · simp [zero]
    · have positive : 0 < count := by
        rw [UInt64.lt_iff_toNat_lt]
        have nonzero : count.toNat ≠ 0 := fun equal => zero (UInt64.toNat_inj.mp equal)
        simpa using Nat.pos_of_ne_zero nonzero
      simp [zero, positive]

/-- Where some outcomes have the same counters in a tally of a kernel and in an array of
counters, the two are read alike as far as those outcomes go. -/
theorem Tables.outcomes_compared (tables : Tables) (tally : OutcomeTally)
    (compared : Outcome → Bool)
    (same : ∀ outcome, compared outcome = true →
      tally.count outcome = (tables.tally.get? outcome.word).getD 0) :
    (tables.outcomes.filter fun pair => compared pair.1) =
      tally.nonzero.filter fun pair => compared pair.1 := by
  have read : tables.outcomes = Outcome.all.filterMap (counted? tables.tally) := rfl
  rw [read, OutcomeTally.nonzero]
  induction Outcome.all with
  | nil => rfl
  | cons outcome rest inductionHypothesis =>
    rw [List.filterMap_cons, List.map_cons, List.filter_cons, counted?_eq]
    by_cases looked : compared outcome = true
    · rw [← same outcome looked]
      by_cases zero : tally.count outcome = 0 <;> simp [zero, looked, inductionHypothesis]
    · by_cases absent : (tables.tally.get? outcome.word).getD 0 = 0 <;>
        by_cases zero : tally.count outcome = 0 <;>
          simp [absent, zero, looked, inductionHypothesis]

end Kernel

namespace Loader

/-- Reading the tally of a kernel without faults lists the outcomes that were counted. -/
theorem Plan.run_readOutcomes (outcomes : List Outcome) (kernel : FaultyKernel)
    (faultless : kernel.faults = []) :
    ((Plan.readOutcomes outcomes).run FaultyKernel.answer kernel).1 =
      .ok (outcomes.filterMap (Kernel.counted? kernel.tally)) := by
  induction outcomes generalizing kernel with
  | nil => rfl
  | cons outcome rest inductionHypothesis =>
    let asked : FaultyKernel :=
      { kernel with requests := kernel.requests ++ [.readTally outcome.word] }
    have answered : FaultyKernel.answer (.readTally outcome.word) kernel =
        (FaultyKernel.found (kernel.tally.get? outcome.word), asked) :=
      FaultyKernel.attempt_of_faults_nil asked _ _ _ faultless
    have further : ((readOutcomes rest).run FaultyKernel.answer asked).1 =
        .ok (rest.filterMap (Kernel.counted? kernel.tally)) := inductionHypothesis asked faultless
    simp only [Plan.readOutcomes, Plan.ask, Dialogue.request_bind, Dialogue.run_ask, answered]
    rw [List.filterMap_cons, Kernel.counted?]
    cases kernel.tally.get? outcome.word with
    | none => exact further
    | some count =>
      simp only [FaultyKernel.found, Dialogue.run_bind, further]
      by_cases positive : 0 < count <;> simp [positive]

end Loader
end SamplingProfiler
