import SamplingProfiler.Proofs.ProfileMaps

/-!
# Two collections of one profile

A session collects from its own tables, and a collector from the maps of a kernel. The
one drains its table and resolves what it drained, and clears its stacks where it resets
them. The other reads, deletes and resolves key by key, and lists and deletes the stacks.
Over a kernel without faults, and from equal contents in equal rounds, the two export the
same samples in some order and leave equal contents, in any run of collections between
which both sides are added to equally.

Contents are compared by looking up, because the two sides list their keys in different
orders and count them differently.
-/

namespace SamplingProfiler.Loader

/-- A session beside a collector and its kernel. -/
structure Twins where
  session : Session
  collector : Collector
  kernel : FaultyKernel

/-- What is written to both sides between two collections. -/
inductive ProfileAddition where
  | count (key : SampleKey) (value : UInt32)
  | stack (id : UInt32) (frames : List UInt64)

namespace ProfileAddition

/-- The counts with an addition to them. -/
def countsAfter (addition : ProfileAddition) (before : SampleKey → Option UInt32) :
    SampleKey → Option UInt32 :=
  match addition with
  | .count key value => fun tested => if tested = key then some value else before tested
  | .stack _ _ => before

/-- The stacks with an addition to them. -/
def stacksAfter (addition : ProfileAddition) (before : UInt32 → Option (List UInt64)) :
    UInt32 → Option (List UInt64) :=
  match addition with
  | .count _ _ => before
  | .stack id frames => fun tested => if tested = id then some frames else before tested

end ProfileAddition

namespace Twins

/-- Both sides reset their stacks in the same rounds and have made as many, hold equal
counts and equal stacks, and no call of the kernel fails. -/
structure Agree (twins : Twins) : Prop where
  interval : twins.session.options.stacksResetInterval = twins.collector.resetInterval
  rounds : twins.session.rounds = twins.collector.rounds
  counts : ∀ key, twins.session.counts.get? key = twins.kernel.counts.get? key
  storedStacks : ∀ id, twins.session.stackStore.lookup id = twins.kernel.storedStacks.lookup id
  faultless : twins.kernel.faults = []

/-- The same is written to both sides, however it comes there. -/
structure Adds (addition : ProfileAddition) (before after : Twins) : Prop where
  interval : after.session.options.stacksResetInterval =
    before.session.options.stacksResetInterval
  rounds : after.session.rounds = before.session.rounds
  collector : after.collector = before.collector
  faults : after.kernel.faults = before.kernel.faults
  sessionCounts : after.session.counts.get? = addition.countsAfter before.session.counts.get?
  kernelCounts : after.kernel.counts.get? = addition.countsAfter before.kernel.counts.get?
  sessionStacks : after.session.stackStore.lookup =
    addition.stacksAfter before.session.stackStore.lookup
  kernelStacks : after.kernel.storedStacks.lookup =
    addition.stacksAfter before.kernel.storedStacks.lookup

/-- What the two sides of a collection return. -/
abbrev Results : Type :=
  List ProfileSample × Except CallError (List ProfileSample)

/-- One collection on both sides. -/
def collect (twins : Twins) : Results × Twins :=
  let (samples, session) := twins.session.collect
  let ((result, collector), kernel) :=
    twins.collector.collect.run FaultyKernel.answerCollector twins.kernel
  ((samples, result), ⟨session, collector, kernel⟩)

/-- Runs of collections and additions, with what the collections return. -/
inductive Runs : Twins → List Results → Twins → Prop where
  | finished (twins : Twins) : Runs twins [] twins
  | collected (twins last : Twins) (results : List Results)
      (further : Runs twins.collect.2 results last) :
      Runs twins (twins.collect.1 :: results) last
  | added (addition : ProfileAddition) (twins next last : Twins) (results : List Results)
      (adds : Adds addition twins next) (further : Runs next results last) :
      Runs twins results last

/-- A collection on the side of the kernel succeeds with the samples of the session, in
some order. -/
def SameSamples (results : Results) : Prop :=
  ∃ samples, results.2 = .ok samples ∧ results.1.Perm samples

/-- Equal additions keep equal contents. -/
theorem Agree.added {addition : ProfileAddition} {before after : Twins} (agree : before.Agree)
    (adds : Adds addition before after) : after.Agree := by
  have counts : before.session.counts.get? = before.kernel.counts.get? := funext agree.counts
  have storedStacks : before.session.stackStore.lookup = before.kernel.storedStacks.lookup :=
    funext agree.storedStacks
  refine ⟨?_, ?_, ?_, ?_, ?_⟩
  · rw [adds.interval, adds.collector, agree.interval]
  · rw [adds.rounds, adds.collector, agree.rounds]
  · intro key
    rw [adds.sessionCounts, adds.kernelCounts, counts]
  · intro id
    rw [adds.sessionStacks, adds.kernelStacks, storedStacks]
  · rw [adds.faults, agree.faultless]

/-- Over equal stacks both sides make the same sample of a key. -/
theorem Agree.exportedSample {twins : Twins} (agree : twins.Agree) :
    Session.exportedSample twins.session.stackStore = twins.kernel.profileMaps.sampleOf := by
  have storedStacks :
      twins.session.stackStore.lookup = twins.kernel.profileMaps.storedStacks.lookup :=
    funext agree.storedStacks
  funext pair
  simp only [Session.exportedSample, StackStore.framesOf, ProfileMaps.sampleOf,
    ProfileMaps.framesOf, storedStacks]

/-- Both sides export the same samples. -/
theorem Agree.sameSamples {twins : Twins} (agree : twins.Agree) :
    SameSamples twins.collect.1 := by
  obtain ⟨returned, _, _⟩ := twins.collector.run_faultless twins.kernel agree.faultless
  refine ⟨_, congrArg Prod.fst returned, ?_⟩
  have pairs : twins.session.counts.pairs.Perm twins.kernel.counts.entries.pairs :=
    Entries.pairs_perm _ _ agree.counts
  simp only [collect, Session.collect_eq, agree.exportedSample]
  exact pairs.map _

/-- Both sides use the same stacks. -/
theorem Agree.used {twins : Twins} (agree : twins.Agree) (id : UInt32) :
    id ∈ Session.usedBuckets twins.session.counts.pairs [] ↔
      ∃ key, FailingDeletions.never.Exports twins.kernel.profileMaps key ∧ key.Names id := by
  have exported := FailingDeletions.never.exists_exported_iff twins.kernel.profileMaps
    (fun key => key.Names id)
  rw [← exported, FailingDeletions.exported_never, Session.mem_usedBuckets]
  have pairs : twins.session.counts.pairs.Perm twins.kernel.profileMaps.counts.pairs :=
    Entries.pairs_perm _ _ agree.counts
  simp only [List.not_mem_nil, false_or, pairs.mem_iff]

/-- Both sides are left with equal stacks. -/
theorem Agree.stacksAfter {twins : Twins} (agree : twins.Agree) (id : UInt32) :
    (twins.session.stacksAfter (Session.usedBuckets twins.session.counts.pairs [])).lookup id =
      (FailingDeletions.never.mapsAfter twins.collector.begun
        twins.kernel.profileMaps).storedStacks.lookup id := by
  obtain ⟨freed, kept⟩ := FailingDeletions.never.stacks_after twins.collector.begun
    twins.kernel.profileMaps id
  have resetRound : Collection.isResetRound (twins.session.rounds + 1)
      twins.session.options.stacksResetInterval = true ↔ twins.collector.begun.Resets := by
    rw [agree.interval, agree.rounds]
    exact beq_iff_eq
  simp only [Session.stacksAfter]
  by_cases resets : twins.collector.begun.Resets
  · rw [if_pos (resetRound.mpr resets), StackStore.lookup_clear, freed ⟨rfl, .inl resets⟩]
  · rw [if_neg (mt resetRound.mp resets), StackStore.lookup_removeAll]
    by_cases used : id ∈ Session.usedBuckets twins.session.counts.pairs []
    · rw [if_pos used, freed ⟨rfl, .inr ((agree.used id).mp used)⟩]
    · have unfreed : ¬ FailingDeletions.never.Frees twins.collector.begun
          twins.kernel.profileMaps id := by
        rintro ⟨_, resetting | naming⟩
        · exact resets resetting
        · exact used ((agree.used id).mpr naming)
      rw [if_neg used, kept unfreed]
      exact agree.storedStacks id

/-- A collection on both sides keeps equal contents. -/
theorem Agree.collected {twins : Twins} (agree : twins.Agree) : twins.collect.2.Agree := by
  obtain ⟨returned, faultless, maps⟩ :=
    twins.collector.run_faultless twins.kernel agree.faultless
  have collector : twins.collect.2.collector = twins.collector.begun :=
    congrArg Prod.snd returned
  have counts (key : SampleKey) := congrArg (fun maps => maps.counts.lookup key) maps
  have storedStacks (id : UInt32) := congrArg (fun maps => maps.storedStacks.lookup id) maps
  refine ⟨?_, ?_, ?_, ?_, faultless⟩
  · rw [collector]
    simp only [collect, Session.collect_eq]
    exact agree.interval
  · rw [collector]
    simp only [collect, Session.collect_eq, Collector.begun, agree.rounds]
  · intro key
    have emptied := FailingDeletions.never.counts_after twins.collector.begun
      twins.kernel.profileMaps key
    exact (twins.session.counts_collect key).trans ((counts key).trans emptied).symm
  · intro id
    have left : twins.collect.2.session.stackStore.lookup id =
        (twins.session.stacksAfter
          (Session.usedBuckets twins.session.counts.pairs [])).lookup id := by
      simp only [collect, Session.collect_eq]
    exact left.trans ((agree.stacksAfter id).trans (storedStacks id).symm)

/-- The two collectors agree. From equal contents in equal rounds, and over a kernel in
which no call fails, every collection of a run returns the same samples on both sides up
to their order, and after every run both sides hold equal counts and equal stacks and
have made as many rounds. -/
theorem collectors_agree (twins last : Twins) (results : List Results) (agree : twins.Agree)
    (runs : twins.Runs results last) :
    last.Agree ∧ ∀ returned ∈ results, SameSamples returned := by
  induction runs with
  | finished twins => exact ⟨agree, by simp⟩
  | collected twins last results further inductionHypothesis =>
    obtain ⟨agreeLast, same⟩ := inductionHypothesis agree.collected
    refine ⟨agreeLast, ?_⟩
    intro returned member
    rcases List.mem_cons.mp member with rfl | later
    · exact agree.sameSamples
    · exact same returned later
  | added addition twins next last results adds further inductionHypothesis =>
    exact inductionHypothesis (agree.added adds)

/-- A key of one process with a stack of user space. -/
def sampledKey : SampleKey :=
  { SampleKey.ofPid 7 with userStack := 5 }

/-- Both sides before anything is counted. -/
def idle : Twins where
  session := Session.ofOptions Options.standard 1
  collector := Collector.ofInterval 10
  kernel := FaultyKernel.ofFile ⟨[], []⟩ []

/-- Both sides after a key was counted. -/
def counted : Twins :=
  { idle with
    session := (idle.session.insertCount sampledKey 3 UpdateFlags.onlyNew).2
    kernel.counts := idle.kernel.counts.set sampledKey 3 }

/-- Both sides after its stack was stored, too. -/
def stored : Twins :=
  { counted with
    session.stackStore.occupied := counted.session.stackStore.occupied.set 5 ⟨0, [1, 2]⟩
    kernel.storedStacks := counted.kernel.storedStacks.set 5 [1, 2] }

/-- The key was counted equally. -/
theorem adds_counted : Adds (.count sampledKey 3) idle counted := by
  refine ⟨rfl, rfl, rfl, rfl, ?_, ?_, rfl, rfl⟩
  · funext tested
    exact idle.session.counts.get?_insert_ok sampledKey tested 3 UpdateFlags.onlyNew rfl
  · funext tested
    exact idle.kernel.counts.get?_set sampledKey tested 3

/-- The stack was stored equally. -/
theorem adds_stored : Adds (.stack 5 [1, 2]) counted stored := by
  refine ⟨rfl, rfl, rfl, rfl, rfl, rfl, ?_, ?_⟩
  · funext tested
    simp only [stored, StackStore.lookup, Entries.lookup_set, ProfileAddition.stacksAfter]
    split <;> rfl
  · funext tested
    exact Entries.lookup_set _ 5 tested [1, 2]

/-- A key is counted and its stack is stored on both sides. Both then export the same
sample, and agree afterwards. -/
theorem one_sample_collected_alike :
    idle.Agree ∧ idle.Runs [stored.collect.1] stored.collect.2 ∧
      stored.collect.1.1 = [⟨sampledKey, 3, [], [1, 2]⟩] ∧ SameSamples stored.collect.1 ∧
      stored.collect.2.Agree := by
  have agree : idle.Agree := ⟨rfl, rfl, fun _ => rfl, fun _ => rfl, rfl⟩
  have runs : idle.Runs [stored.collect.1] stored.collect.2 :=
    .added _ _ counted _ _ adds_counted
      (.added _ _ stored _ _ adds_stored (.collected _ _ _ (.finished _)))
  obtain ⟨agreeLast, same⟩ := collectors_agree idle stored.collect.2 [stored.collect.1] agree runs
  exact ⟨agree, runs, by rfl, same _ (by simp), agreeLast⟩

end Twins
end SamplingProfiler.Loader
