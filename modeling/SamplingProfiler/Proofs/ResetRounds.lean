import SamplingProfiler.Proofs.DelayedExports
import SamplingProfiler.Proofs.DirectWrites

/-!
# Rounds that empty the store of stacks

A stack whose samples were dropped is named by no key, so no collection frees it for the sake of
a key. It is freed because every few rounds the whole store is emptied. The rounds are counted
in a word of 32 bits, and it is the turn of a round where the counter is a multiple of the
interval. The counter wraps, and the interval need not divide 2 ^ 32. But zero is a multiple of
every interval, so the wrap only brings a turn forward: among as many rounds in a row as the
interval says there is always one that empties the store.

Sessions and the collectors over the maps of a kernel keep the same time. What they have in
common is a system of rounds, and the cadence is proved of these.

Main statements:

* `RoundSystem.paced` - the cadence of a system of rounds.
* `orphaned_stacks_are_short_lived` - that of sessions and of collectors over a kernel.
-/

namespace SamplingProfiler

/-- A state that changes event by event, and in which some events are rounds of a collector.
The rounds are counted modulo 2 ^ 32. A round empties the store of stacks if its number is a
multiple of the interval, and otherwise it keeps the stacks that no counted key names. What other
events do to stacks and keys is up to them. -/
structure RoundSystem (State Event : Type) where
  step : State → Event → State
  isRound : Event → Bool
  rounds : State → UInt32
  interval : State → UInt32
  stack : State → UInt32 → Option (List UInt64)
  /-- Whether a counted key has one of its stacks in a bucket. -/
  Referenced : State → UInt32 → Prop
  interval_step : ∀ state event, interval (step state event) = interval state
  rounds_round : ∀ state event, isRound event = true → rounds (step state event) = rounds state + 1
  rounds_other : ∀ state event, isRound event = false → rounds (step state event) = rounds state
  resets : ∀ state event, isRound event = true → (rounds state + 1) % interval state = 0 →
    ∀ id, stack (step state event) id = none
  keeps : ∀ state event, isRound event = true → (rounds state + 1) % interval state ≠ 0 →
    ∀ id, ¬ Referenced state id → stack (step state event) id = stack state id

/-- A word is divided without remainder exactly where its number is. -/
theorem word_mod_eq_zero_iff (number divisor : UInt32) :
    number % divisor = 0 ↔ divisor.toNat ∣ number.toNat := by
  rw [← UInt32.toNat_inj, UInt32.toNat_mod, Nat.dvd_iff_mod_eq_zero]
  rfl

/-- The word after another one, modulo 2 ^ 32. -/
theorem word_toNat_succ (number : UInt32) :
    (number + 1).toNat = (number.toNat + 1) % UInt32.size :=
  UInt32.toNat_add number 1

/-- The larger of two words is the larger one by number. -/
theorem word_toNat_max (first second : UInt32) :
    (max first second).toNat = max first.toNat second.toNat := by
  simp only [max, UInt32.le_iff_toNat_le]
  split <;> rfl

/-- Among the numbers that follow a word, as many as an interval says, one is a multiple of the
interval, modulo 2 ^ 32: the next multiple, or zero if the word wraps before it. -/
theorem exists_turn (number : UInt32) {interval : Nat} (positive : 0 < interval) :
    ∃ further < interval, interval ∣ (number.toNat + further + 1) % UInt32.size := by
  have bounded : number.toNat < UInt32.size := number.toNat_lt
  have remainder := Nat.mod_lt number.toNat positive
  have divided := Nat.div_add_mod number.toNat interval
  by_cases fits : number.toNat + (interval - number.toNat % interval) < UInt32.size
  · refine ⟨interval - number.toNat % interval - 1, by omega, ?_⟩
    have next : number.toNat + (interval - number.toNat % interval - 1) + 1 =
        interval * (number.toNat / interval + 1) := by
      rw [Nat.mul_add, Nat.mul_one]
      omega
    rw [Nat.mod_eq_of_lt (by omega), next]
    exact Nat.dvd_mul_right _ _
  · refine ⟨UInt32.size - number.toNat - 1, by omega, ?_⟩
    have wrapped : number.toNat + (UInt32.size - number.toNat - 1) + 1 = UInt32.size := by omega
    rw [wrapped, Nat.mod_self]
    exact Nat.dvd_zero _

namespace RoundSystem

variable {State Event : Type} (system : RoundSystem State Event)

/-- The state after a list of events. -/
def after (state : State) (events : List Event) : State :=
  events.foldl system.step state

/-- How many events of a list are rounds. -/
def roundsIn (events : List Event) : Nat :=
  events.countP system.isRound

/-- No stack is stored. -/
def Empty (state : State) : Prop :=
  ∀ id, system.stack state id = none

/-- Every stack that no counted key names is there as before. -/
def KeepsUnreferenced (before after : State) : Prop :=
  ∀ id, ¬ system.Referenced before id → system.stack after id = system.stack before id

/-- What a round with a number does to the stacks: it empties the store if the number is a
multiple of the interval, and otherwise it keeps the stacks that no counted key names. -/
structure TakesTurn (interval number : Nat) (before after : State) : Prop where
  resets : interval ∣ number → system.Empty after
  keeps : ¬ interval ∣ number → system.KeepsUnreferenced before after

/-- The cadence of rounds. Whatever happened earlier, of as many rounds in a row as the interval
says, with any events in between, one empties the store. The number of a round says whether it
does. Numbers are taken modulo 2 ^ 32, and those below are taken as they are. -/
structure Paced (interval : Nat) (start : State) : Prop where
  window : ∀ earlier events, system.roundsIn events = interval →
    ∃ before round later, events = before ++ round :: later ∧ system.isRound round = true ∧
      system.Empty (system.after start (earlier ++ (before ++ [round])))
  turns : ∀ earlier round, system.isRound round = true →
    system.TakesTurn interval ((system.roundsIn earlier + 1) % UInt32.size)
      (system.after start earlier) (system.after start (earlier ++ [round]))
  unwrapped : ∀ earlier round, system.isRound round = true →
    system.roundsIn earlier + 1 < UInt32.size →
      system.TakesTurn interval (system.roundsIn earlier + 1)
        (system.after start earlier) (system.after start (earlier ++ [round]))

/-- One more event is a round or not. -/
theorem roundsIn_cons (event : Event) (events : List Event) :
    system.roundsIn (event :: events) =
      system.roundsIn events + if system.isRound event = true then 1 else 0 :=
  List.countP_cons

/-- Events that follow others start from the state those leave behind. -/
theorem after_append (state : State) (first second : List Event) :
    system.after state (first ++ second) = system.after (system.after state first) second :=
  List.foldl_append

/-- No run changes the interval. -/
theorem interval_after (state : State) (events : List Event) :
    system.interval (system.after state events) = system.interval state := by
  induction events generalizing state with
  | nil => rfl
  | cons event rest inductionHypothesis =>
    exact (inductionHypothesis _).trans (system.interval_step state event)

/-- The counter goes up by the number of rounds in a run, modulo 2 ^ 32. -/
theorem rounds_after (state : State) (events : List Event) :
    (system.rounds (system.after state events)).toNat =
      ((system.rounds state).toNat + system.roundsIn events) % UInt32.size := by
  induction events generalizing state with
  | nil => exact (Nat.mod_eq_of_lt (system.rounds state).toNat_lt).symm
  | cons event rest inductionHypothesis =>
    have further := inductionHypothesis (system.step state event)
    rw [after, List.foldl_cons, ← after, further, roundsIn_cons]
    cases round : system.isRound event with
    | true =>
      rw [system.rounds_round state event round, word_toNat_succ, if_pos rfl, Nat.mod_add_mod,
        Nat.add_right_comm, Nat.add_assoc]
    | false =>
      rw [system.rounds_other state event round, if_neg Bool.false_ne_true, Nat.add_zero]

/-- A list with more rounds than a number has one after so many others.

Induct over the list. The first event is the round, or it is passed over. -/
theorem exists_round (events : List Event) (number : Nat) (more : number < system.roundsIn events) :
    ∃ before round later, events = before ++ round :: later ∧ system.isRound round = true ∧
      system.roundsIn before = number := by
  induction events generalizing number with
  | nil => cases more
  | cons event rest inductionHypothesis =>
    rw [roundsIn_cons] at more
    cases here : system.isRound event with
    | false =>
      rw [here, if_neg Bool.false_ne_true] at more
      obtain ⟨before, round, later, rfl, isRound, counted⟩ := inductionHypothesis number more
      refine ⟨event :: before, round, later, rfl, isRound, ?_⟩
      rw [roundsIn_cons, here, if_neg Bool.false_ne_true, counted, Nat.add_zero]
    | true =>
      cases number with
      | zero => exact ⟨[], event, rest, rfl, here, rfl⟩
      | succ fewer =>
        rw [here, if_pos rfl] at more
        obtain ⟨before, round, later, rfl, isRound, counted⟩ :=
          inductionHypothesis fewer (Nat.lt_of_succ_lt_succ more)
        refine ⟨event :: before, round, later, rfl, isRound, ?_⟩
        rw [roundsIn_cons, here, if_pos rfl, counted]

/-- A round takes the turn of the number after that of the counter. -/
theorem takesTurn_step (state : State) (event : Event) (round : system.isRound event = true) :
    system.TakesTurn (system.interval state).toNat (((system.rounds state).toNat + 1) % UInt32.size)
      state (system.step state event) := by
  rw [← word_toNat_succ]
  constructor
  · intro turn
    exact system.resets state event round ((word_mod_eq_zero_iff _ _).mpr turn)
  · intro waits
    exact system.keeps state event round (mt (word_mod_eq_zero_iff _ _).mp waits)

/-- In a run the rounds take the turns of the numbers after that of the counter. -/
theorem takesTurn_after (start : State) (earlier : List Event) (round : Event)
    (isRound : system.isRound round = true) :
    system.TakesTurn (system.interval start).toNat
      (((system.rounds start).toNat + system.roundsIn earlier + 1) % UInt32.size)
      (system.after start earlier) (system.after start (earlier ++ [round])) := by
  have turn := system.takesTurn_step (system.after start earlier) round isRound
  rw [interval_after, rounds_after, Nat.mod_add_mod] at turn
  rw [after_append]
  exact turn

/-- In every run the rounds keep the cadence, if they are counted from zero. -/
theorem paced (start : State) (fresh : system.rounds start = 0)
    (positive : 0 < (system.interval start).toNat) :
    system.Paced (system.interval start).toNat start := by
  have turns (earlier : List Event) (round : Event) (isRound : system.isRound round = true) :
      system.TakesTurn (system.interval start).toNat ((system.roundsIn earlier + 1) % UInt32.size)
        (system.after start earlier) (system.after start (earlier ++ [round])) := by
    have turn := system.takesTurn_after start earlier round isRound
    rw [fresh] at turn
    simpa only [UInt32.toNat_zero, Nat.zero_add] using turn
  refine ⟨?_, turns, ?_⟩
  · intro earlier events long
    -- The counter need not be at a multiple of the interval where the window begins.
    obtain ⟨further, inside, turn⟩ :=
      exists_turn (system.rounds (system.after start earlier)) positive
    obtain ⟨before, round, later, split, isRound, counted⟩ :=
      system.exists_round events further (long ▸ inside)
    refine ⟨before, round, later, split, isRound, ?_⟩
    have taken := system.takesTurn_after (system.after start earlier) before round isRound
    rw [counted, interval_after, ← after_append, ← after_append] at taken
    exact taken.resets turn
  · intro earlier round isRound unwrapped
    have turn := turns earlier round isRound
    rwa [Nat.mod_eq_of_lt unwrapped] at turn

end RoundSystem

/-- Whether what was done to a session is a collection. -/
def DirectEvent.isCollection : DirectEvent → Bool
  | .regular .collected => true
  | _ => false

/-- Nothing else is a collection. -/
theorem DirectEvent.eq_of_isCollection {event : DirectEvent} (round : event.isCollection = true) :
    event = .regular .collected := by
  cases event with
  | regular event =>
    cases event with
    | collected => rfl
    | _ => cases round
  | _ => cases round

namespace Session

/-- Nothing that is done to a session changes its options. -/
theorem options_stepDirect (session : Session) (event : DirectEvent) :
    (session.stepDirect event).options = session.options := by
  cases event with
  | regular event => exact session.options_step event
  | _ => rfl

/-- Nothing but a collection counts a round of a session. -/
theorem rounds_stepDirect (session : Session) (event : DirectEvent)
    (other : event.isCollection = false) :
    (session.stepDirect event).rounds = session.rounds := by
  cases event with
  | regular event =>
    refine session.rounds_step event ?_
    rintro rfl
    cases other
  | _ => rfl

/-- A session whose tables are within the reach of its caller, as a system of rounds. -/
def roundSystem : RoundSystem Session DirectEvent where
  step := stepDirect
  isRound := DirectEvent.isCollection
  rounds := rounds
  interval session := session.options.stacksResetInterval
  stack session := session.stackStore.lookup
  Referenced := Referenced
  interval_step session event := congrArg Options.stacksResetInterval
    (session.options_stepDirect event)
  rounds_round session event round := by
    rw [DirectEvent.eq_of_isCollection round]
    exact congrArg rounds session.collects.frame
  rounds_other := rounds_stepDirect
  resets session event round turn id := by
    rw [DirectEvent.eq_of_isCollection round]
    exact congrArg (Option.map StackBucket.frames) ((session.collects.cleared turn).2 id)
  keeps session event round waits id unreferenced := by
    rw [DirectEvent.eq_of_isCollection round]
    exact congrArg (Option.map StackBucket.frames) (session.collects.kept waits id unreferenced)

/-- A fresh session keeps the cadence of its options. -/
theorem paced_ofOptions (options : Options) (cpus : UInt32) :
    roundSystem.Paced (max options.stacksResetInterval.toNat 1) (ofOptions options cpus) := by
  have interval : (max options.stacksResetInterval 1).toNat =
      max options.stacksResetInterval.toNat 1 := word_toNat_max _ 1
  rw [← interval]
  refine roundSystem.paced (ofOptions options cpus) rfl ?_
  change 0 < (max options.stacksResetInterval 1).toNat
  omega

end Session

namespace Loader

/-- A collector over a kernel of which no call fails. -/
structure UntroubledCollecting extends Collecting where
  faultless : kernel.faults = []

/-- What can happen to the collector and to the maps that it reads. -/
inductive RoundEvent where
  | collected
  /-- The counts were changed by somebody else. -/
  | countsChanged
      (change : Kernel.HashTable SampleKey UInt32 → Kernel.HashTable SampleKey UInt32)
  /-- The stored stacks were changed by somebody else. -/
  | stacksChanged (change : Entries UInt32 (List UInt64) → Entries UInt32 (List UInt64))

/-- Whether what happened is a collection. -/
def RoundEvent.isCollection : RoundEvent → Bool
  | .collected => true
  | _ => false

namespace UntroubledCollecting

/-- The state after an event. -/
def step (state : UntroubledCollecting) : RoundEvent → UntroubledCollecting
  | .collected =>
    let ended := state.collector.collect.run FaultyKernel.answerCollector state.kernel
    ⟨⟨ended.1.2, ended.2⟩, (state.collector.run_faultless state.kernel state.faultless).2.1⟩
  | .countsChanged change =>
    { state with kernel.counts := change state.kernel.counts, faultless := state.faultless }
  | .stacksChanged change =>
    { state with
      kernel.storedStacks := change state.kernel.storedStacks, faultless := state.faultless }

/-- A bucket is that of one of the stacks of a counted key. -/
def Referenced (state : UntroubledCollecting) (id : UInt32) : Prop :=
  ∃ key count, state.kernel.counts.get? key = some count ∧ Session.Refers key id

/-- After a collection the collector has begun its next round. -/
theorem collector_collected (state : UntroubledCollecting) :
    (state.step .collected).collector = state.collector.begun :=
  congrArg Prod.snd (state.collector.run_faultless state.kernel state.faultless).1

/-- The stacks after a collection are those that the two maps give. -/
theorem stacks_collected (state : UntroubledCollecting) (id : UInt32) :
    (state.step .collected).kernel.storedStacks.lookup id =
      (FailingDeletions.never.mapsAfter state.collector.begun
        state.kernel.profileMaps).storedStacks.lookup id :=
  congrArg (fun maps => maps.storedStacks.lookup id)
    (state.collector.run_faultless state.kernel state.faultless).2.2

/-- A collection frees the stacks of counted keys, and all of them in a round that resets the
stacks. -/
theorem frees_iff (state : UntroubledCollecting) (id : UInt32) :
    FailingDeletions.never.Frees state.collector.begun state.kernel.profileMaps id ↔
      state.collector.begun.Resets ∨ state.Referenced id := by
  have names (key : SampleKey) : key.Names id ↔ Session.Refers key id := by
    simp only [SampleKey.Names, StackStore.bucket?_eq_some_iff, Session.Refers]
  simp only [FailingDeletions.Frees, FailingDeletions.Exports, FailingDeletions.never,
    Option.isSome_iff_exists, names, Referenced, true_and, and_true, exists_and_right]
  rfl

/-- A collector over a kernel of which no call fails, as a system of rounds. -/
def roundSystem : RoundSystem UntroubledCollecting RoundEvent where
  step := step
  isRound := RoundEvent.isCollection
  rounds state := state.collector.rounds
  interval state := state.collector.resetInterval
  stack state := state.kernel.storedStacks.lookup
  Referenced := Referenced
  interval_step state event := by
    cases event with
    | collected =>
      rw [collector_collected]
      rfl
    | _ => rfl
  rounds_round state event round := by
    cases event with
    | collected =>
      rw [collector_collected]
      rfl
    | _ => cases round
  rounds_other state event other := by
    cases event with
    | collected => cases other
    | _ => rfl
  resets state event round turn id := by
    cases event with
    | collected =>
      rw [stacks_collected]
      exact (FailingDeletions.never.stacks_after _ _ id).1 ((state.frees_iff id).mpr (.inl turn))
    | _ => cases round
  keeps state event round waits id unreferenced := by
    cases event with
    | collected =>
      rw [stacks_collected]
      refine (FailingDeletions.never.stacks_after _ _ id).2 ?_
      rw [frees_iff]
      exact not_or.mpr ⟨waits, unreferenced⟩
    | _ => cases round

/-- A fresh collector keeps the cadence of its interval. -/
theorem paced_ofInterval (interval : UInt32) (kernel : FaultyKernel)
    (faultless : kernel.faults = []) :
    roundSystem.Paced (max interval.toNat 1)
      ⟨⟨Collector.ofInterval interval, kernel⟩, faultless⟩ := by
  have least : (max interval 1).toNat = max interval.toNat 1 := word_toNat_max _ 1
  rw [← least]
  refine roundSystem.paced ⟨⟨Collector.ofInterval interval, kernel⟩, faultless⟩ rfl ?_
  change 0 < (max interval 1).toNat
  omega

end UntroubledCollecting
end Loader

/-- No stack lives long without a key that names it. Take a fresh session with an interval,
where zero counts as one, and any run of it, in which ticks may be dropped and the tables of
counts and stacks may be written to by anybody. Of as many collections in a row as the interval
says one leaves no stack. The collection with a number, modulo 2 ^ 32, empties the store if the
number is a multiple of the interval, and otherwise leaves every stack as it was to which no
counted key refers. The same is true of a collector over the maps of a kernel, whatever changes
the maps between its rounds, as long as none of its calls fails. -/
theorem orphaned_stacks_are_short_lived :
    (∀ (options : Options) (cpus : UInt32),
      Session.roundSystem.Paced (max options.stacksResetInterval.toNat 1)
        (Session.ofOptions options cpus)) ∧
      ∀ (interval : UInt32) (kernel : Loader.FaultyKernel) (faultless : kernel.faults = []),
        Loader.UntroubledCollecting.roundSystem.Paced (max interval.toNat 1)
          ⟨⟨Loader.Collector.ofInterval interval, kernel⟩, faultless⟩ :=
  ⟨Session.paced_ofOptions, Loader.UntroubledCollecting.paced_ofInterval⟩

/-- A kernel in which a stack is stored and no key is counted. -/
def orphanedStack : Loader.FaultyKernel :=
  { Loader.FaultyKernel.ofFile ⟨[], []⟩ [] with storedStacks := Entries.empty.set 5 [1, 2] }

/-- Where every third round empties the store, a stack that no key names is there for two
rounds, and gone after the third one. -/
theorem orphaned_stack_freed_in_third_round :
    let system := Loader.UntroubledCollecting.roundSystem
    let start : Loader.UntroubledCollecting :=
      ⟨⟨Loader.Collector.ofInterval 3, orphanedStack⟩, rfl⟩
    system.stack (system.after start [.collected, .collected]) 5 = some [1, 2] ∧
      system.Empty (system.after start ([.collected, .collected] ++ [.collected])) := by
  intro system start
  have paced : system.Paced 3 start := orphaned_stacks_are_short_lived.2 3 orphanedStack rfl
  have third := paced.unwrapped [.collected, .collected] .collected rfl (by decide)
  exact ⟨by decide, third.resets (by decide)⟩

end SamplingProfiler
