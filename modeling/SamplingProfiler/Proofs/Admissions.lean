import SamplingProfiler.Proofs.FiniteMaps
import SamplingProfiler.Proofs.Conservation
import SamplingProfiler.Proofs.Products

/-!
# Admissions

A session that is used by one caller at a time refuses a new process, or a new key, only for
want of room, and whenever there is none. The outcome that stands for a race of two calls on
one process does not occur at all; the one that stands for a race on a key means that the table
of counts is full.

What carries this is that both tables fit their sizes in the options (`Fitted`), through
whatever is done to the session: no entry point, collection, operation of a controller or
direct request makes a counter wrong or changes a capacity. A table that has lost a key and has
gained none since is smaller than it was (`Thinned.size_lt`), so it has room.

Main statement: `refused_exactly_for_want_of_room`.
-/

namespace SamplingProfiler

namespace BoundedMap

variable {Key Value : Type} [DecidableEq Key]

/-- Removing a key that is present thins a table. -/
theorem thinned_remove (map : BoundedMap Key Value) (key : Key)
    (present : (map.get? key).isSome = true) : map.Thinned (map.remove key).2 := by
  constructor
  · refine ⟨key, present, ?_⟩
    rw [get?_remove, if_pos rfl]
  · intro tested there
    rw [get?_remove] at there
    split at there
    · cases there
    · exact there

end BoundedMap

/-- What can be done with a session, one thing after the other. -/
inductive SessionUse : Type 1 where
  | sampled (task : Task)
  | terminalReleased (task : Task) (onExit : Bool)
  | imageReplaced (task : Task)
  | collected
  /-- A controller ran an operation; the table refused what it was told to. -/
  | tended {Result : Type} (resolver : Resolver) (refusals : Refusals)
    (operation : Controller.Operation Result)
  /-- Something was asked of the table of processes. -/
  | processesAsked {Result : Type} (request : MapRequest UInt32 Policy Result)
  /-- Something was asked of the table of counts. -/
  | countsAsked {Result : Type} (request : MapRequest SampleKey UInt32 Result)
  | stacksChanged (change : StackStore → StackStore)
  | noticesChanged (change : NoticeBuffers → NoticeBuffers)
  | unwindersChanged (change : UnwinderSlots → UnwinderSlots)
  | outcomeRecorded (outcome : Outcome)

namespace SessionUse

/-- A process was removed from its table. -/
def processRemoved (pid : UInt32) : SessionUse :=
  .processesAsked (.remove pid : MapRequest UInt32 Policy Unit)

/-- A key was removed from the table of counts. -/
def keyRemoved (key : SampleKey) : SessionUse :=
  .countsAsked (.remove key : MapRequest SampleKey UInt32 Unit)

end SessionUse

namespace Session

/-- The session after one use. -/
def use (session : Session) : SessionUse → Session
  | .sampled task => (session.sample task).2
  | .terminalReleased task onExit => (session.terminalReleased task onExit).2
  | .imageReplaced task => (session.imageReplaced task).2
  | .collected => session.collect.2
  | .tended resolver refusals operation => (session.tend resolver refusals operation).2.2
  | .processesAsked request => { session with policies := (session.policies.answer request).2 }
  | .countsAsked request => { session with counts := (session.counts.answer request).2 }
  | .stacksChanged change => { session with stackStore := change session.stackStore }
  | .noticesChanged change => { session with notices := change session.notices }
  | .unwindersChanged change => { session with unwinders := change session.unwinders }
  | .outcomeRecorded outcome => session.record outcome

/-- The session after a list of uses. -/
def afterUses (session : Session) (uses : List SessionUse) : Session :=
  uses.foldl use session

/-- The two tables that a tick may find full have their sizes from the options, and their
counters are right. -/
structure Fitted (options : Options) (session : Session) : Prop where
  processes : session.policies.Fits options.maxPids
  counts : session.counts.Fits options.profileMapsSize

section Fitting

variable {options : Options} {session : Session} {task : Task}

/-- The tables of a fresh session fit. -/
theorem fitted_ofOptions (options : Options) (cpus : UInt32) :
    Fitted options (ofOptions options cpus) where
  processes := BoundedMap.fits_ofCapacity options.maxPids
  counts := BoundedMap.fits_ofCapacity options.profileMapsSize

/-- Counting a key leaves the capacity of the table as it is. -/
theorem KeyCounted.capacity {counts next : BoundedMap SampleKey UInt32} {key : SampleKey}
    {outcome : Outcome} (counted : KeyCounted counts key outcome next) :
    next.capacity = counts.capacity := by
  cases counted <;> rfl

/-- Counting a tick does not touch the table of processes. -/
theorem policies_countTick (session : Session) (task : Task) (policy : Policy) :
    (session.countTick task policy).2.policies = session.policies := by
  rw [countTick, countKey_frame, afterCaptures_frame]

/-- A tick leaves tables that fit. -/
theorem Fitted.sample (fitted : Fitted options session) (task : Task) :
    Fitted options (session.sample task).2 := by
  obtain ⟨next, recorded, ticked⟩ := session.sample_ticked task
  suffices kept : Fitted options next by
    rw [recorded]
    exact ⟨kept.processes, kept.counts⟩
  generalize (session.sample task).1 = outcome at ticked
  cases ticked with
  | refused => exact fitted
  | processesFull => exact fitted
  | unprofiled => exact fitted
  | notHandedOver => exact fitted
  | handedOver => exact ⟨fitted.processes, fitted.counts⟩
  | newProcess admitted absent room =>
    have inserted := fitted.processes.insert task.pid Policy.undecided UpdateFlags.onlyNew
    rw [BoundedMap.insert_onlyNew, absent, if_neg room] at inserted
    exact ⟨inserted, fitted.counts⟩
  | counted policy =>
    have counted := session.counted_counts task policy fitted.counts.consistent
    constructor
    · rw [policies_countTick]
      exact fitted.processes
    · constructor
      · exact counted.consistent fitted.counts.consistent
      · exact counted.capacity.trans fitted.counts.sized

/-- A probe leaves tables that fit. -/
theorem Fitted.report (fitted : Fitted options session) (task : Task) (kind : NoticeKind)
    (outcome : Outcome) :
    Fitted options (session.decide task (Sampler.report task.toSubject kind outcome)).2 := by
  rw [report_eq]
  split <;> exact ⟨fitted.processes, fitted.counts⟩

/-- Every use of a session leaves tables that fit. -/
theorem Fitted.use (fitted : Fitted options session) (done : SessionUse) :
    Fitted options (session.use done) := by
  cases done with
  | sampled task => exact fitted.sample task
  | terminalReleased task onExit =>
    cases onExit with
    | false => exact ⟨fitted.processes, fitted.counts⟩
    | true => exact fitted.report task .exited .processExited
  | imageReplaced task => exact fitted.report task .replaced .imageReplaced
  | collected =>
    rw [Session.use, collect_eq]
    exact ⟨fitted.processes, fitted.counts.drain⟩
  | tended resolver refusals operation =>
    refine ⟨?_, fitted.counts⟩
    apply Tending.run_preserves (fun table => table.Fits options.maxPids)
    · intro table pid policy fits
      exact fits.insert pid policy UpdateFlags.any
    · intro table pid fits
      exact fits.remove pid
    · exact fitted.processes
  | processesAsked request => exact ⟨fitted.processes.answer request, fitted.counts⟩
  | countsAsked request => exact ⟨fitted.processes, fitted.counts.answer request⟩
  | stacksChanged | noticesChanged | unwindersChanged | outcomeRecorded =>
    exact ⟨fitted.processes, fitted.counts⟩

/-- Any uses of a session leave tables that fit. -/
theorem Fitted.afterUses (fitted : Fitted options session) (uses : List SessionUse) :
    Fitted options (session.afterUses uses) := by
  induction uses generalizing session with
  | nil => exact fitted
  | cons done rest inductionHypothesis =>
    apply inductionHypothesis
    exact fitted.use done

/-- A key that is counted is counted with an outcome that speaks of it. -/
theorem concernsKey_countTick (session : Session) (task : Task) (policy : Policy) :
    Sampler.concernsKey (session.countTick task policy).1 = true := by
  rw [countTick_eq]
  cases session.counts.get? (session.tickKey task policy) with
  | some count => rfl
  | none =>
    dsimp only
    split <;> rfl

/-- No tick ends with a race on its process. One that ends for want of room had a process that
was absent, found the counter of the table at its capacity, and did nothing. -/
theorem Ticked.unplaced {outcome : Outcome} {next : Session}
    (ticked : Ticked session task outcome next) :
    outcome ≠ .newProcessRace ∧
      (outcome = .processesFull → Sampler.refusal? task.toSubject = none ∧
        session.policies.get? task.pid = none ∧
        session.policies.capacity ≤ session.policies.count ∧ next = session) := by
  cases ticked with
  | refused _ reason =>
    have others : ∀ refusal ∈ Sampler.refusals,
        refusal ≠ .newProcessRace ∧ refusal ≠ .processesFull := by decide
    obtain ⟨unraced, placed⟩ := others outcome (Sampler.refusal_mem _ _ reason)
    exact ⟨unraced, fun full => absurd full placed⟩
  | processesFull admitted absent full => exact ⟨by decide, fun _ => ⟨admitted, absent, full, rfl⟩⟩
  | newProcess => exact ⟨nofun, nofun⟩
  | handedOver => exact ⟨nofun, nofun⟩
  | notHandedOver => exact ⟨nofun, nofun⟩
  | unprofiled policy _ admitted known reason =>
    obtain ⟨-, rfl⟩ | ⟨-, rfl⟩ | ⟨-, rfl⟩ := reason <;> exact ⟨nofun, nofun⟩
  | counted policy =>
    have concerned := session.concernsKey_countTick task policy
    constructor
    · intro raced
      rw [raced] at concerned
      cases concerned
    · intro full
      rw [full] at concerned
      cases concerned

/-- How a tick of an absent process ends: it is refused and nothing is left of it, or the
process is written, and there is room for it. -/
inductive Placed (options : Options) (session : Session) (task : Task) : Prop where
  | refused (full : session.policies.entries.size = options.maxPids.toNat)
      (ended : session.sample task = (.processesFull, session.record .processesFull))
  | admitted (room : session.policies.entries.size < options.maxPids.toNat)
      (ended : (session.sample task).1 = .newProcess)
      (written : (session.sample task).2.policies.get? task.pid = some Policy.undecided)

/-- A tick of an absent process is refused in a full table, and admitted in any other. -/
theorem Fitted.placed (fitted : Fitted options session)
    (admitted : Sampler.refusal? task.toSubject = none)
    (absent : session.policies.get? task.pid = none) : Placed options session task := by
  have full := fitted.processes.consistent.full_iff
  have bounded := fitted.processes.consistent.bounded
  rw [fitted.processes.sized] at full bounded
  obtain ⟨next, recorded, ticked⟩ := session.sample_ticked task
  generalize reached : (session.sample task).1 = outcome at recorded ticked
  cases ticked with
  | refused _ reason => simp [reason] at admitted
  | unprofiled _ _ _ known => simp [known] at absent
  | handedOver _ _ _ known => simp [known] at absent
  | notHandedOver _ _ _ known => simp [known] at absent
  | counted _ _ known => simp [known] at absent
  | processesFull _ _ noRoom =>
    rw [fitted.processes.sized] at noRoom
    exact .refused (full.mp noRoom) (Prod.ext reached recorded)
  | newProcess _ _ room =>
    rw [fitted.processes.sized, full] at room
    refine .admitted (Nat.lt_of_le_of_ne bounded room) reached ?_
    rw [recorded]
    simp [record, BoundedMap.get?, Entries.lookup_set]

/-- How a tick of an absent key ends: it is refused, or the key is written, and there is room
for it. -/
inductive KeyPlaced (options : Options) (session : Session) (task : Task) (policy : Policy) :
    Prop where
  | refused (full : session.counts.entries.size = options.profileMapsSize.toNat)
      (ended : (session.sample task).1 = .sampleKeyRace)
  | admitted (room : session.counts.entries.size < options.profileMapsSize.toNat)
      (ended : (session.sample task).1 = .sampleNewKey)
      (written : (session.sample task).2.counts.get? (session.tickKey task policy) = some 1)

/-- A tick of an absent key is refused in a full table, and admitted in any other. -/
theorem Fitted.keyPlaced (fitted : Fitted options session)
    (admitted : Sampler.refusal? task.toSubject = none) {policy : Policy}
    (known : session.policies.get? task.pid = some policy)
    (kind : policy.kind? = some .framePointers)
    (absent : session.counts.get? (session.tickKey task policy) = none) :
    KeyPlaced options session task policy := by
  have counting := session.sample_counting task policy admitted known kind
  have outcome : (session.countTick task policy).1 = (session.sample task).1 := by rw [counting]
  have counts : (session.countTick task policy).2.counts = (session.sample task).2.counts := by
    rw [counting]
    rfl
  have counted := session.counted_counts task policy fitted.counts.consistent
  rw [outcome, counts] at counted
  generalize ended : (session.sample task).1 = outcome at counted
  generalize left : (session.sample task).2.counts = next at counted
  cases counted with
  | raised count present => simp [absent] at present
  | refused _ full =>
    rw [fitted.counts.sized] at full
    exact .refused full ended
  | written _ room =>
    rw [fitted.counts.sized] at room
    refine .admitted room ended ?_
    simp [left, BoundedMap.get?, Entries.lookup_set]

end Fitting

/-- What it means that a tick is refused exactly for want of room. It does not end with a race
on its process. It ends without a place for it exactly if the process is absent and there are
as many as the options allow, and then nothing has changed but the tally. It ends without a
place for its key exactly if frame pointers are followed, the key is absent, and there are as
many as the options allow. -/
structure RefusedForRoom (options : Options) (session : Session) (task : Task) : Prop where
  unraced : (session.sample task).1 ≠ .newProcessRace
  process_iff : (session.sample task).1 = .processesFull ↔
    Sampler.refusal? task.toSubject = none ∧ session.policies.get? task.pid = none ∧
      session.policies.entries.size = options.maxPids.toNat
  unchanged : (session.sample task).1 = .processesFull →
    (session.sample task).2 = session.record .processesFull
  key_iff : (session.sample task).1 = .sampleKeyRace ↔
    Sampler.refusal? task.toSubject = none ∧ ∃ policy,
      session.policies.get? task.pid = some policy ∧ policy.kind? = some .framePointers ∧
        session.counts.get? (session.tickKey task policy) = none ∧
        session.counts.entries.size = options.profileMapsSize.toNat

/-- What it means that a session admits again what there is room for again. Where the table of
processes was thinned, the next new process is written. Where the table of counts was thinned,
the next new key is. -/
structure Readmits (before after : Session) : Prop where
  process : before.policies.Thinned after.policies → ∀ task,
    Sampler.refusal? task.toSubject = none → after.policies.get? task.pid = none →
    (after.sample task).1 = .newProcess ∧
      (after.sample task).2.policies.get? task.pid = some Policy.undecided
  key : before.counts.Thinned after.counts → ∀ task policy,
    Sampler.refusal? task.toSubject = none → after.policies.get? task.pid = some policy →
    policy.kind? = some .framePointers → after.counts.get? (after.tickKey task policy) = none →
    (after.sample task).1 = .sampleNewKey ∧
      (after.sample task).2.counts.get? (after.tickKey task policy) = some 1

section Admitting

variable {options : Options} {session : Session}

/-- A tick ends without a place for its process exactly if that is absent and the table of
processes is full. -/
theorem Fitted.processesFull_iff (fitted : Fitted options session) (task : Task) :
    (session.sample task).1 = .processesFull ↔
      Sampler.refusal? task.toSubject = none ∧ session.policies.get? task.pid = none ∧
        session.policies.entries.size = options.maxPids.toNat := by
  constructor
  · intro ended
    obtain ⟨next, -, ticked⟩ := session.sample_ticked task
    obtain ⟨admitted, absent, full, -⟩ := ticked.unplaced.2 ended
    rw [fitted.processes.consistent.full_iff, fitted.processes.sized] at full
    exact ⟨admitted, absent, full⟩
  · rintro ⟨admitted, absent, full⟩
    cases fitted.placed admitted absent with
    | refused _ ended => rw [ended]
    | admitted room => exact absurd full (Nat.ne_of_lt room)

/-- A tick ends without a place for its key exactly if frame pointers are followed, the key is
absent and the table of counts is full. -/
theorem Fitted.keyRace_iff (fitted : Fitted options session) (task : Task) :
    (session.sample task).1 = .sampleKeyRace ↔
      Sampler.refusal? task.toSubject = none ∧ ∃ policy,
        session.policies.get? task.pid = some policy ∧ policy.kind? = some .framePointers ∧
          session.counts.get? (session.tickKey task policy) = none ∧
          session.counts.entries.size = options.profileMapsSize.toNat := by
  constructor
  · intro ended
    have dropped := (session.sample_keyRace_iff task fitted.counts.consistent).mp ended
    simp only [isDropped, Bool.and_eq_true, isEligible_iff] at dropped
    obtain ⟨⟨admitted, policy, known, kind⟩, unplaced⟩ := dropped
    simp only [known, Option.any_some, Bool.and_eq_true, Option.isNone_iff_eq_none, beq_iff_eq,
      fitted.counts.sized] at unplaced
    exact ⟨admitted, policy, known, kind, unplaced⟩
  · rintro ⟨admitted, policy, known, kind, absent, full⟩
    cases fitted.keyPlaced admitted known kind absent with
    | refused _ ended => exact ended
    | admitted room => exact absurd full (Nat.ne_of_lt room)

/-- In a session whose tables fit, a tick is refused exactly for want of room. -/
theorem Fitted.refusedForRoom (fitted : Fitted options session) (task : Task) :
    RefusedForRoom options session task := by
  obtain ⟨next, recorded, ticked⟩ := session.sample_ticked task
  obtain ⟨unraced, unplaced⟩ := ticked.unplaced
  constructor
  · exact unraced
  · exact fitted.processesFull_iff task
  · intro ended
    obtain ⟨-, -, -, rfl⟩ := unplaced ended
    rw [recorded, ended]
  · exact fitted.keyRace_iff task

/-- A session whose tables fit admits again what there is room for again. -/
theorem Fitted.readmits (fitted : Fitted options session) {later : Session}
    (fittedLater : Fitted options later) : Readmits session later := by
  constructor
  · intro thinned task admitted absent
    have fewer := thinned.size_lt
    have bounded := fitted.processes.consistent.bounded
    rw [fitted.processes.sized] at bounded
    cases fittedLater.placed admitted absent with
    | refused full => omega
    | admitted _ ended written => exact ⟨ended, written⟩
  · intro thinned task policy admitted known kind absent
    have fewer := thinned.size_lt
    have bounded := fitted.counts.consistent.bounded
    rw [fitted.counts.sized] at bounded
    cases fittedLater.keyPlaced admitted known kind absent with
    | refused full => omega
    | admitted _ ended written => exact ⟨ended, written⟩

end Admitting

/-- Ticks are refused exactly for want of room. In every session that was made with options and
then used in any way, one use after the other, no tick ends with a race on its process. A tick
finds the table of processes full exactly if its process is absent and the table is, and leaves
nothing behind then. Its key is refused exactly if it is absent and the table of counts is full.
Removing a key that is present thins a table, and from then on the next new process or key is
admitted, whatever else was done meanwhile that brought no other key. -/
theorem refused_exactly_for_want_of_room (options : Options) (cpus : UInt32)
    (uses : List SessionUse) :
    let session := (ofOptions options cpus).afterUses uses
    (∀ task, RefusedForRoom options session task) ∧
      (∀ pid, (session.policies.get? pid).isSome = true →
        session.policies.Thinned (session.use (.processRemoved pid)).policies) ∧
      (∀ key, (session.counts.get? key).isSome = true →
        session.counts.Thinned (session.use (.keyRemoved key)).counts) ∧
      ∀ later, Readmits session (session.afterUses later) := by
  intro session
  have fitted : Fitted options session := (fitted_ofOptions options cpus).afterUses uses
  refine ⟨?_, session.policies.thinned_remove, session.counts.thinned_remove, ?_⟩
  · intro task
    exact fitted.refusedForRoom task
  · intro later
    exact fitted.readmits (fitted.afterUses later)

/-- There is one place for a process and one for a key. The controller hears of process 7 and
writes it, and then a count is written for process 9. -/
def crowdedUses : List SessionUse :=
  let following : Resolver :=
    { resolve := fun _ => some (Policy.ofKind .framePointers true true), isAlive := fun _ => true }
  let counted : MapRequest SampleKey UInt32 Unit :=
    .insert (SampleKey.ofPid 9) 1 UpdateFlags.any
  [.sampled (Task.ofPid 0 7),
    .tended following Refusals.none (Controller.initial.handle (Notice.ofKind .firstSeen 7)),
    .countsAsked counted]

/-- In this session process 8 and the first key of process 7 are refused. The process is
admitted when process 7 was removed, and the key after a collection. -/
theorem crowded_session_readmits :
    let session := (ofOptions { Options.standard with maxPids := 1, profileMapsSize := 1 }
      1).afterUses crowdedUses
    (session.sample (Task.ofPid 0 8)).1 = .processesFull ∧
      (session.sample (Task.ofPid 0 7)).1 = .sampleKeyRace ∧
      ((session.afterUses [.processRemoved 7]).sample (Task.ofPid 0 8)).1 = .newProcess ∧
      ((session.afterUses [.collected]).sample (Task.ofPid 0 7)).1 = .sampleNewKey := by
  intro session
  obtain ⟨refused, removed, -, readmits⟩ := refused_exactly_for_want_of_room
    { Options.standard with maxPids := 1, profileMapsSize := 1 } 1 crowdedUses
  have known : session.policies.get? 7 = some (Policy.ofKind .framePointers true true) := by decide
  refine ⟨?_, ?_, ?_, ?_⟩
  · exact (refused (Task.ofPid 0 8)).process_iff.mpr ⟨by decide, by decide, by decide⟩
  · exact (refused (Task.ofPid 0 7)).key_iff.mpr
      ⟨by decide, _, known, by decide, by decide, by decide⟩
  · exact ((readmits [.processRemoved 7]).process (removed 7 (by decide)) (Task.ofPid 0 8)
      (by decide) (by decide)).1
  · have thinned : session.counts.Thinned (session.afterUses [.collected]).counts := by
      constructor
      · exact ⟨SampleKey.ofPid 9, by decide, by decide⟩
      · intro key there
        cases there
    exact ((readmits [.collected]).key thinned (Task.ofPid 0 7) _ (by decide) known
      (by decide) (by decide)).1

end Session
end SamplingProfiler
