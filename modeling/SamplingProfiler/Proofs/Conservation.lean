import SamplingProfiler.Proofs.Runs

/-!
# Conservation of ticks

Every eligible tick is counted once. What collections exported of a process and what
is still counted for it are together as many as its eligible ticks, less those that
were dropped because their key was absent and the table of counts was full. Counters
are words of 32 bits, so this holds modulo 2 ^ 32.

An event moves at most one unit: a tick adds one to the counts, and a collection
moves the counts to the export. The law for one event is proved from what the event
does, and the law for a run adds these up.
-/

namespace SamplingProfiler
namespace Session

/-- The count of a key as far as the key is one of those that are asked for. -/
def countIf (asked : SampleKey → Prop) [DecidablePred asked] (key : SampleKey)
    (count : UInt32) : Nat :=
  if asked key then count.toNat else 0

/-- The count of a key as far as it is one of a process. -/
def ofProcess (pid : UInt32) (key : SampleKey) (count : UInt32) : Nat :=
  if key.pid = pid then count.toNat else 0

/-- The keys of a process are asked for by their process. -/
theorem ofProcess_eq_countIf (pid : UInt32) :
    ofProcess pid = countIf fun key => key.pid = pid := rfl

/-- The counts of a process that were not collected yet, together. -/
def countedOf (session : Session) (pid : UInt32) : Nat :=
  session.counts.entries.total (ofProcess pid)

/-- The counts of a process in a list of samples, together. -/
def exportedOf (pid : UInt32) (samples : List ProfileSample) : Nat :=
  sumOf (fun sample => ofProcess pid sample.key sample.count) samples

/-- Whether an eligible tick finds its key absent, and no room for it. -/
def isDropped (session : Session) (task : Task) : Bool :=
  session.isEligible task &&
    (session.policies.get? task.pid).any fun policy =>
      (session.counts.get? (session.tickKey task policy)).isNone &&
        session.counts.entries.size == session.counts.capacity.toNat

/-- What an event exports of a process. -/
def exportedBy (pid : UInt32) (session : Session) : SessionEvent → Nat
  | .collected => exportedOf pid session.collect.1
  | _ => 0

/-- One for a tick of a process that passes a test, and nothing for any other event. -/
def ticksThat (passes : Session → Task → Bool) (pid : UInt32) (session : Session) :
    SessionEvent → Nat
  | .sampled task => if task.pid = pid ∧ passes session task = true then 1 else 0
  | _ => 0

/-- A measure of events, summed up along a run. -/
def summed (measure : Session → SessionEvent → Nat) (session : Session) :
    List SessionEvent → Nat
  | [] => 0
  | event :: rest => measure session event + summed measure (session.step event) rest

/-- A measure that is nowhere larger has no larger sum. -/
theorem summed_le (smaller larger : Session → SessionEvent → Nat)
    (ordered : ∀ session event, smaller session event ≤ larger session event)
    (session : Session) (events : List SessionEvent) :
    session.summed smaller events ≤ session.summed larger events := by
  induction events generalizing session with
  | nil => exact Nat.le_refl 0
  | cons event rest inductionHypothesis =>
    exact Nat.add_le_add (ordered session event) (inductionHypothesis _)

/-- Counting a key once adds one to the total of the keys that are asked for, if it is one of
them and is not refused. -/
theorem KeyCounted.total {counts next : BoundedMap SampleKey UInt32} {key : SampleKey}
    {outcome : Outcome} (counted : KeyCounted counts key outcome next)
    (asked : SampleKey → Prop) [DecidablePred asked] :
    (next.entries.total (countIf asked) +
        if outcome = .sampleKeyRace then countIf asked key 1 else 0) % UInt32.size =
      (counts.entries.total (countIf asked) + countIf asked key 1) % UInt32.size := by
  cases counted with
  | raised count present =>
    have exchanged := counts.entries.total_set (countIf asked) key (count + 1)
    have found : counts.entries.lookup key = some count := present
    simp only [Entries.weightAt, found, Option.map_some, Option.getD_some, countIf,
      UInt32.toNat_add] at exchanged
    simp only [countIf, reduceCtorEq, if_false, UInt32.reduceToNat, UInt32.size] at exchanged ⊢
    by_cases owned : asked key
    · simp only [owned, if_true] at exchanged ⊢
      omega
    · simp only [owned, if_false] at exchanged ⊢
      omega
  | written absent room =>
    have added := counts.entries.total_set (countIf asked) key 1
    have missing : counts.entries.lookup key = none := absent
    simp only [Entries.weightAt, missing, Option.map_none, Option.getD_none] at added
    simp only [reduceCtorEq, if_false, added]
  | refused => simp

/-- A tick finds no room for its key exactly if it is dropped. -/
theorem sample_keyRace_iff (session : Session) (task : Task)
    (consistent : session.counts.Consistent) :
    (session.sample task).1 = .sampleKeyRace ↔ session.isDropped task = true := by
  cases eligible : session.isEligible task with
  | false =>
    have unconcerned := (session.sample_uncounted task eligible).2
    constructor
    · intro raced
      simp [raced, Sampler.concernsKey] at unconcerned
    · intro dropped
      simp [isDropped, eligible] at dropped
  | true =>
    obtain ⟨admitted, policy, known, kind⟩ := (session.isEligible_iff task).mp eligible
    have counted := session.counted_counts task policy consistent
    rw [session.sample_counting task policy admitted known kind]
    simp only [isDropped, eligible, known, Bool.true_and, Option.any_some]
    generalize (session.countTick task policy).1 = outcome at counted ⊢
    generalize (session.countTick task policy).2.counts = next at counted
    cases counted with
    | raised count present => simp [present]
    | written absent room => simp [absent, Nat.ne_of_lt room]
    | refused absent full => simp [absent, full]

/-- An eligible tick that is not dropped raises the count of its key by one, whatever
its captures answered. -/
theorem count_of_tick (session : Session) (task : Task) (policy : Policy)
    (consistent : session.counts.Consistent) (eligible : session.isEligible task = true)
    (known : session.policies.get? task.pid = some policy)
    (kept : session.isDropped task = false) :
    (session.sample task).2.counts.get? (session.tickKey task policy) =
      some ((session.counts.get? (session.tickKey task policy)).getD 0 + 1) := by
  have unraced : (session.sample task).1 ≠ .sampleKeyRace := by
    rw [ne_eq, session.sample_keyRace_iff task consistent, kept]
    exact Bool.false_ne_true
  obtain ⟨admitted, other, found, kind⟩ := (session.isEligible_iff task).mp eligible
  cases known.symm.trans found
  have counted := session.counted_counts task policy consistent
  rw [session.sample_counting task policy admitted known kind] at unraced ⊢
  generalize (session.countTick task policy).1 = outcome at counted unraced
  simp only [record]
  generalize (session.countTick task policy).2.counts = next at counted ⊢
  cases counted with
  | raised count present =>
    rw [present]
    simp only [BoundedMap.get?, Entries.lookup_set, if_true, Option.getD_some]
  | written absent room =>
    rw [absent]
    simp only [BoundedMap.get?, Entries.lookup_set, if_true, Option.getD_none, UInt32.zero_add]
  | refused => exact absurd rfl unraced

/-- The samples that a collection exports weigh what the counts weighed. -/
theorem sumOf_collect (session : Session) (weight : SampleKey → UInt32 → Nat) :
    sumOf (fun sample => weight sample.key sample.count) session.collect.1 =
      session.counts.entries.total weight := by
  simp only [collect_eq, Entries.total, BoundedMap.pairs, sumOf_map, exportedSample]

/-- What a collection exports of a process is what was counted of it. -/
theorem exportedOf_collect (session : Session) (pid : UInt32) :
    exportedOf pid session.collect.1 = session.countedOf pid :=
  session.sumOf_collect (ofProcess pid)

/-- After a collection nothing weighs anything. -/
theorem total_collect (session : Session) (weight : SampleKey → UInt32 → Nat) :
    session.collect.2.counts.entries.total weight = 0 := by
  simp [collect_eq, BoundedMap.drain_eq]

/-- One event conserves ticks: exports, counts and drops move together. -/
theorem conserved_step (session : Session) (event : SessionEvent) (pid : UInt32)
    (consistent : session.counts.Consistent) :
    (exportedBy pid session event + (session.step event).countedOf pid +
        ticksThat isDropped pid session event) % UInt32.size =
      (session.countedOf pid + ticksThat isEligible pid session event) % UInt32.size := by
  generalize reached : session.step event = next
  cases reached ▸ session.step_effect event with
  | counted task policy eligible known ticked =>
    have counted := (session.counted_counts task policy consistent).total fun key =>
      key.pid = pid
    have raced := session.sample_keyRace_iff task consistent
    have owned : (session.tickKey task policy).pid = task.pid := rfl
    rw [ticked] at raced ⊢
    simp only [exportedBy, countedOf, ticksThat, ofProcess_eq_countIf, countIf, owned, eligible,
      and_true, UInt32.reduceToNat, raced, record, Nat.zero_add] at counted ⊢
    rw [← counted]
    by_cases dropped : session.isDropped task = true <;> simp [dropped]
  | collected =>
    have emptied : session.collect.2.countedOf pid = 0 := session.total_collect _
    simp only [exportedBy, ticksThat, exportedOf_collect, emptied, Nat.add_zero]
  | elsewhere _ _ other ineligible same =>
    have unexported : exportedBy pid session event = 0 := by
      cases event with
      | collected => exact absurd rfl other
      | _ => rfl
    have uncounted : ticksThat isEligible pid session event = 0 := by
      cases event with
      | sampled task => simp [ticksThat, ineligible task rfl]
      | _ => rfl
    have undropped : ticksThat isDropped pid session event = 0 := by
      cases event with
      | sampled task => simp [ticksThat, isDropped, ineligible task rfl]
      | _ => rfl
    simp only [unexported, uncounted, undropped, countedOf, same.counts, Nat.zero_add]

/-- A run conserves ticks, from wherever it starts. -/
theorem conserved_run (session : Session) (events : List SessionEvent) (pid : UInt32)
    (consistent : session.counts.Consistent) :
    (session.summed (exportedBy pid) events + (session.after events).countedOf pid +
        session.summed (ticksThat isDropped pid) events) % UInt32.size =
      (session.countedOf pid + session.summed (ticksThat isEligible pid) events) %
        UInt32.size := by
  induction events generalizing session with
  | nil => simp [summed]
  | cons event rest inductionHypothesis =>
    have first := session.conserved_step event pid consistent
    have remaining := inductionHypothesis _ (session.step_consistent event consistent)
    simp only [summed, after_cons, UInt32.size] at first remaining ⊢
    omega

/-- Every eligible tick is counted once. In every run of a fresh session, and for
every process, what was exported and what is still counted are together its eligible
ticks less the dropped ones, modulo 2 ^ 32. A tick is dropped exactly if its outcome
says that there was no room for its key; any other eligible tick raises the count of
its key by one, also if its captures were refused. No collection exports a key twice.

No more ticks are dropped than are eligible, so the difference is the true one. -/
theorem every_eligible_tick_is_counted_once (options : Options) (cpus : UInt32)
    (events : List SessionEvent) (pid : UInt32) :
    ((ofOptions options cpus).summed (exportedBy pid) events +
        ((ofOptions options cpus).after events).countedOf pid) % UInt32.size =
      ((ofOptions options cpus).summed (ticksThat isEligible pid) events -
        (ofOptions options cpus).summed (ticksThat isDropped pid) events) % UInt32.size ∧
    (ofOptions options cpus).summed (ticksThat isDropped pid) events ≤
      (ofOptions options cpus).summed (ticksThat isEligible pid) events ∧
    (∀ task, (((ofOptions options cpus).after events).sample task).1 = .sampleKeyRace ↔
      ((ofOptions options cpus).after events).isDropped task = true) ∧
    (∀ task policy, ((ofOptions options cpus).after events).isEligible task = true →
      ((ofOptions options cpus).after events).policies.get? task.pid = some policy →
      ((ofOptions options cpus).after events).isDropped task = false →
      (((ofOptions options cpus).after events).sample task).2.counts.get?
          (((ofOptions options cpus).after events).tickKey task policy) =
        some ((((ofOptions options cpus).after events).counts.get?
          (((ofOptions options cpus).after events).tickKey task policy)).getD 0 + 1)) ∧
    (((ofOptions options cpus).after events).collect.1.map ProfileSample.key).Nodup := by
  have consistent := consistent_after options cpus events
  have conserved := (ofOptions options cpus).conserved_run events pid
    (BoundedMap.consistent_ofCapacity _)
  have initial : (ofOptions options cpus).countedOf pid = 0 := rfl
  have fewer : (ofOptions options cpus).summed (ticksThat isDropped pid) events ≤
      (ofOptions options cpus).summed (ticksThat isEligible pid) events := by
    refine summed_le _ _ ?_ _ events
    intro session event
    cases event with
    | sampled task =>
      simp only [ticksThat]
      by_cases counted : task.pid = pid ∧ session.isDropped task = true
      · obtain ⟨own, dropped⟩ := counted
        have eligible : session.isEligible task = true := by
          simp only [isDropped, Bool.and_eq_true] at dropped
          exact dropped.1
        simp [own, dropped, eligible]
      · rw [if_neg counted]
        exact Nat.zero_le _
    | _ => exact Nat.le_refl 0
  refine ⟨?_, fewer, ?_, ?_, nodup_collect_keys _⟩
  · rw [initial, Nat.zero_add] at conserved
    simp only [UInt32.size] at conserved ⊢
    omega
  · intro task
    exact sample_keyRace_iff _ task consistent
  · intro task policy eligible known kept
    exact count_of_tick _ task policy consistent eligible known kept

/-- Two processes to be sampled, and room for one key: the second tick is dropped, and
no capture of the run gives an id. -/
def fullTableRun : List SessionEvent :=
  [.policiesChanged fun policies =>
      ((policies.insert 7 (Policy.ofKind .framePointers true true) UpdateFlags.any).2.insert 8
        (Policy.ofKind .framePointers true true) UpdateFlags.any).2,
    .sampled (Task.ofPid 0 7), .sampled (Task.ofPid 0 8), .collected, .sampled (Task.ofPid 0 8)]

/-- Of the two ticks of process 8 in this run one is left, and its next tick makes
two. -/
theorem full_table_run_conserved :
    ((ofOptions { Options.standard with profileMapsSize := 1 } 1).summed (exportedBy 8)
          fullTableRun +
        ((ofOptions { Options.standard with profileMapsSize := 1 } 1).after
          fullTableRun).countedOf 8) % UInt32.size = 1 ∧
      (((ofOptions { Options.standard with profileMapsSize := 1 } 1).after fullTableRun).sample
        (Task.ofPid 0 8)).2.counts.get? (SampleKey.ofPid 8) = some 2 := by
  obtain ⟨conserved, _, _, raised, _⟩ := every_eligible_tick_is_counted_once
    { Options.standard with profileMapsSize := 1 } 1 fullTableRun 8
  have eligible : (ofOptions { Options.standard with profileMapsSize := 1 } 1).summed
      (ticksThat isEligible 8) fullTableRun = 2 := by decide
  have dropped : (ofOptions { Options.standard with profileMapsSize := 1 } 1).summed
      (ticksThat isDropped 8) fullTableRun = 1 := by decide
  constructor
  · rw [conserved, eligible, dropped]
    rfl
  · exact raised (Task.ofPid 0 8) (Policy.ofKind .framePointers true true) (by decide)
      (by decide) (by decide)

end Session
end SamplingProfiler
