import SamplingProfiler.Proofs.Interleavings

/-!
# Arrivals and departures

A log in which nothing arrives twice without leaving in between. This is so whenever
what arrives is present from then on until it leaves, and arrives only where it is not
present. The two facts are kept together along a log that grows, and are used twice:
for the keys of the table of counts, and for the processes of the table of policies.
-/

namespace SamplingProfiler

/-- Between any two arrivals of a log, the last one first, something leaves. -/
def Separated (arrives leaves : Occurrence → Prop) (log : List Occurrence) : Prop :=
  ∀ later second between first earlier, log = later ++ second :: (between ++ first :: earlier) →
    arrives first → arrives second → ∃ occurrence ∈ between, leaves occurrence

/-- What arrived and did not leave is present, and arrivals are separated. -/
structure Alternates (arrives leaves : Occurrence → Prop) (present : Prop)
    (log : List Occurrence) : Prop where
  standing : ∀ between first earlier, log = between ++ first :: earlier → arrives first →
    (∀ occurrence ∈ between, ¬ leaves occurrence) → present
  separated : Separated arrives leaves log

/-- In an empty log nothing arrived. -/
theorem alternates_nil (arrives leaves : Occurrence → Prop) (present : Prop) :
    Alternates arrives leaves present [] := by
  constructor
  · intro between first earlier parted
    simp at parted
  · intro later second between first earlier parted
    simp at parted

/-- A log goes on alternating if arrivals find nothing present and leave it present, and
only departures take it away. -/
theorem Alternates.cons {arrives leaves : Occurrence → Prop} {present next : Prop}
    {log : List Occurrence} {occurrence : Occurrence}
    (alternates : Alternates arrives leaves present log)
    (arrival : arrives occurrence → ¬ present ∧ next)
    (stays : ¬ leaves occurrence → present → next) :
    Alternates arrives leaves next (occurrence :: log) := by
  constructor
  · intro between first earlier parted arrived left
    cases between with
    | nil =>
      obtain ⟨rfl, rfl⟩ := List.cons.inj parted
      exact (arrival arrived).2
    | cons last between =>
      obtain ⟨rfl, rest⟩ := List.cons.inj parted
      refine stays (left occurrence (by simp)) ?_
      exact alternates.standing between first earlier rest arrived
        fun other member => left other (by simp [member])
  · intro later second between first earlier parted arrivedFirst arrivedSecond
    cases later with
    | nil =>
      obtain ⟨rfl, rest⟩ := List.cons.inj parted
      apply Classical.byContradiction
      intro unseparated
      refine (arrival arrivedSecond).1 ?_
      refine alternates.standing between first earlier rest arrivedFirst ?_
      intro other member leaves
      exact unseparated ⟨other, member, leaves⟩
    | cons last later =>
      obtain ⟨rfl, rest⟩ := List.cons.inj parted
      exact alternates.separated later second between first earlier rest arrivedFirst arrivedSecond

namespace Occurrence

/-- A new key was written by a sampling interrupt. -/
def WritesKey (key : SampleKey) : Occurrence → Prop
  | .ofTick ⟨.insertCount written _, .ok ()⟩ => written = key
  | _ => False

/-- A key was removed by a collection. -/
def TakesKey (key : SampleKey) : Occurrence → Prop
  | .ofCollection ⟨.takeCount taken, some _⟩ => taken = key
  | _ => False

/-- A new process was written by a sampling interrupt. -/
def ReportsProcess (pid : UInt32) : Occurrence → Prop
  | .ofTick ⟨.insertPolicy written _, .ok ()⟩ => written = pid
  | _ => False

/-- A process was found and removed. -/
def RemovesProcess (pid : UInt32) : Occurrence → Prop
  | .policyRemoved removed (some _) => removed = pid
  | _ => False

end Occurrence

/-- What happens to a session with each occurrence. -/
inductive Happens (session : Session) : Occurrence → Session → Prop where
  | ofTick (task : Task) (call : Sampler.Call) :
      Happens session (.ofTick ⟨call, (Session.answer task call session).1⟩)
        (Session.answer task call session).2
  | ofCollection (call : Collection.Call) :
      Happens session (.ofCollection ⟨call, (Session.answerCollection call session).1⟩)
        (Session.answerCollection call session).2
  | policyWritten (pid : UInt32) (policy : Policy) (flags : UInt64) :
      Happens session (.policyWritten pid) (session.insertPolicy pid policy flags).2
  | policyRemoved (pid : UInt32) :
      Happens session (.policyRemoved pid (session.policies.remove pid).1)
        { session with policies := (session.policies.remove pid).2 }

namespace BoundedMap

variable {Key Value : Type} [DecidableEq Key]

/-- A new key that is accepted was absent before, and is present then. -/
theorem isSome_get?_arrival (map : BoundedMap Key Value) (key : Key) (value : Value)
    (accepted : (map.insert key value UpdateFlags.onlyNew).1 = .ok ()) :
    ¬ (map.get? key).isSome = true ∧
      ((map.insert key value UpdateFlags.onlyNew).2.get? key).isSome = true := by
  obtain ⟨absent, _⟩ := map.insert_onlyNew_accepted key value accepted
  rw [map.get?_insert_ok key key value _ accepted, absent, if_pos rfl]
  exact ⟨Bool.false_ne_true, rfl⟩

/-- Whatever is inserted, a present key stays present. -/
theorem isSome_get?_insert (map : BoundedMap Key Value) (key tested : Key) (value : Value)
    (flags : UInt64) (present : (map.get? tested).isSome = true) :
    ((map.insert key value flags).2.get? tested).isSome = true := by
  cases inserted : (map.insert key value flags).1 with
  | error refusal => rwa [map.insert_error key value flags refusal inserted]
  | ok accepted =>
    rw [map.get?_insert_ok key tested value flags inserted]
    split
    · rfl
    · exact present

/-- Changing the value of one key, a present key stays present. -/
theorem isSome_get?_update (map : BoundedMap Key Value) (key tested : Key)
    (change : Value → Value) (present : (map.get? tested).isSome = true) :
    ((map.update key change).2.get? tested).isSome = true := by
  simp only [update]
  cases map.get? key with
  | none => exact present
  | some value =>
    simp only [get?, Entries.lookup_set]
    split
    · rfl
    · exact present

/-- Removing one key, another stays present. -/
theorem isSome_get?_remove (map : BoundedMap Key Value) (key tested : Key) (other : key ≠ tested)
    (present : (map.get? tested).isSome = true) :
    ((map.remove key).2.get? tested).isSome = true := by
  rwa [map.get?_remove key tested, if_neg (Ne.symm other)]

end BoundedMap

namespace Happens

variable {session next : Session} {occurrence : Occurrence}

/-- A new key is written where it is absent, and is present then. -/
theorem key_arrival (happens : Happens session occurrence next) (key : SampleKey)
    (arrives : occurrence.WritesKey key) :
    ¬ (session.counts.get? key).isSome = true ∧ (next.counts.get? key).isSome = true := by
  cases happens with
  | ofTick task call =>
    cases call with
    | insertCount written count =>
      have accepted := session.counts.isSome_get?_arrival written count
      simp only [Session.answer, Session.insertCount] at arrives ⊢
      cases inserted : (session.counts.insert written count UpdateFlags.onlyNew).1 with
      | error refusal => simp [inserted, Session.numbered, Occurrence.WritesKey] at arrives
      | ok value =>
        simp only [inserted, Session.numbered, Occurrence.WritesKey] at arrives
        exact arrives ▸ accepted inserted
    | _ => exact arrives.elim
  | ofCollection call => exact arrives.elim
  | policyWritten pid policy flags => exact arrives.elim
  | policyRemoved pid => exact arrives.elim

/-- Only a removal makes a key absent. -/
theorem key_stays (happens : Happens session occurrence next) (key : SampleKey)
    (stays : ¬ occurrence.TakesKey key) (present : (session.counts.get? key).isSome = true) :
    (next.counts.get? key).isSome = true := by
  cases happens with
  | ofTick task call =>
    cases call with
    | insertCount written count =>
      exact session.counts.isSome_get?_insert written key count UpdateFlags.onlyNew present
    | increment raised => exact session.counts.isSome_get?_update raised key _ present
    | tailCall slot =>
      simp only [Session.answer, Session.handOver]
      cases session.unwinders.find slot <;> exact present
    | _ => exact present
  | ofCollection call =>
    cases call with
    | takeCount taken =>
      refine session.counts.isSome_get?_remove taken key ?_ present
      rintro rfl
      obtain ⟨count, found⟩ := Option.isSome_iff_exists.mp present
      refine stays ?_
      simp [Session.answerCollection, session.counts.remove_value, found, Occurrence.TakesKey]
    | _ => exact present
  | policyWritten pid policy flags => exact present
  | policyRemoved pid => exact present

/-- A new process is written where it is absent, and is present then. -/
theorem process_arrival (happens : Happens session occurrence next) (pid : UInt32)
    (arrives : occurrence.ReportsProcess pid) :
    ¬ (session.policies.get? pid).isSome = true ∧ (next.policies.get? pid).isSome = true := by
  cases happens with
  | ofTick task call =>
    cases call with
    | insertPolicy written policy =>
      have accepted := session.policies.isSome_get?_arrival written policy
      simp only [Session.answer, Session.insertPolicy] at arrives ⊢
      cases inserted : (session.policies.insert written policy UpdateFlags.onlyNew).1 with
      | error refusal => simp [inserted, Session.numbered, Occurrence.ReportsProcess] at arrives
      | ok value =>
        simp only [inserted, Session.numbered, Occurrence.ReportsProcess] at arrives
        exact arrives ▸ accepted inserted
    | _ => exact arrives.elim
  | ofCollection call => exact arrives.elim
  | policyWritten written policy flags => exact arrives.elim
  | policyRemoved removed => exact arrives.elim

/-- Only a removal makes a process absent. -/
theorem process_stays (happens : Happens session occurrence next) (pid : UInt32)
    (stays : ¬ occurrence.RemovesProcess pid)
    (present : (session.policies.get? pid).isSome = true) :
    (next.policies.get? pid).isSome = true := by
  cases happens with
  | ofTick task call =>
    cases call with
    | insertPolicy written policy =>
      exact session.policies.isSome_get?_insert written pid policy UpdateFlags.onlyNew present
    | tailCall slot =>
      simp only [Session.answer, Session.handOver]
      cases session.unwinders.find slot <;> exact present
    | _ => exact present
  | ofCollection call => cases call <;> exact present
  | policyWritten written policy flags =>
    exact session.policies.isSome_get?_insert written pid policy flags present
  | policyRemoved removed =>
    refine session.policies.isSome_get?_remove removed pid ?_ present
    rintro rfl
    obtain ⟨policy, found⟩ := Option.isSome_iff_exists.mp present
    refine stays ?_
    simp [session.policies.remove_value, found, Occurrence.RemovesProcess]

end Happens

namespace Interleaving

/-- What a move adds to the log: nothing, while keys and processes stay as they are, or
one occurrence. -/
theorem step_log (state : Interleaving) (move : Move) :
    ((state.step move).log = state.log ∧
        (state.step move).session.counts = state.session.counts ∧
        (state.step move).session.policies = state.session.policies) ∨
      ∃ occurrence, (state.step move).log = occurrence :: state.log ∧
        Happens state.session occurrence (state.step move).session := by
  cases move with
  | beginSampling task => exact .inl ⟨rfl, rfl, rfl⟩
  | beginCollecting => exact .inl ⟨rfl, rfl, rfl⟩
  | changeStacks change => exact .inl ⟨rfl, rfl, rfl⟩
  | writePolicy pid policy flags => exact .inr ⟨_, rfl, .policyWritten pid policy flags⟩
  | removePolicy pid => exact .inr ⟨_, rfl, .policyRemoved pid⟩
  | proceed index =>
    simp only [step]
    cases state.activities[index]? with
    | none => exact .inl ⟨rfl, rfl, rfl⟩
    | some activity =>
      cases activity with
      | sampled task made outcome => exact .inl ⟨rfl, rfl, rfl⟩
      | collected made samples => exact .inl ⟨rfl, rfl, rfl⟩
      | sampling task made rest =>
        cases rest with
        | done outcome => exact .inl ⟨rfl, rfl, rfl⟩
        | ask call resume => exact .inr ⟨_, rfl, .ofTick task call⟩
      | collecting made rest =>
        cases rest with
        | done samples => exact .inl ⟨rfl, rfl, rfl⟩
        | ask call resume => exact .inr ⟨_, rfl, .ofCollection call⟩

/-- Every move keeps a log alternating, if what is present depends on keys and processes
alone, and if what happens to the session is an arrival or a departure where it changes
that. -/
theorem alternates_step {arrives leaves : Occurrence → Prop} (present : Session → Prop)
    (settled : ∀ session next : Session, next.counts = session.counts →
      next.policies = session.policies → present session → present next)
    (arrival : ∀ session occurrence next, Happens session occurrence next →
      arrives occurrence → ¬ present session ∧ present next)
    (stays : ∀ session occurrence next, Happens session occurrence next →
      ¬ leaves occurrence → present session → present next)
    (state : Interleaving) (move : Move)
    (alternates : Alternates arrives leaves (present state.session) state.log) :
    Alternates arrives leaves (present (state.step move).session) (state.step move).log := by
  rcases state.step_log move with ⟨log, counts, policies⟩ | ⟨occurrence, log, happens⟩
  · rw [log]
    refine ⟨?_, alternates.separated⟩
    intro between first earlier parted arrived left
    have present := alternates.standing between first earlier parted arrived left
    exact settled _ _ counts policies present
  · rw [log]
    exact alternates.cons (arrival _ _ _ happens) (stays _ _ _ happens)

/-- Between two writes of a new key it was taken. -/
theorem keys_separated (options : Options) (cpus : UInt32) (moves : List Move)
    (key : SampleKey) :
    Separated (Occurrence.WritesKey key) (Occurrence.TakesKey key)
      (reached options cpus moves).log := by
  refine Alternates.separated (after_preserves (fun state => Alternates _ _
    ((state.session.counts.get? key).isSome = true) state.log) ?_ _ moves (alternates_nil _ _ _))
  refine alternates_step (fun session => (session.counts.get? key).isSome = true) ?_
    (fun _ _ _ happens => happens.key_arrival key) (fun _ _ _ happens => happens.key_stays key)
  intro session next counts _ present
  rwa [counts]

/-- Between two reports of a new process it was removed. -/
theorem processes_separated (options : Options) (cpus : UInt32) (moves : List Move)
    (pid : UInt32) :
    Separated (Occurrence.ReportsProcess pid) (Occurrence.RemovesProcess pid)
      (reached options cpus moves).log := by
  refine Alternates.separated (after_preserves (fun state => Alternates _ _
    ((state.session.policies.get? pid).isSome = true) state.log) ?_ _ moves (alternates_nil _ _ _))
  refine alternates_step (fun session => (session.policies.get? pid).isSome = true) ?_
    (fun _ _ _ happens => happens.process_arrival pid)
    (fun _ _ _ happens => happens.process_stays pid)
  intro session next _ policies present
  rwa [policies]

end Interleaving
end SamplingProfiler
