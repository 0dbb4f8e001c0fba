import SamplingProfiler.Proofs.Separations

/-!
# Counts under interleaving

Counts are conserved by every move, so they are in every state that moves lead to:
what was exported of a key and what is counted of it now are together the activities
that counted it. Each of these counted it once, and says so when it ends.

Together with the arrivals and departures of keys and processes this is the main
statement about interleaved calls.
-/

namespace SamplingProfiler

namespace Activity

/-- Going on keeps an activity lawful, whatever it is answered. -/
theorem lawful_proceed (session : Session) (activity : Activity) (lawful : activity.Lawful) :
    (activity.proceed session).2.2.Lawful := by
  cases activity with
  | sampling task made rest =>
    cases rest with
    | done outcome => simpa [Lawful, Dialogue.Along, proceed] using lawful
    | ask call resume =>
      obtain ⟨_, further⟩ := lawful
      refine (further _).imp ?_
      intro later outcome? counts
      simpa using counts
  | sampled task made outcome => exact lawful
  | collecting made rest =>
    cases rest with
    | done samples => simpa [Lawful, Dialogue.Along, Dialogue.Finally, proceed] using lawful
    | ask call resume =>
      obtain ⟨_, further⟩ := lawful
      refine (further _).imp ?_
      intro later samples? listed samples given
      simpa using listed samples given
  | collected made samples => exact lawful

/-- An activity counts at most one key. -/
theorem Lawful.countedKeys_le {activity : Activity} (lawful : activity.Lawful) :
    activity.countedKeys.length ≤ 1 := by
  cases activity with
  | sampling task made rest =>
    obtain ⟨outcome?, counts⟩ := Dialogue.Along.here lawful
    simpa [countedKeys] using counts.one
  | sampled task made outcome => exact lawful.one
  | collecting made rest => exact Nat.zero_le 1
  | collected made samples => exact Nat.zero_le 1

/-- The next call of a lawful decision writes no count but one. -/
theorem Lawful.writesOne {task : Task} {made : List Sampler.Exchange} {call : Sampler.Call}
    {resume : Sampler.Reply call → Sampler.Decision Outcome}
    (lawful : (sampling task made (.ask call resume)).Lawful) (reply : Sampler.Reply call) :
    Sampler.WritesOne call := by
  obtain ⟨outcome?, counts⟩ := (lawful.2 reply).here
  exact counts.writesOne ⟨call, reply⟩ (by simp)

/-- Going on conserves counts: what an activity exports and what is counted change by
what it counts. -/
theorem proceed_balance (session : Session) (activity : Activity) (key : SampleKey)
    (lawful : activity.Lawful) :
    ((activity.proceed session).2.2.exported key + (activity.proceed session).1.countNow key +
        if activity.hasCounted key then 1 else 0) % UInt32.size =
      (activity.exported key + session.countNow key +
        if (activity.proceed session).2.2.hasCounted key then 1 else 0) % UInt32.size := by
  have kept := lawful_proceed session activity lawful
  cases activity with
  | sampling task made rest =>
    cases rest with
    | done outcome => rfl
    | ask call resume =>
      have added := session.countNow_answer task call key
        (lawful.writesOne (Session.answer task call session).1)
      have few := kept.countedKeys_le
      simp only [proceed, exported, hasCounted, countedKeys, Nat.zero_add,
        List.filterMap_append] at few ⊢
      generalize (⟨call, (Session.answer task call session).1⟩ : Sampler.Exchange) = exchange
        at added few ⊢
      cases counted : Sampler.countedKey? exchange with
      | none =>
        simp only [counted, reduceCtorEq, if_false, Nat.add_zero] at added
        simp only [List.filterMap_cons, counted, List.filterMap_nil, List.append_nil]
        exact Nat.add_mod_eq_add_mod_right _ added
      | some other =>
        have first : made.filterMap Sampler.countedKey? = [] := by
          simp only [List.filterMap_cons, counted, List.filterMap_nil, List.length_append,
            List.length_cons, List.length_nil] at few
          exact List.length_eq_zero_iff.mp (by omega)
        simp only [counted, Option.some.injEq] at added
        simp only [first, List.filterMap_cons, counted, List.filterMap_nil, List.nil_append,
          List.contains_nil, Bool.false_eq_true, if_false, Nat.add_zero, List.contains_cons,
          Bool.or_false, added]
        by_cases same : other = key
        · simp [same]
        · simp [same, Ne.symm same]
  | sampled task made outcome => rfl
  | collecting made rest =>
    cases rest with
    | done samples =>
      have listed : made.filterMap Collection.taken? = Collection.countsOf samples := kept
      simp [proceed, exported, hasCounted, countedKeys, listed]
    | ask call resume =>
      have left := session.countNow_answerCollection call key
      simp only [proceed, exported, hasCounted, countedKeys, List.filterMap_append]
      generalize (⟨call, (Session.answerCollection call session).1⟩ : Collection.Exchange) =
        exchange at left ⊢
      have last : [exchange].filterMap Collection.taken? =
          (Collection.taken? exchange).toList := by
        cases taken : Collection.taken? exchange <;> simp [taken]
      simp only [last, countsAt, sumOf_append] at left ⊢
      simp only [List.contains_nil, Bool.false_eq_true, if_false, Nat.add_zero, ← left]
      congr 1
      omega
  | collected made samples => rfl

/-- What begins exports nothing and has counted nothing. -/
structure Begins (activity : Activity) : Prop where
  lawful : activity.Lawful
  unexported : ∀ key, activity.exported key = 0
  uncounted : ∀ key, activity.hasCounted key = false

/-- A sampling interrupt begins. -/
theorem begins_sampling (task : Task) :
    (sampling task [] (Sampler.sample task.toSubject)).Begins :=
  ⟨Sampler.sample_along task.toSubject, fun _ => rfl, fun _ => rfl⟩

/-- A collection begins. -/
theorem begins_collecting (interval : UInt32) :
    (collecting [] (Collection.collect interval)).Begins :=
  ⟨Collection.collect_along interval, fun _ => rfl, fun _ => rfl⟩

end Activity

namespace Interleaving

/-- Every activity is lawful, and the counts of every key are conserved. -/
structure Balanced (state : Interleaving) : Prop where
  lawful : ∀ activity ∈ state.activities, activity.Lawful
  balance : ∀ key, (state.exported key + state.session.countNow key) % UInt32.size =
    state.counters key % UInt32.size

/-- An element of a list parts it in two, and replacing it leaves both parts. -/
theorem exists_parts {Element : Type} {list : List Element} {index : Nat} {element : Element}
    (found : list[index]? = some element) :
    ∃ front back, list = front ++ element :: back ∧
      ∀ other, list.set index other = front ++ other :: back := by
  obtain ⟨inside, rfl⟩ := List.getElem?_eq_some_iff.mp found
  refine ⟨list.take index, list.drop (index + 1), ?_, ?_⟩
  · rw [List.getElem_cons_drop, List.take_append_drop]
  · intro other
    rw [List.set_eq_take_append_cons_drop, if_pos inside]

/-- Beginning something conserves counts. -/
theorem Balanced.begin {state : Interleaving} (balanced : state.Balanced) {activity : Activity}
    (begins : activity.Begins) :
    ({ state with activities := state.activities ++ [activity] } : Interleaving).Balanced := by
  constructor
  · intro other member
    rcases List.mem_append.mp member with earlier | new
    · exact balanced.lawful other earlier
    · rw [List.mem_singleton.mp new]
      exact begins.lawful
  · intro key
    have balance := balanced.balance key
    simpa [exported, counters, sumOf_append, begins.unexported key, begins.uncounted key]
      using balance

/-- An activity that goes on conserves counts. -/
theorem Balanced.proceed {state : Interleaving} (balanced : state.Balanced) {index : Nat}
    {activity : Activity} (found : state.activities[index]? = some activity) :
    (⟨(activity.proceed state.session).1,
      state.activities.set index (activity.proceed state.session).2.2,
      (activity.proceed state.session).2.1 ++ state.log⟩ : Interleaving).Balanced := by
  obtain ⟨front, back, parted, replaced⟩ := exists_parts found
  have lawful := balanced.lawful
  rw [parted] at lawful
  constructor
  · intro other member
    rw [replaced] at member
    rcases List.mem_append.mp member with before | here
    · exact lawful other (by simp [before])
    · rcases List.mem_cons.mp here with rfl | behind
      · exact activity.lawful_proceed state.session (lawful activity (by simp))
      · exact lawful other (by simp [behind])
  · intro key
    have moved := activity.proceed_balance state.session key (lawful activity (by simp))
    have balance := balanced.balance key
    simp only [exported, counters, replaced]
    simp only [exported, counters, parted, sumOf_append, sumOf_cons, List.countP_append,
      List.countP_cons, UInt32.size] at moved balance ⊢
    omega

/-- Every move conserves counts. -/
theorem balanced_step (state : Interleaving) (move : Move) (balanced : state.Balanced) :
    (state.step move).Balanced := by
  cases move with
  | beginSampling task => exact balanced.begin (Activity.begins_sampling task)
  | beginCollecting => exact balanced.begin (Activity.begins_collecting _)
  | proceed index =>
    simp only [step]
    cases found : state.activities[index]? with
    | none => exact balanced
    | some activity => exact balanced.proceed found
  | writePolicy pid policy flags => exact ⟨balanced.lawful, balanced.balance⟩
  | removePolicy pid => exact ⟨balanced.lawful, balanced.balance⟩
  | changeStacks change => exact ⟨balanced.lawful, balanced.balance⟩

/-- A fresh session on which nothing was begun is balanced. -/
theorem balanced_fresh (options : Options) (cpus : UInt32) :
    (ofSession (Session.ofOptions options cpus)).Balanced := by
  constructor
  · intro activity member
    cases member
  · intro key
    rfl

/-- Counts are conserved under interleaving. Whatever moves were made on a fresh session,
what was exported of a key and its count now are together the activities that counted
it, modulo 2 ^ 32. An activity counts one key at most, and a tick that ended says that
it was counted exactly if it counted a key. Between two writes of a new key it was
taken, and between two reports of a new process it was removed.

Counts are conserved by what each call does on its own; that a key is counted once by
an activity is a property of its dialogue, for any replies. -/
theorem counts_conserved_under_interleaving (options : Options) (cpus : UInt32)
    (moves : List Move) (key : SampleKey) (pid : UInt32) :
    ((reached options cpus moves).exported key +
        (reached options cpus moves).session.countNow key) % UInt32.size =
      (reached options cpus moves).counters key % UInt32.size ∧
    (∀ activity ∈ (reached options cpus moves).activities, activity.countedKeys.length ≤ 1) ∧
    (∀ task made outcome, .sampled task made outcome ∈ (reached options cpus moves).activities →
      (Sampler.saysCounted outcome = true ↔ made.filterMap Sampler.countedKey? ≠ [])) ∧
    Separated (Occurrence.WritesKey key) (Occurrence.TakesKey key)
      (reached options cpus moves).log ∧
    Separated (Occurrence.ReportsProcess pid) (Occurrence.RemovesProcess pid)
      (reached options cpus moves).log := by
  have balanced : (reached options cpus moves).Balanced :=
    after_preserves Balanced balanced_step _ moves (balanced_fresh options cpus)
  refine ⟨balanced.balance key, ?_, ?_, keys_separated options cpus moves key,
    processes_separated options cpus moves pid⟩
  · intro activity member
    exact (balanced.lawful activity member).countedKeys_le
  · intro task made outcome member
    exact (balanced.lawful _ member).said outcome rfl

/-- Two ticks look for a key that is absent. One writes it, a collection takes it, and
the other writes it again. -/
def contendedMoves : List Move :=
  [.writePolicy 7 (Policy.ofKind .framePointers false false) UpdateFlags.any,
    .beginSampling (Task.ofPid 0 7), .beginSampling (Task.ofPid 0 7), .beginCollecting,
    .proceed 0, .proceed 0, .proceed 1, .proceed 1, .proceed 0, .proceed 2, .proceed 2,
    .proceed 2, .proceed 1, .proceed 1]

/-- Both ticks of these moves are counted, one of them was exported, and the key was
taken between its two writes. -/
theorem contended_key_conserved :
    ((reached Options.standard 1 contendedMoves).exported (SampleKey.ofPid 7) +
        (reached Options.standard 1 contendedMoves).session.countNow (SampleKey.ofPid 7)) %
      UInt32.size = 2 ∧
    ∃ occurrence ∈ (reached Options.standard 1 contendedMoves).log,
      occurrence.TakesKey (SampleKey.ofPid 7) := by
  obtain ⟨conserved, _, _, separated, _⟩ := counts_conserved_under_interleaving
    Options.standard 1 contendedMoves (SampleKey.ofPid 7) 7
  have counters : (reached Options.standard 1 contendedMoves).counters (SampleKey.ofPid 7) = 2 := by
    decide
  constructor
  · rw [conserved, counters]
    rfl
  · obtain ⟨occurrence, member, taken⟩ := separated []
      (.ofTick ⟨.insertCount (SampleKey.ofPid 7) 1, .ok ()⟩)
      (((reached Options.standard 1 contendedMoves).log.drop 1).take 3)
      (.ofTick ⟨.insertCount (SampleKey.ofPid 7) 1, .ok ()⟩)
      ((reached Options.standard 1 contendedMoves).log.drop 5) rfl rfl rfl
    exact ⟨occurrence, List.mem_of_mem_drop (List.mem_of_mem_take member), taken⟩

end Interleaving
end SamplingProfiler
