import SamplingProfiler.Proofs.BoundedMaps
import SamplingProfiler.Proofs.Exchanges

/-!
# Interleaved calls on one session

Any number of sampling interrupts and collections act on the tables of one session at
the same time. A move begins one of them, or lets one that was begun make its next
call. Controllers write and remove processes in between, and the stacks may change in
any way, so that freeing every bucket need not be taken for one step.

What a call did to the tables is told by its exchange alone, whatever else happens
before the next one. Hence counts are conserved in every state that the moves lead to,
and two successful writes of a new key, or of a new process, have a removal between
them. With nothing in between, the moves do what the session does on its own
(`alone_eq_sequential`).
-/

namespace SamplingProfiler

/-- A sampling interrupt or a collection that was begun, with the exchanges it made.
Either something of it is left, or it has ended. -/
inductive Activity where
  | sampling (task : Task) (made : List Sampler.Exchange) (rest : Sampler.Decision Outcome)
  | sampled (task : Task) (made : List Sampler.Exchange) (outcome : Outcome)
  | collecting (made : List Collection.Exchange) (rest : Collection.Step (List ProfileSample))
  | collected (made : List Collection.Exchange) (samples : List ProfileSample)

/-- What happened to the tables. -/
inductive Occurrence where
  | ofTick (exchange : Sampler.Exchange)
  | ofCollection (exchange : Collection.Exchange)
  | policyWritten (pid : UInt32)
  /-- A process was removed, if it was found. -/
  | policyRemoved (pid : UInt32) (found : Option Policy)

/-- A session with everything that was begun on it. -/
structure Interleaving where
  session : Session
  activities : List Activity
  /-- What happened so far, the last thing first. -/
  log : List Occurrence

/-- One step of somebody. -/
inductive Move where
  | beginSampling (task : Task)
  | beginCollecting
  /-- The activity with this number makes its next call, or ends. -/
  | proceed (index : Nat)
  | writePolicy (pid : UInt32) (policy : Policy) (flags : UInt64)
  | removePolicy (pid : UInt32)
  | changeStacks (change : StackStore → StackStore)

namespace Activity

/-- Make the next call, or end. -/
def proceed (session : Session) : Activity → Session × List Occurrence × Activity
  | .sampling task made (.done outcome) => (session.record outcome, [], .sampled task made outcome)
  | .sampling task made (.ask call resume) =>
    let (reply, next) := Session.answer task call session
    (next, [.ofTick ⟨call, reply⟩], .sampling task (made ++ [⟨call, reply⟩]) (resume reply))
  | .collecting made (.done samples) => (session, [], .collected made samples)
  | .collecting made (.ask call resume) =>
    let (reply, next) := Session.answerCollection call session
    (next, [.ofCollection ⟨call, reply⟩], .collecting (made ++ [⟨call, reply⟩]) (resume reply))
  | .sampled task made outcome => (session, [], .sampled task made outcome)
  | .collected made samples => (session, [], .collected made samples)

/-- The keys that an activity counted, by raising or by writing them. -/
def countedKeys : Activity → List SampleKey
  | .sampling _ made _ => made.filterMap Sampler.countedKey?
  | .sampled _ made _ => made.filterMap Sampler.countedKey?
  | _ => []

/-- Whether an activity counted a key. -/
def hasCounted (key : SampleKey) (activity : Activity) : Bool :=
  activity.countedKeys.contains key

/-- The counts of a key in a list of pairs, together. -/
def countsAt (key : SampleKey) (pairs : List (SampleKey × UInt32)) : Nat :=
  sumOf (fun pair => if pair.1 = key then pair.2.toNat else 0) pairs

/-- What an activity exports of a key: what its samples say, or what it took so far. -/
def exported (key : SampleKey) : Activity → Nat
  | .collecting made _ => countsAt key (made.filterMap Collection.taken?)
  | .collected _ samples => countsAt key (Collection.countsOf samples)
  | _ => 0

/-- An activity goes on as its decision or its collection says. -/
def Lawful : Activity → Prop
  | .sampling _ made rest =>
    rest.Along fun later outcome? => Sampler.CountsOnce (made ++ later) outcome?
  | .sampled _ made outcome => Sampler.CountsOnce made (some outcome)
  | .collecting made rest => rest.Along (Dialogue.Finally fun later samples =>
      (made ++ later).filterMap Collection.taken? = Collection.countsOf samples)
  | .collected made samples => made.filterMap Collection.taken? = Collection.countsOf samples

end Activity

namespace Interleaving

/-- A session on which nothing was begun. -/
def ofSession (session : Session) : Interleaving :=
  ⟨session, [], []⟩

/-- The state after a move. A number of no activity moves nothing. -/
def step (state : Interleaving) : Move → Interleaving
  | .beginSampling task => { state with
      activities := state.activities ++ [.sampling task [] (Sampler.sample task.toSubject)] }
  | .beginCollecting => { state with
      activities := state.activities ++
        [.collecting [] (Collection.collect state.session.options.stacksResetInterval)] }
  | .proceed index =>
    match state.activities[index]? with
    | none => state
    | some activity =>
      let (session, occurred, next) := activity.proceed state.session
      ⟨session, state.activities.set index next, occurred ++ state.log⟩
  | .writePolicy pid policy flags => { state with
      session := (state.session.insertPolicy pid policy flags).2
      log := .policyWritten pid :: state.log }
  | .removePolicy pid => { state with
      session := { state.session with policies := (state.session.policies.remove pid).2 }
      log := .policyRemoved pid (state.session.policies.remove pid).1 :: state.log }
  | .changeStacks change => { state with
      session := { state.session with stackStore := change state.session.stackStore } }

/-- The state after a list of moves. -/
def after (state : Interleaving) (moves : List Move) : Interleaving :=
  moves.foldl step state

/-- The states that moves lead to on a fresh session. -/
def reached (options : Options) (cpus : UInt32) (moves : List Move) : Interleaving :=
  (ofSession (Session.ofOptions options cpus)).after moves

/-- What was exported of a key so far, by collections that ended and by others. -/
def exported (state : Interleaving) (key : SampleKey) : Nat :=
  sumOf (Activity.exported key) state.activities

/-- How many activities counted a key. -/
def counters (state : Interleaving) (key : SampleKey) : Nat :=
  state.activities.countP (Activity.hasCounted key)

/-- What every move preserves holds in every state that moves lead to. -/
theorem after_preserves (invariant : Interleaving → Prop)
    (preserved : ∀ state move, invariant state → invariant (state.step move))
    (state : Interleaving) (moves : List Move) (initial : invariant state) :
    invariant (state.after moves) := by
  induction moves generalizing state with
  | nil => exact initial
  | cons move rest inductionHypothesis =>
    exact inductionHypothesis _ (preserved state move initial)

/-- What is left of a sampling interrupt ends as it does with nothing in between. -/
theorem ends_sampling (session : Session) (task : Task) (rest : Sampler.Decision Outcome)
    (made : List Sampler.Exchange) (log : List Occurrence) :
    ∃ count made' log',
      (⟨session, [.sampling task made rest], log⟩ : Interleaving).after
          (List.replicate count (.proceed 0)) =
        ⟨(rest.run (Session.answer task) session).2.record
            (rest.run (Session.answer task) session).1,
          [.sampled task made' (rest.run (Session.answer task) session).1], log'⟩ := by
  induction rest generalizing session made log with
  | done outcome => exact ⟨1, made, log, rfl⟩
  | ask call resume inductionHypothesis =>
    obtain ⟨count, made', log', ended⟩ := inductionHypothesis
      (Session.answer task call session).1 (Session.answer task call session).2
      (made ++ [⟨call, (Session.answer task call session).1⟩])
      (.ofTick ⟨call, (Session.answer task call session).1⟩ :: log)
    exact ⟨count + 1, made', log', ended⟩

/-- What is left of a collection ends as it does with nothing in between. -/
theorem ends_collecting (session : Session) (rest : Collection.Step (List ProfileSample))
    (made : List Collection.Exchange) (log : List Occurrence) :
    ∃ count made' log',
      (⟨session, [.collecting made rest], log⟩ : Interleaving).after
          (List.replicate count (.proceed 0)) =
        ⟨(rest.run Session.answerCollection session).2,
          [.collected made' (rest.run Session.answerCollection session).1], log'⟩ := by
  induction rest generalizing session made log with
  | done samples => exact ⟨1, made, log, rfl⟩
  | ask call resume inductionHypothesis =>
    obtain ⟨count, made', log', ended⟩ := inductionHypothesis
      (Session.answerCollection call session).1 (Session.answerCollection call session).2
      (made ++ [⟨call, (Session.answerCollection call session).1⟩])
      (.ofCollection ⟨call, (Session.answerCollection call session).1⟩ :: log)
    exact ⟨count + 1, made', log', ended⟩

/-- With nothing in between, moves do to a session what its own sampling interrupt and
its own collection do. -/
theorem alone_eq_sequential (session : Session) :
    (∀ task, ∃ moves made log, (ofSession session).after moves =
      ⟨(session.sample task).2, [.sampled task made (session.sample task).1], log⟩) ∧
    ∃ moves made log, (ofSession session).after moves =
      ⟨session.collect.2, [.collected made session.collect.1], log⟩ := by
  constructor
  · intro task
    obtain ⟨count, made, log, ended⟩ :=
      ends_sampling session task (Sampler.sample task.toSubject) [] []
    exact ⟨.beginSampling task :: List.replicate count (.proceed 0), made, log, ended⟩
  · obtain ⟨count, made, log, ended⟩ :=
      ends_collecting session (Collection.collect session.options.stacksResetInterval) [] []
    exact ⟨.beginCollecting :: List.replicate count (.proceed 0), made, log, ended⟩

end Interleaving

namespace Session

/-- The count of a key now, and zero for an absent key. -/
def countNow (session : Session) (key : SampleKey) : Nat :=
  ((session.counts.get? key).map UInt32.toNat).getD 0

/-- A call of a sampling interrupt adds one to the count of the key it counts. -/
theorem countNow_answer (session : Session) (task : Task) (call : Sampler.Call) (key : SampleKey)
    (writesOne : Sampler.WritesOne call) :
    ((answer task call session).2.countNow key) % UInt32.size =
      (session.countNow key +
        if Sampler.countedKey? ⟨call, (answer task call session).1⟩ = some key then 1 else 0) %
          UInt32.size := by
  cases call with
  | findPolicy pid => simp [answer, Sampler.countedKey?]
  | insertPolicy pid policy =>
    simp [answer, insertPolicy, countNow, Sampler.countedKey?]
  | captureStack flags => simp [answer, captureStack, countNow, Sampler.countedKey?]
  | send notice => simp [answer, send, countNow, Sampler.countedKey?]
  | tailCall slot =>
    simp only [answer, handOver]
    cases session.unwinders.find slot <;> simp [countNow, Sampler.countedKey?]
  | increment counted =>
    cases present : session.counts.get? counted with
    | none =>
      have kept : session.increment counted = (false, session) := by
        simp [increment, BoundedMap.update, present]
      simp only [answer, kept]
      simp [Sampler.countedKey?]
    | some count =>
      have raised : session.increment counted = (true, { session with counts :=
          { session.counts with entries := session.counts.entries.set counted (count + 1) } }) := by
        simp [increment, BoundedMap.update, present]
      simp only [answer, raised, countNow, BoundedMap.get?, Entries.lookup_set,
        Sampler.countedKey?, Option.some.injEq]
      by_cases same : key = counted
      · subst same
        have found : session.counts.entries.lookup key = some count := present
        simp [found, UInt32.toNat_add, UInt32.size]
      · simp [same, Ne.symm same]
  | insertCount written count =>
    have one : count = 1 := writesOne
    rcases inserted : session.counts.insert written count UpdateFlags.onlyNew with ⟨result, counts⟩
    have accepted := session.counts.insert_onlyNew_accepted written count
    have refused := session.counts.insert_error written count UpdateFlags.onlyNew
    rw [inserted] at accepted refused
    simp only [answer, insertCount, inserted]
    cases result with
    | error refusal =>
      have unchanged : counts = session.counts := refused refusal rfl
      simp [numbered, countNow, Sampler.countedKey?, unchanged]
    | ok value =>
      obtain ⟨absent, entries⟩ := accepted rfl
      simp only [numbered, countNow, BoundedMap.get?, Sampler.countedKey?, Option.some.injEq]
      simp only [BoundedMap.get?] at absent entries
      rw [entries, Entries.lookup_set]
      by_cases same : key = written
      · subst same
        simp [absent, one]
      · simp [same, Ne.symm same]

/-- A call of a collection leaves of a key's count what it did not take. -/
theorem countNow_answerCollection (session : Session) (call : Collection.Call) (key : SampleKey) :
    (answerCollection call session).2.countNow key +
        Activity.countsAt key
          (Collection.taken? ⟨call, (answerCollection call session).1⟩).toList =
      session.countNow key := by
  cases call with
  | beginRound => simp [answerCollection, countNow, Collection.taken?, Activity.countsAt]
  | listKeys => simp [answerCollection, Collection.taken?, Activity.countsAt]
  | readStack id => simp [answerCollection, Collection.taken?, Activity.countsAt]
  | dropStack id => simp [answerCollection, countNow, Collection.taken?, Activity.countsAt]
  | dropAllStacks => simp [answerCollection, countNow, Collection.taken?, Activity.countsAt]
  | takeCount taken =>
    have value := session.counts.remove_value taken
    have left := session.counts.get?_remove taken key
    simp only [answerCollection, value, countNow, left]
    cases present : session.counts.get? taken with
    | none =>
      by_cases same : key = taken
      · subst same
        simp [Collection.taken?, Activity.countsAt, present]
      · simp [Collection.taken?, Activity.countsAt, same]
    | some count =>
      by_cases same : key = taken
      · subst same
        simp [Collection.taken?, Activity.countsAt, present]
      · simp [Collection.taken?, Activity.countsAt, same, Ne.symm same]

end Session
end SamplingProfiler
