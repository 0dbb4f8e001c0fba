import SamplingProfiler.Sampler
import SamplingProfiler.Session.Collection

/-!
# The exchanges of a dialogue

An exchange is a call with the reply that it got. A dialogue does not choose its
replies, so what is true of its exchanges has to be true for every reply. Such a
property is stated at every point of a conversation: of the exchanges made up to
there, and of the result once there is one. Where the calls are answered from a state, the
exchanges are a list, and what is true at every point is true of that list.

Two dialogues are looked at in this way. A sampling interrupt counts at most one key,
and its outcome says whether it did. A collection exports exactly what it took.
Neither depends on what happens to the tables between two calls.
-/

namespace SamplingProfiler
namespace Dialogue

variable {Call : Type} {Reply : Call → Type} {First Second : Type}

/-- A call with its reply. -/
abbrev Exchange (Call : Type) (Reply : Call → Type) : Type :=
  (call : Call) × Reply call

/-- A property of the exchanges made and the result, if there is one already, holds
at every point of a dialogue, whatever the replies. -/
def Along (property : List (Exchange Call Reply) → Option First → Prop) :
    Dialogue Call Reply First → Prop
  | .done result => property [] (some result)
  | .ask call resume => property [] none ∧
      ∀ reply, (resume reply).Along fun made result? => property (⟨call, reply⟩ :: made) result?

/-- What follows from a property at every point holds at every point. -/
theorem Along.imp {stronger weaker : List (Exchange Call Reply) → Option First → Prop}
    (implies : ∀ made result?, stronger made result? → weaker made result?)
    {dialogue : Dialogue Call Reply First} (along : dialogue.Along stronger) :
    dialogue.Along weaker := by
  induction dialogue generalizing stronger weaker with
  | done result => exact implies [] (some result) along
  | ask call resume inductionHypothesis =>
    obtain ⟨here, further⟩ := along
    refine ⟨implies [] none here, ?_⟩
    intro reply
    exact inductionHypothesis reply (fun made result? => implies (⟨call, reply⟩ :: made) result?)
      (further reply)

/-- A sequence has a property if the first part has one that implies it while there is
no result, and the second part has it after any exchanges of the first. -/
theorem Along.bind {before : List (Exchange Call Reply) → Option First → Prop}
    {property : List (Exchange Call Reply) → Option Second → Prop}
    {dialogue : Dialogue Call Reply First} {next : First → Dialogue Call Reply Second}
    (along : dialogue.Along before)
    (unfinished : ∀ made, before made none → property made none)
    (finished : ∀ made result, before made (some result) →
      (next result).Along fun later result? => property (made ++ later) result?) :
    (dialogue >>= next).Along property := by
  induction dialogue generalizing before property with
  | done result => exact finished [] result along
  | ask call resume inductionHypothesis =>
    obtain ⟨here, further⟩ := along
    refine ⟨unfinished [] here, ?_⟩
    intro reply
    exact inductionHypothesis reply (further reply)
      (fun made known => unfinished (⟨call, reply⟩ :: made) known)
      (fun made result known => finished (⟨call, reply⟩ :: made) result known)

/-- A property at every point holds at the first one. -/
theorem Along.here {property : List (Exchange Call Reply) → Option First → Prop}
    {dialogue : Dialogue Call Reply First} (along : dialogue.Along property) :
    ∃ result?, property [] result? := by
  cases dialogue with
  | done result => exact ⟨some result, along⟩
  | ask call resume => exact ⟨none, along.1⟩

/-- A property of the exchanges made and the result, once there is one. -/
def Finally (property : List (Exchange Call Reply) → First → Prop)
    (made : List (Exchange Call Reply)) (result? : Option First) : Prop :=
  ∀ result, result? = some result → property made result

/-- A result has a property at the end if it has it. -/
theorem finally_some {property : List (Exchange Call Reply) → First → Prop}
    {made : List (Exchange Call Reply)} {result : First} (holds : property made result) :
    Finally property made (some result) := by
  intro given same
  cases same
  exact holds

/-- As long as there is no result, nothing is said. -/
theorem finally_none (property : List (Exchange Call Reply) → First → Prop)
    (made : List (Exchange Call Reply)) : Finally property made none := by
  intro result given
  cases given

/-- A sequence ends with a property if its second part does, after every end of the
first. -/
theorem Along.bindFinally {before : List (Exchange Call Reply) → First → Prop}
    {property : List (Exchange Call Reply) → Second → Prop}
    {dialogue : Dialogue Call Reply First} {next : First → Dialogue Call Reply Second}
    (along : dialogue.Along (Finally before))
    (finished : ∀ made result, before made result →
      (next result).Along (Finally fun later last => property (made ++ later) last)) :
    (dialogue >>= next).Along (Finally property) :=
  along.bind (fun made _ => finally_none property made)
    (fun made result known => finished made result (known result rfl))

/-- A property at the end of a dialogue, of what is read off its result, is one at the end
of the dialogue that returns what was read off. -/
theorem Along.returning {property : List (Exchange Call Reply) → Second → Prop}
    {dialogue : Dialogue Call Reply First} (read : First → Second)
    (along : dialogue.Along (Finally fun made result => property made (read result))) :
    (dialogue >>= fun result => .done (read result)).Along (Finally property) := by
  refine along.bindFinally ?_
  intro made result known
  refine finally_some ?_
  rwa [List.append_nil]

section Answers

variable {State : Type} (answer : (call : Call) → State → Reply call × State)

/-- The exchanges that a dialogue makes when its calls are answered from a state. -/
def exchanges : Dialogue Call Reply First → State → List (Exchange Call Reply)
  | .done _, _ => []
  | .ask call resume, state =>
    ⟨call, (answer call state).1⟩ ::
      (resume (answer call state).1).exchanges (answer call state).2

/-- A property at every point holds of the exchanges and the result of a run. -/
theorem Along.ran {property : List (Exchange Call Reply) → Option First → Prop}
    {dialogue : Dialogue Call Reply First} (along : dialogue.Along property) (state : State) :
    property (dialogue.exchanges answer state) (some (dialogue.run answer state).1) := by
  induction dialogue generalizing property state with
  | done result => exact along
  | ask call resume inductionHypothesis =>
    obtain ⟨-, further⟩ := along
    exact inductionHypothesis _ (further _) _

/-- A property at the end holds of the exchanges and the result of a run. -/
theorem Along.ended {property : List (Exchange Call Reply) → First → Prop}
    {dialogue : Dialogue Call Reply First} (along : dialogue.Along (Finally property))
    (state : State) : property (dialogue.exchanges answer state) (dialogue.run answer state).1 :=
  along.ran answer state _ rfl

/-- What is true of every answer is true of every exchange of a run. -/
theorem exchanges_satisfy (property : Exchange Call Reply → Prop)
    (answered : ∀ call state, property ⟨call, (answer call state).1⟩)
    (dialogue : Dialogue Call Reply First) (state : State) :
    ∀ exchange ∈ dialogue.exchanges answer state, property exchange := by
  induction dialogue generalizing state with
  | done result => simp [exchanges]
  | ask call resume inductionHypothesis =>
    intro exchange member
    rcases List.mem_cons.mp member with rfl | member
    · exact answered call state
    · exact inductionHypothesis _ _ exchange member

end Answers

end Dialogue

namespace Sampler

/-- A call of a decision with its reply. -/
abbrev Exchange : Type :=
  Dialogue.Exchange Call Reply

/-- The key that an exchange counts, by raising or by writing it. -/
def countedKey? : Exchange → Option SampleKey
  | ⟨.increment key, true⟩ => some key
  | ⟨.insertCount key _, .ok ()⟩ => some key
  | _ => none

/-- A key is written with the count of one sample. -/
def WritesOne : Call → Prop
  | .insertCount _ count => count = 1
  | _ => True

/-- The outcomes of a sample that was counted. -/
def saysCounted (outcome : Outcome) : Bool :=
  outcome == .sampleCounted || outcome == .sampleNewKey

/-- The outcomes of a tick whose key was looked for. -/
def concernsKey (outcome : Outcome) : Bool :=
  saysCounted outcome || outcome == .sampleKeyRace

/-- A subject is sampled if it has a process and a task, and the task can be read and is no
worker thread of the kernel. -/
theorem refusal?_eq_none_iff (subject : Subject) :
    refusal? subject = none ↔ subject.pid ≠ 0 ∧ subject.hasTask = true ∧
      subject.flags.any (fun flags => flags &&& TaskFlags.kernelThread == 0) = true := by
  simp only [refusal?]
  by_cases idle : subject.pid = 0
  · simp [idle]
  · cases present : subject.hasTask with
    | false => simp [idle]
    | true =>
      cases subject.flags with
      | none => simp [idle]
      | some flags =>
        by_cases worker : flags &&& TaskFlags.kernelThread = 0 <;> simp [idle, worker]

/-- The reasons for which a subject is not sampled. -/
def refusals : List Outcome :=
  [.noProcess, .noTask, .unreadableTask, .kernelThread]

/-- A subject that is not sampled is refused for one of the reasons. -/
theorem refusal_mem (subject : Subject) (outcome : Outcome)
    (refused : refusal? subject = some outcome) : outcome ∈ refusals := by
  simp only [refusal?] at refused
  repeat' split at refused
  all_goals
    cases refused
    try decide

/-- A task that is not sampled is refused for a reason that speaks of no key. -/
theorem refusal_unconcerned (subject : Subject) (outcome : Outcome)
    (refused : refusal? subject = some outcome) : concernsKey outcome = false := by
  have unconcerned : ∀ reason ∈ refusals, concernsKey reason = false := by decide
  exact unconcerned outcome (refusal_mem subject outcome refused)

/-- A sampling interrupt counts at most one key, writes none but with the count one,
and its outcome says whether it counted one. -/
structure CountsOnce (made : List Exchange) (outcome? : Option Outcome) : Prop where
  one : (made.filterMap countedKey?).length ≤ 1
  writesOne : ∀ exchange ∈ made, WritesOne exchange.1
  said : ∀ outcome, outcome? = some outcome →
    (saysCounted outcome = true ↔ made.filterMap countedKey? ≠ [])

/-- Exchanges that neither raise nor write a count. -/
structure Uncounted (made : List Exchange) : Prop where
  none : made.filterMap countedKey? = []
  writesOne : ∀ exchange ∈ made, WritesOne exchange.1

/-- Without a counted key it is right to have no result, or not to speak of one. -/
theorem Uncounted.countsOnce {made : List Exchange} {outcome? : Option Outcome}
    (uncounted : Uncounted made)
    (unsaid : ∀ outcome, outcome? = some outcome → saysCounted outcome = false) :
    CountsOnce made outcome? := by
  refine ⟨by simp [uncounted.none], uncounted.writesOne, ?_⟩
  intro outcome given
  simp [uncounted.none, unsaid outcome given]

/-- What was made before without counting does not matter. -/
theorem CountsOnce.after {earlier later : List Exchange} {outcome? : Option Outcome}
    (counts : CountsOnce later outcome?) (uncounted : Uncounted earlier) :
    CountsOnce (earlier ++ later) outcome? := by
  have same : (earlier ++ later).filterMap countedKey? = later.filterMap countedKey? := by
    simp [List.filterMap_append, uncounted.none]
  refine ⟨same ▸ counts.one, ?_, same ▸ counts.said⟩
  intro exchange member
  rcases List.mem_append.mp member with first | second
  · exact uncounted.writesOne exchange first
  · exact counts.writesOne exchange second

/-- Capturing a side counts nothing. -/
theorem captureSide_along (wanted : Bool) (flags : UInt64) :
    (captureSide wanted flags).Along fun made _ => Uncounted made := by
  cases wanted with
  | false => exact ⟨rfl, by simp⟩
  | true => exact ⟨⟨rfl, by simp⟩, fun id => ⟨rfl, by simp [WritesOne]⟩⟩

/-- Counting a key raises it or writes it, and says which. -/
theorem countKey_along (key : SampleKey) :
    (do
      if ← increment key then
        return .sampleCounted
      match ← insertCount key 1 with
      | .ok () => return .sampleNewKey
      | .error _ => return .sampleKeyRace : Decision Outcome).Along CountsOnce := by
  have start : Uncounted [] := ⟨rfl, by simp⟩
  have unraised : Uncounted [⟨.increment key, false⟩] := ⟨rfl, by simp [WritesOne]⟩
  refine ⟨start.countsOnce (by simp), ?_⟩
  intro raised
  cases raised with
  | true => exact ⟨Nat.le_refl 1, by simp [WritesOne], by simp [saysCounted, countedKey?]⟩
  | false =>
    refine ⟨unraised.countsOnce (by simp), ?_⟩
    intro written
    cases written with
    | ok accepted =>
      exact ⟨Nat.le_refl 1, by simp [WritesOne], by simp [saysCounted, countedKey?]⟩
    | error number =>
      have refused : Uncounted [⟨.increment key, false⟩, ⟨.insertCount key 1, .error number⟩] :=
        ⟨rfl, by simp [WritesOne]⟩
      exact refused.countsOnce (by simp [saysCounted])

/-- Counting a sample captures the sides before it counts the key. -/
theorem countSample_along (pid : UInt32) (policy : Policy) :
    (countSample pid policy).Along CountsOnce := by
  refine (captureSide_along policy.collectsKernel _).bind
    (fun made uncounted => uncounted.countsOnce (by simp)) ?_
  intro kernelMade kernelStack kernelUncounted
  refine (captureSide_along policy.collectsUser _).bind
    (fun made uncounted => (uncounted.countsOnce (by simp)).after kernelUncounted) ?_
  intro userMade userStack userUncounted
  refine (countKey_along _).imp ?_
  intro later outcome? counts
  exact (counts.after userUncounted).after kernelUncounted

/-- A process that is reported is not counted. -/
theorem reportNewProcess_along (pid : UInt32) : (reportNewProcess pid).Along CountsOnce := by
  have start : Uncounted [] := ⟨rfl, by simp⟩
  refine ⟨start.countsOnce (by simp), ?_⟩
  intro written
  have asked : Uncounted [⟨.insertPolicy pid Policy.undecided, written⟩] :=
    ⟨rfl, by simp [WritesOne]⟩
  cases written with
  | ok accepted =>
    refine ⟨asked.countsOnce (by simp), ?_⟩
    intro sent
    have told : Uncounted [⟨.insertPolicy pid Policy.undecided, .ok accepted⟩,
        ⟨.send (Notice.ofKind .firstSeen pid), sent⟩] := ⟨rfl, by simp [WritesOne]⟩
    exact told.countsOnce (by simp [saysCounted])
  | error number =>
    refine asked.countsOnce ?_
    intro outcome given
    cases given
    split <;> rfl

/-- Only a policy that follows frame pointers has a sample counted. -/
theorem followPolicy_along (pid : UInt32) (policy : Policy) :
    (followPolicy pid policy).Along CountsOnce := by
  have start : Uncounted [] := ⟨rfl, by simp⟩
  simp only [followPolicy]
  cases policy.kind? with
  | none => exact start.countsOnce (by simp [saysCounted])
  | some kind =>
    cases kind with
    | unknown => exact start.countsOnce (by simp [saysCounted])
    | error => exact start.countsOnce (by simp [saysCounted])
    | framePointers => exact countSample_along pid policy
    | python =>
      refine ⟨start.countsOnce (by simp), ?_⟩
      intro taken
      have called : Uncounted [⟨.tailCall Limits.pythonSlot, taken⟩] :=
        ⟨rfl, by simp [WritesOne]⟩
      cases taken with
      | ok accepted => exact called.countsOnce (by simp [saysCounted])
      | error number => exact called.countsOnce (by simp [saysCounted])

/-- A sampling interrupt counts at most one key, and says whether it did. -/
theorem sample_along (subject : Subject) : (sample subject).Along CountsOnce := by
  have start : Uncounted [] := ⟨rfl, by simp⟩
  simp only [sample]
  cases refused : refusal? subject with
  | some outcome =>
    refine start.countsOnce ?_
    intro given same
    cases same
    have unconcerned := refusal_unconcerned subject outcome refused
    simp only [concernsKey, Bool.or_eq_false_iff] at unconcerned
    exact unconcerned.1
  | none =>
    refine ⟨start.countsOnce (by simp), ?_⟩
    intro known
    have asked : Uncounted [⟨.findPolicy subject.pid, known⟩] := ⟨rfl, by simp [WritesOne]⟩
    cases known with
    | none => exact (reportNewProcess_along subject.pid).imp fun _ _ counts => counts.after asked
    | some policy =>
      exact (followPolicy_along subject.pid policy).imp fun _ _ counts => counts.after asked

end Sampler

namespace Collection

open Dialogue (Finally finally_some finally_none)

/-- A call of a collection with its reply. -/
abbrev Exchange : Type :=
  Dialogue.Exchange Call Reply

/-- The key and the count that an exchange took from the table. -/
def taken? : Exchange → Option (SampleKey × UInt32)
  | ⟨.takeCount key, some count⟩ => some (key, count)
  | _ => none

/-- The keys and counts of samples. -/
def countsOf (samples : List ProfileSample) : List (SampleKey × UInt32) :=
  samples.map fun sample => (sample.key, sample.count)

/-- Taking the counts of keys returns those that were there, key by key. -/
theorem takeCounts_along (keys : List SampleKey) :
    (takeCounts keys).Along (Finally fun made pairs => made.filterMap taken? = pairs) := by
  induction keys with
  | nil => exact finally_some rfl
  | cons key rest inductionHypothesis =>
    refine ⟨finally_none _ _, ?_⟩
    intro count
    cases count with
    | none => exact inductionHypothesis
    | some count =>
      refine inductionHypothesis.bindFinally ?_
      intro made pairs taken
      refine finally_some ?_
      simp [taken?, taken]

/-- Resolving an id takes nothing. -/
theorem resolve_along (id : Int) (used : List UInt32) :
    (resolve id used).Along (Finally fun made _ => made.filterMap taken? = []) := by
  simp only [resolve]
  cases ProfileSample.bucket? id with
  | none => exact finally_some rfl
  | some bucket =>
    refine ⟨finally_none _ _, ?_⟩
    intro frames result given
    rfl

/-- Resolving the stacks of counted keys takes nothing and keeps keys and counts. -/
theorem resolveAll_along (pairs : List (SampleKey × UInt32)) (used : List UInt32) :
    (resolveAll pairs used).Along (Finally fun made result =>
      made.filterMap taken? = [] ∧ countsOf result.1 = pairs) := by
  induction pairs generalizing used with
  | nil => exact finally_some ⟨rfl, rfl⟩
  | cons pair rest inductionHypothesis =>
    refine (resolve_along pair.1.kernelStack used).bindFinally ?_
    intro kernelMade kernelResult kernelNothing
    refine (resolve_along pair.1.userStack kernelResult.2).bindFinally ?_
    intro userMade userResult userNothing
    refine (inductionHypothesis userResult.2).bindFinally ?_
    intro restMade restResult restResolved
    refine finally_some ⟨?_, ?_⟩
    · simp [List.filterMap_append, kernelNothing, userNothing, restResolved.1]
    · simp only [countsOf, List.map_cons]
      exact congrArg _ restResolved.2

/-- Dropping stacks takes nothing. -/
theorem dropStacks_along (ids : List UInt32) :
    (dropStacks ids).Along (Finally fun made _ => made.filterMap taken? = []) := by
  induction ids with
  | nil => exact finally_some rfl
  | cons id rest inductionHypothesis => exact ⟨finally_none _ _, fun _ => inductionHypothesis⟩

/-- A collection exports the keys and counts that it took, and no others. -/
theorem collect_along (interval : UInt32) :
    (collect interval).Along (Finally fun made samples =>
      made.filterMap taken? = countsOf samples) := by
  refine ⟨finally_none _ _, ?_⟩
  intro round
  refine ⟨finally_none _ _, ?_⟩
  intro keys
  refine (takeCounts_along keys).bindFinally ?_
  intro takingMade pairs taken
  refine (resolveAll_along pairs []).bindFinally ?_
  intro resolvingMade result resolved
  have exported : ∀ later : List Exchange, later.filterMap taken? = [] →
      (takingMade ++ (resolvingMade ++ later)).filterMap taken? = countsOf result.1 := by
    intro later nothing
    simp [List.filterMap_append, taken, resolved, nothing]
  dsimp only
  split
  · refine ⟨finally_none _ _, ?_⟩
    intro dropped samples given
    cases given
    exact exported [⟨.dropAllStacks, dropped⟩] rfl
  · refine (dropStacks_along result.2).bindFinally ?_
    intro droppingMade dropped nothing samples given
    cases given
    exact exported _ (by simp [nothing])

end Collection
end SamplingProfiler
