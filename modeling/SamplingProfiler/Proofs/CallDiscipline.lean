import Mathlib.Data.List.Induction
import SamplingProfiler.Proofs.Exchanges

/-!
# The discipline of calls

Which call a decision may make depends on what it was told before. A sampling interrupt looks
the process up before anything else. It writes and announces a process that was not found. Of
a process that was found it follows the policy: it hands over as the last thing it does, or it
captures the wanted sides and counts one key.

The discipline says for every call after which exchanges it may be made. A dialogue obeys it
if each of its calls is permitted after those before, whatever was replied to them. So the
law is local, and what is true of a whole conversation is read off it: no call is made twice,
and none follows a hand-over.

Main statements:

* `sample_obeys` - a sampling interrupt obeys the discipline.
* `calls_are_disciplined` - what this says of whole conversations, and those of the lifecycle
  probes.
-/

namespace SamplingProfiler
namespace Dialogue

variable {Call : Type} {Reply : Call → Type} {First Second : Type}

/-- Every call of a dialogue is permitted after the exchanges before it, whatever was replied.
Some exchanges may have been made before the dialogue. -/
def Obeys (permitted : List (Exchange Call Reply) → Call → Prop) :
    List (Exchange Call Reply) → Dialogue Call Reply First → Prop
  | _, .done _ => True
  | earlier, .ask call resume => permitted earlier call ∧
      ∀ reply, Obeys permitted (earlier ++ [⟨call, reply⟩]) (resume reply)

/-- Every call of a conversation is permitted after the exchanges before it. -/
def Permits (permitted : List (Exchange Call Reply) → Call → Prop)
    (made : List (Exchange Call Reply)) : Prop :=
  ∀ earlier exchange later, made = earlier ++ exchange :: later → permitted earlier exchange.1

/-- The conversations of a dialogue that obeys have only permitted calls.

Induct over the calls. The first exchange of a conversation is permitted after those made
before, and it is one of them for the rest. -/
theorem Obeys.permits {State : Type} {permitted : List (Exchange Call Reply) → Call → Prop}
    {earlier : List (Exchange Call Reply)} {dialogue : Dialogue Call Reply First}
    (obeys : dialogue.Obeys permitted earlier)
    (answer : (call : Call) → State → Reply call × State) (state : State) :
    Permits (fun made => permitted (earlier ++ made)) (dialogue.exchanges answer state) := by
  induction dialogue generalizing earlier state with
  | done result =>
    intro before exchange later split
    simp [exchanges] at split
  | ask call resume inductionHypothesis =>
    obtain ⟨first, further⟩ := obeys
    intro before exchange later split
    cases before with
    | nil =>
      rw [exchanges, List.nil_append, List.cons.injEq] at split
      rw [List.append_nil, ← split.1]
      exact first
    | cons opening between =>
      rw [exchanges, List.cons_append, List.cons.injEq] at split
      have rest := inductionHypothesis _ (further _) _ between exchange later split.2
      dsimp only at rest
      rwa [List.append_assoc, List.singleton_append, split.1] at rest

/-- If no call is permitted after one of its kind was made, no two calls of a conversation are
of one kind.

Induct over the conversation from its end: the last call is permitted, so none of those before
is of its kind. -/
theorem Permits.nodup {Kind : Type} {permitted : List (Exchange Call Reply) → Call → Prop}
    {made : List (Exchange Call Reply)} (permits : Permits permitted made) (kind : Call → Kind)
    (fresh : ∀ earlier call, permitted earlier call →
      kind call ∉ earlier.map fun exchange => kind exchange.1) :
    (made.map fun exchange => kind exchange.1).Nodup := by
  induction made using List.reverseRecOn with
  | nil => exact List.nodup_nil
  | append_singleton earlier last inductionHypothesis =>
    have before : Permits permitted earlier := by
      intro first exchange later split
      exact permits first exchange (later ++ [last]) (by simp [split])
    have absent := fresh earlier last.1 (permits earlier last [] rfl)
    rw [List.map_append, List.map_singleton, List.nodup_append]
    refine ⟨inductionHypothesis before, by simp, ?_⟩
    intro previous member repeated here same
    rw [List.mem_singleton] at here
    exact absent (here ▸ same ▸ member)

end Dialogue

namespace Sampler

/-- What a call does, whatever it does it with. Captures of different sides do different
things. -/
inductive Operation where
  | findPolicy
  | insertPolicy
  | captureStack (flags : UInt64)
  | increment
  | insertCount
  | send
  | tailCall
deriving DecidableEq, Repr

/-- What a call does. To do it again is to retry. -/
def Call.operation : Call → Operation
  | .findPolicy _ => .findPolicy
  | .insertPolicy _ _ => .insertPolicy
  | .captureStack flags => .captureStack flags
  | .increment _ => .increment
  | .insertCount _ _ => .insertCount
  | .send _ => .send
  | .tailCall _ => .tailCall

/-- The exchange by which a side was captured, if its byte asks for it. -/
def sideCapture (byte : UInt8) (flags : UInt64) (id : Int) : List Exchange :=
  if byte ≠ 0 then [⟨.captureStack flags, id⟩] else []

/-- What a key says of a side: the captured id, if the byte asks for the side and the id is
not negative. -/
def sideId (byte : UInt8) (id : Int) : Int :=
  if byte ≠ 0 ∧ 0 ≤ id then id else SampleKey.notCollected

/-- A process was found whose policy follows frame pointers, its wanted sides were captured,
and a key carries the process and what the captures gave. -/
def Keyed (subject : Subject) (earlier : List Exchange) (key : SampleKey) : Prop :=
  ∃ policy kernelId userId, policy.kind? = some .framePointers ∧
    earlier = ⟨.findPolicy subject.pid, some policy⟩ ::
      (sideCapture policy.kernelByte StackFlags.kernelSide kernelId ++
        sideCapture policy.userByte StackFlags.userSide userId) ∧
    key = ⟨subject.pid, 0, sideId policy.kernelByte kernelId, sideId policy.userByte userId⟩

/-- After which exchanges a sampling interrupt may make a call. -/
def Permitted (subject : Subject) (earlier : List Exchange) : Call → Prop
  | .findPolicy pid => pid = subject.pid ∧ earlier = []
  | .insertPolicy pid policy =>
    pid = subject.pid ∧ policy = Policy.undecided ∧ earlier = [⟨.findPolicy pid, none⟩]
  | .send notice =>
    notice = .ofKind .firstSeen subject.pid ∧
      earlier = [⟨.findPolicy subject.pid, none⟩,
        ⟨.insertPolicy subject.pid Policy.undecided, .ok ()⟩]
  | .tailCall slot =>
    slot = Limits.pythonSlot ∧ ∃ policy, policy.kind? = some .python ∧
      earlier = [⟨.findPolicy subject.pid, some policy⟩]
  | .captureStack flags =>
    ∃ policy, policy.kind? = some .framePointers ∧
      (flags = StackFlags.kernelSide ∧ policy.kernelByte ≠ 0 ∧
          earlier = [⟨.findPolicy subject.pid, some policy⟩] ∨
        flags = StackFlags.userSide ∧ policy.userByte ≠ 0 ∧
          ∃ kernelId, earlier = ⟨.findPolicy subject.pid, some policy⟩ ::
            sideCapture policy.kernelByte StackFlags.kernelSide kernelId)
  | .increment key => Keyed subject earlier key
  | .insertCount key count =>
    count = 1 ∧ ∃ before, Keyed subject before key ∧ earlier = before ++ [⟨.increment key, false⟩]

section Obedience

open Dialogue (Obeys)

variable (subject : Subject)

/-- A part that goes on from a captured side obeys, if the capture is permitted where the side
is wanted, and the rest obeys after it. -/
theorem captureSide_obeys {permitted : List Exchange → Call → Prop} {earlier : List Exchange}
    {byte : UInt8} {flags : UInt64} {next : Int → Decision Outcome}
    (asked : byte ≠ 0 → permitted earlier (.captureStack flags))
    (further : ∀ id, (next (sideId byte id)).Obeys permitted (earlier ++ sideCapture byte flags id)) :
    (captureSide (byte != 0) flags >>= next).Obeys permitted earlier := by
  by_cases wanted : byte ≠ 0
  · have captured (id : Int) : sideId byte id = collectedStack id := by
      simp only [sideId, collectedStack, wanted, ne_eq, not_false_eq_true, true_and]
      by_cases stored : 0 ≤ id
      · rw [if_pos stored, if_neg (by omega)]
      · rw [if_neg stored, if_pos (by omega)]
    have made : (byte != 0) = true := by simpa using wanted
    rw [made]
    refine ⟨asked wanted, ?_⟩
    intro id
    have rest := further id
    rwa [captured, sideCapture, if_pos wanted] at rest
  · have unmade : (byte != 0) = false := by simpa using wanted
    have rest := further 0
    simp only [sideId, sideCapture, wanted, false_and, if_false, List.append_nil] at rest
    rw [unmade]
    exact rest

/-- Counting a key obeys where its sides were captured. -/
theorem countKey_obeys (key : SampleKey) {earlier : List Exchange}
    (keyed : Keyed subject earlier key) :
    (do
      if ← increment key then
        return .sampleCounted
      match ← insertCount key 1 with
      | .ok () => return .sampleNewKey
      | .error _ => return .sampleKeyRace : Decision Outcome).Obeys (Permitted subject) earlier := by
  refine ⟨keyed, ?_⟩
  intro raised
  cases raised with
  | true => trivial
  | false =>
    refine ⟨⟨rfl, earlier, keyed, rfl⟩, ?_⟩
    intro written
    cases written <;> trivial

/-- Counting a sample obeys where a policy was found that follows frame pointers. -/
theorem countSample_obeys (policy : Policy) (followed : policy.kind? = some .framePointers) :
    (countSample subject.pid policy).Obeys (Permitted subject)
      [⟨.findPolicy subject.pid, some policy⟩] := by
  refine captureSide_obeys (fun wanted => ⟨policy, followed, .inl ⟨rfl, wanted, rfl⟩⟩) ?_
  intro kernelId
  refine captureSide_obeys (fun wanted => ⟨policy, followed, .inr ⟨rfl, wanted, kernelId, rfl⟩⟩) ?_
  intro userId
  refine countKey_obeys subject _ ⟨policy, kernelId, userId, followed, ?_, rfl⟩
  simp

/-- What the policy of a process asks for obeys where the policy was found. -/
theorem followPolicy_obeys (policy : Policy) :
    (followPolicy subject.pid policy).Obeys (Permitted subject)
      [⟨.findPolicy subject.pid, some policy⟩] := by
  simp only [followPolicy]
  cases kind : policy.kind? with
  | none => trivial
  | some named =>
    cases named with
    | unknown => trivial
    | error => trivial
    | framePointers => exact countSample_obeys subject policy kind
    | python =>
      refine ⟨⟨rfl, policy, kind, rfl⟩, ?_⟩
      intro taken
      cases taken <;> trivial

/-- Reporting a process obeys where it was not found. -/
theorem reportNewProcess_obeys :
    (reportNewProcess subject.pid).Obeys (Permitted subject) [⟨.findPolicy subject.pid, none⟩] := by
  refine ⟨⟨rfl, rfl, rfl⟩, ?_⟩
  intro written
  cases written with
  | ok accepted => exact ⟨⟨rfl, rfl⟩, fun _ => trivial⟩
  | error number => trivial

/-- A sampling interrupt obeys the discipline. -/
theorem sample_obeys : (sample subject).Obeys (Permitted subject) [] := by
  simp only [sample]
  cases refusal? subject with
  | some outcome => trivial
  | none =>
    refine ⟨⟨rfl, rfl⟩, ?_⟩
    intro known
    cases known with
    | none => exact reportNewProcess_obeys subject
    | some policy => exact followPolicy_obeys subject policy

end Obedience

/-- A call is not permitted after one of the same operation. -/
theorem Permitted.fresh {subject : Subject} {earlier : List Exchange} {call : Call}
    (permitted : Permitted subject earlier call) :
    call.operation ∉ earlier.map fun exchange => exchange.1.operation := by
  have apart : StackFlags.userSide ≠ StackFlags.kernelSide := by decide
  cases call with
  | findPolicy pid => simp [permitted.2]
  | insertPolicy pid policy => simp [permitted.2.2, Call.operation]
  | send notice => simp [permitted.2, Call.operation]
  | tailCall slot =>
    obtain ⟨-, policy, -, rfl⟩ := permitted
    simp [Call.operation]
  | captureStack flags =>
    obtain ⟨policy, -, ⟨-, -, rfl⟩ | ⟨rfl, -, kernelId, rfl⟩⟩ := permitted
    · simp [Call.operation]
    · simp only [sideCapture]
      split <;> simp [Call.operation, apart]
  | increment key =>
    obtain ⟨policy, kernelId, userId, -, rfl, -⟩ := permitted
    simp only [sideCapture]
    split <;> split <;> simp [Call.operation]
  | insertCount key count =>
    obtain ⟨-, before, ⟨policy, kernelId, userId, -, rfl, -⟩, rfl⟩ := permitted
    simp only [sideCapture]
    split <;> split <;> simp [Call.operation]

/-- No call is permitted right after a hand-over. -/
theorem Permitted.not_handedOver {subject : Subject} {earlier : List Exchange} {call : Call}
    (permitted : Permitted subject earlier call) (slot : UInt32) (reply : Except Int Unit) :
    earlier.getLast? ≠ some ⟨.tailCall slot, reply⟩ := by
  cases call with
  | findPolicy pid => simp [permitted.2]
  | insertPolicy pid policy => simp [permitted.2.2]
  | send notice => simp [permitted.2]
  | tailCall otherSlot =>
    obtain ⟨-, policy, -, rfl⟩ := permitted
    simp
  | captureStack flags =>
    obtain ⟨policy, -, ⟨-, -, rfl⟩ | ⟨rfl, -, kernelId, rfl⟩⟩ := permitted
    · simp
    · simp only [sideCapture]
      split <;> simp
  | increment key =>
    obtain ⟨policy, kernelId, userId, -, rfl, -⟩ := permitted
    simp only [sideCapture]
    split <;> split <;> simp
  | insertCount key count =>
    obtain ⟨-, before, -, rfl⟩ := permitted
    simp

/-- Every call but the look-up is permitted only after the look-up was made first. -/
theorem Permitted.asked {subject : Subject} {earlier : List Exchange} {call : Call}
    (permitted : Permitted subject earlier call) :
    (call = .findPolicy subject.pid ∧ earlier = []) ∨
      ∃ found later, earlier = ⟨.findPolicy subject.pid, found⟩ :: later := by
  cases call with
  | findPolicy pid => exact .inl ⟨congrArg _ permitted.1, permitted.2⟩
  | insertPolicy pid policy =>
    obtain ⟨rfl, -, rfl⟩ := permitted
    exact .inr ⟨_, _, rfl⟩
  | send notice =>
    obtain ⟨-, rfl⟩ := permitted
    exact .inr ⟨_, _, rfl⟩
  | tailCall slot =>
    obtain ⟨-, policy, -, rfl⟩ := permitted
    exact .inr ⟨_, _, rfl⟩
  | captureStack flags =>
    obtain ⟨policy, -, ⟨-, -, rfl⟩ | ⟨-, -, kernelId, rfl⟩⟩ := permitted
    · exact .inr ⟨_, _, rfl⟩
    · exact .inr ⟨_, _, rfl⟩
  | increment key =>
    obtain ⟨policy, kernelId, userId, -, rfl, -⟩ := permitted
    exact .inr ⟨_, _, rfl⟩
  | insertCount key count =>
    obtain ⟨-, before, ⟨policy, kernelId, userId, -, rfl, -⟩, rfl⟩ := permitted
    exact .inr ⟨_, _, rfl⟩

/-- A conversation of a sampling interrupt. Nothing is called for a subject that is not
sampled, and for any other the process is looked up. It is looked up before anything else, every
call is permitted after those before, nothing is done twice, and nothing follows a hand-over. -/
structure Disciplined (subject : Subject) (made : List Exchange) : Prop where
  silent : subject.pid = 0 ∨ subject.hasTask = false ∨ subject.flags = none ∨
    (∃ flags, subject.flags = some flags ∧ flags &&& TaskFlags.kernelThread ≠ 0) → made = []
  asks : subject.pid ≠ 0 → subject.hasTask = true →
    (∃ flags, subject.flags = some flags ∧ flags &&& TaskFlags.kernelThread = 0) →
      ∃ found later, made = ⟨.findPolicy subject.pid, found⟩ :: later
  asksFirst : ∀ exchange ∈ made.head?, ∃ found, exchange = ⟨.findPolicy subject.pid, found⟩
  permits : Dialogue.Permits (Permitted subject) made
  once : (made.map fun exchange => exchange.1.operation).Nodup
  handsOverLast : ∀ earlier slot reply later,
    made = earlier ++ ⟨.tailCall slot, reply⟩ :: later → later = []

/-- A conversation of a lifecycle probe: at most one call, which sends a notice. -/
def Brief (kind : NoticeKind) (subject : Subject) (made : List Exchange) : Prop :=
  made = [] ∨ made = [⟨.send (.ofKind kind subject.pid), ()⟩]

/-- What is permitted call by call is disciplined as a whole. -/
theorem disciplined_of_permits {subject : Subject} {made : List Exchange}
    (permits : Dialogue.Permits (Permitted subject) made)
    (silent : refusal? subject ≠ none → made = [])
    (asks : refusal? subject = none →
      ∃ found later, made = ⟨.findPolicy subject.pid, found⟩ :: later) :
    Disciplined subject made := by
  refine ⟨?_, ?_, ?_, permits, permits.nodup Call.operation fun _ _ => Permitted.fresh, ?_⟩
  · intro unsampled
    apply silent
    rw [Ne, refusal?_eq_none_iff]
    rintro ⟨named, present, user⟩
    rcases unsampled with idle | taskless | unreadable | ⟨flags, readable, worker⟩
    · exact named idle
    · simp [taskless] at present
    · simp [unreadable] at user
    · simp [readable, worker] at user
  · rintro named present ⟨flags, readable, user⟩
    exact asks ((refusal?_eq_none_iff subject).mpr ⟨named, present, by simp [readable, user]⟩)
  · intro exchange first
    obtain ⟨later, rfl⟩ := List.head?_eq_some_iff.mp first
    obtain ⟨call, reply⟩ := exchange
    rcases (permits [] ⟨call, reply⟩ later rfl).asked with ⟨rfl, -⟩ | ⟨found, further, made⟩
    · exact ⟨reply, rfl⟩
    · cases made
  · rintro earlier slot reply (_ | ⟨next, later⟩) split
    · rfl
    · have after := permits (earlier ++ [⟨.tailCall slot, reply⟩]) next later (by simp [split])
      exact absurd List.getLast?_concat (after.not_handedOver slot reply)

/-- A probe that reports sends at most one notice. -/
theorem report_brief (kind : NoticeKind) (subject : Subject) (outcome : Outcome) {State : Type}
    (answer : (call : Call) → State → Reply call × State) (state : State) :
    Brief kind subject ((report subject kind outcome).exchanges answer state) := by
  simp only [report]
  split
  · exact .inl rfl
  · exact .inr rfl

/-- The calls of a decision are disciplined, whoever answers them and whatever the replies. A
sampling interrupt makes no call at all for a subject that is not sampled. For any other it looks
the process up, before anything else. It makes every call only after the exchanges that permit
it, does nothing twice, and hands over as the last thing it does. A lifecycle probe makes at most one call, by
which it sends a notice about the process. -/
theorem calls_are_disciplined (subject : Subject) {State : Type}
    (answer : (call : Call) → State → Reply call × State) (state : State) :
    Disciplined subject ((sample subject).exchanges answer state) ∧
      (∀ onExit,
        Brief .exited subject ((terminalReleased subject onExit).exchanges answer state)) ∧
      Brief .replaced subject ((imageReplaced subject).exchanges answer state) := by
  refine ⟨disciplined_of_permits ((sample_obeys subject).permits answer state) ?_ ?_, ?_, ?_⟩
  · intro refused
    obtain ⟨outcome, refusal⟩ := Option.ne_none_iff_exists'.mp refused
    simp only [sample, refusal]
    rfl
  · intro admitted
    simp only [sample, admitted]
    exact ⟨_, _, rfl⟩
  · rintro (_ | _)
    · exact .inl rfl
    · exact report_brief .exited subject _ answer state
  · exact report_brief .replaced subject _ answer state

end Sampler
end SamplingProfiler
