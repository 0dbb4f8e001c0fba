/-!
# Dialogues

A dialogue is a program that holds no state of its own: it either has a result,
or it makes one call to its surroundings and goes on with the reply. The type of
a reply depends on the call it answers.

The profiler's decision logic is written once as dialogues. What the calls do is
decided by whoever answers them: in-process tables, the maps of a kernel, a list
of prepared replies, or tables shared with other dialogues whose calls come in
between.

`run` answers every call. `runUntil` lets an answer end the conversation instead
of replying, which is what a call that never comes back does.
-/

namespace SamplingProfiler

/-- A program that alternates calls and replies until it has a result. -/
inductive Dialogue (Call : Type) (Reply : Call → Type) (Result : Type) where
  | done (result : Result)
  | ask (call : Call) (resume : Reply call → Dialogue Call Reply Result)

namespace Dialogue

variable {Call : Type} {Reply : Call → Type} {First Second State Halt : Type}

/-- Continue with `next` where the first dialogue ends. -/
def andThen : Dialogue Call Reply First → (First → Dialogue Call Reply Second) →
    Dialogue Call Reply Second
  | .done result, next => next result
  | .ask call resume, next => .ask call fun reply => (resume reply).andThen next

instance : Monad (Dialogue Call Reply) where
  pure := .done
  bind := andThen

/-- The dialogue that makes one call and returns its reply. -/
def request (call : Call) : Dialogue Call Reply (Reply call) :=
  .ask call .done

/-- Answer every call from a state until the dialogue has its result. -/
def run (answer : (call : Call) → State → Reply call × State) :
    Dialogue Call Reply First → State → First × State
  | .done result, state => (result, state)
  | .ask call resume, state =>
    (resume (answer call state).1).run answer (answer call state).2

/-- Answer calls until the dialogue has its result or an answer halts it. -/
def runUntil (answer : (call : Call) → State → Except Halt (Reply call) × State) :
    Dialogue Call Reply First → State → Except Halt First × State
  | .done result, state => (.ok result, state)
  | .ask call resume, state =>
    match answer call state with
    | (.ok reply, next) => (resume reply).runUntil answer next
    | (.error reason, next) => (.error reason, next)

/-- Run with a fixed reply to each call and keep the calls in the order made. -/
def transcript (reply : (call : Call) → Reply call) (dialogue : Dialogue Call Reply First) :
    First × List Call :=
  dialogue.run (fun call made => (reply call, made ++ [call])) []

@[simp] theorem pure_eq_done (result : First) :
    (pure result : Dialogue Call Reply First) = .done result := rfl

@[simp] theorem ask_bind (call : Call) (resume : Reply call → Dialogue Call Reply First)
    (next : First → Dialogue Call Reply Second) :
    .ask call resume >>= next = .ask call fun reply => resume reply >>= next := rfl

@[simp] theorem request_bind (call : Call)
    (next : Reply call → Dialogue Call Reply Second) :
    request call >>= next = .ask call next := rfl

@[simp] theorem run_done (answer : (call : Call) → State → Reply call × State)
    (result : First) (state : State) :
    (.done result : Dialogue Call Reply First).run answer state = (result, state) := rfl

@[simp] theorem run_ask (answer : (call : Call) → State → Reply call × State)
    (call : Call) (resume : Reply call → Dialogue Call Reply First) (state : State) :
    (Dialogue.ask call resume).run answer state =
      (resume (answer call state).1).run answer (answer call state).2 := rfl

/-- An answer that replies lets the dialogue go on. -/
theorem runUntil_ask (answer : (call : Call) → State → Except Halt (Reply call) × State)
    {call : Call} {state : State} {reply : Reply call}
    (replied : (answer call state).1 = .ok reply)
    (resume : Reply call → Dialogue Call Reply First) :
    (Dialogue.ask call resume).runUntil answer state =
      (resume reply).runUntil answer (answer call state).2 := by
  cases answered : answer call state with
  | mk _ next =>
    rw [answered] at replied
    cases replied
    simp only [runUntil, answered]

/-- Running a sequence runs its parts one after the other on the same state. -/
theorem run_bind (answer : (call : Call) → State → Reply call × State)
    (dialogue : Dialogue Call Reply First) (next : First → Dialogue Call Reply Second)
    (state : State) :
    (dialogue >>= next).run answer state =
      (next (dialogue.run answer state).1).run answer (dialogue.run answer state).2 := by
  induction dialogue generalizing state with
  | done result => rfl
  | ask call resume inductionHypothesis => exact inductionHypothesis _ _

/-- A dialogue cannot tell two ways of answering apart that give the same replies. Here
the second one sees less of the state, and it is enough that they agree on the states
that the first one comes to. -/
theorem run_view {Seen : Type} (answer : (call : Call) → State → Reply call × State)
    (answerSeen : (call : Call) → Seen → Reply call × Seen) (view : State → Seen)
    (admitted : State → Prop)
    (agrees : ∀ call state, admitted state → admitted (answer call state).2 ∧
      ((answer call state).1, view (answer call state).2) = answerSeen call (view state))
    (dialogue : Dialogue Call Reply First) (state : State) (initial : admitted state) :
    admitted (dialogue.run answer state).2 ∧
      ((dialogue.run answer state).1, view (dialogue.run answer state).2) =
        dialogue.run answerSeen (view state) := by
  induction dialogue generalizing state with
  | done result => exact ⟨initial, rfl⟩
  | ask call resume inductionHypothesis =>
    obtain ⟨kept, same⟩ := agrees call state initial
    simp only [run_ask, ← same]
    exact inductionHypothesis _ _ kept

end Dialogue
end SamplingProfiler
