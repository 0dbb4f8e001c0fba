import SamplingProfiler.Proofs.Exchanges
import SamplingProfiler.Proofs.Standings

/-!
# Upkeep

A controller at work for any table and with any resolver. Nothing is assumed of those who
answer its calls: they answer from a world of their own, which may also change between two
jobs. So answers vary over time, and table operations fail at will.

A run is a list of jobs and of changes of the world. It leaves a controller and a world, and
what it did on the way is the list of its exchanges, in the order in which they were made.
-/

namespace SamplingProfiler
namespace Controller

open Dialogue (Finally finally_some finally_none)

/-- A call of the controller with its reply. -/
abbrev Exchange : Type :=
  Dialogue.Exchange Call Reply

/-- The process that a call is about. -/
def Call.pid? : Call → Option UInt32
  | .isAlive pid => some pid
  | .resolve pid => some pid
  | .write pid _ => some pid
  | .remove pid => some pid
  | .list => none

/-- What a controller is there for. -/
inductive Job where
  | handle (notice : Notice)
  | hearLost (cpu : UInt32) (lost : UInt64)
  | reconcile
  | retry
  | cleanUp
deriving DecidableEq, Repr

/-- The operation of a job. -/
def operation (controller : Controller) : Job → Operation Controller
  | .handle notice => controller.handle notice
  | .hearLost cpu lost => return controller.handleLost cpu lost
  | .reconcile => do return (← controller.reconcile).2
  | .retry => controller.retryUndecided
  | .cleanUp => do return (← controller.cleanup).2

variable (controller : Controller) (pid : UInt32)

/-- A process that is marked dead is dead. -/
theorem isDead_markDead (tested : UInt32) :
    (controller.markDead pid).isDead tested =
      (decide (tested = pid) || controller.isDead tested) :=
  contains_set controller.dead pid tested

/-- A process that is marked dead is not undecided. -/
theorem isUndecided_markDead (tested : UInt32) :
    (controller.markDead pid).isUndecided tested =
      (!decide (tested = pid) && controller.isUndecided tested) :=
  contains_erase controller.undecided pid tested

/-- Removing processes calls for the removal of each of them, in order. -/
theorem removeAll_along (pids : List UInt32) :
    (removeAll pids).Along
      (Finally fun made _ => made.map Sigma.fst = pids.map Call.remove) := by
  induction pids with
  | nil => exact finally_some rfl
  | cons pid rest inductionHypothesis =>
    refine ⟨finally_none _ _, ?_⟩
    intro removed
    refine inductionHypothesis.bindFinally ?_
    intro made count called
    refine finally_some ?_
    simp [called]

/-- A cleanup calls for the removal of each dead process and of no other, and forgets them
all, whatever the replies. -/
theorem cleanUp_along :
    (controller.operation .cleanUp).Along (Finally fun made last =>
      made.map Sigma.fst = controller.dead.keys.map Call.remove ∧
        last = { controller with dead := Entries.empty }) := by
  have cleaned : controller.cleanup.Along (Finally fun made result =>
      made.map Sigma.fst = controller.dead.keys.map Call.remove ∧
        result.2 = { controller with dead := Entries.empty }) := by
    refine (removeAll_along controller.dead.keys).bindFinally ?_
    intro made removed called
    refine finally_some ⟨?_, rfl⟩
    rwa [List.append_nil]
  exact cleaned.returning Prod.snd

end Controller

/-- What can happen to a controller and its world. -/
inductive UpkeepEvent (World : Type) where
  | worked (job : Controller.Job)
  /-- The world changed by itself. -/
  | elapsed (change : World → World)

/-- A controller and the world that answers its calls. -/
structure Upkeep (World : Type) where
  controller : Controller
  world : World

namespace Upkeep

open Controller (Call Reply Exchange)

variable {World : Type} (answer : (call : Call) → World → Reply call × World)

/-- What an event leaves. -/
def step (upkeep : Upkeep World) : UpkeepEvent World → Upkeep World
  | .worked job =>
    let (controller, world) := (upkeep.controller.operation job).run answer upkeep.world
    ⟨controller, world⟩
  | .elapsed change => { upkeep with world := change upkeep.world }

/-- The exchanges made at an event. -/
def exchangesAt (upkeep : Upkeep World) : UpkeepEvent World → List Exchange
  | .worked job => (upkeep.controller.operation job).exchanges answer upkeep.world
  | .elapsed _ => []

/-- What a list of events leaves. -/
def after (upkeep : Upkeep World) (events : List (UpkeepEvent World)) : Upkeep World :=
  events.foldl (step answer) upkeep

/-- The exchanges made during a list of events. -/
def exchanges (upkeep : Upkeep World) : List (UpkeepEvent World) → List Exchange
  | [] => []
  | event :: rest => upkeep.exchangesAt answer event ++ (upkeep.step answer event).exchanges rest

@[simp] theorem after_nil (upkeep : Upkeep World) : upkeep.after answer [] = upkeep := rfl

@[simp] theorem after_cons (upkeep : Upkeep World) (event : UpkeepEvent World)
    (rest : List (UpkeepEvent World)) :
    upkeep.after answer (event :: rest) = (upkeep.step answer event).after answer rest := rfl

@[simp] theorem exchanges_cons (upkeep : Upkeep World) (event : UpkeepEvent World)
    (rest : List (UpkeepEvent World)) :
    upkeep.exchanges answer (event :: rest) =
      upkeep.exchangesAt answer event ++ (upkeep.step answer event).exchanges answer rest := rfl

/-- What relates the controllers before and after each event through the exchanges made there
relates the ends of a run, if it relates a controller to itself and can be put together.

Induct over the events. -/
theorem exchanges_relate (related : Controller → List Exchange → Controller → Prop)
    (unmoved : ∀ controller, related controller [] controller)
    (composed : ∀ {first second third made later}, related first made second →
      related second later third → related first (made ++ later) third)
    (upkeep : Upkeep World) (events : List (UpkeepEvent World))
    (stepped : ∀ current : Upkeep World, ∀ event ∈ events,
      related current.controller (current.exchangesAt answer event)
        (current.step answer event).controller) :
    related upkeep.controller (upkeep.exchanges answer events)
      (upkeep.after answer events).controller := by
  induction events generalizing upkeep with
  | nil => exact unmoved _
  | cons event rest inductionHypothesis =>
    apply composed (stepped upkeep event List.mem_cons_self)
    apply inductionHypothesis
    intro current later member
    exact stepped current later (List.mem_cons_of_mem event member)

/-- What is true of every answer is true of every exchange of a run. -/
theorem exchanges_satisfy (property : Exchange → Prop)
    (answered : ∀ call world, property ⟨call, (answer call world).1⟩)
    (upkeep : Upkeep World) (events : List (UpkeepEvent World)) :
    ∀ exchange ∈ upkeep.exchanges answer events, property exchange := by
  induction events generalizing upkeep with
  | nil => simp [exchanges]
  | cons event rest inductionHypothesis =>
    intro exchange member
    rcases List.mem_append.mp member with member | member
    · cases event with
      | worked job =>
        exact Dialogue.exchanges_satisfy answer property answered _ _ exchange member
      | elapsed change => cases member
    · exact inductionHypothesis _ exchange member

end Upkeep
end SamplingProfiler
