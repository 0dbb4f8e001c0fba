import SamplingProfiler.Controller
import SamplingProfiler.Session

/-!
# Tending a table

The controller's calls answered from a bounded map and a resolver. What the
resolver is asked is kept, and the table can be told to refuse operations, which
then have no effect.
-/

namespace SamplingProfiler

/-- Who says how processes are profiled, and which of them still exist. -/
structure Resolver where
  resolve : UInt32 → Option Policy
  isAlive : UInt32 → Bool

/-- A question that was put to the resolver. -/
inductive Question where
  | policyOf (pid : UInt32)
  | alive (pid : UInt32)
deriving DecidableEq, Repr

/-- Which table operations are refused. -/
structure Refusals where
  write : Bool
  remove : Bool
  list : Bool
deriving DecidableEq, Repr

namespace Refusals

/-- Nothing is refused. -/
def none : Refusals :=
  ⟨false, false, false⟩

end Refusals

/-- The table that a controller tends, and what it has asked so far. -/
structure Tending where
  policies : BoundedMap UInt32 Policy
  asked : List Question

namespace Tending

/-- Answer a call of the controller. Writing overwrites; removing a process that is
    absent does not work. -/
def answer (resolver : Resolver) (refusals : Refusals) :
    (call : Controller.Call) → Tending → Controller.Reply call × Tending
  | .isAlive pid, tending =>
    (resolver.isAlive pid, { tending with asked := tending.asked ++ [.alive pid] })
  | .resolve pid, tending =>
    (resolver.resolve pid, { tending with asked := tending.asked ++ [.policyOf pid] })
  | .write pid policy, tending =>
    if refusals.write then (false, tending)
    else
      let (result, policies) := tending.policies.insert pid policy UpdateFlags.any
      (result.isOk, { tending with policies })
  | .remove pid, tending =>
    if refusals.remove then (false, tending)
    else
      let (removed, policies) := tending.policies.remove pid
      (removed.isSome, { tending with policies })
  | .list, tending =>
    (if refusals.list then .none else some tending.policies.keys, tending)

end Tending

namespace Session

/-- Run an operation of a controller on the processes of a session. Besides the
    result there are the questions that it put to the resolver. -/
def tend {Result : Type} (session : Session) (resolver : Resolver) (refusals : Refusals)
    (operation : Controller.Operation Result) : Result × List Question × Session :=
  let (result, tending) :=
    operation.run (Tending.answer resolver refusals) ⟨session.policies, []⟩
  (result, tending.asked, { session with policies := tending.policies })

end Session
end SamplingProfiler
