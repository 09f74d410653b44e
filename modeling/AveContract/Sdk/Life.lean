/-
A subject's life under an SDK contract.

`Runtime/Subject.lean` has the life under any module.  Here the module is a compiled
contract, and what compiled code does on its own is for the data of one execution
(`Build`).  So every turn brings a build of its own: another event, another state or
another machine may find the buffers elsewhere and the work more or less.
-/
import AveContract.Runtime.Subject
import AveContract.Sdk.Guest

namespace Ave

namespace Sdk

/-- An event to execute, the machine that executes it, and what the compiled contract adds to the
source in that execution. -/
structure BuiltTurn (V : Type) extends Turn V where
  build : Build

/-- An answer is `Ok` with success. -/
def accepting {V : Type} : Except RuntimeError (ExecutionResult V × ExecutionStats) → Bool
  | .ok (result, _) => result.success
  | .error _ => false

namespace Contract

variable {V State Event : Type} (contract : Contract State Event) (ext : Externals V)
  (shell : Shell) (initState : V)

/-- What `execute` answers to an event. -/
def answer (state : V) (turn : BuiltTurn V) :
    Except RuntimeError (ExecutionResult V × ExecutionStats) :=
  turn.toTurn.answer ext (contract.module turn.build shell) initState state

/-- The state after an event. -/
def applyTurn (state : V) (turn : BuiltTurn V) : V :=
  Ave.applyTurn ext (contract.module turn.build shell) initState state turn.toTurn

/-- The state after a life. -/
def live (state : V) (turns : List (BuiltTurn V)) : V :=
  turns.foldl (contract.applyTurn ext shell initState) state

/-- Everything `execute` answered on the way. -/
def answers : V → List (BuiltTurn V) →
    List (Except RuntimeError (ExecutionResult V × ExecutionStats))
  | _, [] => []
  | state, turn :: rest =>
      contract.answer ext shell initState state turn ::
        answers (contract.applyTurn ext shell initState state turn) rest

/-- The turns of a life that were answered in some way. -/
def turnsWith (answered : Except RuntimeError (ExecutionResult V × ExecutionStats) → Bool) :
    V → List (BuiltTurn V) → List (BuiltTurn V)
  | _, [] => []
  | state, turn :: rest =>
      let later := turnsWith answered (contract.applyTurn ext shell initState state turn) rest
      if answered (contract.answer ext shell initState state turn) then turn :: later else later

/-- Those that were answered `Ok`. -/
def answered : V → List (BuiltTurn V) → List (BuiltTurn V) :=
  contract.turnsWith ext shell initState fun answer => answer.isOk

/-- Those that were answered `Ok` with success. -/
def accepted : V → List (BuiltTurn V) → List (BuiltTurn V) :=
  contract.turnsWith ext shell initState accepting

end Contract

end Sdk

end Ave
