/-
A subject's life: one event after another.

`execute` sees one event.  Its result says whether "the runtime should apply the
state change" (`ContractResult::success`), and whoever calls it keeps the state for
the next event.  That caller is written out here as the field says: an accepted
event replaces the state, and a rejected one or a failed execution leaves it.  Every
event may be executed on another machine.
-/
import AveContract.Runtime.ContractRuntime

namespace Ave

/-- An event to execute, and the machine that executes it. -/
structure Turn (V : Type) where
  machine : ResolvedMachineSpec
  event : V
  isOwner : Bool

section Life

variable {V σ : Type} (ext : Externals V) (module : WasmModule σ) (initState : V)

/-- What `execute` answers to an event. -/
def Turn.answer (turn : Turn V) (state : V) :
    Except RuntimeError (ExecutionResult V × ExecutionStats) :=
  executeInner ext turn.machine.limits module state initState turn.event turn.isOwner

/-- The state after an event. -/
def applyTurn (state : V) (turn : Turn V) : V :=
  match turn.answer ext module initState state with
  | .error _ => state
  | .ok (result, _) => if result.success then result.finalState else state

/-- The state after a life. -/
def live (state : V) (turns : List (Turn V)) : V :=
  turns.foldl (applyTurn ext module initState) state

/-- Everything `execute` answered on the way. -/
def answers : V → List (Turn V) → List (Except RuntimeError (ExecutionResult V × ExecutionStats))
  | _, [] => []
  | state, turn :: rest =>
      turn.answer ext module initState state ::
        answers (applyTurn ext module initState state turn) rest

end Life

end Ave
