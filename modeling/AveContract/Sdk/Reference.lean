/-
What running and validating a contract means, without a host.

The inputs are JSON texts and the outcome is a result.  No pointer, no length and
no encoding appears: this is what the two halves are supposed to implement
together, stated in neither's terms.  The error texts are the protocol's.
-/
import AveContract.Runtime.ContractRuntime
import AveContract.Sdk.Types

namespace Ave

namespace Sdk

variable {State Event : Type}

/-- A JSON text as a value, or the message of a text that is none. -/
def parseInput {T : Type} (fromSlice : Bytes → Except String T) (contextName : String)
    (json : Bytes) : Except String T :=
  match fromSlice json with
  | .error e => .error s!"Cannot parse {contextName} from JSON bytes: {e}"
  | .ok value => .ok value

/-- The current state, or the initial state when that is none. -/
def referenceState (contract : Contract State Event) (state initState : Bytes) :
    Except String State :=
  match parseInput contract.state.fromSlice "State" state with
  | .ok s => .ok s
  | .error first =>
      match parseInput contract.state.fromSlice "Init State" initState with
      | .ok s => .ok s
      | .error second => .error s!"{first}; fallback to init state also failed: {second}"

/-- The callback's outcome on the parsed inputs, or the message of the first failure. -/
def tryReference (contract : Contract State Event) (state initState event : Bytes)
    (isOwner : Bool) : Except String ContractResultData :=
  match referenceState contract state initState with
  | .error e => .error e
  | .ok s =>
      match parseInput contract.event.fromSlice "Event" event with
      | .error e => .error e
      | .ok event =>
          let result := contract.callback { event, isOwner } (.new s)
          match contract.state.toVec result.state with
          | .error _ => .error errFinalStateSer
          | .ok finalState =>
              .ok { finalState := ⟨finalState⟩
                    success := result.success
                    error := if result.success then "" else s!"{errEventRejected}: {result.error}" }

/-- **The reference outcome**: what `tryReference` gives, or a failure with a null state. -/
def reference (contract : Contract State Event) (state initState event : Bytes) (isOwner : Bool) :
    ContractResultData :=
  match tryReference contract state initState event isOwner with
  | .error e => .failed e
  | .ok result => result

/-- The check's outcome on the parsed state, or the message of the first failure. -/
def tryReferenceCheck (contract : Contract State Event) (state : Bytes) :
    Except String ContractInitCheckData :=
  match parseInput contract.state.fromSlice "State" state with
  | .error e => .error e
  | .ok s =>
      let check := contract.check s .default
      if check.success then .ok .ok else .error s!"{errInitRejected}: {check.error}"

/-- **The reference check**: what `tryReferenceCheck` gives, or a failure. -/
def referenceCheck (contract : Contract State Event) (state : Bytes) : ContractInitCheckData :=
  match tryReferenceCheck contract state with
  | .error e => .failed e
  | .ok result => result

/-- A check as the host reports it. -/
def reportCheck (outcome : ContractInitCheckData) : Except RuntimeError Unit :=
  if outcome.success then .ok () else .error (.contractExecutionFailed outcome.error)

/-- An outcome as the host reports it, its state read as a host value. -/
def report {V : Type} (ext : Externals V) (outcome : ContractResultData) :
    Except RuntimeError (ExecutionResult V) :=
  match ext.json.fromSlice outcome.finalState.bytes with
  | .error e => .error (.serializationError "final state json" e)
  | .ok finalState => .ok { finalState, success := outcome.success, error := outcome.error }

end Sdk

end Ave
