/-
What a contract sees of the SDK: the context, the results, the error texts.

The texts are part of the protocol.  They travel inside the result and may be
matched by the host, so they are here word for word.
-/
import AveContract.Runtime.Data

namespace Ave

namespace Sdk

/-- Maximum size in bytes for data read from host memory. -/
def maxDataSize : Int := 10000000

/-- Ownership flag value sent by the runtime. -/
def ownerFlag : Word := 1

def errInitRejected : String := "Error running init contract data"

def errEventRejected : String := "Error running contract event"

def errFinalStateSer : String := "Cannot serialize contract final state into JSON bytes"

def errReturnInitResult : String := "Cannot return init contract result"

def errReturnResult : String := "Cannot return contract result"

/-- Internal errors of the SDK. -/
inductive Error where
  | serialization (details : String)
  | deserialization (details : String)
  | memoryLimitExceeded (requested max : Nat)
  | hostAllocationFailed (requested : Nat)
  | integerOverflow (details : String)
  deriving DecidableEq, Repr

/-- `to_string()`. -/
def Error.display : Error → String
  | .serialization details => s!"Serialization error: {details}"
  | .deserialization details => s!"Deserialization error: {details}"
  | .memoryLimitExceeded requested max =>
      s!"Memory limit exceeded: requested {requested} bytes, maximum allowed is {max} bytes"
  | .hostAllocationFailed requested =>
      s!"Host allocation failed: could not allocate {requested} bytes"
  | .integerOverflow details => s!"Integer overflow: {details}"

/-- Contract execution context. -/
structure Context (Event : Type) where
  event : Event
  isOwner : Bool

/-- Contract execution result. -/
structure ContractResult (State : Type) where
  state : State
  success : Bool
  error : String

/-- Contract initialization validation result. -/
structure ContractInitCheck where
  success : Bool
  error : String

namespace ContractResult

variable {State : Type}

/-- New results start as failed. -/
def new (state : State) : ContractResult State := { state, success := false, error := "" }

def accept (self : ContractResult State) : ContractResult State := { self with success := true }

def reject (self : ContractResult State) (msg : String) : ContractResult State :=
  { self with success := false, error := msg }

end ContractResult

namespace ContractInitCheck

def default : ContractInitCheck := { success := false, error := "" }

def accept (self : ContractInitCheck) : ContractInitCheck := { self with success := true }

def reject (self : ContractInitCheck) (msg : String) : ContractInitCheck :=
  { self with success := false, error := msg }

end ContractInitCheck

/-- Rejects the event unless its sender is the owner; the flag says whether to go on. -/
def requireOwner {Event State : Type} (context : Context Event) (result : ContractResult State) :
    Bool × ContractResult State :=
  if context.isOwner then (true, result)
  else (false, result.reject "Only the owner can perform this action")

/-- What an author writes: two types with their JSON, and two callbacks.  A callback changes the
result it is given, so it is a function from results to results. -/
structure Contract (State Event : Type) where
  state : Serde State
  event : Serde Event
  callback : Context Event → ContractResult State → ContractResult State
  check : State → ContractInitCheck → ContractInitCheck

end Sdk

end Ave
