/-
An example contract of the repository, `example2`: it keeps a text, and any event
replaces it.

What serde derives for its types is a parameter.  The other example contract,
`example`, is not here: its callback holds a mutable borrow of the result's state
across the call of `require_owner`, and the borrow checker refuses it.
-/
import AveContract.Sdk.Guest

namespace Ave

open Sdk

namespace Example2

/-- Contract state used by the example. -/
structure State where
  data : String
  deriving DecidableEq, Repr

inductive StateEvent where
  | changeData (data : String)
  deriving DecidableEq, Repr

def initLogic (_state : State) (contractResult : ContractInitCheck) : ContractInitCheck :=
  contractResult.accept

def contractLogic (context : Context StateEvent) (contractResult : ContractResult State) :
    ContractResult State :=
  match context.event with
  | .changeData data =>
      ({ contractResult with state := { contractResult.state with data } } :
        ContractResult State).accept

/-- The contract, on the JSON of its types. -/
def contract (state : Serde State) (event : Serde StateEvent) : Contract State StateEvent where
  state
  event
  callback := contractLogic
  check := initLogic

end Example2

end Ave
