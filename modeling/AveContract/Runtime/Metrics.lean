/-
Prometheus counters and histograms for contract execution.

A runtime records what it executes, when it was given a set of metrics to record in;
the set is shared, so several runtimes may record in one.  The client library is a
parameter, of which the proofs ask what it documents (`Client.Counting`,
`Client.Lawful`).  The values are whole numbers here: fuel and bytes are so in the
source, and a duration is in nanoseconds.  A histogram's sum, a float, is left out.

`executeInner` of `Runtime/ContractRuntime.lean` is what is executed.  The functions
below are the same again with their observations, in the places where the source has
them: fuel and memory between the call and the reading of its result, the execution
itself when everything is done.
-/
import AveContract.Lib.Tally
import AveContract.Runtime.ContractRuntime

namespace Ave

open Tally

structure ContractExecutionLabels where
  result : String
  deriving DecidableEq, Repr

/-- The metrics recorded by the contract runtime. -/
structure ContractMetrics (client : Client) where
  contractExecutions : client.Family ContractExecutionLabels client.Counter
  contractExecutionSeconds : client.Family ContractExecutionLabels client.Histogram
  contractFuelConsumed : client.Family ContractExecutionLabels client.Histogram
  contractFuelExhaustedTotal : client.Family ContractExecutionLabels client.Counter
  contractMemoryPeakBytes : client.Family ContractExecutionLabels client.Histogram

/-- Each of them, by its field. -/
inductive Metric where
  | contractExecutions
  | contractExecutionSeconds
  | contractFuelConsumed
  | contractFuelExhaustedTotal
  | contractMemoryPeakBytes
  deriving DecidableEq, Repr

/-- What is registered: a name, a help text and the metric, one after another. -/
abbrev Registry := List (String × String × Metric)

namespace ContractMetrics

/-- From half a millisecond to five seconds. -/
def secondsBuckets : List Nat :=
  [ 500000, 1000000, 2500000, 5000000, 10000000, 25000000, 50000000, 100000000, 250000000
  , 500000000, 1000000000, 2000000000, 5000000000 ]

def fuelBuckets : List Nat :=
  [1000, 10000, 100000, 500000, 1000000, 2500000, 5000000, 7500000, 10000000]

def memoryBuckets : List Nat := [4096, 16384, 65536, 262144, 1048576, 4194304, 16777216]

/-- Registers all metrics into `registry` under the `ave_contract_sdk_` prefix. -/
def registerInto (registry : Registry) : Registry :=
  registry ++
    [ ( "ave_contract_sdk_contract_executions"
      , "Contract execution attempts labeled by result."
      , .contractExecutions )
    , ( "ave_contract_sdk_contract_execution_seconds"
      , "Contract execution duration labeled by result."
      , .contractExecutionSeconds )
    , ( "ave_contract_sdk_contract_fuel_consumed"
      , "Contract fuel consumed per execution labeled by result."
      , .contractFuelConsumed )
    , ( "ave_contract_sdk_contract_fuel_exhausted"
      , "Total number of contract executions that ran out of fuel."
      , .contractFuelExhaustedTotal )
    , ( "ave_contract_sdk_contract_memory_peak_bytes"
      , "Peak WASM linear memory used per contract execution labeled by result."
      , .contractMemoryPeakBytes ) ]

section Observe

variable {client : Client} (self : ContractMetrics client)

/-- A metric set with the default histogram buckets. -/
def new (client : Client) : ContractMetrics client where
  contractExecutions := client.family client.counter
  contractExecutionSeconds := client.family (client.histogram secondsBuckets)
  contractFuelConsumed := client.family (client.histogram fuelBuckets)
  contractFuelExhaustedTotal := client.family client.counter
  contractMemoryPeakBytes := client.family (client.histogram memoryBuckets)

/-- Records an execution attempt with `result` and its `duration`. -/
def observeContractExecution (result : String) (duration : Nat) : ContractMetrics client :=
  let labels : ContractExecutionLabels := { result }
  let self :=
    { self with contractExecutions := client.update self.contractExecutions labels client.inc }
  { self with
    contractExecutionSeconds :=
      client.update self.contractExecutionSeconds labels (client.observe · duration) }

/-- Records the `fuel` consumed by an execution with `result`. -/
def observeContractFuelConsumed (result : String) (fuel : Nat) : ContractMetrics client :=
  let labels : ContractExecutionLabels := { result }
  { self with
    contractFuelConsumed := client.update self.contractFuelConsumed labels (client.observe · fuel) }

/-- Increments the count of executions that ran out of fuel. -/
def observeContractFuelExhausted : ContractMetrics client :=
  { self with
    contractFuelExhaustedTotal :=
      client.update self.contractFuelExhaustedTotal { result := "error" } client.inc }

/-- Records the peak linear memory `bytes` of an execution with `result`. -/
def observeContractMemoryPeak (result : String) (bytes : Nat) : ContractMetrics client :=
  let labels : ContractExecutionLabels := { result }
  { self with
    contractMemoryPeakBytes :=
      client.update self.contractMemoryPeakBytes labels (client.observe · bytes) }

end Observe

end ContractMetrics

/-- The limits derived from `spec`, or the default ones. -/
def limitsFor (spec : Option ResolvedMachineSpec) : WasmLimits :=
  spec.elim default fun s => WasmLimits.build s.ramMb s.cpuCores

/-- A configured contract runtime with its limits and optional metrics. -/
structure ContractRuntime (client : Client) where
  limits : WasmLimits
  metrics : Option (ContractMetrics client)

namespace ContractRuntime

variable {client : Client}

/-- A runtime for `spec`, without metrics. -/
def new (spec : Option ResolvedMachineSpec) : ContractRuntime client where
  limits := limitsFor spec
  metrics := none

/-- A runtime like `new` with the given metrics attached. -/
def withMetrics (spec : Option ResolvedMachineSpec) (metrics : Option (ContractMetrics client)) :
    ContractRuntime client :=
  { (new spec : ContractRuntime client) with metrics }

/-- What is recorded of a call that has ended, before its result is read. -/
def observeCall {σ : Type} (metrics : ContractMetrics client) (r : GuestRun σ) :
    ContractMetrics client :=
  let fuelConsumed := maxFuel - r.fuel
  let memoryBytes := if r.final.memoryExport then r.final.memory.length else 0
  let fuelExhausted : Bool :=
    match r.outcome with
    | .ok _ => false
    | .error e => decide (e.downcastTrap = some .outOfFuel)
  let resultLabel :=
    match r.outcome with
    | .ok _ => "success"
    | .error _ => "error"
  let metrics := metrics.observeContractFuelConsumed resultLabel fuelConsumed
  let metrics := metrics.observeContractMemoryPeak resultLabel memoryBytes
  if fuelExhausted then metrics.observeContractFuelExhausted else metrics

section Execute

variable {V σ : Type} (self : ContractRuntime client) (ext : Externals V) (module : WasmModule σ)
  (state initState event : V) (isOwner : Bool)

/-- `execute_inner` with its observations. -/
def executeInnerObserved :
    Except RuntimeError (ExecutionResult V × ExecutionStats) × ContractRuntime client :=
  match callMain ext self.limits module state initState event isOwner with
  | .error e => (.error e, self)
  | .ok (_, r) => (finishCall ext r, { self with metrics := self.metrics.map (observeCall · r) })

/-- The business outcome of an execution, not the host's. -/
def resultLabel (result : Except RuntimeError (ExecutionResult V × ExecutionStats)) : String :=
  match result with
  | .ok (execution, _) => if execution.success then "accepted" else "rejected"
  | .error _ => "error"

/-- `ContractRuntime::execute`; `elapsed` is what the clock says it took. -/
def execute (elapsed : Nat) :
    Except RuntimeError (ExecutionResult V × ExecutionStats) × ContractRuntime client :=
  let (result, self) := executeInnerObserved self ext module state initState event isOwner
  let metrics := self.metrics.map (·.observeContractExecution (resultLabel result) elapsed)
  (result, { self with metrics })

end Execute

end ContractRuntime

/-- A call of `execute` on one of the runtimes that share a set of metrics. -/
structure ExecuteCall (V : Type) : Type 1 where
  {σ : Type}
  spec : Option ResolvedMachineSpec
  module : WasmModule σ
  state : V
  initState : V
  event : V
  isOwner : Bool
  elapsed : Nat

/-- The metrics after one call after another. -/
def serve {client : Client} {V : Type} (ext : Externals V)
    (metrics : Option (ContractMetrics client)) :
    List (ExecuteCall V) → Option (ContractMetrics client)
  | [] => metrics
  | c :: rest =>
      serve ext
        ((ContractRuntime.withMetrics c.spec metrics).execute ext c.module c.state c.initState c.event
          c.isOwner c.elapsed).2.metrics rest

end Ave
