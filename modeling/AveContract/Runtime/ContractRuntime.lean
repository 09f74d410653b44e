/-
Compiling, validating and executing a contract.

Each function is the source's, with `?` written out as a match.  Where the source
runs a guest the model splits in two, so that the run itself can be spoken of:
`callMain` is `execute_inner` up to the guest's return, and `executeInner` turns
what came back into a result.  `validateInner` is split the same way.

Metrics and timing are in `Runtime/Metrics.lean`, around these functions.  The copy
that `compile` hands to its caller to persist is left out: no result depends on it.
-/
import AveContract.Runtime.Data
import AveContract.Runtime.Guest

namespace Ave

open Borsh Metered

/-- Outcome of a contract event. -/
structure ExecutionResult (V : Type) where
  finalState : V
  success : Bool
  error : String
  deriving DecidableEq, Repr

structure ExecutionStats where
  fuelConsumed : Nat
  memoryBytes : Nat
  fuelExhausted : Bool
  deriving DecidableEq, Repr

/-! ### Compiling -/

/-- The engine's own compiler: to native code, and from native code to a module. -/
structure Engine (M : Type) where
  precompileModule : Bytes → Except String Bytes
  deserialize : Bytes → Except String M

/-- `ContractRuntime::compile`. -/
def compile {M : Type} (engine : Engine M) (wasmBytes : Bytes) : Except RuntimeError M :=
  let gate : Option RuntimeError :=
    match declaredMinMemoryBytes wasmBytes with
    | some minBytes =>
        if minBytes > minFleetMemoryBytes then
          some (.invalidModule (.excessiveMemory minBytes minFleetMemoryBytes))
        else none
    | none => none
  match gate with
  | some e => .error e
  | none =>
      match engine.precompileModule wasmBytes with
      | .error e => .error (.precompileFailed e)
      | .ok precompiled =>
          match engine.deserialize precompiled with
          | .error e => .error (.deserializationFailed e)
          | .ok module => .ok module

/-! ### Staging -/

def valueToContractData {V : Type} (ext : Externals V) (value : V) :
    Except RuntimeError ContractData :=
  match ext.json.toVec value with
  | .error e => .error (.serializationError "value to contract data" e)
  | .ok bytes => .ok ⟨bytes⟩

/-- Writes `data` in its Borsh layout, a length and then the bytes, without a combined buffer. -/
def writeContractData (context : MemoryManager) (data : ContractData) :
    Except RuntimeError Word × MemoryManager :=
  let payload := data.bytes
  if payload.length ≤ u32Max then
    match context.alloc (4 + payload.length) with
    | (.error e, context) => (.error (.memoryAllocationFailed e.display), context)
    | (.ok ptr, context) =>
        match context.writeBytesAt ptr 0 (le32 payload.length) with
        | (.error e, context) => (.error (.memoryAllocationFailed e.display), context)
        | (.ok (), context) =>
            match context.writeBytesAt ptr 4 payload with
            | (.error e, context) => (.error (.memoryAllocationFailed e.display), context)
            | (.ok (), context) => (.ok (usizeAsU32 ptr), context)
  else
    (.error (.serializationError "contract data borsh"
      s!"{payload.length} bytes do not fit the borsh u32 length"), context)

/-- Serializes a value and stages it. -/
def stageValue {V : Type} (ext : Externals V) (context : MemoryManager) (value : V) :
    Except RuntimeError (Word × MemoryManager) :=
  match valueToContractData ext value with
  | .error e => .error e
  | .ok data =>
      match writeContractData context data with
      | (.error e, _) => .error e
      | (.ok ptr, context) => .ok (ptr, context)

/-- `generate_context`: one staged value, for validation. -/
def generateContext {V : Type} (ext : Externals V) (state : V) (limits : WasmLimits) :
    Except RuntimeError (MemoryManager × Word) :=
  match stageValue ext (MemoryManager.fromLimits limits) state with
  | .error e => .error e
  | .ok (ptr, context) => .ok (context, ptr)

/-- A manager with the three inputs staged, and their pointers. -/
structure ExecutionContext where
  context : MemoryManager
  statePtr : Word
  initStatePtr : Word
  eventPtr : Word

/-- `generate_execution_context`: the three inputs, for an execution. -/
def generateExecutionContext {V : Type} (ext : Externals V) (state initState event : V)
    (limits : WasmLimits) : Except RuntimeError ExecutionContext :=
  match stageValue ext (MemoryManager.fromLimits limits) state with
  | .error e => .error e
  | .ok (statePtr, context) =>
      match stageValue ext context initState with
      | .error e => .error e
      | .ok (initStatePtr, context) =>
          match stageValue ext context event with
          | .error e => .error e
          | .ok (eventPtr, context) => .ok { context, statePtr, initStatePtr, eventPtr }

/-! ### Results -/

/-- Reads the verdict of `init_check_function` off the store. -/
def checkInitResult {V : Type} (ext : Externals V) (store : Store) (resultPtr : Word) :
    Except RuntimeError Unit :=
  match store.data.readData (u32AsUsize resultPtr) with
  | .error e => .error (.memoryAllocationFailed e.display)
  | .ok memory =>
      match ContractInitCheckData.codec.tryFromSlice memory with
      | .error e => .error (.serializationError "init check result" (ext.borshText e))
      | .ok check =>
          if check.success then .ok () else .error (.contractExecutionFailed check.error)

/-- Reads the result of `main_function` off the store. -/
def getExecutionResult {V : Type} (ext : Externals V) (store : Store) (resultPtr : Word) :
    Except RuntimeError (ExecutionResult V) :=
  match store.data.readData (u32AsUsize resultPtr) with
  | .error e => .error (.memoryAllocationFailed e.display)
  | .ok memory =>
      match ContractResultData.codec.tryFromSlice memory with
      | .error e => .error (.serializationError "execution result" (ext.borshText e))
      | .ok result =>
          match ext.json.fromSlice result.finalState.bytes with
          | .error e => .error (.serializationError "final state json" e)
          | .ok finalState =>
              .ok { finalState, success := result.success, error := result.error }

/-! ### Executing -/

/-- `ContractRuntime::execute_inner` up to the return of `main_function`. -/
def callMain {V σ : Type} (ext : Externals V) (limits : WasmLimits) (module : WasmModule σ)
    (state initState event : V) (isOwner : Bool) :
    Except RuntimeError (Instance σ × GuestRun σ) :=
  match generateExecutionContext ext state initState event limits with
  | .error e => .error e
  | .ok staged =>
      match module.instantiate staged.context maxFuel with
      | .error e => .error (.instantiationFailed (ext.wasmText e))
      | .ok inst =>
          match module.mainFunction with
          | none => .error (.entryPointNotFound "main_function")
          | some entry =>
              .ok (inst, module.call inst.fuel
                (entry inst.globals staged.statePtr staged.initStatePtr staged.eventPtr
                  (if isOwner then 1 else 0)) inst.store)

/-- What `execute_inner` makes of a finished call. -/
def finishCall {V σ : Type} (ext : Externals V) (r : GuestRun σ) :
    Except RuntimeError (ExecutionResult V × ExecutionStats) :=
  let fuelConsumed := maxFuel - r.fuel
  let memoryBytes := if r.final.memoryExport then r.final.memory.length else 0
  match r.outcome with
  | .ok (resultPtr, _) =>
      match getExecutionResult ext r.final resultPtr with
      | .error e => .error e
      | .ok result => .ok (result, { fuelConsumed, memoryBytes, fuelExhausted := false })
  | .error e =>
      let fuelExhausted := e.downcastTrap = some .outOfFuel
      if fuelExhausted then .error (.outOfFuel fuelConsumed)
      else .error (.contractExecutionFailed (ext.wasmText e))

/-- `ContractRuntime::execute_inner`. -/
def executeInner {V σ : Type} (ext : Externals V) (limits : WasmLimits) (module : WasmModule σ)
    (state initState event : V) (isOwner : Bool) :
    Except RuntimeError (ExecutionResult V × ExecutionStats) :=
  match callMain ext limits module state initState event isOwner with
  | .error e => .error e
  | .ok (_, r) => finishCall ext r

/-! ### Validating -/

/-- The imports a contract must have. -/
def sdkFunctions : List String := ["pointer_len", "alloc", "read_bytes", "write_bytes"]

/-- The type each of them must have, and how it is spelled in an error. -/
def expectedSdkSignature : String → Option (List ValType × List ValType × String)
  | "pointer_len" => some ([.i32], [.i32], "(param i32) (result i32)")
  | "alloc" => some ([.i32], [.i32], "(param i32) (result i32)")
  | "read_bytes" => some ([.i32, .i32, .i32], [], "(param i32 i32 i32)")
  | "write_bytes" => some ([.i32, .i32, .i32], [], "(param i32 i32 i32)")
  | _ => none

def valtypeEq : ValType → ValType → Bool
  | .i32, .i32 => true
  | .i64, .i64 => true
  | .f32, .f32 => true
  | .f64, .f64 => true
  | .v128, .v128 => true
  | .ref _, .ref _ => true
  | _, _ => false

def valtypesEq (a b : List ValType) : Bool :=
  a.length == b.length && (a.zip b).all fun p => valtypeEq p.1 p.2

def signatureMatches (actual : FuncType) (expected : List ValType × List ValType × String) : Bool :=
  valtypesEq actual.params expected.1 && valtypesEq actual.results expected.2.1

/-- The import loop of `validate_inner`, over the functions not seen yet. -/
def checkImports : List Import → List String → Except InvalidModuleKind (List String)
  | [], pending => .ok pending
  | i :: rest, pending =>
      if i.module ≠ "env" then .error (.unexpectedImportModule i.module i.name)
      else
        match i.type with
        | .other debug => .error (.nonFunctionImport debug)
        | .func type =>
            let mismatch :=
              match expectedSdkSignature i.name with
              | some expected => if signatureMatches type expected then none else some expected.2.2
              | none => none
            match mismatch with
            | some expected => .error (.invalidImportSignature i.name expected)
            | none =>
                if i.name ∈ pending then checkImports rest (pending.erase i.name)
                else .error (.unknownImportFunction i.name)

/-- The import phase of `validate_inner`. -/
def validateImports (imports : List Import) : Except RuntimeError Unit :=
  match checkImports imports sdkFunctions with
  | .error kind => .error (.invalidModule kind)
  | .ok [] => .ok ()
  | .ok missing => .error (.invalidModule (.missingImports missing))

/-- `ContractRuntime::validate_inner` up to the return of `init_check_function`. -/
def callInitCheck {V σ : Type} (ext : Externals V) (limits : WasmLimits) (module : WasmModule σ)
    (initialState : V) : Except RuntimeError (Instance σ × GuestRun σ) :=
  match validateImports module.imports with
  | .error e => .error e
  | .ok () =>
      match generateContext ext initialState limits with
      | .error e => .error e
      | .ok (context, statePtr) =>
          match module.instantiate context maxFuelCompilation with
          | .error e => .error (.instantiationFailed (ext.wasmText e))
          | .ok inst =>
              match module.mainFunction with
              | none => .error (.entryPointNotFound "main_function")
              | some _ =>
                  match module.initCheckFunction with
                  | none => .error (.entryPointNotFound "init_check_function")
                  | some entry =>
                      .ok (inst, module.call inst.fuel (entry inst.globals statePtr) inst.store)

/-- `ContractRuntime::validate_inner`. -/
def validateInner {V σ : Type} (ext : Externals V) (limits : WasmLimits) (module : WasmModule σ)
    (initialState : V) : Except RuntimeError Unit :=
  match callInitCheck ext limits module initialState with
  | .error e => .error e
  | .ok (_, r) =>
      match r.outcome with
      | .error e => .error (.contractExecutionFailed (ext.wasmText e))
      | .ok (resultPtr, _) => checkInitResult ext r.final resultPtr

end Ave
