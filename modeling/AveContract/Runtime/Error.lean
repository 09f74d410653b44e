/-
The errors of the host side and the texts they are shown with.

A `ContractError` is what the memory manager and the linker answer; a
`RuntimeError` is what a caller of the runtime sees.  The texts matter where one
is turned into the other: the runtime keeps only the message of a memory error.
-/
import AveContract.Runtime.Word

namespace Ave

/-- Errors of the host memory manager and the linker. -/
inductive ContractError where
  | memoryAllocationFailed (details : String)
  | invalidPointer (pointer : Nat)
  | writeOutOfBounds (offset size : Nat)
  | invalidLength (len : Int)
  | allocationTooLarge (size max : Nat)
  | totalMemoryExceeded (total max : Nat)
  | allocationOverflow
  | linkerError (function details : String)
  deriving DecidableEq, Repr

/-- `to_string()` of a memory error. -/
def ContractError.display : ContractError → String
  | .memoryAllocationFailed details => s!"memory allocation failed: {details}"
  | .invalidPointer pointer => s!"invalid pointer: {pointer}"
  | .writeOutOfBounds offset size =>
      s!"write out of bounds: offset {offset} >= allocation size {size}"
  | .invalidLength len => s!"invalid length: {len}"
  | .allocationTooLarge size max => s!"allocation size {size} exceeds maximum of {max} bytes"
  | .totalMemoryExceeded total max => s!"total memory {total} exceeds maximum of {max} bytes"
  | .allocationOverflow => "memory allocation would overflow"
  | .linkerError function details => s!"linker error [{function}]: {details}"

/-- Why a module was refused. -/
inductive InvalidModuleKind where
  | unknownImportFunction (name : String)
  | nonFunctionImport (importType : String)
  | missingImports (missing : List String)
  | unexpectedImportModule (module name : String)
  | invalidImportSignature (name expected : String)
  | excessiveMemory (minBytes maxBytes : Nat)
  deriving DecidableEq, Repr

/-- Errors of the contract runtime. -/
inductive RuntimeError where
  | engineCreation (details : String)
  | precompileFailed (details : String)
  | deserializationFailed (details : String)
  | invalidModule (kind : InvalidModuleKind)
  | entryPointNotFound (function : String)
  | contractExecutionFailed (details : String)
  | outOfFuel (consumed : Nat)
  | fuelLimitError (details : String)
  | instantiationFailed (details : String)
  | memoryAllocationFailed (details : String)
  | serializationError (context details : String)
  deriving DecidableEq, Repr

/-- The reasons wasmtime gives for stopping a guest that matter here. -/
inductive Trap where
  | outOfFuel
  | memoryOutOfBounds
  | unreachableCodeReached
  | stackOverflow
  | other (code : String)
  deriving DecidableEq, Repr

/-- What a wasmtime call fails with: a trap, or the error of a host function. -/
inductive WasmError where
  | trap (t : Trap)
  | host (e : ContractError)
  | memoryAccess
  | growRefused (desired : Nat)
  | resourceLimit (details : String)
  | unknownImport (module name : String)
  deriving DecidableEq, Repr

/-- `downcast_ref::<Trap>()`: the trap, when the error is one. -/
def WasmError.downcastTrap : WasmError → Option Trap
  | .trap t => some t
  | _ => none

end Ave
