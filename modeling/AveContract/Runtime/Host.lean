/-
The host's memory manager and the four functions a guest imports from `env`.

A Rust method on `&mut self` leaves whatever it did to `self` behind, also when it
returns an error.  So every such method returns the manager next to its result,
in both cases, and that a failed call changed nothing is a theorem
(`Proofs/HostCalls.lean`) and not a consequence of how the model is written.

The host functions see the guest through a `Caller`: the manager that is the
store's data, and the guest's linear memory, which they can reach only when the
module exports it under the name `memory`.
-/
import AveContract.Lib.Extents
import AveContract.Lib.Slice
import AveContract.Runtime.Config
import AveContract.Runtime.Error

namespace Ave

open Slice

/-- The resource limits wasmtime enforces on a store. -/
structure StoreLimits where
  memorySize : Nat
  tableElements : Nat
  instances : Nat
  tables : Nat
  memories : Nat
  trapOnGrowFailure : Bool
  deriving DecidableEq, Repr

/-- Backing store of the guest's allocations. -/
structure MemoryManager where
  memory : Bytes
  map : Extents.Table
  storeLimits : StoreLimits
  maxSingleAlloc : Nat
  maxTotalMemory : Nat

namespace MemoryManager

/-- An empty manager whose caps come from `limits`. -/
def fromLimits (limits : WasmLimits) : MemoryManager where
  memory := []
  map := ∅
  storeLimits :=
    { memorySize := limits.memorySize
      tableElements := limits.maxTableElements
      instances := 1
      tables := 1
      memories := 1
      trapOnGrowFailure := true }
  maxSingleAlloc := limits.maxSingleAlloc
  maxTotalMemory := limits.maxTotalMemory

/-- Allocates `len` zeroed bytes at the end of the memory. -/
def alloc (self : MemoryManager) (len : Nat) : Except ContractError Nat × MemoryManager :=
  if len > self.maxSingleAlloc then
    (.error (.allocationTooLarge len self.maxSingleAlloc), self)
  else
    let currentLen := self.memory.length
    match checkedAdd currentLen len with
    | none => (.error .allocationOverflow, self)
    | some newLen =>
        if newLen > self.maxTotalMemory then
          (.error (.totalMemoryExceeded newLen self.maxTotalMemory), self)
        else
          let memory := self.memory ++ List.replicate (newLen - currentLen) 0
          -- Zero-length allocations are not tracked: they address no bytes.
          let map := if len > 0 then self.map.insert currentLen len else self.map
          (.ok currentLen, { self with memory, map })

/-- The bytes allocated at `ptr`. -/
def readData (self : MemoryManager) (ptr : Nat) : Except ContractError Bytes :=
  match self.map.lookup ptr with
  | none => .error (.invalidPointer ptr)
  | some len =>
      match checkedAdd ptr len with
      | none => .error (.invalidPointer ptr)
      | some stop =>
          if stop > self.memory.length then .error (.invalidPointer ptr)
          else .ok (slice self.memory ptr (stop - ptr))

/-- `len` bytes from `ptr`, if the range is in bounds. -/
def readBytes (self : MemoryManager) (ptr len : Nat) : Except ContractError Bytes :=
  match checkedAdd ptr len with
  | none => .error (.invalidPointer ptr)
  | some stop =>
      if stop > self.memory.length then .error (.invalidPointer ptr)
      else .ok (slice self.memory ptr (stop - ptr))

/-- Copies `data` to the start of the allocation at `ptr`. -/
def writeBytes (self : MemoryManager) (ptr : Nat) (data : Bytes) :
    Except ContractError Unit × MemoryManager :=
  match self.map.lookup ptr with
  | none => (.error (.invalidPointer ptr), self)
  | some len =>
      if data.length > len then (.error (.writeOutOfBounds data.length len), self)
      else
        match checkedAdd ptr data.length with
        | none => (.error (.invalidPointer ptr), self)
        | some stop =>
            if stop > self.memory.length then (.error (.invalidPointer ptr), self)
            else (.ok (), { self with memory := patch self.memory ptr data })

/-- Copies `data` at `offset` bytes into the allocation at `ptr`. -/
def writeBytesAt (self : MemoryManager) (ptr offset : Nat) (data : Bytes) :
    Except ContractError Unit × MemoryManager :=
  match self.map.lookup ptr with
  | none => (.error (.invalidPointer ptr), self)
  | some len =>
      match checkedAdd ptr offset with
      | none => (.error (.invalidPointer ptr), self)
      | some start =>
          match checkedAdd start data.length with
          | none => (.error (.invalidPointer ptr), self)
          | some stop =>
              if stop > saturatingAdd ptr len ∨ stop > self.memory.length then
                (.error (.writeOutOfBounds (saturatingAdd offset data.length) len), self)
              else (.ok (), { self with memory := patch self.memory start data })

/-- Allocates space for `bytes` and copies them in. -/
def addDataRaw (self : MemoryManager) (bytes : Bytes) :
    Except ContractError Nat × MemoryManager :=
  match self.alloc bytes.length with
  | (.error e, self) => (.error e, self)
  | (.ok ptr, self) => (.ok ptr, { self with memory := patch self.memory ptr bytes })

/-- The length of the allocation at `ptr`, or `-1`. -/
def getPointerLen (self : MemoryManager) (ptr : Nat) : Int :=
  match self.map.lookup ptr with
  | none => -1
  | some len => usizeAsIsize len

end MemoryManager

/-- Validates a length given by the guest before anything is allocated. -/
def checkedGuestLen (len : Word) (maxSingleAlloc : Nat) : Except ContractError Nat :=
  if len.toInt < 0 then .error (.invalidLength len.toInt)
  else
    let len := i32AsUsize len
    if len > maxSingleAlloc then .error (.allocationTooLarge len maxSingleAlloc)
    else .ok len

/-- What a host function sees of the store that called it. -/
structure Caller where
  data : MemoryManager
  memory : Bytes
  memoryExport : Bool

namespace Caller

/-- `get_export("memory").and_then(|e| e.into_memory())`, or the linker error of `function`. -/
def exportedMemory (self : Caller) (function : String) : Except WasmError Bytes :=
  if self.memoryExport then .ok self.memory
  else .error (.host (.linkerError function "memory export not found"))

end Caller

/-- wasmtime's `Memory::read`: all of the range or nothing. -/
def memoryRead (memory : Bytes) (offset len : Nat) : Except WasmError Bytes :=
  if offset + len ≤ memory.length then .ok (slice memory offset len) else .error .memoryAccess

/-- wasmtime's `Memory::write`: all of the bytes or none. -/
def memoryWrite (memory : Bytes) (offset : Nat) (bytes : Bytes) : Except WasmError Bytes :=
  if offset + bytes.length ≤ memory.length then .ok (patch memory offset bytes)
  else .error .memoryAccess

namespace Env

/-- The import `pointer_len`. -/
def pointerLen (caller : Caller) (pointer : Word) : Word :=
  isizeAsU32 (caller.data.getPointerLen (i32AsUsize pointer))

/-- The import `alloc`. -/
def alloc (caller : Caller) (len : Word) : Except WasmError Word × Caller :=
  match caller.data.alloc (u32AsUsize len) with
  | (.error e, data) => (.error (.host e), { caller with data })
  | (.ok ptr, data) => (.ok (usizeAsU32 ptr), { caller with data })

/-- The copy of host bytes that `read_bytes` makes before it looks at the guest. -/
def readBytesTemp (caller : Caller) (srcPtr len : Word) : Except WasmError Bytes :=
  match checkedGuestLen len caller.data.maxSingleAlloc with
  | .error e => .error (.host e)
  | .ok len =>
      match caller.data.readBytes (i32AsUsize srcPtr) len with
      | .error e => .error (.host e)
      | .ok bytes => .ok bytes

/-- The import `read_bytes`: host memory into the guest's. -/
def readBytes (caller : Caller) (srcPtr dstPtr len : Word) : Except WasmError Unit × Caller :=
  match readBytesTemp caller srcPtr len with
  | .error e => (.error e, caller)
  | .ok bytes =>
      match caller.exportedMemory "read_bytes" with
      | .error e => (.error e, caller)
      | .ok memory =>
          match memoryWrite memory (i32AsUsize dstPtr) bytes with
          | .error e => (.error e, caller)
          | .ok memory => (.ok (), { caller with memory })

/-- The zeroed buffer that `write_bytes` makes before it reads the guest's bytes into it. -/
def writeBytesTemp (caller : Caller) (len : Word) : Except WasmError Bytes :=
  match checkedGuestLen len caller.data.maxSingleAlloc with
  | .error e => .error (.host e)
  | .ok len =>
      match caller.exportedMemory "write_bytes" with
      | .error e => .error e
      | .ok _ => .ok (List.replicate len 0)

/-- The import `write_bytes`: guest memory into the host's. -/
def writeBytes (caller : Caller) (dstPtr srcPtr len : Word) : Except WasmError Unit × Caller :=
  match writeBytesTemp caller len with
  | .error e => (.error e, caller)
  | .ok buf =>
      match memoryRead caller.memory (i32AsUsize srcPtr) buf.length with
      | .error e => (.error e, caller)
      | .ok buf =>
          match caller.data.writeBytes (i32AsUsize dstPtr) buf with
          | (.error e, data) => (.error (.host e), { caller with data })
          | (.ok (), data) => (.ok (), { caller with data })

end Env

end Ave
