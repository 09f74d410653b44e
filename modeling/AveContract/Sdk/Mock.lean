/-
The host that the SDK's tests run on.

A unit test of a contract starts no machine.  It is compiled for the computer it
runs on, and there the four host functions are a map from pointers to byte strings,
with a counter that the pointers come from.  A pointer that is not in the map has no
bytes; two switches force an answer that no map would give.

There is no linear memory on that computer.  The guest's buffers are slices, and the
mock copies from and to a slice where the host would use an address.  So a world of
this host has the slices in its memory, and it never grows.
-/
import AveContract.Sdk.Hosts

namespace Ave

open Slice Metered

namespace Sdk

/-- The mock's thread-local state.  The counter is an `i32`. -/
structure MockHost where
  hostMemory : AList fun _ : Word => Bytes
  nextId : Nat
  forceAllocZero : Bool
  forcePointerLen : Option Word
  nextId_ge : 1000 ≤ nextId
  nextId_le : nextId ≤ i32Max

/-- A panic ends a test as a trap ends a guest. -/
def panicked : WasmError := .trap .unreachableCodeReached

namespace MockHost

/-- Clears the mock host memory and resets pointer allocation. -/
def reset : MockHost where
  hostMemory := ∅
  nextId := 1000
  forceAllocZero := false
  forcePointerLen := none
  nextId_ge := by decide
  nextId_le := by decide

def setForceAllocZero (self : MockHost) (value : Bool) : MockHost :=
  { self with forceAllocZero := value }

def setForcePointerLen (self : MockHost) (value : Word) : MockHost :=
  { self with forcePointerLen := some value }

/-- Puts `data` under the next pointer, which overflows after `i32::MAX`. -/
def insertNext (self : MockHost) (data : Bytes) : Except WasmError Word × MockHost :=
  if h : self.nextId < i32Max then
    let ptr := usizeAsU32 self.nextId
    (.ok ptr,
      { self with
        hostMemory := self.hostMemory.insert ptr data
        nextId := self.nextId + 1
        nextId_ge := Nat.le_succ_of_le self.nextId_ge
        nextId_le := h })
  else (.error panicked, self)

/-- Stores data in mock host memory and returns the simulated host pointer. -/
def storeData (self : MockHost) (data : Bytes) : Except WasmError Word × MockHost :=
  self.insertNext data

/-- Retrieves a copy of data stored at the given mock host pointer. -/
def getData (self : MockHost) (ptr : Word) : Option Bytes := self.hostMemory.lookup ptr

def pointerLen (self : MockHost) (pointer : Word) : Word :=
  match self.forcePointerLen with
  | some forced => forced
  | none =>
      match self.getData pointer with
      | none => 0
      | some data => usizeAsU32 data.length

def alloc (self : MockHost) (len : Word) : Except WasmError Word × MockHost :=
  if self.forceAllocZero then (.ok 0, self)
  else self.insertNext (List.replicate len.toNat 0)

/-- Overwrites the pre-sized `dst` with the content stored at `srcPtr`; panics where that is
longer. -/
def readBytesIntoVec (self : MockHost) (srcPtr : Word) (dst : Bytes) : Except WasmError Bytes :=
  let data := (self.getData srcPtr).getD []
  if data.length ≤ dst.length then .ok (patch dst 0 data) else .error panicked

/-- Stores `src` into mock host memory at `dstPtr`. -/
def writeBytesFromSlice (self : MockHost) (dstPtr : Word) (src : Bytes) : MockHost :=
  { self with hostMemory := self.hostMemory.insert dstPtr src }

end MockHost

/-- **The mock as a host.** -/
def mockHost : Host MockHost where
  pointerLen pointer _ m := (.ok (m.pointerLen pointer), m)
  alloc len _ m := m.alloc len
  readBytes srcPtr dstPtr len memory m :=
    match m.readBytesIntoVec srcPtr (slice memory dstPtr.toNat len.toNat) with
    | .error e => (.error e, m)
    | .ok dst => (.ok ((), patch memory dstPtr.toNat dst), m)
  writeBytes dstPtr srcPtr len memory m :=
    (.ok (), m.writeBytesFromSlice dstPtr (slice memory srcPtr.toNat len.toNat))
  memoryGrow _ memory m := (.ok (-1, memory), m)

/-- Serializes a value's JSON inside a `ContractData` and stores that in mock host memory. -/
def setupHostData (json : Bytes) (m : MockHost) : Except WasmError Word × MockHost :=
  match ContractData.codec.encode ⟨json⟩ with
  | .error _ => (.error panicked, m)
  | .ok borshBytes => m.storeData borshBytes

/-- Reads Borsh-serialized data from the mock host memory at `ptr`. -/
def readHostResult {R : Type} (codec : Borsh.Codec R) (ptr : Word) (m : MockHost) :
    Except WasmError R :=
  match m.getData ptr with
  | none => .error panicked
  | some bytes =>
      match codec.tryFromSlice bytes with
      | .error _ => .error panicked
      | .ok data => .ok data

section Tests

variable {State Event : Type} (build : Build) (contract : Contract State Event) (memory : Bytes)

/-- A unit test of `execute_contract`: the three inputs are set up on a fresh mock, and the result
is read back. -/
def unitTest (state initState event : Bytes) (isOwner : Word) :
    Except WasmError ContractResultData :=
  match setupHostData state .reset with
  | (.error e, _) => .error e
  | (.ok statePtr, m) =>
      match setupHostData initState m with
      | (.error e, _) => .error e
      | (.ok initStatePtr, m) =>
          match setupHostData event m with
          | (.error e, _) => .error e
          | (.ok eventPtr, m) =>
              match Prog.eval WasmError.trap mockHost.handle
                (executeContract build contract statePtr initStatePtr eventPtr isOwner)
                ⟨m, memory, []⟩ with
              | (.error e, _) => .error e
              | (.ok ptr, w) => readHostResult ContractResultData.codec ptr w.host

/-- A unit test of `check_init_data`. -/
def unitCheck (state : Bytes) : Except WasmError ContractInitCheckData :=
  match setupHostData state .reset with
  | (.error e, _) => .error e
  | (.ok statePtr, m) =>
      match Prog.eval WasmError.trap mockHost.handle (checkInitData build contract statePtr)
        ⟨m, memory, []⟩ with
      | (.error e, _) => .error e
      | (.ok ptr, w) => readHostResult ContractInitCheckData.codec ptr w.host

end Tests

end Sdk

end Ave
