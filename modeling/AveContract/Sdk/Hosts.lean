/-
A contract under any host at all.

The guest's own memory is honest, since no host function has a say in it but
`read_bytes`.  All else may lie.  A `Host` answers the four functions as it likes:
with any length, any pointer, any bytes written anywhere, or not at all, and it may
look at the guest's memory to make up its mind.  What went over the boundary is kept
in the world as a list of calls, and that list is what a verdict is judged by.

An entry point is written here a second time, in two halves.  The first prepares
what is to be stored, the second delivers it and keeps what it tried on the way.
That this is the entry point is `executeContract_eq` and `checkInitData_eq`
(`Proofs/Verdicts.lean`).
-/
import AveContract.Sdk.Guest

namespace Ave

open Slice Borsh Metered

namespace Sdk

/-! ### Hosts -/

/-- A host of any behaviour.  Every function sees the guest's memory; only `readBytes` and
`memoryGrow` leave another behind. -/
structure Host (H : Type) where
  pointerLen (pointer : Word) (memory : Bytes) : H → Except WasmError Word × H
  alloc (len : Word) (memory : Bytes) : H → Except WasmError Word × H
  readBytes (srcPtr dstPtr len : Word) (memory : Bytes) : H → Except WasmError (Unit × Bytes) × H
  writeBytes (dstPtr srcPtr len : Word) (memory : Bytes) : H → Except WasmError Unit × H
  memoryGrow (delta : Nat) (memory : Bytes) : H → Except WasmError (Int × Bytes) × H

/-- What went over the boundary, with the bytes in the guest's buffer at that moment. -/
inductive HostCall where
  | read (srcPtr : Word) (bytes : Bytes)
  | allocated (len ptr : Word)
  | written (dstPtr : Word) (bytes : Bytes)
  deriving DecidableEq, Repr

/-- The host, the guest's memory, and what passed between them, oldest first. -/
structure World (H : Type) where
  host : H
  memory : Bytes
  calls : List HostCall

/-- What becomes of a request in such a world. -/
def Host.handle {H : Type} (host : Host H) : Handler Instr Instr.Answer (World H) WasmError
  | .compute, w => (.ok (), w)
  | .load addr len, w =>
      if addr + len ≤ w.memory.length then (.ok (slice w.memory addr len), w)
      else (.error (.trap .memoryOutOfBounds), w)
  | .store addr bytes, w =>
      if addr + bytes.length ≤ w.memory.length then
        (.ok (), { w with memory := patch w.memory addr bytes })
      else (.error (.trap .memoryOutOfBounds), w)
  | .memoryGrow delta, w =>
      match host.memoryGrow delta w.memory w.host with
      | (.error e, host) => (.error e, { w with host })
      | (.ok (pages, memory), host) => (.ok pages, { w with host, memory })
  | .pointerLen pointer, w =>
      match host.pointerLen pointer w.memory w.host with
      | (.error e, host) => (.error e, { w with host })
      | (.ok len, host) => (.ok len, { w with host })
  | .alloc len, w =>
      match host.alloc len w.memory w.host with
      | (.error e, host) => (.error e, { w with host })
      | (.ok ptr, host) =>
          (.ok ptr, { w with host, calls := w.calls ++ [.allocated len ptr] })
  | .readBytes srcPtr dstPtr len, w =>
      match host.readBytes srcPtr dstPtr len w.memory w.host with
      | (.error e, host) => (.error e, { w with host })
      | (.ok ((), memory), host) =>
          let bytes := slice memory dstPtr.toNat len.toNat
          (.ok (), { host, memory, calls := w.calls ++ [.read srcPtr bytes] })
  | .writeBytes dstPtr srcPtr len, w =>
      match host.writeBytes dstPtr srcPtr len w.memory w.host with
      | (.error e, host) => (.error e, { w with host })
      | (.ok (), host) =>
          let bytes := slice w.memory srcPtr.toNat len.toNat
          (.ok (), { w with host, calls := w.calls ++ [.written dstPtr bytes] })

/-- An answer of the store's, and with it the guest's memory that the store holds then. -/
def withMemory {α : Type} : Except WasmError α × Store → Except WasmError (α × Bytes) × Store
  | (.error e, s) => (.error e, s)
  | (.ok a, s) => (.ok (a, s.memory), s)

/-- The store as one of these hosts.  It keeps the guest's memory itself, so what it holds of it
is overwritten by what there is. -/
def storeHost : Host Store where
  pointerLen pointer memory s := exec (.pointerLen pointer) { s with memory }
  alloc len memory s := exec (.alloc len) { s with memory }
  readBytes srcPtr dstPtr len memory s :=
    withMemory (exec (.readBytes srcPtr dstPtr len) { s with memory })
  writeBytes dstPtr srcPtr len memory s := exec (.writeBytes dstPtr srcPtr len) { s with memory }
  memoryGrow delta memory s := withMemory (exec (.memoryGrow delta) { s with memory })

/-- The store such a world stands for. -/
def World.store (w : World Store) : Store := { w.host with memory := w.memory }

/-! ### What an entry point tries to store -/

/-- The kind of result an entry point returns. -/
structure Outcome (R : Type) where
  codec : Codec R
  success : R → Bool
  error : R → String
  failed : String → R
  failed_success : ∀ e, success (failed e) = false
  failed_error : ∀ e, error (failed e) = e

/-- The kind of `executeContract`. -/
def executionOutcome : Outcome ContractResultData where
  codec := ContractResultData.codec
  success := ContractResultData.success
  error := ContractResultData.error
  failed := .failed
  failed_success _ := rfl
  failed_error _ := rfl

/-- The kind of `checkInitData`. -/
def checkOutcome : Outcome ContractInitCheckData where
  codec := ContractInitCheckData.codec
  success := ContractInitCheckData.success
  error := ContractInitCheckData.error
  failed := .failed
  failed_success _ := rfl
  failed_error _ := rfl

/-- A result that was tried to be stored, and what came of it. -/
structure Attempt (R : Type) where
  result : R
  stored : Except Error Word

namespace Attempt

variable {R : Type}

def Failed (t : Attempt R) : Prop := ∀ ptr, t.stored ≠ .ok ptr

/-- What an attempt leaves with the host. -/
inductive Leaves (codec : Codec R) : Attempt R → List HostCall → Prop where
  /-- The result has no encoding, or one that is too long for the host to be asked. -/
  | unencoded {r : R} {e : Error}
      (h : ∀ bytes, codec.encode r = .ok bytes → i32Max < bytes.length) : Leaves codec ⟨r, .error e⟩ []
  /-- The host answered with a null pointer. -/
  | refused {r : R} {e : Error} {bytes : Bytes} (h : codec.encode r = .ok bytes) :
      Leaves codec ⟨r, .error e⟩ [.allocated (usizeAsU32 bytes.length) 0]
  /-- The host took it. -/
  | stored {r : R} {ptr : Word} {bytes : Bytes} (hptr : ptr ≠ 0)
      (h : codec.encode r = .ok bytes) :
      Leaves codec ⟨r, .ok ptr⟩
        [.allocated (usizeAsU32 bytes.length) ptr, .written ptr bytes]

/-- What is returned for some attempts: where the one that succeeded is, or a null pointer. -/
def pointer : List (Attempt R) → Word
  | [] => 0
  | t :: rest =>
      match t.stored with
      | .ok ptr => ptr
      | .error _ => pointer rest

end Attempt

section EntryPoints

variable {R State Event : Type} (build : Build) (contract : Contract State Event)

/-- Tries to store a result. -/
def attempt (site : Site) (kind : Outcome R) (result : R) : Guest (Attempt R) := do
  let stored ← store build site kind.codec result
  pure ⟨result, stored⟩

/-- Delivers what was prepared, or the failure to prepare it.  A result that cannot be stored is
followed by a failure that says so. -/
def deliver (kind : Outcome R) (unreturned : String) : Except String R → Guest (List (Attempt R))
  | .error e => do
      let only ← attempt build .failure kind (kind.failed e)
      pure [only]
  | .ok result => do
      let first ← attempt build .result kind result
      match first.stored with
      | .ok _ => pure [first]
      | .error _ =>
          let second ← attempt build .failure kind (kind.failed unreturned)
          pure [first, second]

/-- `executeContract` up to its first store. -/
def prepareExecution (statePtr initStatePtr eventPtr isOwner : Word) :
    Guest (Except String ContractResultData) := do
  match ← readState build contract statePtr initStatePtr with
  | .error e => pure (.error e)
  | .ok state =>
      match ← readAndParse build .event contract.event.fromSlice eventPtr "Event" with
      | .error e => pure (.error e)
      | .ok event =>
          let _ ← doWork (build.work .callback)
          let context := { event, isOwner := isOwner == ownerFlag }
          pure (contractResultData contract (contract.callback context (.new state)))

/-- `checkInitData` up to its first store. -/
def prepareCheck (statePtr : Word) : Guest (Except String ContractInitCheckData) := do
  match ← readAndParse build .state contract.state.fromSlice statePtr "State" with
  | .error e => pure (.error e)
  | .ok state =>
      let _ ← doWork (build.work .callback)
      let check := contract.check state .default
      if check.success then pure (.ok .ok)
      else pure (.error s!"{errInitRejected}: {check.error}")

/-- What `executeContract` tries to store. -/
def executeAttempts (statePtr initStatePtr eventPtr isOwner : Word) :
    Guest (List (Attempt ContractResultData)) := do
  let prepared ← prepareExecution build contract statePtr initStatePtr eventPtr isOwner
  deliver build executionOutcome errReturnResult prepared

/-- What `checkInitData` tries to store. -/
def checkAttempts (statePtr : Word) : Guest (List (Attempt ContractInitCheckData)) := do
  let prepared ← prepareCheck build contract statePtr
  deliver build checkOutcome errReturnInitResult prepared

end EntryPoints

end Sdk

end Ave
