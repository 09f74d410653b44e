/-
The SDK's entry points, as they run inside the guest.

A guest program is the tree of its requests to the store.  Between two requests
that the source spells out, compiled code does things the source does not: it
computes, it uses its own memory, it grows it.  `Build` stands for those, and for
where the guest's allocator puts a buffer.  Nothing is assumed of either.  What
the work at a place is may well depend on the data; for the data of one execution
it is one list, and that is the list meant here.

A buffer is only as safe as the code around it, so each is used at once: the
bytes are stored, the host call is made, and what the host wrote is loaded.
-/
import AveContract.Runtime.Guest
import AveContract.Sdk.Types

namespace Ave

open Borsh Metered

namespace Sdk

/-- A piece of guest code that gives an `α`. -/
abbrev Guest (α : Type) := Prog Instr Instr.Answer Trap α

/-- The places of the SDK's code where the guest works on its own. -/
inductive Site where
  | state
  | initState
  | event
  | callback
  | result
  | failure
  deriving DecidableEq, Repr

/-- One thing the guest does on its own. -/
inductive Local where
  | compute
  | load (addr len : Nat)
  | store (addr : Nat) (bytes : Bytes)
  | memoryGrow (delta : Nat)

def Local.instr : Local → Instr
  | compute => .compute
  | load addr len => .load addr len
  | store addr bytes => .store addr bytes
  | memoryGrow delta => .memoryGrow delta

/-- What the compiler and the guest's allocator add to the source. -/
structure Build where
  /-- The text of a Borsh error. -/
  borshText : Borsh.Error → String
  /-- What is done at a place besides the requests the source spells out. -/
  work : Site → List Local
  /-- Where the buffer used there lies. -/
  buffer : Site → Word

/-- Does the work of a place. -/
def doWork : List Local → Guest Unit
  | [] => pure ()
  | w :: rest => .ask w.instr fun _ => doWork rest

/-! ### Reading -/

/-- Validates a length returned by the host before allocating a buffer. -/
def validateHostLen (len : Word) : Except Error Nat :=
  if len.toInt > maxDataSize then
    .error (.memoryLimitExceeded len.toNat maxDataSize.toNat)
  else if len.toInt < 0 then .error (.deserialization "Invalid negative length from host")
  else .ok len.toNat

/-- Reads data from host memory at the given pointer, into a zeroed buffer. -/
def getFromContext (build : Build) (site : Site) (pointer : Word) :
    Guest (Except Error Bytes) := do
  let hostLen ← Prog.request (.pointerLen pointer)
  match validateHostLen hostLen with
  | .error e => pure (.error e)
  | .ok len =>
      let _ ← doWork (build.work site)
      let _ ← Prog.request (.store (build.buffer site).toNat (List.replicate len 0))
      let _ ← Prog.request (.readBytes pointer (build.buffer site) (usizeAsU32 len))
      let data ← Prog.request (.load (build.buffer site).toNat len)
      pure (.ok data)

/-- Deserializes data from bytes using Borsh format. -/
def deserialize (build : Build) (bytes : Bytes) : Except Error ContractData :=
  match ContractData.codec.tryFromSlice bytes with
  | .error e => .error (.deserialization (build.borshText e))
  | .ok data => .ok data

/-- From the bytes read to a value, with the three error texts. -/
def parseRead {T : Type} (build : Build) (fromSlice : Bytes → Except String T)
    (contextName : String) : Except Error Bytes → Except String T
  | .error e => .error s!"Cannot read {contextName} from host memory: {e.display}"
  | .ok bytes =>
      match deserialize build bytes with
      | .error e => .error s!"Cannot deserialize {contextName}: {e.display}"
      | .ok data =>
          match fromSlice data.bytes with
          | .error e => .error s!"Cannot parse {contextName} from JSON bytes: {e}"
          | .ok value => .ok value

/-- Reads a typed value from host memory through the full deserialization pipeline. -/
def readAndParse {T : Type} (build : Build) (site : Site) (fromSlice : Bytes → Except String T)
    (ptr : Word) (contextName : String) : Guest (Except String T) := do
  let bytes ← getFromContext build site ptr
  pure (parseRead build fromSlice contextName bytes)

/-! ### Writing -/

/-- Serializes data into bytes using Borsh format. -/
def serialize {α : Type} (build : Build) (codec : Codec α) (data : α) : Except Error Bytes :=
  match codec.encode data with
  | .error e => .error (.serialization (build.borshText e))
  | .ok bytes => .ok bytes

/-- Validates that serialized bytes fit into a `u32` length expected by the host allocator. -/
def validateSerializedLen (bytes : Bytes) : Except Error Word :=
  if bytes.length > i32Max then
    .error (.integerOverflow
      s!"Serialized data too large: {bytes.length} bytes exceeds i32::MAX")
  else .ok (usizeAsU32 bytes.length)

/-- Stores data in host memory.  A null pointer from the allocator is an error of its own. -/
def store {α : Type} (build : Build) (site : Site) (codec : Codec α) (data : α) :
    Guest (Except Error Word) :=
  match serialize build codec data with
  | .error e => pure (.error (.serialization e.display))
  | .ok bytes => do
      let _ ← doWork (build.work site)
      let _ ← Prog.request (.store (build.buffer site).toNat bytes)
      match validateSerializedLen bytes with
      | .error e => pure (.error e)
      | .ok len =>
          let rawPtr ← Prog.request (.alloc len)
          if rawPtr = 0 then pure (.error (.hostAllocationFailed bytes.length))
          else
            let _ ← Prog.request
              (.writeBytes rawPtr (build.buffer site) (usizeAsU32 bytes.length))
            pure (.ok rawPtr)

/-! ### The entry points -/

section EntryPoints

variable {State Event : Type} (build : Build) (contract : Contract State Event)

/-- The current state, or the initial state when that fails. -/
def readState (statePtr initStatePtr : Word) : Guest (Except String State) := do
  match ← readAndParse build .state contract.state.fromSlice statePtr "State" with
  | .ok state => pure (.ok state)
  | .error first =>
      match ← readAndParse build .initState contract.state.fromSlice initStatePtr "Init State" with
      | .ok state => pure (.ok state)
      | .error second =>
          pure (.error s!"{first}; fallback to init state also failed: {second}")

/-- What the callback's result is returned as. -/
def contractResultData (result : ContractResult State) : Except String ContractResultData :=
  match contract.state.toVec result.state with
  | .error _ => .error errFinalStateSer
  | .ok stateBytes =>
      .ok { finalState := ⟨stateBytes⟩
            success := result.success
            error := if result.success then "" else s!"{errEventRejected}: {result.error}" }

def tryExecuteContract (statePtr initStatePtr eventPtr isOwner : Word) :
    Guest (Except String Word) := do
  match ← readState build contract statePtr initStatePtr with
  | .error e => pure (.error e)
  | .ok state =>
      match ← readAndParse build .event contract.event.fromSlice eventPtr "Event" with
      | .error e => pure (.error e)
      | .ok event =>
          let _ ← doWork (build.work .callback)
          let context := { event, isOwner := isOwner == ownerFlag }
          match contractResultData contract (contract.callback context (.new state)) with
          | .error e => pure (.error e)
          | .ok result =>
              match ← store build .result ContractResultData.codec result with
              | .error _ => pure (.error errReturnResult)
              | .ok ptr => pure (.ok ptr)

/-- Executes a contract by processing an event and updating the subject's state. -/
def executeContract (statePtr initStatePtr eventPtr isOwner : Word) : Guest Word := do
  match ← tryExecuteContract build contract statePtr initStatePtr eventPtr isOwner with
  | .ok ptr => pure ptr
  | .error error =>
      match ← store build .failure ContractResultData.codec (.failed error) with
      | .ok ptr => pure ptr
      | .error _ => pure 0

def tryCheckInitData (statePtr : Word) : Guest (Except String Word) := do
  match ← readAndParse build .state contract.state.fromSlice statePtr "State" with
  | .error e => pure (.error e)
  | .ok state =>
      let _ ← doWork (build.work .callback)
      let check := contract.check state .default
      if check.success then
        match ← store build .result ContractInitCheckData.codec .ok with
        | .error _ => pure (.error errReturnInitResult)
        | .ok ptr => pure (.ok ptr)
      else pure (.error s!"{errInitRejected}: {check.error}")

/-- Validates the initial state of a contract before subject creation. -/
def checkInitData (statePtr : Word) : Guest Word := do
  match ← tryCheckInitData build contract statePtr with
  | .ok ptr => pure ptr
  | .error error =>
      match ← store build .failure ContractInitCheckData.codec (.failed error) with
      | .ok ptr => pure ptr
      | .error _ => pure 0

/-! ### The module -/

/-- What else a compiled contract declares. -/
structure Shell where
  memories : List MemoryType
  tables : List Nat
  memoryExport : Bool
  data : List (Nat × Bytes)

/-- The four functions `externf` declares. -/
def externf : List Import :=
  [ ⟨"env", "pointer_len", .func ⟨[.i32], [.i32]⟩⟩
  , ⟨"env", "alloc", .func ⟨[.i32], [.i32]⟩⟩
  , ⟨"env", "read_bytes", .func ⟨[.i32, .i32, .i32], []⟩⟩
  , ⟨"env", "write_bytes", .func ⟨[.i32, .i32, .i32], []⟩⟩ ]

/-- A contract compiled with the SDK: its two exports delegate to the entry points. -/
def Contract.module (shell : Shell) : WasmModule (Guest Word) where
  imports := externf
  memories := shell.memories
  tables := shell.tables
  memoryExport := shell.memoryExport
  data := shell.data
  globals := pure 0
  start := none
  mainFunction := some fun _ statePtr initStatePtr eventPtr isOwner =>
    executeContract build contract statePtr initStatePtr eventPtr isOwner
  initCheckFunction := some fun _ statePtr => checkInitData build contract statePtr
  step := Prog.step

end EntryPoints

end Sdk

end Ave
