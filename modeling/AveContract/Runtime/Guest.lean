/-
The guest, and what wasmtime does for it.

A guest is any deterministic program over the requests of `Instr`: computing on
its own, loading and storing in its linear memory, growing it, and the four
imports.  Between two requests it may do what it likes with its own state `σ`
(globals, tables of a fixed size, call stack); it learns about the rest of the world
only from the answers.  `exec` is the store that answers them.  To grow a table would
be a request too, since the limiter is asked; modules that do so are left out.

From wasmtime this takes what its documentation says: a module is instantiated
after its imports are resolved and its declared memories and tables are within
the store's limits, its active data segments are copied, and its start function
runs on the same fuel as everything after it; a refused growth traps when the
limits say so; every request is paid for with fuel.
-/
import AveContract.Lib.Metered
import AveContract.Runtime.Host

namespace Ave

open Slice Metered

/-- One thing a guest can ask of its store. -/
inductive Instr where
  | compute
  | load (addr len : Nat)
  | store (addr : Nat) (bytes : Bytes)
  | memoryGrow (delta : Nat)
  | pointerLen (pointer : Word)
  | alloc (len : Word)
  | readBytes (srcPtr dstPtr len : Word)
  | writeBytes (dstPtr srcPtr len : Word)
  deriving DecidableEq, Repr

/-- What the guest gets back. -/
abbrev Instr.Answer : Instr → Type
  | .compute => Unit
  | .load _ _ => Bytes
  | .store _ _ => Unit
  | .memoryGrow _ => Int
  | .pointerLen _ => Word
  | .alloc _ => Word
  | .readBytes _ _ _ => Unit
  | .writeBytes _ _ _ => Unit

/-- A store with the instance's linear memory; `maximum` is its declared maximum in pages. -/
structure Store extends Caller where
  maximum : Option Nat

/-- The limiter's answer to a linear memory that wants to become `desired` bytes long. -/
def StoreLimits.memoryGrowing (limits : StoreLimits) (desired : Nat) (maximum : Option Nat) : Bool :=
  decide (desired ≤ limits.memorySize) &&
    maximum.all fun pages => decide (desired ≤ pages * wasmPageBytes)

/-- The limiter's answer to the memories and tables a module declares. -/
def StoreLimits.admits (limits : StoreLimits) (memories tables : List Nat) : Bool :=
  decide (memories.length ≤ limits.memories) && decide (tables.length ≤ limits.tables) &&
    memories.all (fun pages => decide (pages * wasmPageBytes ≤ limits.memorySize)) &&
    tables.all (fun elements => decide (elements ≤ limits.tableElements))

/-- What the store does with a request. -/
def exec : Handler Instr Instr.Answer Store WasmError
  | .compute, s => (.ok (), s)
  | .load addr len, s =>
      if addr + len ≤ s.memory.length then (.ok (slice s.memory addr len), s)
      else (.error (.trap .memoryOutOfBounds), s)
  | .store addr bytes, s =>
      if addr + bytes.length ≤ s.memory.length then
        (.ok (), { s with memory := patch s.memory addr bytes })
      else (.error (.trap .memoryOutOfBounds), s)
  | .memoryGrow delta, s =>
      let desired := s.memory.length + delta * wasmPageBytes
      if s.data.storeLimits.memoryGrowing desired s.maximum then
        (.ok (s.memory.length / wasmPageBytes),
          { s with memory := s.memory ++ List.replicate (delta * wasmPageBytes) 0 })
      else if s.data.storeLimits.trapOnGrowFailure then (.error (.growRefused desired), s)
      else (.ok (-1), s)
  | .pointerLen pointer, s => (.ok (Env.pointerLen s.toCaller pointer), s)
  | .alloc len, s =>
      let (result, caller) := Env.alloc s.toCaller len
      (result, { s with toCaller := caller })
  | .readBytes srcPtr dstPtr len, s =>
      let (result, caller) := Env.readBytes s.toCaller srcPtr dstPtr len
      (result, { s with toCaller := caller })
  | .writeBytes dstPtr srcPtr len, s =>
      let (result, caller) := Env.writeBytes s.toCaller dstPtr srcPtr len
      (result, { s with toCaller := caller })

/-! ### Modules -/

inductive ValType where
  | i32
  | i64
  | f32
  | f64
  | v128
  | ref (type : String)
  deriving DecidableEq, Repr

structure FuncType where
  params : List ValType
  results : List ValType
  deriving DecidableEq, Repr

/-- The type of an import: a function, or something else with its debug text. -/
inductive ExternType where
  | func (type : FuncType)
  | other (debug : String)
  deriving DecidableEq, Repr

structure Import where
  module : String
  name : String
  type : ExternType
  deriving DecidableEq, Repr

/-- A declared linear memory, in pages. -/
structure MemoryType where
  minimum : Nat
  maximum : Option Nat
  deriving DecidableEq, Repr

/-- A compiled module whose code runs on states of type `σ`. -/
structure WasmModule (σ : Type) where
  imports : List Import
  memories : List MemoryType
  /-- The minimum of every declared table. -/
  tables : List Nat
  /-- The linear memory is exported under the name `memory`. -/
  memoryExport : Bool
  /-- Active data segments, each with its offset. -/
  data : List (Nat × Bytes)
  /-- The state of a fresh instance. -/
  globals : σ
  start : Option (σ → σ)
  mainFunction : Option (σ → Word → Word → Word → Word → σ)
  initCheckFunction : Option (σ → Word → σ)
  step : σ → Move Instr Instr.Answer Word Trap σ

/-- A finished piece of guest code. -/
abbrev GuestRun (σ : Type) := Run Instr Instr.Answer Store Word WasmError σ

/-- Runs guest code from a state of it. -/
def WasmModule.call {σ : Type} (module : WasmModule σ) (fuel : Nat) (q : σ) (store : Store) :
    GuestRun σ :=
  run (fun q => (module.step q).mapFail .trap) exec (.trap .outOfFuel) fuel q store

/-- A module ready to be called. -/
structure Instance (σ : Type) where
  globals : σ
  store : Store
  fuel : Nat
  /-- What the start function asked for. -/
  started : List (Event Instr Instr.Answer Store)

/-- The functions the linker defines in `env`, with their types. -/
def linkerFuncs : List (String × FuncType) :=
  [ ("pointer_len", ⟨[.i32], [.i32]⟩)
  , ("alloc", ⟨[.i32], [.i32]⟩)
  , ("read_bytes", ⟨[.i32, .i32, .i32], []⟩)
  , ("write_bytes", ⟨[.i32, .i32, .i32], []⟩) ]

/-- The linker can satisfy the import. -/
def Import.linked (i : Import) : Bool :=
  i.module == "env" && linkerFuncs.any fun f => f.1 == i.name && ExternType.func f.2 == i.type

/-- Copies the active data segments. -/
def initData : List (Nat × Bytes) → Bytes → Except WasmError Bytes
  | [], memory => .ok memory
  | (offset, bytes) :: rest, memory =>
      if offset + bytes.length ≤ memory.length then initData rest (patch memory offset bytes)
      else .error (.trap .memoryOutOfBounds)

/-- The linear memory a module starts with: its minimum, zeroed. -/
def WasmModule.initialMemory {σ : Type} (module : WasmModule σ) : Bytes :=
  match module.memories with
  | [] => []
  | m :: _ => List.replicate (m.minimum * wasmPageBytes) 0

/-- `Linker::instantiate` on a store that holds `context` and `fuel`. -/
def WasmModule.instantiate {σ : Type} (module : WasmModule σ) (context : MemoryManager)
    (fuel : Nat) : Except WasmError (Instance σ) :=
  match module.imports.find? fun i => !i.linked with
  | some i => .error (.unknownImport i.module i.name)
  | none =>
      if context.storeLimits.admits (module.memories.map (·.minimum)) module.tables then
        match initData module.data module.initialMemory with
        | .error e => .error e
        | .ok memory =>
            let store : Store :=
              { data := context
                memory
                memoryExport := module.memoryExport
                maximum := module.memories.head?.bind (·.maximum) }
            match module.start with
            | none => .ok { globals := module.globals, store, fuel, started := [] }
            | some enter =>
                let r := module.call fuel (enter module.globals) store
                match r.outcome with
                | .error e => .error e
                | .ok (_, globals) =>
                    .ok { globals, store := r.final, fuel := r.fuel, started := r.events }
      else .error (.resourceLimit "minimum exceeds limits")

end Ave
