/-
Resource limits, and the gate on a module's declared memory.

The limits scale with the machine: memory with its RAM, tables with its cores.
Every one is clamped, so that any node stays between a fixed floor and a fixed
ceiling.  Fuel and the stack do not scale.

`declaredMinMemoryBytes` is the hand-written reader the gate of `compile` rests
on.  It walks a module's bytes with an index, as the source does; the two loops
become recursions, the outer one on a fuel it cannot use up
(`Proofs/MemorySection.lean`), the inner one on the count of entries still to read.
-/
import AveContract.Runtime.Word

namespace Ave

/-- Detected machine resources. -/
structure ResolvedMachineSpec where
  ramMb : UInt64
  cpuCores : UInt64
  deriving DecidableEq, Repr

/-- Resource limits of a contract execution environment. -/
structure WasmLimits where
  maxWasmStack : Nat
  memorySize : Nat
  maxSingleAlloc : Nat
  maxTotalMemory : Nat
  maxTableElements : Nat
  aggressiveCompilation : Bool
  deriving DecidableEq, Repr

/-- No node has more linear memory than this. -/
def maxMemoryBytes : Nat := 32 * 1024 * 1024

/-- Every node has at least this much linear memory. -/
def minFleetMemoryBytes : Nat := 4 * 1024 * 1024

/-- WASM memory page size in bytes. -/
def wasmPageBytes : Nat := 65536

/-- Fuel budget for a single contract execution. -/
def maxFuel : Nat := 10000000

/-- Fuel budget used while validating a module. -/
def maxFuelCompilation : Nat := 50000000

/-- Limits from RAM and CPU counts, each clamped to a fixed range. -/
def WasmLimits.build (ramMb cpuCores : UInt64) : WasmLimits :=
  let memorySize := usizeTryFrom
    (clamp (saturatingMul (ramMb.toNat / 512) (4 * 1024 * 1024))
      minFleetMemoryBytes maxMemoryBytes)
  let maxTotalMemory := usizeTryFrom
    (clamp (saturatingMul (ramMb.toNat / 512) (3 * 1024 * 1024))
      (3 * 1024 * 1024) (24 * 1024 * 1024))
  let maxSingleAlloc := clamp (maxTotalMemory / 3) (1024 * 1024) (8 * 1024 * 1024)
  let maxTableElements := min (wrappingMul 256 (max cpuCores.toNat 2)) 2048
  { maxWasmStack := 1024 * 1024
    memorySize
    maxSingleAlloc
    maxTotalMemory
    maxTableElements
    aggressiveCompilation := false }

/-- The limits of a machine. -/
def ResolvedMachineSpec.limits (spec : ResolvedMachineSpec) : WasmLimits :=
  WasmLimits.build spec.ramMb spec.cpuCores

instance : Inhabited WasmLimits := ⟨WasmLimits.build 4096 2⟩

/-! ### The memory-section reader -/

/-- `bytes.get(start..stop)`. -/
def getRange (bytes : Bytes) (start stop : Nat) : Option Bytes :=
  if start ≤ stop ∧ stop ≤ bytes.length then some ((bytes.drop start).take (stop - start)) else none

/-- The loop of `readUleb`, over the shifts still to try. -/
def readUlebFrom (bytes : Bytes) : List Nat → Word → Nat → Option (Word × Nat)
  | [], _, _ => none
  | shift :: shifts, result, pos =>
      match bytes[pos]? with
      | none => none
      | some byte =>
          let result := result ||| (BitVec.ofNat 32 (byte &&& 0x7F).toNat <<< shift)
          if byte &&& 0x80 = 0 then some (result, pos + 1)
          else readUlebFrom bytes shifts result (pos + 1)

/-- The small LEB128-u32 reader: the value read and the position after it. -/
def readUleb (bytes : Bytes) (pos : Nat) : Option (Word × Nat) :=
  readUlebFrom bytes [0, 7, 14, 21, 28] 0 pos

/-- The entries of a memory section, `{flags, min[, max]}` in pages. -/
def readMemoryEntries (body : Bytes) : Nat → Nat → Nat → Option Nat
  | 0, _, maxPages => some maxPages
  | count + 1, inner, maxPages => do
      let (flags, inner) ← readUleb body inner
      let (min, inner) ← readUleb body inner
      if flags &&& 1 ≠ 0 then
        let (_, inner) ← readUleb body inner
        readMemoryEntries body count inner (max maxPages min.toNat)
      else
        readMemoryEntries body count inner (max maxPages min.toNat)

/-- What a section does to the pages seen so far: only a memory section counts. -/
def readSection (sectionId : UInt8) (body : Bytes) (maxPages : Nat) : Option Nat :=
  if sectionId = 5 then do
    let (count, inner) ← readUleb body 0
    readMemoryEntries body count.toNat inner maxPages
  else
    some maxPages

/-- The sections from `pos` to the end. -/
def readSections (wasm : Bytes) : Nat → Nat → Nat → Option Nat
  | 0, _, _ => none
  | fuel + 1, pos, maxPages =>
      if pos < wasm.length then do
        let sectionId ← wasm[pos]?
        let (sectionLen, pos) ← readUleb wasm (pos + 1)
        let stop ← checkedAdd pos sectionLen.toNat
        let body ← getRange wasm pos stop
        let maxPages ← readSection sectionId body maxPages
        readSections wasm fuel (pos + sectionLen.toNat) maxPages
      else
        some maxPages

/-- The first four bytes of every module. -/
def magic : Bytes := [0x00, 0x61, 0x73, 0x6D]

/-- The largest declared minimum linear memory, in bytes; `none` when the bytes do not parse. -/
def declaredMinMemoryBytes (wasm : Bytes) : Option Nat := do
  let cursor ← getRange wasm 0 8
  let head ← getRange cursor 0 4
  let version ← getRange cursor 4 cursor.length
  if head ≠ magic ∨ version ≠ [1, 0, 0, 0] then none
  else
    let maxPages ← readSections wasm wasm.length 8 0
    some (saturatingMul maxPages wasmPageBytes)

end Ave
