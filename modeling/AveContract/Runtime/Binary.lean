/-
The Wasm binary format, as far as a module's memories and tables go.

A binary is the eight-byte header and then sections, each an id, a length and a
body.  Two kinds of section are spelled out, the memories and the tables; every
other body is bytes.  A limits entry says by two of its flags whether a maximum
follows and whether its fields are 64 bits wide.

The lengths and the counts in a binary must be the true ones.  That is a field of
each structure, so what cannot be built is exactly what is not well formed.
-/
import AveContract.Lib.Leb128
import AveContract.Runtime.Config

namespace Ave

open Leb128

/-- The width of the fields of a limits entry. -/
def limitsWidth (memory64 : Bool) : Nat := if memory64 then 64 else 32

/-- The limits of a memory, in pages, or of a table, in elements. -/
structure Limits where
  memory64 : Bool
  flags : ULeb 32
  min : ULeb (limitsWidth memory64)
  max : Option (ULeb (limitsWidth memory64))
  /-- Bit 0 of the flags says that a maximum follows. -/
  flags_max : flags.value.testBit 0 = max.isSome

/-- `{flags, min[, max]}`. -/
def Limits.bytes (l : Limits) : Bytes :=
  l.flags.bytes ++ l.min.bytes ++ (match l.max with | none => [] | some m => m.bytes)

/-- A declared table: its element type before the limits, an initializer after them. -/
structure TableEntry where
  type : Bytes
  limits : Limits
  init : Bytes

/-- Every section has a length of any legal spelling before its body. -/
structure Framed (body : Bytes) where
  size : ULeb 32
  size_eq : size.value = body.length

/-- The body of a memory section: the entries, and bytes that may follow them. -/
structure MemoryBody where
  count : ULeb 32
  entries : List Limits
  rest : Bytes
  count_eq : count.value = entries.length

def MemoryBody.bytes (b : MemoryBody) : Bytes :=
  b.count.bytes ++ (b.entries.flatMap Limits.bytes ++ b.rest)

/-- The body of a table section. -/
structure TableBody where
  count : ULeb 32
  entries : List TableEntry
  count_eq : count.value = entries.length

def TableBody.bytes (b : TableBody) : Bytes :=
  b.count.bytes ++ b.entries.flatMap fun e => e.type ++ e.limits.bytes ++ e.init

/-- The ids of the two sections spelled out. -/
def tableSectionId : UInt8 := 4

def memorySectionId : UInt8 := 5

inductive Section where
  | memory (body : MemoryBody) (frame : Framed body.bytes)
  | table (body : TableBody) (frame : Framed body.bytes)
  | other (id : UInt8) (body : Bytes) (frame : Framed body)
      (not_memory : id ≠ memorySectionId) (not_table : id ≠ tableSectionId)

namespace Section

def id : Section → UInt8
  | memory _ _ => memorySectionId
  | table _ _ => tableSectionId
  | other id _ _ _ _ => id

def size : Section → ULeb 32
  | memory _ frame => frame.size
  | table _ frame => frame.size
  | other _ _ frame _ _ => frame.size

def body : Section → Bytes
  | memory body _ => body.bytes
  | table body _ => body.bytes
  | other _ body _ _ _ => body

def bytes (s : Section) : Bytes := s.id :: (s.size.bytes ++ s.body)

/-- The memories a section declares. -/
def memories : Section → List Limits
  | memory body _ => body.entries
  | table _ _ => []
  | other _ _ _ _ _ => []

/-- The tables a section declares. -/
def tables : Section → List Limits
  | memory _ _ => []
  | table body _ => body.entries.map TableEntry.limits
  | other _ _ _ _ _ => []

theorem size_eq (s : Section) : s.size.value = s.body.length := by
  cases s with
  | memory body frame => exact frame.size_eq
  | table body frame => exact frame.size_eq
  | other id body frame _ _ => exact frame.size_eq

end Section

/-- The header: the magic number and the version. -/
def header : Bytes := magic ++ [1, 0, 0, 0]

/-- The header and the sections. -/
def encodeSections (sections : List Section) : Bytes := header ++ sections.flatMap Section.bytes

/-- A well-formed binary that fits in memory. -/
structure Binary where
  sections : List Section
  /-- Bit 2 of the flags says how wide the other fields are. -/
  wide : ∀ s ∈ sections, ∀ l ∈ s.memories ++ s.tables, l.flags.value.testBit 2 = l.memory64
  /-- Nothing follows the entries of a memory section. -/
  exact : ∀ body frame, Section.memory body frame ∈ sections → body.rest = []
  addressable : (encodeSections sections).length ≤ usizeMax

namespace Binary

def bytes (b : Binary) : Bytes := encodeSections b.sections

/-- The memories the module declares. -/
def memories (b : Binary) : List Limits := b.sections.flatMap Section.memories

/-- The tables the module declares. -/
def tables (b : Binary) : List Limits := b.sections.flatMap Section.tables

end Binary

end Ave
