/-
A module as the memory reader goes over it.

This is a second grammar beside the format's own (`Runtime/Binary.lean`), and a
coarser one.  A number is any terminated group, whatever its length and value.  A
length or a count need only be right as far as its low 32 bits go, since that is
what the reader keeps of it.  Nothing but a memory section has a structure.

What is read in such a module is all written out: the parts, their fields in
order, the entries among them.
-/
import AveContract.Runtime.Binary

namespace Ave

open Leb128

/-- A limits entry: bit 0 of its flags says whether a maximum follows. -/
structure Entry where
  flags : Spelling
  min : Spelling
  max : Option Spelling
  flags_max : flags.value.testBit 0 = max.isSome

namespace Entry

/-- The numbers of an entry, in order. -/
def fields (e : Entry) : List Spelling := e.flags :: e.min :: e.max.toList

def bytes (e : Entry) : Bytes := e.fields.flatMap Spelling.bytes

end Entry

/-- The body of a memory section: the entries it counts, and whatever follows them. -/
structure EntryVector where
  count : Spelling
  entries : List Entry
  rest : Bytes
  count_eq : count.value % 2 ^ 32 = entries.length

namespace EntryVector

def bytes (v : EntryVector) : Bytes := v.count.bytes ++ (v.entries.flatMap Entry.bytes ++ v.rest)

/-- The numbers of a body, in order. -/
def fields (v : EntryVector) : List Spelling := v.count :: v.entries.flatMap Entry.fields

end EntryVector

/-- A section, as far as the reader looks into it. -/
inductive Part where
  | memory (size : Spelling) (body : EntryVector)
      (size_eq : size.value % 2 ^ 32 = body.bytes.length)
  | other (id : UInt8) (size : Spelling) (body : Bytes)
      (size_eq : size.value % 2 ^ 32 = body.length) (not_memory : id ≠ memorySectionId)

namespace Part

def id : Part → UInt8
  | memory _ _ _ => memorySectionId
  | other id _ _ _ _ => id

def size : Part → Spelling
  | memory size _ _ => size
  | other _ size _ _ _ => size

def body : Part → Bytes
  | memory _ body _ => body.bytes
  | other _ _ body _ _ => body

def bytes (p : Part) : Bytes := p.id :: (p.size.bytes ++ p.body)

/-- The entries of a memory section. -/
def entries : Part → List Entry
  | memory _ body _ => body.entries
  | other _ _ _ _ _ => []

/-- The numbers of a part, in order. -/
def fields : Part → List Spelling
  | memory size body _ => size :: body.fields
  | other _ size _ _ _ => [size]

theorem size_eq (p : Part) : p.size.value % 2 ^ 32 = p.body.length := by
  cases p with
  | memory size body size_eq => exact size_eq
  | other id size body size_eq _ => exact size_eq

end Part

/-- The header and the parts. -/
def encodeParts (parts : List Part) : Bytes := header ++ parts.flatMap Part.bytes

/-- All that is read of a module, in order. -/
def fieldsOf (parts : List Part) : List Spelling := parts.flatMap Part.fields

/-- All its memory entries, in order. -/
def entriesOf (parts : List Part) : List Entry := parts.flatMap Part.entries

/-- The largest minimum of some entries, or zero. -/
def largestMinimum (entries : List Entry) : Nat := (entries.map fun e => e.min.value).foldr max 0

/-- A byte string in memory, which is no longer than the address space. -/
structure Image where
  bytes : Bytes
  addressable : bytes.length ≤ usizeMax

/-- A number that the reader reads to its end: it stops at the fifth byte. -/
def Short (n : Spelling) : Prop := n.groups.length ≤ 5

instance shortDecidable (n : Spelling) : Decidable (Short n) :=
  inferInstanceAs (Decidable (_ ≤ _))

/-- A `u32` in any of its encodings, padded or not. -/
def IsU32 (n : Spelling) : Prop := Short n ∧ n.value < 2 ^ 32

/-- A module whose numbers are all what the reader takes them for. -/
structure PlainModule where
  parts : List Part
  narrow : ∀ n ∈ fieldsOf parts, IsU32 n
  addressable : (encodeParts parts).length ≤ usizeMax

namespace PlainModule

def bytes (m : PlainModule) : Bytes := encodeParts m.parts

/-- Its memory entries. -/
def entries (m : PlainModule) : List Entry := entriesOf m.parts

end PlainModule

end Ave
