/-
The memory gate against the format it reads.

A binary of `Runtime/Binary.lean` is a module of parts, so what the reader answers
on it is known (`Proofs/Reader.lean`).  What is left is to say it in the terms of
the format, where a field has a width.  A number spelled with more than five bytes
makes the whole module none of the reader's business, and what a fifth byte holds
above 32 bits is lost.  Neither can happen to a 32-bit field; both can to a 64-bit
one.

So the gate is exact on modules whose fields are 32 bits wide, and on the others
it rejects precisely when every field is spelled in at most five bytes and some
minimum is still too large once cut to 32 bits.
-/
import AveContract.Proofs.Reader
import AveContract.Runtime.ContractRuntime

namespace Ave

open Leb128

/-! ### A binary as parts -/

/-- The entry of a memory, without the width of its fields. -/
def Limits.entry (l : Limits) : Entry where
  flags := l.flags.spelling
  min := l.min.spelling
  max := l.max.map ULeb.spelling
  flags_max := by rw [Option.isSome_map, ULeb.spelling_value, l.flags_max]

theorem Limits.entry_bytes (l : Limits) : l.entry.bytes = l.bytes := by
  obtain ⟨memory64, flags, min, max, flags_max⟩ := l
  cases max with
  | none => simp [Limits.entry, Entry.bytes, Entry.fields, Limits.bytes]
  | some m => simp [Limits.entry, Entry.bytes, Entry.fields, Limits.bytes]

/-- A 32-bit number is one the reader keeps whole. -/
theorem spelling_mod (n : ULeb 32) : n.spelling.value % 2 ^ 32 = n.value :=
  Nat.mod_eq_of_lt n.fits

/-- The body of a memory section, without the widths. -/
def MemoryBody.vector (b : MemoryBody) : EntryVector where
  count := b.count.spelling
  entries := b.entries.map Limits.entry
  rest := b.rest
  count_eq := by rw [spelling_mod, List.length_map, b.count_eq]

theorem flatMap_entry_bytes (entries : List Limits) :
    (entries.map Limits.entry).flatMap Entry.bytes = entries.flatMap Limits.bytes := by
  simp only [List.flatMap_map, Limits.entry_bytes]

theorem MemoryBody.vector_bytes (b : MemoryBody) : b.vector.bytes = b.bytes := by
  rw [EntryVector.bytes, MemoryBody.bytes, MemoryBody.vector]
  simp only [flatMap_entry_bytes, ULeb.spelling_bytes]

/-- A memory section is looked into; a table section is one like any other. -/
def Section.part : Section → Part
  | memory body frame => .memory frame.size.spelling body.vector
      (by rw [spelling_mod, MemoryBody.vector_bytes, frame.size_eq])
  | table body frame => .other tableSectionId frame.size.spelling body.bytes
      (by rw [spelling_mod, frame.size_eq]) (by decide)
  | other id body frame not_memory _ => .other id frame.size.spelling body
      (by rw [spelling_mod, frame.size_eq]) not_memory

theorem Section.part_bytes (s : Section) : s.part.bytes = s.bytes := by
  cases s with
  | memory body frame =>
      show memorySectionId :: (frame.size.bytes ++ body.vector.bytes) = _
      rw [MemoryBody.vector_bytes]
      rfl
  | table body frame => rfl
  | other id body frame _ _ => rfl

theorem Section.part_entries (s : Section) : s.part.entries = s.memories.map Limits.entry := by
  cases s with
  | memory body frame => rfl
  | table body frame => rfl
  | other id body frame _ _ => rfl

/-- **The bytes of a binary are those of its parts.** -/
theorem encodeSections_eq (sections : List Section) :
    encodeSections sections = encodeParts (sections.map Section.part) := by
  simp only [encodeSections, encodeParts, List.flatMap_map, Section.part_bytes]

theorem entriesOf_parts (sections : List Section) :
    entriesOf (sections.map Section.part)
      = (sections.flatMap Section.memories).map Limits.entry := by
  simp only [entriesOf, List.flatMap_map, Section.part_entries, List.map_flatMap]

/-! ### What the reader reads of a binary -/

/-- Every field of the entry is spelled in the five bytes the reader reads. -/
def Limits.Legible (l : Limits) : Prop :=
  l.min.groups.length ≤ 5 ∧ ∀ m ∈ l.max, m.groups.length ≤ 5

instance (l : Limits) : Decidable l.Legible := inferInstanceAs (Decidable (_ ∧ _))

/-- The minimum the reader sees. -/
def Limits.seen (l : Limits) : Nat := l.min.value % 2 ^ 32

/-- The largest minimum seen, over `start`. -/
def largestFrom (start : Nat) (entries : List Limits) : Nat :=
  entries.foldl (fun acc l => max acc l.seen) start

theorem seenFrom_entries (start : Nat) (entries : List Limits) :
    seenFrom start (entries.map Limits.entry) = largestFrom start entries := by
  rw [seenFrom, List.foldl_map]
  rfl

/-- The flags have 32 bits, so only the other fields of an entry can be too long. -/
theorem short_entry_iff (l : Limits) : (∀ n ∈ l.entry.fields, Short n) ↔ l.Legible := by
  have hflags : Short l.entry.flags := l.flags.short
  rw [Entry.fields, List.forall_mem_cons, List.forall_mem_cons, and_iff_right hflags]
  refine and_congr Iff.rfl ?_
  simp only [Option.mem_toList]
  constructor
  · intro h m hm
    exact h _ (Option.mem_map_of_mem _ hm)
  · intro h n hn
    obtain ⟨m, hm, rfl⟩ := Option.map_eq_some_iff.mp hn
    exact h m hm

theorem short_part_iff (s : Section) :
    (∀ n ∈ s.part.fields, Short n) ↔ ∀ l ∈ s.memories, l.Legible := by
  cases s with
  | memory body frame =>
      have hsize : Short frame.size.spelling := frame.size.short
      have hcount : Short body.count.spelling := body.count.short
      show (∀ n ∈ frame.size.spelling :: body.count.spelling ::
        (body.entries.map Limits.entry).flatMap Entry.fields, Short n) ↔ ∀ l ∈ body.entries, l.Legible
      rw [List.forall_mem_cons, List.forall_mem_cons, and_iff_right hsize, and_iff_right hcount]
      simp only [List.forall_mem_flatMap, List.forall_mem_map, short_entry_iff]
  | table body frame =>
      refine iff_of_true (List.forall_mem_singleton.mpr frame.size.short) ?_
      intro l hl
      exact absurd hl List.not_mem_nil
  | other id body frame _ _ =>
      refine iff_of_true (List.forall_mem_singleton.mpr frame.size.short) ?_
      intro l hl
      exact absurd hl List.not_mem_nil

/-- **What the reader answers on an encoded module.** -/
theorem declaredMinMemoryBytes_encode {sections : List Section}
    (haddr : (encodeSections sections).length ≤ usizeMax) :
    declaredMinMemoryBytes (encodeSections sections) =
      if ∀ l ∈ sections.flatMap Section.memories, l.Legible then
        some (65536 * largestFrom 0 (sections.flatMap Section.memories))
      else none := by
  rw [encodeSections_eq] at haddr ⊢
  rw [declaredMinMemoryBytes_parts haddr, entriesOf_parts, seenFrom_entries]
  have hshort : (∀ n ∈ fieldsOf (sections.map Section.part), Short n) ↔
      ∀ l ∈ sections.flatMap Section.memories, l.Legible := by
    simp only [fieldsOf, List.flatMap_map, List.forall_mem_flatMap, short_part_iff]
  simp only [hshort]

/-! ### The gate -/

/-- `compile` refuses the bytes for the memory they declare. -/
def Rejected {M : Type} (engine : Engine M) (wasm : Bytes) : Prop :=
  ∃ minBytes maxBytes,
    compile engine wasm = .error (.invalidModule (.excessiveMemory minBytes maxBytes))

/-- Only the gate refuses a module for its memory. -/
theorem rejected_iff {M : Type} (engine : Engine M) (wasm : Bytes) :
    Rejected engine wasm ↔
      ∃ minBytes, declaredMinMemoryBytes wasm = some minBytes ∧ minFleetMemoryBytes < minBytes := by
  constructor
  · rintro ⟨minBytes, maxBytes, h⟩
    unfold compile at h
    cases hread : declaredMinMemoryBytes wasm with
    | none =>
        rw [hread] at h
        simp only at h
        repeat' split at h
        all_goals simp at h
    | some declared =>
        rw [hread] at h
        by_cases hbig : minFleetMemoryBytes < declared
        · exact ⟨declared, rfl, hbig⟩
        · simp only [if_neg hbig] at h
          repeat' split at h
          all_goals simp at h
  · rintro ⟨minBytes, hread, hbig⟩
    refine ⟨minBytes, minFleetMemoryBytes, ?_⟩
    unfold compile
    rw [hread]
    simp only [if_pos hbig]

theorem lt_largestFrom (k : Nat) : ∀ (entries : List Limits) (start : Nat),
    k < largestFrom start entries ↔ k < start ∨ ∃ l ∈ entries, k < l.seen := by
  intro entries
  induction entries with
  | nil => intro start; simp [largestFrom]
  | cons l entries ih =>
      intro start
      have hfold : largestFrom start (l :: entries) = largestFrom (max start l.seen) entries := rfl
      rw [hfold, ih, lt_max_iff, List.exists_mem_cons_iff, or_assoc]

/-- **Exactly which modules the gate refuses.** -/
theorem rejected_binary_iff {M : Type} (engine : Engine M) (b : Binary) :
    Rejected engine b.bytes ↔
      (∀ l ∈ b.memories, l.Legible) ∧ ∃ l ∈ b.memories, 64 < l.min.value % 2 ^ 32 := by
  rw [rejected_iff, Binary.bytes, declaredMinMemoryBytes_encode b.addressable]
  show (∃ minBytes, (if ∀ l ∈ b.memories, l.Legible then
      some (65536 * largestFrom 0 b.memories) else none) = some minBytes ∧
    minFleetMemoryBytes < minBytes) ↔ _
  have hpages : minFleetMemoryBytes < 65536 * largestFrom 0 b.memories ↔
      64 < largestFrom 0 b.memories := by
    unfold minFleetMemoryBytes
    omega
  have hseen := lt_largestFrom 64 b.memories 0
  by_cases hleg : ∀ l ∈ b.memories, l.Legible
  · rw [if_pos hleg]
    constructor
    · rintro ⟨n, hn, hbig⟩
      rw [Option.some.injEq] at hn
      subst hn
      rcases hseen.mp (hpages.mp hbig) with h | h
      · exact absurd h (by omega)
      · exact ⟨hleg, h⟩
    · rintro ⟨-, h⟩
      exact ⟨_, rfl, hpages.mpr (hseen.mpr (Or.inr h))⟩
  · rw [if_neg hleg]
    constructor
    · rintro ⟨n, hn, -⟩
      simp at hn
    · rintro ⟨h, -⟩
      exact absurd h hleg

/--
**When no oversized module slips past.**

The gate refuses every module that declares more than 64 pages if and only if the
module declares no such memory, or all its fields are spelled in at most five
bytes and some minimum is over 64 pages still when cut to 32 bits.
-/
theorem oversized_rejected_iff {M : Type} (engine : Engine M) (b : Binary) :
    ((∃ l ∈ b.memories, 64 < l.min.value) → Rejected engine b.bytes) ↔
      (∀ l ∈ b.memories, l.min.value ≤ 64) ∨
        ((∀ l ∈ b.memories, l.Legible) ∧ ∃ l ∈ b.memories, 64 < l.min.value % 2 ^ 32) := by
  rw [rejected_binary_iff]
  constructor
  · intro h
    by_cases hbig : ∃ l ∈ b.memories, 64 < l.min.value
    · exact Or.inr (h hbig)
    · left
      intro l hl
      by_contra hc
      exact hbig ⟨l, hl, by omega⟩
  · rintro (hsmall | hcaught)
    · rintro ⟨l, hl, hbig⟩
      exact absurd (hsmall l hl) (by omega)
    · intro _
      exact hcaught

/-! ### A minimum of 2³² pages -/

/-- A 64-bit memory of 2³² pages at least, in its shortest spelling. -/
def wideLimits : Limits where
  memory64 := true
  flags := ⟨[4], by decide, by decide, by decide⟩
  min := ⟨[0, 0, 0, 0, 16], by decide, by decide, by decide⟩
  max := none
  flags_max := by decide

/-- A count of one, in its shortest spelling. -/
def oneEntry : Leb128.ULeb 32 := ⟨[1], by decide, by decide, by decide⟩

def wideBody : MemoryBody where
  count := oneEntry
  entries := [wideLimits]
  rest := []
  count_eq := by decide

/-- The module that declares it and nothing else. -/
def wideBinary : Binary where
  sections := [.memory wideBody ⟨⟨[7], by decide, by decide, by decide⟩, by decide⟩]
  wide := by decide
  exact := by
    intro body frame h
    cases List.mem_singleton.mp h
    rfl
  addressable := by decide

/-- An engine that takes every module as it is. -/
def plainEngine : Engine Bytes where
  precompileModule := .ok
  deserialize := .ok

/-- **The reader sees no memory at all in it.** -/
theorem wide_minimum_slips_past :
    (∃ l ∈ wideBinary.memories, 64 < l.min.value) ∧ ¬Rejected plainEngine wideBinary.bytes := by
  refine ⟨⟨wideLimits, List.mem_singleton.mpr rfl, by decide⟩, ?_⟩
  rw [rejected_binary_iff]
  rintro ⟨-, l, hl, hbig⟩
  obtain rfl : l = wideLimits := List.mem_singleton.mp hl
  exact absurd hbig (by decide)

end Ave
