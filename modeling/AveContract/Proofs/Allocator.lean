/-
The representation invariant of the memory manager.

The manager keeps one vector of bytes and a table of extents, and nothing in the
source says how the two belong together.  They do so exactly: the tracked extents
are stacked end to end from zero to the end of the vector.  An allocation appends
its bytes and pushes one extent; a zero-length one appends nothing and pushes
nothing; a write changes bytes in place.  So every operation, refused or not,
keeps the stack, and everything else — disjointness, no gap, the total, the
lossless casts — is read off it.

Each operation is first given one spec lemma that says all it can do.  Everything
later, here and in the other files, rests on those and never unfolds an operation
again.
-/
import AveContract.Runtime.Host
import AveContract.Proofs.Limits

namespace Ave

open Slice Extents

namespace MemoryManager

/-! ### What each operation can do -/

/-- The allocation is within the caps. -/
def Fits (m : MemoryManager) (len : Nat) : Prop :=
  len ≤ m.maxSingleAlloc ∧ m.memory.length + len ≤ usizeMax ∧
    m.memory.length + len ≤ m.maxTotalMemory

instance (m : MemoryManager) (len : Nat) : Decidable (m.Fits len) :=
  inferInstanceAs (Decidable (_ ∧ _ ∧ _))

/-- The manager after an allocation that was granted. -/
def grown (m : MemoryManager) (len : Nat) : MemoryManager :=
  { m with
    memory := m.memory ++ List.replicate len 0
    map := if len > 0 then m.map.insert m.memory.length len else m.map }

/-- The manager after a write that was granted. -/
def written (m : MemoryManager) (start : Nat) (data : Bytes) : MemoryManager :=
  { m with memory := patch m.memory start data }

@[simp] theorem grown_maxSingleAlloc (m : MemoryManager) (len : Nat) :
    (m.grown len).maxSingleAlloc = m.maxSingleAlloc := rfl

@[simp] theorem grown_maxTotalMemory (m : MemoryManager) (len : Nat) :
    (m.grown len).maxTotalMemory = m.maxTotalMemory := rfl

@[simp] theorem grown_memory (m : MemoryManager) (len : Nat) :
    (m.grown len).memory = m.memory ++ List.replicate len 0 := rfl

@[simp] theorem grown_map (m : MemoryManager) {len : Nat} (h : 0 < len) :
    (m.grown len).map = m.map.insert m.memory.length len := if_pos h

@[simp] theorem written_memory (m : MemoryManager) (start : Nat) (data : Bytes) :
    (m.written start data).memory = patch m.memory start data := rfl

@[simp] theorem written_map (m : MemoryManager) (start : Nat) (data : Bytes) :
    (m.written start data).map = m.map := rfl

@[simp] theorem written_maxSingleAlloc (m : MemoryManager) (start : Nat) (data : Bytes) :
    (m.written start data).maxSingleAlloc = m.maxSingleAlloc := rfl

@[simp] theorem written_maxTotalMemory (m : MemoryManager) (start : Nat) (data : Bytes) :
    (m.written start data).maxTotalMemory = m.maxTotalMemory := rfl

/-- **An allocation within the caps is granted at the end of the memory.** -/
theorem alloc_fits {m : MemoryManager} {len : Nat} (h : m.Fits len) :
    m.alloc len = (.ok m.memory.length, m.grown len) := by
  obtain ⟨hsingle, haddr, htotal⟩ := h
  unfold alloc
  rw [if_neg (by omega)]
  simp only [checkedAdd_of_le haddr]
  rw [if_neg (by omega), Nat.add_sub_cancel_left]
  rfl

/-- **Any other allocation is refused and leaves the manager alone.** -/
theorem alloc_refused {m : MemoryManager} {len : Nat} (h : ¬m.Fits len) :
    ∃ e, m.alloc len = (.error e, m) := by
  unfold alloc
  by_cases hsingle : len > m.maxSingleAlloc
  · rw [if_pos hsingle]
    exact ⟨_, rfl⟩
  · rw [if_neg hsingle]
    by_cases haddr : m.memory.length + len ≤ usizeMax
    · simp only [checkedAdd_of_le haddr]
      have htotal : m.memory.length + len > m.maxTotalMemory := by
        by_contra hc
        exact h ⟨by omega, haddr, by omega⟩
      rw [if_pos htotal]
      exact ⟨_, rfl⟩
    · simp only [checkedAdd, if_neg haddr]
      exact ⟨_, rfl⟩

theorem alloc_ok {m m' : MemoryManager} {len p : Nat} (h : m.alloc len = (.ok p, m')) :
    m.Fits len ∧ p = m.memory.length ∧ m' = m.grown len := by
  by_cases hfits : m.Fits len
  · rw [alloc_fits hfits] at h
    simp only [Prod.mk.injEq, Except.ok.injEq] at h
    exact ⟨hfits, h.1.symm, h.2.symm⟩
  · obtain ⟨e, he⟩ := alloc_refused hfits
    rw [he] at h
    simp at h

/-- The write stays inside the allocation at `ptr`. -/
def Admits (m : MemoryManager) (ptr offset len : Nat) : Prop :=
  ∃ n, m.map.lookup ptr = some n ∧ offset + len ≤ n ∧ ptr + offset + len ≤ usizeMax ∧
    ptr + offset + len ≤ m.memory.length

/-- **A whole write either stays inside its allocation or does nothing.** -/
theorem writeBytes_cases (m : MemoryManager) (ptr : Nat) (data : Bytes) :
    (m.Admits ptr 0 data.length ∧ m.writeBytes ptr data = (.ok (), m.written ptr data)) ∨
      (¬m.Admits ptr 0 data.length ∧ ∃ e, m.writeBytes ptr data = (.error e, m)) := by
  unfold writeBytes
  cases hlook : m.map.lookup ptr with
  | none => exact Or.inr ⟨fun ⟨n, hn, _⟩ => by simp [hlook] at hn, _, rfl⟩
  | some n =>
      simp only
      by_cases hlen : data.length > n
      · rw [if_pos hlen]
        refine Or.inr ⟨?_, _, rfl⟩
        rintro ⟨n', hn', hle, -⟩
        rw [hlook, Option.some.injEq] at hn'
        omega
      · rw [if_neg hlen]
        by_cases haddr : ptr + data.length ≤ usizeMax
        · rw [checkedAdd_of_le haddr]
          simp only
          by_cases hmem : ptr + data.length > m.memory.length
          · rw [if_pos hmem]
            refine Or.inr ⟨?_, _, rfl⟩
            rintro ⟨n', -, -, -, hin⟩
            omega
          · rw [if_neg hmem]
            exact Or.inl ⟨⟨n, hlook, by omega, by omega, by omega⟩, rfl⟩
        · rw [checkedAdd, if_neg haddr]
          refine Or.inr ⟨?_, _, rfl⟩
          rintro ⟨n', -, -, haddr', -⟩
          omega

/-- **And so does a write at an offset.**  The saturating sum in its bound check never saturates
where the other checks let it through. -/
theorem writeBytesAt_cases (m : MemoryManager) (ptr offset : Nat) (data : Bytes) :
    (m.Admits ptr offset data.length ∧
        m.writeBytesAt ptr offset data = (.ok (), m.written (ptr + offset) data)) ∨
      (¬m.Admits ptr offset data.length ∧ ∃ e, m.writeBytesAt ptr offset data = (.error e, m)) := by
  unfold writeBytesAt
  cases hlook : m.map.lookup ptr with
  | none => exact Or.inr ⟨fun ⟨n, hn, _⟩ => by simp [hlook] at hn, _, rfl⟩
  | some n =>
      simp only
      by_cases hstart : ptr + offset ≤ usizeMax
      · rw [checkedAdd_of_le hstart]
        simp only
        by_cases hstop : ptr + offset + data.length ≤ usizeMax
        · rw [checkedAdd_of_le hstop]
          simp only
          by_cases hbad : ptr + offset + data.length > saturatingAdd ptr n ∨
              ptr + offset + data.length > m.memory.length
          · rw [if_pos hbad]
            refine Or.inr ⟨?_, _, rfl⟩
            rintro ⟨n', hn', hle, haddr, hin⟩
            rw [hlook, Option.some.injEq] at hn'
            unfold saturatingAdd at hbad
            omega
          · rw [if_neg hbad]
            refine Or.inl ⟨⟨n, hlook, ?_, hstop, by omega⟩, rfl⟩
            unfold saturatingAdd at hbad
            omega
        · rw [checkedAdd, if_neg hstop]
          refine Or.inr ⟨?_, _, rfl⟩
          rintro ⟨n', -, -, haddr, -⟩
          exact hstop haddr
      · rw [checkedAdd, if_neg hstart]
        refine Or.inr ⟨?_, _, rfl⟩
        rintro ⟨n', -, -, haddr, -⟩
        omega

/-- Adding data is an allocation and a write over all of it. -/
theorem addDataRaw_fits {m : MemoryManager} {bytes : Bytes} (h : m.Fits bytes.length) :
    m.addDataRaw bytes =
      (.ok m.memory.length, (m.grown bytes.length).written m.memory.length bytes) := by
  unfold addDataRaw
  rw [alloc_fits h]
  rfl

theorem addDataRaw_refused {m : MemoryManager} {bytes : Bytes} (h : ¬m.Fits bytes.length) :
    ∃ e, m.addDataRaw bytes = (.error e, m) := by
  obtain ⟨e, he⟩ := alloc_refused h
  refine ⟨e, ?_⟩
  unfold addDataRaw
  rw [he]

/-! ### Runs of operations -/

/-- One call on the manager, with whatever arguments. -/
inductive HostOp where
  | alloc (len : Nat)
  | addDataRaw (bytes : Bytes)
  | writeBytes (ptr : Nat) (data : Bytes)
  | writeBytesAt (ptr offset : Nat) (data : Bytes)
  | readData (ptr : Nat)
  | readBytes (ptr len : Nat)
  | getPointerLen (ptr : Nat)

/-- The manager after the call, whether it succeeded or not. -/
def HostOp.apply (m : MemoryManager) : HostOp → MemoryManager
  | .alloc len => (m.alloc len).2
  | .addDataRaw bytes => (m.addDataRaw bytes).2
  | .writeBytes ptr data => (m.writeBytes ptr data).2
  | .writeBytesAt ptr offset data => (m.writeBytesAt ptr offset data).2
  | .readData _ => m
  | .readBytes _ _ => m
  | .getPointerLen _ => m

/-- The manager after a run of calls. -/
def run (m : MemoryManager) (ops : List HostOp) : MemoryManager := ops.foldl HostOp.apply m

@[simp] theorem run_nil (m : MemoryManager) : m.run [] = m := rfl

@[simp] theorem run_cons (m : MemoryManager) (op : HostOp) (ops : List HostOp) :
    m.run (op :: ops) = (op.apply m).run ops := rfl

theorem run_append (m : MemoryManager) (ops ops' : List HostOp) :
    m.run (ops ++ ops') = (m.run ops).run ops' := List.foldl_append ..

/--
**One call grows the manager, writes inside one allocation, or leaves it alone.**

What a call can do to the manager, once for all seven of them.  The last case
covers the reads and every refused call.
-/
theorem HostOp.apply_cases (m : MemoryManager) (op : HostOp) :
    (∃ len, m.Fits len ∧ op.apply m = m.grown len) ∨
    (∃ bytes, m.Fits bytes.length ∧
      op.apply m = (m.grown bytes.length).written m.memory.length bytes) ∨
    (∃ ptr offset data, m.Admits ptr offset data.length ∧
      op.apply m = m.written (ptr + offset) data) ∨
    op.apply m = m := by
  cases op with
  | alloc len =>
      by_cases h : m.Fits len
      · exact Or.inl ⟨len, h, by rw [apply, alloc_fits h]⟩
      · obtain ⟨e, he⟩ := alloc_refused h
        exact Or.inr (Or.inr (Or.inr (by rw [apply, he])))
  | addDataRaw bytes =>
      by_cases h : m.Fits bytes.length
      · exact Or.inr (Or.inl ⟨bytes, h, by rw [apply, addDataRaw_fits h]⟩)
      · obtain ⟨e, he⟩ := addDataRaw_refused h
        exact Or.inr (Or.inr (Or.inr (by rw [apply, he])))
  | writeBytes ptr data =>
      rcases m.writeBytes_cases ptr data with ⟨h, hok⟩ | ⟨-, e, he⟩
      · exact Or.inr (Or.inr (Or.inl ⟨ptr, 0, data, h, by rw [apply, hok, Nat.add_zero]⟩))
      · exact Or.inr (Or.inr (Or.inr (by rw [apply, he])))
  | writeBytesAt ptr offset data =>
      rcases m.writeBytesAt_cases ptr offset data with ⟨h, hok⟩ | ⟨-, e, he⟩
      · exact Or.inr (Or.inr (Or.inl ⟨ptr, offset, data, h, by rw [apply, hok]⟩))
      · exact Or.inr (Or.inr (Or.inr (by rw [apply, he])))
  | readData ptr => exact Or.inr (Or.inr (Or.inr rfl))
  | readBytes ptr len => exact Or.inr (Or.inr (Or.inr rfl))
  | getPointerLen ptr => exact Or.inr (Or.inr (Or.inr rfl))

/-! ### The stack of extents -/

/-- The tracked extents tile the memory, none is longer than the cap, and the total is in range. -/
structure Tiled (m : MemoryManager) : Prop where
  stacked : Stacked m.map.entries m.memory.length
  single : ∀ e ∈ m.map.entries, e.2 ≤ m.maxSingleAlloc
  total : m.memory.length ≤ m.maxTotalMemory
  addressable : m.memory.length ≤ usizeMax

theorem tiled_fromLimits (limits : WasmLimits) : (fromLimits limits).Tiled :=
  ⟨Stacked.nil, by simp [fromLimits], by simp [fromLimits], by simp [fromLimits]⟩

theorem Tiled.empty {m : MemoryManager} (hmem : m.memory = []) (hmap : m.map = ∅) : m.Tiled := by
  refine ⟨?_, ?_, ?_, ?_⟩
  · rw [hmem, hmap]
    exact Stacked.nil
  · rw [hmap]
    simp
  · rw [hmem]
    exact Nat.zero_le _
  · rw [hmem]
    exact Nat.zero_le _

/-- The end of the memory is not yet the start of an extent. -/
theorem Tiled.fresh {m : MemoryManager} (h : m.Tiled) : m.memory.length ∉ m.map :=
  h.stacked.fresh

theorem Tiled.grown {m : MemoryManager} (h : m.Tiled) {len : Nat} (hfits : m.Fits len) :
    (m.grown len).Tiled := by
  obtain ⟨hsingle, haddr, htotal⟩ := hfits
  have hlen : (m.memory ++ List.replicate len 0).length = m.memory.length + len := by simp
  rcases Nat.eq_zero_or_pos len with hz | hpos
  · subst hz
    have hsame : m.grown 0 = m := by simp [MemoryManager.grown]
    rw [hsame]
    exact h
  · have hentries : (m.grown len).map.entries = ⟨m.memory.length, len⟩ :: m.map.entries := by
      rw [grown_map m hpos, AList.entries_insert_of_notMem h.fresh]
    refine ⟨?_, ?_, ?_, ?_⟩
    · rw [hentries, grown_memory, hlen]
      exact h.stacked.push hpos
    · intro e he
      rw [hentries] at he
      rcases List.mem_cons.mp he with rfl | hold
      · exact hsingle
      · exact h.single e hold
    · rw [grown_memory, hlen]
      exact htotal
    · rw [grown_memory, hlen]
      exact haddr

theorem Tiled.written {m : MemoryManager} (h : m.Tiled) {start : Nat} {data : Bytes}
    (hin : start + data.length ≤ m.memory.length) : (m.written start data).Tiled := by
  have hlen : (m.written start data).memory.length = m.memory.length := length_patch hin
  refine ⟨?_, h.single, ?_, ?_⟩
  · rw [hlen]
    exact h.stacked
  · rw [hlen]
    exact h.total
  · rw [hlen]
    exact h.addressable

/-- One call keeps the tiling and the caps. -/
theorem Tiled.apply {m : MemoryManager} (h : m.Tiled) (op : HostOp) :
    (op.apply m).Tiled ∧ (op.apply m).maxSingleAlloc = m.maxSingleAlloc ∧
      (op.apply m).maxTotalMemory = m.maxTotalMemory := by
  rcases op.apply_cases m with ⟨len, hfits, heq⟩ | ⟨bytes, hfits, heq⟩ |
      ⟨ptr, offset, data, ⟨-, -, -, -, hin⟩, heq⟩ | heq
  · rw [heq]
    exact ⟨h.grown hfits, rfl, rfl⟩
  · rw [heq]
    exact ⟨(h.grown hfits).written (by simp), rfl, rfl⟩
  · rw [heq]
    exact ⟨h.written hin, rfl, rfl⟩
  · rw [heq]
    exact ⟨h, rfl, rfl⟩

/-- A run of calls keeps the tiling and the caps. -/
theorem Tiled.run : ∀ (ops : List HostOp) {m : MemoryManager}, m.Tiled →
    (m.run ops).Tiled ∧ (m.run ops).maxSingleAlloc = m.maxSingleAlloc ∧
      (m.run ops).maxTotalMemory = m.maxTotalMemory := by
  intro ops
  induction ops with
  | nil => intro m h; exact ⟨h, rfl, rfl⟩
  | cons op rest ih =>
      intro m h
      obtain ⟨hop, hsingle, htotal⟩ := h.apply op
      obtain ⟨hrun, hsingle', htotal'⟩ := ih hop
      exact ⟨hrun, hsingle'.trans hsingle, htotal'.trans htotal⟩

/-! ### What the tiling gives -/

theorem Tiled.lookup_mem {m : MemoryManager} {p n : Nat} (h : m.map.lookup p = some n) :
    (⟨p, n⟩ : Σ _ : ℕ, ℕ) ∈ m.map.entries :=
  AList.mem_lookup_iff.mp h

/-- A tracked extent is not empty and lies inside the memory. -/
theorem Tiled.lookup_bounds {m : MemoryManager} (h : m.Tiled) {p n : Nat}
    (hlook : m.map.lookup p = some n) : 0 < n ∧ p + n ≤ m.memory.length :=
  h.stacked.bounds _ (lookup_mem hlook)

/-- A tracked pointer reads as its own window. -/
theorem Tiled.readData {m : MemoryManager} (h : m.Tiled) {p n : Nat}
    (hlook : m.map.lookup p = some n) : m.readData p = .ok (slice m.memory p n) := by
  obtain ⟨-, hin⟩ := h.lookup_bounds hlook
  have haddr : p + n ≤ usizeMax := Nat.le_trans hin h.addressable
  unfold MemoryManager.readData
  rw [hlook]
  simp only [checkedAdd_of_le haddr]
  rw [if_neg (by omega), Nat.add_sub_cancel_left]

theorem readData_untracked {m : MemoryManager} {p : Nat} (h : m.map.lookup p = none) :
    m.readData p = .error (.invalidPointer p) := by
  unfold MemoryManager.readData
  rw [h]

/-- A window inside the memory is read as it stands. -/
theorem readBytes_of_le {m : MemoryManager} {p n : Nat} (haddr : p + n ≤ usizeMax)
    (hin : p + n ≤ m.memory.length) : m.readBytes p n = .ok (slice m.memory p n) := by
  unfold MemoryManager.readBytes
  rw [checkedAdd_of_le haddr]
  simp only
  rw [if_neg (by omega), Nat.add_sub_cancel_left]

theorem getPointerLen_tracked {m : MemoryManager} {p n : Nat} (h : m.map.lookup p = some n) :
    m.getPointerLen p = usizeAsIsize n := by
  unfold MemoryManager.getPointerLen
  rw [h]

/-- The representation invariant, as a client of the manager can use it. -/
structure Sound (limits : WasmLimits) (m : MemoryManager) : Prop where
  /-- No tracked extent is empty or longer than the cap. -/
  sizes : ∀ e ∈ m.map.entries, 0 < e.2 ∧ e.2 ≤ limits.maxSingleAlloc
  /-- Two tracked extents share no address. -/
  disjoint : ∀ e ∈ m.map.entries, ∀ e' ∈ m.map.entries, e ≠ e' →
    e.1 + e.2 ≤ e'.1 ∨ e'.1 + e'.2 ≤ e.1
  /-- Together they are the memory, with no gap. -/
  tiles : ∀ x, x < m.memory.length ↔ ∃ e ∈ m.map.entries, Covers e x
  sum : (m.map.entries.map Sigma.snd).sum = m.memory.length
  count : m.map.entries.length ≤ m.memory.length
  total : m.memory.length ≤ limits.maxTotalMemory
  /-- Every pointer `alloc` hands out survives `usize -> u32 -> i32 -> usize`. -/
  pointerCast : ∀ len p, (m.alloc len).1 = .ok p → i32AsUsize (usizeAsU32 p) = p
  /-- So does every tracked pointer, and the length `pointer_len` answers for it. -/
  trackedCast : ∀ p n, m.map.lookup p = some n → i32AsUsize (usizeAsU32 p) = p ∧
    m.getPointerLen p = n ∧ i32AsUsize (isizeAsU32 (m.getPointerLen p)) = n
  /-- `read_data` fails exactly where nothing is tracked. -/
  reads : ∀ p, (∃ e, m.readData p = .error e) ↔ p ∉ m.map

/-- **The allocator keeps its representation invariant over every run of calls.** -/
theorem run_sound (ramMb cpuCores : UInt64) (ops : List HostOp) :
    Sound (WasmLimits.build ramMb cpuCores)
      ((fromLimits (WasmLimits.build ramMb cpuCores)).run ops) := by
  set limits := WasmLimits.build ramMb cpuCores with hlimits
  obtain ⟨htiled, hsingle, htotal⟩ := (tiled_fromLimits limits).run ops
  set m := (fromLimits limits).run ops with hm
  have hcap : m.memory.length ≤ limits.maxTotalMemory := by
    rw [show limits.maxTotalMemory = m.maxTotalMemory from htotal.symm]
    exact htiled.total
  -- The whole memory is far below `i32::MAX`, so nothing handed out is ever negative.
  have hsmall : m.memory.length ≤ 24 * 1024 * 1024 :=
    Nat.le_trans hcap (WasmLimits.build_maxTotalMemory_le ramMb cpuCores)
  refine ⟨?_, htiled.stacked.disjoint, ?_, htiled.stacked.sum, htiled.stacked.count_le, hcap,
    ?_, ?_, ?_⟩
  · intro e he
    refine ⟨(htiled.stacked.bounds e he).1, ?_⟩
    rw [show limits.maxSingleAlloc = m.maxSingleAlloc from hsingle.symm]
    exact htiled.single e he
  · intro x
    refine ⟨htiled.stacked.cover x, ?_⟩
    rintro ⟨e, he, -, hhi⟩
    exact Nat.lt_of_lt_of_le hhi (htiled.stacked.bounds e he).2
  · intro len p hp
    have hpm : m.alloc len = (.ok p, (m.alloc len).2) := Prod.ext hp rfl
    obtain ⟨-, hpeq, -⟩ := alloc_ok hpm
    rw [hpeq]
    exact i32AsUsize_usizeAsU32 (by unfold i32Max; omega)
  · intro p n hlook
    obtain ⟨hpos, hin⟩ := htiled.lookup_bounds hlook
    have hlen : m.getPointerLen p = n := by
      rw [getPointerLen_tracked hlook, usizeAsIsize_of_lt (by omega)]
    refine ⟨i32AsUsize_usizeAsU32 (by unfold i32Max; omega), hlen, ?_⟩
    rw [hlen, isizeAsU32_natCast]
    exact i32AsUsize_usizeAsU32 (by unfold i32Max; omega)
  · intro p
    constructor
    · rintro ⟨e, he⟩ hmem
      obtain ⟨n, hn⟩ := Option.isSome_iff_exists.mp (AList.lookup_isSome.mpr hmem)
      rw [htiled.readData hn] at he
      simp at he
    · intro hmem
      exact ⟨_, readData_untracked (AList.lookup_eq_none.mpr hmem)⟩

end MemoryManager

end Ave
