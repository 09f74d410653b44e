/-
What a host call can do.

Each import is a chain of checks — the length, the host's range, the export, the
guest's range — and then one effect.  The spec lemma of an import says it in one
disjunction: every check passed and this is the effect, or one did not and the
store is as it was.  The local cap is kept apart from the other checks, since it
is the only one two nodes can answer differently.

From the spec lemmas comes the result the file is for: a refused call is atomic,
and a granted one changes only what it names.
-/
import AveContract.Proofs.Staging

namespace Ave

open Slice

/-! ### The length a guest gives -/

/-- A length from the guest is not negative and within the cap, or it is refused. -/
theorem checkedGuestLen_cases (len : Word) (cap : Nat) :
    (0 ≤ len.toInt ∧ i32AsUsize len ≤ cap ∧ checkedGuestLen len cap = .ok (i32AsUsize len)) ∨
      (¬(0 ≤ len.toInt ∧ i32AsUsize len ≤ cap) ∧ ∃ e, checkedGuestLen len cap = .error e) := by
  unfold checkedGuestLen
  by_cases hneg : len.toInt < 0
  · rw [if_pos hneg]
    exact Or.inr ⟨fun h => absurd h.1 (by omega), _, rfl⟩
  · rw [if_neg hneg]
    by_cases hcap : i32AsUsize len > cap
    · exact Or.inr ⟨fun h => absurd h.2 (by omega), _, if_pos hcap⟩
    · exact Or.inl ⟨by omega, by omega, if_neg hcap⟩

/-- `readBytes` answers exactly the ranges inside the memory. -/
theorem MemoryManager.readBytes_cases (m : MemoryManager) (ptr len : Nat) :
    (ptr + len ≤ usizeMax ∧ ptr + len ≤ m.memory.length ∧
        m.readBytes ptr len = .ok (slice m.memory ptr len)) ∨
      (¬(ptr + len ≤ usizeMax ∧ ptr + len ≤ m.memory.length) ∧
        ∃ e, m.readBytes ptr len = .error e) := by
  by_cases h : ptr + len ≤ usizeMax ∧ ptr + len ≤ m.memory.length
  · exact Or.inl ⟨h.1, h.2, readBytes_of_le h.1 h.2⟩
  · refine Or.inr ⟨h, ?_⟩
    unfold MemoryManager.readBytes
    by_cases haddr : ptr + len ≤ usizeMax
    · rw [checkedAdd_of_le haddr]
      simp only
      rw [if_pos (by omega)]
      exact ⟨_, rfl⟩
    · rw [checkedAdd, if_neg haddr]
      exact ⟨_, rfl⟩

namespace Env

/-- Every check of `read_bytes` but the cap. -/
def Readable (c : Caller) (srcPtr dstPtr len : Word) : Prop :=
  0 ≤ len.toInt ∧ i32AsUsize srcPtr + i32AsUsize len ≤ usizeMax ∧
    i32AsUsize srcPtr + i32AsUsize len ≤ c.data.memory.length ∧ c.memoryExport = true ∧
    i32AsUsize dstPtr + i32AsUsize len ≤ c.memory.length

/-- Every check of `write_bytes` but the cap. -/
def Writable (c : Caller) (dstPtr srcPtr len : Word) : Prop :=
  0 ≤ len.toInt ∧ c.memoryExport = true ∧
    i32AsUsize srcPtr + i32AsUsize len ≤ c.memory.length ∧
    c.data.Admits (i32AsUsize dstPtr) 0 (i32AsUsize len)

/-- The guest's memory after a granted `read_bytes`. -/
def received (c : Caller) (srcPtr dstPtr len : Word) : Caller :=
  { c with
    memory :=
      patch c.memory (i32AsUsize dstPtr)
        (slice c.data.memory (i32AsUsize srcPtr) (i32AsUsize len)) }

/-- The host's memory after a granted `write_bytes`. -/
def sent (c : Caller) (dstPtr srcPtr len : Word) : Caller :=
  { c with
    data :=
      c.data.written (i32AsUsize dstPtr) (slice c.memory (i32AsUsize srcPtr) (i32AsUsize len)) }

/-! ### The spec lemmas -/

/-- **`alloc` is granted at the end of the memory, or changes nothing.** -/
theorem alloc_cases (c : Caller) (len : Word) :
    (c.data.Fits len.toNat ∧
        alloc c len =
          (.ok (usizeAsU32 c.data.memory.length), { c with data := c.data.grown len.toNat })) ∨
      (¬c.data.Fits len.toNat ∧
        ∃ e : WasmError, e.downcastTrap = none ∧ alloc c len = (.error e, c)) := by
  unfold alloc
  by_cases h : c.data.Fits len.toNat
  · rw [u32AsUsize, MemoryManager.alloc_fits h]
    exact Or.inl ⟨h, rfl⟩
  · obtain ⟨e, he⟩ := MemoryManager.alloc_refused h
    rw [u32AsUsize, he]
    exact Or.inr ⟨h, _, rfl, rfl⟩

/-- The copy `read_bytes` makes is as long as the guest asked, within the cap. -/
theorem readBytesTemp_cases (c : Caller) (srcPtr len : Word) :
    ((0 ≤ len.toInt ∧ i32AsUsize len ≤ c.data.maxSingleAlloc) ∧
        (i32AsUsize srcPtr + i32AsUsize len ≤ usizeMax ∧
          i32AsUsize srcPtr + i32AsUsize len ≤ c.data.memory.length) ∧
        readBytesTemp c srcPtr len =
          .ok (slice c.data.memory (i32AsUsize srcPtr) (i32AsUsize len))) ∨
      (¬((0 ≤ len.toInt ∧ i32AsUsize len ≤ c.data.maxSingleAlloc) ∧
          (i32AsUsize srcPtr + i32AsUsize len ≤ usizeMax ∧
            i32AsUsize srcPtr + i32AsUsize len ≤ c.data.memory.length)) ∧
        ∃ e : WasmError, e.downcastTrap = none ∧ readBytesTemp c srcPtr len = .error e) := by
  unfold readBytesTemp
  rcases checkedGuestLen_cases len c.data.maxSingleAlloc with ⟨hneg, hcap, hok⟩ | ⟨hno, e, he⟩
  · rw [hok]
    simp only
    rcases c.data.readBytes_cases (i32AsUsize srcPtr) (i32AsUsize len) with
      ⟨haddr, hin, hok'⟩ | ⟨hno, e, he⟩
    · rw [hok']
      exact Or.inl ⟨⟨hneg, hcap⟩, ⟨haddr, hin⟩, rfl⟩
    · rw [he]
      exact Or.inr ⟨fun h => hno h.2, _, rfl, rfl⟩
  · rw [he]
    exact Or.inr ⟨fun h => hno h.1, _, rfl, rfl⟩

/-- **`read_bytes` copies the window it names into the guest, or changes nothing.** -/
theorem readBytes_cases (c : Caller) (srcPtr dstPtr len : Word) :
    ((i32AsUsize len ≤ c.data.maxSingleAlloc ∧ Readable c srcPtr dstPtr len) ∧
        readBytes c srcPtr dstPtr len = (.ok (), received c srcPtr dstPtr len)) ∨
      (¬(i32AsUsize len ≤ c.data.maxSingleAlloc ∧ Readable c srcPtr dstPtr len) ∧
        ∃ e : WasmError, e.downcastTrap = none ∧ readBytes c srcPtr dstPtr len = (.error e, c)) := by
  unfold readBytes
  rcases readBytesTemp_cases c srcPtr len with ⟨⟨hneg, hcap⟩, ⟨haddr, hin⟩, hok⟩ | ⟨hno, e, hd, he⟩
  · rw [hok]
    simp only
    by_cases hexp : c.memoryExport = true
    · rw [Caller.exportedMemory, if_pos hexp]
      simp only
      have hlen : (slice c.data.memory (i32AsUsize srcPtr) (i32AsUsize len)).length
          = i32AsUsize len := length_slice_of_le hin
      by_cases hdst : i32AsUsize dstPtr + i32AsUsize len ≤ c.memory.length
      · rw [memoryWrite, if_pos (by omega)]
        exact Or.inl ⟨⟨hcap, hneg, haddr, hin, hexp, hdst⟩, rfl⟩
      · rw [memoryWrite, if_neg (by omega)]
        exact Or.inr ⟨fun h => hdst h.2.2.2.2.2, _, rfl, rfl⟩
    · rw [Caller.exportedMemory, if_neg hexp]
      exact Or.inr ⟨fun h => hexp h.2.2.2.2.1, _, rfl, rfl⟩
  · rw [he]
    refine Or.inr ⟨?_, e, hd, rfl⟩
    rintro ⟨hcap, hneg, haddr, hin, -, -⟩
    exact hno ⟨⟨hneg, hcap⟩, haddr, hin⟩

/-- The buffer `write_bytes` makes is as long as the guest asked, within the cap. -/
theorem writeBytesTemp_cases (c : Caller) (len : Word) :
    ((0 ≤ len.toInt ∧ i32AsUsize len ≤ c.data.maxSingleAlloc ∧ c.memoryExport = true) ∧
        writeBytesTemp c len = .ok (List.replicate (i32AsUsize len) 0)) ∨
      (¬(0 ≤ len.toInt ∧ i32AsUsize len ≤ c.data.maxSingleAlloc ∧ c.memoryExport = true) ∧
        ∃ e : WasmError, e.downcastTrap = none ∧ writeBytesTemp c len = .error e) := by
  unfold writeBytesTemp
  rcases checkedGuestLen_cases len c.data.maxSingleAlloc with ⟨hneg, hcap, hok⟩ | ⟨hno, e, he⟩
  · rw [hok]
    simp only
    by_cases hexp : c.memoryExport = true
    · rw [Caller.exportedMemory, if_pos hexp]
      exact Or.inl ⟨⟨hneg, hcap, hexp⟩, rfl⟩
    · rw [Caller.exportedMemory, if_neg hexp]
      exact Or.inr ⟨fun h => hexp h.2.2, _, rfl, rfl⟩
  · rw [he]
    exact Or.inr ⟨fun h => hno ⟨h.1, h.2.1⟩, _, rfl, rfl⟩

/-- **`write_bytes` copies the window it names into one allocation, or changes nothing.** -/
theorem writeBytes_cases (c : Caller) (dstPtr srcPtr len : Word) :
    ((i32AsUsize len ≤ c.data.maxSingleAlloc ∧ Writable c dstPtr srcPtr len) ∧
        writeBytes c dstPtr srcPtr len = (.ok (), sent c dstPtr srcPtr len)) ∨
      (¬(i32AsUsize len ≤ c.data.maxSingleAlloc ∧ Writable c dstPtr srcPtr len) ∧
        ∃ e : WasmError, e.downcastTrap = none ∧
          writeBytes c dstPtr srcPtr len = (.error e, c)) := by
  unfold writeBytes
  rcases writeBytesTemp_cases c len with ⟨⟨hneg, hcap, hexp⟩, hok⟩ | ⟨hno, e, hd, he⟩
  · rw [hok]
    simp only [List.length_replicate]
    by_cases hsrc : i32AsUsize srcPtr + i32AsUsize len ≤ c.memory.length
    · rw [memoryRead, if_pos hsrc]
      simp only
      have hlen : (slice c.memory (i32AsUsize srcPtr) (i32AsUsize len)).length
          = i32AsUsize len := length_slice_of_le hsrc
      rcases c.data.writeBytes_cases (i32AsUsize dstPtr)
          (slice c.memory (i32AsUsize srcPtr) (i32AsUsize len)) with ⟨hadm, hok'⟩ | ⟨hno, e, he⟩
      · rw [hok']
        rw [hlen] at hadm
        exact Or.inl ⟨⟨hcap, hneg, hexp, hsrc, hadm⟩, rfl⟩
      · rw [he]
        rw [hlen] at hno
        exact Or.inr ⟨fun h => hno h.2.2.2.2, _, rfl, rfl⟩
    · rw [memoryRead, if_neg hsrc]
      exact Or.inr ⟨fun h => hsrc h.2.2.2.1, _, rfl, rfl⟩
  · rw [he]
    refine Or.inr ⟨?_, e, hd, rfl⟩
    rintro ⟨hcap, hneg, hexp, -, -⟩
    exact hno ⟨hneg, hcap, hexp⟩

end Env

/-! ### Refused calls are atomic, granted ones do only what they name -/

/-- `after` is `before` with the `len` bytes from `dst` on taken from `source`, and no other byte
changed. -/
structure Copied (before after source : Bytes) (dst src len : Nat) : Prop where
  inSource : src + len ≤ source.length
  inTarget : dst + len ≤ before.length
  bytes : ∀ i, after[i]? =
    if dst ≤ i ∧ i < dst + len then source[src + (i - dst)]? else before[i]?

/-- A window of one memory written into another is a copy. -/
theorem copied_patch {before source : Bytes} {dst src len : Nat} (hsrc : src + len ≤ source.length)
    (hdst : dst + len ≤ before.length) :
    Copied before (patch before dst (slice source src len)) source dst src len := by
  have hlen : (slice source src len).length = len := length_slice_of_le hsrc
  refine ⟨hsrc, hdst, ?_⟩
  intro i
  rw [getElem?_patch (by omega), hlen, getElem?_slice]
  by_cases hi : dst ≤ i ∧ i < dst + len
  · rw [if_pos hi, if_pos hi, if_pos (by omega)]
  · rw [if_neg hi, if_neg hi]

/-- What a refusal is: the store is as it was, and no refusal is taken for a run out of fuel. -/
structure RefusedAt (s s' : Store) (e : WasmError) : Prop where
  unchanged : s' = s
  notDry : e.downcastTrap ≠ some .outOfFuel

/-- A host function's refusal is one. -/
theorem RefusedAt.of_host {α : Type} {s s' : Store} {e e' : WasmError}
    (hd : e'.downcastTrap = none)
    (h : ((.error e', s) : Except WasmError α × Store) = (.error e, s')) : RefusedAt s s' e := by
  obtain ⟨he, hs⟩ := Prod.mk.inj h
  obtain rfl := Except.error.inj he
  exact ⟨hs.symm, by simp [hd]⟩

/-- **A refused request changed nothing**, and none is a run out of fuel. -/
theorem exec_error {op : Instr} {s s' : Store} {e : WasmError}
    (h : exec op s = (.error e, s')) : RefusedAt s s' e := by
  cases op with
  | compute => simp [exec] at h
  | load addr len =>
      rw [exec] at h
      split at h
      · simp at h
      · obtain ⟨he, hs⟩ := Prod.mk.inj h
        obtain rfl := Except.error.inj he
        exact ⟨hs.symm, by decide⟩
  | store addr bytes =>
      rw [exec] at h
      split at h
      · simp at h
      · obtain ⟨he, hs⟩ := Prod.mk.inj h
        obtain rfl := Except.error.inj he
        exact ⟨hs.symm, by decide⟩
  | memoryGrow delta =>
      simp only [exec] at h
      split at h
      · simp at h
      · split at h
        · exact .of_host rfl h
        · simp at h
  | pointerLen pointer => simp [exec] at h
  | alloc len =>
      rcases Env.alloc_cases s.toCaller len with ⟨-, hok⟩ | ⟨-, e', hd, he⟩
      · simp [exec, hok] at h
      · rw [exec, he] at h
        exact .of_host hd h
  | readBytes srcPtr dstPtr len =>
      rcases Env.readBytes_cases s.toCaller srcPtr dstPtr len with ⟨-, hok⟩ | ⟨-, e', hd, he⟩
      · simp [exec, hok] at h
      · rw [exec, he] at h
        exact .of_host hd h
  | writeBytes dstPtr srcPtr len =>
      rcases Env.writeBytes_cases s.toCaller dstPtr srcPtr len with ⟨-, hok⟩ | ⟨-, e', hd, he⟩
      · simp [exec, hok] at h
      · rw [exec, he] at h
        exact .of_host hd h

/-- A request that was refused left the store as it was. -/
theorem exec_refused {op : Instr} {s s' : Store} {e : WasmError}
    (h : exec op s = (.error e, s')) : s' = s := (exec_error h).unchanged

/-- Staging that was refused left the manager as it was. -/
theorem writeContractData_error {m m' : MemoryManager} {data : ContractData} {e : RuntimeError}
    (h : writeContractData m data = (.error e, m')) : m' = m := by
  rcases writeContractData_cases m data with ⟨-, -, hok⟩ | ⟨e', he⟩
  · rw [hok] at h
    simp at h
  · rw [he] at h
    exact (Prod.mk.inj h).2.symm

/-- What a granted host call changed, and that it changed nothing else. -/
structure Granted (s : Store) : Prop where
  pointerLen : ∀ pointer w s', exec (.pointerLen pointer) s = (.ok w, s') → s' = s
  alloc : ∀ len w s', exec (.alloc len) s = (.ok w, s') →
    s' = { s with data := s.data.grown len.toNat } ∧
      s'.data.memory = s.data.memory ++ List.replicate len.toNat 0
  readBytes : ∀ srcPtr dstPtr len u s', exec (.readBytes srcPtr dstPtr len) s = (.ok u, s') →
    s' = { s with memory := s'.memory } ∧
      Copied s.memory s'.memory s.data.memory (i32AsUsize dstPtr) (i32AsUsize srcPtr) len.toNat
  writeBytes : ∀ dstPtr srcPtr len u s', exec (.writeBytes dstPtr srcPtr len) s = (.ok u, s') →
    s' = { s with data := { s.data with memory := s'.data.memory } } ∧
      Copied s.data.memory s'.data.memory s.memory (i32AsUsize dstPtr) (i32AsUsize srcPtr)
        len.toNat ∧
      ∃ size, s.data.map.lookup (i32AsUsize dstPtr) = some size ∧ len.toNat ≤ size

/-- A length that is not negative is the number the guest meant. -/
theorem i32AsUsize_of_nonneg {len : Word} (h : 0 ≤ len.toInt) : i32AsUsize len = len.toNat := by
  refine i32AsUsize_of_lt ?_
  have hlt := len.isLt
  rw [BitVec.toInt_eq_toNat_cond] at h
  unfold i32Max
  split at h <;> omega

theorem exec_granted (s : Store) : Granted s := by
  refine ⟨?_, ?_, ?_, ?_⟩
  · intro pointer w s' h
    exact (Prod.mk.inj h).2.symm
  · intro len w s' h
    rcases Env.alloc_cases s.toCaller len with ⟨-, hok⟩ | ⟨-, e, -, he⟩
    · rw [exec, hok] at h
      obtain rfl := (Prod.mk.inj h).2
      exact ⟨rfl, rfl⟩
    · simp [exec, he] at h
  · intro srcPtr dstPtr len u s' h
    rcases Env.readBytes_cases s.toCaller srcPtr dstPtr len with
      ⟨⟨-, hneg, -, hsrc, -, hdst⟩, hok⟩ | ⟨-, e, -, he⟩
    · rw [exec, hok] at h
      obtain rfl := (Prod.mk.inj h).2
      rw [← i32AsUsize_of_nonneg hneg]
      exact ⟨rfl, copied_patch hsrc hdst⟩
    · simp [exec, he] at h
  · intro dstPtr srcPtr len u s' h
    rcases Env.writeBytes_cases s.toCaller dstPtr srcPtr len with
      ⟨⟨-, hneg, -, hsrc, size, hlook, hsize, -, hdst⟩, hok⟩ | ⟨-, e, -, he⟩
    · rw [exec, hok] at h
      obtain rfl := (Prod.mk.inj h).2
      rw [← i32AsUsize_of_nonneg hneg]
      exact ⟨rfl, copied_patch hsrc (by omega), size, hlook, by omega⟩
    · simp [exec, he] at h

/-- What an answered request leaves of the guest's memory: it does not shrink, and grows only
within the store's limit. -/
structure Kept (s t : Store) : Prop where
  exported : t.memoryExport = s.memoryExport
  grows : s.memory.length ≤ t.memory.length
  limit : t.memory.length ≤ max s.memory.length s.data.storeLimits.memorySize

theorem Kept.of_length {s t : Store} (hexp : t.memoryExport = s.memoryExport)
    (hlen : t.memory.length = s.memory.length) : Kept s t :=
  ⟨hexp, Nat.le_of_eq hlen.symm, hlen ▸ Nat.le_max_left _ _⟩

/-- What a granted store did to the guest's memory. -/
theorem exec_store_ok {s t : Store} {addr : Nat} {bytes : Bytes} {u : Unit}
    (h : exec (.store addr bytes) s = (.ok u, t)) :
    addr + bytes.length ≤ s.memory.length ∧ t = { s with memory := patch s.memory addr bytes } := by
  rw [exec] at h
  split at h
  · rename_i hin
    exact ⟨hin, (Prod.mk.inj h).2.symm⟩
  · simp at h

/-- What a granted load gave. -/
theorem exec_load_ok {s t : Store} {addr len : Nat} {bytes : Bytes}
    (h : exec (.load addr len) s = (.ok bytes, t)) : bytes = slice s.memory addr len ∧ t = s := by
  rw [exec] at h
  split at h
  · obtain ⟨hb, ht⟩ := Prod.mk.inj h
    exact ⟨(Except.ok.inj hb).symm, ht.symm⟩
  · simp at h

/-- A growth that was answered happened within the limits, or was refused without a trap. -/
theorem exec_memoryGrow_ok {s t : Store} {delta : Nat} {pages : Int}
    (h : exec (.memoryGrow delta) s = (.ok pages, t)) :
    (s.data.storeLimits.memoryGrowing (s.memory.length + delta * wasmPageBytes) s.maximum = true ∧
        t = { s with memory := s.memory ++ List.replicate (delta * wasmPageBytes) 0 }) ∨
      t = s := by
  simp only [exec] at h
  split at h
  · rename_i hgrow
    exact Or.inl ⟨hgrow, (Prod.mk.inj h).2.symm⟩
  · split at h
    · simp at h
    · exact Or.inr (Prod.mk.inj h).2.symm

theorem exec_kept {op : Instr} {s t : Store} {a : op.Answer} (h : exec op s = (.ok a, t)) :
    Kept s t := by
  cases op with
  | compute =>
      obtain rfl := (Prod.mk.inj h).2
      exact .of_length rfl rfl
  | load addr len =>
      obtain ⟨-, rfl⟩ := exec_load_ok h
      exact .of_length rfl rfl
  | store addr bytes =>
      obtain ⟨hin, rfl⟩ := exec_store_ok h
      exact .of_length rfl (length_patch hin)
  | memoryGrow delta =>
      rcases exec_memoryGrow_ok h with ⟨hgrow, rfl⟩ | rfl
      · rw [StoreLimits.memoryGrowing, Bool.and_eq_true, decide_eq_true_iff] at hgrow
        have hlen : (s.memory ++ List.replicate (delta * wasmPageBytes) 0).length
            = s.memory.length + delta * wasmPageBytes := by
          rw [List.length_append, List.length_replicate]
        refine ⟨rfl, ?_, ?_⟩
        · show s.memory.length ≤ (s.memory ++ List.replicate (delta * wasmPageBytes) 0).length
          omega
        · show (s.memory ++ List.replicate (delta * wasmPageBytes) 0).length ≤ _
          rw [hlen]
          exact Nat.le_trans hgrow.1 (Nat.le_max_right _ _)
      · exact .of_length rfl rfl
  | pointerLen pointer =>
      obtain rfl := (Prod.mk.inj h).2
      exact .of_length rfl rfl
  | alloc len =>
      obtain ⟨rfl, -⟩ := (exec_granted s).alloc len a t h
      exact .of_length rfl rfl
  | readBytes srcPtr dstPtr len =>
      rcases Env.readBytes_cases s.toCaller srcPtr dstPtr len with
        ⟨⟨-, -, -, hsrc, -, hdst⟩, hok⟩ | ⟨-, e, -, he⟩
      · rw [exec, hok] at h
        obtain rfl := (Prod.mk.inj h).2
        exact .of_length rfl (length_patch (by rw [length_slice_of_le hsrc]; exact hdst))
      · simp [exec, he] at h
  | writeBytes dstPtr srcPtr len =>
      obtain ⟨ht, -⟩ := (exec_granted s).writeBytes dstPtr srcPtr len a t h
      rw [ht]
      exact .of_length rfl rfl

/--
**A host call is atomic and bounded.**

Whatever the store and the arguments: a refused request changed neither the host's
memory, nor the allocation map, nor the guest's memory, and so for a payload that
was not staged; a granted one changed what it names and nothing else; and no
buffer made on the way is longer than the cap.
-/
theorem host_calls_atomic (s : Store) :
    (∀ op e s', exec op s = (.error e, s') → s' = s) ∧
    (∀ data e m', writeContractData s.data data = (.error e, m') → m' = s.data) ∧
    Granted s ∧
    (∀ srcPtr len bytes, Env.readBytesTemp s.toCaller srcPtr len = .ok bytes →
      bytes.length ≤ s.data.maxSingleAlloc) ∧
    (∀ len buf, Env.writeBytesTemp s.toCaller len = .ok buf →
      buf.length ≤ s.data.maxSingleAlloc) := by
  refine ⟨fun op e s' h => exec_refused h, fun data e m' h => writeContractData_error h,
    exec_granted s, ?_, ?_⟩
  · intro srcPtr len bytes h
    rcases Env.readBytesTemp_cases s.toCaller srcPtr len with
      ⟨⟨-, hcap⟩, ⟨-, hin⟩, hok⟩ | ⟨-, e, -, he⟩
    · rw [hok, Except.ok.injEq] at h
      rw [← h, length_slice_of_le hin]
      exact hcap
    · simp [he] at h
  · intro len buf h
    rcases Env.writeBytesTemp_cases s.toCaller len with ⟨⟨-, hcap, -⟩, hok⟩ | ⟨-, e, -, he⟩
    · rw [hok, Except.ok.injEq] at h
      rw [← h, List.length_replicate]
      exact hcap
    · simp [he] at h

end Ave
