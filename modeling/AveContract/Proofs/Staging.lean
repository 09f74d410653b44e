/-
Staging: how the inputs get into the host's memory.

`write_contract_data` allocates first and writes twice after, so on paper it has
three places to fail and two of them leave an allocation behind.  It has one.
Once the allocation is granted the header and the payload fit it exactly, and
neither write can be refused: a payload is staged whole or not at all.

What staging does to a manager depends on its caps in one way only, whether the
allocation fits.  The bytes and the pointer it leaves do not depend on them.
-/
import AveContract.Proofs.Allocator
import AveContract.Runtime.ContractRuntime

namespace Ave

open Slice Borsh

namespace MemoryManager

/-- The manager after a payload was staged: its framed bytes at the end, and tracked. -/
def staged (m : MemoryManager) (payload : Bytes) : MemoryManager :=
  { m with
    memory := m.memory ++ (le32 payload.length ++ payload)
    map := m.map.insert m.memory.length (4 + payload.length) }

/-- The frame a payload takes up. -/
theorem length_staged (m : MemoryManager) (payload : Bytes) :
    (m.staged payload).memory.length = m.memory.length + (4 + payload.length) := by
  simp [staged]

/-- Zeroed room, the header over its start and the payload over the rest, is the frame. -/
theorem grown_written_frame (m : MemoryManager) (payload : Bytes) :
    ((m.grown (4 + payload.length)).written (m.memory.length + 0)
      (le32 payload.length)).written (m.memory.length + 4) payload = m.staged payload := by
  have hhead : patch (List.replicate (4 + payload.length) (0 : UInt8)) 0 (le32 payload.length)
      = le32 payload.length ++ List.replicate payload.length 0 := by
    simp [patch]
  have hbody : patch (le32 payload.length ++ List.replicate payload.length (0 : UInt8)) 4 payload
      = le32 payload.length ++ payload := by
    have h := patch_append_right (le32 payload.length) (List.replicate payload.length (0 : UInt8))
      payload 0
    rw [length_le32, Nat.add_zero, patch_full (by simp)] at h
    exact h
  have hmemory : (((m.grown (4 + payload.length)).written (m.memory.length + 0)
      (le32 payload.length)).written (m.memory.length + 4) payload).memory
        = m.memory ++ (le32 payload.length ++ payload) := by
    rw [written_memory, written_memory, grown_memory, patch_append_right, hhead,
      patch_append_right, hbody]
  have hmap : (m.grown (4 + payload.length)).map
      = m.map.insert m.memory.length (4 + payload.length) := grown_map m (by omega)
  simp only [written, grown, staged, mk.injEq] at hmemory hmap ⊢
  exact ⟨hmemory, hmap, trivial, trivial, trivial⟩

/-- Staging is an allocation and a write over all of it. -/
theorem staged_eq (m : MemoryManager) (payload : Bytes) :
    m.staged payload = (m.grown (le32 payload.length ++ payload).length).written m.memory.length
      (le32 payload.length ++ payload) := by
  have hlen : (le32 payload.length ++ payload).length = 4 + payload.length := by simp
  have hpatch := patch_append_right m.memory (List.replicate (4 + payload.length) (0 : UInt8))
    (le32 payload.length ++ payload) 0
  rw [Nat.add_zero, patch_full (by simp)] at hpatch
  rw [hlen]
  simp only [written, grown, staged, mk.injEq]
  exact ⟨hpatch.symm, (if_pos (by omega)).symm, trivial, trivial, trivial⟩

theorem Tiled.staged {m : MemoryManager} (h : m.Tiled) {payload : Bytes}
    (hfits : m.Fits (4 + payload.length)) : (m.staged payload).Tiled := by
  have hlen : (le32 payload.length ++ payload).length = 4 + payload.length := by simp
  rw [staged_eq, hlen]
  exact (h.grown hfits).written (by simp)

end MemoryManager

open MemoryManager

/-- **A payload that fits is staged whole.**  Neither write after the allocation is refused. -/
theorem writeContractData_fits {m : MemoryManager} {data : ContractData}
    (hlen : data.bytes.length ≤ u32Max) (hfits : m.Fits (4 + data.bytes.length)) :
    writeContractData m data = (.ok (usizeAsU32 m.memory.length), m.staged data.bytes) := by
  have haddr : m.memory.length + (4 + data.bytes.length) ≤ usizeMax := hfits.2.1
  have hlook : (m.grown (4 + data.bytes.length)).map.lookup m.memory.length
      = some (4 + data.bytes.length) := by
    rw [grown_map m (by omega), AList.lookup_insert]
  have hsize : (m.grown (4 + data.bytes.length)).memory.length
      = m.memory.length + (4 + data.bytes.length) := by simp
  have hhead : (m.grown (4 + data.bytes.length)).Admits m.memory.length 0
      (le32 data.bytes.length).length :=
    ⟨4 + data.bytes.length, hlook, by rw [length_le32]; omega, by rw [length_le32]; omega,
      by rw [length_le32]; omega⟩
  have hhead_len : ((m.grown (4 + data.bytes.length)).written (m.memory.length + 0)
      (le32 data.bytes.length)).memory.length = m.memory.length + (4 + data.bytes.length) := by
    rw [written_memory, length_patch (by rw [length_le32]; omega), hsize]
  have hbody : ((m.grown (4 + data.bytes.length)).written (m.memory.length + 0)
      (le32 data.bytes.length)).Admits m.memory.length 4 data.bytes.length :=
    ⟨4 + data.bytes.length, hlook, by omega, by omega, by omega⟩
  unfold writeContractData
  simp only
  rw [if_pos hlen, alloc_fits hfits]
  simp only
  rcases (m.grown (4 + data.bytes.length)).writeBytesAt_cases m.memory.length 0
      (le32 data.bytes.length) with ⟨-, hok⟩ | ⟨hno, -⟩
  · rw [hok]
    simp only
    rcases ((m.grown (4 + data.bytes.length)).written (m.memory.length + 0)
        (le32 data.bytes.length)).writeBytesAt_cases m.memory.length 4 data.bytes
      with ⟨-, hok'⟩ | ⟨hno', -⟩
    · rw [hok']
      simp only
      rw [grown_written_frame]
    · exact absurd hbody hno'
  · exact absurd hhead hno

/-- **A payload over the caps is refused, and nothing is left behind.** -/
theorem writeContractData_refused {m : MemoryManager} {data : ContractData}
    (hlen : data.bytes.length ≤ u32Max) (hfits : ¬m.Fits (4 + data.bytes.length)) :
    ∃ details, writeContractData m data = (.error (.memoryAllocationFailed details), m) := by
  obtain ⟨e, he⟩ := alloc_refused hfits
  refine ⟨e.display, ?_⟩
  unfold writeContractData
  simp only
  rw [if_pos hlen, he]

/-- A payload too long for its own header is refused before anything is allocated. -/
theorem writeContractData_too_long {m : MemoryManager} {data : ContractData}
    (hlen : ¬data.bytes.length ≤ u32Max) :
    ∃ e, writeContractData m data = (.error e, m) := by
  unfold writeContractData
  simp only
  rw [if_neg hlen]
  exact ⟨_, rfl⟩

/-- **Staging a payload does all of it or nothing.** -/
theorem writeContractData_cases (m : MemoryManager) (data : ContractData) :
    (data.bytes.length ≤ u32Max ∧ m.Fits (4 + data.bytes.length) ∧
      writeContractData m data = (.ok (usizeAsU32 m.memory.length), m.staged data.bytes)) ∨
    ∃ e, writeContractData m data = (.error e, m) := by
  by_cases hlen : data.bytes.length ≤ u32Max
  · by_cases hfits : m.Fits (4 + data.bytes.length)
    · exact Or.inl ⟨hlen, hfits, writeContractData_fits hlen hfits⟩
    · obtain ⟨details, he⟩ := writeContractData_refused hlen hfits
      exact Or.inr ⟨_, he⟩
  · exact Or.inr (writeContractData_too_long hlen)

/-- A payload that was staged fits, and is held where the memory ended. -/
theorem writeContractData_ok {m m' : MemoryManager} {b : Bytes} {ptr : Word}
    (h : writeContractData m ⟨b⟩ = (.ok ptr, m')) :
    b.length ≤ u32Max ∧ m.Fits (4 + b.length) ∧ ptr = usizeAsU32 m.memory.length ∧
      m' = m.staged b := by
  rcases writeContractData_cases m ⟨b⟩ with ⟨hlen, hfits, hok⟩ | ⟨e, he⟩
  · rw [hok] at h
    obtain ⟨hptr, hm⟩ := Prod.mk.inj h
    exact ⟨hlen, hfits, (Except.ok.inj hptr).symm, hm.symm⟩
  · rw [he] at h
    simp at h

/-! ### Staging values -/

section Values

variable {V : Type} {ext : Externals V} {limits : WasmLimits}

/-- A value that serializes to `payload`, short enough for its header. -/
def Serializes (ext : Externals V) (value : V) (payload : Bytes) : Prop :=
  ext.json.toVec value = .ok payload ∧ payload.length ≤ u32Max

theorem Serializes.unique {value : V} {b b' : Bytes} (h : Serializes ext value b)
    (h' : Serializes ext value b') : b = b' := by
  have heq : (Except.ok b : Except String Bytes) = .ok b' := h.1.symm.trans h'.1
  exact Except.ok.inj heq

theorem stageValue_fits {m : MemoryManager} {value : V} {b : Bytes} (hb : Serializes ext value b)
    (hfits : m.Fits (4 + b.length)) :
    stageValue ext m value = .ok (usizeAsU32 m.memory.length, m.staged b) := by
  have hwrite : writeContractData m ⟨b⟩ = (.ok (usizeAsU32 m.memory.length), m.staged b) :=
    writeContractData_fits hb.2 hfits
  unfold stageValue valueToContractData
  rw [hb.1]
  simp only
  rw [hwrite]

theorem stageValue_refused {m : MemoryManager} {value : V} {b : Bytes}
    (hb : Serializes ext value b) (hfits : ¬m.Fits (4 + b.length)) :
    ∃ details, stageValue ext m value = .error (.memoryAllocationFailed details) := by
  obtain ⟨details, hd⟩ := writeContractData_refused hb.2 hfits
  refine ⟨details, ?_⟩
  unfold stageValue valueToContractData
  rw [hb.1]
  simp only
  rw [hd]

theorem stageValue_ok {m m' : MemoryManager} {value : V} {p : Word}
    (h : stageValue ext m value = .ok (p, m')) :
    ∃ b, Serializes ext value b ∧ m.Fits (4 + b.length) ∧ p = usizeAsU32 m.memory.length ∧
      m' = m.staged b := by
  unfold stageValue valueToContractData at h
  cases hb : ext.json.toVec value with
  | error e =>
      rw [hb] at h
      simp at h
  | ok b =>
      rw [hb] at h
      simp only at h
      split at h
      · simp at h
      · rename_i ptr context hwrite
        obtain ⟨hlen, hfits, hptr, hm⟩ := writeContractData_ok hwrite
        simp only [Except.ok.injEq, Prod.mk.injEq] at h
        exact ⟨b, ⟨hb, hlen⟩, hfits, h.1.symm.trans hptr, h.2.symm.trans hm⟩

/-- The three payloads are within the caps, one after the other. -/
structure Stageable (limits : WasmLimits) (b₁ b₂ b₃ : Bytes) : Prop where
  state : (fromLimits limits).Fits (4 + b₁.length)
  initState : ((fromLimits limits).staged b₁).Fits (4 + b₂.length)
  event : (((fromLimits limits).staged b₁).staged b₂).Fits (4 + b₃.length)

/-- The context that staging three payloads leaves. -/
def stagedContext (limits : WasmLimits) (b₁ b₂ b₃ : Bytes) : ExecutionContext where
  context := (((fromLimits limits).staged b₁).staged b₂).staged b₃
  statePtr := usizeAsU32 0
  initStatePtr := usizeAsU32 (4 + b₁.length)
  eventPtr := usizeAsU32 (4 + b₁.length + (4 + b₂.length))

variable {state initState event : V} {b₁ b₂ b₃ : Bytes}

/-- **Three payloads within the caps are staged one after the other.** -/
theorem generateExecutionContext_fits (h₁ : Serializes ext state b₁)
    (h₂ : Serializes ext initState b₂) (h₃ : Serializes ext event b₃)
    (h : Stageable limits b₁ b₂ b₃) :
    generateExecutionContext ext state initState event limits
      = .ok (stagedContext limits b₁ b₂ b₃) := by
  have hlen₁ : ((fromLimits limits).staged b₁).memory.length = 4 + b₁.length := by
    rw [length_staged]
    exact Nat.zero_add _
  have hlen₂ : (((fromLimits limits).staged b₁).staged b₂).memory.length
      = 4 + b₁.length + (4 + b₂.length) := by
    rw [length_staged, hlen₁]
  unfold generateExecutionContext
  rw [stageValue_fits h₁ h.state]
  simp only
  rw [stageValue_fits h₂ h.initState]
  simp only
  rw [stageValue_fits h₃ h.event]
  simp only
  rw [hlen₁, hlen₂]
  rfl

/-- **And where one is not, the shortfall is named as the host's memory.** -/
theorem generateExecutionContext_refused (h₁ : Serializes ext state b₁)
    (h₂ : Serializes ext initState b₂) (h₃ : Serializes ext event b₃)
    (h : ¬Stageable limits b₁ b₂ b₃) :
    ∃ details, generateExecutionContext ext state initState event limits
      = .error (.memoryAllocationFailed details) := by
  unfold generateExecutionContext
  by_cases hs : (fromLimits limits).Fits (4 + b₁.length)
  · rw [stageValue_fits h₁ hs]
    simp only
    by_cases hi : ((fromLimits limits).staged b₁).Fits (4 + b₂.length)
    · rw [stageValue_fits h₂ hi]
      simp only
      by_cases he : (((fromLimits limits).staged b₁).staged b₂).Fits (4 + b₃.length)
      · exact absurd ⟨hs, hi, he⟩ h
      · obtain ⟨details, hd⟩ := stageValue_refused h₃ he
        rw [hd]
        exact ⟨details, rfl⟩
    · obtain ⟨details, hd⟩ := stageValue_refused h₂ hi
      rw [hd]
      exact ⟨details, rfl⟩
  · obtain ⟨details, hd⟩ := stageValue_refused h₁ hs
    rw [hd]
    exact ⟨details, rfl⟩

/-- Nothing else is ever staged. -/
theorem generateExecutionContext_ok {staged : ExecutionContext}
    (h : generateExecutionContext ext state initState event limits = .ok staged) :
    ∃ b₁ b₂ b₃, Serializes ext state b₁ ∧ Serializes ext initState b₂ ∧ Serializes ext event b₃ ∧
      Stageable limits b₁ b₂ b₃ ∧ staged = stagedContext limits b₁ b₂ b₃ := by
  have h' := h
  unfold generateExecutionContext at h'
  split at h'
  · simp at h'
  · rename_i p₁ m₁ hst₁
    split at h'
    · simp at h'
    · rename_i p₂ m₂ hst₂
      split at h'
      · simp at h'
      · rename_i p₃ m₃ hst₃
        obtain ⟨b₁, hb₁, hfits₁, -, rfl⟩ := stageValue_ok hst₁
        obtain ⟨b₂, hb₂, hfits₂, -, rfl⟩ := stageValue_ok hst₂
        obtain ⟨b₃, hb₃, hfits₃, -, rfl⟩ := stageValue_ok hst₃
        have hstage : Stageable limits b₁ b₂ b₃ := ⟨hfits₁, hfits₂, hfits₃⟩
        rw [generateExecutionContext_fits hb₁ hb₂ hb₃ hstage, Except.ok.injEq] at h
        exact ⟨b₁, b₂, b₃, hb₁, hb₂, hb₃, hstage, h.symm⟩

end Values

end Ave
