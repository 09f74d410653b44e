/-
Where the limits of a machine can lie.

`build` divides, saturates and clamps; every proof above it needs only the range
each limit ends up in.  The memory limits are in range whatever the machine.  The
table limit has its ceiling on every machine, and its floor only where the product
of cores does not overflow.

That product is the one step of `build` that neither saturates nor divides.  It is
also the one step that can go wrong: with fewer than 2⁵⁶ cores every limit is in
its range and none shrinks on a larger machine, and with more the product wraps,
or panics in a build that checks it (`build_safe_iff`).
-/
import AveContract.Runtime.Config

namespace Ave

namespace WasmLimits

variable (ramMb cpuCores : UInt64)

theorem build_memorySize :
    (build ramMb cpuCores).memorySize
      = max (4 * 1024 * 1024) (min (ramMb.toNat / 512 * (4 * 1024 * 1024)) (32 * 1024 * 1024)) := by
  simp only [build, usizeTryFrom, clamp, saturatingMul, minFleetMemoryBytes, maxMemoryBytes,
    usizeMax, u64Max]
  omega

theorem build_maxTotalMemory :
    (build ramMb cpuCores).maxTotalMemory
      = max (3 * 1024 * 1024) (min (ramMb.toNat / 512 * (3 * 1024 * 1024)) (24 * 1024 * 1024)) := by
  simp only [build, usizeTryFrom, clamp, saturatingMul, usizeMax, u64Max]
  omega

/-- Three allocations of the largest size fill the memory exactly. -/
theorem build_three_maxSingleAlloc :
    3 * (build ramMb cpuCores).maxSingleAlloc = (build ramMb cpuCores).maxTotalMemory := by
  simp only [build, usizeTryFrom, clamp, saturatingMul, usizeMax, u64Max]
  omega

theorem build_maxTotalMemory_le :
    (build ramMb cpuCores).maxTotalMemory ≤ 24 * 1024 * 1024 := by
  rw [build_maxTotalMemory]
  omega

theorem build_maxSingleAlloc_le :
    (build ramMb cpuCores).maxSingleAlloc ≤ 8 * 1024 * 1024 := by
  have h3 := build_three_maxSingleAlloc ramMb cpuCores
  have hle := build_maxTotalMemory_le ramMb cpuCores
  omega

theorem build_memorySize_ge : 4 * 1024 * 1024 ≤ (build ramMb cpuCores).memorySize := by
  rw [build_memorySize]
  omega

theorem build_memorySize_le : (build ramMb cpuCores).memorySize ≤ 32 * 1024 * 1024 := by
  rw [build_memorySize]
  omega

theorem build_maxTableElements :
    (build ramMb cpuCores).maxTableElements
      = min (256 * max cpuCores.toNat 2 % 2 ^ 64) 2048 := rfl

theorem build_maxTableElements_le : (build ramMb cpuCores).maxTableElements ≤ 2048 := by
  rw [build_maxTableElements]
  omega

/-- The floor of the tables, on every machine whose core count the product does not overflow. -/
theorem build_maxTableElements_ge (h : cpuCores.toNat < 2 ^ 56) :
    512 ≤ (build ramMb cpuCores).maxTableElements := by
  rw [build_maxTableElements]
  omega

theorem build_maxTotalMemory_le_memorySize :
    (build ramMb cpuCores).maxTotalMemory ≤ (build ramMb cpuCores).memorySize := by
  rw [build_maxTotalMemory, build_memorySize]
  omega

/-! ### A larger machine -/

/-- Every limit of the first is at most that of the second. -/
structure Le (l l' : WasmLimits) : Prop where
  maxWasmStack : l.maxWasmStack ≤ l'.maxWasmStack
  memorySize : l.memorySize ≤ l'.memorySize
  maxSingleAlloc : l.maxSingleAlloc ≤ l'.maxSingleAlloc
  maxTotalMemory : l.maxTotalMemory ≤ l'.maxTotalMemory
  maxTableElements : l.maxTableElements ≤ l'.maxTableElements

/-- No limit shrinks on a larger machine whose core count the product does not overflow. -/
theorem build_le {ramMb ramMb' cpuCores cpuCores' : UInt64} (hram : ramMb ≤ ramMb')
    (hcores : cpuCores ≤ cpuCores') (h : cpuCores'.toNat < 2 ^ 56) :
    (build ramMb cpuCores).Le (build ramMb' cpuCores') := by
  have hsteps : ramMb.toNat / 512 ≤ ramMb'.toNat / 512 :=
    Nat.div_le_div_right (UInt64.le_iff_toNat_le.mp hram)
  have hcount : cpuCores.toNat ≤ cpuCores'.toNat := UInt64.le_iff_toNat_le.mp hcores
  have hscaled : ∀ step lo hi : Nat, max lo (min (ramMb.toNat / 512 * step) hi)
      ≤ max lo (min (ramMb'.toNat / 512 * step) hi) := fun step lo hi =>
    max_le_max_left lo (min_le_min_right hi (Nat.mul_le_mul_right step hsteps))
  have htotal : (build ramMb cpuCores).maxTotalMemory ≤ (build ramMb' cpuCores').maxTotalMemory := by
    rw [build_maxTotalMemory, build_maxTotalMemory]
    exact hscaled _ _ _
  have h3 := build_three_maxSingleAlloc ramMb cpuCores
  have h3' := build_three_maxSingleAlloc ramMb' cpuCores'
  refine ⟨Nat.le_refl _, ?_, by omega, htotal, ?_⟩
  · rw [build_memorySize, build_memorySize]
    exact hscaled _ _ _
  · rw [build_maxTableElements, build_maxTableElements]
    omega

/-! ### No step overflows -/

/-- `build` with its arithmetic checked: `none` where a step overflows.  The products of the RAM
saturate and are never out of range. -/
def buildChecked (ramMb cpuCores : UInt64) : Option WasmLimits := do
  let memorySize := usizeTryFrom
    (clamp (saturatingMul (ramMb.toNat / 512) (4 * 1024 * 1024))
      minFleetMemoryBytes maxMemoryBytes)
  let maxTotalMemory := usizeTryFrom
    (clamp (saturatingMul (ramMb.toNat / 512) (3 * 1024 * 1024))
      (3 * 1024 * 1024) (24 * 1024 * 1024))
  let maxSingleAlloc := clamp (maxTotalMemory / 3) (1024 * 1024) (8 * 1024 * 1024)
  let elements ← checkedMul 256 (max cpuCores.toNat 2)
  some
    { maxWasmStack := 1024 * 1024
      memorySize
      maxSingleAlloc
      maxTotalMemory
      maxTableElements := min elements 2048
      aggressiveCompilation := false }

/-- Each limit is in its range. -/
structure InRange (l : WasmLimits) : Prop where
  memoryFloor : minFleetMemoryBytes ≤ l.memorySize
  memoryCeiling : l.memorySize ≤ maxMemoryBytes
  totalFloor : 3 * 1024 * 1024 ≤ l.maxTotalMemory
  totalCeiling : l.maxTotalMemory ≤ 24 * 1024 * 1024
  totalFits : l.maxTotalMemory ≤ l.memorySize
  threeFit : 3 * l.maxSingleAlloc ≤ l.maxTotalMemory
  tableFloor : 512 ≤ l.maxTableElements
  tableCeiling : l.maxTableElements ≤ 2048

/-- The limits of the machine are computed without overflow and each is in its range. -/
def Safe (ramMb cpuCores : UInt64) : Prop :=
  buildChecked ramMb cpuCores = some (build ramMb cpuCores) ∧ (build ramMb cpuCores).InRange

/-- **Exactly the product of the cores can overflow.** -/
theorem buildChecked_eq : buildChecked ramMb cpuCores
    = if cpuCores.toNat < 2 ^ 56 then some (build ramMb cpuCores) else none := by
  unfold buildChecked checkedMul
  by_cases h : cpuCores.toNat < 2 ^ 56
  · have hfits : 256 * max cpuCores.toNat 2 < 2 ^ 64 := by omega
    rw [if_pos h, if_pos (by unfold usizeMax; omega)]
    simp only [Option.bind_eq_bind, Option.bind_some, build, wrappingMul, Nat.mod_eq_of_lt hfits]
  · rw [if_neg h, if_neg (by unfold usizeMax; omega)]
    rfl

theorem build_inRange (h : cpuCores.toNat < 2 ^ 56) : (build ramMb cpuCores).InRange where
  memoryFloor := build_memorySize_ge ramMb cpuCores
  memoryCeiling := build_memorySize_le ramMb cpuCores
  totalFloor := by
    rw [build_maxTotalMemory]
    omega
  totalCeiling := build_maxTotalMemory_le ramMb cpuCores
  totalFits := build_maxTotalMemory_le_memorySize ramMb cpuCores
  threeFit := Nat.le_of_eq (build_three_maxSingleAlloc ramMb cpuCores)
  tableFloor := build_maxTableElements_ge ramMb cpuCores h
  tableCeiling := build_maxTableElements_le ramMb cpuCores

theorem safe_iff : Safe ramMb cpuCores ↔ cpuCores.toNat < 2 ^ 56 := by
  unfold Safe
  rw [buildChecked_eq]
  by_cases h : cpuCores.toNat < 2 ^ 56
  · rw [if_pos h]
    exact iff_of_true ⟨rfl, build_inRange ramMb cpuCores h⟩ h
  · rw [if_neg h]
    refine iff_of_false ?_ h
    rintro ⟨hnone, -⟩
    simp at hnone

/--
**The limits are safe and grow with the machine exactly below 2⁵⁶ cores.**

The smaller machine has no more cores than the larger one, so the condition on the
larger one is enough for both.
-/
theorem build_safe_iff {ramMb ramMb' cpuCores cpuCores' : UInt64} (hram : ramMb ≤ ramMb')
    (hcores : cpuCores ≤ cpuCores') :
    (Safe ramMb cpuCores ∧ Safe ramMb' cpuCores' ∧
        (build ramMb cpuCores).Le (build ramMb' cpuCores')) ↔
      cpuCores'.toNat < 2 ^ 56 := by
  have hcount : cpuCores.toNat ≤ cpuCores'.toNat := UInt64.le_iff_toNat_le.mp hcores
  rw [safe_iff, safe_iff]
  constructor
  · rintro ⟨-, h, -⟩
    exact h
  · intro h
    exact ⟨by omega, h, build_le hram hcores h⟩

/-- The default machine beside one with four times its cores. -/
theorem default_machine_safe :
    (4096 : UInt64) ≤ 4096 ∧ (2 : UInt64) ≤ 8 ∧
      ((Safe 4096 2 ∧ Safe 4096 8 ∧ (build 4096 2).Le (build 4096 8)) ↔
        (8 : UInt64).toNat < 2 ^ 56) :=
  ⟨by decide, by decide, build_safe_iff (by decide) (by decide)⟩

/-- With 2⁵⁶ cores the product wraps to zero: there is no table at all, and two cores have more. -/
theorem cores_overflow :
    buildChecked 4096 72057594037927936 = none ∧
      ¬(build 4096 72057594037927936).InRange ∧
        ¬(build 4096 2).Le (build 4096 72057594037927936) := by
  have hzero : (build 4096 72057594037927936).maxTableElements = 0 := by
    rw [build_maxTableElements]
    decide
  refine ⟨by rw [buildChecked_eq]; decide, fun h => ?_, fun h => ?_⟩
  · have hfloor := h.tableFloor
    omega
  · have hle := h.maxTableElements
    have hsmall : (build 4096 2).maxTableElements = 512 := by
      rw [build_maxTableElements]
      decide
    omega

end WasmLimits

end Ave
