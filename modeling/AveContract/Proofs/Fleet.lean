/-
What the fleet agrees on.

Two limits scale with the machine, memory with its RAM and tables with its cores,
and instantiation checks both.  The gate of `compile` is there so that no module
falls between two nodes, and it looks at the memories only.

What `compile` is given is taken as a Wasm binary; the text format, which the engine
would read as well, is left out.

A module splits the fleet unless every node refuses it or the smallest accepts
it.  The two ends are reached by actual machines, so this is exact.  The smallest
node is smaller than the source means it to be: past 2⁵⁶ cores the product that
scales the tables wraps around to nothing.
-/
import AveContract.Proofs.Instance
import AveContract.Proofs.Limits
import AveContract.Proofs.MemorySection

namespace Ave

/-- The resource check of instantiation on a node. -/
def Instantiates (spec : ResolvedMachineSpec) (b : Binary) : Prop :=
  (MemoryManager.fromLimits spec.limits).storeLimits.admits
    (b.memories.map fun l => l.min.value) (b.tables.map fun l => l.min.value) = true

instance (spec : ResolvedMachineSpec) (b : Binary) : Decidable (Instantiates spec b) :=
  inferInstanceAs (Decidable (_ = true))

/-- Any two of the machines give the same answer. -/
def FleetAgrees (machines : ResolvedMachineSpec → Prop) (b : Binary) : Prop :=
  ∀ s₁ s₂, machines s₁ → machines s₂ → (Instantiates s₁ b ↔ Instantiates s₂ b)

/-- The declared minimums are within these many pages and elements. -/
structure Within (b : Binary) (pages elements : Nat) : Prop where
  oneMemory : b.memories.length ≤ 1
  oneTable : b.tables.length ≤ 1
  memory : ∀ l ∈ b.memories, l.min.value ≤ pages
  table : ∀ l ∈ b.tables, l.min.value ≤ elements

theorem Within.mono {b : Binary} {pages pages' elements elements' : Nat}
    (h : Within b pages elements) (hp : pages ≤ pages') (he : elements ≤ elements') :
    Within b pages' elements' :=
  ⟨h.oneMemory, h.oneTable, fun l hl => Nat.le_trans (h.memory l hl) hp,
    fun l hl => Nat.le_trans (h.table l hl) he⟩

/-- A node instantiates what is within its limits. -/
theorem instantiates_iff (spec : ResolvedMachineSpec) (b : Binary) :
    Instantiates spec b ↔
      Within b (spec.limits.memorySize / 65536) spec.limits.maxTableElements := by
  have hpages : ∀ n : Nat, n * wasmPageBytes ≤ spec.limits.memorySize ↔
      n ≤ spec.limits.memorySize / 65536 := fun n => (Nat.le_div_iff_mul_le (by decide)).symm
  rw [Instantiates, StoreLimits.admits_iff, List.length_map, List.length_map, List.forall_mem_map,
    List.forall_mem_map]
  constructor
  · rintro ⟨hm, ht, hmem, htab⟩
    exact ⟨hm, ht, fun l hl => (hpages _).mp (hmem l hl), htab⟩
  · rintro ⟨hm, ht, hmem, htab⟩
    exact ⟨hm, ht, fun l hl => (hpages _).mpr (hmem l hl), htab⟩

/-- No machine's limits are above these. -/
theorem Instantiates.within {spec : ResolvedMachineSpec} {b : Binary} (h : Instantiates spec b) :
    Within b 512 2048 := by
  refine ((instantiates_iff spec b).mp h).mono ?_ ?_
  · have hle := WasmLimits.build_memorySize_le spec.ramMb spec.cpuCores
    show (WasmLimits.build spec.ramMb spec.cpuCores).memorySize / 65536 ≤ 512
    omega
  · exact WasmLimits.build_maxTableElements_le spec.ramMb spec.cpuCores

/-- A machine that reaches every ceiling. -/
def largestMachine : ResolvedMachineSpec := ⟨4096, 8⟩

/-- A machine at the floor of the memory, with as many cores as asked. -/
def smallestMachine (cpuCores : UInt64) : ResolvedMachineSpec := ⟨512, cpuCores⟩

/--
**What a set of machines agrees on.**

They have the largest machine among them, and one with the least memory and no
more tables than `elements`, and none has fewer.  Then they agree exactly on what
all of them refuse and on what the smallest accepts.
-/
theorem agrees_iff (machines : ResolvedMachineSpec → Prop) (elements : Nat) (least : UInt64)
    (hlargest : machines largestMachine) (hsmallest : machines (smallestMachine least))
    (hleast : (smallestMachine least).limits.maxTableElements = elements)
    (hfloor : ∀ s, machines s → elements ≤ s.limits.maxTableElements) (b : Binary) :
    FleetAgrees machines b ↔ ¬Within b 512 2048 ∨ Within b 64 elements := by
  have hfloor' : ∀ s, machines s → Within b 64 elements → Instantiates s b := by
    intro s hs h
    refine (instantiates_iff s b).mpr (h.mono ?_ (hfloor s hs))
    have hge := WasmLimits.build_memorySize_ge s.ramMb s.cpuCores
    show 64 ≤ (WasmLimits.build s.ramMb s.cpuCores).memorySize / 65536
    omega
  constructor
  · intro h
    by_cases hin : Within b 512 2048
    · have hl : Instantiates largestMachine b := (instantiates_iff _ b).mpr hin
      have hs : Instantiates (smallestMachine least) b := (h _ _ hlargest hsmallest).mp hl
      have hs' := (instantiates_iff _ b).mp hs
      have hpages : (smallestMachine least).limits.memorySize / 65536 = 64 := by
        show (WasmLimits.build 512 least).memorySize / 65536 = 64
        rw [WasmLimits.build_memorySize]
        rfl
      rw [hleast, hpages] at hs'
      exact Or.inr hs'
    · exact Or.inl hin
  · rintro (hout | hin)
    · intro s₁ s₂ _ _
      exact ⟨fun h => absurd h.within hout, fun h => absurd h.within hout⟩
    · intro s₁ s₂ h₁ h₂
      exact ⟨fun _ => hfloor' s₂ h₂ hin, fun _ => hfloor' s₁ h₁ hin⟩

/-- The machines whose cores the product `256 * cpu_cores` can count. -/
def Countable (spec : ResolvedMachineSpec) : Prop := spec.cpuCores.toNat < 2 ^ 56

instance (spec : ResolvedMachineSpec) : Decidable (Countable spec) :=
  inferInstanceAs (Decidable (_ < _))

/-- The first core count that wraps the product around. -/
def wrappingCores : UInt64 := 72057594037927936

/-- What the gate refuses, from the bytes. -/
def Binary.Gated (b : Binary) : Prop :=
  (∀ l ∈ b.memories, l.Legible) ∧ ∃ l ∈ b.memories, 64 < l.min.value % 2 ^ 32

/--
**When passing the gate means that the fleet agrees.**

Over all machines: when the gate refuses the module after all, or every node does,
or its memories are within the floor and its tables start empty.  Over the
machines with fewer than 2⁵⁶ cores the tables may start with up to 512 elements.
-/
theorem gate_agrees_iff {M : Type} (engine : Engine M) (b : Binary) :
    ((¬Rejected engine b.bytes → FleetAgrees (fun _ => True) b) ↔
      b.Gated ∨ ¬Within b 512 2048 ∨ Within b 64 0) ∧
    ((¬Rejected engine b.bytes → FleetAgrees Countable b) ↔
      b.Gated ∨ ¬Within b 512 2048 ∨ Within b 64 512) := by
  have hall := agrees_iff (fun _ => True) 0 wrappingCores trivial trivial (by decide)
    (fun _ _ => Nat.zero_le _) b
  have hcountable := agrees_iff Countable 512 2 (by decide) (by decide) (by decide)
    (fun s hs => WasmLimits.build_maxTableElements_ge s.ramMb s.cpuCores hs) b
  rw [rejected_binary_iff, hall, hcountable]
  exact ⟨imp_iff_not_or.trans (or_congr not_not Iff.rfl), imp_iff_not_or.trans (or_congr not_not Iff.rfl)⟩

/-! ### A table of a thousand elements -/

def thousandElements : Limits where
  memory64 := false
  flags := ⟨[0], by decide, by decide, by decide⟩
  min := ⟨[104, 7], by decide, by decide, by decide⟩
  max := none
  flags_max := by decide

def thousandBody : TableBody where
  count := oneEntry
  entries := [{ type := [0x70], limits := thousandElements, init := [] }]
  count_eq := by decide

/-- The module that declares it and nothing else. -/
def thousandBinary : Binary where
  sections := [.table thousandBody ⟨⟨[5], by decide, by decide, by decide⟩, by decide⟩]
  wide := by decide
  exact := by
    intro body frame h
    cases List.mem_singleton.mp h
  addressable := by decide

/-- **Two cores are too few for it and eight are enough.** -/
theorem thousand_elements_split :
    ¬Rejected plainEngine thousandBinary.bytes ∧ ¬Instantiates ⟨4096, 2⟩ thousandBinary ∧
      Instantiates ⟨4096, 8⟩ thousandBinary := by
  refine ⟨?_, by decide, by decide⟩
  rw [rejected_binary_iff]
  rintro ⟨-, l, hl, -⟩
  simp [Binary.memories, thousandBinary, Section.memories] at hl

end Ave
