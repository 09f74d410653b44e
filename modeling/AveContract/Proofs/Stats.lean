/-
What the statistics of an execution say.

`memory_bytes` is documented as the peak of the linear memory and is read once, when
`main_function` is back.  That is the peak because no request makes a memory smaller
(`exec_memory`): a growth is granted or traps, and everything else writes in place.
It is made of whole pages, starts at what the module declares and stays within the
limit of the machine, however the call ended.

`fuel_consumed` is counted from the budget, so what the start function used is in it.
-/
import AveContract.Proofs.Lives

namespace Ave

open Slice Metered MemoryManager

/-! ### What a request does to the linear memory -/

/-- The linear memory is as long as before, or longer by pages that the limits allow. -/
inductive Extends (limits : StoreLimits) (before after : Nat) : Prop where
  | same (length : after = before)
  | grown (delta : Nat) (length : after = before + delta * wasmPageBytes)
      (granted : after ≤ limits.memorySize)

/-- What `memory.grow` does, granted or not. -/
theorem memoryGrow_extends (s : Store) (delta : Nat) :
    Extends s.data.storeLimits s.memory.length (exec (.memoryGrow delta) s).2.memory.length ∧
      (exec (.memoryGrow delta) s).2.data = s.data ∧
      (exec (.memoryGrow delta) s).2.memoryExport = s.memoryExport := by
  rw [exec]
  by_cases hgrow : s.data.storeLimits.memoryGrowing (s.memory.length + delta * wasmPageBytes)
      s.maximum = true
  · rw [if_pos hgrow]
    have hlen : (s.memory ++ List.replicate (delta * wasmPageBytes) 0).length
        = s.memory.length + delta * wasmPageBytes := by
      rw [List.length_append, List.length_replicate]
    refine ⟨.grown delta hlen ?_, rfl, rfl⟩
    rw [hlen]
    unfold StoreLimits.memoryGrowing at hgrow
    rw [Bool.and_eq_true, decide_eq_true_iff] at hgrow
    exact hgrow.1
  · rw [if_neg hgrow]
    by_cases htrap : s.data.storeLimits.trapOnGrowFailure = true
    · rw [if_pos htrap]
      exact ⟨.same rfl, rfl, rfl⟩
    · rw [if_neg htrap]
      exact ⟨.same rfl, rfl, rfl⟩

/-- **No request shrinks the linear memory**, or changes a limit or the exports. -/
theorem exec_memory (op : Instr) (s : Store) :
    Extends s.data.storeLimits s.memory.length (exec op s).2.memory.length ∧
      (exec op s).2.data.storeLimits = s.data.storeLimits ∧
      (exec op s).2.memoryExport = s.memoryExport := by
  cases op with
  | compute => exact ⟨.same rfl, rfl, rfl⟩
  | load addr len =>
      rw [exec]
      split <;> exact ⟨.same rfl, rfl, rfl⟩
  | store addr bytes =>
      rw [exec]
      split
      · rename_i hin
        exact ⟨.same (length_patch hin), rfl, rfl⟩
      · exact ⟨.same rfl, rfl, rfl⟩
  | memoryGrow delta =>
      obtain ⟨hext, hdata, hexp⟩ := memoryGrow_extends s delta
      exact ⟨hext, congrArg MemoryManager.storeLimits hdata, hexp⟩
  | pointerLen pointer => exact ⟨.same rfl, rfl, rfl⟩
  | alloc len =>
      rcases Env.alloc_cases s.toCaller len with ⟨-, hok⟩ | ⟨-, e, -, he⟩
      · rw [exec, hok]
        exact ⟨.same rfl, rfl, rfl⟩
      · rw [exec, he]
        exact ⟨.same rfl, rfl, rfl⟩
  | readBytes srcPtr dstPtr len =>
      rcases Env.readBytes_cases s.toCaller srcPtr dstPtr len with
        ⟨⟨-, -, -, hsrc, -, hdst⟩, hok⟩ | ⟨-, e, -, he⟩
      · rw [exec, hok]
        refine ⟨.same (length_patch ?_), rfl, rfl⟩
        rw [length_slice_of_le hsrc]
        exact hdst
      · rw [exec, he]
        exact ⟨.same rfl, rfl, rfl⟩
  | writeBytes dstPtr srcPtr len =>
      rcases Env.writeBytes_cases s.toCaller dstPtr srcPtr len with ⟨-, hok⟩ | ⟨-, e, -, he⟩
      · rw [exec, hok]
        exact ⟨.same rfl, rfl, rfl⟩
      · rw [exec, he]
        exact ⟨.same rfl, rfl, rfl⟩

theorem exec_rises (op : Instr) (s : Store) :
    s.memory.length ≤ (exec op s).2.memory.length := by
  cases (exec_memory op s).1 with
  | same hlen => exact Nat.le_of_eq hlen.symm
  | grown delta hlen _ =>
      rw [hlen]
      exact Nat.le_add_right _ _

/-- A linear memory of whole pages, at least `least` bytes long and within the limit. -/
structure Paged (limits : WasmLimits) (memoryExport : Bool) (least : Nat) (s : Store) : Prop where
  storeLimits : s.data.storeLimits = (fromLimits limits).storeLimits
  memoryExport : s.memoryExport = memoryExport
  pages : wasmPageBytes ∣ s.memory.length
  least : least ≤ s.memory.length
  most : s.memory.length ≤ limits.memorySize

variable {limits : WasmLimits} {memoryExport : Bool} {least : Nat} {s : Store}

theorem Paged.exec (h : Paged limits memoryExport least s) (op : Instr) :
    Paged limits memoryExport least (exec op s).2 := by
  obtain ⟨hext, hlimits, hexp⟩ := exec_memory op s
  have hleast := Nat.le_trans h.least (exec_rises op s)
  refine ⟨hlimits.trans h.storeLimits, hexp.trans h.memoryExport, ?_, hleast, ?_⟩
  · cases hext with
    | same hlen =>
        rw [hlen]
        exact h.pages
    | grown delta hlen _ =>
        rw [hlen]
        exact Nat.dvd_add h.pages (Nat.dvd_mul_left _ _)
  · cases hext with
    | same hlen =>
        rw [hlen]
        exact h.most
    | grown delta _ hgranted =>
        rw [h.storeLimits] at hgranted
        exact hgranted

/-- A run of guest code keeps the memory paged, and ends where it is largest. -/
theorem Paged.call {σ : Type} {module : WasmModule σ} (h : Paged limits memoryExport least s)
    (fuel : Nat) (q : σ) : Paged limits memoryExport least (module.call fuel q s).final :=
  run_keeps (fun op _ hs => hs.exec op) fuel q s h

/-! ### A whole execution -/

/-- The bytes of linear memory a module declares. -/
def WasmModule.declaredBytes {σ : Type} (module : WasmModule σ) : Nat :=
  match module.memories with
  | [] => 0
  | m :: _ => m.minimum * wasmPageBytes

section Executions

variable {V σ : Type} {ext : Externals V} {module : WasmModule σ} {context : MemoryManager}
  {memory : Bytes} {state initState event : V} {isOwner : Bool}

theorem length_initialMemory_eq (module : WasmModule σ) :
    module.initialMemory.length = module.declaredBytes := by
  unfold WasmModule.initialMemory WasmModule.declaredBytes
  cases module.memories with
  | nil => rfl
  | cons m rest => exact List.length_replicate

theorem paged_freshStore (hlimits : context.storeLimits = (fromLimits limits).storeLimits)
    (hadm : module.Admitted context.storeLimits)
    (hdata : initData module.data module.initialMemory = .ok memory) :
    Paged limits module.memoryExport module.declaredBytes (module.freshStore context memory) := by
  have hlen : memory.length = module.declaredBytes :=
    (Sdk.length_initData module.data hdata).trans (length_initialMemory_eq module)
  refine ⟨hlimits, rfl, ?_, Nat.le_of_eq hlen.symm, ?_⟩
  · show wasmPageBytes ∣ memory.length
    rw [hlen]
    unfold WasmModule.declaredBytes
    split
    · exact Nat.dvd_zero _
    · exact Nat.dvd_mul_left _ _
  · show memory.length ≤ limits.memorySize
    rw [Sdk.length_initData module.data hdata]
    rw [hlimits] at hadm
    exact Sdk.length_initialMemory hadm

/-- An instance: its memory is paged and at least what its start function has seen, and it has no
more fuel than it was given. -/
theorem started_paged {fuel : Nat} {inst : Instance σ} (h : Paged limits memoryExport least s)
    (hstarted : module.started fuel s = .ok inst) :
    Paged limits memoryExport least inst.store ∧ inst.fuel ≤ fuel ∧
      ∀ e ∈ inst.started, e.before.memory.length ≤ inst.store.memory.length := by
  cases hstart : module.start with
  | none =>
      rw [WasmModule.started_none hstart] at hstarted
      obtain rfl := Except.ok.inj hstarted
      exact ⟨h, Nat.le_refl _, fun e he => absurd he List.not_mem_nil⟩
  | some enter =>
      cases hrun : (module.call fuel (enter module.globals) s).outcome with
      | error e =>
          rw [WasmModule.started_failed hstart hrun] at hstarted
          simp at hstarted
      | ok x =>
          rw [WasmModule.started_returned hstart hrun] at hstarted
          obtain rfl := Except.ok.inj hstarted
          exact ⟨h.call fuel _, run_fuel_le _ _ _, (run_rises exec_rises fuel _ s).2⟩

/-- What holds of the memory and the fuel when `main_function` has ended, whichever way. -/
structure Spent (limits : WasmLimits) (module : WasmModule σ) (inst : Instance σ)
    (r : GuestRun σ) : Prop where
  paged : Paged limits module.memoryExport module.declaredBytes r.final
  /-- No store on the way had a longer memory. -/
  peak : ∀ e ∈ inst.started ++ r.events, e.before.memory.length ≤ r.final.memory.length
  started : inst.fuel ≤ maxFuel
  called : r.fuel ≤ inst.fuel

theorem callMain_spent {inst : Instance σ} {r : GuestRun σ}
    (h : callMain ext limits module state initState event isOwner = .ok (inst, r)) :
    Spent limits module inst r := by
  obtain ⟨b₁, b₂, b₃, entry, -, -, -, -, hinst, -, rfl⟩ := callMain_ok h
  obtain ⟨-, hadm, memory, hdata, hstarted⟩ := WasmModule.instantiate_ok hinst
  have hfresh := paged_freshStore (stagedContext_caps limits b₁ b₂ b₃).storeLimits hadm hdata
  obtain ⟨hpaged, hfuel, hstart⟩ := started_paged hfresh hstarted
  obtain ⟨hrise, hevents⟩ := run_rises exec_rises inst.fuel _ inst.store
  refine ⟨hpaged.call _ _, ?_, hfuel, run_fuel_le _ _ _⟩
  intro e he
  rcases List.mem_append.mp he with hold | hnew
  · exact Nat.le_trans (hstart e hold) hrise
  · exact hevents e hnew

/--
**What the statistics of an answer mean.**

For any module, machine and inputs.  The fuel is what the start function and
`main_function` used together, within the budget.  The memory is in whole pages,
within the machine's limit; of an exported memory it is the peak, at least what the
module declares and what it was at any request of either function.
-/
theorem stats_peak {V σ : Type} {ext : Externals V} {limits : WasmLimits} {module : WasmModule σ}
    {state initState event : V} {isOwner : Bool} {result : ExecutionResult V}
    {stats : ExecutionStats}
    (h : executeInner ext limits module state initState event isOwner = .ok (result, stats)) :
    ∃ inst r, callMain ext limits module state initState event isOwner = .ok (inst, r) ∧
      stats.fuelConsumed = (maxFuel - inst.fuel) + (inst.fuel - r.fuel) ∧
      stats.fuelConsumed ≤ maxFuel ∧ stats.fuelExhausted = false ∧
      wasmPageBytes ∣ stats.memoryBytes ∧ stats.memoryBytes ≤ limits.memorySize ∧
      (module.memoryExport = true → module.declaredBytes ≤ stats.memoryBytes ∧
        ∀ e ∈ inst.started ++ r.events, e.before.memory.length ≤ stats.memoryBytes) := by
  obtain ⟨inst, r, p, q, hcall, hout, hres⟩ := executeInner_ok h
  have hspent := callMain_spent hcall
  have hstats : stats =
      { fuelConsumed := maxFuel - r.fuel
        memoryBytes := if r.final.memoryExport then r.final.memory.length else 0
        fuelExhausted := false } := by
    unfold executeInner at h
    rw [hcall] at h
    simp only [finishCall, hout, hres, Except.ok.injEq, Prod.mk.injEq] at h
    exact h.2.symm
  have hexp := hspent.paged.memoryExport
  have hcalled := hspent.called
  have hstarted := hspent.started
  subst hstats
  refine ⟨inst, r, hcall, ?_, Nat.sub_le _ _, rfl, ?_, ?_, ?_⟩
  · show maxFuel - r.fuel = (maxFuel - inst.fuel) + (inst.fuel - r.fuel)
    omega
  · dsimp only
    split
    · exact hspent.paged.pages
    · exact Nat.dvd_zero _
  · dsimp only
    split
    · exact hspent.paged.most
    · exact Nat.zero_le _
  · intro hexport
    dsimp only
    rw [if_pos (hexp.trans hexport)]
    exact ⟨hspent.paged.least, hspent.peak⟩

end Executions

/-- The latch declares a page, exports it, and is charged for it. -/
theorem latch_stats : ∃ result stats,
    executeInner Sdk.boolExternals Sdk.latchSet.machine.limits
        (Sdk.latch.module Sdk.bareBuild Sdk.pageShell) false true true false = .ok (result, stats) ∧
      65536 ≤ stats.memoryBytes := by
  obtain ⟨⟨result, stats⟩, hanswer⟩ := Sdk.latchSet_answered
  have hok : executeInner Sdk.boolExternals Sdk.latchSet.machine.limits
      (Sdk.latch.module Sdk.bareBuild Sdk.pageShell) false true true false = .ok (result, stats) :=
    hanswer
  obtain ⟨inst, r, -, -, -, -, -, -, hpeak⟩ := stats_peak hok
  exact ⟨result, stats, hok, (hpeak rfl).1⟩

end Ave
