/-
What instantiation does, phase by phase.

Linking and the data segments do not look at the store's limits, and the resource
check looks at nothing else.  So two nodes can part at the resource check only,
or inside the start function, where the guest itself runs.  `instantiate_admitted`
puts the three checks aside and leaves the start function; `instantiate_ok` reads
them off an instance.
-/
import AveContract.Runtime.Guest

namespace Ave

open Metered

/-- The resource check, limit by limit. -/
theorem StoreLimits.admits_iff {limits : StoreLimits} {memories tables : List Nat} :
    limits.admits memories tables = true ↔
      memories.length ≤ limits.memories ∧ tables.length ≤ limits.tables ∧
        (∀ pages ∈ memories, pages * wasmPageBytes ≤ limits.memorySize) ∧
        ∀ elements ∈ tables, elements ≤ limits.tableElements := by
  unfold admits
  rw [Bool.and_eq_true, Bool.and_eq_true, Bool.and_eq_true, List.all_eq_true, List.all_eq_true,
    decide_eq_true_iff, decide_eq_true_iff]
  simp only [decide_eq_true_iff, and_assoc]

namespace WasmModule

variable {σ : Type} {module : WasmModule σ} {context : MemoryManager} {fuel : Nat}

/-- Every import is one the linker defines. -/
def Linked (module : WasmModule σ) : Prop := module.imports.find? (fun i => !i.linked) = none

/-- The declared memories and tables are within the limits of the store. -/
def Admitted (module : WasmModule σ) (limits : StoreLimits) : Prop :=
  limits.admits (module.memories.map (·.minimum)) module.tables = true

instance (module : WasmModule σ) (limits : StoreLimits) : Decidable (module.Admitted limits) :=
  inferInstanceAs (Decidable (_ = true))

/-- The store before the start function runs. -/
def freshStore (module : WasmModule σ) (context : MemoryManager) (memory : Bytes) : Store where
  data := context
  memory
  memoryExport := module.memoryExport
  maximum := module.memories.head?.bind (·.maximum)

/-- The start function's run, or an empty one of a module that has none. -/
def started (module : WasmModule σ) (fuel : Nat) (store : Store) : Except WasmError (Instance σ) :=
  match module.start with
  | none => .ok { globals := module.globals, store, fuel, started := [] }
  | some enter =>
      let r := module.call fuel (enter module.globals) store
      match r.outcome with
      | .error e => .error e
      | .ok (_, globals) => .ok { globals, store := r.final, fuel := r.fuel, started := r.events }

theorem started_none {store : Store} (h : module.start = none) :
    module.started fuel store = .ok { globals := module.globals, store, fuel, started := [] } := by
  rw [started, h]

theorem started_failed {store : Store} {enter : σ → σ} {e : WasmError}
    (h : module.start = some enter)
    (hrun : (module.call fuel (enter module.globals) store).outcome = .error e) :
    module.started fuel store = .error e := by
  rw [started, h]
  simp only [hrun]

theorem started_returned {store : Store} {enter : σ → σ} {r : Word} {globals : σ}
    (h : module.start = some enter)
    (hrun : (module.call fuel (enter module.globals) store).outcome = .ok (r, globals)) :
    module.started fuel store = .ok
      { globals
        store := (module.call fuel (enter module.globals) store).final
        fuel := (module.call fuel (enter module.globals) store).fuel
        started := (module.call fuel (enter module.globals) store).events } := by
  rw [started, h]
  simp only [hrun]

/-- **Past the checks, instantiation is the start function.** -/
theorem instantiate_admitted {memory : Bytes} (hlinked : module.Linked)
    (hadm : module.Admitted context.storeLimits)
    (hdata : initData module.data module.initialMemory = .ok memory) :
    module.instantiate context fuel = module.started fuel (module.freshStore context memory) := by
  unfold Linked at hlinked
  unfold Admitted at hadm
  unfold instantiate
  rw [hlinked]
  simp only
  rw [if_pos hadm, hdata]
  rfl

/-- A module over the limits is refused without running. -/
theorem instantiate_refused (hadm : ¬module.Admitted context.storeLimits) :
    ∃ e : WasmError, e.downcastTrap = none ∧ module.instantiate context fuel = .error e := by
  unfold Admitted at hadm
  unfold instantiate
  split
  · exact ⟨_, rfl, rfl⟩
  · rw [if_neg hadm]
    exact ⟨_, rfl, rfl⟩

/-- An instance passed all three checks. -/
theorem instantiate_ok {inst : Instance σ} (h : module.instantiate context fuel = .ok inst) :
    module.Linked ∧ module.Admitted context.storeLimits ∧
      ∃ memory, initData module.data module.initialMemory = .ok memory ∧
        module.started fuel (module.freshStore context memory) = .ok inst := by
  have h' := h
  unfold instantiate at h'
  split at h'
  · simp at h'
  · rename_i hlinked
    split at h'
    · rename_i hadm
      split at h'
      · simp at h'
      · rename_i memory hdata
        refine ⟨hlinked, hadm, memory, hdata, ?_⟩
        rw [← instantiate_admitted hlinked hadm hdata]
        exact h
    · simp at h'

/-! ### A module whose code is a tree of requests -/

section Trees

variable {module : WasmModule (Prog Instr Instr.Answer Trap Word)}
  (hstep : module.step = Prog.step) {op : Instr}
  {k : op.Answer → Prog Instr Instr.Answer Trap Word} {s s' : Store}

include hstep

theorem call_answered {a : op.Answer} (fuel : Nat) (h : exec op s = (.ok a, s')) :
    module.call (fuel + 1) (.ask op k) s = Run.push ⟨s, op, a⟩ (module.call fuel (k a) s') := by
  unfold call
  rw [hstep]
  exact run_answered rfl h

theorem call_refused {e : WasmError} (fuel : Nat) (h : exec op s = (.error e, s')) :
    (module.call (fuel + 1) (.ask op k) s).outcome = .error e := by
  unfold call
  rw [hstep, run_refused rfl h]

theorem call_ret (fuel : Nat) (r : Word) : module.call (fuel + 1) (.ret r) s =
    { events := [], final := s, fuel, outcome := .ok (r, .ret r) } := by
  unfold call
  rw [hstep]
  exact run_ret rfl

end Trees

end WasmModule

end Ave
