/-
Where a run dry is reported as one.

`execute` and `validate` give the guest one budget each and spend it in up to two
phases: the start function while the module is instantiated, then the entry
point.  `OutOfFuel` is documented as the deterministic outcome of a budget used
up.  Only one of the four places reports it.  `execute` looks at the trap of
`main_function`; the start function's trap is an instantiation failure whatever
it was, and `validate` looks at no trap at all.

Each call's property is characterised exactly: `execute` reports every run dry
if and only if the start function does not run dry, and `validate` if and only if
nothing does.
-/
import AveContract.Proofs.Instance
import AveContract.Proofs.Staging
import AveContract.Sdk.Guest

namespace Ave

open Metered

/-! ### The places fuel can run out -/

section Places

variable {V σ : Type} (ext : Externals V) (limits : WasmLimits) (module : WasmModule σ)

/-- The start function used up the budget of `execute`. -/
def ExecuteStartDry (state initState event : V) : Prop :=
  ∃ staged, generateExecutionContext ext state initState event limits = .ok staged ∧
    module.instantiate staged.context maxFuel = .error (.trap .outOfFuel)

/-- `main_function` used up what the start function left. -/
def ExecuteMainDry (state initState event : V) (isOwner : Bool) : Prop :=
  ∃ inst r, callMain ext limits module state initState event isOwner = .ok (inst, r) ∧
    r.outcome = .error (.trap .outOfFuel)

/-- The start function used up the budget of `validate`. -/
def ValidateStartDry (initialState : V) : Prop :=
  validateImports module.imports = .ok () ∧
    ∃ context statePtr, generateContext ext initialState limits = .ok (context, statePtr) ∧
      module.instantiate context maxFuelCompilation = .error (.trap .outOfFuel)

/-- `init_check_function` used up what the start function left. -/
def ValidateInitDry (initialState : V) : Prop :=
  ∃ inst r, callInitCheck ext limits module initialState = .ok (inst, r) ∧
    r.outcome = .error (.trap .outOfFuel)

/-- The outcome documented for a budget used up. -/
def ReportedDry {α : Type} (result : Except RuntimeError α) : Prop :=
  ∃ consumed, result = .error (.outOfFuel consumed)

end Places

/-! ### What each place is reported as -/

section Reports

variable {V σ : Type} {ext : Externals V} {limits : WasmLimits} {module : WasmModule σ}
  {state initState event : V} {isOwner : Bool}

theorem executeInner_startDry (h : ExecuteStartDry ext limits module state initState event) :
    executeInner ext limits module state initState event isOwner
      = .error (.instantiationFailed (ext.wasmText (.trap .outOfFuel))) := by
  obtain ⟨staged, hgen, hinst⟩ := h
  unfold executeInner callMain
  rw [hgen]
  simp only
  rw [hinst]

theorem executeInner_mainDry (h : ExecuteMainDry ext limits module state initState event isOwner) :
    ReportedDry (executeInner ext limits module state initState event isOwner) := by
  obtain ⟨inst, r, hcall, hdry⟩ := h
  refine ⟨maxFuel - r.fuel, ?_⟩
  unfold executeInner
  rw [hcall]
  simp only [finishCall, hdry]
  exact if_pos rfl

theorem validateInner_startDry {initialState : V}
    (h : ValidateStartDry ext limits module initialState) :
    validateInner ext limits module initialState
      = .error (.instantiationFailed (ext.wasmText (.trap .outOfFuel))) := by
  obtain ⟨himports, context, statePtr, hgen, hinst⟩ := h
  unfold validateInner callInitCheck
  rw [himports]
  simp only
  rw [hgen]
  simp only
  rw [hinst]

theorem validateInner_initDry {initialState : V}
    (h : ValidateInitDry ext limits module initialState) :
    validateInner ext limits module initialState
      = .error (.contractExecutionFailed (ext.wasmText (.trap .outOfFuel))) := by
  obtain ⟨inst, r, hcall, hdry⟩ := h
  unfold validateInner
  rw [hcall]
  simp only
  rw [hdry]

end Reports

/--
**When a budget used up is reported as such.**

By `execute`, if and only if it was not the start function that used it up; by
`validate`, if and only if nothing did.
-/
theorem fuel_reported_iff {V σ : Type} (ext : Externals V) (limits : WasmLimits)
    (module : WasmModule σ) (state initState event : V) (isOwner : Bool) :
    ((ExecuteStartDry ext limits module state initState event ∨
          ExecuteMainDry ext limits module state initState event isOwner →
        ReportedDry (executeInner ext limits module state initState event isOwner)) ↔
      ¬ExecuteStartDry ext limits module state initState event) ∧
    ((ValidateStartDry ext limits module initState ∨
          ValidateInitDry ext limits module initState →
        ReportedDry (validateInner ext limits module initState)) ↔
      ¬ValidateStartDry ext limits module initState ∧
        ¬ValidateInitDry ext limits module initState) := by
  constructor
  · constructor
    · intro hreport hdry
      obtain ⟨consumed, hc⟩ := hreport (Or.inl hdry)
      rw [executeInner_startDry hdry] at hc
      simp at hc
    · intro hstart hdry
      rcases hdry with hs | hm
      · exact absurd hs hstart
      · exact executeInner_mainDry hm
  · constructor
    · intro hreport
      refine ⟨fun hdry => ?_, fun hdry => ?_⟩
      · obtain ⟨consumed, hc⟩ := hreport (Or.inl hdry)
        rw [validateInner_startDry hdry] at hc
        simp at hc
      · obtain ⟨consumed, hc⟩ := hreport (Or.inr hdry)
        rw [validateInner_initDry hdry] at hc
        simp at hc
    · rintro ⟨hstart, hinit⟩ hdry
      rcases hdry with hs | hi
      · exact absurd hs hstart
      · exact absurd hi hinit

/-! ### A start function that never returns -/

/-- The libraries of a contract whose only value is `null`. -/
def nullExternals : Externals Unit where
  json :=
    { toVec := fun _ => .ok jsonNull
      fromSlice := fun bytes => if bytes = jsonNull then .ok () else .error "expected null" }
  wasmText := fun e =>
    if e = .trap .outOfFuel then "wasm trap: all fuel consumed by WebAssembly"
    else "error while executing the module"
  borshText := fun _ => "Unexpected length of input"

/-- A module that loops wherever it is entered, its start function included. -/
def spinning : WasmModule Unit where
  imports := Sdk.externf
  memories := []
  tables := []
  memoryExport := false
  data := []
  globals := ()
  start := some id
  mainFunction := some fun q _ _ _ _ => q
  initCheckFunction := some fun q _ => q
  step := fun q => .ask .compute fun _ => q

/-- It runs dry on every budget. -/
theorem spinning_call (fuel : Nat) (store : Store) :
    (spinning.call fuel () store).outcome = .error (.trap .outOfFuel) := by
  have hgoing : ∀ (q : Unit) (s : Store), True → ∃ op k a s',
      (spinning.step q).mapFail WasmError.trap = .ask op k ∧ exec op s = (.ok a, s') ∧ True :=
    fun q s _ => ⟨.compute, fun _ => q, (), s, rfl, rfl, trivial⟩
  exact run_dry hgoing fuel () store trivial

theorem spinning_instantiate (context : MemoryManager) (fuel : Nat) :
    spinning.instantiate context fuel = .error (.trap .outOfFuel) := by
  have hlinked : spinning.Linked := by unfold WasmModule.Linked; decide
  have hadm : spinning.Admitted context.storeLimits := by
    simp [WasmModule.Admitted, StoreLimits.admits, spinning]
  rw [WasmModule.instantiate_admitted hlinked hadm rfl]
  exact WasmModule.started_failed rfl (spinning_call fuel _)

/-- **A start function that loops is reported as a broken node.** -/
theorem spinning_start_misreported :
    ExecuteStartDry nullExternals (WasmLimits.build 4096 2) spinning () () () ∧
      ¬ReportedDry
        (executeInner nullExternals (WasmLimits.build 4096 2) spinning () () () true) := by
  have hdry : ExecuteStartDry nullExternals (WasmLimits.build 4096 2) spinning () () () :=
    ⟨_, rfl, spinning_instantiate _ _⟩
  refine ⟨hdry, ?_⟩
  rintro ⟨consumed, hc⟩
  rw [executeInner_startDry hdry] at hc
  simp at hc

end Ave
