/-
What the smallest machine decides for all of them.

The limits have a floor, so that "the smallest compliant node must instantiate
anything the fleet accepts".  `Proofs/Agreement.lean` compares the answers of
`execute` under any two sets of caps.  Here the same is had for `validate`, and then
for the machines themselves: every one whose cores can be counted has at least the
caps of the smallest, so what the smallest decides is decided.

Validation is also what makes execution safe to start.  A module that was validated
links, is within the caps and has its entry points, on any machine at least as
large; so an execution there can fail to reach `main_function` in two ways only:
its inputs could not be staged, or the start function stopped on them.
-/
import AveContract.Proofs.Agreement
import AveContract.Proofs.Execution
import AveContract.Proofs.Fleet
import AveContract.Proofs.Lives

namespace Ave

open Metered MemoryManager

/-! ### One validation on two machines -/

section Validations

variable {V σ : Type} {ext : Externals V} {limits limits₁ limits₂ : WasmLimits}
  {module : WasmModule σ} {value : V}

/-- `init_check_function` was called and returned. -/
def Checks (ext : Externals V) (limits : WasmLimits) (module : WasmModule σ) (value : V) : Prop :=
  ∃ inst r x, callInitCheck ext limits module value = .ok (inst, r) ∧ r.outcome = .ok x

/-- The call of the check, from the phases before it. -/
theorem callInitCheck_of_instance {b : Bytes} {inst : Instance σ}
    {mainEntry : σ → Word → Word → Word → Word → σ} {entry : σ → Word → σ}
    (himports : validateImports module.imports = .ok ()) (hb : Serializes ext value b)
    (hfits : (fromLimits limits).Fits (4 + b.length))
    (hinst : module.instantiate ((fromLimits limits).staged b) maxFuelCompilation = .ok inst)
    (hmain : module.mainFunction = some mainEntry) (hentry : module.initCheckFunction = some entry) :
    callInitCheck ext limits module value
      = .ok (inst, module.call inst.fuel (entry inst.globals (usizeAsU32 0)) inst.store) := by
  have hgen : generateContext ext value limits
      = .ok ((fromLimits limits).staged b, usizeAsU32 0) := by
    unfold generateContext
    rw [stageValue_fits hb hfits]
    rfl
  unfold callInitCheck
  rw [himports]
  simp only
  rw [hgen]
  simp only
  rw [hinst]
  simp only
  rw [hmain, hentry]

/-- One payload is staged alike under any two sets of caps. -/
theorem freshStore_same_one (module : WasmModule σ) (limits₁ limits₂ : WasmLimits)
    (b memory : Bytes) :
    SameStore limits₁ limits₂ (module.freshStore ((fromLimits limits₁).staged b) memory)
      (module.freshStore ((fromLimits limits₂).staged b) memory) :=
  ⟨rfl, rfl, rfl, rfl, rfl, staged_caps limits₁ b, staged_caps limits₂ b⟩

/-- **Two checks that returned give one verdict.** -/
theorem checks_same (h₁ : Checks ext limits₁ module value) (h₂ : Checks ext limits₂ module value) :
    validateInner ext limits₁ module value = validateInner ext limits₂ module value := by
  obtain ⟨i₁, r₁, ⟨p, q⟩, hcall₁, hout₁⟩ := h₁
  obtain ⟨i₂, r₂, ⟨p₂, q₂⟩, hcall₂, hout₂⟩ := h₂
  obtain ⟨b, -, entry, -, hb, -, hinst₁, -, hentry, rfl⟩ := callInitCheck_inv hcall₁
  obtain ⟨b₂, -, entry₂, -, hb₂, -, hinst₂, -, hentry₂, rfl⟩ := callInitCheck_inv hcall₂
  obtain rfl := hb.unique hb₂
  obtain rfl : entry = entry₂ := Option.some.inj (hentry.symm.trans hentry₂)
  obtain ⟨-, -, memory, hdata, hstarted₁⟩ := WasmModule.instantiate_ok hinst₁
  obtain ⟨-, -, memory₂, hdata₂, hstarted₂⟩ := WasmModule.instantiate_ok hinst₂
  obtain rfl : memory = memory₂ := Except.ok.inj (hdata.symm.trans hdata₂)
  obtain ⟨hfollow, hstop⟩ :=
    started_follow (freshStore_same_one module limits₁ limits₂ b memory) hstarted₁
  have hall : AllWithin limits₂ i₁.started := by
    by_contra hno
    obtain ⟨e, he, -⟩ := hstop hno
    rw [hstarted₂] at he
    simp at he
  obtain ⟨i, hi, hsame⟩ := hfollow hall
  obtain rfl : i₂ = i := Except.ok.inj (hstarted₂.symm.trans hi)
  rw [← hsame.fuel, ← hsame.globals] at hout₂ hcall₂
  obtain ⟨hmain, hover⟩ := call_follow hsame.store i₁.fuel _ hout₁
  by_cases hwithin : AllWithin limits₂
      (module.call i₁.fuel (entry i₁.globals (usizeAsU32 0)) i₁.store).events
  · have hf := hmain hwithin
    have hp : p₂ = p := by
      have heq := hout₂.symm.trans (hf.outcome.symm.trans hout₁)
      simp only [Except.ok.injEq, Prod.mk.injEq] at heq
      exact heq.1
    rw [validateInner_of_returned hcall₁ hout₁, validateInner_of_returned hcall₂ hout₂, hp]
    unfold checkInitResult
    rw [readData_congr hf.final.hostMemory hf.final.hostMap]
  · obtain ⟨e, he, -⟩ := hover hwithin
    rw [hout₂] at he
    simp at he

/-- **Under larger caps a check returns as well.** -/
theorem checks_grown (hle : CapsLe limits₁ limits₂) (h : Checks ext limits₁ module value) :
    Checks ext limits₂ module value := by
  obtain ⟨i₁, r₁, x, hcall, hout⟩ := h
  obtain ⟨b, mainEntry, entry, himports, hb, hfits, hinst, hmain, hentry, rfl⟩ :=
    callInitCheck_inv hcall
  obtain ⟨hlinked, hadm, memory, hdata, hstarted⟩ := WasmModule.instantiate_ok hinst
  have hsame := freshStore_same_one module limits₁ limits₂ b memory
  have hwithin : AllWithin limits₁ i₁.started := started_within hsame.caps₁ hstarted
  obtain ⟨i₂, hi₂, hinsts⟩ :=
    (started_follow hsame hstarted).1 fun e he => (hwithin e he).mono hle
  have hadm₂ : module.Admitted ((fromLimits limits₂).staged b).storeLimits :=
    WasmModule.Admitted.mono hle hadm
  have hinst₂ : module.instantiate ((fromLimits limits₂).staged b) maxFuelCompilation = .ok i₂ := by
    rw [WasmModule.instantiate_admitted hlinked hadm₂ hdata, hi₂]
  have hfits₂ : (fromLimits limits₂).Fits (4 + b.length) := by
    rw [fits_iff (freshContext_caps limits₁)] at hfits
    rw [fits_iff (freshContext_caps limits₂)]
    exact ⟨⟨Nat.le_trans hfits.1.1 hle.maxSingleAlloc, Nat.le_trans hfits.1.2 hle.maxTotalMemory⟩,
      hfits.2⟩
  refine ⟨i₂, _, x, callInitCheck_of_instance himports hb hfits₂ hinst₂ hmain hentry, ?_⟩
  have hcalled : AllWithin limits₁
      (module.call i₁.fuel (entry i₁.globals (usizeAsU32 0)) i₁.store).events :=
    call_within hinsts.store.caps₁
  rw [← hinsts.fuel, ← hinsts.globals]
  rw [← ((call_follow hinsts.store i₁.fuel _ hout).1 fun e he => (hcalled e he).mono hle).outcome]
  exact hout

/-- What validation accepted was checked. -/
theorem checks_of_valid (h : validateInner ext limits module value = .ok ()) :
    Checks ext limits module value := by
  obtain ⟨inst, r, p, q, hcall, hout, -⟩ := validateInner_ok h
  exact ⟨inst, r, (p, q), hcall, hout⟩

/-- **What validation accepted is accepted under larger caps.** -/
theorem valid_grown (hle : CapsLe limits₁ limits₂)
    (h : validateInner ext limits₁ module value = .ok ()) :
    validateInner ext limits₂ module value = .ok () := by
  have hchecks := checks_of_valid h
  rw [← checks_same hchecks (checks_grown hle hchecks)]
  exact h

/--
**Validation gives one verdict wherever it gives one.**

For any module, initial state and two sets of limits.  Two checks that returned are
reported alike, whatever they returned; a check that returned under some caps returns
under any larger ones, and what was accepted stays accepted there.
-/
theorem validation_agrees {V σ : Type} (ext : Externals V) (limits₁ limits₂ : WasmLimits)
    (module : WasmModule σ) (value : V) :
    (Checks ext limits₁ module value → Checks ext limits₂ module value →
      validateInner ext limits₁ module value = validateInner ext limits₂ module value) ∧
    (CapsLe limits₁ limits₂ →
      (Checks ext limits₁ module value → Checks ext limits₂ module value) ∧
      (validateInner ext limits₁ module value = .ok () →
        validateInner ext limits₂ module value = .ok ())) :=
  ⟨checks_same, fun hle => ⟨checks_grown hle, valid_grown hle⟩⟩

end Validations

/-! ### From validation to execution -/

section Deployed

variable {V σ : Type} {ext : Externals V} {limits limits₁ limits₂ : WasmLimits}
  {module : WasmModule σ} {value state initState event : V} {isOwner : Bool}

/-- What can be relied on once the check was called: the module links, is within the caps, its data
has a place and its entry point is there. -/
structure Deployed (limits : WasmLimits) (module : WasmModule σ) : Prop where
  linked : module.Linked
  admitted : module.Admitted (fromLimits limits).storeLimits
  data : ∃ memory, initData module.data module.initialMemory = .ok memory
  main : ∃ entry, module.mainFunction = some entry

theorem Checks.deployed (h : Checks ext limits module value) : Deployed limits module := by
  obtain ⟨inst, r, x, hcall, -⟩ := h
  obtain ⟨b, mainEntry, entry, -, -, -, hinst, hmain, -, -⟩ := callInitCheck_inv hcall
  obtain ⟨hlinked, hadm, memory, hdata, -⟩ := WasmModule.instantiate_ok hinst
  exact ⟨hlinked, hadm, ⟨memory, hdata⟩, ⟨mainEntry, hmain⟩⟩

theorem Deployed.mono (hle : CapsLe limits₁ limits₂) (h : Deployed limits₁ module) :
    Deployed limits₂ module :=
  ⟨h.linked, WasmModule.Admitted.mono hle h.admitted, h.data, h.main⟩

/-- The start function was entered on the staged inputs and did not return. -/
def StartStops (ext : Externals V) (limits : WasmLimits) (module : WasmModule σ)
    (state initState event : V) (e : WasmError) : Prop :=
  ∃ b₁ b₂ b₃ memory enter, Serializes ext state b₁ ∧ Serializes ext initState b₂ ∧
    Serializes ext event b₃ ∧ Stageable limits b₁ b₂ b₃ ∧ module.start = some enter ∧
    (module.call maxFuel (enter module.globals)
      (module.freshStore (stagedContext limits b₁ b₂ b₃).context memory)).outcome = .error e

/-- How far an execution of a validated module gets. -/
inductive Reaches (ext : Externals V) (limits : WasmLimits) (module : WasmModule σ)
    (state initState event : V) (isOwner : Bool) : Prop where
  /-- The inputs were not staged. -/
  | unstaged (e : RuntimeError)
      (stage : generateExecutionContext ext state initState event limits = .error e)
      (answer : executeInner ext limits module state initState event isOwner = .error e)
  /-- The start function stopped. -/
  | stopped (e : WasmError) (start : StartStops ext limits module state initState event e)
      (answer : executeInner ext limits module state initState event isOwner
        = .error (.instantiationFailed (ext.wasmText e)))
  /-- `main_function` was called. -/
  | called (inst : Instance σ) (r : GuestRun σ)
      (call : callMain ext limits module state initState event isOwner = .ok (inst, r))
      (answer : executeInner ext limits module state initState event isOwner = finishCall ext r)

/-- A start that fails was a start function's. -/
theorem started_error {fuel : Nat} {s : Store} {e : WasmError}
    (h : module.started fuel s = .error e) : ∃ enter, module.start = some enter ∧
      (module.call fuel (enter module.globals) s).outcome = .error e := by
  cases hstart : module.start with
  | none =>
      rw [WasmModule.started_none hstart] at h
      simp at h
  | some enter =>
      cases hrun : (module.call fuel (enter module.globals) s).outcome with
      | error e' =>
          rw [WasmModule.started_failed hstart hrun] at h
          obtain rfl := Except.error.inj h
          exact ⟨enter, rfl, hrun⟩
      | ok x =>
          rw [WasmModule.started_returned hstart hrun] at h
          simp at h

/-- **Linking, the caps and the entry point are behind a deployed module.** -/
theorem Deployed.reaches (h : Deployed limits module) (state initState event : V)
    (isOwner : Bool) : Reaches ext limits module state initState event isOwner := by
  obtain ⟨memory, hdata⟩ := h.data
  obtain ⟨entry, hentry⟩ := h.main
  cases hgen : generateExecutionContext ext state initState event limits with
  | error e =>
      refine .unstaged e hgen ?_
      unfold executeInner callMain
      rw [hgen]
  | ok staged =>
      obtain ⟨b₁, b₂, b₃, hb₁, hb₂, hb₃, hstage, rfl⟩ := generateExecutionContext_ok hgen
      have hadm : module.Admitted (stagedContext limits b₁ b₂ b₃).context.storeLimits := h.admitted
      have hinst : module.instantiate (stagedContext limits b₁ b₂ b₃).context maxFuel
          = module.started maxFuel
              (module.freshStore (stagedContext limits b₁ b₂ b₃).context memory) :=
        WasmModule.instantiate_admitted h.linked hadm hdata
      cases hstarted : module.started maxFuel
          (module.freshStore (stagedContext limits b₁ b₂ b₃).context memory) with
      | error e =>
          obtain ⟨enter, hstart, hrun⟩ := started_error hstarted
          refine .stopped e ⟨b₁, b₂, b₃, memory, enter, hb₁, hb₂, hb₃, hstage, hstart, hrun⟩ ?_
          unfold executeInner callMain
          rw [hgen]
          simp only
          rw [hinst, hstarted]
      | ok inst =>
          obtain ⟨r, hcall⟩ : ∃ r, callMain ext limits module state initState event isOwner
              = .ok (inst, r) := by
            unfold callMain
            rw [hgen]
            simp only
            rw [hinst, hstarted]
            simp only
            rw [hentry]
            exact ⟨_, rfl⟩
          exact .called inst r hcall (executeInner_called hcall)

/--
**A validated module gets to its entry point.**

Validated under some caps and executed under any larger ones, on whatever inputs:
it fails before `main_function` only where the inputs cannot be staged or its own
start function stops on them, and in the first case with an error of moving data.
Without a start function the inputs alone decide.
-/
theorem validated_reaches {V σ : Type} {ext : Externals V} {limits₁ limits₂ : WasmLimits}
    {module : WasmModule σ} {value : V} (h : validateInner ext limits₁ module value = .ok ())
    (hle : CapsLe limits₁ limits₂) (state initState event : V) (isOwner : Bool) :
    Reaches ext limits₂ module state initState event isOwner ∧
      (∀ function, executeInner ext limits₂ module state initState event isOwner
        ≠ .error (.entryPointNotFound function)) ∧
      (module.start = none →
        ((∃ inst r, callMain ext limits₂ module state initState event isOwner = .ok (inst, r)) ↔
          StagingFits ext limits₂ state initState event)) := by
  have hreaches : Reaches ext limits₂ module state initState event isOwner :=
    ((checks_of_valid h).deployed.mono hle).reaches state initState event isOwner
  refine ⟨hreaches, ?_, ?_⟩
  · intro function hno
    cases hreaches with
    | unstaged e hstage hanswer =>
        obtain rfl := Except.error.inj (hanswer.symm.trans hno)
        rcases staging_dataError hstage with ⟨_, _, he⟩ | ⟨_, he⟩ <;> simp at he
    | stopped e _ hanswer =>
        rw [hanswer] at hno
        simp at hno
    | called inst r _ hanswer =>
        rw [hanswer] at hno
        rcases finishCall_error hno with (⟨_, _, he⟩ | ⟨_, he⟩) | ⟨_, he⟩ | ⟨_, he⟩ <;> simp at he
  · intro hstart
    constructor
    · rintro ⟨inst, r, hcall⟩
      obtain ⟨b₁, b₂, b₃, -, hb₁, hb₂, hb₃, hstage, -⟩ := callMain_ok hcall
      exact ⟨b₁, b₂, b₃, hb₁, hb₂, hb₃, hstage⟩
    · rintro ⟨b₁, b₂, b₃, hb₁, hb₂, hb₃, hstage⟩
      cases hreaches with
      | unstaged e hgen _ =>
          rw [generateExecutionContext_fits hb₁ hb₂ hb₃ hstage] at hgen
          simp at hgen
      | stopped e hstop _ =>
          obtain ⟨_, _, _, _, enter, _, _, _, _, henter, _⟩ := hstop
          rw [hstart] at henter
          simp at henter
      | called inst r hcall _ => exact ⟨inst, r, hcall⟩

end Deployed

/-! ### The smallest machine -/

/-- The machine at every floor: 512 MiB of RAM and no more cores than count for the tables. -/
def floorMachine : ResolvedMachineSpec := smallestMachine 2

/-- **No machine whose cores can be counted is smaller.** -/
theorem floorMachine_le {spec : ResolvedMachineSpec} (h : Countable spec) :
    CapsLe floorMachine.limits spec.limits := by
  have hmem : floorMachine.limits.memorySize = 4 * 1024 * 1024 := by decide
  have hsingle : floorMachine.limits.maxSingleAlloc = 1024 * 1024 := by decide
  have htotal : floorMachine.limits.maxTotalMemory = 3 * 1024 * 1024 := by decide
  have htable : floorMachine.limits.maxTableElements = 512 := by decide
  have hrange : spec.limits.InRange := WasmLimits.build_inRange spec.ramMb spec.cpuCores h
  have h3 : 3 * spec.limits.maxSingleAlloc = spec.limits.maxTotalMemory :=
    WasmLimits.build_three_maxSingleAlloc spec.ramMb spec.cpuCores
  have hfloor := hrange.totalFloor
  refine ⟨?_, by omega, by omega, ?_⟩
  · rw [hmem]
    exact hrange.memoryFloor
  · rw [htable]
    exact hrange.tableFloor

section Floor

variable {V σ : Type} {ext : Externals V} {module : WasmModule σ} {initState value : V}

/-- The same event on the smallest machine. -/
def Turn.onFloor (turn : Turn V) : Turn V := { turn with machine := floorMachine }

theorem onFloor_larger : ∀ {turns : List (Turn V)}, (∀ turn ∈ turns, Countable turn.machine) →
    List.Forall₂ LargerTurn (turns.map Turn.onFloor) turns := by
  intro turns
  induction turns with
  | nil => intro _; exact .nil
  | cons turn rest ih =>
      intro h
      obtain ⟨hturn, hrest⟩ := List.forall_mem_cons.mp h
      exact .cons ⟨⟨rfl, rfl⟩, floorMachine_le hturn⟩ (ih hrest)

/--
**What the smallest machine decides is decided for all of them.**

For any module.  An initial state that it validates every machine validates; and
where it is not stopped during a life, every fleet of machines lives that life, event
by event, with the same answers and the same state at the end.
-/
theorem floor_decides {V σ : Type} (ext : Externals V) (module : WasmModule σ) (initState : V) :
    (∀ spec, Countable spec → validateInner ext floorMachine.limits module initState = .ok () →
      validateInner ext spec.limits module initState = .ok ()) ∧
    ∀ (turns : List (Turn V)) (value : V), (∀ turn ∈ turns, Countable turn.machine) →
      Unstopped ext module initState value (turns.map Turn.onFloor) →
      answers ext module initState value turns
          = answers ext module initState value (turns.map Turn.onFloor) ∧
        live ext module initState value turns
          = live ext module initState value (turns.map Turn.onFloor) := by
  refine ⟨fun spec hspec h => valid_grown (floorMachine_le hspec) h, ?_⟩
  intro turns value hfleet h
  obtain ⟨hanswers, hlive⟩ := alike_of_larger value (onFloor_larger hfleet) h
  exact ⟨hanswers.symm, hlive.symm⟩

end Floor

/-! ### An SDK contract that has room on the smallest machine -/

namespace Sdk

open Slice Borsh

section Whole

variable {V State Event : Type} {ext : Externals V} {build : Build}
  {contract : Contract State Event} {shell : Shell} {state initState event : V} {isOwner : Bool}
  {b₁ b₂ b₃ bytes : Bytes}

end Whole

/-- The latch was validated on the default machine, and is called on a larger one. -/
theorem latch_reaches : Reaches boolExternals (ResolvedMachineSpec.limits ⟨4096, 8⟩)
    (latch.module bareBuild pageShell) true true false false := by
  have hle : CapsLe (ResolvedMachineSpec.limits ⟨4096, 2⟩) (ResolvedMachineSpec.limits ⟨4096, 8⟩) :=
    ⟨by decide, by decide, by decide, by decide⟩
  exact (validated_reaches latch_validated hle true true false false).1

end Sdk

end Ave
