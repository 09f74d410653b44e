/-
Host and guest together run the contract.

The reference outcome knows neither side.  What has to be shown is that an
execution that got through all its phases reports just that: three inputs staged
by the host, read by the guest, a callback, a result stored by the guest and read
by the host.  The pieces are in `Proofs/SdkCalls.lean`; here they are put in the
source's order, once for the part that can fail (`tryExecuteContract_returns`)
and once with the fallback around it, which stores the failure in the result's
place.
-/
import AveContract.Proofs.Capacity
import AveContract.Proofs.SdkCalls

namespace Ave

open Slice Borsh Metered

namespace Sdk

/-- The manager holds the three inputs of an execution. -/
structure HoldsInputs (m : MemoryManager) (b₁ b₂ b₃ : Bytes) : Prop where
  state : HoldsInput m 0 b₁
  initState : HoldsInput m (4 + b₁.length) b₂
  event : HoldsInput m (4 + b₁.length + (4 + b₂.length)) b₃
  stateLen : 4 + b₁.length ≤ 10000000
  initStateLen : 4 + b₂.length ≤ 10000000
  eventLen : 4 + b₃.length ≤ 10000000

section Entry

variable {State Event : Type} {build : Build} {contract : Contract State Event}
  {limits : WasmLimits} {m : MemoryManager} {s t : Store} {b₁ b₂ b₃ : Bytes}

theorem readState_returns {r : Except String State} (hs : Ready limits m s)
    (hsmall : Small limits m) (hin : HoldsInputs m b₁ b₂ b₃)
    (h : Returns (readState build contract (usizeAsU32 0) (usizeAsU32 (4 + b₁.length))) s r t) :
    r = referenceState contract b₁ b₂ ∧ Ready limits m t := by
  unfold readState at h
  obtain ⟨first, s₁, hread, h⟩ := Returns.bind h
  obtain ⟨hfirst, hs₁⟩ := readAndParse_returns hs hsmall hin.state hin.stateLen hread
  unfold referenceState
  rw [← hfirst]
  cases first with
  | ok state =>
      obtain ⟨rfl, rfl⟩ := Returns.pure h
      exact ⟨rfl, hs₁⟩
  | error e₁ =>
      simp only at h
      obtain ⟨second, s₂, hread₂, h⟩ := Returns.bind h
      obtain ⟨hsecond, hs₂⟩ :=
        readAndParse_returns hs₁ hsmall hin.initState hin.initStateLen hread₂
      simp only
      rw [← hsecond]
      cases second with
      | ok state =>
          obtain ⟨rfl, rfl⟩ := Returns.pure h
          exact ⟨rfl, hs₂⟩
      | error e₂ =>
          obtain ⟨rfl, rfl⟩ := Returns.pure h
          exact ⟨rfl, hs₂⟩

/-- The owner flag arrives as it was sent. -/
theorem owner_flag (isOwner : Bool) : ((if isOwner then 1 else 0 : Word) == ownerFlag) = isOwner := by
  cases isOwner <;> rfl

/-- **Up to the store of its result, the entry point computes the reference.** -/
theorem tryExecuteContract_begins {isOwner : Bool} {r : Except String Word} (hs : Ready limits m s)
    (hsmall : Small limits m) (hin : HoldsInputs m b₁ b₂ b₃)
    (h : Returns (tryExecuteContract build contract (usizeAsU32 0) (usizeAsU32 (4 + b₁.length))
      (usizeAsU32 (4 + b₁.length + (4 + b₂.length))) (if isOwner then 1 else 0)) s r t) :
    match tryReference contract b₁ b₂ b₃ isOwner with
    | .error e => r = .error e ∧ Ready limits m t
    | .ok outcome => ∃ s' stored, Ready limits m s' ∧
        Returns (store build .result ContractResultData.codec outcome) s' stored t ∧
        r = match stored with
          | .error _ => .error errReturnResult
          | .ok ptr => .ok ptr := by
  unfold tryExecuteContract at h
  obtain ⟨state, s₁, hstate, h⟩ := Returns.bind h
  obtain ⟨hstate', hs₁⟩ := readState_returns hs hsmall hin hstate
  unfold tryReference
  rw [← hstate']
  cases state with
  | error e =>
      obtain ⟨rfl, rfl⟩ := Returns.pure h
      exact ⟨rfl, hs₁⟩
  | ok state =>
      simp only at h ⊢
      obtain ⟨event, s₂, hevent, h⟩ := Returns.bind h
      obtain ⟨hevent', hs₂⟩ := readAndParse_returns hs₁ hsmall hin.event hin.eventLen hevent
      rw [← hevent']
      cases event with
      | error e =>
          obtain ⟨rfl, rfl⟩ := Returns.pure h
          exact ⟨rfl, hs₂⟩
      | ok event =>
          simp only at h ⊢
          obtain ⟨u, s₃, hwork, h⟩ := Returns.bind h
          have hs₃ : Ready limits m s₃ := doWork_returns hs₂ hwork
          rw [owner_flag, contractResultData] at h
          cases hser : contract.state.toVec
              (contract.callback { event, isOwner } (.new state)).state with
          | error e =>
              rw [hser] at h
              obtain ⟨rfl, rfl⟩ := Returns.pure h
              exact ⟨rfl, hs₃⟩
          | ok stateBytes =>
              rw [hser] at h
              simp only at h ⊢
              obtain ⟨stored, s₄, hstore, h⟩ := Returns.bind h
              refine ⟨s₃, stored, hs₃, ?_, ?_⟩
              · cases stored with
                | error e =>
                    obtain ⟨-, rfl⟩ := Returns.pure h
                    exact hstore
                | ok ptr =>
                    obtain ⟨-, rfl⟩ := Returns.pure h
                    exact hstore
              · cases stored with
                | error e => exact (Returns.pure h).1
                | ok ptr => exact (Returns.pure h).1

/-- No result is encoded as nothing. -/
theorem encode_result_pos {outcome : ContractResultData} {bytes : Bytes}
    (henc : ContractResultData.codec.encode outcome = .ok bytes) : 0 < bytes.length := by
  refine List.length_pos_iff.mpr ?_
  rintro rfl
  have hdec : ContractResultData.codec.decode [] = .ok (outcome, []) :=
    ContractResultData.codec.decode_encode henc []
  have hnil : ContractResultData.codec.decode [] = .error .unexpectedLength := rfl
  rw [hnil] at hdec
  simp at hdec

/-- **The entry point stores the reference outcome and returns where it is.** -/
theorem executeContract_returns {isOwner : Bool} {ptr : Word} {bytes : Bytes}
    (hs : Ready limits m s) (hsmall : Small limits m) (hpos : 0 < m.memory.length)
    (hin : HoldsInputs m b₁ b₂ b₃)
    (henc : ContractResultData.codec.encode (reference contract b₁ b₂ b₃ isOwner) = .ok bytes)
    (h : Returns (executeContract build contract (usizeAsU32 0) (usizeAsU32 (4 + b₁.length))
      (usizeAsU32 (4 + b₁.length + (4 + b₂.length))) (if isOwner then 1 else 0)) s ptr t) :
    ptr = usizeAsU32 m.memory.length ∧ m.Fits bytes.length ∧
      t.data = (m.grown bytes.length).written m.memory.length bytes := by
  have hne := encode_result_pos henc
  unfold executeContract at h
  obtain ⟨r, s₁, htry, h⟩ := Returns.bind h
  have hbegins := tryExecuteContract_begins hs hsmall hin htry
  unfold reference at henc
  cases href : tryReference contract b₁ b₂ b₃ isOwner with
  | ok outcome =>
      rw [href] at hbegins henc
      obtain ⟨s', stored, hs', hstore, hr⟩ := hbegins
      obtain ⟨hstored, hfits, hdata⟩ := store_returns hs' hsmall hpos henc hne hstore
      rw [hstored] at hr
      subst hr
      obtain ⟨rfl, rfl⟩ := Returns.pure h
      exact ⟨rfl, hfits, hdata⟩
  | error e =>
      rw [href] at hbegins henc
      obtain ⟨rfl, hs₁⟩ := hbegins
      simp only at h
      obtain ⟨stored, s₂, hstore, h⟩ := Returns.bind h
      obtain ⟨hstored, hfits, hdata⟩ := store_returns hs₁ hsmall hpos henc hne hstore
      rw [hstored] at h
      obtain ⟨rfl, rfl⟩ := Returns.pure h
      exact ⟨rfl, hfits, hdata⟩

end Entry

/-! ### The store an execution starts on -/

section Start

variable {V σ : Type} {ext : Externals V} {spec : ResolvedMachineSpec} {module : WasmModule σ}
  {b₁ b₂ b₃ : Bytes}

/-- Copying the data segments keeps the memory's length. -/
theorem length_initData : ∀ (segments : List (Nat × Bytes)) {memory memory' : Bytes},
    initData segments memory = .ok memory' → memory'.length = memory.length := by
  intro segments
  induction segments with
  | nil =>
      intro memory memory' h
      rw [initData, Except.ok.injEq] at h
      rw [h]
  | cons segment rest ih =>
      intro memory memory' h
      rw [initData] at h
      split at h
      · rename_i hin
        rw [ih h, length_patch hin]
      · simp at h

/-- An admitted module starts within its limit. -/
theorem length_initialMemory {limits : StoreLimits} (hadm : module.Admitted limits) :
    module.initialMemory.length ≤ limits.memorySize := by
  obtain ⟨-, -, hmem, -⟩ := StoreLimits.admits_iff.mp hadm
  unfold WasmModule.initialMemory
  cases hm : module.memories with
  | nil => exact Nat.zero_le _
  | cons memory rest =>
      rw [hm] at hmem
      rw [List.length_replicate]
      exact hmem memory.minimum (by simp)

/-- The staged inputs are held where their pointers say, on every machine. -/
theorem stagedContext_holds (h : Stageable spec.limits b₁ b₂ b₃) :
    HoldsInputs (stagedContext spec.limits b₁ b₂ b₃).context b₁ b₂ b₃ := by
  have hcap : spec.limits.maxSingleAlloc ≤ 8 * 1024 * 1024 :=
    WasmLimits.build_maxSingleAlloc_le spec.ramMb spec.cpuCores
  have h₁ : 4 + b₁.length ≤ spec.limits.maxSingleAlloc := h.state.1
  have h₂ : 4 + b₂.length ≤ spec.limits.maxSingleAlloc := h.initState.1
  have h₃ : 4 + b₃.length ≤ spec.limits.maxSingleAlloc := h.event.1
  have hlen₁ : ((MemoryManager.fromLimits spec.limits).staged b₁).memory.length
      = 4 + b₁.length := by
    rw [MemoryManager.length_staged]
    exact Nat.zero_add _
  have hlen₂ : (((MemoryManager.fromLimits spec.limits).staged b₁).staged b₂).memory.length
      = 4 + b₁.length + (4 + b₂.length) := by
    rw [MemoryManager.length_staged, hlen₁]
  have hstate : HoldsInput ((MemoryManager.fromLimits spec.limits).staged b₁) 0 b₁ :=
    holdsInput_staged b₁
  have hinit := holdsInput_staged (m := (MemoryManager.fromLimits spec.limits).staged b₁) b₂
  have hevent := holdsInput_staged
    (m := ((MemoryManager.fromLimits spec.limits).staged b₁).staged b₂) b₃
  rw [hlen₁] at hinit
  rw [hlen₂] at hevent
  exact ⟨(hstate.staged b₂).staged b₃, hinit.staged b₃, hevent, by omega, by omega, by omega⟩

/-- Staging leaves the host's memory tiled. -/
theorem stagedContext_tiled {limits : WasmLimits} (h : Stageable limits b₁ b₂ b₃) :
    (stagedContext limits b₁ b₂ b₃).context.Tiled :=
  (((MemoryManager.tiled_fromLimits limits).staged h.state).staged h.initState).staged h.event

theorem stagedContext_small (h : Stageable spec.limits b₁ b₂ b₃) :
    Small spec.limits (stagedContext spec.limits b₁ b₂ b₃).context := by
  have htotal : (stagedContext spec.limits b₁ b₂ b₃).context.memory.length
      ≤ spec.limits.maxTotalMemory := (stagedContext_tiled h).total
  have hhost : spec.limits.maxTotalMemory ≤ 24 * 1024 * 1024 :=
    WasmLimits.build_maxTotalMemory_le spec.ramMb spec.cpuCores
  have hguest : spec.limits.memorySize ≤ 32 * 1024 * 1024 :=
    WasmLimits.build_memorySize_le spec.ramMb spec.cpuCores
  constructor
  · unfold i32Max
    omega
  · unfold i32Max
    omega

/-- The staged inputs take up room. -/
theorem stagedContext_pos (limits : WasmLimits) :
    0 < (stagedContext limits b₁ b₂ b₃).context.memory.length := by
  show 0 < (((MemoryManager.fromLimits limits).staged b₁).staged b₂ |>.staged b₃).memory.length
  rw [MemoryManager.length_staged]
  omega

/-- `main_function` of an SDK contract starts on the staged inputs. -/
theorem freshStore_ready {limits : WasmLimits} {memory : Bytes}
    (hadm : module.Admitted (stagedContext limits b₁ b₂ b₃).context.storeLimits)
    (hdata : initData module.data module.initialMemory = .ok memory) :
    Ready limits (stagedContext limits b₁ b₂ b₃).context
      (module.freshStore (stagedContext limits b₁ b₂ b₃).context memory) := by
  refine ⟨rfl, stagedContext_caps limits b₁ b₂ b₃, ?_⟩
  show memory.length ≤ limits.memorySize
  rw [length_initData module.data hdata]
  exact length_initialMemory hadm

end Start

/-! ### The whole execution -/

section Whole

variable {V State Event : Type} {ext : Externals V} {build : Build}
  {contract : Contract State Event} {shell : Shell} {spec : ResolvedMachineSpec}
  {state initState event : V} {isOwner : Bool} {b₁ b₂ b₃ bytes : Bytes}

/-- A call that returned did what the entry point does. -/
theorem call_returns {fuel : Nat} {p : Guest Word} {s : Store} {ptr : Word} {q : Guest Word}
    (h : ((contract.module build shell).call fuel p s).outcome = .ok (ptr, q)) :
    Returns p s ptr ((contract.module build shell).call fuel p s).final :=
  Prog.eval_of_run _ fuel p s ptr q h

/-- What `main_function` of an SDK contract was called on and with. -/
theorem callMain_contract {inst : Instance (Guest Word)} {r : GuestRun (Guest Word)}
    {limits : WasmLimits} (h₁ : Serializes ext state b₁) (h₂ : Serializes ext initState b₂)
    (h₃ : Serializes ext event b₃)
    (h : callMain ext limits (contract.module build shell) state initState event isOwner
      = .ok (inst, r)) :
    Stageable limits b₁ b₂ b₃ ∧
      ∃ s, Ready limits (stagedContext limits b₁ b₂ b₃).context s ∧
        r = (contract.module build shell).call maxFuel
          (executeContract build contract (usizeAsU32 0) (usizeAsU32 (4 + b₁.length))
            (usizeAsU32 (4 + b₁.length + (4 + b₂.length))) (if isOwner then 1 else 0)) s := by
  obtain ⟨c₁, c₂, c₃, entry, hc₁, hc₂, hc₃, hstage, hinst, hentry, rfl⟩ := callMain_ok h
  obtain rfl := hc₁.unique h₁
  obtain rfl := hc₂.unique h₂
  obtain rfl := hc₃.unique h₃
  obtain ⟨-, hadm, memory, hdata, hstarted⟩ := WasmModule.instantiate_ok hinst
  rw [WasmModule.started_none rfl, Except.ok.injEq] at hstarted
  subst hstarted
  obtain rfl := Option.some.inj hentry
  exact ⟨hstage, _, freshStore_ready hadm hdata, rfl⟩

/-- The reference outcome, stored and read back, is reported as it is. -/
theorem getExecutionResult_stored {store : Store} {p : Word} {outcome : ContractResultData}
    (henc : ContractResultData.codec.encode outcome = .ok bytes)
    (hread : store.data.readData (u32AsUsize p) = .ok bytes) :
    getExecutionResult ext store p = report ext outcome := by
  have hdec : ContractResultData.codec.tryFromSlice bytes = .ok outcome :=
    ContractResultData.codec.tryFromSlice_encode henc
  unfold getExecutionResult
  rw [hread]
  simp only [hdec]
  rfl

/-- What a call that returned is finished to. -/
theorem finishCall_returned {σ : Type} {r : GuestRun σ} {p : Word} {q : σ}
    (hout : r.outcome = .ok (p, q)) :
    ∃ stats, finishCall ext r
      = (getExecutionResult ext r.final p).map fun result => (result, stats) := by
  unfold finishCall
  simp only [hout]
  cases getExecutionResult ext r.final p with
  | error e => exact ⟨⟨0, 0, false⟩, rfl⟩
  | ok result => exact ⟨_, rfl⟩

/-- **A contract that returned had a result within the caps, and left it where the host looks.** -/
theorem callMain_result {inst : Instance (Guest Word)} {r : GuestRun (Guest Word)}
    {ptr : Word} {q : Guest Word} (h₁ : Serializes ext state b₁)
    (h₂ : Serializes ext initState b₂) (h₃ : Serializes ext event b₃)
    (hcall : callMain ext spec.limits (contract.module build shell) state initState event isOwner
      = .ok (inst, r))
    (hout : r.outcome = .ok (ptr, q))
    (henc : ContractResultData.codec.encode (reference contract b₁ b₂ b₃ isOwner) = .ok bytes) :
    (stagedContext spec.limits b₁ b₂ b₃).context.Fits bytes.length ∧
      r.final.data.readData (u32AsUsize ptr) = .ok bytes := by
  obtain ⟨hstage, s, hready, rfl⟩ := callMain_contract h₁ h₂ h₃ hcall
  have htiled := stagedContext_tiled hstage
  have hsmall := stagedContext_small hstage
  obtain ⟨hptr, hfits, hdata⟩ := executeContract_returns hready hsmall
    (stagedContext_pos spec.limits) (stagedContext_holds hstage) henc (call_returns hout)
  have haddr : u32AsUsize (usizeAsU32 (stagedContext spec.limits b₁ b₂ b₃).context.memory.length)
      = (stagedContext spec.limits b₁ b₂ b₃).context.memory.length :=
    usizeAsU32_toNat_of_i32 hsmall.host
  rw [hptr, haddr, hdata]
  exact ⟨hfits, htiled.readData_filled hfits (encode_result_pos henc)⟩

/-- **The whole execution reports it.** -/
theorem executeInner_of_returned {inst : Instance (Guest Word)} {r : GuestRun (Guest Word)}
    {x : Word × Guest Word} (h₁ : Serializes ext state b₁) (h₂ : Serializes ext initState b₂)
    (h₃ : Serializes ext event b₃)
    (hcall : callMain ext spec.limits (contract.module build shell) state initState event isOwner
      = .ok (inst, r))
    (hout : r.outcome = .ok x)
    (henc : ContractResultData.codec.encode (reference contract b₁ b₂ b₃ isOwner) = .ok bytes) :
    ∃ stats,
      executeInner ext spec.limits (contract.module build shell) state initState event isOwner
        = (report ext (reference contract b₁ b₂ b₃ isOwner)).map fun result => (result, stats) := by
  obtain ⟨ptr, q⟩ := x
  obtain ⟨-, hread⟩ := callMain_result h₁ h₂ h₃ hcall hout henc
  obtain ⟨stats, hfinish⟩ := finishCall_returned hout
  refine ⟨stats, ?_⟩
  unfold executeInner
  rw [hcall, ← getExecutionResult_stored henc hread]
  exact hfinish

end Whole

end Sdk

end Ave
