/-
Validating an SDK contract means asking its check.

`validate` has more phases than `execute`: the imports are read, one input is
staged, both entry points are looked up, and only then the guest runs.  A contract
compiled with the SDK passes the first and the third by construction
(`externf_accepted`).  What is left is the same round trip with one input and a
smaller record: staged by the host, read by the guest, given to the check, its
verdict stored by the guest and read by the host.

A message that no Borsh text can hold is the one place where verdict and reference
part, and even there nothing is accepted: the guest returns a null pointer, and the
staged text it leads to is no verdict.
-/
import AveContract.Proofs.Answers
import AveContract.Proofs.Imports

namespace Ave

open Slice Borsh Metered MemoryManager

/-! ### What `init_check_function` is called on -/

section Called

variable {V σ : Type} {ext : Externals V} {limits : WasmLimits} {module : WasmModule σ} {value : V}
  {b : Bytes}

/-- The phases a call of `init_check_function` came through. -/
theorem callInitCheck_inv {inst : Instance σ} {r : GuestRun σ}
    (h : callInitCheck ext limits module value = .ok (inst, r)) :
    ∃ b mainEntry entry, validateImports module.imports = .ok () ∧ Serializes ext value b ∧
      (fromLimits limits).Fits (4 + b.length) ∧
      module.instantiate ((fromLimits limits).staged b) maxFuelCompilation = .ok inst ∧
      module.mainFunction = some mainEntry ∧ module.initCheckFunction = some entry ∧
      r = module.call inst.fuel (entry inst.globals (usizeAsU32 0)) inst.store := by
  unfold callInitCheck at h
  split at h
  · simp at h
  · rename_i himports
    split at h
    · simp at h
    · rename_i context statePtr hgen
      unfold generateContext at hgen
      split at hgen
      · simp at hgen
      · rename_i ptr staged hstage
        obtain ⟨b, hb, hfits, rfl, rfl⟩ := stageValue_ok hstage
        simp only [Except.ok.injEq, Prod.mk.injEq] at hgen
        obtain ⟨rfl, rfl⟩ := hgen
        split at h
        · simp at h
        · rename_i inst' hinst
          split at h
          · simp at h
          · rename_i mainEntry hmain
            split at h
            · simp at h
            · rename_i entry hentry
              simp only [Except.ok.injEq, Prod.mk.injEq] at h
              obtain ⟨rfl, rfl⟩ := h
              exact ⟨b, mainEntry, entry, himports, hb, hfits, hinst, hmain, hentry, rfl⟩

/-- What `validate` accepted was called and returned, and its result was read as a success. -/
theorem validateInner_ok (h : validateInner ext limits module value = .ok ()) :
    ∃ inst r p q, callInitCheck ext limits module value = .ok (inst, r) ∧
      r.outcome = .ok (p, q) ∧ checkInitResult ext r.final p = .ok () := by
  unfold validateInner at h
  split at h
  · simp at h
  · rename_i inst r hcall
    split at h
    · simp at h
    · rename_i p q hout
      exact ⟨inst, r, p, q, hcall, hout, h⟩

/-- A call that returned is judged by what it left. -/
theorem validateInner_of_returned {inst : Instance σ} {r : GuestRun σ} {p : Word} {q : σ}
    (hcall : callInitCheck ext limits module value = .ok (inst, r)) (hout : r.outcome = .ok (p, q)) :
    validateInner ext limits module value = checkInitResult ext r.final p := by
  unfold validateInner
  rw [hcall]
  simp only [hout]

/-- One staged payload is within the caps of the limits it was staged under. -/
theorem staged_caps (limits : WasmLimits) (b : Bytes) :
    HasCaps limits ((fromLimits limits).staged b) :=
  (freshContext_caps limits).staged b

/-- A store that has one payload staged is ready for a call. -/
theorem freshStore_ready_one {memory : Bytes}
    (hadm : module.Admitted ((fromLimits limits).staged b).storeLimits)
    (hdata : initData module.data module.initialMemory = .ok memory) :
    Sdk.Ready limits ((fromLimits limits).staged b)
      (module.freshStore ((fromLimits limits).staged b) memory) := by
  refine ⟨rfl, staged_caps limits b, ?_⟩
  show memory.length ≤ limits.memorySize
  rw [Sdk.length_initData module.data hdata]
  exact Sdk.length_initialMemory hadm

/-- And small, on every machine. -/
theorem staged_small {spec : ResolvedMachineSpec} (h : (fromLimits spec.limits).Fits (4 + b.length)) :
    Sdk.Small spec.limits ((fromLimits spec.limits).staged b) := by
  have htotal : ((fromLimits spec.limits).staged b).memory.length ≤ spec.limits.maxTotalMemory :=
    ((tiled_fromLimits spec.limits).staged h).total
  have hhost : spec.limits.maxTotalMemory ≤ 24 * 1024 * 1024 :=
    WasmLimits.build_maxTotalMemory_le spec.ramMb spec.cpuCores
  have hguest : spec.limits.memorySize ≤ 32 * 1024 * 1024 :=
    WasmLimits.build_memorySize_le spec.ramMb spec.cpuCores
  constructor
  · unfold i32Max
    omega
  · unfold i32Max
    omega

theorem staged_pos (limits : WasmLimits) (b : Bytes) :
    0 < ((fromLimits limits).staged b).memory.length := by
  rw [length_staged]
  omega

end Called

namespace Sdk

/-- What a contract imports is what validation asks for. -/
theorem externf_accepted : validateImports externf = .ok () := by decide

/-! ### A check that ran to its end -/

section Whole

variable {V State Event : Type} {ext : Externals V} {build : Build}
  {contract : Contract State Event} {shell : Shell} {spec : ResolvedMachineSpec} {value : V}
  {b bytes memory : Bytes} {room w : Nat}

/-- What `init_check_function` of an SDK contract was called on and with. -/
theorem callInitCheck_contract {limits : WasmLimits} {inst : Instance (Guest Word)}
    {r : GuestRun (Guest Word)} (hb : Serializes ext value b)
    (h : callInitCheck ext limits (contract.module build shell) value = .ok (inst, r)) :
    (fromLimits limits).Fits (4 + b.length) ∧
      ∃ s, Ready limits ((fromLimits limits).staged b) s ∧
        r = (contract.module build shell).call maxFuelCompilation
          (checkInitData build contract (usizeAsU32 0)) s := by
  obtain ⟨c, mainEntry, entry, -, hc, hfits, hinst, -, hentry, rfl⟩ := callInitCheck_inv h
  obtain rfl := hc.unique hb
  obtain ⟨-, hadm, memory, hdata, hstarted⟩ := WasmModule.instantiate_ok hinst
  rw [WasmModule.started_none rfl, Except.ok.injEq] at hstarted
  subst hstarted
  obtain rfl := Option.some.inj hentry
  exact ⟨hfits, _, freshStore_ready_one hadm hdata, rfl⟩

/-- A check that was stored is reported as it is. -/
theorem checkInitResult_stored {store : Store} {p : Word} {outcome : ContractInitCheckData}
    (henc : ContractInitCheckData.codec.encode outcome = .ok bytes)
    (hread : store.data.readData (u32AsUsize p) = .ok bytes) :
    checkInitResult ext store p = reportCheck outcome := by
  have hdec : ContractInitCheckData.codec.tryFromSlice bytes = .ok outcome :=
    ContractInitCheckData.codec.tryFromSlice_encode henc
  unfold checkInitResult
  rw [hread]
  simp only [hdec]
  rfl

/-- The reference check is the first result tried. -/
theorem referenceCheck_eq_first (contract : Contract State Event) (b : Bytes) :
    referenceCheck contract b = checkOutcome.first (tryReferenceCheck contract b) := by
  unfold referenceCheck
  cases tryReferenceCheck contract b with
  | error e => rfl
  | ok outcome => rfl

/-- What is prepared for a check is the acceptance, which has a layout. -/
theorem tryReferenceCheck_ok {outcome : ContractInitCheckData}
    (h : tryReferenceCheck contract b = .ok outcome) :
    outcome = .ok ∧ ∃ s, contract.state.fromSlice b = .ok s ∧
      (contract.check s .default).success = true := by
  unfold tryReferenceCheck parseInput at h
  cases hparse : contract.state.fromSlice b with
  | error e =>
      rw [hparse] at h
      simp at h
  | ok s =>
      rw [hparse] at h
      simp only at h
      split at h
      · rename_i hcheck
        exact ⟨(Except.ok.inj h).symm, s, rfl, hcheck⟩
      · simp at h

/-- **A reference check that succeeds is a state that parsed and was accepted.** -/
theorem referenceCheck_success (contract : Contract State Event) (b : Bytes) :
    (referenceCheck contract b).success = true ↔
      ∃ s, contract.state.fromSlice b = .ok s ∧ (contract.check s .default).success = true := by
  constructor
  · intro h
    unfold referenceCheck at h
    cases htry : tryReferenceCheck contract b with
    | error e =>
        rw [htry] at h
        simp [ContractInitCheckData.failed] at h
    | ok outcome => exact (tryReferenceCheck_ok htry).2
  · rintro ⟨s, hparse, hcheck⟩
    unfold referenceCheck tryReferenceCheck parseInput
    rw [hparse]
    simp only [if_pos hcheck]
    rfl

/-- A check that has no layout is a failure: the acceptance is five bytes. -/
theorem not_success_of_unencodable (h : checkOutcome.Unencodable (referenceCheck contract b)) :
    ¬(referenceCheck contract b).success = true := by
  intro hsuccess
  obtain ⟨s, hparse, hcheck⟩ := (referenceCheck_success contract b).mp hsuccess
  have hok : referenceCheck contract b = .ok := by
    unfold referenceCheck tryReferenceCheck parseInput
    rw [hparse]
    simp only [if_pos hcheck]
  rw [hok] at h
  exact h [1, 0, 0, 0, 0] rfl

/-- What is reported of a check that ran to its end: whether it succeeded, and the whole of it. -/
structure Checked (contract : Contract State Event) (b : Bytes)
    (answer : Except RuntimeError Unit) : Prop where
  success : answer = .ok () ↔ (referenceCheck contract b).success = true
  whole : ∀ bytes, ContractInitCheckData.codec.encode (referenceCheck contract b) = .ok bytes →
    answer = reportCheck (referenceCheck contract b)

/-- **A check that ran to its end is reported.** -/
theorem validateInner_checked {inst : Instance (Guest Word)} {r : GuestRun (Guest Word)}
    {x : Word × Guest Word} (hjson : JsonTexts ext) (hb : Serializes ext value b)
    (hcall : callInitCheck ext spec.limits (contract.module build shell) value = .ok (inst, r))
    (hout : r.outcome = .ok x) :
    Checked contract b (validateInner ext spec.limits (contract.module build shell) value) := by
  obtain ⟨p, q⟩ := x
  obtain ⟨hfits, s, hready, rfl⟩ := callInitCheck_contract hb hcall
  have htiled := (tiled_fromLimits spec.limits).staged hfits
  have hsmall := staged_small hfits
  have hin : HoldsInput ((fromLimits spec.limits).staged b) 0 b := holdsInput_staged b
  have hsingle : spec.limits.maxSingleAlloc ≤ 8 * 1024 * 1024 :=
    WasmLimits.build_maxSingleAlloc_le spec.ramMb spec.cpuCores
  have hcap : 4 + b.length ≤ spec.limits.maxSingleAlloc := hfits.1
  rw [validateInner_of_returned hcall hout]
  rcases checkInitData_settles hready hsmall (staged_pos spec.limits b) hin (by omega)
      (call_returns hout) with ⟨outcome, bytes, hsettles, hleft⟩ | ⟨hsettles, rfl, hdata⟩
  · obtain ⟨henc, hwhich⟩ := Outcome.settles_cases hsettles
    have hread := hleft.readData htiled hsmall.host (checkOutcome_visible outcome bytes henc)
    rw [checkInitResult_stored henc hread]
    rw [← referenceCheck_eq_first] at hwhich
    rcases hwhich with rfl | ⟨prepared, hprepared, hlayout, rfl⟩
    · refine ⟨?_, fun _ _ => rfl⟩
      unfold reportCheck
      by_cases hsuccess : (referenceCheck contract b).success = true
      · simp [hsuccess]
      · simp [hsuccess]
    · have hnone : checkOutcome.Unencodable (referenceCheck contract b) := by
        rw [referenceCheck_eq_first, hprepared]
        exact hlayout
      refine ⟨iff_of_false ?_ (not_success_of_unencodable hnone), fun bs hbs => absurd hbs (hnone bs)⟩
      unfold reportCheck
      simp [checkOutcome, ContractInitCheckData.failed]
  · -- Nothing was stored, and the staged text is no verdict.
    have hnone := Outcome.settles_none hsettles
    rw [← referenceCheck_eq_first] at hnone
    have hread := htiled.readData hin.tracked
    rw [hin.bytes, ← hdata] at hread
    have hno : NoVerdict ext ((contract.module build shell).call maxFuelCompilation
        (checkInitData build contract (usizeAsU32 0)) s).final 0 :=
      noVerdict_of_readData hjson hb.1 hcap hread
    obtain ⟨e, he⟩ := hno.check
    rw [he]
    exact ⟨iff_of_false (by simp) (not_success_of_unencodable hnone),
      fun bs hbs => absurd hbs (hnone bs)⟩

/--
**A check that ran to its end is the reference check.**

For every machine, contract, build and initial state.  The state is accepted if and
only if it parses and the contract's check accepts it; and the whole answer, its
message included, is the reference's, wherever that has a layout.
-/
theorem validateInner_reference {inst : Instance (Guest Word)} {r : GuestRun (Guest Word)}
    {x : Word × Guest Word} (hjson : JsonTexts ext) (hb : Serializes ext value b)
    (hcall : callInitCheck ext spec.limits (contract.module build shell) value = .ok (inst, r))
    (hout : r.outcome = .ok x) :
    (validateInner ext spec.limits (contract.module build shell) value = .ok () ↔
        ∃ s, contract.state.fromSlice b = .ok s ∧ (contract.check s .default).success = true) ∧
      ∀ bytes, ContractInitCheckData.codec.encode (referenceCheck contract b) = .ok bytes →
        validateInner ext spec.limits (contract.module build shell) value
          = reportCheck (referenceCheck contract b) := by
  have hchecked : Checked contract b
      (validateInner ext spec.limits (contract.module build shell) value) :=
    validateInner_checked hjson hb hcall hout
  exact ⟨hchecked.success.trans (referenceCheck_success contract b), hchecked.whole⟩

/-! ### A check that has to end -/

/-- A build that has room for the state and the verdict, and whose own work is answered there. -/
structure Build.Lodges (build : Build) (room : Nat) (b bytes : Bytes) : Prop where
  work : ∀ site s, Roomy room s → ∃ t, Returns (doWork (build.work site)) s () t
  state : (build.buffer .state).toNat + (4 + b.length) ≤ room
  result : (build.buffer .result).toNat + bytes.length ≤ room
  failure : (build.buffer .failure).toNat + bytes.length ≤ room

/-- **What fits is delivered at the first attempt.** -/
theorem deliver_answers {R : Type} {kind : Outcome R} {unreturned : String} {p : Except String R}
    {limits : WasmLimits} {m : MemoryManager} {s : Store} (hs : Ready limits m s)
    (hsmall : Small limits m) (hroomy : Roomy room s) (hpos : 0 < m.memory.length)
    (hvis : kind.Visible) (henc : kind.codec.encode (kind.first p) = .ok bytes)
    (hfits : m.Fits bytes.length) (hlodge : build.Lodges room b bytes) :
    ∃ tries t, Returns (deliver build kind unreturned p) s tries t := by
  have hne := hvis _ bytes henc
  cases p with
  | error e =>
      obtain ⟨x, t, hstore⟩ := store_answers hs hsmall hroomy hpos henc hne hfits
        (hlodge.work .failure) hlodge.failure
      have htry : Returns (attempt build .failure kind (kind.failed e)) s ⟨kind.failed e, x⟩ t :=
        hstore.andThen rfl
      exact ⟨[⟨kind.failed e, x⟩], t, htry.andThen rfl⟩
  | ok result =>
      obtain ⟨x, t, hstore⟩ := store_answers hs hsmall hroomy hpos henc hne hfits
        (hlodge.work .result) hlodge.result
      obtain ⟨rfl, -, -⟩ := store_returns hs hsmall hpos henc hne hstore
      have htry : Returns (attempt build .result kind result) s
          ⟨result, .ok (usizeAsU32 m.memory.length)⟩ t := hstore.andThen rfl
      exact ⟨[⟨result, .ok (usizeAsU32 m.memory.length)⟩], t, htry.andThen rfl⟩

theorem prepareCheck_answers (contract : Contract State Event) {limits : WasmLimits}
    {m : MemoryManager} {s : Store} (hs : Ready limits m s) (hsmall : Small limits m)
    (hroomy : Roomy room s) (hin : HoldsInput m 0 b) (hlen : 4 + b.length ≤ 10000000)
    (hcap : 4 + b.length ≤ limits.maxSingleAlloc) (hlodge : build.Lodges room b bytes) :
    ∃ p t, Returns (prepareCheck build contract (usizeAsU32 0)) s p t := by
  obtain ⟨s₁, hstate⟩ := readAndParse_answers contract.state.fromSlice "State" hs hsmall hroomy hin
    hlen hcap (hlodge.work .state) hlodge.state
  unfold prepareCheck
  cases hparse : parseInput contract.state.fromSlice "State" b with
  | error e =>
      rw [hparse] at hstate
      exact ⟨_, s₁, hstate.andThen rfl⟩
  | ok state =>
      rw [hparse] at hstate
      obtain ⟨s₂, hwork⟩ := hlodge.work .callback s₁ (hstate.roomy hroomy)
      by_cases hcheck : (contract.check state .default).success = true
      · refine ⟨.ok .ok, s₂, hstate.andThen (hwork.andThen ?_)⟩
        simp only [if_pos hcheck]
        rfl
      · refine ⟨.error s!"{errInitRejected}: {(contract.check state .default).error}", s₂,
          hstate.andThen (hwork.andThen ?_)⟩
        simp only [if_neg hcheck]
        rfl

/-- **With room for its verdict and fuel for the compiler's work, the check returns.** -/
theorem callInitCheck_returns (hb : Serializes ext value b)
    (hstage : (fromLimits spec.limits).Fits (4 + b.length))
    (hadm : (contract.module build shell).Admitted (fromLimits spec.limits).storeLimits)
    (hdata : initData shell.data (contract.module build shell).initialMemory = .ok memory)
    (hexport : shell.memoryExport = true) (hroom : room ≤ memory.length)
    (hlodge : build.Lodges room b bytes) (hwork : build.WorkAtMost w)
    (hfuel : 4 * w + 10 < maxFuelCompilation)
    (henc : ContractInitCheckData.codec.encode (referenceCheck contract b) = .ok bytes)
    (hfits : ((fromLimits spec.limits).staged b).Fits bytes.length) :
    ∃ inst r x, callInitCheck ext spec.limits (contract.module build shell) value = .ok (inst, r) ∧
      r.outcome = .ok x := by
  have hlinked : (contract.module build shell).Linked := by
    show externf.find? (fun i => !i.linked) = none
    decide
  have hadm' : (contract.module build shell).Admitted
      ((fromLimits spec.limits).staged b).storeLimits := hadm
  have hready : Ready spec.limits ((fromLimits spec.limits).staged b)
      ((contract.module build shell).freshStore ((fromLimits spec.limits).staged b) memory) :=
    freshStore_ready_one hadm' hdata
  have hsmall := staged_small hstage
  have hin : HoldsInput ((fromLimits spec.limits).staged b) 0 b := holdsInput_staged b
  have hcap : 4 + b.length ≤ spec.limits.maxSingleAlloc := hstage.1
  have hsingle : spec.limits.maxSingleAlloc ≤ 8 * 1024 * 1024 :=
    WasmLimits.build_maxSingleAlloc_le spec.ramMb spec.cpuCores
  have hlen : 4 + b.length ≤ 10000000 := by omega
  have hroomy : Roomy room ((contract.module build shell).freshStore
      ((fromLimits spec.limits).staged b) memory) := ⟨hexport, hroom⟩
  obtain ⟨p, s₁, hprepared⟩ :=
    prepareCheck_answers contract hready hsmall hroomy hin hlen hcap hlodge
  obtain ⟨rfl, hs₁⟩ := prepareCheck_returns hready hsmall hin hlen hprepared
  rw [referenceCheck_eq_first] at henc
  obtain ⟨tries, t, hdelivered⟩ : ∃ tries t, Returns
      (deliver build checkOutcome errReturnInitResult (tryReferenceCheck contract b)) s₁ tries t :=
    deliver_answers hs₁ hsmall (hprepared.roomy hroomy) (staged_pos spec.limits b)
      checkOutcome_visible henc hfits hlodge
  have hret : Returns (checkInitData build contract (usizeAsU32 0))
      ((contract.module build shell).freshStore ((fromLimits spec.limits).staged b) memory)
      (Attempt.pointer tries) t := by
    rw [checkInitData_eq, checkAttempts]
    exact (hprepared.andThen hdelivered).andThen rfl
  have hcall : callInitCheck ext spec.limits (contract.module build shell) value = .ok
      ({ globals := pure 0
         store := (contract.module build shell).freshStore ((fromLimits spec.limits).staged b) memory
         fuel := maxFuelCompilation
         started := [] },
        (contract.module build shell).call maxFuelCompilation
          (checkInitData build contract (usizeAsU32 0))
          ((contract.module build shell).freshStore ((fromLimits spec.limits).staged b) memory)) := by
    have hgen : generateContext ext value spec.limits
        = .ok ((fromLimits spec.limits).staged b, usizeAsU32 0) := by
      unfold generateContext
      rw [stageValue_fits hb hstage]
      rfl
    have himports : validateImports (contract.module build shell).imports = .ok () :=
      externf_accepted
    unfold callInitCheck
    rw [himports]
    simp only
    rw [hgen]
    simp only
    rw [WasmModule.instantiate_admitted hlinked hadm' hdata, WasmModule.started_none rfl]
    rfl
  refine ⟨_, _, (Attempt.pointer tries, .ret (Attempt.pointer tries)), hcall, ?_⟩
  rw [call_eval (checkInitData_sized hwork _) hfuel]
  rw [show Prog.eval WasmError.trap exec _ _ = (.ok (Attempt.pointer tries), t) from hret]
  rfl

/--
**A contract with room and fuel is validated by its own check.**

Nothing is asked of the run: the state fits an allocation, the module is admitted,
the buffers fit the guest's memory and the compiler's work the larger budget, and
the verdict fits what staging left.
-/
theorem validateInner_total (hjson : JsonTexts ext) (hb : Serializes ext value b)
    (hstage : (fromLimits spec.limits).Fits (4 + b.length))
    (hadm : (contract.module build shell).Admitted (fromLimits spec.limits).storeLimits)
    (hdata : initData shell.data (contract.module build shell).initialMemory = .ok memory)
    (hexport : shell.memoryExport = true) (hroom : room ≤ memory.length)
    (hlodge : build.Lodges room b bytes) (hwork : build.WorkAtMost w)
    (hfuel : 4 * w + 10 < maxFuelCompilation)
    (henc : ContractInitCheckData.codec.encode (referenceCheck contract b) = .ok bytes)
    (hfits : ((fromLimits spec.limits).staged b).Fits bytes.length) :
    validateInner ext spec.limits (contract.module build shell) value
      = reportCheck (referenceCheck contract b) := by
  obtain ⟨inst, r, x, hcall, hout⟩ := callInitCheck_returns hb hstage hadm hdata hexport hroom
    hlodge hwork hfuel henc hfits
  exact (validateInner_checked hjson hb hcall hout).whole bytes henc

end Whole

/-! ### The contract of one owner, validated -/

theorem nullExternals_json : JsonTexts nullExternals := by
  intro value b hb
  obtain rfl : jsonNull = b := Except.ok.inj hb
  exact ⟨0x6E, [0x75, 0x6C, 0x6C], rfl, by decide⟩

theorem bareBuild_lodges {room : Nat} {b bytes : Bytes} (hb : 4 + b.length ≤ room)
    (h : bytes.length ≤ room) : bareBuild.Lodges room b bytes := by
  have hzero : ∀ site n, (bareBuild.buffer site).toNat + n = n := fun _ n => Nat.zero_add n
  exact ⟨fun _ s _ => ⟨s, rfl⟩, (hzero _ _).trans_le hb, (hzero _ _).trans_le h,
    (hzero _ _).trans_le h⟩

/-- **Its null state is accepted**, by both halves together as by the check. -/
theorem ownerOnly_validated :
    validateInner nullExternals (ResolvedMachineSpec.limits ⟨4096, 2⟩)
      (ownerOnly.module bareBuild pageShell) () = .ok () := by
  have hlodge : bareBuild.Lodges 100 jsonNull [1, 0, 0, 0, 0] :=
    bareBuild_lodges (by decide) (by decide)
  exact validateInner_total nullExternals_json nullExternals_null (by decide) ownerOnly_admitted rfl
    rfl pageShell_room hlodge bareBuild_work (by decide) rfl (by decide)

theorem ownerOnly_checked :
    (validateInner nullExternals (ResolvedMachineSpec.limits ⟨4096, 2⟩)
        (ownerOnly.module bareBuild pageShell) () = .ok () ↔
      ∃ s, ownerOnly.state.fromSlice jsonNull = .ok s ∧
        (ownerOnly.check s .default).success = true) := by
  have hlodge : bareBuild.Lodges 100 jsonNull [1, 0, 0, 0, 0] :=
    bareBuild_lodges (by decide) (by decide)
  obtain ⟨inst, r, x, hcall, hout⟩ := callInitCheck_returns nullExternals_null (by decide)
    ownerOnly_admitted rfl rfl pageShell_room hlodge bareBuild_work (by decide) rfl (by decide)
  exact (validateInner_reference nullExternals_json nullExternals_null hcall hout).1

end Sdk

end Ave
