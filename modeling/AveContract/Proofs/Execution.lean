/-
Host and guest together compute the reference.

The two halves were written apart, and the reference knows neither.  An execution
that got through its phases reports the reference outcome; and a contract with room
for its inputs and its result, and fuel for the compiler's own work, does get
through them.
-/
import AveContract.Proofs.Completion

namespace Ave

open Slice Borsh Metered

namespace Sdk

/-! ### Every execution that ends -/

section Whole

variable {V State Event : Type} {ext : Externals V} {build : Build}
  {contract : Contract State Event} {shell : Shell} {spec : ResolvedMachineSpec}
  {state initState event : V} {isOwner : Bool} {b₁ b₂ b₃ bytes : Bytes}

/--
**Host and guest together compute the reference.**

For every machine, every contract, whatever the compiler made of it and however it
is laid out: where the inputs were staged and the guest ran to its end, the host
reports the reference outcome.  A result over the caps needs no mention, because
the guest does not return then; that the result has a layout at all does.  A
parse or serialization failure is reported like any other outcome, with the null
state.
-/
theorem executeInner_reference {inst : Instance (Guest Word)} {r : GuestRun (Guest Word)}
    {x : Word × Guest Word} (h₁ : Serializes ext state b₁) (h₂ : Serializes ext initState b₂)
    (h₃ : Serializes ext event b₃)
    (hcall : callMain ext spec.limits (contract.module build shell) state initState event isOwner
      = .ok (inst, r))
    (hout : r.outcome = .ok x)
    (henc : ContractResultData.codec.encode (reference contract b₁ b₂ b₃ isOwner) = .ok bytes) :
    ∃ stats,
      executeInner ext spec.limits (contract.module build shell) state initState event isOwner
          = (report ext (reference contract b₁ b₂ b₃ isOwner)).map (fun result => (result, stats)) ∧
        ∀ message null, tryReference contract b₁ b₂ b₃ isOwner = .error message →
          ext.json.fromSlice jsonNull = .ok null →
          executeInner ext spec.limits (contract.module build shell) state initState event isOwner
            = .ok ({ finalState := null, success := false, error := message }, stats) := by
  obtain ⟨stats, hexec⟩ := executeInner_of_returned h₁ h₂ h₃ hcall hout henc
  refine ⟨stats, hexec, fun message null hmessage hnull => ?_⟩
  have hreport : report ext (reference contract b₁ b₂ b₃ isOwner)
      = .ok { finalState := null, success := false, error := message } := by
    unfold reference report
    rw [hmessage]
    simp only [ContractResultData.failed, hnull]
  rw [hexec, hreport]
  rfl

/-! ### A contract that only its owner may run -/

/-- Accepts every event of its owner, and rejects anyone else's. -/
def ownerOnly : Contract Unit Unit where
  state := nullExternals.json
  event := nullExternals.json
  callback := fun context result =>
    match requireOwner context result with
    | (true, result) => result.accept
    | (false, result) => result
  check := fun _ result => result.accept

/-- A build that adds nothing to the source, with every buffer at the start of the memory. -/
def bareBuild : Build where
  borshText := fun _ => "Unexpected length of input"
  work := fun _ => []
  buffer := fun _ => 0

/-- One page of exported memory. -/
def pageShell : Shell where
  memories := [⟨1, none⟩]
  tables := []
  memoryExport := true
  data := []

/-- It has room for anything that fits a page. -/
theorem bareBuild_houses {room : Nat} {b₁ b₂ b₃ bytes : Bytes} (h₁ : 4 + b₁.length ≤ room)
    (h₂ : 4 + b₂.length ≤ room) (h₃ : 4 + b₃.length ≤ room) (h : bytes.length ≤ room) :
    bareBuild.Houses room b₁ b₂ b₃ bytes := by
  have hzero : ∀ site n, (bareBuild.buffer site).toNat + n = n := fun _ n => Nat.zero_add n
  exact ⟨fun site s _ => ⟨s, rfl⟩, (hzero _ _).trans_le h₁, (hzero _ _).trans_le h₂,
    (hzero _ _).trans_le h₃, (hzero _ _).trans_le h, (hzero _ _).trans_le h⟩

theorem bareBuild_work : bareBuild.WorkAtMost 0 := fun _ => Nat.le_refl 0

/-- **The owner's event is accepted**, by both halves together as by the reference. -/
theorem ownerOnly_accepts : ∃ stats,
    executeInner nullExternals (ResolvedMachineSpec.limits ⟨4096, 2⟩)
        (ownerOnly.module bareBuild pageShell) () () () true
      = .ok ({ finalState := (), success := true, error := "" }, stats) := by
  have hnull : Serializes nullExternals () jsonNull := ⟨rfl, by decide⟩
  have henc : ContractResultData.codec.encode
      (reference ownerOnly jsonNull jsonNull jsonNull true) = .ok nullResult := rfl
  have hstage : Stageable (ResolvedMachineSpec.limits ⟨4096, 2⟩) jsonNull jsonNull jsonNull :=
    ⟨by decide, by decide, by decide⟩
  have hadm : (ownerOnly.module bareBuild pageShell).Admitted
      (MemoryManager.fromLimits (ResolvedMachineSpec.limits ⟨4096, 2⟩)).storeLimits := by decide
  have hdata : initData pageShell.data (ownerOnly.module bareBuild pageShell).initialMemory
      = .ok (List.replicate 65536 0) := rfl
  have hroom : 100 ≤ (List.replicate 65536 (0 : UInt8)).length := by
    rw [List.length_replicate]
    decide
  have hhouse : bareBuild.Houses 100 jsonNull jsonNull jsonNull nullResult :=
    bareBuild_houses (by decide) (by decide) (by decide) (by decide)
  obtain ⟨inst, r, x, hcall, hout⟩ := callMain_returns hnull hnull hnull hstage hadm hdata rfl
    hroom hhouse bareBuild_work (by decide) henc (by decide)
  obtain ⟨stats, hexec, -⟩ := executeInner_reference hnull hnull hnull hcall hout henc
  exact ⟨stats, hexec⟩

/-! ### An execution that has to end -/

/--
**A contract with room and fuel reports its reference.**

Nothing is asked of the run: the inputs fit the machine, the module is admitted,
the buffers fit the guest's memory and the compiler's own work the budget, and the
result fits the host's caps.
-/
theorem executeInner_total {memory : Bytes} {room w : Nat} (h₁ : Serializes ext state b₁)
    (h₂ : Serializes ext initState b₂) (h₃ : Serializes ext event b₃)
    (hstage : Stageable spec.limits b₁ b₂ b₃)
    (hadm : (contract.module build shell).Admitted
      (MemoryManager.fromLimits spec.limits).storeLimits)
    (hdata : initData shell.data (contract.module build shell).initialMemory = .ok memory)
    (hexport : shell.memoryExport = true) (hroom : room ≤ memory.length)
    (hhouse : build.Houses room b₁ b₂ b₃ bytes) (hwork : build.WorkAtMost w)
    (hfuel : 6 * w + 18 < maxFuel)
    (henc : ContractResultData.codec.encode (reference contract b₁ b₂ b₃ isOwner) = .ok bytes)
    (hfits : (stagedContext spec.limits b₁ b₂ b₃).context.Fits bytes.length) :
    ∃ stats,
      executeInner ext spec.limits (contract.module build shell) state initState event isOwner
        = (report ext (reference contract b₁ b₂ b₃ isOwner)).map fun result => (result, stats) := by
  obtain ⟨inst, r, x, hcall, hout⟩ := callMain_returns h₁ h₂ h₃ hstage hadm hdata hexport hroom
    hhouse hwork hfuel henc hfits
  exact executeInner_of_returned h₁ h₂ h₃ hcall hout henc

end Whole

end Sdk

end Ave
