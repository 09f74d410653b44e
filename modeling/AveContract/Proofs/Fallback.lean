/-
A result that does not fit.

The SDK is prepared for an allocation that fails: `store` takes a null pointer for a
refusal, and `execute_contract` then stores an error in the result's place.  The
host never gives a null pointer.  Its `alloc` answers with an address past the
staged inputs or it fails, and a failed import ends the call.  So the fallback is
code that never runs, and a result over the caps is reported as a failure of the
contract.
-/
import AveContract.Proofs.Execution

namespace Ave

open Slice Borsh Metered

namespace Sdk

section Refused

variable {V State Event : Type} {ext : Externals V} {build : Build}
  {contract : Contract State Event} {shell : Shell} {spec : ResolvedMachineSpec}
  {state initState event : V} {isOwner : Bool} {b₁ b₂ b₃ bytes : Bytes}

/-- The execution reports that the result could not be returned. -/
def FallsBack (answer : Except RuntimeError (ExecutionResult V × ExecutionStats)) : Prop :=
  ∃ result stats, answer = .ok (result, stats) ∧ result.success = false ∧
    result.error = errReturnResult

/-- **A result over the caps is never reported**, and no other result stands in for it. -/
theorem executeInner_over_caps (h₁ : Serializes ext state b₁) (h₂ : Serializes ext initState b₂)
    (h₃ : Serializes ext event b₃)
    (henc : ContractResultData.codec.encode (reference contract b₁ b₂ b₃ isOwner) = .ok bytes)
    (hbig : ¬(stagedContext spec.limits b₁ b₂ b₃).context.Fits bytes.length) :
    ∀ result stats,
      executeInner ext spec.limits (contract.module build shell) state initState event isOwner
        ≠ .ok (result, stats) := by
  intro result stats hexec
  obtain ⟨inst, r, p, q, hcall, hout, -⟩ := executeInner_ok hexec
  exact hbig (callMain_result h₁ h₂ h₃ hcall hout henc).1

/-- **It is reported as the contract's failure**, where the compiler's work is within the budget. -/
theorem executeInner_blames_contract {inst : Instance (Guest Word)} {r : GuestRun (Guest Word)}
    {w : Nat} (h₁ : Serializes ext state b₁) (h₂ : Serializes ext initState b₂)
    (h₃ : Serializes ext event b₃)
    (henc : ContractResultData.codec.encode (reference contract b₁ b₂ b₃ isOwner) = .ok bytes)
    (hbig : ¬(stagedContext spec.limits b₁ b₂ b₃).context.Fits bytes.length)
    (hcall : callMain ext spec.limits (contract.module build shell) state initState event isOwner
      = .ok (inst, r))
    (hwork : build.WorkAtMost w) (hfuel : 6 * w + 18 < maxFuel) :
    ∃ details,
      executeInner ext spec.limits (contract.module build shell) state initState event isOwner
        = .error (.contractExecutionFailed details) := by
  rcases callMain_not_dry h₁ h₂ h₃ hcall hwork hfuel with ⟨x, hout⟩ | ⟨e, hout, hdry⟩
  · exact absurd (callMain_result h₁ h₂ h₃ hcall hout henc).1 hbig
  · exact ⟨_, executeInner_of_failure hcall hout hdry⟩

/--
**The fallback never comes.**

For every machine and every contract whose inputs were staged: a result over the
caps is not answered with the error result that the SDK stores for it, whether or
not that one would fit.  Where the guest got to run, the contract is blamed.
-/
theorem fallback_never_reported (h₁ : Serializes ext state b₁) (h₂ : Serializes ext initState b₂)
    (h₃ : Serializes ext event b₃)
    (henc : ContractResultData.codec.encode (reference contract b₁ b₂ b₃ isOwner) = .ok bytes)
    (hbig : ¬(stagedContext spec.limits b₁ b₂ b₃).context.Fits bytes.length) :
    ¬FallsBack
        (executeInner ext spec.limits (contract.module build shell) state initState event isOwner) ∧
      ∀ inst r w,
        callMain ext spec.limits (contract.module build shell) state initState event isOwner
            = .ok (inst, r) →
          build.WorkAtMost w → 6 * w + 18 < maxFuel →
          ∃ details,
            executeInner ext spec.limits (contract.module build shell) state initState event isOwner
              = .error (.contractExecutionFailed details) := by
  constructor
  · rintro ⟨result, stats, hexec, -, -⟩
    exact executeInner_over_caps h₁ h₂ h₃ henc hbig result stats hexec
  · intro inst r w hcall hwork hfuel
    exact executeInner_blames_contract h₁ h₂ h₃ henc hbig hcall hwork hfuel

end Refused

/-! ### A contract whose state is a megabyte -/

/-- The JSON text of a string of `n` times the letter `a`. -/
def longText (n : Nat) : Bytes := 0x22 :: (List.replicate n 0x61 ++ [0x22])

/-- Its state is the length of a text, none to begin with; any event makes it a megabyte. -/
def growing : Contract Nat Unit where
  state :=
    { toVec := fun n => .ok (longText n)
      fromSlice := fun bytes => if bytes = jsonNull then .ok 0 else .error "expected null" }
  event := nullExternals.json
  callback := fun _ result => { result with state := 0x100000 }.accept
  check := fun _ result => result.accept

/-- Two megabytes of exported memory, so that the guest has room for its result. -/
def wideShell : Shell where
  memories := [⟨32, none⟩]
  tables := []
  memoryExport := true
  data := []

theorem length_longText (n : Nat) : (longText n).length = n + 2 := by
  simp [longText]

/-- The layout of an accepted result. -/
def acceptedLayout (text : Bytes) : Bytes := le32 text.length ++ text ++ [1, 0, 0, 0, 0]

theorem length_acceptedLayout (text : Bytes) : (acceptedLayout text).length = text.length + 9 := by
  simp only [acceptedLayout, List.length_append, length_le32, List.length_cons, List.length_nil]
  omega

theorem encode_accepted {text : Bytes} (hlen : text.length < 2 ^ 32) :
    ContractResultData.codec.encode { finalState := ⟨text⟩, success := true, error := "" }
      = .ok (acceptedLayout text) := by
  have htext : ContractData.codec.encode ⟨text⟩ = .ok (le32 text.length ++ text) :=
    Codec.blob_encode hlen
  have hrest : (Codec.bool.pair Codec.string).encode (true, "") = .ok [1, 0, 0, 0, 0] := rfl
  exact Codec.pair_encode htext hrest

/-- What the grown state is returned as. -/
def grownResult : Bytes := acceptedLayout (longText 0x100000)

theorem length_grownResult : grownResult.length = 1048587 := by
  rw [grownResult, length_acceptedLayout, length_longText]

theorem growing_encodes : ContractResultData.codec.encode
    (reference growing jsonNull jsonNull jsonNull true) = .ok grownResult := by
  have href : reference growing jsonNull jsonNull jsonNull true
      = { finalState := ⟨longText 0x100000⟩, success := true, error := "" } := rfl
  rw [href]
  exact encode_accepted (by rw [length_longText]; decide)

/-- On the smallest machine it does not fit. -/
theorem grownResult_over : ¬(stagedContext (ResolvedMachineSpec.limits ⟨512, 2⟩) jsonNull jsonNull
    jsonNull).context.Fits grownResult.length := by
  rintro ⟨hsingle, -⟩
  rw [length_grownResult] at hsingle
  exact absurd hsingle (by decide)

theorem growing_never_falls_back : ¬FallsBack
    (executeInner nullExternals (ResolvedMachineSpec.limits ⟨512, 2⟩)
      (growing.module bareBuild wideShell) () () () true) := by
  have hnull : Serializes nullExternals () jsonNull := ⟨rfl, by decide⟩
  exact (fallback_never_reported hnull hnull hnull growing_encodes grownResult_over).1

/-- **A result of a megabyte is blamed on the contract**, though the error in its place would fit. -/
theorem growing_blamed : ∃ fallback,
    ¬(stagedContext (ResolvedMachineSpec.limits ⟨512, 2⟩) jsonNull jsonNull
        jsonNull).context.Fits grownResult.length ∧
      ContractResultData.codec.encode
        (reference growing jsonNull jsonNull jsonNull true) = .ok grownResult ∧
      ContractResultData.codec.encode (.failed errReturnResult) = .ok fallback ∧
      (stagedContext (ResolvedMachineSpec.limits ⟨512, 2⟩) jsonNull jsonNull
        jsonNull).context.Fits fallback.length ∧
      ∃ details, executeInner nullExternals (ResolvedMachineSpec.limits ⟨512, 2⟩)
          (growing.module bareBuild wideShell) () () () true
        = .error (.contractExecutionFailed details) := by
  have hnull : Serializes nullExternals () jsonNull := ⟨rfl, by decide⟩
  have hstage : Stageable (ResolvedMachineSpec.limits ⟨512, 2⟩) jsonNull jsonNull jsonNull :=
    ⟨by decide, by decide, by decide⟩
  have hadm : (growing.module bareBuild wideShell).Admitted
      (MemoryManager.fromLimits (ResolvedMachineSpec.limits ⟨512, 2⟩)).storeLimits := by decide
  have hdata : initData wideShell.data (growing.module bareBuild wideShell).initialMemory
      = .ok (growing.module bareBuild wideShell).initialMemory := rfl
  obtain ⟨inst, hcall⟩ := callMain_called true hnull hnull hnull hstage hadm hdata
  refine ⟨_, grownResult_over, growing_encodes, rfl, by decide, ?_⟩
  exact executeInner_blames_contract hnull hnull hnull growing_encodes grownResult_over hcall
    bareBuild_work (by decide)

end Sdk

end Ave
