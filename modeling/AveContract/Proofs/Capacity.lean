/-
What a capacity shortfall is reported as.

An execution that completed on one node either repeats on another or is stopped
there by its caps (`callMain_follow`), in one of three phases.  Staging reports
the shortfall as the host's memory and instantiation as the instance, and both
name the node.  The third phase does not: a refusal inside `main_function` comes
back as an error of the call, and whatever is not a run dry is reported as a
failure of the contract.

So the second node's answer is the first one's, or names the node, exactly when
`main_function` asks for nothing over the second node's caps, or the node has
given up before it gets to run.
-/
import AveContract.Proofs.Buffers
import AveContract.Proofs.Capped
import AveContract.Proofs.Fuel

namespace Ave

open Metered Slice

section Shortfall

variable {V σ : Type} {ext : Externals V} {limits limits₁ limits₂ : WasmLimits}
  {module : WasmModule σ} {state initState event : V} {isOwner : Bool}

/-- The second node stops before it calls `main_function`: the inputs do not fit, or the instance
does not. -/
def StoppedEarly (ext : Externals V) (limits₁ limits₂ : WasmLimits) (module : WasmModule σ)
    (state initState event : V) (isOwner : Bool) : Prop :=
  ¬StagingFits ext limits₂ state initState event ∨
    ∃ inst r, callMain ext limits₁ module state initState event isOwner = .ok (inst, r) ∧
      ¬InstanceFits limits₂ module inst

/-- `main_function` asks for nothing over the second node's caps. -/
def MainFits (ext : Externals V) (limits₁ limits₂ : WasmLimits) (module : WasmModule σ)
    (state initState event : V) (isOwner : Bool) : Prop :=
  ∃ inst r, callMain ext limits₁ module state initState event isOwner = .ok (inst, r) ∧
    AllWithin limits₂ r.events

/-- The answer of a node that repeats `result` or names its own capacity. -/
def SameOrShort (result : ExecutionResult V)
    (answer : Except RuntimeError (ExecutionResult V × ExecutionStats)) : Prop :=
  (∃ stats, answer = .ok (result, stats)) ∨ (∃ details, answer = .error (.instantiationFailed details)) ∨
    ∃ details, answer = .error (.memoryAllocationFailed details)

/-- What an execution that succeeded went through. -/
theorem executeInner_ok {result : ExecutionResult V} {stats : ExecutionStats}
    (h : executeInner ext limits module state initState event isOwner = .ok (result, stats)) :
    ∃ inst r p q, callMain ext limits module state initState event isOwner = .ok (inst, r) ∧
      r.outcome = .ok (p, q) ∧ getExecutionResult ext r.final p = .ok result := by
  unfold executeInner at h
  split at h
  · simp at h
  · rename_i inst r hcall
    unfold finishCall at h
    simp only at h
    split at h
    · rename_i p q hout
      split at h
      · simp at h
      · rename_i result' hres
        rw [Except.ok.injEq, Prod.mk.injEq] at h
        exact ⟨inst, r, p, q, hcall, hout, by rw [hres, h.1]⟩
    · split at h <;> simp at h

/-- A call that returned a readable result is a success. -/
theorem executeInner_of_result {inst : Instance σ} {r : GuestRun σ} {p : Word} {q : σ}
    {result : ExecutionResult V}
    (hcall : callMain ext limits module state initState event isOwner = .ok (inst, r))
    (hout : r.outcome = .ok (p, q)) (hres : getExecutionResult ext r.final p = .ok result) :
    ∃ stats, executeInner ext limits module state initState event isOwner
      = .ok (result, stats) := by
  unfold executeInner
  rw [hcall]
  simp only [finishCall, hout, hres]
  exact ⟨_, rfl⟩

/-- A call that failed, other than by running dry, is the contract's failure. -/
theorem executeInner_of_failure {inst : Instance σ} {r : GuestRun σ} {e : WasmError}
    (hcall : callMain ext limits module state initState event isOwner = .ok (inst, r))
    (hout : r.outcome = .error e) (hdry : e.downcastTrap ≠ some .outOfFuel) :
    executeInner ext limits module state initState event isOwner
      = .error (.contractExecutionFailed (ext.wasmText e)) := by
  unfold executeInner
  rw [hcall]
  simp only [finishCall, hout]
  exact if_neg hdry

theorem getExecutionResult_congr {s₁ s₂ : Store} (hmem : s₁.data.memory = s₂.data.memory)
    (hmap : s₁.data.map = s₂.data.map) (p : Word) :
    getExecutionResult ext s₁ p = getExecutionResult ext s₂ p := by
  unfold getExecutionResult
  rw [readData_congr hmem hmap]

/--
**When a shortfall is not taken for the contract's failure.**

For an execution that succeeded on one node: the other repeats it or names its
capacity if and only if it stops before `main_function`, or `main_function` asks
for nothing over its caps.  Where it does neither, the contract is blamed.
-/
theorem shortfall_named_iff {result : ExecutionResult V} {stats : ExecutionStats}
    (h : executeInner ext limits₁ module state initState event isOwner = .ok (result, stats)) :
    (SameOrShort result (executeInner ext limits₂ module state initState event isOwner) ↔
      StoppedEarly ext limits₁ limits₂ module state initState event isOwner ∨
        MainFits ext limits₁ limits₂ module state initState event isOwner) ∧
    (¬SameOrShort result (executeInner ext limits₂ module state initState event isOwner) →
      ∃ details, executeInner ext limits₂ module state initState event isOwner
        = .error (.contractExecutionFailed details)) := by
  obtain ⟨i₁, r₁, p, q, hcall, hout, hres⟩ := executeInner_ok h
  have hsecond : SecondNode ext limits₁ limits₂ module state initState event isOwner i₁ r₁ :=
    callMain_follow hcall hout
  obtain ⟨hstaging, hinstance, hmain⟩ := hsecond
  by_cases hfits : StagingFits ext limits₂ state initState event
  · by_cases hinst : InstanceFits limits₂ module i₁
    · obtain ⟨i₂, r₂, hcall₂, -, hfollow, hstop⟩ := hmain hfits hinst
      by_cases hall : AllWithin limits₂ r₁.events
      · have hf := hfollow hall
        have hres₂ : getExecutionResult ext r₂.final p = .ok result := by
          rw [← getExecutionResult_congr hf.final.hostMemory hf.final.hostMap]
          exact hres
        obtain ⟨stats₂, hok⟩ := executeInner_of_result hcall₂ (hf.outcome ▸ hout) hres₂
        have hsame : SameOrShort result
            (executeInner ext limits₂ module state initState event isOwner) :=
          Or.inl ⟨stats₂, hok⟩
        exact ⟨⟨fun _ => Or.inr ⟨i₁, r₁, hcall, hall⟩, fun _ => hsame⟩, fun hn => absurd hsame hn⟩
      · obtain ⟨e, he, hd⟩ := hstop hall
        have hfail := executeInner_of_failure hcall₂ he (by simp [hd])
        have hnot : ¬SameOrShort result
            (executeInner ext limits₂ module state initState event isOwner) := by
          rw [hfail]
          rintro (⟨stats₂, hc⟩ | ⟨details, hc⟩ | ⟨details, hc⟩) <;> simp at hc
        refine ⟨⟨fun hs => absurd hs hnot, ?_⟩, fun _ => ⟨_, hfail⟩⟩
        rintro ((hn | ⟨i, r, hc, hn⟩) | ⟨i, r, hc, hw⟩)
        · exact absurd hfits hn
        · rw [hcall, Except.ok.injEq, Prod.mk.injEq] at hc
          obtain ⟨rfl, rfl⟩ := hc
          exact absurd hinst hn
        · rw [hcall, Except.ok.injEq, Prod.mk.injEq] at hc
          obtain ⟨rfl, rfl⟩ := hc
          exact absurd hw hall
    · obtain ⟨details, hd⟩ := hinstance hfits hinst
      have hshort : SameOrShort result
          (executeInner ext limits₂ module state initState event isOwner) := by
        refine Or.inr (Or.inl ⟨details, ?_⟩)
        unfold executeInner
        rw [hd]
      exact ⟨⟨fun _ => Or.inl (Or.inr ⟨i₁, r₁, hcall, hinst⟩), fun _ => hshort⟩,
        fun hn => absurd hshort hn⟩
  · obtain ⟨details, hd⟩ := hstaging hfits
    have hshort : SameOrShort result
        (executeInner ext limits₂ module state initState event isOwner) := by
      refine Or.inr (Or.inr ⟨details, ?_⟩)
      unfold executeInner
      rw [hd]
    exact ⟨⟨fun _ => Or.inl (Or.inl hfits), fun _ => hshort⟩, fun hn => absurd hshort hn⟩

end Shortfall

/-! ### A guest that asks for two megabytes it does not need -/

/-- An accepted result whose state is `null`, in its Borsh layout. -/
def nullResult : Bytes := [4, 0, 0, 0, 0x6E, 0x75, 0x6C, 0x6C, 1, 0, 0, 0, 0]

/-- Writes its result, allocates two megabytes and returns. -/
def graspingMain : Prog Instr Instr.Answer Trap Word :=
  .ask (.store 0 nullResult) fun _ =>
    .ask (.alloc 13) fun ptr =>
      .ask (.writeBytes ptr 0 13) fun _ =>
        .ask (.alloc 0x200000) fun _ => .ret ptr

/-- The module with that `main_function` and one page of memory. -/
def grasping : WasmModule (Prog Instr Instr.Answer Trap Word) where
  imports := Sdk.externf
  memories := [⟨1, none⟩]
  tables := []
  memoryExport := true
  data := []
  globals := .ret 0
  start := none
  mainFunction := some fun _ _ _ _ _ => graspingMain
  initCheckFunction := none
  step := Prog.step

/-- Its store with the given guest and host memories. -/
def graspingStore (memory : Bytes) (data : MemoryManager) : Store :=
  { data, memory, memoryExport := true, maximum := none }

/-- The guest's memory once it holds the result. -/
def graspingMemory : Bytes := patch (List.replicate 65536 0) 0 nullResult

/-- The host's memory before its first request. -/
def graspingStaged (limits : WasmLimits) : MemoryManager :=
  (stagedContext limits jsonNull jsonNull jsonNull).context

/-- And once the result is written. -/
def graspingWritten (limits : WasmLimits) : MemoryManager :=
  ((graspingStaged limits).grown 13).written 24 nullResult

section Grasping

variable {limits : WasmLimits}

theorem grasping_callMain (hadm : grasping.Admitted (MemoryManager.fromLimits limits).storeLimits)
    (hstage : Stageable limits jsonNull jsonNull jsonNull) :
    ∃ inst, callMain nullExternals limits grasping () () () true = .ok (inst,
      grasping.call maxFuel graspingMain
        (graspingStore (List.replicate 65536 0) (graspingStaged limits))) := by
  have hnull : Serializes nullExternals () jsonNull := ⟨rfl, by decide⟩
  have hlinked : grasping.Linked := by unfold WasmModule.Linked; decide
  have hadm' : grasping.Admitted
      (stagedContext limits jsonNull jsonNull jsonNull).context.storeLimits := hadm
  have hdata : initData grasping.data grasping.initialMemory = .ok (List.replicate 65536 0) := rfl
  unfold callMain
  rw [generateExecutionContext_fits hnull hnull hnull hstage]
  simp only
  rw [WasmModule.instantiate_admitted hlinked hadm' hdata, WasmModule.started_none rfl]
  exact ⟨_, rfl⟩

theorem graspingStaged_tiled (hstage : Stageable limits jsonNull jsonNull jsonNull) :
    (graspingStaged limits).Tiled :=
  (((MemoryManager.tiled_fromLimits limits).staged hstage.state).staged hstage.initState).staged
    hstage.event

theorem length_graspingMemory : graspingMemory.length = 65536 := by
  unfold graspingMemory
  rw [length_patch (by rw [List.length_replicate]; decide), List.length_replicate]

theorem slice_graspingMemory : slice graspingMemory 0 13 = nullResult :=
  slice_patch_self (by rw [List.length_replicate]; decide)

theorem grasping_store (data : MemoryManager) :
    exec (.store 0 nullResult) (graspingStore (List.replicate 65536 0) data)
      = (.ok (), graspingStore graspingMemory data) := by
  have hin : 0 + nullResult.length
      ≤ (graspingStore (List.replicate 65536 0) data).memory.length := by
    show 0 + nullResult.length ≤ (List.replicate 65536 (0 : UInt8)).length
    rw [List.length_replicate]
    decide
  rw [exec, if_pos hin]
  rfl

/-- An allocation that fits is answered with the end of the memory. -/
theorem grasping_alloc {data : MemoryManager} {len : Word} (hfits : data.Fits len.toNat) :
    exec (.alloc len) (graspingStore graspingMemory data)
      = (.ok (usizeAsU32 data.memory.length),
          graspingStore graspingMemory (data.grown len.toNat)) := by
  rcases Env.alloc_cases (graspingStore graspingMemory data).toCaller len with
    ⟨-, hok⟩ | ⟨hno, -⟩
  · rw [exec, hok]
    rfl
  · exact absurd hfits hno

theorem grasping_write (hfits : (graspingStaged limits).Fits 13) :
    exec (.writeBytes (usizeAsU32 24) 0 13)
        (graspingStore graspingMemory ((graspingStaged limits).grown 13))
      = (.ok (), graspingStore graspingMemory (graspingWritten limits)) := by
  have hlook : ((graspingStaged limits).grown 13).map.lookup 24 = some 13 := by
    rw [MemoryManager.grown_map _ (by decide)]
    exact AList.lookup_insert _
  have hlen : ((graspingStaged limits).grown 13).memory.length = 37 := rfl
  rcases Env.writeBytes_cases
      (graspingStore graspingMemory ((graspingStaged limits).grown 13)).toCaller
      (usizeAsU32 24) 0 13 with ⟨-, hok⟩ | ⟨hno, -⟩
  · rw [exec, hok]
    show (Except.ok (), graspingStore graspingMemory
      (((graspingStaged limits).grown 13).written 24 (slice graspingMemory 0 13))) = _
    rw [slice_graspingMemory]
    rfl
  · refine absurd ⟨hfits.1, by decide, rfl, ?_, 13, hlook, by decide, by decide, ?_⟩ hno
    · show 0 + 13 ≤ graspingMemory.length
      rw [length_graspingMemory]
      decide
    · show 24 + 0 + 13 ≤ ((graspingStaged limits).grown 13).memory.length
      rw [hlen]

/-- Up to its last allocation it is answered on every machine. -/
theorem grasping_prefix (hfits : (graspingStaged limits).Fits 13) (fuel : Nat) :
    (grasping.call (fuel + 3) graspingMain
          (graspingStore (List.replicate 65536 0) (graspingStaged limits))).outcome
        = (grasping.call fuel (.ask (.alloc 0x200000) fun _ => .ret (usizeAsU32 24))
            (graspingStore graspingMemory (graspingWritten limits))).outcome ∧
      (grasping.call (fuel + 3) graspingMain
          (graspingStore (List.replicate 65536 0) (graspingStaged limits))).final
        = (grasping.call fuel (.ask (.alloc 0x200000) fun _ => .ret (usizeAsU32 24))
            (graspingStore graspingMemory (graspingWritten limits))).final := by
  have halloc : exec (.alloc 13) (graspingStore graspingMemory (graspingStaged limits))
      = (.ok (usizeAsU32 24),
          graspingStore graspingMemory ((graspingStaged limits).grown 13)) :=
    grasping_alloc hfits
  unfold graspingMain
  rw [WasmModule.call_answered rfl _ (grasping_store _), WasmModule.call_answered rfl _ halloc,
    WasmModule.call_answered rfl _ (grasping_write hfits)]
  exact ⟨rfl, rfl⟩

/-- Where two megabytes fit it returns, and its result is where it says. -/
theorem grasping_returns (hstage : Stageable limits jsonNull jsonNull jsonNull)
    (hfits : (graspingStaged limits).Fits 13) (hlarge : (graspingWritten limits).Fits 0x200000)
    (fuel : Nat) :
    ∃ q, (grasping.call (fuel + 5) graspingMain
          (graspingStore (List.replicate 65536 0) (graspingStaged limits))).outcome
        = .ok (usizeAsU32 24, q) ∧
      (grasping.call (fuel + 5) graspingMain
          (graspingStore (List.replicate 65536 0) (graspingStaged limits))).final.data.readData 24
        = .ok nullResult := by
  obtain ⟨hout, hfinal⟩ := grasping_prefix hfits (fuel + 2)
  have halloc : exec (.alloc 0x200000) (graspingStore graspingMemory (graspingWritten limits))
      = (.ok _, graspingStore graspingMemory ((graspingWritten limits).grown 0x200000)) :=
    grasping_alloc hlarge
  have htiled := graspingStaged_tiled hstage
  have hfilled : (graspingWritten limits).readData 24 = .ok nullResult :=
    htiled.readData_filled hfits (by decide)
  have hin : 24 + nullResult.length ≤ ((graspingStaged limits).grown 13).memory.length :=
    Nat.le_refl 37
  have hdata : (graspingWritten limits).Tiled := (htiled.grown hfits).written hin
  refine ⟨.ret (usizeAsU32 24), ?_, ?_⟩
  · rw [hout, WasmModule.call_answered rfl _ halloc, push_outcome, WasmModule.call_ret rfl]
  · rw [hfinal, WasmModule.call_answered rfl _ halloc, push_final, WasmModule.call_ret rfl]
    exact hdata.readData_grown hlarge hfilled

/-- Where they do not it is stopped. -/
theorem grasping_stopped (hfits : (graspingStaged limits).Fits 13)
    (hlarge : ¬(graspingWritten limits).Fits 0x200000) (fuel : Nat) :
    ∃ e : WasmError, (grasping.call (fuel + 4) graspingMain
          (graspingStore (List.replicate 65536 0) (graspingStaged limits))).outcome
      = .error e ∧ e.downcastTrap = none := by
  obtain ⟨hout, -⟩ := grasping_prefix hfits (fuel + 1)
  rcases Env.alloc_cases (graspingStore graspingMemory (graspingWritten limits)).toCaller 0x200000
    with ⟨hyes, -⟩ | ⟨-, e, hd, he⟩
  · exact absurd hyes hlarge
  · have hexec : exec (.alloc 0x200000) (graspingStore graspingMemory (graspingWritten limits))
        = (.error e, graspingStore graspingMemory (graspingWritten limits)) := by
      rw [exec, he]
    refine ⟨e, ?_, hd⟩
    rw [hout]
    exact WasmModule.call_refused rfl fuel hexec

end Grasping

/-- What it returns where it returns. -/
def graspingResult : ExecutionResult Unit := { finalState := (), success := true, error := "" }

theorem nullExternals_result {store : Store} {p : Word}
    (hread : store.data.readData (u32AsUsize p) = .ok nullResult) :
    getExecutionResult nullExternals store p = .ok graspingResult := by
  have hcodec : ContractResultData.codec.tryFromSlice nullResult
      = .ok { finalState := ⟨jsonNull⟩, success := true, error := "" } :=
    Borsh.Codec.tryFromSlice_encode _ rfl
  unfold getExecutionResult
  rw [hread]
  simp only [hcodec]
  rfl

theorem grasping_succeeds : ∃ stats,
    executeInner nullExternals (WasmLimits.build 4096 2) grasping () () () true
      = .ok (graspingResult, stats) := by
  have hstage : Stageable (WasmLimits.build 4096 2) jsonNull jsonNull jsonNull :=
    ⟨by decide, by decide, by decide⟩
  obtain ⟨inst, hcall⟩ := grasping_callMain (by decide) hstage
  rw [show maxFuel = 9999995 + 5 from rfl] at hcall
  have hlen : (graspingWritten (WasmLimits.build 4096 2)).memory.length = 37 := rfl
  have hlarge : (graspingWritten (WasmLimits.build 4096 2)).Fits 0x200000 :=
    ⟨by decide, by rw [hlen]; decide, by rw [hlen]; decide⟩
  obtain ⟨q, hout, hread⟩ := grasping_returns hstage (by decide) hlarge 9999995
  have hptr : u32AsUsize (usizeAsU32 24) = 24 := rfl
  rw [← hptr] at hread
  exact executeInner_of_result hcall hout (nullExternals_result hread)

theorem grasping_shortfall :
    (SameOrShort graspingResult
        (executeInner nullExternals (WasmLimits.build 512 2) grasping () () () true) ↔
      StoppedEarly nullExternals (WasmLimits.build 4096 2) (WasmLimits.build 512 2) grasping
          () () () true ∨
        MainFits nullExternals (WasmLimits.build 4096 2) (WasmLimits.build 512 2) grasping
          () () () true) ∧
    (¬SameOrShort graspingResult
        (executeInner nullExternals (WasmLimits.build 512 2) grasping () () () true) →
      ∃ details, executeInner nullExternals (WasmLimits.build 512 2) grasping () () () true
        = .error (.contractExecutionFailed details)) := by
  obtain ⟨stats, hok⟩ := grasping_succeeds
  exact shortfall_named_iff hok

/-- **A smaller node takes the same execution for the contract's failure.** -/
theorem grasping_blamed : ∃ stats,
    executeInner nullExternals (WasmLimits.build 4096 2) grasping () () () true
        = .ok (graspingResult, stats) ∧
      ∃ details, executeInner nullExternals (WasmLimits.build 512 2) grasping () () () true
        = .error (.contractExecutionFailed details) := by
  obtain ⟨stats, hok⟩ := grasping_succeeds
  have hstage : Stageable (WasmLimits.build 512 2) jsonNull jsonNull jsonNull :=
    ⟨by decide, by decide, by decide⟩
  obtain ⟨inst, hcall⟩ := grasping_callMain (by decide) hstage
  rw [show maxFuel = 9999996 + 4 from rfl] at hcall
  have hsmall : (graspingStaged (WasmLimits.build 512 2)).Fits 13 := by decide
  have hlarge : ¬(graspingWritten (WasmLimits.build 512 2)).Fits 0x200000 := by decide
  obtain ⟨e, hout, hd⟩ := grasping_stopped hsmall hlarge 9999996
  exact ⟨stats, hok, _, executeInner_of_failure hcall hout (by simp [hd])⟩

end Ave
