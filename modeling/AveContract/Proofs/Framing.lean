/-
What a staged payload is to whoever reads it.

A payload is staged as its Borsh frame, four bytes of length and then its own.
Three things are known of those bytes.  They are the ones a plain encoding would
have put there, by the same allocation (`writeContractData_plain`).  They decode to
the payload.  And they decode to nothing else that crosses the boundary: a result
has a flag after its state, where the frame ends, and a check has its flag first
and then a length, which the frame would have to match with three bytes of its own
length and the first byte of the payload.  That last number is at least 2²⁴, and no
payload is as long as that.

So a guest that returns the pointer of an input has returned no result
(`staged_never_result`).  The null pointer is one of them.
-/
import AveContract.Proofs.Contract

namespace Ave

open Slice Borsh Metered MemoryManager

/-! ### The plain way to stage -/

/-- The Borsh encoding in a buffer of its own, added as it is. -/
def addContractData (context : MemoryManager) (data : ContractData) :
    Option Nat × MemoryManager :=
  match ContractData.codec.encode data with
  | .error _ => (none, context)
  | .ok bytes => ((context.addDataRaw bytes).1.toOption, (context.addDataRaw bytes).2)

/-- The encoding of a payload is its frame, if its length fits the header. -/
theorem encode_contractData (payload : Bytes) :
    ContractData.codec.encode ⟨payload⟩
      = if payload.length ≤ u32Max then .ok (le32 payload.length ++ payload)
        else .error .lengthOverflow := by
  have hcap : payload.length ≤ u32Max ↔ payload.length < 2 ^ 32 := by
    unfold u32Max
    omega
  show Codec.blob.encode payload = _
  simp only [hcap]
  rfl

/-- What the two ways of staging a payload have in common, and what it reads as after. -/
structure StagedAlike (limits : WasmLimits) (m : MemoryManager) (payload : Bytes) : Prop where
  manager : (writeContractData m ⟨payload⟩).2 = (addContractData m ⟨payload⟩).2
  pointer : (writeContractData m ⟨payload⟩).1.toOption
    = (addContractData m ⟨payload⟩).1.map usizeAsU32
  /-- The cast of the pointer loses nothing under the limits of any machine. -/
  lossless : ∀ ramMb cpuCores, limits = WasmLimits.build ramMb cpuCores →
    ∀ q, (addContractData m ⟨payload⟩).1 = some q → u32AsUsize (usizeAsU32 q) = q
  reads : ∀ q, (addContractData m ⟨payload⟩).1 = some q →
    ∃ frame, ContractData.codec.encode ⟨payload⟩ = .ok frame ∧
      (writeContractData m ⟨payload⟩).2.readData q = .ok frame ∧
      ContractData.codec.tryFromSlice frame = .ok ⟨payload⟩

/--
**The piecewise way to stage is the plain one.**

From an empty manager, after any calls.
-/
theorem writeContractData_plain (limits : WasmLimits) (ops : List HostOp) (payload : Bytes) :
    StagedAlike limits ((fromLimits limits).run ops) payload := by
  obtain ⟨htiled, -, htotal⟩ := (tiled_fromLimits limits).run ops
  set m := (fromLimits limits).run ops with hm
  have hframe : (le32 payload.length ++ payload).length = 4 + payload.length := by simp
  by_cases hlen : payload.length ≤ u32Max
  · have henc : ContractData.codec.encode ⟨payload⟩ = .ok (le32 payload.length ++ payload) := by
      rw [encode_contractData, if_pos hlen]
    by_cases hfits : m.Fits (4 + payload.length)
    · have hpieces : writeContractData m ⟨payload⟩
          = (.ok (usizeAsU32 m.memory.length), m.staged payload) := writeContractData_fits hlen hfits
      rw [← hframe] at hfits
      have hplain : addContractData m ⟨payload⟩ = (some m.memory.length, m.staged payload) := by
        unfold addContractData
        rw [henc]
        simp only
        rw [addDataRaw_fits hfits, staged_eq]
        rfl
      refine ⟨by rw [hpieces, hplain], by rw [hpieces, hplain]; rfl, ?_, ?_⟩
      · rintro ramMb cpuCores rfl q hq
        rw [hplain, Option.some.injEq] at hq
        have hcap := WasmLimits.build_maxTotalMemory_le ramMb cpuCores
        have hall : m.memory.length ≤ (WasmLimits.build ramMb cpuCores).maxTotalMemory := by
          rw [show (WasmLimits.build ramMb cpuCores).maxTotalMemory = m.maxTotalMemory from
            htotal.symm]
          exact htiled.total
        rw [← hq]
        exact usizeAsU32_toNat (by unfold u32Max; omega)
      · intro q hq
        rw [hplain, Option.some.injEq] at hq
        refine ⟨_, henc, ?_, ContractData.codec.tryFromSlice_encode henc⟩
        rw [hpieces, ← hq, staged_eq]
        exact htiled.readData_filled hfits (by omega)
    · obtain ⟨details, hpieces⟩ : ∃ details, writeContractData m ⟨payload⟩
          = (.error (.memoryAllocationFailed details), m) := writeContractData_refused hlen hfits
      rw [← hframe] at hfits
      obtain ⟨e, he⟩ := addDataRaw_refused hfits
      have hplain : addContractData m ⟨payload⟩ = (none, m) := by
        unfold addContractData
        rw [henc]
        simp only
        rw [he]
        rfl
      refine ⟨by rw [hpieces, hplain], by rw [hpieces, hplain]; rfl, ?_, ?_⟩
      · intro ramMb cpuCores _ q hq
        simp [hplain] at hq
      · intro q hq
        simp [hplain] at hq
  · obtain ⟨e, hpieces⟩ : ∃ e, writeContractData m ⟨payload⟩ = (.error e, m) :=
      writeContractData_too_long hlen
    have hplain : addContractData m ⟨payload⟩ = (none, m) := by
      unfold addContractData
      rw [encode_contractData, if_neg hlen]
    refine ⟨by rw [hpieces, hplain], by rw [hpieces, hplain]; rfl, ?_, ?_⟩
    · intro ramMb cpuCores _ q hq
      simp [hplain] at hq
    · intro q hq
      simp [hplain] at hq

/-! ### A frame is no result -/

/-- A check is its flag and then its text. -/
theorem ContractInitCheckData.encode_ok {check : ContractInitCheckData} {bytes : Bytes}
    (h : ContractInitCheckData.codec.encode check = .ok bytes) :
    ∃ text : Bytes, text.length < 2 ^ 32 ∧
      bytes = (if check.success then 1 else 0) :: (le32 text.length ++ text) := by
  have hpair : (Codec.bool.pair Codec.string).encode (check.success, check.error) = .ok bytes := h
  obtain ⟨flag, text, hflag, htext, rfl⟩ := Codec.pair_ok hpair
  obtain ⟨hshort, rfl⟩ := Codec.blob_ok htext
  obtain rfl := Except.ok.inj hflag
  exact ⟨_, hshort, rfl⟩

/-- A result is its state, framed, and then as a check. -/
theorem ContractResultData.encode_ok {result : ContractResultData} {bytes : Bytes}
    (h : ContractResultData.codec.encode result = .ok bytes) :
    ∃ text : Bytes, result.finalState.bytes.length < 2 ^ 32 ∧
      bytes = le32 result.finalState.bytes.length ++ (result.finalState.bytes ++
        (if result.success then 1 else 0) :: (le32 text.length ++ text)) := by
  have hpair : (ContractData.codec.pair (Codec.bool.pair Codec.string)).encode
      (result.finalState, result.success, result.error) = .ok bytes := h
  obtain ⟨state, rest, hstate, hrest, rfl⟩ := Codec.pair_ok hpair
  obtain ⟨hshort, rfl⟩ := Codec.blob_ok (show Codec.blob.encode result.finalState.bytes = .ok state
    from hstate)
  have hcheck : ContractInitCheckData.codec.encode ⟨result.success, result.error⟩ = .ok rest := hrest
  obtain ⟨text, -, rfl⟩ := ContractInitCheckData.encode_ok hcheck
  exact ⟨text, hshort, List.append_assoc ..⟩

/-- **A frame ends where the flag of a result would be.** -/
theorem frame_not_result {payload : Bytes} (hlen : payload.length < 2 ^ 24) :
    ∃ e, ContractResultData.codec.tryFromSlice (le32 payload.length ++ payload) = .error e := by
  cases hdec : ContractResultData.codec.tryFromSlice (le32 payload.length ++ payload) with
  | error e => exact ⟨e, rfl⟩
  | ok result =>
      obtain ⟨text, hshort, heq⟩ :=
        ContractResultData.encode_ok (ContractResultData.codec.encode_tryFromSlice hdec)
      obtain ⟨hsame, htail⟩ := le32_append_inj (by omega) hshort heq
      have hlength := congrArg List.length htail
      simp only [List.length_append, List.length_cons] at hlength
      omega

/-- **A frame is too short to be a check.**  Behind the flag of a check comes a length, and the
last byte of it would be the first of the payload. -/
theorem frame_not_check {first : UInt8} {payload : Bytes} (hfirst : first ≠ 0)
    (hlen : (first :: payload).length < 2 ^ 24) :
    ∃ e, ContractInitCheckData.codec.tryFromSlice
      (le32 (first :: payload).length ++ first :: payload) = .error e := by
  cases hdec : ContractInitCheckData.codec.tryFromSlice
      (le32 (first :: payload).length ++ first :: payload) with
  | error e => exact ⟨e, rfl⟩
  | ok check =>
      obtain ⟨text, hshort, heq⟩ :=
        ContractInitCheckData.encode_ok (ContractInitCheckData.codec.encode_tryFromSlice hdec)
      have hlength := congrArg List.length heq
      simp only [List.length_append, List.length_cons, length_le32] at hlength hlen
      simp only [le32, List.cons_append, List.nil_append, List.cons.injEq] at heq
      obtain ⟨-, -, -, -, hlast, -⟩ := heq
      have hpos : first.toNat ≠ 0 := fun hz => hfirst (UInt8.toNat_inj.mp hz)
      have hnat := congrArg UInt8.toNat hlast
      rw [UInt8.toNat_ofNat'] at hnat
      omega

/-! ### What a guest leaves of it -/

/-- The store's manager is what some calls made of `m`. -/
def Descends (m : MemoryManager) (s : Store) : Prop := ∃ ops, s.data = m.run ops

/-- The bytes of `m` are still where they were. -/
def Untouched (m : MemoryManager) (s : Store) : Prop := m.memory <+: s.data.memory

section Guests

variable {σ : Type} {module : WasmModule σ} {m context : MemoryManager} {s : Store}

/-- **All a request does to the manager is one of its calls.** -/
theorem Descends.exec (h : Descends m s) (op : Instr) : Descends m (Ave.exec op s).2 := by
  have hstep : ∃ ops, (Ave.exec op s).2.data = s.data.run ops := by
    rcases hex : Ave.exec op s with ⟨_ | a, t⟩
    · rw [exec_refused hex]
      exact ⟨[], rfl⟩
    · cases op with
      | compute => exact ⟨[], Sdk.local_data (w := .compute) hex⟩
      | load addr len => exact ⟨[], Sdk.local_data (w := .load addr len) hex⟩
      | store addr bytes => exact ⟨[], Sdk.local_data (w := .store addr bytes) hex⟩
      | memoryGrow delta => exact ⟨[], Sdk.local_data (w := .memoryGrow delta) hex⟩
      | pointerLen pointer =>
          rw [(exec_granted s).pointerLen pointer a t hex]
          exact ⟨[], rfl⟩
      | alloc len =>
          refine ⟨[.alloc len.toNat], ?_⟩
          rcases Env.alloc_cases s.toCaller len with ⟨hfits, hok⟩ | ⟨-, e, -, he⟩
          · rw [Ave.exec, hok] at hex
            obtain rfl := (Prod.mk.inj hex).2
            rw [run_cons, run_nil, HostOp.apply, alloc_fits hfits]
          · simp [Ave.exec, he] at hex
      | readBytes srcPtr dstPtr len =>
          rw [((exec_granted s).readBytes srcPtr dstPtr len a t hex).1]
          exact ⟨[], rfl⟩
      | writeBytes dstPtr srcPtr len =>
          refine ⟨[.writeBytes (i32AsUsize dstPtr)
            (slice s.memory (i32AsUsize srcPtr) (i32AsUsize len))], ?_⟩
          rcases Env.writeBytes_cases s.toCaller dstPtr srcPtr len with
            ⟨⟨-, -, -, hsrc, hadm⟩, hok⟩ | ⟨-, e, -, he⟩
          · rw [Ave.exec, hok] at hex
            obtain rfl := (Prod.mk.inj hex).2
            rw [run_cons, run_nil, HostOp.apply]
            rcases s.data.writeBytes_cases (i32AsUsize dstPtr)
              (slice s.memory (i32AsUsize srcPtr) (i32AsUsize len)) with ⟨-, hwrite⟩ | ⟨hno, -⟩
            · rw [hwrite]
              rfl
            · rw [length_slice_of_le hsrc] at hno
              exact absurd hadm hno
          · simp [Ave.exec, he] at hex
  obtain ⟨before, hbefore⟩ := h
  obtain ⟨ops, hops⟩ := hstep
  exact ⟨before ++ ops, by rw [hops, hbefore, run_append]⟩

/-- And so all a run of guest code does to it. -/
theorem Descends.call (h : Descends m s) (fuel : Nat) (q : σ) :
    Descends m (module.call fuel q s).final :=
  run_keeps (fun op _ hs => hs.exec op) fuel q s h

theorem descends_instantiate {fuel : Nat} {inst : Instance σ}
    (h : module.instantiate context fuel = .ok inst) : Descends context inst.store := by
  obtain ⟨-, -, memory, -, hstarted⟩ := WasmModule.instantiate_ok h
  have hfresh : Descends context (module.freshStore context memory) := ⟨[], rfl⟩
  unfold WasmModule.started at hstarted
  split at hstarted
  · obtain rfl := Except.ok.inj hstarted
    exact hfresh
  · simp only at hstarted
    split at hstarted
    · simp at hstarted
    · obtain rfl := Except.ok.inj hstarted
      exact hfresh.call fuel _

/-- **A held input that no guest touched is read as its frame.** -/
theorem Descends.readData {p : Nat} {b : Bytes} (h : Descends m s) (htiled : m.Tiled)
    (hsame : Untouched m s) (hin : Sdk.HoldsInput m p b) :
    s.data.readData p = .ok (le32 b.length ++ b) := by
  obtain ⟨ops, hops⟩ := h
  obtain ⟨tail, htail⟩ := hsame
  have hlook : s.data.map.lookup p = some (4 + b.length) := by
    rw [hops]
    exact (htiled.lookup_run ops hin.tracked).1
  have hrun : s.data.Tiled := by
    rw [hops]
    exact (htiled.run ops).1
  rw [hrun.readData hlook, ← htail, slice_append_left hin.inside, hin.bytes]

end Guests

/-! ### Returning an input -/

/-- What a serializer gives is JSON text: there is some, and no text begins with a zero byte. -/
def JsonTexts {V : Type} (ext : Externals V) : Prop :=
  ∀ value b, ext.json.toVec value = .ok b → ∃ first rest, b = first :: rest ∧ first ≠ 0

/-- Neither verdict can be read at the pointer. -/
structure NoVerdict {V : Type} (ext : Externals V) (store : Store) (ptr : Word) : Prop where
  result : ∃ e, getExecutionResult ext store ptr = .error e
  check : ∃ e, checkInitResult ext store ptr = .error e

section Returning

variable {V σ : Type} {ext : Externals V} {spec : ResolvedMachineSpec} {module : WasmModule σ}
  {value state initState event : V} {b b₁ b₂ b₃ : Bytes} {m : MemoryManager} {s : Store} {p : Nat}

/-- The frame of a staged text is no verdict of either kind. -/
theorem frame_no_verdict (spec : ResolvedMachineSpec) (hjson : JsonTexts ext)
    (hb : ext.json.toVec value = .ok b)
    (hcap : 4 + b.length ≤ spec.limits.maxSingleAlloc) :
    (∃ e, ContractResultData.codec.tryFromSlice (le32 b.length ++ b) = .error e) ∧
      ∃ e, ContractInitCheckData.codec.tryFromSlice (le32 b.length ++ b) = .error e := by
  have hsingle : spec.limits.maxSingleAlloc ≤ 8 * 1024 * 1024 :=
    WasmLimits.build_maxSingleAlloc_le spec.ramMb spec.cpuCores
  obtain ⟨first, rest, rfl, hfirst⟩ := hjson value b hb
  exact ⟨frame_not_result (by omega), frame_not_check hfirst (by omega)⟩

theorem noVerdict_of_readData {ptr : Word} (hjson : JsonTexts ext)
    (hb : ext.json.toVec value = .ok b) (hcap : 4 + b.length ≤ spec.limits.maxSingleAlloc)
    (hread : s.data.readData (u32AsUsize ptr) = .ok (le32 b.length ++ b)) :
    NoVerdict ext s ptr := by
  obtain ⟨⟨e₁, hresult⟩, e₂, hcheck⟩ := frame_no_verdict spec hjson hb hcap
  constructor
  · unfold getExecutionResult
    rw [hread]
    simp only [hresult]
    exact ⟨_, rfl⟩
  · unfold checkInitResult
    rw [hread]
    simp only [hcheck]
    exact ⟨_, rfl⟩

/-- A held input that no guest touched is no verdict. -/
theorem noVerdict_of_held (hjson : JsonTexts ext) (hb : ext.json.toVec value = .ok b)
    (hcap : 4 + b.length ≤ spec.limits.maxSingleAlloc) (htiled : m.Tiled)
    (hsmall : m.memory.length ≤ i32Max) (hin : Sdk.HoldsInput m p b) (hdesc : Descends m s)
    (hsame : Untouched m s) : NoVerdict ext s (usizeAsU32 p) := by
  have hinside := hin.inside
  have haddr : u32AsUsize (usizeAsU32 p) = p := usizeAsU32_toNat_of_i32 (by omega)
  refine noVerdict_of_readData hjson hb hcap ?_
  rw [haddr]
  exact hdesc.readData htiled hsame hin

/-- What validation calls `init_check_function` on. -/
theorem callInitCheck_ok {limits : WasmLimits} {inst : Instance σ} {r : GuestRun σ}
    (h : callInitCheck ext limits module state = .ok (inst, r)) :
    ∃ b, Serializes ext state b ∧ (fromLimits limits).Fits (4 + b.length) ∧
      generateContext ext state limits = .ok ((fromLimits limits).staged b, usizeAsU32 0) ∧
      Descends ((fromLimits limits).staged b) r.final := by
  unfold callInitCheck at h
  split at h
  · simp at h
  · split at h
    · simp at h
    · rename_i context statePtr hgen
      have hgen' := hgen
      unfold generateContext at hgen'
      split at hgen'
      · simp at hgen'
      · rename_i ptr staged hstage
        obtain ⟨b, hb, hfits, rfl, rfl⟩ := stageValue_ok hstage
        simp only [Except.ok.injEq, Prod.mk.injEq] at hgen'
        obtain ⟨rfl, rfl⟩ := hgen'
        split at h
        · simp at h
        · rename_i inst' hinst
          split at h
          · simp at h
          · split at h
            · simp at h
            · simp only [Except.ok.injEq, Prod.mk.injEq] at h
              obtain ⟨rfl, rfl⟩ := h
              exact ⟨b, hb, hfits, hgen, (descends_instantiate hinst).call _ _⟩

/-- The bytes of whatever was staged are no verdict. -/
theorem writeContractData_no_verdict {ops : List HostOp} {m' : MemoryManager} {ptr : Word}
    (hjson : JsonTexts ext) (hb : ext.json.toVec value = .ok b)
    (h : writeContractData ((fromLimits spec.limits).run ops) ⟨b⟩ = (.ok ptr, m')) :
    ∃ frame, m'.readData (u32AsUsize ptr) = .ok frame ∧
      (∃ e, ContractResultData.codec.tryFromSlice frame = .error e) ∧
      ∃ e, ContractInitCheckData.codec.tryFromSlice frame = .error e := by
  obtain ⟨htiled, hsingle, htotal⟩ := (tiled_fromLimits spec.limits).run ops
  obtain ⟨-, hfits, rfl, rfl⟩ := writeContractData_ok h
  have hcap : 4 + b.length ≤ spec.limits.maxSingleAlloc := Nat.le_trans hfits.1 (Nat.le_of_eq hsingle)
  have hsmall : ((fromLimits spec.limits).run ops).memory.length ≤ 24 * 1024 * 1024 :=
    Nat.le_trans htiled.total (Nat.le_trans (Nat.le_of_eq htotal)
      (WasmLimits.build_maxTotalMemory_le spec.ramMb spec.cpuCores))
  have haddr := usizeAsU32_toNat (Nat.le_trans hsmall (show 24 * 1024 * 1024 ≤ u32Max by decide))
  have hin := Sdk.holdsInput_staged (m := (fromLimits spec.limits).run ops) b
  refine ⟨le32 b.length ++ b, ?_, frame_no_verdict spec hjson hb hcap⟩
  rw [u32AsUsize, haddr, (htiled.staged hfits).readData hin.tracked, hin.bytes]

/-- The pointers `main_function` was called on give no verdict. -/
theorem callMain_no_verdict {isOwner : Bool} {staged : ExecutionContext} {inst : Instance σ}
    {r : GuestRun σ} (hjson : JsonTexts ext)
    (hgen : generateExecutionContext ext state initState event spec.limits = .ok staged)
    (hcall : callMain ext spec.limits module state initState event isOwner = .ok (inst, r))
    (hsame : Untouched staged.context r.final) :
    staged.statePtr = 0 ∧
      ∀ ptr ∈ [staged.statePtr, staged.initStatePtr, staged.eventPtr, 0],
        NoVerdict ext r.final ptr := by
  obtain ⟨b₁, b₂, b₃, entry, h₁, h₂, h₃, hstage, hinst, -, hr⟩ := callMain_ok hcall
  rw [generateExecutionContext_fits h₁ h₂ h₃ hstage, Except.ok.injEq] at hgen
  subst hgen
  have hdesc : Descends (stagedContext spec.limits b₁ b₂ b₃).context r.final := by
    rw [hr]
    exact (descends_instantiate hinst).call _ _
  have htiled := Sdk.stagedContext_tiled hstage
  have hsmall := (Sdk.stagedContext_small hstage).host
  have hin := Sdk.stagedContext_holds hstage
  have hstate := noVerdict_of_held hjson h₁.1 hstage.state.1 htiled hsmall hin.state hdesc hsame
  have hinit := noVerdict_of_held hjson h₂.1 hstage.initState.1 htiled hsmall hin.initState hdesc
    hsame
  have hevent := noVerdict_of_held hjson h₃.1 hstage.event.1 htiled hsmall hin.event hdesc hsame
  refine ⟨rfl, ?_⟩
  intro ptr hptr
  simp only [List.mem_cons, List.not_mem_nil, or_false] at hptr
  rcases hptr with rfl | rfl | rfl | rfl
  · exact hstate
  · exact hinit
  · exact hevent
  · exact hstate

/-- And so for the one pointer of `init_check_function`. -/
theorem callInitCheck_no_verdict {context : MemoryManager} {statePtr : Word} {inst : Instance σ}
    {r : GuestRun σ} (hjson : JsonTexts ext)
    (hgen : generateContext ext state spec.limits = .ok (context, statePtr))
    (hcall : callInitCheck ext spec.limits module state = .ok (inst, r))
    (hsame : Untouched context r.final) :
    statePtr = 0 ∧ ∀ ptr ∈ [statePtr, 0], NoVerdict ext r.final ptr := by
  obtain ⟨b, hb, hfits, hgen', hdesc⟩ := callInitCheck_ok hcall
  rw [hgen', Except.ok.injEq, Prod.mk.injEq] at hgen
  obtain ⟨rfl, rfl⟩ := hgen
  have htiled := (tiled_fromLimits spec.limits).staged hfits
  have hsmall : ((fromLimits spec.limits).staged b).memory.length ≤ i32Max :=
    Nat.le_trans htiled.total (Nat.le_trans
      (WasmLimits.build_maxTotalMemory_le spec.ramMb spec.cpuCores) (by decide))
  have hin : Sdk.HoldsInput ((fromLimits spec.limits).staged b) 0 b := Sdk.holdsInput_staged b
  have hno := noVerdict_of_held hjson hb.1 hfits.1 htiled hsmall hin hdesc hsame
  refine ⟨rfl, ?_⟩
  intro ptr hptr
  simp only [List.mem_cons, List.not_mem_nil, or_false] at hptr
  rcases hptr with rfl | rfl
  · exact hno
  · exact hno

end Returning

/--
**A staged input never passes for a verdict.**

Whatever is staged under the limits of a machine decodes as neither record; and
whatever ran since, as long as it left the inputs' bytes alone, their pointers
give no verdict, the null pointer among them.
-/
theorem staged_never_verdict {V : Type} (ext : Externals V) (spec : ResolvedMachineSpec)
    (hjson : JsonTexts ext) :
    (∀ (ops : List HostOp) (value : V) b ptr m', ext.json.toVec value = .ok b →
      writeContractData ((fromLimits spec.limits).run ops) ⟨b⟩ = (.ok ptr, m') →
      ∃ frame, m'.readData (u32AsUsize ptr) = .ok frame ∧
        (∃ e, ContractResultData.codec.tryFromSlice frame = .error e) ∧
        ∃ e, ContractInitCheckData.codec.tryFromSlice frame = .error e) ∧
    (∀ (σ : Type) (module : WasmModule σ) (state initState event : V) (isOwner : Bool) staged inst r,
      generateExecutionContext ext state initState event spec.limits = .ok staged →
      callMain ext spec.limits module state initState event isOwner = .ok (inst, r) →
      Untouched staged.context r.final →
      staged.statePtr = 0 ∧
        ∀ ptr ∈ [staged.statePtr, staged.initStatePtr, staged.eventPtr, 0],
          NoVerdict ext r.final ptr) ∧
    (∀ (σ : Type) (module : WasmModule σ) (initialState : V) context statePtr inst r,
      generateContext ext initialState spec.limits = .ok (context, statePtr) →
      callInitCheck ext spec.limits module initialState = .ok (inst, r) →
      Untouched context r.final →
      statePtr = 0 ∧ ∀ ptr ∈ [statePtr, 0], NoVerdict ext r.final ptr) :=
  ⟨fun _ _ _ _ _ hb h => writeContractData_no_verdict hjson hb h,
    fun _ _ _ _ _ _ _ _ _ hgen hcall hsame => callMain_no_verdict hjson hgen hcall hsame,
    fun _ _ _ _ _ _ _ hgen hcall hsame => callInitCheck_no_verdict hjson hgen hcall hsame⟩

/-- A module whose entry points return the null pointer at once. -/
def mute : WasmModule (Prog Instr Instr.Answer Trap Word) where
  imports := Sdk.externf
  memories := []
  tables := []
  memoryExport := false
  data := []
  globals := .ret 0
  start := none
  mainFunction := some fun q _ _ _ _ => q
  initCheckFunction := some fun q _ => q
  step := Prog.step

theorem mute_instantiate (context : MemoryManager) (fuel : Nat) :
    mute.instantiate context fuel =
      .ok { globals := .ret 0, store := mute.freshStore context [], fuel, started := [] } := by
  have hlinked : mute.Linked := by unfold WasmModule.Linked; decide
  have hadm : mute.Admitted context.storeLimits := by
    simp [WasmModule.Admitted, StoreLimits.admits, mute]
  rw [WasmModule.instantiate_admitted hlinked hadm rfl]
  exact WasmModule.started_none rfl

/-- It returns from a call with all its fuel but one unit, and the store as it was. -/
theorem mute_callMain {staged : ExecutionContext}
    (hgen : generateExecutionContext nullExternals () () () (WasmLimits.build 4096 2) = .ok staged) :
    ∃ inst r, callMain nullExternals (WasmLimits.build 4096 2) mute () () () true = .ok (inst, r) ∧
      r.outcome = .ok (0, .ret 0) ∧ r.final.data = staged.context := by
  have hrun : mute.call maxFuel (.ret 0) (mute.freshStore staged.context [])
      = { events := [], final := mute.freshStore staged.context [], fuel := maxFuel - 1,
          outcome := .ok (0, .ret 0) } := WasmModule.call_ret rfl (maxFuel - 1) 0
  have hcall : callMain nullExternals (WasmLimits.build 4096 2) mute () () () true
      = .ok ({ globals := .ret 0, store := mute.freshStore staged.context [], fuel := maxFuel,
               started := [] }, mute.call maxFuel (.ret 0) (mute.freshStore staged.context [])) := by
    unfold callMain
    rw [hgen]
    simp only
    rw [mute_instantiate]
    rfl
  refine ⟨_, _, hcall, ?_, ?_⟩
  · rw [hrun]
  · rw [hrun]
    rfl

/-- **What it returns is the state's pointer, and no verdict.** -/
theorem mute_no_verdict :
    JsonTexts nullExternals ∧
      ∃ inst r, callMain nullExternals (WasmLimits.build 4096 2) mute () () () true
          = .ok (inst, r) ∧
        r.outcome = .ok (0, .ret 0) ∧ NoVerdict nullExternals r.final 0 := by
  have hjson : JsonTexts nullExternals := by
    intro value b hb
    obtain rfl : jsonNull = b := Except.ok.inj hb
    exact ⟨0x6E, [0x75, 0x6C, 0x6C], rfl, by decide⟩
  have hnull : Serializes nullExternals () jsonNull := ⟨rfl, by decide⟩
  have hstage : Stageable (WasmLimits.build 4096 2) jsonNull jsonNull jsonNull :=
    ⟨by decide, by decide, by decide⟩
  have hgen := generateExecutionContext_fits hnull hnull hnull hstage
  obtain ⟨inst, r, hcall, hout, hfinal⟩ := mute_callMain hgen
  have hsame : Untouched (stagedContext (WasmLimits.build 4096 2) jsonNull jsonNull jsonNull).context
      r.final := by
    rw [Untouched, hfinal]
  obtain ⟨-, hno⟩ := (staged_never_verdict nullExternals ⟨4096, 2⟩ hjson).2.1 _ mute () () () true _
    inst r hgen hcall hsame
  exact ⟨hjson, inst, r, hcall, hout, hno 0 (by simp)⟩

end Ave
