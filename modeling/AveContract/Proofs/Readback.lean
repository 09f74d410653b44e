/-
What staging admits, and that the guest can read all of it.

Three constants that are written down in three places have to agree here.  The
limit builder makes the total three times the single cap, so three inputs that each
fit one allocation fit together, and the total never decides.  The per-call cap of
`read_bytes` is the single cap again, so an input that was staged is not too long
to be copied.  And the guest's own limit of ten million bytes lies above the largest
single cap of any machine, so the SDK does not refuse it either.
-/
import AveContract.Proofs.Completion

namespace Ave

open Slice Borsh Metered MemoryManager

/-! ### Three inputs fit if each of them does -/

section Admitting

variable {spec : ResolvedMachineSpec} {b₁ b₂ b₃ : Bytes}

/-- **The total cap is never what decides.** -/
theorem stageable_iff : Stageable spec.limits b₁ b₂ b₃ ↔
    4 + b₁.length ≤ spec.limits.maxSingleAlloc ∧ 4 + b₂.length ≤ spec.limits.maxSingleAlloc ∧
      4 + b₃.length ≤ spec.limits.maxSingleAlloc := by
  constructor
  · intro h
    exact ⟨h.state.1, h.initState.1, h.event.1⟩
  · rintro ⟨h₁, h₂, h₃⟩
    have hthree : 3 * spec.limits.maxSingleAlloc = spec.limits.maxTotalMemory :=
      WasmLimits.build_three_maxSingleAlloc spec.ramMb spec.cpuCores
    have htotal : spec.limits.maxTotalMemory ≤ 24 * 1024 * 1024 :=
      WasmLimits.build_maxTotalMemory_le spec.ramMb spec.cpuCores
    have hcaps := freshContext_caps spec.limits
    have hlen₁ : ((fromLimits spec.limits).staged b₁).memory.length = 4 + b₁.length := by
      rw [length_staged]
      exact Nat.zero_add _
    have hlen₂ : (((fromLimits spec.limits).staged b₁).staged b₂).memory.length
        = 4 + b₁.length + (4 + b₂.length) := by
      rw [length_staged, hlen₁]
    have haddr : 24 * 1024 * 1024 ≤ usizeMax := by decide
    refine ⟨(fits_iff hcaps _).mpr ⟨⟨h₁, ?_⟩, ?_⟩, (fits_iff (hcaps.staged b₁) _).mpr ⟨⟨h₂, ?_⟩, ?_⟩,
      (fits_iff ((hcaps.staged b₁).staged b₂) _).mpr ⟨⟨h₃, ?_⟩, ?_⟩⟩
    · show 0 + (4 + b₁.length) ≤ _
      omega
    · show 0 + (4 + b₁.length) ≤ _
      omega
    · rw [hlen₁]
      omega
    · rw [hlen₁]
      omega
    · rw [hlen₂]
      omega
    · rw [hlen₂]
      omega

/-- The error is that the payload `b` is over the single cap, or too long for its own header. -/
def Oversized (cap : Nat) (b : Bytes) (e : RuntimeError) : Prop :=
  cap < 4 + b.length ∧
    (e = .memoryAllocationFailed (ContractError.allocationTooLarge (4 + b.length) cap).display ∨
      u32Max < b.length ∧ e = .serializationError "contract data borsh"
        s!"{b.length} bytes do not fit the borsh u32 length")

variable {V : Type} {ext : Externals V} {value state initState event : V} {m : MemoryManager}

theorem stageValue_oversized {b : Bytes} (hb : ext.json.toVec value = .ok b)
    (hcap : m.maxSingleAlloc < 4 + b.length) :
    ∃ e, stageValue ext m value = .error e ∧ Oversized m.maxSingleAlloc b e := by
  by_cases hlen : b.length ≤ u32Max
  · have halloc : m.alloc (4 + b.length)
        = (.error (.allocationTooLarge (4 + b.length) m.maxSingleAlloc), m) := by
      unfold alloc
      exact if_pos hcap
    refine ⟨_, ?_, hcap, Or.inl rfl⟩
    unfold stageValue valueToContractData writeContractData
    rw [hb]
    simp only
    rw [if_pos hlen, halloc]
  · refine ⟨_, ?_, hcap, Or.inr ⟨by omega, rfl⟩⟩
    unfold stageValue valueToContractData writeContractData
    rw [hb]
    simp only
    rw [if_neg hlen]

/-- A payload within the single cap has a header. -/
theorem serializes_of_cap {b : Bytes} (hb : ext.json.toVec value = .ok b)
    (hcap : 4 + b.length ≤ spec.limits.maxSingleAlloc) : Serializes ext value b := by
  have hsingle : spec.limits.maxSingleAlloc ≤ 8 * 1024 * 1024 :=
    WasmLimits.build_maxSingleAlloc_le spec.ramMb spec.cpuCores
  exact ⟨hb, by unfold u32Max; omega⟩

/-- **Staging fails for one reason only: some input is over the single cap.** -/
theorem generateExecutionContext_error {e : RuntimeError} (h₁ : ext.json.toVec state = .ok b₁)
    (h₂ : ext.json.toVec initState = .ok b₂) (h₃ : ext.json.toVec event = .ok b₃)
    (h : generateExecutionContext ext state initState event spec.limits = .error e) :
    ∃ b ∈ [b₁, b₂, b₃], Oversized spec.limits.maxSingleAlloc b e := by
  -- The context a stage starts on does not matter, only that its caps are these.
  have hstop : ∀ (m : MemoryManager) (value : V) (b : Bytes), m.maxSingleAlloc
      = spec.limits.maxSingleAlloc → ext.json.toVec value = .ok b →
      spec.limits.maxSingleAlloc < 4 + b.length →
      ∃ e, stageValue ext m value = .error e ∧ Oversized spec.limits.maxSingleAlloc b e := by
    intro m value b hm hb hcap
    rw [← hm] at hcap ⊢
    exact stageValue_oversized hb hcap
  by_cases hc₁ : 4 + b₁.length ≤ spec.limits.maxSingleAlloc
  · by_cases hc₂ : 4 + b₂.length ≤ spec.limits.maxSingleAlloc
    · by_cases hc₃ : 4 + b₃.length ≤ spec.limits.maxSingleAlloc
      · rw [generateExecutionContext_fits (serializes_of_cap h₁ hc₁) (serializes_of_cap h₂ hc₂)
          (serializes_of_cap h₃ hc₃) (stageable_iff.mpr ⟨hc₁, hc₂, hc₃⟩)] at h
        simp at h
      · -- With an empty event in its place the first two stages are those of a staging that fits.
        have hsmall : Stageable spec.limits b₁ b₂ [] :=
          stageable_iff.mpr ⟨hc₁, hc₂, Nat.le_trans (Nat.le_add_right 4 _) hc₂⟩
        obtain ⟨e', he', hover⟩ := hstop (((fromLimits spec.limits).staged b₁).staged b₂) event b₃ rfl
          h₃ (by omega)
        unfold generateExecutionContext at h
        rw [stageValue_fits (serializes_of_cap h₁ hc₁) hsmall.state] at h
        simp only at h
        rw [stageValue_fits (serializes_of_cap h₂ hc₂) hsmall.initState] at h
        simp only at h
        rw [he'] at h
        obtain rfl := Except.error.inj h
        exact ⟨b₃, by simp, hover⟩
    · have hsmall : Stageable spec.limits b₁ [] [] :=
        stageable_iff.mpr ⟨hc₁, Nat.le_trans (Nat.le_add_right 4 _) hc₁,
          Nat.le_trans (Nat.le_add_right 4 _) hc₁⟩
      obtain ⟨e', he', hover⟩ := hstop ((fromLimits spec.limits).staged b₁) initState b₂ rfl h₂
        (by omega)
      unfold generateExecutionContext at h
      rw [stageValue_fits (serializes_of_cap h₁ hc₁) hsmall.state] at h
      simp only at h
      rw [he'] at h
      obtain rfl := Except.error.inj h
      exact ⟨b₂, by simp, hover⟩
  · obtain ⟨e', he', hover⟩ := hstop (fromLimits spec.limits) state b₁ rfl h₁ (by omega)
    unfold generateExecutionContext at h
    rw [he'] at h
    obtain rfl := Except.error.inj h
    exact ⟨b₁, by simp, hover⟩

end Admitting

/-! ### What was staged can be read -/

namespace Sdk

/-- The guest reads `payload` at `ptr`, through every check there is. -/
structure ReadsBack (limits : WasmLimits) (m : MemoryManager) (ptr : Word) (payload : Bytes) :
    Prop where
  /-- The host answers the framed length, in every store that holds `m`. -/
  pointerLen : ∀ s, Ready limits m s →
    Env.pointerLen s.toCaller ptr = usizeAsU32 (4 + payload.length)
  /-- The guest takes it. -/
  guestLen : validateHostLen (usizeAsU32 (4 + payload.length)) = .ok (4 + payload.length)
  /-- The host takes it back, as the length of a copy. -/
  hostLen : checkedGuestLen (usizeAsU32 (4 + payload.length)) m.maxSingleAlloc
    = .ok (4 + payload.length)
  /-- The copy the host makes is the frame. -/
  copied : ∀ s, Ready limits m s →
    Env.readBytesTemp s.toCaller ptr (usizeAsU32 (4 + payload.length))
      = .ok (le32 payload.length ++ payload)
  /-- A guest with room for the buffer gets those bytes, and deserializes the payload. -/
  received : ∀ build site room s, Ready limits m s → Roomy room s →
    (∀ s, Roomy room s → ∃ t, Returns (doWork (build.work site)) s () t) →
    (build.buffer site).toNat + (4 + payload.length) ≤ room →
    ∃ bytes t, Returns (getFromContext build site ptr) s (.ok bytes) t ∧
      deserialize build bytes = .ok ⟨payload⟩

/-- The three inputs lie apart, one after the other, and each can be read. -/
structure Readable (limits : WasmLimits) (staged : ExecutionContext) (b₁ b₂ b₃ : Bytes) : Prop where
  distinct : [staged.statePtr, staged.initStatePtr, staged.eventPtr].Nodup
  stateBefore : u32AsUsize staged.statePtr + (4 + b₁.length) ≤ u32AsUsize staged.initStatePtr
  initStateBefore : u32AsUsize staged.initStatePtr + (4 + b₂.length) ≤ u32AsUsize staged.eventPtr
  inside : u32AsUsize staged.eventPtr + (4 + b₃.length) ≤ staged.context.memory.length
  state : ReadsBack limits staged.context staged.statePtr b₁
  initState : ReadsBack limits staged.context staged.initStatePtr b₂
  event : ReadsBack limits staged.context staged.eventPtr b₃

section Reading

variable {limits : WasmLimits} {spec : ResolvedMachineSpec} {m : MemoryManager} {p : Nat}
  {b b₁ b₂ b₃ : Bytes}

/-- **A held input within the caps reads back.** -/
theorem HoldsInput.readsBack (hcaps : HasCaps limits m) (hsmall : Small limits m)
    (hin : HoldsInput m p b) (hcap : 4 + b.length ≤ limits.maxSingleAlloc)
    (hlen : 4 + b.length ≤ 10000000) : ReadsBack limits m (usizeAsU32 p) b := by
  have hhost := hsmall.host
  have hinside := hin.inside
  have hi32 : 4 + b.length ≤ i32Max := by unfold i32Max; omega
  have hn : i32AsUsize (usizeAsU32 (4 + b.length)) = 4 + b.length := i32AsUsize_usizeAsU32 hi32
  have hptr : i32AsUsize (usizeAsU32 p) = p := i32AsUsize_usizeAsU32 (by omega)
  have hneg : 0 ≤ (usizeAsU32 (4 + b.length)).toInt := by
    rw [toInt_usizeAsU32 hi32]
    exact Int.natCast_nonneg _
  refine ⟨fun s hs => pointerLen_staged hs hsmall hin, validateHostLen_ok hlen, ?_, ?_, ?_⟩
  · rcases checkedGuestLen_cases (usizeAsU32 (4 + b.length)) m.maxSingleAlloc with
      ⟨-, -, hok⟩ | ⟨hno, -⟩
    · rw [hok, hn]
    · refine absurd ⟨hneg, ?_⟩ hno
      rw [hn, hcaps.maxSingleAlloc]
      exact hcap
  · intro s hs
    rcases Env.readBytesTemp_cases s.toCaller (usizeAsU32 p) (usizeAsU32 (4 + b.length)) with
      ⟨-, -, hok⟩ | ⟨hno, -⟩
    · rw [hok, hn, hptr, hs.data, hin.bytes]
    · refine absurd ⟨⟨hneg, ?_⟩, ?_, ?_⟩ hno
      · rw [hn, hs.data, hcaps.maxSingleAlloc]
        exact hcap
      · rw [hn, hptr]
        unfold i32Max at hhost
        unfold usizeMax
        omega
      · rw [hn, hptr, hs.data]
        exact hinside
  · intro build site room s hs hroomy hwork hbuf
    obtain ⟨r, t, hget⟩ := getFromContext_answers hs hsmall hroomy hin hlen hcap hwork hbuf
    obtain ⟨rfl, -⟩ := getFromContext_returns hs hsmall hin hlen hget
    exact ⟨_, t, hget, deserialize_frame (by unfold u32Max; omega)⟩

/-- **What was staged lies apart and reads back.** -/
theorem stagedContext_readable (h : Stageable spec.limits b₁ b₂ b₃) :
    Readable spec.limits (stagedContext spec.limits b₁ b₂ b₃) b₁ b₂ b₃ := by
  have hin := stagedContext_holds h
  have hsmall := stagedContext_small h
  have hcaps := stagedContext_caps spec.limits b₁ b₂ b₃
  have hhost := hsmall.host
  have hinside := hin.event.inside
  have hinit : u32AsUsize (usizeAsU32 (4 + b₁.length)) = 4 + b₁.length :=
    usizeAsU32_toNat_of_i32 (by omega)
  have hevent : u32AsUsize (usizeAsU32 (4 + b₁.length + (4 + b₂.length)))
      = 4 + b₁.length + (4 + b₂.length) := usizeAsU32_toNat_of_i32 (by omega)
  have hstate : u32AsUsize (usizeAsU32 0) = 0 := rfl
  refine ⟨?_, ?_, ?_, ?_, hin.state.readsBack hcaps hsmall h.state.1 hin.stateLen,
    hin.initState.readsBack hcaps hsmall h.initState.1 hin.initStateLen,
    hin.event.readsBack hcaps hsmall h.event.1 hin.eventLen⟩
  · have hnodup : [u32AsUsize (usizeAsU32 0), u32AsUsize (usizeAsU32 (4 + b₁.length)),
        u32AsUsize (usizeAsU32 (4 + b₁.length + (4 + b₂.length)))].Nodup := by
      rw [hinit, hevent, hstate]
      simp only [List.nodup_cons, List.mem_cons, List.not_mem_nil, or_false, not_false_eq_true,
        List.nodup_nil, and_true]
      omega
    exact List.Nodup.of_map u32AsUsize hnodup
  · show u32AsUsize (usizeAsU32 0) + _ ≤ u32AsUsize (usizeAsU32 (4 + b₁.length))
    rw [hinit, hstate]
    omega
  · show u32AsUsize (usizeAsU32 (4 + b₁.length)) + _
      ≤ u32AsUsize (usizeAsU32 (4 + b₁.length + (4 + b₂.length)))
    rw [hinit, hevent]
  · show u32AsUsize (usizeAsU32 (4 + b₁.length + (4 + b₂.length))) + _ ≤ _
    rw [hevent]
    exact hinside

end Reading

/--
**Staging admits what fits one allocation each, and the guest reads all it admits.**
-/
theorem staging_exact {V : Type} (ext : Externals V) (spec : ResolvedMachineSpec)
    (state initState event : V) (b₁ b₂ b₃ : Bytes) (h₁ : ext.json.toVec state = .ok b₁)
    (h₂ : ext.json.toVec initState = .ok b₂) (h₃ : ext.json.toVec event = .ok b₃) :
    ((∃ staged, generateExecutionContext ext state initState event spec.limits = .ok staged) ↔
        4 + b₁.length ≤ spec.limits.maxSingleAlloc ∧ 4 + b₂.length ≤ spec.limits.maxSingleAlloc ∧
          4 + b₃.length ≤ spec.limits.maxSingleAlloc) ∧
      (∀ e, generateExecutionContext ext state initState event spec.limits = .error e →
        ∃ b ∈ [b₁, b₂, b₃], Oversized spec.limits.maxSingleAlloc b e) ∧
      ∀ staged, generateExecutionContext ext state initState event spec.limits = .ok staged →
        Readable spec.limits staged b₁ b₂ b₃ := by
  have hok : ∀ staged,
      generateExecutionContext ext state initState event spec.limits = .ok staged →
        Stageable spec.limits b₁ b₂ b₃ ∧ staged = stagedContext spec.limits b₁ b₂ b₃ := by
    intro staged hgen
    obtain ⟨c₁, c₂, c₃, hc₁, hc₂, hc₃, hstage, hstaged⟩ := generateExecutionContext_ok hgen
    obtain rfl := Except.ok.inj (hc₁.1.symm.trans h₁)
    obtain rfl := Except.ok.inj (hc₂.1.symm.trans h₂)
    obtain rfl := Except.ok.inj (hc₃.1.symm.trans h₃)
    exact ⟨hstage, hstaged⟩
  refine ⟨⟨?_, ?_⟩, fun e he => generateExecutionContext_error h₁ h₂ h₃ he, ?_⟩
  · rintro ⟨staged, hgen⟩
    exact stageable_iff.mp (hok staged hgen).1
  · rintro ⟨hc₁, hc₂, hc₃⟩
    exact ⟨_, generateExecutionContext_fits (serializes_of_cap h₁ hc₁) (serializes_of_cap h₂ hc₂)
      (serializes_of_cap h₃ hc₃) (stageable_iff.mpr ⟨hc₁, hc₂, hc₃⟩)⟩
  · intro staged hgen
    obtain ⟨hstage, rfl⟩ := hok staged hgen
    exact stagedContext_readable hstage

/-- **Three `null`s are staged on the default machine, and read back in a bare guest.** -/
theorem nulls_read_back : ∃ staged,
    generateExecutionContext nullExternals () () () (ResolvedMachineSpec.limits ⟨4096, 2⟩)
      = .ok staged ∧
    ∀ s, Ready (ResolvedMachineSpec.limits ⟨4096, 2⟩) staged.context s → Roomy 8 s →
      ∃ bytes t, Returns (getFromContext ⟨fun _ => "", fun _ => [], fun _ => 0⟩ .event
          staged.eventPtr) s (.ok bytes) t ∧
        deserialize ⟨fun _ => "", fun _ => [], fun _ => 0⟩ bytes = .ok ⟨jsonNull⟩ := by
  obtain ⟨hiff, -, hread⟩ := staging_exact nullExternals ⟨4096, 2⟩ () () () jsonNull jsonNull jsonNull
    rfl rfl rfl
  obtain ⟨staged, hgen⟩ := hiff.mpr ⟨by decide, by decide, by decide⟩
  refine ⟨staged, hgen, fun s hs hroomy => ?_⟩
  exact (hread staged hgen).event.received _ .event 8 s hs hroomy (fun s _ => ⟨s, rfl⟩) (by decide)

end Sdk

end Ave
