/-
One guest on two nodes.

Every host function looks at the local caps in one place, and what it does with
them is refuse.  So take a request that one node answered.  On the other node it
is either within the caps, and then the answer and the effect are the same, or
it is not, and then it is refused (`exec_curbs`).  From there `run_trace` does
the rest: the second node's run is the first one's until the first request that
is over its caps, and there it ends in an error.

`callMain_follow` carries this through the three phases of an execution.  The
inputs are staged at the same addresses or not at all; the module's minimums are
within the limits or not; the start function and `main_function` each run to the
same end or are stopped.  Nothing else can happen on the second node, and which
of these does is decided by what the first node's run asked for.
-/
import AveContract.Proofs.HostCalls
import AveContract.Proofs.Instance

namespace Ave

open Metered

/-! ### Two stores that differ in their caps only -/

/-- The caps of a manager are those of `limits`. -/
structure HasCaps (limits : WasmLimits) (m : MemoryManager) : Prop where
  storeLimits : m.storeLimits = (MemoryManager.fromLimits limits).storeLimits
  maxSingleAlloc : m.maxSingleAlloc = limits.maxSingleAlloc
  maxTotalMemory : m.maxTotalMemory = limits.maxTotalMemory

theorem HasCaps.grown {limits : WasmLimits} {m : MemoryManager} (h : HasCaps limits m) (len : Nat) :
    HasCaps limits (m.grown len) :=
  ⟨h.storeLimits, h.maxSingleAlloc, h.maxTotalMemory⟩

theorem HasCaps.written {limits : WasmLimits} {m : MemoryManager} (h : HasCaps limits m)
    (start : Nat) (data : Bytes) : HasCaps limits (m.written start data) :=
  ⟨h.storeLimits, h.maxSingleAlloc, h.maxTotalMemory⟩

theorem HasCaps.staged {limits : WasmLimits} {m : MemoryManager} (h : HasCaps limits m)
    (payload : Bytes) : HasCaps limits (m.staged payload) :=
  ⟨h.storeLimits, h.maxSingleAlloc, h.maxTotalMemory⟩

theorem freshContext_caps (limits : WasmLimits) :
    HasCaps limits (MemoryManager.fromLimits limits) :=
  ⟨rfl, rfl, rfl⟩

/-- Two stores with the same contents, each under its own caps. -/
structure SameStore (limits₁ limits₂ : WasmLimits) (s₁ s₂ : Store) : Prop where
  hostMemory : s₁.data.memory = s₂.data.memory
  hostMap : s₁.data.map = s₂.data.map
  memory : s₁.memory = s₂.memory
  memoryExport : s₁.memoryExport = s₂.memoryExport
  maximum : s₁.maximum = s₂.maximum
  caps₁ : HasCaps limits₁ s₁.data
  caps₂ : HasCaps limits₂ s₂.data

/-- The request is within the caps of `limits`. -/
def WithinCaps (limits : WasmLimits) : Instr → Store → Prop
  | .compute, _ => True
  | .load _ _, _ => True
  | .store _ _, _ => True
  | .memoryGrow delta, s => s.memory.length + delta * wasmPageBytes ≤ limits.memorySize
  | .pointerLen _, _ => True
  | .alloc len, s =>
      len.toNat ≤ limits.maxSingleAlloc ∧ s.data.memory.length + len.toNat ≤ limits.maxTotalMemory
  | .readBytes _ _ len, _ => i32AsUsize len ≤ limits.maxSingleAlloc
  | .writeBytes _ _ len, _ => i32AsUsize len ≤ limits.maxSingleAlloc

/-- Each cap of the first is at most that of the second. -/
structure CapsLe (limits₁ limits₂ : WasmLimits) : Prop where
  memorySize : limits₁.memorySize ≤ limits₂.memorySize
  maxSingleAlloc : limits₁.maxSingleAlloc ≤ limits₂.maxSingleAlloc
  maxTotalMemory : limits₁.maxTotalMemory ≤ limits₂.maxTotalMemory
  maxTableElements : limits₁.maxTableElements ≤ limits₂.maxTableElements

theorem WithinCaps.mono {limits₁ limits₂ : WasmLimits} (h : CapsLe limits₁ limits₂) {op : Instr}
    {s : Store} (hw : WithinCaps limits₁ op s) : WithinCaps limits₂ op s := by
  cases op with
  | compute => trivial
  | load addr len => trivial
  | store addr bytes => trivial
  | memoryGrow delta => exact Nat.le_trans hw h.memorySize
  | pointerLen pointer => trivial
  | alloc len =>
      exact ⟨Nat.le_trans hw.1 h.maxSingleAlloc, Nat.le_trans hw.2 h.maxTotalMemory⟩
  | readBytes srcPtr dstPtr len => exact Nat.le_trans hw h.maxSingleAlloc
  | writeBytes dstPtr srcPtr len => exact Nat.le_trans hw h.maxSingleAlloc

/-! ### One request on two nodes -/

section Requests

variable {limits limits₁ limits₂ : WasmLimits} {s s₁ s₂ t₁ : Store}

theorem fits_iff {m : MemoryManager} (h : HasCaps limits m) (len : Nat) :
    m.Fits len ↔ (len ≤ limits.maxSingleAlloc ∧ m.memory.length + len ≤ limits.maxTotalMemory) ∧
      m.memory.length + len ≤ usizeMax := by
  unfold MemoryManager.Fits
  rw [h.maxSingleAlloc, h.maxTotalMemory]
  constructor
  · rintro ⟨hs, ha, ht⟩
    exact ⟨⟨hs, ht⟩, ha⟩
  · rintro ⟨⟨hs, ht⟩, ha⟩
    exact ⟨hs, ha, ht⟩

/-- The declared maximum of the linear memory leaves room for `desired` bytes. -/
def Growable (s : Store) (desired : Nat) : Prop :=
  (s.maximum.all fun pages => decide (desired ≤ pages * wasmPageBytes)) = true

/-- The store after a growth that was granted. -/
def grownStore (s : Store) (delta : Nat) : Store :=
  { s with memory := s.memory ++ List.replicate (delta * wasmPageBytes) 0 }

/-- **A growth is granted within the limits, or it traps.** -/
theorem memoryGrow_cases (hcaps : HasCaps limits s.data) (delta : Nat) :
    ((WithinCaps limits (.memoryGrow delta) s ∧
          Growable s (s.memory.length + delta * wasmPageBytes)) ∧
        exec (.memoryGrow delta) s =
          (.ok ((s.memory.length / wasmPageBytes : Nat) : Int), grownStore s delta)) ∨
      (¬(WithinCaps limits (.memoryGrow delta) s ∧
          Growable s (s.memory.length + delta * wasmPageBytes)) ∧
        ∃ e : WasmError, e.downcastTrap = none ∧ exec (.memoryGrow delta) s = (.error e, s)) := by
  have hsize : s.data.storeLimits.memorySize = limits.memorySize := by rw [hcaps.storeLimits]; rfl
  have htrap : s.data.storeLimits.trapOnGrowFailure = true := by rw [hcaps.storeLimits]; rfl
  have hgrow : s.data.storeLimits.memoryGrowing (s.memory.length + delta * wasmPageBytes) s.maximum
      = true ↔ WithinCaps limits (.memoryGrow delta) s ∧
        Growable s (s.memory.length + delta * wasmPageBytes) := by
    rw [StoreLimits.memoryGrowing, Bool.and_eq_true, decide_eq_true_iff, hsize]
    rfl
  rw [← hgrow, exec]
  by_cases h : s.data.storeLimits.memoryGrowing (s.memory.length + delta * wasmPageBytes) s.maximum
      = true
  · rw [if_pos h]
    exact Or.inl ⟨h, rfl⟩
  · rw [if_neg h, if_pos htrap]
    exact Or.inr ⟨h, _, rfl, rfl⟩

/-- What a store answers is within its own caps. -/
theorem exec_within (hcaps : HasCaps limits s.data) {op : Instr} {a : op.Answer} {t : Store}
    (h : exec op s = (.ok a, t)) : WithinCaps limits op s := by
  cases op with
  | compute => trivial
  | load addr len => trivial
  | store addr bytes => trivial
  | memoryGrow delta =>
      rcases memoryGrow_cases hcaps delta with ⟨⟨hcap, -⟩, -⟩ | ⟨-, e, -, he⟩
      · exact hcap
      · simp [he] at h
  | pointerLen pointer => trivial
  | alloc len =>
      rcases Env.alloc_cases s.toCaller len with ⟨hfits, -⟩ | ⟨-, e, -, he⟩
      · exact ((fits_iff hcaps _).mp hfits).1
      · simp [exec, he] at h
  | readBytes srcPtr dstPtr len =>
      rcases Env.readBytes_cases s.toCaller srcPtr dstPtr len with ⟨⟨hcap, -⟩, -⟩ | ⟨-, e, -, he⟩
      · rw [hcaps.maxSingleAlloc] at hcap
        exact hcap
      · simp [exec, he] at h
  | writeBytes dstPtr srcPtr len =>
      rcases Env.writeBytes_cases s.toCaller dstPtr srcPtr len with ⟨⟨hcap, -⟩, -⟩ | ⟨-, e, -, he⟩
      · rw [hcaps.maxSingleAlloc] at hcap
        exact hcap
      · simp [exec, he] at h

/-- A growth within both limits. -/
theorem memoryGrow_answers {delta : Nat} {a : Int} (hsame : SameStore limits₁ limits₂ s₁ s₂)
    (h : exec (.memoryGrow delta) s₁ = (.ok a, t₁))
    (hcap : WithinCaps limits₂ (.memoryGrow delta) s₁) :
    ∃ t₂, exec (.memoryGrow delta) s₂ = (.ok a, t₂) ∧ SameStore limits₁ limits₂ t₁ t₂ := by
  obtain ⟨hhost, hmap, hmem, hexp, hmax, hcaps₁, hcaps₂⟩ := hsame
  have hlen : s₁.memory.length = s₂.memory.length := by rw [hmem]
  rcases memoryGrow_cases hcaps₁ delta with ⟨⟨-, hgrow⟩, hok⟩ | ⟨-, e, -, he⟩
  · rw [hok] at h
    obtain ⟨ha, rfl⟩ := Prod.mk.inj h
    rcases memoryGrow_cases hcaps₂ delta with ⟨-, hok₂⟩ | ⟨hno, -⟩
    · rw [hok₂, ← hlen, ha]
      refine ⟨_, rfl, hhost, hmap, ?_, hexp, hmax, hcaps₁, hcaps₂⟩
      show s₁.memory ++ _ = s₂.memory ++ _
      rw [hmem]
    · refine absurd ⟨?_, ?_⟩ hno
      · show s₂.memory.length + delta * wasmPageBytes ≤ limits₂.memorySize
        rw [← hlen]
        exact hcap
      · unfold Growable at hgrow ⊢
        rw [← hmax, ← hlen]
        exact hgrow
  · simp [he] at h

/-- An allocation within both managers' caps. -/
theorem alloc_answers {len a : Word} (hsame : SameStore limits₁ limits₂ s₁ s₂)
    (h : exec (.alloc len) s₁ = (.ok a, t₁)) (hcap : WithinCaps limits₂ (.alloc len) s₁) :
    ∃ t₂, exec (.alloc len) s₂ = (.ok a, t₂) ∧ SameStore limits₁ limits₂ t₁ t₂ := by
  obtain ⟨hhost, hmap, hmem, hexp, hmax, hcaps₁, hcaps₂⟩ := hsame
  rcases Env.alloc_cases s₁.toCaller len with ⟨hfits₁, hok⟩ | ⟨-, e, -, he⟩
  · rw [exec, hok] at h
    obtain ⟨ha, rfl⟩ := Prod.mk.inj h
    have hfits₂ : s₂.data.Fits len.toNat := by
      rw [fits_iff hcaps₂, ← hhost]
      exact ⟨hcap, hfits₁.2.1⟩
    rcases Env.alloc_cases s₂.toCaller len with ⟨-, hok₂⟩ | ⟨hno, -⟩
    · rw [exec, hok₂, ← hhost, ha]
      refine ⟨_, rfl, ?_, ?_, hmem, hexp, hmax, hcaps₁.grown _, hcaps₂.grown _⟩
      · show s₁.data.memory ++ _ = s₂.data.memory ++ _
        rw [hhost]
      · show (s₁.data.grown len.toNat).map = (s₂.data.grown len.toNat).map
        unfold MemoryManager.grown
        rw [hhost, hmap]
    · exact absurd hfits₂ hno
  · simp [exec, he] at h

/-- Copies within both per-call caps. -/
theorem readBytes_answers {srcPtr dstPtr len : Word} {a : Unit}
    (hsame : SameStore limits₁ limits₂ s₁ s₂)
    (h : exec (.readBytes srcPtr dstPtr len) s₁ = (.ok a, t₁))
    (hcap : WithinCaps limits₂ (.readBytes srcPtr dstPtr len) s₁) :
    ∃ t₂, exec (.readBytes srcPtr dstPtr len) s₂ = (.ok a, t₂) ∧ SameStore limits₁ limits₂ t₁ t₂ := by
  obtain ⟨hhost, hmap, hmem, hexp, hmax, hcaps₁, hcaps₂⟩ := hsame
  rcases Env.readBytes_cases s₁.toCaller srcPtr dstPtr len with
    ⟨⟨-, hneg, haddr, hsrc, hexp₁, hdst⟩, hok⟩ | ⟨-, e, -, he⟩
  · rw [exec, hok] at h
    obtain ⟨ha, rfl⟩ := Prod.mk.inj h
    rcases Env.readBytes_cases s₂.toCaller srcPtr dstPtr len with ⟨-, hok₂⟩ | ⟨hno, -⟩
    · rw [exec, hok₂, ha]
      refine ⟨_, rfl, hhost, hmap, ?_, hexp, hmax, hcaps₁, hcaps₂⟩
      show (Env.received s₁.toCaller srcPtr dstPtr len).memory
        = (Env.received s₂.toCaller srcPtr dstPtr len).memory
      unfold Env.received
      rw [hmem, hhost]
    · refine absurd ⟨?_, hneg, haddr, ?_, ?_, ?_⟩ hno
      · rw [hcaps₂.maxSingleAlloc]
        exact hcap
      · rw [← hhost]
        exact hsrc
      · rw [← hexp]
        exact hexp₁
      · rw [← hmem]
        exact hdst
  · simp [exec, he] at h

theorem writeBytes_answers {dstPtr srcPtr len : Word} {a : Unit}
    (hsame : SameStore limits₁ limits₂ s₁ s₂)
    (h : exec (.writeBytes dstPtr srcPtr len) s₁ = (.ok a, t₁))
    (hcap : WithinCaps limits₂ (.writeBytes dstPtr srcPtr len) s₁) :
    ∃ t₂, exec (.writeBytes dstPtr srcPtr len) s₂ = (.ok a, t₂) ∧ SameStore limits₁ limits₂ t₁ t₂ := by
  obtain ⟨hhost, hmap, hmem, hexp, hmax, hcaps₁, hcaps₂⟩ := hsame
  rcases Env.writeBytes_cases s₁.toCaller dstPtr srcPtr len with
    ⟨⟨-, hneg, hexp₁, hsrc, size, hlook, hin, haddr, hdst⟩, hok⟩ | ⟨-, e, -, he⟩
  · rw [exec, hok] at h
    obtain ⟨ha, rfl⟩ := Prod.mk.inj h
    rcases Env.writeBytes_cases s₂.toCaller dstPtr srcPtr len with ⟨-, hok₂⟩ | ⟨hno, -⟩
    · rw [exec, hok₂, ha]
      refine ⟨_, rfl, ?_, hmap, hmem, hexp, hmax, hcaps₁.written _ _, hcaps₂.written _ _⟩
      show (Env.sent s₁.toCaller dstPtr srcPtr len).data.memory
        = (Env.sent s₂.toCaller dstPtr srcPtr len).data.memory
      unfold Env.sent
      rw [MemoryManager.written_memory, MemoryManager.written_memory, hmem, hhost]
    · refine absurd ⟨?_, hneg, ?_, ?_, size, ?_, hin, haddr, ?_⟩ hno
      · rw [hcaps₂.maxSingleAlloc]
        exact hcap
      · rw [← hexp]
        exact hexp₁
      · rw [← hmem]
        exact hsrc
      · rw [← hmap]
        exact hlook
      · rw [← hhost]
        exact hdst
  · simp [exec, he] at h

/-- **A request within both nodes' caps gets one answer and has one effect.** -/
theorem exec_answers {op : Instr} {a : op.Answer} (hsame : SameStore limits₁ limits₂ s₁ s₂)
    (h : exec op s₁ = (.ok a, t₁)) (hcap : WithinCaps limits₂ op s₁) :
    ∃ t₂, exec op s₂ = (.ok a, t₂) ∧ SameStore limits₁ limits₂ t₁ t₂ := by
  cases op with
  | compute =>
      obtain ⟨ha, rfl⟩ := Prod.mk.inj h
      exact ⟨s₂, rfl, hsame⟩
  | load addr len =>
      rw [exec] at h ⊢
      rw [← hsame.memory]
      split at h
      · rename_i hin
        obtain ⟨ha, rfl⟩ := Prod.mk.inj h
        rw [if_pos hin, ha]
        exact ⟨s₂, rfl, hsame⟩
      · simp at h
  | store addr bytes =>
      rw [exec] at h ⊢
      rw [← hsame.memory]
      split at h
      · rename_i hin
        obtain ⟨ha, rfl⟩ := Prod.mk.inj h
        rw [if_pos hin, ha]
        exact ⟨_, rfl, { hsame with memory := rfl }⟩
      · simp at h
  | memoryGrow delta => exact memoryGrow_answers hsame h hcap
  | pointerLen pointer =>
      obtain ⟨ha, rfl⟩ := Prod.mk.inj h
      refine ⟨s₂, ?_, hsame⟩
      rw [← ha]
      show (Except.ok (Env.pointerLen s₂.toCaller pointer), s₂) = _
      unfold Env.pointerLen MemoryManager.getPointerLen
      rw [hsame.hostMap]
  | alloc len => exact alloc_answers hsame h hcap
  | readBytes srcPtr dstPtr len => exact readBytes_answers hsame h hcap
  | writeBytes dstPtr srcPtr len => exact writeBytes_answers hsame h hcap

theorem SameStore.refl (h : HasCaps limits s.data) : SameStore limits limits s s :=
  ⟨rfl, rfl, rfl, rfl, rfl, h, h⟩

/-- No request changes the caps. -/
theorem exec_caps {op : Instr} {a : op.Answer} {t : Store} (hcaps : HasCaps limits s.data)
    (h : exec op s = (.ok a, t)) : HasCaps limits t.data := by
  obtain ⟨t₂, ht₂, hsame⟩ := exec_answers (SameStore.refl hcaps) h (exec_within hcaps h)
  exact hsame.caps₁

/-- **A request over the caps is refused.** -/
theorem exec_over {op : Instr} (hcaps : HasCaps limits s.data) (h : ¬WithinCaps limits op s) :
    ∃ e : WasmError, e.downcastTrap = none ∧ exec op s = (.error e, s) := by
  cases op with
  | compute => exact absurd trivial h
  | load addr len => exact absurd trivial h
  | store addr bytes => exact absurd trivial h
  | memoryGrow delta =>
      rcases memoryGrow_cases hcaps delta with ⟨⟨hcap, -⟩, -⟩ | ⟨-, hno⟩
      · exact absurd hcap h
      · exact hno
  | pointerLen pointer => exact absurd trivial h
  | alloc len =>
      rcases Env.alloc_cases s.toCaller len with ⟨hfits, -⟩ | ⟨-, e, hd, he⟩
      · exact absurd ((fits_iff hcaps _).mp hfits).1 h
      · exact ⟨e, hd, by rw [exec, he]⟩
  | readBytes srcPtr dstPtr len =>
      rcases Env.readBytes_cases s.toCaller srcPtr dstPtr len with ⟨⟨hcap, -⟩, -⟩ | ⟨-, e, hd, he⟩
      · rw [hcaps.maxSingleAlloc] at hcap
        exact absurd hcap h
      · exact ⟨e, hd, by rw [exec, he]⟩
  | writeBytes dstPtr srcPtr len =>
      rcases Env.writeBytes_cases s.toCaller dstPtr srcPtr len with ⟨⟨hcap, -⟩, -⟩ | ⟨-, e, hd, he⟩
      · rw [hcaps.maxSingleAlloc] at hcap
        exact absurd hcap h
      · exact ⟨e, hd, by rw [exec, he]⟩

/-- Whether a request is within the caps can be told from either store. -/
theorem SameStore.within (hsame : SameStore limits₁ limits₂ s₁ s₂) {op : Instr}
    (h : WithinCaps limits op s₂) : WithinCaps limits op s₁ := by
  cases op with
  | compute => trivial
  | load addr len => trivial
  | store addr bytes => trivial
  | memoryGrow delta =>
      show s₁.memory.length + delta * wasmPageBytes ≤ limits.memorySize
      rw [hsame.memory]
      exact h
  | pointerLen pointer => trivial
  | alloc len =>
      refine ⟨h.1, ?_⟩
      rw [hsame.hostMemory]
      exact h.2
  | readBytes srcPtr dstPtr len => exact h
  | writeBytes dstPtr srcPtr len => exact h

/-- **The second node curbs the first.** -/
theorem exec_curbs (limits₁ limits₂ : WasmLimits) :
    Curbs (SameStore limits₁ limits₂) (WithinCaps limits₂) (fun e => e.downcastTrap = none)
      exec exec where
  answers := fun op s₁ s₂ a t₁ hsame h hcap => exec_answers hsame h hcap
  refuses := by
    intro op s₁ s₂ a t₁ hsame h hover
    obtain ⟨e, hd, he⟩ := exec_over hsame.caps₂ fun hcap => hover (hsame.within hcap)
    exact ⟨e, s₂, he, hd⟩

end Requests

/-! ### One module on two nodes -/

section Modules

variable {σ : Type} {module : WasmModule σ} {limits₁ limits₂ : WasmLimits}

/-- Every request of a run was within the caps. -/
def AllWithin (limits : WasmLimits) (events : List (Event Instr Instr.Answer Store)) : Prop :=
  ∀ e ∈ events, WithinCaps limits e.op e.before

/-- A run asks for nothing its own store refuses. -/
theorem call_within {limits : WasmLimits} {fuel : Nat} {q : σ} {s : Store}
    (hcaps : HasCaps limits s.data) : AllWithin limits (module.call fuel q s).events := by
  have hstep : ∀ (op : Instr) (s : Store) (a : op.Answer) (s' : Store), HasCaps limits s.data →
      exec op s = (.ok a, s') → WithinCaps limits op s ∧ HasCaps limits s'.data :=
    fun op s a s' hcaps h => ⟨exec_within hcaps h, exec_caps hcaps h⟩
  exact run_admitted hstep fuel q s hcaps

/-- A run that ended for reasons of its own: no request is refused with what it failed with. -/
def OwnEnd (x : Except WasmError (Word × σ)) : Prop :=
  ∀ op s e t, exec op s = (.error e, t) → x ≠ .error e

theorem ownEnd_ok (x : Word × σ) : OwnEnd (.ok x) := fun _ _ _ _ _ h => by simp at h

/-- Such a run, on the second node. -/
theorem call_trace {s₁ s₂ : Store} (hsame : SameStore limits₁ limits₂ s₁ s₂) (fuel : Nat) (q : σ)
    (hown : OwnEnd (module.call fuel q s₁).outcome) :
    (AllWithin limits₂ (module.call fuel q s₁).events →
      Follows (SameStore limits₁ limits₂) (module.call fuel q s₁) (module.call fuel q s₂)) ∧
    (¬AllWithin limits₂ (module.call fuel q s₁).events →
      ∃ e, (module.call fuel q s₂).outcome = .error e ∧ e.downcastTrap = none) :=
  run_trace _ _ (exec_curbs limits₁ limits₂) hown fuel q s₁ s₂ hsame rfl

/-- A returned run, on the second node. -/
theorem call_follow {s₁ s₂ : Store} (hsame : SameStore limits₁ limits₂ s₁ s₂) (fuel : Nat) (q : σ)
    {x : Word × σ} (hx : (module.call fuel q s₁).outcome = .ok x) :
    (AllWithin limits₂ (module.call fuel q s₁).events →
      Follows (SameStore limits₁ limits₂) (module.call fuel q s₁) (module.call fuel q s₂)) ∧
    (¬AllWithin limits₂ (module.call fuel q s₁).events →
      ∃ e, (module.call fuel q s₂).outcome = .error e ∧ e.downcastTrap = none) :=
  call_trace hsame fuel q (hx ▸ ownEnd_ok x)

/-- Two instances with the same contents. -/
structure SameInstance (limits₁ limits₂ : WasmLimits) (i₁ i₂ : Instance σ) : Prop where
  globals : i₁.globals = i₂.globals
  fuel : i₁.fuel = i₂.fuel
  started : i₁.started.map Event.call = i₂.started.map Event.call
  store : SameStore limits₁ limits₂ i₁.store i₂.store

/-- A start function that returned, on the second node. -/
theorem started_follow {s₁ s₂ : Store} (hsame : SameStore limits₁ limits₂ s₁ s₂) {fuel : Nat}
    {i₁ : Instance σ} (h : module.started fuel s₁ = .ok i₁) :
    (AllWithin limits₂ i₁.started →
      ∃ i₂, module.started fuel s₂ = .ok i₂ ∧ SameInstance limits₁ limits₂ i₁ i₂) ∧
    (¬AllWithin limits₂ i₁.started →
      ∃ e : WasmError, module.started fuel s₂ = .error e ∧ e.downcastTrap = none) := by
  cases hstart : module.start with
  | none =>
      rw [WasmModule.started_none hstart, Except.ok.injEq] at h
      subst h
      refine ⟨fun _ => ⟨_, WasmModule.started_none hstart, rfl, rfl, rfl, hsame⟩, fun hn => ?_⟩
      exact absurd (fun e he => absurd he List.not_mem_nil) hn
  | some enter =>
      cases hrun : (module.call fuel (enter module.globals) s₁).outcome with
      | error e =>
          rw [WasmModule.started_failed hstart hrun] at h
          simp at h
      | ok x =>
          rw [WasmModule.started_returned hstart hrun, Except.ok.injEq] at h
          subst h
          obtain ⟨hfollow, hstop⟩ := call_follow hsame fuel (enter module.globals) hrun
          constructor
          · intro hall
            have hf := hfollow hall
            have hrun₂ : (module.call fuel (enter module.globals) s₂).outcome = .ok x := by
              rw [← hf.outcome]
              exact hrun
            exact ⟨_, WasmModule.started_returned hstart hrun₂, rfl, hf.fuel, hf.calls, hf.final⟩
          · intro hn
            obtain ⟨e, he, hd⟩ := hstop hn
            exact ⟨e, WasmModule.started_failed hstart he, hd⟩

/-- A start function that returned asked for nothing over its own caps. -/
theorem started_within {limits : WasmLimits} {s : Store} {fuel : Nat} {inst : Instance σ}
    (hcaps : HasCaps limits s.data) (h : module.started fuel s = .ok inst) :
    AllWithin limits inst.started := by
  cases hstart : module.start with
  | none =>
      rw [WasmModule.started_none hstart, Except.ok.injEq] at h
      subst h
      intro e he
      exact absurd he List.not_mem_nil
  | some enter =>
      cases hrun : (module.call fuel (enter module.globals) s).outcome with
      | error e =>
          rw [WasmModule.started_failed hstart hrun] at h
          simp at h
      | ok x =>
          rw [WasmModule.started_returned hstart hrun, Except.ok.injEq] at h
          subst h
          exact call_within hcaps

end Modules

/-! ### One execution on two nodes -/

section Executions

variable {V σ : Type} {ext : Externals V} {limits₁ limits₂ : WasmLimits} {module : WasmModule σ}
  {state initState event : V} {isOwner : Bool}

/-- The three inputs serialize, and the caps of `limits` admit them. -/
def StagingFits (ext : Externals V) (limits : WasmLimits) (state initState event : V) : Prop :=
  ∃ b₁ b₂ b₃, Serializes ext state b₁ ∧ Serializes ext initState b₂ ∧ Serializes ext event b₃ ∧
    Stageable limits b₁ b₂ b₃

/-- The module's minimums are within `limits`, and so was all its start function asked for. -/
def InstanceFits (limits : WasmLimits) (module : WasmModule σ) (inst : Instance σ) : Prop :=
  module.Admitted (MemoryManager.fromLimits limits).storeLimits ∧ AllWithin limits inst.started

theorem stagedContext_caps (limits : WasmLimits) (b₁ b₂ b₃ : Bytes) :
    HasCaps limits (stagedContext limits b₁ b₂ b₃).context :=
  (((freshContext_caps limits).staged b₁).staged b₂).staged b₃

/-- The same payloads are staged alike under any two sets of caps. -/
theorem freshStore_same (module : WasmModule σ) (limits₁ limits₂ : WasmLimits)
    (b₁ b₂ b₃ memory : Bytes) :
    SameStore limits₁ limits₂
      (module.freshStore (stagedContext limits₁ b₁ b₂ b₃).context memory)
      (module.freshStore (stagedContext limits₂ b₁ b₂ b₃).context memory) :=
  ⟨rfl, rfl, rfl, rfl, rfl, stagedContext_caps limits₁ b₁ b₂ b₃,
    stagedContext_caps limits₂ b₁ b₂ b₃⟩

/-- What a call of `main_function` was made on. -/
theorem callMain_ok {inst : Instance σ} {r : GuestRun σ} {limits : WasmLimits}
    (h : callMain ext limits module state initState event isOwner = .ok (inst, r)) :
    ∃ b₁ b₂ b₃ entry, Serializes ext state b₁ ∧ Serializes ext initState b₂ ∧
      Serializes ext event b₃ ∧ Stageable limits b₁ b₂ b₃ ∧
      module.instantiate (stagedContext limits b₁ b₂ b₃).context maxFuel = .ok inst ∧
      module.mainFunction = some entry ∧
      r = module.call inst.fuel
        (entry inst.globals (stagedContext limits b₁ b₂ b₃).statePtr
          (stagedContext limits b₁ b₂ b₃).initStatePtr (stagedContext limits b₁ b₂ b₃).eventPtr
          (if isOwner then 1 else 0)) inst.store := by
  unfold callMain at h
  split at h
  · simp at h
  · rename_i staged hgen
    obtain ⟨b₁, b₂, b₃, hb₁, hb₂, hb₃, hstage, rfl⟩ := generateExecutionContext_ok hgen
    split at h
    · simp at h
    · rename_i inst' hinst
      split at h
      · simp at h
      · rename_i entry hentry
        simp only [Except.ok.injEq, Prod.mk.injEq] at h
        obtain ⟨rfl, rfl⟩ := h
        exact ⟨b₁, b₂, b₃, entry, hb₁, hb₂, hb₃, hstage, hinst, hentry, rfl⟩

/-- How an execution on a second node goes, by what the first one's asked for. -/
structure SecondNode (ext : Externals V) (limits₁ limits₂ : WasmLimits) (module : WasmModule σ)
    (state initState event : V) (isOwner : Bool) (i₁ : Instance σ) (r₁ : GuestRun σ) : Prop where
  staging : ¬StagingFits ext limits₂ state initState event →
    ∃ details, callMain ext limits₂ module state initState event isOwner
      = .error (.memoryAllocationFailed details)
  instantiation : StagingFits ext limits₂ state initState event →
    ¬InstanceFits limits₂ module i₁ →
    ∃ details, callMain ext limits₂ module state initState event isOwner
      = .error (.instantiationFailed details)
  main : StagingFits ext limits₂ state initState event → InstanceFits limits₂ module i₁ →
    ∃ i₂ r₂, callMain ext limits₂ module state initState event isOwner = .ok (i₂, r₂) ∧
      SameInstance limits₁ limits₂ i₁ i₂ ∧
      (AllWithin limits₂ r₁.events → Follows (SameStore limits₁ limits₂) r₁ r₂) ∧
      (¬AllWithin limits₂ r₁.events → ∃ e, r₂.outcome = .error e ∧ e.downcastTrap = none)

/--
**A second node repeats an execution that ended on its own, or is stopped by its own caps.**

Phase by phase: the inputs, the module with its start function, `main_function`.
-/
theorem callMain_trace {i₁ : Instance σ} {r₁ : GuestRun σ}
    (h : callMain ext limits₁ module state initState event isOwner = .ok (i₁, r₁))
    (hown : OwnEnd r₁.outcome) :
    SecondNode ext limits₁ limits₂ module state initState event isOwner i₁ r₁ := by
  obtain ⟨b₁, b₂, b₃, entry, hb₁, hb₂, hb₃, -, hinst, hentry, hr₁⟩ := callMain_ok h
  obtain ⟨hlinked, -, memory, hdata, hstarted⟩ := WasmModule.instantiate_ok hinst
  obtain ⟨hfollow, hstop⟩ :=
    started_follow (freshStore_same module limits₁ limits₂ b₁ b₂ b₃ memory) hstarted
  have hstage : StagingFits ext limits₂ state initState event →
      generateExecutionContext ext state initState event limits₂
        = .ok (stagedContext limits₂ b₁ b₂ b₃) := by
    rintro ⟨c₁, c₂, c₃, hc₁, hc₂, hc₃, hfits⟩
    rw [hb₁.unique hc₁, hb₂.unique hc₂, hb₃.unique hc₃]
    exact generateExecutionContext_fits hc₁ hc₂ hc₃ hfits
  refine ⟨?_, ?_, ?_⟩
  · intro hno
    have hnot : ¬Stageable limits₂ b₁ b₂ b₃ := fun hs => hno ⟨b₁, b₂, b₃, hb₁, hb₂, hb₃, hs⟩
    obtain ⟨details, hd⟩ := generateExecutionContext_refused hb₁ hb₂ hb₃ hnot
    refine ⟨details, ?_⟩
    unfold callMain
    rw [hd]
  · intro hfits hno
    have hfail : ∃ e : WasmError,
        module.instantiate (stagedContext limits₂ b₁ b₂ b₃).context maxFuel = .error e := by
      by_cases hadm : module.Admitted (stagedContext limits₂ b₁ b₂ b₃).context.storeLimits
      · obtain ⟨e, he, -⟩ := hstop fun hall => hno ⟨hadm, hall⟩
        exact ⟨e, by rw [WasmModule.instantiate_admitted hlinked hadm hdata, he]⟩
      · obtain ⟨e, -, he⟩ := WasmModule.instantiate_refused hadm
        exact ⟨e, he⟩
    obtain ⟨e, he⟩ := hfail
    refine ⟨ext.wasmText e, ?_⟩
    unfold callMain
    rw [hstage hfits]
    simp only
    rw [he]
  · rintro hfits ⟨hadm, hall⟩
    have hadm₂ : module.Admitted (stagedContext limits₂ b₁ b₂ b₃).context.storeLimits := hadm
    obtain ⟨i₂, hi₂, hsame⟩ := hfollow hall
    have hinst₂ : module.instantiate (stagedContext limits₂ b₁ b₂ b₃).context maxFuel = .ok i₂ := by
      rw [WasmModule.instantiate_admitted hlinked hadm₂ hdata, hi₂]
    subst hr₁
    obtain ⟨hmain, hover⟩ := call_trace hsame.store i₁.fuel _ hown
    refine ⟨i₂, _, ?_, hsame, hmain, hover⟩
    unfold callMain
    rw [hstage hfits]
    simp only
    rw [hinst₂]
    simp only
    rw [hentry, ← hsame.fuel, ← hsame.globals]
    rfl

/-- So it is with an execution that completed. -/
theorem callMain_follow {i₁ : Instance σ} {r₁ : GuestRun σ} {x : Word × σ}
    (h : callMain ext limits₁ module state initState event isOwner = .ok (i₁, r₁))
    (hx : r₁.outcome = .ok x) :
    SecondNode ext limits₁ limits₂ module state initState event isOwner i₁ r₁ :=
  callMain_trace h (hx ▸ ownEnd_ok x)

/-! ### Caps are invisible to a run that completes -/

/-- `main_function` was called and returned. -/
def Completes (ext : Externals V) (limits : WasmLimits) (module : WasmModule σ)
    (state initState event : V) (isOwner : Bool) : Prop :=
  ∃ inst r x, callMain ext limits module state initState event isOwner = .ok (inst, r) ∧
    r.outcome = .ok x

/-- Nothing that can be seen of the two runs differs. -/
structure SameRun (i₁ : Instance σ) (r₁ : GuestRun σ) (i₂ : Instance σ) (r₂ : GuestRun σ) :
    Prop where
  /-- The start functions made the same requests and got the same answers. -/
  started : i₁.started.map Event.call = i₂.started.map Event.call
  /-- So did `main_function`. -/
  calls : r₁.calls = r₂.calls
  outcome : r₁.outcome = r₂.outcome
  fuel : r₁.fuel = r₂.fuel
  hostMemory : r₁.final.data.memory = r₂.final.data.memory
  hostMap : r₁.final.data.map = r₂.final.data.map
  memory : r₁.final.memory = r₂.final.memory
  result : ∀ p, r₁.final.data.readData p = r₂.final.data.readData p

/-- What is read depends on the memory and the map alone. -/
theorem readData_congr {m₁ m₂ : MemoryManager} (hmem : m₁.memory = m₂.memory)
    (hmap : m₁.map = m₂.map) (p : Nat) : m₁.readData p = m₂.readData p := by
  unfold MemoryManager.readData
  rw [hmem, hmap]

theorem Stageable.mono {b₁ b₂ b₃ : Bytes} (h : CapsLe limits₁ limits₂)
    (hs : Stageable limits₁ b₁ b₂ b₃) : Stageable limits₂ b₁ b₂ b₃ := by
  have hfits : ∀ (m₁ m₂ : MemoryManager) (n : Nat), HasCaps limits₁ m₁ → HasCaps limits₂ m₂ →
      m₁.memory = m₂.memory → m₁.Fits n → m₂.Fits n := by
    intro m₁ m₂ n hc₁ hc₂ hmem hf
    rw [fits_iff hc₁] at hf
    rw [fits_iff hc₂, ← hmem]
    exact ⟨⟨Nat.le_trans hf.1.1 h.maxSingleAlloc, Nat.le_trans hf.1.2 h.maxTotalMemory⟩, hf.2⟩
  have hc₁ := freshContext_caps limits₁
  have hc₂ := freshContext_caps limits₂
  exact ⟨hfits _ _ _ hc₁ hc₂ rfl hs.state,
    hfits _ _ _ (hc₁.staged b₁) (hc₂.staged b₁) rfl hs.initState,
    hfits _ _ _ ((hc₁.staged b₁).staged b₂) ((hc₂.staged b₁).staged b₂) rfl hs.event⟩

theorem WasmModule.Admitted.mono (h : CapsLe limits₁ limits₂)
    (ha : module.Admitted (MemoryManager.fromLimits limits₁).storeLimits) :
    module.Admitted (MemoryManager.fromLimits limits₂).storeLimits := by
  obtain ⟨hm, ht, hmem, htab⟩ := StoreLimits.admits_iff.mp ha
  exact StoreLimits.admits_iff.mpr ⟨hm, ht,
    fun pages hp => Nat.le_trans (hmem pages hp) h.memorySize,
    fun elements he => Nat.le_trans (htab elements he) h.maxTableElements⟩

/-- Under larger caps a completed execution finds everything it needs. -/
theorem completes_fits {i₁ : Instance σ} {r₁ : GuestRun σ} (hle : CapsLe limits₁ limits₂)
    (h : callMain ext limits₁ module state initState event isOwner = .ok (i₁, r₁)) :
    StagingFits ext limits₂ state initState event ∧ InstanceFits limits₂ module i₁ ∧
      AllWithin limits₂ r₁.events := by
  obtain ⟨b₁, b₂, b₃, entry, hb₁, hb₂, hb₃, hstage, hinst, -, rfl⟩ := callMain_ok h
  obtain ⟨-, hadm, memory, -, hstarted⟩ := WasmModule.instantiate_ok hinst
  have hsame := freshStore_same module limits₁ limits₁ b₁ b₂ b₃ memory
  have hwithin : AllWithin limits₁ i₁.started := started_within hsame.caps₁ hstarted
  obtain ⟨i₂, -, hinst₂⟩ := (started_follow hsame hstarted).1 hwithin
  refine ⟨⟨b₁, b₂, b₃, hb₁, hb₂, hb₃, hstage.mono hle⟩,
    ⟨WasmModule.Admitted.mono hle hadm, fun e he => (hwithin e he).mono hle⟩, ?_⟩
  intro e he
  exact (call_within hinst₂.store.caps₁ e he).mono hle

/--
**Nodes with different limits never compute different results.**

Whatever the two sets of limits: two executions that complete make the same
requests, get the same answers and end alike.  And where the first node's caps
are no larger, what completes on it completes on the second.
-/
theorem caps_invisible {V σ : Type} (ext : Externals V) (limits₁ limits₂ : WasmLimits)
    (module : WasmModule σ) (state initState event : V) (isOwner : Bool) :
    (∀ i₁ r₁ x₁ i₂ r₂ x₂,
      callMain ext limits₁ module state initState event isOwner = .ok (i₁, r₁) →
      r₁.outcome = .ok x₁ →
      callMain ext limits₂ module state initState event isOwner = .ok (i₂, r₂) →
      r₂.outcome = .ok x₂ → SameRun i₁ r₁ i₂ r₂) ∧
    (CapsLe limits₁ limits₂ → Completes ext limits₁ module state initState event isOwner →
      Completes ext limits₂ module state initState event isOwner) := by
  constructor
  · intro i₁ r₁ x₁ i₂ r₂ x₂ h₁ hx₁ h₂ hx₂
    have hsecond : SecondNode ext limits₁ limits₂ module state initState event isOwner i₁ r₁ :=
      callMain_follow h₁ hx₁
    obtain ⟨hstaging, hinstance, hmain⟩ := hsecond
    have hfits : StagingFits ext limits₂ state initState event := by
      by_contra hno
      obtain ⟨details, hd⟩ := hstaging hno
      rw [h₂] at hd
      simp at hd
    have hinst : InstanceFits limits₂ module i₁ := by
      by_contra hno
      obtain ⟨details, hd⟩ := hinstance hfits hno
      rw [h₂] at hd
      simp at hd
    obtain ⟨i₂', r₂', h₂', hsame, hfollow, hstop⟩ := hmain hfits hinst
    rw [h₂, Except.ok.injEq, Prod.mk.injEq] at h₂'
    obtain ⟨rfl, rfl⟩ := h₂'
    have hall : AllWithin limits₂ r₁.events := by
      by_contra hno
      obtain ⟨e, he, -⟩ := hstop hno
      rw [hx₂] at he
      simp at he
    have hf := hfollow hall
    exact ⟨hsame.started, hf.calls, hf.outcome, hf.fuel, hf.final.hostMemory, hf.final.hostMap,
      hf.final.memory, readData_congr hf.final.hostMemory hf.final.hostMap⟩
  · rintro hle ⟨i₁, r₁, x, h₁, hx⟩
    obtain ⟨hfits, hinst, hall⟩ := completes_fits hle h₁
    have hsecond : SecondNode ext limits₁ limits₂ module state initState event isOwner i₁ r₁ :=
      callMain_follow h₁ hx
    obtain ⟨-, -, hmain⟩ := hsecond
    obtain ⟨i₂, r₂, h₂, -, hfollow, -⟩ := hmain hfits hinst
    exact ⟨i₂, r₂, x, h₂, by rw [← (hfollow hall).outcome]; exact hx⟩

end Executions

end Ave
