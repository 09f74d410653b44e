/-
What an SDK contract leaves with the host, whatever came of it.

`Proofs/Contract.lean` takes it that the reference outcome has a layout.  Here
nothing is taken.  An entry point prepares a result and delivers it
(`executeContract_eq`), and on the real host a delivery has one weak spot: the host
never gives a null pointer, so a result is stored exactly when it has an encoding.
The first of the results tried that has one is what the host finds, and if none
has, it is sent back to its own staged input, which is no verdict.

So every `Ok` of `execute` is the reference outcome, except for a result that no
Borsh text can hold, where it says that the result could not be returned; and where
not even that could be stored there is no `Ok` (`executeInner_explained`).
-/
import AveContract.Proofs.Execution
import AveContract.Proofs.Framing
import AveContract.Proofs.Verdicts

namespace Ave

open Slice Borsh Metered

namespace Sdk

/-! ### What is delivered -/

section Candidates

variable {R : Type}

/-- The results tried for what was prepared, in order. -/
def Outcome.candidates (kind : Outcome R) (unreturned : String) : Except String R → List R
  | .error e => [kind.failed e]
  | .ok result => [result, kind.failed unreturned]

/-- The first of them that has an encoding, with it. -/
def Outcome.settles (kind : Outcome R) (unreturned : String) (p : Except String R) :
    Option (R × Bytes) :=
  (kind.candidates unreturned p).findSome? fun r =>
    match kind.codec.encode r with
    | .error _ => none
    | .ok bytes => some (r, bytes)

/-- The result in whose place another would be delivered. -/
def Outcome.first (kind : Outcome R) : Except String R → R
  | .error e => kind.failed e
  | .ok result => result

/-- It has no layout. -/
def Outcome.Unencodable (kind : Outcome R) (r : R) : Prop := ∀ bytes, kind.codec.encode r ≠ .ok bytes

/-- Where nothing is delivered the first result has no layout. -/
theorem Outcome.settles_none {kind : Outcome R} {unreturned : String} {p : Except String R}
    (h : kind.settles unreturned p = none) : kind.Unencodable (kind.first p) := by
  intro bytes henc
  cases p with
  | error e =>
      have henc' : kind.codec.encode (kind.failed e) = .ok bytes := henc
      simp [settles, candidates, henc'] at h
  | ok result =>
      have henc' : kind.codec.encode result = .ok bytes := henc
      simp [settles, candidates, henc'] at h

/-- What is delivered is the first result, or, where it was prepared and has no layout, the failure
to return it. -/
theorem Outcome.settles_cases {kind : Outcome R} {unreturned : String} {p : Except String R} {r : R}
    {bytes : Bytes} (h : kind.settles unreturned p = some (r, bytes)) :
    kind.codec.encode r = .ok bytes ∧
      (r = kind.first p ∨
        ∃ result, p = .ok result ∧ kind.Unencodable result ∧ r = kind.failed unreturned) := by
  cases p with
  | error e =>
      unfold settles candidates at h
      cases henc : kind.codec.encode (kind.failed e) with
      | error err => simp [henc] at h
      | ok bs =>
          simp only [List.findSome?_cons, henc, Option.some.injEq, Prod.mk.injEq] at h
          obtain ⟨rfl, rfl⟩ := h
          exact ⟨henc, Or.inl rfl⟩
  | ok result =>
      unfold settles candidates at h
      cases henc : kind.codec.encode result with
      | ok bs =>
          simp only [List.findSome?_cons, henc, Option.some.injEq, Prod.mk.injEq] at h
          obtain ⟨rfl, rfl⟩ := h
          exact ⟨henc, Or.inl rfl⟩
      | error err =>
          have hnone : kind.Unencodable result := by
            intro bs hbs
            rw [henc] at hbs
            simp at hbs
          cases hsecond : kind.codec.encode (kind.failed unreturned) with
          | error err₂ => simp [henc, hsecond] at h
          | ok bs =>
              simp only [List.findSome?_cons, henc, hsecond, Option.some.injEq, Prod.mk.injEq] at h
              obtain ⟨rfl, rfl⟩ := h
              exact ⟨hsecond, Or.inr ⟨result, rfl, hnone, rfl⟩⟩

end Candidates

/-- The bytes are at the end of what the host's memory was, and the pointer says so. -/
structure Delivered (m : MemoryManager) (bytes : Bytes) (ptr : Word) (t : Store) : Prop where
  pointer : ptr = usizeAsU32 m.memory.length
  fits : m.Fits bytes.length
  data : t.data = (m.grown bytes.length).written m.memory.length bytes

section Delivering

variable {R : Type} {limits : WasmLimits} {m : MemoryManager} {s t : Store} {build : Build}
  {site : Site} {kind : Outcome R} {unreturned : String}

/-- No result of the kind is encoded as nothing. -/
def Outcome.Visible (kind : Outcome R) : Prop :=
  ∀ r bytes, kind.codec.encode r = .ok bytes → 0 < bytes.length

/-- **On the real host a result is stored if it has an encoding.** -/
theorem store_settles {r : R} {x : Except Error Word} (hs : Ready limits m s)
    (hsmall : Small limits m) (hpos : 0 < m.memory.length) (hvis : kind.Visible)
    (h : Returns (store build site kind.codec r) s x t) :
    (∃ bytes, kind.codec.encode r = .ok bytes ∧ x = .ok (usizeAsU32 m.memory.length) ∧
        Delivered m bytes (usizeAsU32 m.memory.length) t) ∨
      (∃ e, kind.codec.encode r = .error e) ∧ (∃ e, x = .error e) ∧ Ready limits m t := by
  cases henc : kind.codec.encode r with
  | error e =>
      unfold store serialize at h
      rw [henc] at h
      obtain ⟨rfl, rfl⟩ := Returns.pure h
      exact Or.inr ⟨⟨e, rfl⟩, ⟨_, rfl⟩, hs⟩
  | ok bytes =>
      obtain ⟨hx, hfits, hdata⟩ := store_returns hs hsmall hpos henc (hvis r bytes henc) h
      exact Or.inl ⟨bytes, rfl, hx, rfl, hfits, hdata⟩

/-- **A delivery leaves the first result that has an encoding, or nothing.** -/
theorem deliver_settles {p : Except String R} {tries : List (Attempt R)} (hs : Ready limits m s)
    (hsmall : Small limits m) (hpos : 0 < m.memory.length) (hvis : kind.Visible)
    (h : Returns (deliver build kind unreturned p) s tries t) :
    (∃ r bytes, kind.settles unreturned p = some (r, bytes) ∧
        Delivered m bytes (Attempt.pointer tries) t) ∨
      kind.settles unreturned p = none ∧ Attempt.pointer tries = 0 ∧ t.data = m := by
  cases p with
  | error e =>
      unfold deliver attempt at h
      obtain ⟨only, s₁, hstore, hend⟩ := Returns.bind h
      obtain ⟨x, s₂, hstore, hpack⟩ := Returns.bind hstore
      obtain ⟨rfl, rfl⟩ := Returns.pure hpack
      obtain ⟨rfl, rfl⟩ := Returns.pure hend
      rcases store_settles hs hsmall hpos hvis hstore with
        ⟨bytes, henc, rfl, hleft⟩ | ⟨⟨err, henc⟩, ⟨e', rfl⟩, ht⟩
      · exact Or.inl ⟨kind.failed e, bytes, by simp [Outcome.settles, Outcome.candidates, henc],
          hleft⟩
      · exact Or.inr ⟨by simp [Outcome.settles, Outcome.candidates, henc], rfl, ht.data⟩
  | ok result =>
      unfold deliver attempt at h
      obtain ⟨first, s₁, hstore, hnext⟩ := Returns.bind h
      obtain ⟨x, s₂, hstore, hpack⟩ := Returns.bind hstore
      obtain ⟨rfl, rfl⟩ := Returns.pure hpack
      rcases store_settles hs hsmall hpos hvis hstore with
        ⟨bytes, henc, rfl, hleft⟩ | ⟨⟨e, henc⟩, ⟨e', rfl⟩, ht⟩
      · obtain ⟨rfl, rfl⟩ := Returns.pure hnext
        exact Or.inl ⟨result, bytes, by simp [Outcome.settles, Outcome.candidates, henc], hleft⟩
      · obtain ⟨second, s₃, hstore₂, hend⟩ := Returns.bind hnext
        obtain ⟨x₂, s₄, hstore₂, hpack₂⟩ := Returns.bind hstore₂
        obtain ⟨rfl, rfl⟩ := Returns.pure hpack₂
        obtain ⟨rfl, rfl⟩ := Returns.pure hend
        rcases store_settles ht hsmall hpos hvis hstore₂ with
          ⟨bytes, henc₂, rfl, hleft⟩ | ⟨⟨err, henc₂⟩, ⟨e₂, rfl⟩, ht₂⟩
        · exact Or.inl ⟨kind.failed unreturned, bytes,
            by simp [Outcome.settles, Outcome.candidates, henc, henc₂], hleft⟩
        · exact Or.inr ⟨by simp [Outcome.settles, Outcome.candidates, henc, henc₂], rfl, ht₂.data⟩

end Delivering


/-! ### What is prepared -/

section Preparing

variable {State Event : Type} {build : Build} {contract : Contract State Event}
  {limits : WasmLimits} {m : MemoryManager} {s t : Store} {b b₁ b₂ b₃ : Bytes}

/-- **What an execution prepares is the reference.** -/
theorem prepareExecution_returns {isOwner : Bool} {r : Except String ContractResultData}
    (hs : Ready limits m s) (hsmall : Small limits m) (hin : HoldsInputs m b₁ b₂ b₃)
    (h : Returns (prepareExecution build contract (usizeAsU32 0) (usizeAsU32 (4 + b₁.length))
      (usizeAsU32 (4 + b₁.length + (4 + b₂.length))) (if isOwner then 1 else 0)) s r t) :
    r = tryReference contract b₁ b₂ b₃ isOwner ∧ Ready limits m t := by
  unfold prepareExecution at h
  obtain ⟨state, s₁, hstate, h⟩ := Returns.bind h
  obtain ⟨hstate', hs₁⟩ := readState_returns hs hsmall hin hstate
  unfold tryReference
  rw [← hstate']
  cases state with
  | error e =>
      obtain ⟨rfl, rfl⟩ := Returns.pure h
      exact ⟨rfl, hs₁⟩
  | ok state =>
      simp only at h ⊢
      obtain ⟨event, s₂, hevent, h⟩ := Returns.bind h
      obtain ⟨hevent', hs₂⟩ := readAndParse_returns hs₁ hsmall hin.event hin.eventLen hevent
      rw [← hevent']
      cases event with
      | error e =>
          obtain ⟨rfl, rfl⟩ := Returns.pure h
          exact ⟨rfl, hs₂⟩
      | ok event =>
          simp only at h ⊢
          obtain ⟨u, s₃, hwork, h⟩ := Returns.bind h
          obtain ⟨rfl, rfl⟩ := Returns.pure h
          rw [owner_flag]
          exact ⟨rfl, doWork_returns hs₂ hwork⟩

/-- **What a check prepares is the reference check.** -/
theorem prepareCheck_returns {r : Except String ContractInitCheckData} (hs : Ready limits m s)
    (hsmall : Small limits m) (hin : HoldsInput m 0 b) (hlen : 4 + b.length ≤ 10000000)
    (h : Returns (prepareCheck build contract (usizeAsU32 0)) s r t) :
    r = tryReferenceCheck contract b ∧ Ready limits m t := by
  unfold prepareCheck at h
  obtain ⟨state, s₁, hstate, h⟩ := Returns.bind h
  obtain ⟨hstate', hs₁⟩ := readAndParse_returns hs hsmall hin hlen hstate
  unfold tryReferenceCheck
  rw [← hstate']
  cases state with
  | error e =>
      obtain ⟨rfl, rfl⟩ := Returns.pure h
      exact ⟨rfl, hs₁⟩
  | ok state =>
      simp only at h ⊢
      obtain ⟨u, s₂, hwork, h⟩ := Returns.bind h
      have hs₂ : Ready limits m s₂ := doWork_returns hs₁ hwork
      by_cases hcheck : (contract.check state .default).success = true
      · rw [if_pos hcheck] at h ⊢
        obtain ⟨rfl, rfl⟩ := Returns.pure h
        exact ⟨rfl, hs₂⟩
      · rw [if_neg hcheck] at h ⊢
        obtain ⟨rfl, rfl⟩ := Returns.pure h
        exact ⟨rfl, hs₂⟩

theorem executionOutcome_visible : executionOutcome.Visible := fun _ _ henc => encode_result_pos henc

/-- A check takes up at least its flag and the length of its message. -/
theorem checkOutcome_visible : checkOutcome.Visible := by
  intro r bytes henc
  refine List.length_pos_iff.mpr ?_
  rintro rfl
  have hdec : ContractInitCheckData.codec.decode [] = .ok (r, []) :=
    ContractInitCheckData.codec.decode_encode henc []
  have hnil : ContractInitCheckData.codec.decode [] = .error .unexpectedLength := rfl
  rw [hnil] at hdec
  simp at hdec

/-- **`executeContract` leaves what the reference settles on, or nothing and a null pointer.** -/
theorem executeContract_settles {isOwner : Bool} {ptr : Word} (hs : Ready limits m s)
    (hsmall : Small limits m) (hpos : 0 < m.memory.length) (hin : HoldsInputs m b₁ b₂ b₃)
    (h : Returns (executeContract build contract (usizeAsU32 0) (usizeAsU32 (4 + b₁.length))
      (usizeAsU32 (4 + b₁.length + (4 + b₂.length))) (if isOwner then 1 else 0)) s ptr t) :
    (∃ r bytes, executionOutcome.settles errReturnResult (tryReference contract b₁ b₂ b₃ isOwner)
        = some (r, bytes) ∧ Delivered m bytes ptr t) ∨
      executionOutcome.settles errReturnResult (tryReference contract b₁ b₂ b₃ isOwner) = none ∧
        ptr = 0 ∧ t.data = m := by
  rw [executeContract_eq, executeAttempts] at h
  obtain ⟨tries, s₁, hran, hend⟩ := Returns.bind h
  obtain ⟨p, s₂, hprepared, hdelivered⟩ := Returns.bind hran
  obtain ⟨rfl, rfl⟩ := Returns.pure hend
  obtain ⟨rfl, hs₂⟩ := prepareExecution_returns hs hsmall hin hprepared
  exact deliver_settles hs₂ hsmall hpos executionOutcome_visible hdelivered

/-- **`checkInitData` likewise.** -/
theorem checkInitData_settles {ptr : Word} (hs : Ready limits m s) (hsmall : Small limits m)
    (hpos : 0 < m.memory.length) (hin : HoldsInput m 0 b) (hlen : 4 + b.length ≤ 10000000)
    (h : Returns (checkInitData build contract (usizeAsU32 0)) s ptr t) :
    (∃ r bytes, checkOutcome.settles errReturnInitResult (tryReferenceCheck contract b)
        = some (r, bytes) ∧ Delivered m bytes ptr t) ∨
      checkOutcome.settles errReturnInitResult (tryReferenceCheck contract b) = none ∧
        ptr = 0 ∧ t.data = m := by
  rw [checkInitData_eq, checkAttempts] at h
  obtain ⟨tries, s₁, hran, hend⟩ := Returns.bind h
  obtain ⟨p, s₂, hprepared, hdelivered⟩ := Returns.bind hran
  obtain ⟨rfl, rfl⟩ := Returns.pure hend
  obtain ⟨rfl, hs₂⟩ := prepareCheck_returns hs hsmall hin hlen hprepared
  exact deliver_settles hs₂ hsmall hpos checkOutcome_visible hdelivered

end Preparing

/-! ### Every answer of `execute` -/

section Answers

variable {V State Event : Type} {ext : Externals V} {build : Build}
  {contract : Contract State Event} {shell : Shell} {spec : ResolvedMachineSpec}
  {state initState event : V} {isOwner : Bool}

/-- What was delivered is what the host reads. -/
theorem Delivered.readData {m : MemoryManager} {bytes : Bytes} {ptr : Word} {t : Store}
    (h : Delivered m bytes ptr t) (htiled : m.Tiled) (hsmall : m.memory.length ≤ i32Max)
    (hpos : 0 < bytes.length) : t.data.readData (u32AsUsize ptr) = .ok bytes := by
  have haddr : u32AsUsize (usizeAsU32 m.memory.length) = m.memory.length :=
    usizeAsU32_toNat_of_i32 hsmall
  rw [h.pointer, haddr, h.data]
  exact htiled.readData_filled h.fits hpos

/-- The reference outcome is the first result tried. -/
theorem reference_eq_first (contract : Contract State Event) (b₁ b₂ b₃ : Bytes) (isOwner : Bool) :
    reference contract b₁ b₂ b₃ isOwner
      = executionOutcome.first (tryReference contract b₁ b₂ b₃ isOwner) := by
  unfold reference
  cases tryReference contract b₁ b₂ b₃ isOwner with
  | error e => rfl
  | ok outcome => rfl

/-- **Every `Ok` of `execute` is what the reference settles on**, on texts that the SDK reads and in
an encoding that it can send.  The null pointer of an entry point that could store nothing leads to
the staged state, whose frame is no result. -/
theorem executeInner_sent {result : ExecutionResult V} {stats : ExecutionStats}
    (h : executeInner ext spec.limits (contract.module build shell) state initState event isOwner
      = .ok (result, stats)) :
    ∃ b₁ b₂ b₃, Serializes ext state b₁ ∧ Serializes ext initState b₂ ∧ Serializes ext event b₃ ∧
      (4 + b₁.length ≤ 10000000 ∧ 4 + b₂.length ≤ 10000000 ∧ 4 + b₃.length ≤ 10000000) ∧
      ∃ outcome bytes, executionOutcome.settles errReturnResult
          (tryReference contract b₁ b₂ b₃ isOwner) = some (outcome, bytes) ∧
        bytes.length ≤ i32Max ∧ report ext outcome = .ok result := by
  obtain ⟨inst, r, p, q, hcall, hout, hres⟩ := executeInner_ok h
  obtain ⟨b₁, b₂, b₃, -, h₁, h₂, h₃, -⟩ := callMain_ok hcall
  obtain ⟨hstage, s, hready, rfl⟩ := callMain_contract h₁ h₂ h₃ hcall
  have htiled := stagedContext_tiled hstage
  have hsmall := stagedContext_small hstage
  have hin := stagedContext_holds hstage
  have hsingle : spec.limits.maxSingleAlloc ≤ 8 * 1024 * 1024 :=
    WasmLimits.build_maxSingleAlloc_le spec.ramMb spec.cpuCores
  refine ⟨b₁, b₂, b₃, h₁, h₂, h₃, ⟨hin.stateLen, hin.initStateLen, hin.eventLen⟩, ?_⟩
  rcases executeContract_settles hready hsmall (stagedContext_pos spec.limits) hin
      (call_returns hout) with ⟨outcome, bytes, hsettles, hleft⟩ | ⟨-, rfl, hdata⟩
  · have henc : ContractResultData.codec.encode outcome = .ok bytes :=
      (Outcome.settles_cases hsettles).1
    have hread := hleft.readData htiled hsmall.host (encode_result_pos henc)
    have hfits : bytes.length ≤ spec.limits.maxSingleAlloc := hleft.fits.1
    refine ⟨outcome, bytes, hsettles, by unfold i32Max; omega, ?_⟩
    rw [← getExecutionResult_stored henc hread]
    exact hres
  · have hfirst : 4 + b₁.length ≤ spec.limits.maxSingleAlloc := hstage.state.1
    have hread := htiled.readData hin.state.tracked
    have hshort : b₁.length < 2 ^ 24 := by omega
    obtain ⟨e, he⟩ := frame_not_result hshort
    rw [hin.state.bytes, ← hdata] at hread
    unfold getExecutionResult at hres
    rw [show u32AsUsize 0 = 0 from rfl, hread] at hres
    simp only [he] at hres
    simp at hres

/-- What an answer goes back to: the reference outcome, where that has a layout, and the failure to
return it, where it was prepared and has none. -/
inductive Explains (ext : Externals V) (contract : Contract State Event) (b₁ b₂ b₃ : Bytes)
    (isOwner : Bool) (result : ExecutionResult V) : Prop where
  | outcome {bytes : Bytes}
      (layout : ContractResultData.codec.encode (reference contract b₁ b₂ b₃ isOwner) = .ok bytes)
      (reported : report ext (reference contract b₁ b₂ b₃ isOwner) = .ok result)
  | unreturned {prepared : ContractResultData}
      (outcome : tryReference contract b₁ b₂ b₃ isOwner = .ok prepared)
      (layout : executionOutcome.Unencodable prepared)
      (reported : report ext (.failed errReturnResult) = .ok result)

/-- What is settled on explains what is reported. -/
theorem explains_of_settles {b₁ b₂ b₃ : Bytes} {outcome : ContractResultData} {bytes : Bytes}
    {result : ExecutionResult V}
    (hsettles : executionOutcome.settles errReturnResult (tryReference contract b₁ b₂ b₃ isOwner)
      = some (outcome, bytes))
    (hreport : report ext outcome = .ok result) : Explains ext contract b₁ b₂ b₃ isOwner result := by
  obtain ⟨henc, hwhich⟩ := Outcome.settles_cases hsettles
  rw [← reference_eq_first] at hwhich
  rcases hwhich with rfl | ⟨prepared, hprepared, hnone, rfl⟩
  · exact .outcome henc hreport
  · exact .unreturned hprepared hnone hreport

/--
**Every `Ok` of `execute` is explained by the reference.**

For every machine, contract and build, whatever the run did and whatever the size
of the result: some result of the reference could be stored, and the first of those
that could is what `execute` answers.  That is the reference outcome, or the failure
to return one that was prepared and has no layout.  Where nothing could be stored
there is no `Ok`.
-/
theorem executeInner_explained {result : ExecutionResult V} {stats : ExecutionStats}
    (h : executeInner ext spec.limits (contract.module build shell) state initState event isOwner
      = .ok (result, stats)) :
    ∃ b₁ b₂ b₃, Serializes ext state b₁ ∧ Serializes ext initState b₂ ∧ Serializes ext event b₃ ∧
      (∃ outcome bytes, executionOutcome.settles errReturnResult
          (tryReference contract b₁ b₂ b₃ isOwner) = some (outcome, bytes) ∧
        bytes.length ≤ i32Max ∧ report ext outcome = .ok result) ∧
      Explains ext contract b₁ b₂ b₃ isOwner result := by
  obtain ⟨b₁, b₂, b₃, h₁, h₂, h₃, -, outcome, bytes, hsettles, hfits, hreport⟩ := executeInner_sent h
  exact ⟨b₁, b₂, b₃, h₁, h₂, h₃, ⟨outcome, bytes, hsettles, hfits, hreport⟩,
    explains_of_settles hsettles hreport⟩

/-! ### What an acceptance goes back to -/

/-- What is reported is the outcome, its state read as a host value. -/
theorem report_ok {outcome : ContractResultData} {result : ExecutionResult V}
    (h : report ext outcome = .ok result) :
    ext.json.fromSlice outcome.finalState.bytes = .ok result.finalState ∧
      result.success = outcome.success ∧ result.error = outcome.error := by
  unfold report at h
  split at h
  · simp at h
  · rename_i finalState hread
    obtain rfl := Except.ok.inj h
    exact ⟨hread, rfl, rfl⟩

/-- The state and the event were read, and the callback took the one to `after` with the other. -/
structure Accepts (contract : Contract State Event) (b₁ b₂ b₃ : Bytes) (isOwner : Bool)
    (before after : State) : Prop where
  state : referenceState contract b₁ b₂ = .ok before
  callback : ∃ event, contract.event.fromSlice b₃ = .ok event ∧
    (contract.callback { event, isOwner } (.new before)).success = true ∧
    (contract.callback { event, isOwner } (.new before)).state = after

/-- **A reference outcome is a success only through the callback.** -/
theorem reference_success {b₁ b₂ b₃ : Bytes}
    (h : (reference contract b₁ b₂ b₃ isOwner).success = true) :
    ∃ before after, Accepts contract b₁ b₂ b₃ isOwner before after ∧
      contract.state.toVec after
        = .ok (reference contract b₁ b₂ b₃ isOwner).finalState.bytes ∧
      (reference contract b₁ b₂ b₃ isOwner).error = "" := by
  unfold reference tryReference at h ⊢
  cases hstate : referenceState contract b₁ b₂ with
  | error e =>
      rw [hstate] at h
      simp [ContractResultData.failed] at h
  | ok before =>
      rw [hstate] at h
      simp only at h ⊢
      cases hevent : contract.event.fromSlice b₃ with
      | error e =>
          simp only [parseInput, hevent] at h
          simp [ContractResultData.failed] at h
      | ok event =>
          simp only [parseInput, hevent] at h ⊢
          cases hser : contract.state.toVec
              (contract.callback { event, isOwner } (.new before)).state with
          | error e =>
              rw [hser] at h
              simp [ContractResultData.failed] at h
          | ok final =>
              rw [hser] at h
              simp only at h ⊢
              exact ⟨before, _, ⟨hstate, event, hevent, h, rfl⟩, hser, if_pos h⟩

/-- **An accepted event was accepted by the callback**, on the state that was staged, or on the
initial state where that one did not parse. -/
theorem executeInner_accepted {result : ExecutionResult V} {stats : ExecutionStats}
    (h : executeInner ext spec.limits (contract.module build shell) state initState event isOwner
      = .ok (result, stats)) (hsuccess : result.success = true) :
    ∃ b₁ b₂ b₃ before after final, Serializes ext state b₁ ∧ Serializes ext initState b₂ ∧
      Serializes ext event b₃ ∧ Accepts contract b₁ b₂ b₃ isOwner before after ∧
      contract.state.toVec after = .ok final ∧ ext.json.fromSlice final = .ok result.finalState ∧
      result.error = "" := by
  obtain ⟨b₁, b₂, b₃, h₁, h₂, h₃, -, outcome, bytes, hsettles, -, hreported⟩ := executeInner_sent h
  rcases explains_of_settles hsettles hreported with ⟨-, hreport⟩ | ⟨-, -, hreport⟩
  · obtain ⟨hfinal, hflag, herror⟩ := report_ok hreport
    rw [hsuccess] at hflag
    obtain ⟨before, after, haccepts, hser, hnone⟩ := reference_success hflag.symm
    exact ⟨b₁, b₂, b₃, before, after, _, h₁, h₂, h₃, haccepts, hser, hfinal, herror.trans hnone⟩
  · obtain ⟨-, hflag, -⟩ := report_ok hreport
    rw [hsuccess] at hflag
    exact absurd hflag.symm (by simp [ContractResultData.failed])

end Answers

/-! ### The contract of one owner, answered -/

theorem nullExternals_null : Serializes nullExternals () jsonNull := ⟨rfl, by decide⟩

/-- The page of `pageShell` has room for a hundred bytes. -/
theorem pageShell_room : 100 ≤ (List.replicate 65536 (0 : UInt8)).length := by
  rw [List.length_replicate]
  decide

theorem ownerOnly_admitted : (ownerOnly.module bareBuild pageShell).Admitted
    (MemoryManager.fromLimits (ResolvedMachineSpec.limits ⟨4096, 2⟩)).storeLimits := by decide

theorem ownerOnly_returns : ∃ stats,
    executeInner nullExternals (ResolvedMachineSpec.limits ⟨4096, 2⟩)
        (ownerOnly.module bareBuild pageShell) () () () true
      = .ok ({ finalState := (), success := true, error := "" }, stats) := by
  have hstage : Stageable (ResolvedMachineSpec.limits ⟨4096, 2⟩) jsonNull jsonNull jsonNull :=
    ⟨by decide, by decide, by decide⟩
  have henc : ContractResultData.codec.encode
      (reference ownerOnly jsonNull jsonNull jsonNull true) = .ok nullResult := rfl
  have hhouse : bareBuild.Houses 100 jsonNull jsonNull jsonNull nullResult :=
    bareBuild_houses (by decide) (by decide) (by decide) (by decide)
  obtain ⟨stats, hexec⟩ := executeInner_total nullExternals_null nullExternals_null
    nullExternals_null hstage ownerOnly_admitted rfl rfl pageShell_room hhouse bareBuild_work
    (by decide) henc (by decide)
  exact ⟨stats, hexec⟩

theorem ownerOnly_explained : ∃ b₁ b₂ b₃, Serializes nullExternals () b₁ ∧
    Serializes nullExternals () b₂ ∧ Serializes nullExternals () b₃ ∧
    (∃ outcome bytes, executionOutcome.settles errReturnResult
        (tryReference ownerOnly b₁ b₂ b₃ true) = some (outcome, bytes) ∧ bytes.length ≤ i32Max ∧
      report nullExternals outcome = .ok { finalState := (), success := true, error := "" }) ∧
    Explains nullExternals ownerOnly b₁ b₂ b₃ true { finalState := (), success := true, error := "" } := by
  obtain ⟨stats, hexec⟩ := ownerOnly_returns
  exact executeInner_explained hexec

end Sdk

end Ave
