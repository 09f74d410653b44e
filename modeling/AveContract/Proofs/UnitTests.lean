/-
What a unit test says is what every machine reports.

The SDK's tests, and the tests of every contract written with it, set their inputs up
on a fresh mock, call an entry point and read its result back.  Nothing in that looks
like a machine.  The two are compared through the reference: on the mock an entry
point leaves the first result of the reference that can be sent (`executeContract_left`),
and so does it on any machine that answered at all (`executeInner_sent`).

A test reads back nothing only where nothing can be sent, which takes a message of
more than two gigabytes.
-/
import AveContract.Proofs.Lives
import AveContract.Proofs.Mock

namespace Ave

open Slice Borsh Metered

namespace Sdk

/-! ### Setting a test up -/

/-- A text that was set up is there, and so is what was there before. -/
theorem setupHostData_holds {b : Bytes} {m : MockHost} (hlen : 4 + b.length ≤ 10000000)
    (hids : m.nextId < i32Max) :
    ∃ ptr m', setupHostData b m = (.ok ptr, m') ∧ m'.nextId = m.nextId + 1 ∧ m'.HoldsText ptr b ∧
      m.Keeps m' := by
  have henc : ContractData.codec.encode ⟨b⟩ = .ok (le32 b.length ++ b) :=
    Codec.blob_encode (show b.length < 2 ^ 32 by omega)
  obtain ⟨m', hinsert, hnext, hholds, hkeeps⟩ :=
    MockHost.insertNext_holds (le32 b.length ++ b) hids
  refine ⟨usizeAsU32 m.nextId, m', ?_, hnext, ⟨hholds, hlen⟩, hkeeps⟩
  unfold setupHostData
  simp only [henc]
  exact hinsert

theorem MockHost.Keeps.holdsText {m m' : MockHost} (h : m.Keeps m') {ptr : Word} {b : Bytes}
    (hin : m.HoldsText ptr b) : m'.HoldsText ptr b :=
  ⟨h.holds ptr _ hin.framed, hin.length⟩

/-- What landed is read back as what was sent. -/
theorem Landed.readHostResult {R : Type} {codec : Codec R} {r : R} {m m' : MockHost} {bytes : Bytes}
    {ptr : Word} (h : Landed m bytes ptr m') (henc : codec.encode r = .ok bytes) :
    readHostResult codec ptr m' = .ok r := by
  unfold Sdk.readHostResult
  rw [h.data]
  simp only [codec.tryFromSlice_encode henc]

section UnitTests

variable {State Event : Type} {build : Build} {w : World MockHost} {p₁ p₂ p₃ : Word} {flag : Word}
  {memory b₁ b₂ b₃ bytes : Bytes}

/-- A world to run a test in: lengths are not forced, and a pointer is left. -/
structure Testing (build : Build) (w : World MockHost) : Prop where
  native : build.Native w.memory.length
  forcePointerLen : w.host.forcePointerLen = none
  pointers : w.host.nextId < i32Max

theorem Testing.quiet {w' : World MockHost} (h : Testing build w) (hquiet : Quiet w w') :
    Testing build w' := by
  refine ⟨?_, ?_, ?_⟩
  · rw [hquiet.size]
    exact h.native
  · rw [hquiet.host]
    exact h.forcePointerLen
  · rw [hquiet.host]
    exact h.pointers

/-- What an entry point leaves on the mock: the first result that can be sent under a new pointer,
or, where there is none or no pointer is to be had, a null pointer and nothing else. -/
inductive Left {R : Type} (m : MockHost) (lands : Option (R × Bytes)) (ptr : Word) (m' : MockHost) :
    Prop where
  | landed {r : R} {bytes : Bytes} (hlands : lands = some (r, bytes))
      (hoff : m.forceAllocZero = false) (h : Landed m bytes ptr m')
  | missed (hmisses : lands = none ∨ m.forceAllocZero = true) (hptr : ptr = 0) (hsame : m' = m)

/-- An entry point that prepares a result quietly and delivers it leaves one of the two. -/
theorem left_of_halves {R : Type} {kind : Outcome R} {unreturned : String} {entry : Guest Word}
    {prepare : Guest (Except String R)} {p : Except String R} (hw : Testing build w)
    (hcompact : kind.Compact)
    (hentry : entry = prepare >>= deliver build kind unreturned >>= fun tries =>
      pure (Attempt.pointer tries))
    (hprepare : ∃ w', mockHost.Gives prepare w p w' ∧ Quiet w w') :
    ∃ ptr w', mockHost.Gives entry w ptr w' ∧
      Left w.host (kind.lands unreturned p) ptr w'.host := by
  obtain ⟨w₁, hprepared, hquiet⟩ := hprepare
  have hw₁ := hw.quiet hquiet
  have hmissed : kind.lands unreturned p = none ∨ w.host.forceAllocZero = true →
      ∃ ptr w', mockHost.Gives entry w ptr w' ∧
        Left w.host (kind.lands unreturned p) ptr w'.host := by
    intro hmisses
    rw [← hquiet.host] at hmisses
    obtain ⟨tries, w₂, hdeliver, hnull, hquiet₂⟩ := deliver_misses hw₁.native hcompact hmisses
    rw [hquiet.host] at hmisses
    refine ⟨Attempt.pointer tries, w₂, ?_, .missed hmisses hnull (hquiet.trans hquiet₂).host⟩
    rw [hentry]
    exact (hprepared.andThen hdeliver).andThen (Host.Gives.ret mockHost _ _)
  cases hlands : kind.lands unreturned p with
  | none =>
      rw [← hlands]
      exact hmissed (Or.inl hlands)
  | some sent =>
      cases hoff : w.host.forceAllocZero with
      | true =>
          rw [← hlands]
          exact hmissed (Or.inr hoff)
      | false =>
          obtain ⟨tries, w₂, hdeliver, hlanded⟩ := deliver_lands hw₁.native hcompact hlands
            (by rw [hquiet.host]; exact hoff) hw₁.pointers
          rw [hquiet.host] at hlanded
          refine ⟨Attempt.pointer tries, w₂, ?_, .landed rfl hoff hlanded⟩
          rw [hentry]
          exact (hprepared.andThen hdeliver).andThen (Host.Gives.ret mockHost _ _)

/-- **What `executeContract` leaves on the mock.** -/
theorem executeContract_left (contract : Contract State Event) (hw : Testing build w)
    (h₁ : w.host.HoldsText p₁ b₁) (h₂ : w.host.HoldsText p₂ b₂) (h₃ : w.host.HoldsText p₃ b₃)
    (flag : Word) :
    ∃ ptr w', mockHost.Gives (executeContract build contract p₁ p₂ p₃ flag) w ptr w' ∧
      Left w.host (executionOutcome.lands errReturnResult
        (tryReference contract b₁ b₂ b₃ (flag == ownerFlag))) ptr w'.host :=
  left_of_halves hw executionOutcome_compact (executeContract_eq build contract p₁ p₂ p₃ flag)
    (prepareExecution_mock contract hw.native hw.forcePointerLen h₁ h₂ h₃ flag)

/-- **What `checkInitData` leaves on it.** -/
theorem checkInitData_left (contract : Contract State Event) (hw : Testing build w)
    (h₁ : w.host.HoldsText p₁ b₁) :
    ∃ ptr w', mockHost.Gives (checkInitData build contract p₁) w ptr w' ∧
      Left w.host (checkOutcome.lands errReturnInitResult (tryReferenceCheck contract b₁)) ptr
        w'.host :=
  left_of_halves hw checkOutcome_compact (checkInitData_eq build contract p₁)
    (prepareCheck_mock contract hw.native hw.forcePointerLen h₁)

/-- What a test reads back of what landed; where nothing did, it panics. -/
def readBack {R : Type} : Option (R × Bytes) → Except WasmError R
  | some (r, _) => .ok r
  | none => .error panicked

theorem Left.readHostResult {R : Type} {kind : Outcome R} {unreturned : String}
    {p : Except String R} {m m' : MockHost} {ptr : Word} (hkeep : MockHost.reset.Keeps m)
    (h : Left m (kind.lands unreturned p) ptr m') :
    Sdk.readHostResult kind.codec ptr m' = readBack (kind.lands unreturned p) := by
  cases h with
  | landed hlands hoff hlanded =>
      rw [hlands]
      exact hlanded.readHostResult (Outcome.lands_some hlands).2
  | missed hmisses hptr hsame =>
      have hnone : kind.lands unreturned p = none := by
        rcases hmisses with hnone | hforced
        · exact hnone
        · rw [hkeep.forceAllocZero] at hforced
          exact absurd hforced Bool.false_ne_true
      have hnull : m.getData 0 = none := hkeep.null
      rw [hnone, hptr, hsame]
      unfold Sdk.readHostResult
      rw [hnull]
      rfl

/-- **A unit test reads back the first result of the reference that can be sent.** -/
theorem unitTest_eq (contract : Contract State Event) (hnative : build.Native memory.length)
    (h₁ : 4 + b₁.length ≤ 10000000) (h₂ : 4 + b₂.length ≤ 10000000)
    (h₃ : 4 + b₃.length ≤ 10000000) (flag : Word) :
    unitTest build contract memory b₁ b₂ b₃ flag =
      readBack (executionOutcome.lands errReturnResult
        (tryReference contract b₁ b₂ b₃ (flag == ownerFlag))) := by
  have hstart : MockHost.reset.nextId = 1000 := rfl
  obtain ⟨p₁, m₁, hset₁, hnext₁, hin₁, hkeep₁⟩ :=
    setupHostData_holds (m := .reset) h₁ (by unfold i32Max; omega)
  obtain ⟨p₂, m₂, hset₂, hnext₂, hin₂, hkeep₂⟩ :=
    setupHostData_holds (m := m₁) h₂ (by unfold i32Max; omega)
  obtain ⟨p₃, m₃, hset₃, hnext₃, hin₃, hkeep₃⟩ :=
    setupHostData_holds (m := m₂) h₃ (by unfold i32Max; omega)
  have hkeep : MockHost.reset.Keeps m₃ := (hkeep₁.trans hkeep₂).trans hkeep₃
  have hw : Testing build ⟨m₃, memory, []⟩ :=
    ⟨hnative, hkeep.forcePointerLen, show m₃.nextId < i32Max by unfold i32Max; omega⟩
  obtain ⟨ptr, w', hgives, hleft⟩ := executeContract_left contract hw
    ((hkeep₂.trans hkeep₃).holdsText hin₁) (hkeep₃.holdsText hin₂) hin₃ flag
  have heval : Prog.eval WasmError.trap mockHost.handle
      (executeContract build contract p₁ p₂ p₃ flag) ⟨m₃, memory, []⟩ = (.ok ptr, w') := hgives
  unfold unitTest
  simp only [hset₁, hset₂, hset₃, heval]
  exact hleft.readHostResult hkeep

/-- **And of a check, the first of the reference check.** -/
theorem unitCheck_eq (contract : Contract State Event) (hnative : build.Native memory.length)
    (h₁ : 4 + b₁.length ≤ 10000000) :
    unitCheck build contract memory b₁ =
      readBack (checkOutcome.lands errReturnInitResult (tryReferenceCheck contract b₁)) := by
  have hstart : MockHost.reset.nextId = 1000 := rfl
  obtain ⟨p₁, m₁, hset₁, hnext₁, hin₁, hkeep⟩ :=
    setupHostData_holds (m := .reset) h₁ (by unfold i32Max; omega)
  have hw : Testing build ⟨m₁, memory, []⟩ :=
    ⟨hnative, hkeep.forcePointerLen, show m₁.nextId < i32Max by unfold i32Max; omega⟩
  obtain ⟨ptr, w', hgives, hleft⟩ := checkInitData_left contract hw hin₁
  have heval : Prog.eval WasmError.trap mockHost.handle
      (checkInitData build contract p₁) ⟨m₁, memory, []⟩ = (.ok ptr, w') := hgives
  unfold unitCheck
  simp only [hset₁, heval]
  exact hleft.readHostResult hkeep

end UnitTests

/-! ### The machines agree with the tests -/

section Agreement

variable {V State Event : Type} {ext : Externals V} {build native : Build}
  {contract : Contract State Event} {shell : Shell} {spec : ResolvedMachineSpec}
  {state initState event value : V} {isOwner : Bool} {memory b : Bytes}

/--
**What a unit test says is what every machine reports.**

Take any execution of an SDK contract that some machine answered `Ok`, and run the
same texts as a unit test: the test reads a result back, and it is the one that the
machine reported.
-/
theorem unitTest_agrees {result : ExecutionResult V} {stats : ExecutionStats}
    (hnative : native.Native memory.length)
    (h : executeInner ext spec.limits (contract.module build shell) state initState event isOwner
      = .ok (result, stats)) :
    ∃ b₁ b₂ b₃ outcome, Serializes ext state b₁ ∧ Serializes ext initState b₂ ∧
      Serializes ext event b₃ ∧
      unitTest native contract memory b₁ b₂ b₃ (if isOwner then 1 else 0) = .ok outcome ∧
      report ext outcome = .ok result := by
  obtain ⟨b₁, b₂, b₃, h₁, h₂, h₃, ⟨hlen₁, hlen₂, hlen₃⟩, outcome, bytes, hsettles, hshort, hreport⟩ :=
    executeInner_sent h
  refine ⟨b₁, b₂, b₃, outcome, h₁, h₂, h₃, ?_, hreport⟩
  rw [unitTest_eq contract hnative hlen₁ hlen₂ hlen₃, owner_flag,
    Outcome.lands_of_settles hsettles hshort]
  rfl

/-! ### A life, rehearsed

A contract's tests often go through several events, each from the state that the one
before left.  That is a life without machines.
-/

/-- A unit test of one event, and what it is compiled to and runs in. -/
structure TestRun (V : Type) where
  event : V
  isOwner : Bool
  native : Build
  memory : Bytes
  room : native.Native memory.length

/-- The test is of the event that a turn brings. -/
structure TestRun.Of (turn : BuiltTurn V) (test : TestRun V) : Prop where
  event : test.event = turn.event
  isOwner : test.isOwner = turn.isOwner

/-- What a unit test reads back, from the texts the host would stage. -/
def rehearse (ext : Externals V) (contract : Contract State Event) (initState : V)
    (test : TestRun V) (state : V) : Option (ExecutionResult V) :=
  match ext.json.toVec state, ext.json.toVec initState, ext.json.toVec test.event with
  | .ok b₁, .ok b₂, .ok b₃ =>
      match unitTest test.native contract test.memory b₁ b₂ b₃ (if test.isOwner then 1 else 0) with
      | .error _ => none
      | .ok outcome => (report ext outcome).toOption
  | _, _, _ => none

/-- The reports of one unit test after another, and the state after the last. -/
def rehearsal (ext : Externals V) (contract : Contract State Event) (initState : V) :
    V → List (TestRun V) → List (ExecutionResult V) × V
  | state, [] => ([], state)
  | state, test :: rest =>
      match rehearse ext contract initState test state with
      | none => rehearsal ext contract initState state rest
      | some result =>
          let next := if result.success then result.finalState else state
          let (reports, final) := rehearsal ext contract initState next rest
          (result :: reports, final)

/-- The results among some answers. -/
def reported (as : List (Except RuntimeError (ExecutionResult V × ExecutionStats))) :
    List (ExecutionResult V) :=
  as.filterMap fun a => a.toOption.map Prod.fst

/-- A turn that was answered is rehearsed with the same result. -/
theorem rehearse_answered {turn : BuiltTurn V} {test : TestRun V} {result : ExecutionResult V}
    {stats : ExecutionStats} (htest : TestRun.Of turn test)
    (h : contract.answer ext shell initState value turn = .ok (result, stats)) :
    rehearse ext contract initState test value = some result := by
  obtain ⟨b₁, b₂, b₃, outcome, h₁, h₂, h₃, hreads, hreport⟩ := unitTest_agrees test.room h
  unfold rehearse
  rw [htest.event, htest.isOwner]
  simp only [h₁.1, h₂.1, h₃.1, hreads, hreport]
  rfl

/-- What a unit test of a check reads back is the reference check. -/
theorem unitCheck_ok {outcome : ContractInitCheckData} (hnative : native.Native memory.length)
    (hlen : 4 + b.length ≤ 10000000) (h : unitCheck native contract memory b = .ok outcome) :
    outcome = referenceCheck contract b ∧
      ∃ bytes, ContractInitCheckData.codec.encode outcome = .ok bytes := by
  rw [unitCheck_eq contract hnative hlen] at h
  cases hlands : checkOutcome.lands errReturnInitResult (tryReferenceCheck contract b) with
  | none =>
      rw [hlands] at h
      simp [readBack] at h
  | some sent =>
      obtain ⟨r, bytes⟩ := sent
      rw [hlands] at h
      obtain rfl : r = outcome := Except.ok.inj h
      obtain ⟨htried, henc⟩ := Outcome.lands_some hlands
      refine ⟨?_, bytes, henc⟩
      unfold referenceCheck
      cases htry : tryReferenceCheck contract b with
      | error e =>
          rw [htry] at htried
          exact List.mem_singleton.mp htried
      | ok prepared =>
          -- A verdict of success is five bytes long, so the second candidate is never reached.
          obtain ⟨rfl, -⟩ := tryReferenceCheck_ok htry
          rw [htry] at hlands
          exact (congrArg Prod.fst (Option.some.inj hlands)).symm

/-- A reference check that succeeds is read back. -/
theorem unitCheck_accepts (hnative : native.Native memory.length) (hlen : 4 + b.length ≤ 10000000)
    (h : (referenceCheck contract b).success = true) :
    unitCheck native contract memory b = .ok .ok := by
  rw [unitCheck_eq contract hnative hlen]
  unfold referenceCheck at h
  cases htry : tryReferenceCheck contract b with
  | error e =>
      rw [htry] at h
      simp [ContractInitCheckData.failed] at h
  | ok prepared =>
      obtain ⟨rfl, -⟩ := tryReferenceCheck_ok htry
      rfl

/--
**And what it says of an initial state is what validating it says.**

On any machine where the check ran to its end: the state is accepted if and only if
the unit test reads back a success, and whatever the test reads back is reported.
-/
theorem unitCheck_agrees {inst : Instance (Guest Word)} {r : GuestRun (Guest Word)}
    {x : Word × Guest Word} (hnative : native.Native memory.length) (hjson : JsonTexts ext)
    (hb : Serializes ext value b)
    (hcall : callInitCheck ext spec.limits (contract.module build shell) value = .ok (inst, r))
    (hout : r.outcome = .ok x) :
    (validateInner ext spec.limits (contract.module build shell) value = .ok () ↔
        unitCheck native contract memory b = .ok .ok) ∧
      ∀ outcome, unitCheck native contract memory b = .ok outcome →
        validateInner ext spec.limits (contract.module build shell) value
          = reportCheck outcome := by
  have hlen : 4 + b.length ≤ 10000000 := by
    have hsingle : spec.limits.maxSingleAlloc ≤ 8 * 1024 * 1024 :=
      WasmLimits.build_maxSingleAlloc_le spec.ramMb spec.cpuCores
    obtain ⟨b', -, -, -, hb', hfits, -⟩ := callInitCheck_inv hcall
    obtain rfl := hb.unique hb'
    have hcap : 4 + b.length ≤ spec.limits.maxSingleAlloc := hfits.1
    omega
  have hchecked : Checked contract b
      (validateInner ext spec.limits (contract.module build shell) value) :=
    validateInner_checked hjson hb hcall hout
  have hreads : ∀ outcome, unitCheck native contract memory b = .ok outcome →
      validateInner ext spec.limits (contract.module build shell) value = reportCheck outcome := by
    intro outcome hread
    obtain ⟨rfl, bytes, henc⟩ := unitCheck_ok hnative hlen hread
    exact hchecked.whole bytes henc
  refine ⟨⟨fun hok => ?_, fun hread => hreads .ok hread⟩, hreads⟩
  exact unitCheck_accepts hnative hlen (hchecked.success.mp hok)

end Agreement

/-! ### Two contracts, tested -/

/-- A test's memory, in which no buffer is too large. -/
def testMemory : Bytes := List.replicate (2 ^ 34) 0

theorem bareBuild_native : bareBuild.Native testMemory.length := by
  refine ⟨fun _ => rfl, fun site => ?_⟩
  unfold testMemory
  rw [List.length_replicate]
  exact Nat.le_of_eq (Nat.zero_add _)

/-- The tests of the turns that were answered. -/
def latchTests : List (TestRun Bool) :=
  (latch.answered boolExternals pageShell true true latchTurns).map fun turn =>
    { event := turn.event
      isOwner := turn.isOwner
      native := bareBuild
      memory := testMemory
      room := bareBuild_native }

theorem ownerOnly_check_tested :
    validateInner nullExternals (ResolvedMachineSpec.limits ⟨4096, 2⟩)
        (ownerOnly.module bareBuild pageShell) () = .ok () ↔
      unitCheck bareBuild ownerOnly testMemory jsonNull = .ok .ok := by
  have hlodge : bareBuild.Lodges 100 jsonNull [1, 0, 0, 0, 0] :=
    bareBuild_lodges (by decide) (by decide)
  obtain ⟨inst, r, x, hcall, hout⟩ := callInitCheck_returns nullExternals_null (by decide)
    ownerOnly_admitted rfl rfl pageShell_room hlodge bareBuild_work (by decide) rfl (by decide)
  exact (unitCheck_agrees bareBuild_native nullExternals_json nullExternals_null hcall hout).1

end Sdk

end Ave
