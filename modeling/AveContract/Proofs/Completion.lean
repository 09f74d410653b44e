/-
When an SDK contract runs to its end.

`Proofs/Contract.lean` says what a contract that returned has returned.  Two things
are left to say before a run is known to return.

It does not run dry.  The entry points make a fixed number of requests besides
the compiler's own work, so with a bound on that work the budget is a matter of
arithmetic (`executeContract_sized`).  This asks nothing of the host.

And it is not refused.  The places where the host or the store can say no are the
reads, which fit wherever staging did, the result's allocation, and the buffers
in the guest's memory; a build that has room for these (`Build.Houses`) is
answered at every step.
-/
import AveContract.Proofs.Contract

namespace Ave

open Slice Borsh Metered

namespace Sdk

/-! ### How many requests the entry points make -/

section Sizes

variable {α State Event T : Type} {build : Build} {contract : Contract State Event} {w : Nat}

/-- Nowhere does the compiler's own work take more than `w` requests. -/
def Build.WorkAtMost (build : Build) (w : Nat) : Prop := ∀ site, (build.work site).length ≤ w

theorem doWork_sized : ∀ work : List Local, (doWork work).Sized work.length := by
  intro work
  induction work with
  | nil => exact .ret ()
  | cons l rest ih => exact .ask fun _ => ih

theorem getFromContext_sized (hw : build.WorkAtMost w) (site : Site) (pointer : Word) :
    (getFromContext build site pointer).Sized (w + 4) := by
  have hwork : (doWork (build.work site)).Sized w := (doWork_sized _).mono (hw site)
  refine Prog.Sized.mono (n := 1 + (w + (1 + (1 + (1 + 0))))) ?_ (by omega)
  refine (Prog.Sized.request _).bind fun hostLen => ?_
  cases validateHostLen hostLen with
  | error e => exact .ret _
  | ok len =>
      refine hwork.bind fun _ => (Prog.Sized.request _).bind fun _ => ?_
      exact (Prog.Sized.request _).bind fun _ => (Prog.Sized.request _).bind fun _ => .ret _

theorem readAndParse_sized (hw : build.WorkAtMost w) (site : Site)
    (fromSlice : Bytes → Except String T) (ptr : Word) (name : String) :
    (readAndParse build site fromSlice ptr name).Sized (w + 4) :=
  (getFromContext_sized hw site ptr).bind (m := 0) fun _ => .ret _

theorem store_sized (hw : build.WorkAtMost w) (site : Site) (codec : Codec α) (data : α) :
    (store build site codec data).Sized (w + 3) := by
  have hwork : (doWork (build.work site)).Sized w := (doWork_sized _).mono (hw site)
  unfold store
  cases serialize build codec data with
  | error e => exact .ret _
  | ok bytes =>
      refine Prog.Sized.mono (n := w + (1 + (1 + (1 + 0)))) ?_ (by omega)
      refine hwork.bind fun _ => (Prog.Sized.request _).bind fun _ => ?_
      cases validateSerializedLen bytes with
      | error e => exact .ret _
      | ok len =>
          refine (Prog.Sized.request _).bind fun rawPtr => ?_
          by_cases hnull : rawPtr = 0
          · rw [if_pos hnull]
            exact .ret _
          · rw [if_neg hnull]
            exact (Prog.Sized.request _).bind fun _ => .ret _

theorem readState_sized (hw : build.WorkAtMost w) (statePtr initStatePtr : Word) :
    (readState build contract statePtr initStatePtr).Sized (w + 4 + (w + 4)) := by
  refine (readAndParse_sized hw _ _ _ _).bind fun first => ?_
  cases first with
  | ok state => exact .ret _
  | error e =>
      refine Prog.Sized.mono (n := w + 4 + 0) ?_ (by omega)
      refine (readAndParse_sized hw _ _ _ _).bind fun second => ?_
      cases second with
      | ok state => exact .ret _
      | error e => exact .ret _

theorem tryExecuteContract_sized (hw : build.WorkAtMost w)
    (statePtr initStatePtr eventPtr isOwner : Word) :
    (tryExecuteContract build contract statePtr initStatePtr eventPtr isOwner).Sized
      (5 * w + 15) := by
  refine Prog.Sized.mono (n := w + 4 + (w + 4) + (w + 4 + (w + (w + 3 + 0)))) ?_ (by omega)
  refine (readState_sized hw statePtr initStatePtr).bind fun state => ?_
  cases state with
  | error e => exact .ret _
  | ok state =>
      refine (readAndParse_sized hw _ _ _ _).bind fun event => ?_
      cases event with
      | error e => exact .ret _
      | ok event =>
          refine ((doWork_sized _).mono (hw .callback)).bind fun _ => ?_
          dsimp only
          cases contractResultData contract
              (contract.callback { event, isOwner := isOwner == ownerFlag } (.new state)) with
          | error e => exact .ret _
          | ok result =>
              refine (store_sized hw _ _ _).bind fun stored => ?_
              cases stored with
              | error e => exact .ret _
              | ok ptr => exact .ret _

/-- **The entry point makes a fixed number of requests besides the compiler's.** -/
theorem executeContract_sized (hw : build.WorkAtMost w)
    (statePtr initStatePtr eventPtr isOwner : Word) :
    (executeContract build contract statePtr initStatePtr eventPtr isOwner).Sized
      (6 * w + 18) := by
  refine Prog.Sized.mono (n := 5 * w + 15 + (w + 3 + 0)) ?_ (by omega)
  refine (tryExecuteContract_sized hw statePtr initStatePtr eventPtr isOwner).bind fun r => ?_
  cases r with
  | ok ptr => exact .ret _
  | error e =>
      refine (store_sized hw _ _ _).bind fun stored => ?_
      cases stored with
      | error e => exact .ret _
      | ok ptr => exact .ret _

theorem checkInitData_sized (hw : build.WorkAtMost w) (statePtr : Word) :
    (checkInitData build contract statePtr).Sized (4 * w + 10) := by
  refine Prog.Sized.mono (n := w + 4 + (w + (w + 3 + 0)) + (w + 3 + 0)) ?_ (by omega)
  have htry : (tryCheckInitData build contract statePtr).Sized (w + 4 + (w + (w + 3 + 0))) := by
    refine (readAndParse_sized hw _ _ _ _).bind fun state => ?_
    cases state with
    | error e => exact .ret _
    | ok state =>
        refine ((doWork_sized _).mono (hw .callback)).bind fun _ => ?_
        by_cases hcheck : (contract.check state .default).success = true
        · rw [if_pos hcheck]
          refine (store_sized hw _ _ _).bind fun stored => ?_
          cases stored with
          | error e => exact .ret _
          | ok ptr => exact .ret _
        · rw [if_neg hcheck]
          exact .ret _
  refine htry.bind fun r => ?_
  cases r with
  | ok ptr => exact .ret _
  | error e =>
      refine (store_sized hw _ _ _).bind fun stored => ?_
      cases stored with
      | error e => exact .ret _
      | ok ptr => exact .ret _

/-- Every build has some bound: there are six places. -/
theorem Build.exists_workAtMost (build : Build) : ∃ w, build.WorkAtMost w := by
  refine ⟨(build.work .state).length + (build.work .initState).length +
    (build.work .event).length + (build.work .callback).length + (build.work .result).length +
    (build.work .failure).length, fun site => ?_⟩
  cases site <;> omega

end Sizes

/-! ### Where nothing is refused -/

/-- The guest exports its memory, and has at least `room` bytes of it. -/
structure Roomy (room : Nat) (s : Store) : Prop where
  exported : s.memoryExport = true
  length : room ≤ s.memory.length

/-- Memory does not shrink. -/
theorem Roomy.exec {room : Nat} {s : Store} (h : Roomy room s) (op : Instr) :
    Roomy room (Ave.exec op s).2 := by
  rcases hex : Ave.exec op s with ⟨_ | a, t⟩
  · rw [exec_refused hex]
    exact h
  · have hkept := exec_kept hex
    exact ⟨hkept.exported.trans h.exported, Nat.le_trans h.length hkept.grows⟩

/-- A build that has room for what is read and written, and whose own work is answered there. -/
structure Build.Houses (build : Build) (room : Nat) (b₁ b₂ b₃ bytes : Bytes) : Prop where
  work : ∀ site s, Roomy room s → ∃ t, Returns (doWork (build.work site)) s () t
  state : (build.buffer .state).toNat + (4 + b₁.length) ≤ room
  initState : (build.buffer .initState).toNat + (4 + b₂.length) ≤ room
  event : (build.buffer .event).toNat + (4 + b₃.length) ≤ room
  result : (build.buffer .result).toNat + bytes.length ≤ room
  failure : (build.buffer .failure).toNat + bytes.length ≤ room

section Pieces

variable {α β : Type} {s s' t : Store}

theorem Returns.andThen {p : Guest α} {f : α → Guest β} {a : α} {b : β} (h : Returns p s a s')
    (hf : Returns (f a) s' b t) : Returns (p >>= f) s b t := by
  have heval : Prog.eval WasmError.trap exec p s = (.ok a, s') := h
  unfold Returns
  rw [Prog.eval_bind, heval]
  exact hf

theorem Returns.ofExec {op : Instr} {a : op.Answer} (h : exec op s = (.ok a, t)) :
    Returns (Prog.request op) s a t := by
  unfold Returns
  rw [Prog.eval_request, h]

theorem Returns.roomy {p : Guest α} {a : α} {room : Nat} (h : Returns p s a t)
    (hs : Roomy room s) : Roomy room t :=
  h.keeps (fun op _ hs => hs.exec op) hs

end Pieces

section Answers

variable {α State Event T : Type} {build : Build} {contract : Contract State Event}
  {limits : WasmLimits} {m : MemoryManager} {s : Store} {site : Site} {room p : Nat}
  {b b₁ b₂ b₃ bytes : Bytes}

/-- A buffer inside the guest's memory can be stored to. -/
theorem exec_store_roomy {addr : Nat} (hs : Ready limits m s) (hroomy : Roomy room s)
    (hin : addr + bytes.length ≤ room) :
    ∃ t, exec (.store addr bytes) s = (.ok (), t) ∧ Ready limits m t := by
  have hstore : exec (.store addr bytes) s
      = (.ok (), { s with memory := patch s.memory addr bytes }) :=
    if_pos (Nat.le_trans hin hroomy.length)
  exact ⟨_, hstore, hs.data, (Returns.ofExec hstore).bounded hs.bounded⟩

/-- And loaded from. -/
theorem exec_load_roomy {addr len : Nat} (hroomy : Roomy room s) (hin : addr + len ≤ room) :
    exec (.load addr len) s = (.ok (slice s.memory addr len), s) :=
  if_pos (Nat.le_trans hin hroomy.length)

/-- A staged input can be read into it. -/
theorem exec_readBytes_roomy {dst : Word} (hs : Ready limits m s) (hsmall : Small limits m)
    (hroomy : Roomy room s) (hin : HoldsInput m p b) (hlen : 4 + b.length ≤ 10000000)
    (hcap : 4 + b.length ≤ limits.maxSingleAlloc) (hbuf : dst.toNat + (4 + b.length) ≤ room) :
    ∃ t, exec (.readBytes (usizeAsU32 p) dst (usizeAsU32 (4 + b.length))) s = (.ok (), t) := by
  have hinside := hin.inside
  have hhost := hsmall.host
  have hroom := hroomy.length
  have hi32 : 4 + b.length ≤ i32Max := by unfold i32Max; omega
  have hn : i32AsUsize (usizeAsU32 (4 + b.length)) = 4 + b.length := i32AsUsize_usizeAsU32 hi32
  have hptr : i32AsUsize (usizeAsU32 p) = p := i32AsUsize_usizeAsU32 (by omega)
  have haddr : i32AsUsize dst = dst.toNat :=
    i32AsUsize_addr hs hsmall (by omega) (Nat.le_trans hbuf hroom)
  rcases Env.readBytes_cases s.toCaller (usizeAsU32 p) dst (usizeAsU32 (4 + b.length)) with
    ⟨-, hok⟩ | ⟨hno, -⟩
  · exact ⟨_, by rw [exec, hok]⟩
  · refine absurd ⟨?_, ?_, ?_, ?_, hroomy.exported, ?_⟩ hno
    · rw [hn, hs.bounded.caps.maxSingleAlloc]
      exact hcap
    · rw [toInt_usizeAsU32 hi32]
      exact Int.natCast_nonneg _
    · rw [hn, hptr]
      unfold i32Max at hhost
      unfold usizeMax
      omega
    · rw [hn, hptr, hs.data]
      exact hinside
    · rw [hn, haddr]
      exact Nat.le_trans hbuf hroom

/-- **A staged input that fits its buffer is read.** -/
theorem getFromContext_answers (hs : Ready limits m s) (hsmall : Small limits m)
    (hroomy : Roomy room s) (hin : HoldsInput m p b) (hlen : 4 + b.length ≤ 10000000)
    (hcap : 4 + b.length ≤ limits.maxSingleAlloc)
    (hwork : ∀ s, Roomy room s → ∃ t, Returns (doWork (build.work site)) s () t)
    (hbuf : (build.buffer site).toNat + (4 + b.length) ≤ room) :
    ∃ r t, Returns (getFromContext build site (usizeAsU32 p)) s r t := by
  have hasked : exec (.pointerLen (usizeAsU32 p)) s = (.ok (usizeAsU32 (4 + b.length)), s) := by
    rw [exec, pointerLen_staged hs hsmall hin]
  obtain ⟨s₁, hworked⟩ := hwork s hroomy
  have hzeros : (build.buffer site).toNat + (List.replicate (4 + b.length) (0 : UInt8)).length
      ≤ room := by
    rw [List.length_replicate]
    exact hbuf
  obtain ⟨s₂, hzeroed, hs₂⟩ :=
    exec_store_roomy (doWork_returns hs hworked) (hworked.roomy hroomy) hzeros
  have hroomy₂ : Roomy room s₂ := (Returns.ofExec hzeroed).roomy (hworked.roomy hroomy)
  obtain ⟨s₃, hread⟩ := exec_readBytes_roomy hs₂ hsmall hroomy₂ hin hlen hcap hbuf
  have hload := exec_load_roomy ((Returns.ofExec hread).roomy hroomy₂) hbuf
  refine ⟨.ok (slice s₃.memory (build.buffer site).toNat (4 + b.length)), s₃,
    (Returns.ofExec hasked).andThen ?_⟩
  rw [validateHostLen_ok hlen]
  refine hworked.andThen ((Returns.ofExec hzeroed).andThen ?_)
  exact (Returns.ofExec hread).andThen ((Returns.ofExec hload).andThen rfl)

/-- And parsed. -/
theorem readAndParse_answers (fromSlice : Bytes → Except String T) (name : String)
    (hs : Ready limits m s) (hsmall : Small limits m) (hroomy : Roomy room s)
    (hin : HoldsInput m p b) (hlen : 4 + b.length ≤ 10000000)
    (hcap : 4 + b.length ≤ limits.maxSingleAlloc)
    (hwork : ∀ s, Roomy room s → ∃ t, Returns (doWork (build.work site)) s () t)
    (hbuf : (build.buffer site).toNat + (4 + b.length) ≤ room) :
    ∃ t, Returns (readAndParse build site fromSlice (usizeAsU32 p) name) s
      (parseInput fromSlice name b) t := by
  obtain ⟨r, t, hget⟩ := getFromContext_answers hs hsmall hroomy hin hlen hcap hwork hbuf
  have hparse : Returns (readAndParse build site fromSlice (usizeAsU32 p) name) s
      (parseRead build fromSlice name r) t := hget.andThen rfl
  obtain ⟨hr, -⟩ := readAndParse_returns hs hsmall hin hlen hparse
  exact ⟨t, hr ▸ hparse⟩

/-- The bytes of a buffer can be written to the allocation made for them. -/
theorem exec_writeBytes_roomy {src : Word} {n : Nat} (hdata : s.data = m.grown n)
    (hsmall : Small limits m) (hfits : m.Fits n) (hpos : 0 < n) (hi32 : n ≤ i32Max)
    (hroomy : Roomy room s) (hsize : s.memory.length ≤ limits.memorySize)
    (hbuf : src.toNat + n ≤ room) :
    ∃ t, exec (.writeBytes (usizeAsU32 m.memory.length) src (usizeAsU32 n)) s = (.ok (), t) := by
  have hguest := hsmall.guest
  have hroom := hroomy.length
  have hn : i32AsUsize (usizeAsU32 n) = n := i32AsUsize_usizeAsU32 hi32
  have hptr : i32AsUsize (usizeAsU32 m.memory.length) = m.memory.length :=
    i32AsUsize_usizeAsU32 hsmall.host
  have haddr : i32AsUsize src = src.toNat := i32AsUsize_of_lt (by omega)
  rcases Env.writeBytes_cases s.toCaller (usizeAsU32 m.memory.length) src (usizeAsU32 n) with
    ⟨-, hok⟩ | ⟨hno, -⟩
  · exact ⟨_, by rw [exec, hok]⟩
  · refine absurd ⟨?_, ?_, hroomy.exported, ?_, n, ?_, ?_, ?_, ?_⟩ hno
    · rw [hn, hdata]
      exact hfits.1
    · rw [toInt_usizeAsU32 hi32]
      exact Int.natCast_nonneg _
    · rw [hn, haddr]
      exact Nat.le_trans hbuf hroom
    · rw [hptr, hdata, MemoryManager.grown_map m hpos]
      exact AList.lookup_insert _
    · rw [hn, Nat.zero_add]
    · rw [hn, hptr]
      exact hfits.2.1
    · rw [hn, hptr, hdata, MemoryManager.grown_memory, List.length_append, List.length_replicate]
      exact Nat.le_refl _

/-- **A result that fits is stored.** -/
theorem store_answers {codec : Codec α} {data : α} (hs : Ready limits m s)
    (hsmall : Small limits m) (hroomy : Roomy room s) (hpos : 0 < m.memory.length)
    (henc : codec.encode data = .ok bytes) (hne : 0 < bytes.length) (hfits : m.Fits bytes.length)
    (hwork : ∀ s, Roomy room s → ∃ t, Returns (doWork (build.work site)) s () t)
    (hbuf : (build.buffer site).toNat + bytes.length ≤ room) :
    ∃ r t, Returns (store build site codec data) s r t := by
  have hhost := hsmall.host
  have hguest := hsmall.guest
  obtain ⟨s₁, hworked⟩ := hwork s hroomy
  obtain ⟨s₂, hstored, hs₂⟩ :=
    exec_store_roomy (doWork_returns hs hworked) (hworked.roomy hroomy) hbuf
  have hroomy₂ : Roomy room s₂ := (Returns.ofExec hstored).roomy (hworked.roomy hroomy)
  have hi32 : bytes.length ≤ i32Max := by
    have hsize := hs₂.bounded.size
    have hroom := hroomy₂.length
    omega
  have hnat : (usizeAsU32 bytes.length).toNat = bytes.length :=
    usizeAsU32_toNat_of_i32 hi32
  have hptr : i32AsUsize (usizeAsU32 m.memory.length) = m.memory.length :=
    i32AsUsize_usizeAsU32 hhost
  have hnull : usizeAsU32 m.memory.length ≠ 0 := by
    intro hz
    rw [hz, show i32AsUsize 0 = 0 from rfl] at hptr
    omega
  have halloc : exec (.alloc (usizeAsU32 bytes.length)) s₂
      = (.ok (usizeAsU32 m.memory.length), { s₂ with data := m.grown bytes.length }) := by
    rcases Env.alloc_cases s₂.toCaller (usizeAsU32 bytes.length) with ⟨-, hok⟩ | ⟨hno, -⟩
    · rw [exec, hok, hnat, hs₂.data]
    · rw [hnat, hs₂.data] at hno
      exact absurd hfits hno
  obtain ⟨t, hsent⟩ := exec_writeBytes_roomy (s := { s₂ with data := m.grown bytes.length }) rfl
    hsmall hfits hne hi32 ⟨hroomy₂.exported, hroomy₂.length⟩ hs₂.bounded.size hbuf
  refine ⟨.ok (usizeAsU32 m.memory.length), t, ?_⟩
  unfold store serialize
  rw [henc]
  refine hworked.andThen ((Returns.ofExec hstored).andThen ?_)
  rw [validateSerializedLen_ok hi32]
  refine (Returns.ofExec halloc).andThen ?_
  rw [if_neg hnull]
  exact (Returns.ofExec hsent).andThen rfl

variable (contract)

theorem readState_answers (hs : Ready limits m s) (hsmall : Small limits m)
    (hroomy : Roomy room s) (hstage : Stageable limits b₁ b₂ b₃) (hin : HoldsInputs m b₁ b₂ b₃)
    (hhouse : build.Houses room b₁ b₂ b₃ bytes) :
    ∃ t, Returns (readState build contract (usizeAsU32 0) (usizeAsU32 (4 + b₁.length))) s
      (referenceState contract b₁ b₂) t := by
  obtain ⟨s₁, hfirst⟩ := readAndParse_answers contract.state.fromSlice "State" hs hsmall hroomy
    hin.state hin.stateLen hstage.state.1 (hhouse.work .state) hhouse.state
  obtain ⟨-, hs₁⟩ := readAndParse_returns hs hsmall hin.state hin.stateLen hfirst
  unfold referenceState
  cases hparse : parseInput contract.state.fromSlice "State" b₁ with
  | ok state =>
      rw [hparse] at hfirst
      exact ⟨s₁, hfirst.andThen rfl⟩
  | error e =>
      rw [hparse] at hfirst
      obtain ⟨s₂, hsecond⟩ := readAndParse_answers contract.state.fromSlice "Init State" hs₁ hsmall
        (hfirst.roomy hroomy) hin.initState hin.initStateLen hstage.initState.1
        (hhouse.work .initState) hhouse.initState
      simp only
      cases hparse₂ : parseInput contract.state.fromSlice "Init State" b₂ with
      | ok state =>
          rw [hparse₂] at hsecond
          exact ⟨s₂, hfirst.andThen (hsecond.andThen rfl)⟩
      | error e₂ =>
          rw [hparse₂] at hsecond
          exact ⟨s₂, hfirst.andThen (hsecond.andThen rfl)⟩

theorem tryExecuteContract_answers {isOwner : Bool} (hs : Ready limits m s)
    (hsmall : Small limits m) (hroomy : Roomy room s) (hpos : 0 < m.memory.length)
    (hstage : Stageable limits b₁ b₂ b₃) (hin : HoldsInputs m b₁ b₂ b₃)
    (hhouse : build.Houses room b₁ b₂ b₃ bytes)
    (henc : ∀ outcome, tryReference contract b₁ b₂ b₃ isOwner = .ok outcome →
      ContractResultData.codec.encode outcome = .ok bytes)
    (hne : 0 < bytes.length) (hfits : m.Fits bytes.length) :
    ∃ r t, Returns (tryExecuteContract build contract (usizeAsU32 0) (usizeAsU32 (4 + b₁.length))
      (usizeAsU32 (4 + b₁.length + (4 + b₂.length))) (if isOwner then 1 else 0)) s r t := by
  obtain ⟨s₁, hstate⟩ := readState_answers contract hs hsmall hroomy hstage hin hhouse
  obtain ⟨-, hs₁⟩ := readState_returns hs hsmall hin hstate
  unfold tryReference at henc
  cases href : referenceState contract b₁ b₂ with
  | error e =>
      rw [href] at hstate
      exact ⟨.error e, s₁, hstate.andThen rfl⟩
  | ok state =>
      rw [href] at hstate henc
      obtain ⟨s₂, hevent⟩ := readAndParse_answers contract.event.fromSlice "Event" hs₁ hsmall
        (hstate.roomy hroomy) hin.event hin.eventLen hstage.event.1 (hhouse.work .event)
        hhouse.event
      obtain ⟨-, hs₂⟩ := readAndParse_returns hs₁ hsmall hin.event hin.eventLen hevent
      have hroomy₂ := hevent.roomy (hstate.roomy hroomy)
      cases hparse : parseInput contract.event.fromSlice "Event" b₃ with
      | error e =>
          rw [hparse] at hevent
          exact ⟨.error e, s₂, hstate.andThen (hevent.andThen rfl)⟩
      | ok event =>
          rw [hparse] at hevent henc
          obtain ⟨s₃, hwork⟩ := hhouse.work .callback s₂ hroomy₂
          have hs₃ : Ready limits m s₃ := doWork_returns hs₂ hwork
          cases hser : contract.state.toVec
              (contract.callback { event, isOwner } (.new state)).state with
          | error e =>
              refine ⟨.error errFinalStateSer, s₃, hstate.andThen (hevent.andThen
                (hwork.andThen ?_))⟩
              simp only [owner_flag, contractResultData, hser]
              rfl
          | ok finalState =>
              simp only [hser] at henc
              obtain ⟨stored, t, hstored⟩ := store_answers hs₃ hsmall (hwork.roomy hroomy₂) hpos
                (henc _ rfl) hne hfits (hhouse.work .result) hhouse.result
              cases stored with
              | error e =>
                  refine ⟨.error errReturnResult, t, hstate.andThen (hevent.andThen
                    (hwork.andThen ?_))⟩
                  simp only [owner_flag, contractResultData, hser]
                  exact hstored.andThen rfl
              | ok ptr =>
                  refine ⟨.ok ptr, t, hstate.andThen (hevent.andThen (hwork.andThen ?_))⟩
                  simp only [owner_flag, contractResultData, hser]
                  exact hstored.andThen rfl

/-- **A contract with room for its result returns.** -/
theorem executeContract_answers {isOwner : Bool} (hs : Ready limits m s)
    (hsmall : Small limits m) (hroomy : Roomy room s) (hpos : 0 < m.memory.length)
    (hstage : Stageable limits b₁ b₂ b₃) (hin : HoldsInputs m b₁ b₂ b₃)
    (hhouse : build.Houses room b₁ b₂ b₃ bytes)
    (henc : ContractResultData.codec.encode (reference contract b₁ b₂ b₃ isOwner) = .ok bytes)
    (hfits : m.Fits bytes.length) :
    ∃ ptr t, Returns (executeContract build contract (usizeAsU32 0) (usizeAsU32 (4 + b₁.length))
      (usizeAsU32 (4 + b₁.length + (4 + b₂.length))) (if isOwner then 1 else 0)) s ptr t := by
  have hne := encode_result_pos henc
  have htry : ∀ outcome, tryReference contract b₁ b₂ b₃ isOwner = .ok outcome →
      ContractResultData.codec.encode outcome = .ok bytes := by
    intro outcome houtcome
    rw [reference, houtcome] at henc
    exact henc
  obtain ⟨r, s₁, hran⟩ := tryExecuteContract_answers contract hs hsmall hroomy hpos hstage hin
    hhouse htry hne hfits
  cases r with
  | ok ptr => exact ⟨ptr, s₁, hran.andThen rfl⟩
  | error message =>
      have hbegins := tryExecuteContract_begins hs hsmall hin hran
      cases href : tryReference contract b₁ b₂ b₃ isOwner with
      | ok outcome =>
          -- The result was stored, so there is no failure to store.
          rw [href] at hbegins
          obtain ⟨s', stored, hs', hstore, hr⟩ := hbegins
          obtain ⟨hstored, -, -⟩ := store_returns hs' hsmall hpos (htry outcome href) hne hstore
          rw [hstored] at hr
          simp at hr
      | error e =>
          rw [href] at hbegins
          rw [reference, href] at henc
          obtain ⟨he, hs₁⟩ := hbegins
          rw [Except.error.injEq] at he
          rw [← he] at henc
          obtain ⟨stored, t, hstored⟩ := store_answers hs₁ hsmall (hran.roomy hroomy) hpos henc hne
            hfits (hhouse.work .failure) hhouse.failure
          cases stored with
          | error e => exact ⟨0, t, hran.andThen (hstored.andThen rfl)⟩
          | ok ptr => exact ⟨ptr, t, hran.andThen (hstored.andThen rfl)⟩

end Answers

/-! ### A whole call -/

section Whole

variable {V State Event : Type} {ext : Externals V} {build : Build}
  {contract : Contract State Event} {shell : Shell} {spec : ResolvedMachineSpec}
  {state initState event : V} {isOwner : Bool} {b₁ b₂ b₃ bytes memory : Bytes} {room w : Nat}

/-- With more fuel than requests to make, a call does what the entry point does. -/
theorem call_eval {p : Guest Word} {n fuel : Nat} (h : p.Sized n) (hfuel : n < fuel) (s : Store) :
    ((contract.module build shell).call fuel p s).outcome
      = (Prog.eval WasmError.trap exec p s).1.map fun r => (r, .ret r) :=
  h.run (WasmError.trap .outOfFuel) hfuel s

/-- **A contract with fuel for the compiler's work does not run dry.** -/
theorem callMain_not_dry {inst : Instance (Guest Word)} {r : GuestRun (Guest Word)}
    {limits : WasmLimits} (h₁ : Serializes ext state b₁) (h₂ : Serializes ext initState b₂)
    (h₃ : Serializes ext event b₃)
    (hcall : callMain ext limits (contract.module build shell) state initState event isOwner
      = .ok (inst, r))
    (hwork : build.WorkAtMost w) (hfuel : 6 * w + 18 < maxFuel) :
    (∃ x, r.outcome = .ok x) ∨
      ∃ e : WasmError, r.outcome = .error e ∧ e.downcastTrap ≠ some .outOfFuel := by
  obtain ⟨-, s, -, rfl⟩ := callMain_contract h₁ h₂ h₃ hcall
  have hsized : (executeContract build contract (usizeAsU32 0) (usizeAsU32 (4 + b₁.length))
      (usizeAsU32 (4 + b₁.length + (4 + b₂.length))) (if isOwner then 1 else 0)).Sized
        (6 * w + 18) := executeContract_sized hwork _ _ _ _
  rw [call_eval hsized hfuel]
  rcases heval : Prog.eval WasmError.trap exec (executeContract build contract (usizeAsU32 0)
    (usizeAsU32 (4 + b₁.length)) (usizeAsU32 (4 + b₁.length + (4 + b₂.length)))
    (if isOwner then 1 else 0)) s with ⟨e | ptr, t⟩
  · obtain ⟨op, s', hrefused⟩ := hsized.refused heval
    exact Or.inr ⟨e, rfl, (exec_error hrefused).notDry⟩
  · exact Or.inl ⟨_, rfl⟩

/-- A contract whose inputs are staged and whose module is admitted is called. -/
theorem callMain_called {limits : WasmLimits} (isOwner : Bool) (h₁ : Serializes ext state b₁)
    (h₂ : Serializes ext initState b₂) (h₃ : Serializes ext event b₃)
    (hstage : Stageable limits b₁ b₂ b₃)
    (hadm : (contract.module build shell).Admitted (MemoryManager.fromLimits limits).storeLimits)
    (hdata : initData shell.data (contract.module build shell).initialMemory = .ok memory) :
    ∃ inst, callMain ext limits (contract.module build shell) state initState event isOwner
      = .ok (inst, (contract.module build shell).call maxFuel
          (executeContract build contract (usizeAsU32 0) (usizeAsU32 (4 + b₁.length))
            (usizeAsU32 (4 + b₁.length + (4 + b₂.length))) (if isOwner then 1 else 0))
          ((contract.module build shell).freshStore (stagedContext limits b₁ b₂ b₃).context
            memory)) := by
  have hlinked : (contract.module build shell).Linked := by
    show externf.find? (fun i => !i.linked) = none
    decide
  have hadm' : (contract.module build shell).Admitted
      (stagedContext limits b₁ b₂ b₃).context.storeLimits := hadm
  unfold callMain
  rw [generateExecutionContext_fits h₁ h₂ h₃ hstage]
  simp only
  rw [WasmModule.instantiate_admitted hlinked hadm' hdata, WasmModule.started_none rfl]
  exact ⟨_, rfl⟩

/-- **With room for its result and fuel for the compiler's work, it returns.** -/
theorem callMain_returns (h₁ : Serializes ext state b₁) (h₂ : Serializes ext initState b₂)
    (h₃ : Serializes ext event b₃) (hstage : Stageable spec.limits b₁ b₂ b₃)
    (hadm : (contract.module build shell).Admitted
      (MemoryManager.fromLimits spec.limits).storeLimits)
    (hdata : initData shell.data (contract.module build shell).initialMemory = .ok memory)
    (hexport : shell.memoryExport = true) (hroom : room ≤ memory.length)
    (hhouse : build.Houses room b₁ b₂ b₃ bytes) (hwork : build.WorkAtMost w)
    (hfuel : 6 * w + 18 < maxFuel)
    (henc : ContractResultData.codec.encode (reference contract b₁ b₂ b₃ isOwner) = .ok bytes)
    (hfits : (stagedContext spec.limits b₁ b₂ b₃).context.Fits bytes.length) :
    ∃ inst r x, callMain ext spec.limits (contract.module build shell) state initState event
      isOwner = .ok (inst, r) ∧ r.outcome = .ok x := by
  obtain ⟨inst, hcall⟩ := callMain_called isOwner h₁ h₂ h₃ hstage hadm hdata
  obtain ⟨ptr, t, hret⟩ := executeContract_answers contract (freshStore_ready hadm hdata)
    (stagedContext_small hstage) ⟨hexport, hroom⟩ (stagedContext_pos spec.limits) hstage
    (stagedContext_holds hstage) hhouse henc hfits
  refine ⟨inst, _, (ptr, .ret ptr), hcall, ?_⟩
  rw [call_eval (executeContract_sized hwork _ _ _ _) hfuel]
  rw [show Prog.eval WasmError.trap exec _ _ = (.ok ptr, t) from hret]
  rfl

end Whole

end Sdk

end Ave
