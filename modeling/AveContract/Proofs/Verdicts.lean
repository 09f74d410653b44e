/-
What a host is given, whatever it answers.

`Proofs/Contract.lean` runs the entry points against the host they were written
for.  Here nothing is known of the host.  What is left is what the guest's own code
sees to, and that is the shape of its verdict: one result is delivered or none, a
null pointer says that there is none, and an acceptance is the callback's own.

The entry points have seven ways out and two places to store at.  The two halves of
`Sdk/Hosts.lean` take that apart.  What is prepared is judged once, by the calls it
took to prepare it (`Sound`); what becomes of it is one of three lists of attempts
(`Tried`), and the verdict is read off them.  The second attempt is always a failure
with a message, so whatever happened to the first one, no acceptance survives it.
-/
import AveContract.Proofs.Completion
import AveContract.Sdk.Hosts

namespace Ave

open Slice Borsh Metered

/-! ### Two host functions and the guest's memory -/

/-- `alloc` and `write_bytes` leave the guest's memory alone. -/
theorem Env.alloc_memory (caller : Caller) (len : Word) :
    (Env.alloc caller len).2.memory = caller.memory := by
  unfold Env.alloc
  split
  · rfl
  · rfl

theorem Env.writeBytes_memory (caller : Caller) (dstPtr srcPtr len : Word) :
    (Env.writeBytes caller dstPtr srcPtr len).2.memory = caller.memory := by
  unfold Env.writeBytes
  split
  · rfl
  · split
    · rfl
    · split
      · rfl
      · rfl

namespace Sdk

/-! ### The entry points in two halves -/

section Halves

variable {R State Event : Type} (build : Build) (contract : Contract State Event)

/-- The first store of an entry point, if it comes to that. -/
def storeFirst (kind : Outcome R) (unreturned : String) : Except String R → Guest (Except String Word)
  | .error e => pure (.error e)
  | .ok result => do
      match ← store build .result kind.codec result with
      | .error _ => pure (.error unreturned)
      | .ok ptr => pure (.ok ptr)

/-- The store of a failure, where nothing else was stored. -/
def storeFailure (kind : Outcome R) : Except String Word → Guest Word
  | .ok ptr => pure ptr
  | .error e => do
      match ← store build .failure kind.codec (kind.failed e) with
      | .ok ptr => pure ptr
      | .error _ => pure 0

/-- The two stores are the delivery, when only the pointer is kept. -/
theorem storeFirst_storeFailure (kind : Outcome R) (unreturned : String) (p : Except String R) :
    storeFirst build kind unreturned p >>= storeFailure build kind =
      deliver build kind unreturned p >>= fun tries => pure (Attempt.pointer tries) := by
  have hfailure : ∀ (e : String) (before : List (Attempt R)),
      (∀ t, Attempt.pointer (before ++ [t]) = Attempt.pointer [t]) →
      storeFailure build kind (.error e) =
        attempt build .failure kind (kind.failed e) >>= fun t =>
          pure (Attempt.pointer (before ++ [t])) := by
    intro e before hbefore
    rw [storeFailure, attempt, Prog.bind_assoc]
    refine congrArg _ (funext fun stored => ?_)
    show _ = pure (Attempt.pointer (before ++ [⟨kind.failed e, stored⟩]))
    rw [hbefore]
    cases stored with
    | ok ptr => rfl
    | error e => rfl
  cases p with
  | error e =>
      rw [deliver, Prog.bind_assoc]
      exact hfailure e [] fun _ => rfl
  | ok result =>
      rw [deliver, storeFirst, attempt, Prog.bind_assoc, Prog.bind_assoc, Prog.bind_assoc]
      refine congrArg _ (funext fun stored => ?_)
      cases stored with
      | ok ptr => rfl
      | error e =>
          show storeFailure build kind (.error unreturned)
            = (attempt build .failure kind (kind.failed unreturned) >>= fun second =>
                pure [⟨result, .error e⟩, second]) >>= fun tries => pure (Attempt.pointer tries)
          rw [Prog.bind_assoc]
          exact hfailure unreturned [⟨result, .error e⟩] fun _ => rfl

theorem tryExecuteContract_eq (statePtr initStatePtr eventPtr isOwner : Word) :
    tryExecuteContract build contract statePtr initStatePtr eventPtr isOwner =
      prepareExecution build contract statePtr initStatePtr eventPtr isOwner >>=
        storeFirst build executionOutcome errReturnResult := by
  rw [tryExecuteContract, prepareExecution, Prog.bind_assoc]
  refine congrArg _ (funext fun state => ?_)
  cases state with
  | error e => rfl
  | ok state =>
      simp only [Prog.bind_assoc]
      refine congrArg _ (funext fun event => ?_)
      cases event with
      | error e => rfl
      | ok event =>
          simp only [Prog.bind_assoc]
          refine congrArg _ (funext fun _ => ?_)
          show _ = storeFirst build executionOutcome errReturnResult (contractResultData contract _)
          cases contractResultData contract
              (contract.callback { event, isOwner := isOwner == ownerFlag } (.new state)) with
          | error e => rfl
          | ok result => rfl

theorem tryCheckInitData_eq (statePtr : Word) :
    tryCheckInitData build contract statePtr =
      prepareCheck build contract statePtr >>= storeFirst build checkOutcome errReturnInitResult := by
  rw [tryCheckInitData, prepareCheck, Prog.bind_assoc]
  refine congrArg _ (funext fun state => ?_)
  cases state with
  | error e => rfl
  | ok state =>
      simp only [Prog.bind_assoc]
      refine congrArg _ (funext fun _ => ?_)
      cases hcheck : (contract.check state .default).success with
      | true => rfl
      | false => rfl

/-- **`executeContract` prepares and delivers.** -/
theorem executeContract_eq (statePtr initStatePtr eventPtr isOwner : Word) :
    executeContract build contract statePtr initStatePtr eventPtr isOwner =
      executeAttempts build contract statePtr initStatePtr eventPtr isOwner >>= fun tries =>
        pure (Attempt.pointer tries) := by
  have htwo : executeContract build contract statePtr initStatePtr eventPtr isOwner =
      tryExecuteContract build contract statePtr initStatePtr eventPtr isOwner >>=
        storeFailure build executionOutcome := rfl
  rw [htwo, tryExecuteContract_eq, executeAttempts, Prog.bind_assoc, Prog.bind_assoc]
  exact congrArg _ (funext fun p => storeFirst_storeFailure build _ _ p)

/-- **`checkInitData` prepares and delivers.** -/
theorem checkInitData_eq (statePtr : Word) :
    checkInitData build contract statePtr =
      checkAttempts build contract statePtr >>= fun tries => pure (Attempt.pointer tries) := by
  have htwo : checkInitData build contract statePtr =
      tryCheckInitData build contract statePtr >>= storeFailure build checkOutcome := rfl
  rw [htwo, tryCheckInitData_eq, checkAttempts, Prog.bind_assoc, Prog.bind_assoc]
  exact congrArg _ (funext fun p => storeFirst_storeFailure build _ _ p)

end Halves

/-! ### The store is one of these hosts -/

/-- Every request is answered alike, and leaves the same store behind. -/
theorem exec_store (op : Instr) (w : World Store) :
    exec op w.store = ((storeHost.handle op w).1, (storeHost.handle op w).2.store) := by
  cases op with
  | compute => rfl
  | pointerLen pointer => rfl
  | load addr len =>
      rw [exec, Host.handle]
      by_cases h : addr + len ≤ w.memory.length
      · rw [if_pos h, if_pos (show addr + len ≤ w.store.memory.length from h)]
        rfl
      · rw [if_neg h, if_neg (show ¬addr + len ≤ w.store.memory.length from h)]
  | store addr bytes =>
      rw [exec, Host.handle]
      by_cases h : addr + bytes.length ≤ w.memory.length
      · rw [if_pos h, if_pos (show addr + bytes.length ≤ w.store.memory.length from h)]
        rfl
      · rw [if_neg h, if_neg (show ¬addr + bytes.length ≤ w.store.memory.length from h)]
  | alloc len =>
      have hhost : storeHost.alloc len w.memory w.host = exec (.alloc len) w.store := rfl
      have hmem : (exec (.alloc len) w.store).2.memory = w.memory := Env.alloc_memory _ len
      rw [Host.handle, hhost]
      rcases hex : exec (.alloc len) w.store with ⟨_ | ptr, t⟩
      · rw [exec_refused hex]
        rfl
      · rw [hex] at hmem
        rw [World.store, ← hmem]
  | writeBytes dstPtr srcPtr len =>
      have hhost : storeHost.writeBytes dstPtr srcPtr len w.memory w.host
          = exec (.writeBytes dstPtr srcPtr len) w.store := rfl
      have hmem : (exec (.writeBytes dstPtr srcPtr len) w.store).2.memory = w.memory :=
        Env.writeBytes_memory _ dstPtr srcPtr len
      rw [Host.handle, hhost]
      rcases hex : exec (.writeBytes dstPtr srcPtr len) w.store with ⟨_ | u, t⟩
      · rw [exec_refused hex]
        rfl
      · rw [hex] at hmem
        rw [World.store, ← hmem]
  | readBytes srcPtr dstPtr len =>
      have hhost : storeHost.readBytes srcPtr dstPtr len w.memory w.host
          = withMemory (exec (.readBytes srcPtr dstPtr len) w.store) := rfl
      rw [Host.handle, hhost]
      rcases hex : exec (.readBytes srcPtr dstPtr len) w.store with ⟨_ | u, t⟩
      · rw [exec_refused hex]
        rfl
      · rfl
  | memoryGrow delta =>
      have hhost : storeHost.memoryGrow delta w.memory w.host
          = withMemory (exec (.memoryGrow delta) w.store) := rfl
      rw [Host.handle, hhost]
      rcases hex : exec (.memoryGrow delta) w.store with ⟨_ | pages, t⟩
      · rw [exec_refused hex]
        rfl
      · rfl

/-- **A program on the store is a program in such a world.** -/
theorem eval_store {α : Type} (p : Guest α) (w : World Store) :
    Prog.eval WasmError.trap exec p w.store =
      ((Prog.eval WasmError.trap storeHost.handle p w).1,
        (Prog.eval WasmError.trap storeHost.handle p w).2.store) :=
  Prog.eval_view exec_store p w

/-! ### Pieces under any host -/

/-- The guest's piece `p` ran from `w` to `w'` and gave `a`. -/
def Host.Gives {H α : Type} (host : Host H) (p : Guest α) (w : World H) (a : α) (w' : World H) :
    Prop :=
  Prog.eval WasmError.trap host.handle p w = (.ok a, w')

section Pieces

variable {H α β : Type} {host : Host H} {w w' : World H}

theorem Host.Gives.bind {p : Guest α} {f : α → Guest β} {b : β} (h : host.Gives (p >>= f) w b w') :
    ∃ a v, host.Gives p w a v ∧ host.Gives (f a) v b w' :=
  Prog.eval_bind_ok h

theorem Host.Gives.pure {a b : α} (h : host.Gives (pure a) w b w') : b = a ∧ w' = w := by
  obtain ⟨ha, hw⟩ := Prod.mk.inj h
  exact ⟨(Except.ok.inj ha).symm, hw.symm⟩

theorem Host.Gives.request {op : Instr} {a : op.Answer} (h : host.Gives (Prog.request op) w a w') :
    host.handle op w = (.ok a, w') := by
  have heval : Prog.eval WasmError.trap host.handle (Prog.request op) w = (.ok a, w') := h
  rwa [Prog.eval_request] at heval

end Pieces

/-! ### What an answered request does -/

section Answered

variable {H : Type} {host : Host H} {w w' : World H}

theorem Host.load_ok {addr len : Nat} {bytes : Bytes}
    (h : host.handle (.load addr len) w = (.ok bytes, w')) :
    bytes = slice w.memory addr len ∧ w' = w := by
  rw [Host.handle] at h
  split at h
  · obtain ⟨hb, hw⟩ := Prod.mk.inj h
    exact ⟨(Except.ok.inj hb).symm, hw.symm⟩
  · simp at h

theorem Host.store_ok {addr : Nat} {bytes : Bytes} {u : Unit}
    (h : host.handle (.store addr bytes) w = (.ok u, w')) :
    addr + bytes.length ≤ w.memory.length ∧ w' = { w with memory := patch w.memory addr bytes } := by
  rw [Host.handle] at h
  split at h
  · rename_i hin
    exact ⟨hin, (Prod.mk.inj h).2.symm⟩
  · simp at h

theorem Host.memoryGrow_ok {delta : Nat} {pages : Int}
    (h : host.handle (.memoryGrow delta) w = (.ok pages, w')) : w'.calls = w.calls := by
  rw [Host.handle] at h
  split at h
  · simp at h
  · obtain rfl := (Prod.mk.inj h).2
    rfl

theorem Host.pointerLen_ok {pointer len : Word}
    (h : host.handle (.pointerLen pointer) w = (.ok len, w')) : w'.calls = w.calls := by
  rw [Host.handle] at h
  split at h
  · simp at h
  · obtain rfl := (Prod.mk.inj h).2
    rfl

theorem Host.alloc_ok {len ptr : Word} (h : host.handle (.alloc len) w = (.ok ptr, w')) :
    w'.memory = w.memory ∧ w'.calls = w.calls ++ [.allocated len ptr] := by
  rw [Host.handle] at h
  split at h
  · simp at h
  · obtain ⟨hptr, rfl⟩ := Prod.mk.inj h
    rw [Except.ok.inj hptr]
    exact ⟨rfl, rfl⟩

/-- Whatever the host wrote, what is in the buffer is what counts as read. -/
theorem Host.readBytes_ok {srcPtr dstPtr len : Word} {u : Unit}
    (h : host.handle (.readBytes srcPtr dstPtr len) w = (.ok u, w')) :
    w'.calls = w.calls ++ [.read srcPtr (slice w'.memory dstPtr.toNat len.toNat)] := by
  rw [Host.handle] at h
  split at h
  · simp at h
  · obtain rfl := (Prod.mk.inj h).2
    rfl

theorem Host.writeBytes_ok {dstPtr srcPtr len : Word} {u : Unit}
    (h : host.handle (.writeBytes dstPtr srcPtr len) w = (.ok u, w')) :
    w'.calls = w.calls ++ [.written dstPtr (slice w.memory srcPtr.toNat len.toNat)] := by
  rw [Host.handle] at h
  split at h
  · simp at h
  · obtain rfl := (Prod.mk.inj h).2
    rfl

/-- What the guest does on its own is no call. -/
theorem local_calls {l : Local} {a : l.instr.Answer} (h : host.handle l.instr w = (.ok a, w')) :
    w'.calls = w.calls := by
  cases l with
  | compute =>
      obtain rfl := (Prod.mk.inj h).2
      rfl
  | load addr len => rw [(Host.load_ok h).2]
  | store addr bytes => rw [(Host.store_ok h).2]
  | memoryGrow delta => exact Host.memoryGrow_ok h

theorem doWork_calls : ∀ (work : List Local) {w : World H} {u : Unit},
    host.Gives (doWork work) w u w' → w'.calls = w.calls := by
  intro work
  induction work with
  | nil =>
      intro w u h
      rw [h.pure.2]
  | cons l rest ih =>
      intro w u h
      obtain ⟨a, v, hl, hrest⟩ := Host.Gives.bind (p := Prog.request l.instr) h
      rw [ih hrest, local_calls hl.request]

end Answered
/-! ### What is read -/

/-- The host gave bytes for `ptr` that are a payload, whose JSON is `value`. -/
def Parsed {T : Type} (fromSlice : Bytes → Except String T) (calls : List HostCall) (ptr : Word)
    (value : T) : Prop :=
  ∃ bytes data, HostCall.read ptr bytes ∈ calls ∧
    ContractData.codec.tryFromSlice bytes = .ok data ∧ fromSlice data.bytes = .ok value

theorem Parsed.mono {T : Type} {fromSlice : Bytes → Except String T} {calls calls' : List HostCall}
    {ptr : Word} {value : T} (h : Parsed fromSlice calls ptr value) (hsub : calls ⊆ calls') :
    Parsed fromSlice calls' ptr value := by
  obtain ⟨bytes, data, hmem, hdata, hvalue⟩ := h
  exact ⟨bytes, data, hsub hmem, hdata, hvalue⟩

/-- A value is good, and a failure has a message. -/
def Explained {α : Type} (Good : α → Prop) : Except String α → Prop
  | .error e => e ≠ ""
  | .ok value => Good value

/-- The calls that were made are reads, and this is what came of them. -/
def Reads {H α : Type} (w w' : World H) (a : Except String α) (Good : List HostCall → α → Prop) :
    Prop :=
  ∃ reads, w'.calls = w.calls ++ reads ∧ (∀ c ∈ reads, ∃ ptr bytes, c = .read ptr bytes) ∧
    Explained (Good reads) a

section Reading

variable {H State Event T : Type} {host : Host H} {build : Build} {contract : Contract State Event}
  {w w' : World H}

/-- A length that passed the check is a length the guest's words can hold. -/
theorem validateHostLen_le {len : Word} {n : Nat} (h : validateHostLen len = .ok n) :
    n ≤ 10000000 := by
  unfold validateHostLen maxDataSize at h
  split at h
  · simp at h
  · split at h
    · simp at h
    · rename_i hle hneg
      obtain rfl := Except.ok.inj h
      have hmsb : len.toInt = len.toNat := by
        rw [BitVec.toInt_eq_toNat_cond] at hneg ⊢
        split
        · rfl
        · rename_i hbig
          rw [if_neg hbig] at hneg
          have hlt := len.isLt
          omega
      omega

/-- **A read is one call of the host, or none.** -/
theorem getFromContext_gives {site : Site} {pointer : Word} {r : Except Error Bytes}
    (h : host.Gives (getFromContext build site pointer) w r w') :
    (∃ e, r = .error e ∧ w'.calls = w.calls) ∨
      ∃ bytes, r = .ok bytes ∧ w'.calls = w.calls ++ [.read pointer bytes] := by
  unfold getFromContext at h
  obtain ⟨hostLen, w₁, hreq, h⟩ := h.bind
  have hcalls₁ : w₁.calls = w.calls := Host.pointerLen_ok hreq.request
  cases hvalid : validateHostLen hostLen with
  | error e =>
      rw [hvalid] at h
      obtain ⟨rfl, rfl⟩ := h.pure
      exact Or.inl ⟨e, rfl, hcalls₁⟩
  | ok len =>
      rw [hvalid] at h
      have hsmall := validateHostLen_le hvalid
      have hlen : (usizeAsU32 len).toNat = len := usizeAsU32_toNat (by unfold u32Max; omega)
      obtain ⟨u₂, w₂, hwork, h⟩ := h.bind
      obtain ⟨u₃, w₃, hzero, h⟩ := h.bind
      obtain ⟨u₄, w₄, hread, h⟩ := h.bind
      obtain ⟨data, w₅, hload, h⟩ := h.bind
      obtain ⟨rfl, rfl⟩ := h.pure
      have hcalls₃ : w₃.calls = w.calls := by
        rw [(Host.store_ok hzero.request).2, doWork_calls _ hwork, hcalls₁]
      have hcalls₄ := Host.readBytes_ok hread.request
      obtain ⟨hdata, rfl⟩ := Host.load_ok hload.request
      refine Or.inr ⟨data, rfl, ?_⟩
      rw [hcalls₄, hcalls₃, hdata, hlen]

theorem append_ne_empty {s : String} (h : s ≠ "") (t : String) : s ++ t ≠ "" := fun hnil =>
  h (String.append_eq_empty_iff.mp hnil).1

/-- The messages of a failed read begin with what failed. -/
theorem message_ne_empty {a : String} (h : a ≠ "") (b c d : String) : a ++ b ++ c ++ d ≠ "" :=
  append_ne_empty (append_ne_empty (append_ne_empty h b) c) d

/-- **What was read is a value that the host's bytes spell, or a message.** -/
theorem readAndParse_gives {site : Site} {fromSlice : Bytes → Except String T} {ptr : Word}
    {name : String} {r : Except String T}
    (h : host.Gives (readAndParse build site fromSlice ptr name) w r w') :
    Reads w w' r fun reads value => Parsed fromSlice reads ptr value := by
  unfold readAndParse at h
  obtain ⟨bytes, w₁, hget, h⟩ := h.bind
  obtain ⟨rfl, rfl⟩ := h.pure
  rcases getFromContext_gives hget with ⟨e, rfl, hcalls⟩ | ⟨bytes, rfl, hcalls⟩
  · refine ⟨[], by rw [hcalls, List.append_nil], by simp, ?_⟩
    exact message_ne_empty (a := "Cannot read ") (by decide) _ _ _
  · refine ⟨[.read ptr bytes], hcalls, by simp, ?_⟩
    unfold parseRead deserialize
    cases hdata : ContractData.codec.tryFromSlice bytes with
    | error e =>
        simp only [hdata]
        exact message_ne_empty (a := "Cannot deserialize ") (by decide) _ _ _
    | ok data =>
        simp only [hdata]
        cases hvalue : fromSlice data.bytes with
        | error e => exact message_ne_empty (a := "Cannot parse ") (by decide) _ _ _
        | ok value => exact ⟨bytes, data, List.mem_singleton.mpr rfl, hdata, hvalue⟩

/-- The state that is read is one that either pointer was read for. -/
theorem readState_gives {statePtr initStatePtr : Word} {r : Except String State}
    (h : host.Gives (readState build contract statePtr initStatePtr) w r w') :
    Reads w w' r fun reads state =>
      Parsed contract.state.fromSlice reads statePtr state ∨
        Parsed contract.state.fromSlice reads initStatePtr state := by
  unfold readState at h
  obtain ⟨first, w₁, hfirst, h⟩ := h.bind
  obtain ⟨reads₁, hcalls₁, honly₁, hgood₁⟩ := readAndParse_gives hfirst
  cases first with
  | ok state =>
      obtain ⟨rfl, rfl⟩ := h.pure
      exact ⟨reads₁, hcalls₁, honly₁, Or.inl hgood₁⟩
  | error e₁ =>
      obtain ⟨second, w₂, hsecond, h⟩ := h.bind
      obtain ⟨reads₂, hcalls₂, honly₂, hgood₂⟩ := readAndParse_gives hsecond
      have hcalls : w₂.calls = w.calls ++ (reads₁ ++ reads₂) := by
        rw [hcalls₂, hcalls₁, List.append_assoc]
      have honly := List.forall_mem_append.mpr ⟨honly₁, honly₂⟩
      cases second with
      | ok state =>
          obtain ⟨rfl, rfl⟩ := h.pure
          exact ⟨_, hcalls, honly, Or.inr (hgood₂.mono (List.subset_append_right _ _))⟩
      | error e₂ =>
          obtain ⟨rfl, rfl⟩ := h.pure
          exact ⟨_, hcalls, honly, append_ne_empty (append_ne_empty hgood₁ _) _⟩

end Reading
/-! ### What is prepared -/

/-- The inputs were read and parsed, the callback accepted them, and the state it left is the one
in the result. -/
def ExecutionAccepted {State Event : Type} (contract : Contract State Event)
    (statePtr initStatePtr eventPtr isOwner : Word) (calls : List HostCall)
    (r : ContractResultData) : Prop :=
  ∃ state event,
    (Parsed contract.state.fromSlice calls statePtr state ∨
      Parsed contract.state.fromSlice calls initStatePtr state) ∧
    Parsed contract.event.fromSlice calls eventPtr event ∧
    let left := contract.callback { event, isOwner := isOwner == ownerFlag } (.new state)
    left.success = true ∧ contract.state.toVec left.state = .ok r.finalState.bytes

/-- The state was read and parsed, and the callback accepted it. -/
def CheckAccepted {State Event : Type} (contract : Contract State Event) (statePtr : Word)
    (calls : List HostCall) (_ : ContractInitCheckData) : Prop :=
  ∃ state, Parsed contract.state.fromSlice calls statePtr state ∧
    (contract.check state .default).success = true

/-- A result that says it is a success exactly when it has no message, and is accepted then. -/
structure Sound {R : Type} (kind : Outcome R) (Accepted : List HostCall → R → Prop)
    (calls : List HostCall) (r : R) : Prop where
  exclusive : kind.success r = true ↔ kind.error r = ""
  accepted : kind.success r = true → Accepted calls r

section Preparing

variable {H State Event : Type} {host : Host H} {build : Build} {contract : Contract State Event}
  {w w' : World H}

theorem ExecutionAccepted.mono {statePtr initStatePtr eventPtr isOwner : Word}
    {calls calls' : List HostCall} {r : ContractResultData}
    (h : ExecutionAccepted contract statePtr initStatePtr eventPtr isOwner calls r)
    (hsub : calls ⊆ calls') :
    ExecutionAccepted contract statePtr initStatePtr eventPtr isOwner calls' r := by
  obtain ⟨state, event, hstate, hevent, hleft⟩ := h
  exact ⟨state, event, hstate.imp (·.mono hsub) (·.mono hsub), hevent.mono hsub, hleft⟩

theorem CheckAccepted.mono {statePtr : Word} {calls calls' : List HostCall}
    {r : ContractInitCheckData} (h : CheckAccepted contract statePtr calls r)
    (hsub : calls ⊆ calls') : CheckAccepted contract statePtr calls' r := by
  obtain ⟨state, hstate, hcheck⟩ := h
  exact ⟨state, hstate.mono hsub, hcheck⟩

/-- The callback's result is returned as it is, with a message just where it is a failure. -/
theorem contractResultData_ok {result : ContractResult State} {r : ContractResultData}
    (h : contractResultData contract result = .ok r) :
    r.success = result.success ∧ (r.success = true ↔ r.error = "") ∧
      contract.state.toVec result.state = .ok r.finalState.bytes := by
  unfold contractResultData at h
  cases hser : contract.state.toVec result.state with
  | error e =>
      rw [hser] at h
      simp at h
  | ok stateBytes =>
      rw [hser] at h
      obtain rfl := Except.ok.inj h
      refine ⟨rfl, ?_, rfl⟩
      cases hleft : result.success with
      | true => exact iff_of_true rfl rfl
      | false =>
          refine iff_of_false (by simp) ?_
          exact append_ne_empty (append_ne_empty (by decide : errEventRejected ≠ "") _) _

theorem contractResultData_error {result : ContractResult State} {e : String}
    (h : contractResultData contract result = .error e) : e ≠ "" := by
  unfold contractResultData at h
  split at h
  · obtain rfl := Except.error.inj h
    decide
  · simp at h

/-- **What an execution prepares is the callback's own verdict, or a message.** -/
theorem prepareExecution_gives {statePtr initStatePtr eventPtr isOwner : Word}
    {r : Except String ContractResultData}
    (h : host.Gives (prepareExecution build contract statePtr initStatePtr eventPtr isOwner) w r w') :
    Reads w w' r (Sound executionOutcome
      (ExecutionAccepted contract statePtr initStatePtr eventPtr isOwner)) := by
  unfold prepareExecution at h
  obtain ⟨state, w₁, hstate, h⟩ := h.bind
  obtain ⟨reads₁, hcalls₁, honly₁, hgood₁⟩ := readState_gives hstate
  cases state with
  | error e =>
      obtain ⟨rfl, rfl⟩ := h.pure
      exact ⟨reads₁, hcalls₁, honly₁, hgood₁⟩
  | ok state =>
      obtain ⟨event, w₂, hevent, h⟩ := h.bind
      obtain ⟨reads₂, hcalls₂, honly₂, hgood₂⟩ := readAndParse_gives hevent
      have hcalls : w₂.calls = w.calls ++ (reads₁ ++ reads₂) := by
        rw [hcalls₂, hcalls₁, List.append_assoc]
      have honly := List.forall_mem_append.mpr ⟨honly₁, honly₂⟩
      cases event with
      | error e =>
          obtain ⟨rfl, rfl⟩ := h.pure
          exact ⟨_, hcalls, honly, hgood₂⟩
      | ok event =>
          obtain ⟨u, w₃, hwork, h⟩ := h.bind
          obtain ⟨rfl, rfl⟩ := h.pure
          refine ⟨_, by rw [doWork_calls _ hwork, hcalls], honly, ?_⟩
          cases hleft : contractResultData contract (contract.callback
              { event, isOwner := isOwner == ownerFlag } (.new state)) with
          | error e => exact contractResultData_error hleft
          | ok r =>
              obtain ⟨hsuccess, hexclusive, hser⟩ := contractResultData_ok hleft
              have hstate₁ := hgood₁.imp (·.mono (List.subset_append_left reads₁ reads₂))
                (·.mono (List.subset_append_left reads₁ reads₂))
              have hevent₁ := hgood₂.mono (List.subset_append_right reads₁ reads₂)
              refine ⟨hexclusive, fun h => ⟨state, event, hstate₁, hevent₁, ?_, hser⟩⟩
              rw [← hsuccess]
              exact h

/-- **What a check prepares is the callback's own verdict, or a message.** -/
theorem prepareCheck_gives {statePtr : Word} {r : Except String ContractInitCheckData}
    (h : host.Gives (prepareCheck build contract statePtr) w r w') :
    Reads w w' r (Sound checkOutcome (CheckAccepted contract statePtr)) := by
  unfold prepareCheck at h
  obtain ⟨state, w₁, hstate, h⟩ := h.bind
  obtain ⟨reads, hcalls, honly, hgood⟩ := readAndParse_gives hstate
  cases state with
  | error e =>
      obtain ⟨rfl, rfl⟩ := h.pure
      exact ⟨reads, hcalls, honly, hgood⟩
  | ok state =>
      obtain ⟨u, w₂, hwork, h⟩ := h.bind
      have hcalls₂ : w₂.calls = w.calls ++ reads := by rw [doWork_calls _ hwork, hcalls]
      cases hcheck : (contract.check state .default).success with
      | true =>
          rw [if_pos hcheck] at h
          obtain ⟨rfl, rfl⟩ := h.pure
          exact ⟨reads, hcalls₂, honly, iff_of_true rfl rfl, fun _ => ⟨state, hgood, hcheck⟩⟩
      | false =>
          rw [if_neg (by simp [hcheck])] at h
          obtain ⟨rfl, rfl⟩ := h.pure
          refine ⟨reads, hcalls₂, honly, ?_⟩
          exact append_ne_empty (append_ne_empty (by decide : errInitRejected ≠ "") _) _

end Preparing
/-! ### What is stored -/

section Storing

variable {H R : Type} {host : Host H} {build : Build} {w w' : World H}

/-- **A store that is answered at all leaves one of three things with the host.** -/
theorem store_gives {site : Site} {codec : Codec R} {r : R} {x : Except Error Word}
    (h : host.Gives (store build site codec r) w x w') :
    ∃ cs, w'.calls = w.calls ++ cs ∧ Attempt.Leaves codec ⟨r, x⟩ cs := by
  unfold store serialize at h
  cases henc : codec.encode r with
  | error e =>
      rw [henc] at h
      obtain ⟨rfl, rfl⟩ := h.pure
      refine ⟨[], (List.append_nil _).symm, .unencoded fun bytes hbytes => ?_⟩
      rw [henc] at hbytes
      simp at hbytes
  | ok bytes =>
      rw [henc] at h
      obtain ⟨u₁, w₁, hwork, h⟩ := h.bind
      obtain ⟨u₂, w₂, hbuffer, h⟩ := h.bind
      obtain ⟨hin, hw₂⟩ := Host.store_ok hbuffer.request
      have hcalls₂ : w₂.calls = w.calls := by rw [hw₂, doWork_calls _ hwork]
      unfold validateSerializedLen at h
      by_cases hlong : bytes.length > i32Max
      · rw [if_pos hlong] at h
        obtain ⟨rfl, rfl⟩ := h.pure
        refine ⟨[], by rw [hcalls₂, List.append_nil], .unencoded fun bytes' hbytes => ?_⟩
        rw [henc] at hbytes
        obtain rfl := Except.ok.inj hbytes
        exact hlong
      · rw [if_neg hlong] at h
        obtain ⟨rawPtr, w₃, halloc, h⟩ := h.bind
        obtain ⟨hmem₃, hcalls₃⟩ := Host.alloc_ok halloc.request
        rw [hcalls₂] at hcalls₃
        by_cases hnull : rawPtr = 0
        · rw [if_pos hnull] at h
          obtain ⟨rfl, rfl⟩ := h.pure
          rw [hnull] at hcalls₃
          exact ⟨_, hcalls₃, .refused henc⟩
        · rw [if_neg hnull] at h
          obtain ⟨u₄, w₄, hwrite, h⟩ := h.bind
          obtain ⟨rfl, rfl⟩ := h.pure
          have hcalls₄ := Host.writeBytes_ok hwrite.request
          -- The host is given the buffer, and nothing has touched it since it was filled.
          have hgiven : slice w₃.memory (build.buffer site).toNat
              (usizeAsU32 bytes.length).toNat = bytes := by
            rw [hmem₃, hw₂, usizeAsU32_toNat_of_i32 (Nat.le_of_not_lt hlong)]
            exact slice_patch_self hin
          refine ⟨_, ?_, .stored hnull henc⟩
          rw [hcalls₄, hgiven, hcalls₃, List.append_assoc]
          rfl

/-- What a delivery tries, by what was prepared. -/
inductive Tried (kind : Outcome R) (unreturned : String) :
    Except String R → List (Attempt R) → Prop where
  | stored (r : R) (ptr : Word) : Tried kind unreturned (.ok r) [⟨r, .ok ptr⟩]
  | unstored (r : R) (e : Error) (x : Except Error Word) :
      Tried kind unreturned (.ok r) [⟨r, .error e⟩, ⟨kind.failed unreturned, x⟩]
  | failure (e : String) (x : Except Error Word) :
      Tried kind unreturned (.error e) [⟨kind.failed e, x⟩]

theorem attempt_gives {site : Site} {kind : Outcome R} {r : R} {t : Attempt R}
    (h : host.Gives (attempt build site kind r) w t w') :
    t.result = r ∧ ∃ cs, w'.calls = w.calls ++ cs ∧ t.Leaves kind.codec cs := by
  unfold attempt at h
  obtain ⟨x, w₁, hstore, h⟩ := h.bind
  obtain ⟨rfl, rfl⟩ := h.pure
  exact ⟨rfl, store_gives hstore⟩

/-- **A delivery makes its attempts one after the other.** -/
theorem deliver_gives {kind : Outcome R} {unreturned : String} {p : Except String R}
    {tries : List (Attempt R)} (h : host.Gives (deliver build kind unreturned p) w tries w') :
    Tried kind unreturned p tries ∧
      ∃ parts, w'.calls = w.calls ++ parts.flatten ∧
        List.Forall₂ (Attempt.Leaves kind.codec) tries parts := by
  cases p with
  | error e =>
      rw [deliver] at h
      obtain ⟨⟨result, x⟩, w₁, htry, hend⟩ := h.bind
      obtain ⟨rfl, cs, hcalls, hleft⟩ := attempt_gives htry
      obtain ⟨rfl, rfl⟩ := hend.pure
      exact ⟨.failure e x, [cs], by simpa using hcalls, .cons hleft .nil⟩
  | ok r =>
      rw [deliver] at h
      obtain ⟨⟨result, x⟩, w₁, htry, hrest⟩ := h.bind
      obtain ⟨rfl, cs, hcalls, hleft⟩ := attempt_gives htry
      cases x with
      | ok ptr =>
          obtain ⟨rfl, rfl⟩ := hrest.pure
          exact ⟨.stored result ptr, [cs], by simpa using hcalls, .cons hleft .nil⟩
      | error e =>
          obtain ⟨⟨result', x'⟩, w₂, htry', hend⟩ := hrest.bind
          obtain ⟨rfl, cs', hcalls', hleft'⟩ := attempt_gives htry'
          obtain ⟨rfl, rfl⟩ := hend.pure
          refine ⟨.unstored result e x', [cs, cs'], ?_, .cons hleft (.cons hleft' .nil)⟩
          simp [hcalls', hcalls]

end Storing

/-! ### Verdicts -/

/-- The results the host was given, each with where. -/
def delivered (calls : List HostCall) : List (Word × Bytes) :=
  calls.filterMap fun
    | .written ptr bytes => some (ptr, bytes)
    | _ => none

/-- What an entry point that returned `ptr` did, given what it tried and what went over the
boundary. -/
structure Verdict {R : Type} (kind : Outcome R) (Accepted : List HostCall → R → Prop)
    (tries : List (Attempt R)) (ptr : Word) (calls : List HostCall) : Prop where
  tried : tries ≠ []
  /-- The host was asked for inputs, and then for room for each attempt. -/
  asked : ∃ reads parts, calls = reads ++ parts.flatten ∧
    (∀ c ∈ reads, ∃ p bytes, c = .read p bytes) ∧
    List.Forall₂ (Attempt.Leaves kind.codec) tries parts
  null : ptr = 0 ↔ ∀ t ∈ tries, t.Failed
  nothing : ptr = 0 → delivered calls = []
  stored : ptr ≠ 0 → ∃ t ∈ tries, t.stored = .ok ptr ∧
    (∃ bytes, kind.codec.encode t.result = .ok bytes ∧ delivered calls = [(ptr, bytes)]) ∧
    Sound kind Accepted calls t.result ∧ (kind.success t.result = true → tries = [t])

section Verdicts

variable {R : Type} {kind : Outcome R}

theorem delivered_append (calls calls' : List HostCall) :
    delivered (calls ++ calls') = delivered calls ++ delivered calls' := List.filterMap_append

/-- Nothing is delivered by reading. -/
theorem delivered_reads {reads : List HostCall}
    (h : ∀ c ∈ reads, ∃ p bytes, c = HostCall.read p bytes) : delivered reads = [] := by
  refine List.filterMap_eq_nil_iff.mpr fun c hc => ?_
  obtain ⟨p, bytes, rfl⟩ := h c hc
  rfl

/-- Nothing is delivered by attempts that failed. -/
theorem delivered_failed {codec : Codec R} {tries : List (Attempt R)} {parts : List (List HostCall)}
    (h : List.Forall₂ (Attempt.Leaves codec) tries parts) :
    (∀ t ∈ tries, t.Failed) → delivered parts.flatten = [] := by
  induction h with
  | nil => intro _; rfl
  | @cons t cs tries parts hleft hrest ih =>
      intro hfailed
      obtain ⟨hhead, htail⟩ := List.forall_mem_cons.mp hfailed
      rw [List.flatten_cons, delivered_append, ih htail, List.append_nil]
      cases hleft with
      | unencoded h => rfl
      | refused h => rfl
      | stored hptr h => exact absurd rfl (hhead _)

/-- **The verdict of attempts of which only the last may have succeeded.** -/
theorem verdict_of_last {Accepted : List HostCall → R → Prop} {before : List (Attempt R)}
    {t : Attempt R} {reads cs : List HostCall} {parts : List (List HostCall)}
    (honly : ∀ c ∈ reads, ∃ p bytes, c = HostCall.read p bytes)
    (hfailed : ∀ t ∈ before, t.Failed)
    (hbefore : List.Forall₂ (Attempt.Leaves kind.codec) before parts)
    (hlast : t.Leaves kind.codec cs)
    (hsound : Sound kind Accepted (reads ++ (parts ++ [cs]).flatten) t.result)
    (hfirst : kind.success t.result = true → before = []) :
    Verdict kind Accepted (before ++ [t]) (Attempt.pointer [t])
      (reads ++ (parts ++ [cs]).flatten) := by
  have hgiven : delivered (reads ++ (parts ++ [cs]).flatten) = delivered cs := by
    rw [delivered_append, delivered_reads honly, List.nil_append, List.flatten_append,
      delivered_append, delivered_failed hbefore hfailed, List.nil_append]
    simp
  have hasked : List.Forall₂ (Attempt.Leaves kind.codec) (before ++ [t]) (parts ++ [cs]) :=
    List.rel_append hbefore (.cons hlast .nil)
  have hnone : ∀ {r : R} {e : Error}, t = ⟨r, .error e⟩ → delivered cs = [] →
      Verdict kind Accepted (before ++ [t]) (Attempt.pointer [t])
        (reads ++ (parts ++ [cs]).flatten) := by
    intro r e ht hcs
    have hall : ∀ t' ∈ before ++ [t], t'.Failed := by
      refine List.forall_mem_append.mpr ⟨hfailed, List.forall_mem_singleton.mpr ?_⟩
      rw [ht]
      intro ptr h
      simp at h
    have hnull : Attempt.pointer [t] = 0 := by rw [ht]; rfl
    exact ⟨by simp, ⟨reads, _, rfl, honly, hasked⟩, iff_of_true hnull hall,
      fun _ => hgiven.trans hcs, fun h => absurd hnull h⟩
  cases hlast with
  | unencoded h => exact hnone rfl rfl
  | refused h => exact hnone rfl rfl
  | @stored r ptr bytes hptr h =>
      refine ⟨by simp, ⟨reads, _, rfl, honly, hasked⟩, ?_, fun hnull => absurd hnull hptr, ?_⟩
      · refine iff_of_false hptr fun hall => ?_
        exact hall ⟨r, .ok ptr⟩ (by simp) ptr rfl
      · intro _
        refine ⟨⟨r, .ok ptr⟩, by simp, rfl, ⟨bytes, h, hgiven⟩, hsound, fun hsuccess => ?_⟩
        rw [hfirst hsuccess]
        rfl

/-- A failure with a message is sound, whatever was accepted. -/
theorem sound_failed {Accepted : List HostCall → R → Prop} {calls : List HostCall} {e : String}
    (h : e ≠ "") : Sound kind Accepted calls (kind.failed e) := by
  have hfailed : ¬kind.success (kind.failed e) = true := by rw [kind.failed_success]; simp
  refine ⟨iff_of_false hfailed ?_, fun hsuccess => absurd hsuccess hfailed⟩
  rw [kind.failed_error]
  exact h

/-- **Whatever was prepared and tried, the verdict is well formed.** -/
theorem Tried.verdict {Accepted : List HostCall → R → Prop} {unreturned : String}
    {p : Except String R} {tries : List (Attempt R)} {reads : List HostCall}
    {parts : List (List HostCall)} (htried : Tried kind unreturned p tries)
    (hmono : ∀ {calls calls' r}, Accepted calls r → calls ⊆ calls' → Accepted calls' r)
    (hunreturned : unreturned ≠ "")
    (honly : ∀ c ∈ reads, ∃ p bytes, c = HostCall.read p bytes)
    (hgood : Explained (Sound kind Accepted reads) p)
    (hleft : List.Forall₂ (Attempt.Leaves kind.codec) tries parts) :
    Verdict kind Accepted tries (Attempt.pointer tries) (reads ++ parts.flatten) := by
  cases htried with
  | stored r ptr =>
      obtain ⟨cs, _, hlast, hnil, rfl⟩ := List.forall₂_cons_left_iff.mp hleft
      obtain rfl := List.forall₂_nil_left_iff.mp hnil
      have hsound : Sound kind Accepted (reads ++ ([] ++ [cs]).flatten) r :=
        ⟨hgood.exclusive, fun h => hmono (hgood.accepted h) (List.subset_append_left _ _)⟩
      exact verdict_of_last honly (by simp) .nil hlast hsound fun _ => rfl
  | unstored r e x =>
      obtain ⟨cs, _, hfirst, hrest, rfl⟩ := List.forall₂_cons_left_iff.mp hleft
      obtain ⟨cs', _, hlast, hnil, rfl⟩ := List.forall₂_cons_left_iff.mp hrest
      obtain rfl := List.forall₂_nil_left_iff.mp hnil
      have hfailed : ∀ t ∈ [(⟨r, .error e⟩ : Attempt R)], t.Failed := by
        refine List.forall_mem_singleton.mpr fun ptr h => ?_
        simp at h
      have hbefore : List.Forall₂ (Attempt.Leaves kind.codec) [⟨r, .error e⟩] [cs] :=
        .cons hfirst .nil
      refine verdict_of_last honly hfailed hbefore hlast (sound_failed hunreturned) ?_
      intro hsuccess
      rw [kind.failed_success] at hsuccess
      simp at hsuccess
  | failure e x =>
      obtain ⟨cs, _, hlast, hnil, rfl⟩ := List.forall₂_cons_left_iff.mp hleft
      obtain rfl := List.forall₂_nil_left_iff.mp hnil
      exact verdict_of_last honly (by simp) .nil hlast (sound_failed hgood) fun _ => rfl

end Verdicts

/-! ### The entry points -/

/-- In this world the entry point returns with a verdict, or else the host refused it something. -/
structure Settles {H R : Type} (host : Host H) (w : World H) (entry : Guest Word)
    (attempts : Guest (List (Attempt R))) (kind : Outcome R)
    (Accepted : List HostCall → R → Prop) : Prop where
  refused : ∀ e w', Prog.eval WasmError.trap host.handle entry w = (.error e, w') →
    ∃ op v, host.handle op v = (.error e, w')
  returned : ∀ ptr w', host.Gives entry w ptr w' →
    ∃ tries calls, host.Gives attempts w tries w' ∧ w'.calls = w.calls ++ calls ∧
      Verdict kind Accepted tries ptr calls

section EntryPoints

variable {H R State Event : Type} {host : Host H} {build : Build} {contract : Contract State Event}
  {w : World H}

/-- **An entry point that prepares something sound and delivers it settles.** -/
theorem settles_of_halves {kind : Outcome R} {unreturned : String}
    {Accepted : List HostCall → R → Prop} {entry : Guest Word}
    {prepare : Guest (Except String R)} {n : Nat} (hsized : entry.Sized n)
    (hentry : entry = prepare >>= deliver build kind unreturned >>= fun tries =>
      pure (Attempt.pointer tries))
    (hprepare : ∀ {p w'}, host.Gives prepare w p w' → Reads w w' p (Sound kind Accepted))
    (hmono : ∀ {calls calls' r}, Accepted calls r → calls ⊆ calls' → Accepted calls' r)
    (hunreturned : unreturned ≠ "") :
    Settles host w entry (prepare >>= deliver build kind unreturned) kind Accepted := by
  refine ⟨fun e w' h => hsized.refused h, fun ptr w' h => ?_⟩
  rw [hentry] at h
  obtain ⟨tries, v, htries, hend⟩ := h.bind
  obtain ⟨rfl, rfl⟩ := hend.pure
  obtain ⟨p, v, hp, hdeliver⟩ := htries.bind
  obtain ⟨reads, hcalls, honly, hgood⟩ := hprepare hp
  obtain ⟨htried, parts, hparts, hleft⟩ := deliver_gives hdeliver
  refine ⟨tries, reads ++ parts.flatten, htries, ?_, ?_⟩
  · rw [hparts, hcalls, List.append_assoc]
  · exact htried.verdict hmono hunreturned honly hgood hleft

/--
**Whatever the host answers, the verdict is well formed.**

For every host, every build and every contract, from any world.  What an entry
point returns is null if and only if all it tried to store failed.  Otherwise the
host was given one result, which is a success exactly when it has no message; and
it is a success only if it was tried first, the inputs were read and parsed, the
callback accepted them, and the state in it is the one the callback left.
-/
theorem verdict_delivered (host : Host H) (build : Build) (contract : Contract State Event)
    (w : World H) :
    (∀ statePtr initStatePtr eventPtr isOwner : Word,
      Settles host w (executeContract build contract statePtr initStatePtr eventPtr isOwner)
        (executeAttempts build contract statePtr initStatePtr eventPtr isOwner)
        executionOutcome (ExecutionAccepted contract statePtr initStatePtr eventPtr isOwner)) ∧
      ∀ statePtr : Word,
        Settles host w (checkInitData build contract statePtr)
          (checkAttempts build contract statePtr) checkOutcome (CheckAccepted contract statePtr) := by
  obtain ⟨n, hwork⟩ := build.exists_workAtMost
  constructor
  · intro statePtr initStatePtr eventPtr isOwner
    exact settles_of_halves (executeContract_sized hwork _ _ _ _)
      (executeContract_eq build contract statePtr initStatePtr eventPtr isOwner)
      prepareExecution_gives ExecutionAccepted.mono (by decide)
  · intro statePtr
    exact settles_of_halves (checkInitData_sized hwork _)
      (checkInitData_eq build contract statePtr) prepareCheck_gives CheckAccepted.mono (by decide)

end EntryPoints

/-! ### A rejection taken back -/

/-- A host that has the same input at every pointer, and room at 1. -/
def openHost : Host Unit where
  pointerLen _ _ _ := (.ok 8, ())
  alloc _ _ _ := (.ok 1, ())
  readBytes _ dstPtr _ memory _ := (.ok ((), patch memory dstPtr.toNat (le32 4 ++ jsonNull)), ())
  writeBytes _ _ _ _ _ := (.ok (), ())
  memoryGrow _ memory _ := (.ok (-1, memory), ())

/-- A build that adds nothing, with one buffer at the beginning of the memory. -/
def leanBuild : Build where
  borshText _ := ""
  work _ := []
  buffer _ := 0

/-- A contract that rejects and then accepts. -/
def fickle : Contract Unit Unit where
  state := { toVec := fun _ => .ok jsonNull, fromSlice := fun _ => .ok () }
  event := { toVec := fun _ => .ok jsonNull, fromSlice := fun _ => .ok () }
  callback _ result := (result.reject "not yet").accept
  check _ check := check.accept

/-- A guest with sixteen bytes of memory, before anything was asked. -/
def smallWorld : World Unit := ⟨(), List.replicate 16 0, []⟩

/-- **Its acceptance is delivered, and no message with it.** -/
theorem fickle_delivered : ∃ tries w',
    openHost.Gives (executeAttempts leanBuild fickle 7 7 7 0) smallWorld tries w' ∧
      Verdict executionOutcome (ExecutionAccepted fickle 7 7 7 0) tries 1 w'.calls ∧
        delivered w'.calls = [(1, le32 4 ++ jsonNull ++ [1, 0, 0, 0, 0])] := by
  have hgives : openHost.Gives (executeContract leanBuild fickle 7 7 7 0) smallWorld 1
      (Prog.eval WasmError.trap openHost.handle (executeContract leanBuild fickle 7 7 7 0)
        smallWorld).2 := rfl
  obtain ⟨tries, calls, htries, hcalls, hverdict⟩ :=
    ((verdict_delivered openHost leanBuild fickle smallWorld).1 7 7 7 0).returned 1 _ hgives
  rw [← List.nil_append calls] at hverdict
  exact ⟨tries, _, htries, by rw [hcalls]; exact hverdict, rfl⟩

end Sdk

end Ave
