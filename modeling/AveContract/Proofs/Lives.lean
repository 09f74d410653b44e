/-
What holds of an SDK contract's subject for all its life.

The state the host keeps is a JSON value.  What a contract sees of it is the state
that its text parses to, or the initial state where it does not parse (`Current`).
An event that was answered `Ok` with success does to it what the callback does, and
every other event does nothing at all: a trap, a machine that is too small or a
result that could not be returned leave it alone.  So a life on the host is the
callback run over the accepted events (`live_simulated`), and what the init check
establishes and the callback keeps holds at every moment of it (`validated_life`).
Where every event was answered the callback runs over all of them (`live_exact`).

One thing is asked of JSON.  The final state is written by the contract, read as a
value by the host, and written again for the next event; a contract's states have
to survive that.  Nothing is asked of the builds, and each event has its own.
-/
import AveContract.Proofs.Fallback
import AveContract.Proofs.Validation
import AveContract.Sdk.Life

namespace Ave

open Slice Borsh Metered

namespace Sdk

section Lives

variable {V State Event : Type} {ext : Externals V} {build : Build}
  {contract : Contract State Event} {shell : Shell} {initState value : V} {s : State}

/-- The event that a value's text spells, if it is one of the contract's. -/
def readEvent (ext : Externals V) (contract : Contract State Event) (event : V) : Option Event :=
  match ext.json.toVec event with
  | .error _ => none
  | .ok text => (contract.event.fromSlice text).toOption

/-- What the callback makes of a state, where there is an event and the callback accepts it. -/
def callbackStep (ext : Externals V) (contract : Contract State Event) (s : State)
    (turn : BuiltTurn V) : Option State :=
  match readEvent ext contract turn.event with
  | none => none
  | some event =>
      let result := contract.callback { event, isOwner := turn.isOwner } (.new s)
      if result.success then some result.state else none

/-- The new state where the callback accepts, and the old one where it does not. -/
def absorb (ext : Externals V) (contract : Contract State Event) (s : State)
    (turn : BuiltTurn V) : State :=
  (callbackStep ext contract s turn).getD s

/-- A state written by the contract is the same state after the host has read it as a value and
written it again. -/
def Survives (ext : Externals V) (contract : Contract State Event) : Prop :=
  ∀ s text value text', contract.state.toVec s = .ok text → ext.json.fromSlice text = .ok value →
    ext.json.toVec value = .ok text' → contract.state.fromSlice text' = .ok s

/-- The state the contract sees, when the host holds `value`. -/
def Current (ext : Externals V) (contract : Contract State Event) (initState value : V)
    (s : State) : Prop :=
  ∀ b₁ b₂, Serializes ext value b₁ → Serializes ext initState b₂ →
    referenceState contract b₁ b₂ = .ok s

/-- A value whose text parses as `s` is seen as `s`, whatever the initial state. -/
theorem current_of_parses
    (h : ∀ b, ext.json.toVec value = .ok b → contract.state.fromSlice b = .ok s) :
    Current ext contract initState value s := by
  intro b₁ b₂ h₁ h₂
  unfold referenceState parseInput
  rw [h b₁ h₁.1]

/-! ### One event, and a life of them -/

/-- The callback accepted an event of the contract. -/
theorem callbackStep_some {turn : BuiltTurn V} {s' : State}
    (h : callbackStep ext contract s turn = some s') :
    ∃ event, readEvent ext contract turn.event = some event ∧
      (contract.callback { event, isOwner := turn.isOwner } (.new s)).success = true ∧
      (contract.callback { event, isOwner := turn.isOwner } (.new s)).state = s' := by
  unfold callbackStep at h
  cases hread : readEvent ext contract turn.event with
  | none =>
      rw [hread] at h
      simp at h
  | some event =>
      rw [hread] at h
      obtain ⟨haccept, hstate⟩ := Option.ite_none_right_eq_some.mp h
      exact ⟨event, rfl, haccept, Option.some.inj hstate⟩

/-- An event that was not accepted leaves the host's state alone. -/
theorem applyTurn_unaccepted {turn : BuiltTurn V}
    (h : accepting (contract.answer ext shell initState value turn) = false) :
    contract.applyTurn ext shell initState value turn = value := by
  unfold Contract.answer at h
  unfold Contract.applyTurn applyTurn
  cases hanswer : turn.toTurn.answer ext (contract.module turn.build shell) initState value with
  | error e => rfl
  | ok answer =>
      rw [hanswer] at h
      have hflag : answer.1.success = false := h
      simp only [hflag, Bool.false_eq_true, if_false]

/-- **An event that was accepted was accepted by the callback**, and its state is seen next. -/
theorem applyTurn_accepted (hsurvives : Survives ext contract)
    (h : Current ext contract initState value s) {turn : BuiltTurn V}
    (haccept : accepting (contract.answer ext shell initState value turn) = true) :
    ∃ s', callbackStep ext contract s turn = some s' ∧
      Current ext contract initState (contract.applyTurn ext shell initState value turn) s' := by
  unfold Contract.answer at haccept
  unfold Contract.applyTurn applyTurn
  cases hanswer : turn.toTurn.answer ext (contract.module turn.build shell) initState value with
  | error e =>
      rw [hanswer] at haccept
      exact absurd haccept Bool.false_ne_true
  | ok answer =>
      obtain ⟨result, stats⟩ := answer
      rw [hanswer] at haccept
      have hsuccess : result.success = true := haccept
      obtain ⟨b₁, b₂, b₃, before, after, final, h₁, h₂, h₃, haccepts, hser, hfinal, -⟩ :=
        executeInner_accepted hanswer hsuccess
      obtain ⟨event, hevent, hcall, hafter⟩ := haccepts.callback
      obtain rfl : before = s :=
        Except.ok.inj (haccepts.state.symm.trans (h b₁ b₂ h₁ h₂))
      have hread : readEvent ext contract turn.event = some event := by
        unfold readEvent
        rw [h₃.1]
        simp only [hevent]
        rfl
      refine ⟨after, ?_, ?_⟩
      · unfold callbackStep
        rw [hread]
        simp only [if_pos hcall, hafter]
      · simp only [if_pos hsuccess]
        exact current_of_parses fun b hb => hsurvives after final result.finalState b hser hfinal hb

/-- The turns answered in some way are some of the turns, in their order. -/
theorem turnsWith_sublist
    (answered : Except RuntimeError (ExecutionResult V × ExecutionStats) → Bool) :
    ∀ (turns : List (BuiltTurn V)) (value : V),
      (contract.turnsWith ext shell initState answered value turns).Sublist turns := by
  intro turns
  induction turns with
  | nil => intro value; exact .slnil
  | cons turn rest ih =>
      intro value
      rw [Contract.turnsWith]
      by_cases h : answered (contract.answer ext shell initState value turn) = true
      · simp only [if_pos h]
        exact (ih _).cons_cons turn
      · simp only [if_neg h]
        exact (ih _).cons turn

/-- A turn answered in some way was so at some moment of the life. -/
theorem mem_turnsWith
    {answered : Except RuntimeError (ExecutionResult V × ExecutionStats) → Bool}
    {turn : BuiltTurn V} : ∀ (turns : List (BuiltTurn V)) (value : V),
      turn ∈ contract.turnsWith ext shell initState answered value turns →
        ∃ value', answered (contract.answer ext shell initState value' turn) = true := by
  intro turns
  induction turns with
  | nil => intro value h; exact absurd h List.not_mem_nil
  | cons first rest ih =>
      intro value h
      rw [Contract.turnsWith] at h
      by_cases hfirst : answered (contract.answer ext shell initState value first) = true
      · simp only [if_pos hfirst] at h
        rcases List.mem_cons.mp h with rfl | hlater
        · exact ⟨value, hfirst⟩
        · exact ih _ hlater
      · simp only [if_neg hfirst] at h
        exact ih _ h

/-- **The accepted events alone make the same life.** -/
theorem live_of_accepted : ∀ (turns : List (BuiltTurn V)) (value : V),
    contract.live ext shell initState value (contract.accepted ext shell initState value turns)
      = contract.live ext shell initState value turns := by
  intro turns
  induction turns with
  | nil => intro value; rfl
  | cons turn rest ih =>
      intro value
      rw [Contract.accepted, Contract.turnsWith]
      by_cases h : accepting (contract.answer ext shell initState value turn) = true
      · simp only [if_pos h]
        exact ih (contract.applyTurn ext shell initState value turn)
      · simp only [if_neg h]
        have hstays : contract.applyTurn ext shell initState value turn = value :=
          applyTurn_unaccepted (Bool.eq_false_iff.mpr h)
        have hlive : contract.live ext shell initState value (turn :: rest)
            = contract.live ext shell initState value rest := by
          unfold Contract.live
          rw [List.foldl_cons, hstays]
        rw [hlive, hstays]
        exact ih value

/-- **The callback accepts the accepted events**, one after the other, and the state it comes to is
the one that is seen. -/
theorem accepted_foldlM (hsurvives : Survives ext contract) :
    ∀ (turns : List (BuiltTurn V)) (value : V) (s : State),
      Current ext contract initState value s →
        ∃ s', (contract.accepted ext shell initState value turns).foldlM
            (callbackStep ext contract) s = some s' ∧
          Current ext contract initState (contract.live ext shell initState value turns) s' := by
  intro turns
  induction turns with
  | nil => intro value s h; exact ⟨s, rfl, h⟩
  | cons turn rest ih =>
      intro value s h
      rw [Contract.accepted, Contract.turnsWith]
      by_cases haccept : accepting (contract.answer ext shell initState value turn) = true
      · simp only [if_pos haccept]
        obtain ⟨s₁, hstep, hnext⟩ := applyTurn_accepted hsurvives h haccept
        obtain ⟨s', hfold, hlive⟩ := ih _ s₁ hnext
        refine ⟨s', ?_, hlive⟩
        rw [List.foldlM_cons, hstep]
        exact hfold
      · simp only [if_neg haccept]
        refine ih _ s ?_
        rw [applyTurn_unaccepted (Bool.eq_false_iff.mpr haccept)]
        exact h

/-- **What holds of the answer to any event on any state that is seen holds along a life.** -/
theorem answers_along (hsurvives : Survives ext contract)
    {Told : BuiltTurn V → Except RuntimeError (ExecutionResult V × ExecutionStats) → Prop}
    (hstep : ∀ value s turn, Current ext contract initState value s →
      Told turn (contract.answer ext shell initState value turn)) :
    ∀ (turns : List (BuiltTurn V)) (value : V) (s : State),
      Current ext contract initState value s →
        ∀ p ∈ turns.zip (contract.answers ext shell initState value turns), Told p.1 p.2 := by
  intro turns
  induction turns with
  | nil => intro value s _ p hp; exact absurd hp List.not_mem_nil
  | cons turn rest ih =>
      intro value s h p hp
      rw [Contract.answers, List.zip_cons_cons] at hp
      rcases List.mem_cons.mp hp with rfl | hlater
      · exact hstep value s turn h
      · by_cases haccept : accepting (contract.answer ext shell initState value turn) = true
        · obtain ⟨s', -, hnext⟩ := applyTurn_accepted hsurvives h haccept
          exact ih _ s' hnext p hlater
        · rw [applyTurn_unaccepted (Bool.eq_false_iff.mpr haccept)] at hlater
          exact ih _ s h p hlater

/-- What every one of some turns keeps, a run of them keeps. -/
theorem foldlM_keeps (Inv : State → Prop) : ∀ (turns : List (BuiltTurn V)),
    (∀ turn ∈ turns, ∀ s s', Inv s → callbackStep ext contract s turn = some s' → Inv s') →
      ∀ {s s' : State}, Inv s → turns.foldlM (callbackStep ext contract) s = some s' → Inv s' := by
  intro turns
  induction turns with
  | nil =>
      intro _ s s' h hfold
      obtain rfl : s = s' := Option.some.inj hfold
      exact h
  | cons turn rest ih =>
      intro hkeep s s' h hfold
      obtain ⟨hfirst, hrest⟩ := List.forall_mem_cons.mp hkeep
      rw [List.foldlM_cons] at hfold
      obtain ⟨s₁, hstep, hlater⟩ := Option.bind_eq_some_iff.mp hfold
      exact ih hrest (hfirst s s₁ h hstep) hlater

/--
**A life on the host is a life of the callback.**

Whatever machines execute the events, whatever the compiler made of the contract for
each of them and whatever goes wrong on the way: the events that were answered `Ok`
with success are some of those sent, in their order; without the others it is the
same life; and the callback accepts them one after the other, coming to the state
that the contract sees.
-/
theorem live_simulated (hsurvives : Survives ext contract)
    (h : Current ext contract initState value s) (turns : List (BuiltTurn V)) :
    (contract.accepted ext shell initState value turns).Sublist turns ∧
      contract.live ext shell initState value (contract.accepted ext shell initState value turns)
        = contract.live ext shell initState value turns ∧
      ∃ s', (contract.accepted ext shell initState value turns).foldlM
          (callbackStep ext contract) s = some s' ∧
        Current ext contract initState (contract.live ext shell initState value turns) s' :=
  ⟨turnsWith_sublist accepting turns value, live_of_accepted turns value,
    accepted_foldlM hsurvives turns value s h⟩

/--
**A validated subject keeps what its contract keeps.**

Validated on any machine, then living on any others, in whatever way the contract was
compiled for each: if the init check establishes `Inv` and the callback keeps it, then
after any events the state that the contract sees next satisfies it.  The subject
starts from the validated state, or from one that does not parse, for which the
validated state stands in.
-/
theorem validated_life {Inv : State → Prop} {spec : ResolvedMachineSpec} (hjson : JsonTexts ext)
    (hsurvives : Survives ext contract)
    (hcheck : ∀ s, (contract.check s .default).success = true → Inv s)
    (hkeep : ∀ context before, Inv before → (contract.callback context (.new before)).success = true →
      Inv (contract.callback context (.new before)).state)
    (hvalid : validateInner ext spec.limits (contract.module build shell) initState = .ok ())
    (hstart : value = initState ∨
      ∀ b, ext.json.toVec value = .ok b → ∃ e, contract.state.fromSlice b = .error e) :
    ∀ turns : List (BuiltTurn V), ∃ s, Current ext contract initState
      (contract.live ext shell initState value turns) s ∧ Inv s := by
  intro turns
  obtain ⟨inst, r, p, q, hcall, hout, -⟩ := validateInner_ok hvalid
  obtain ⟨b, -, -, -, hb, -⟩ := callInitCheck_inv hcall
  have hsuccess := (validateInner_checked hjson hb hcall hout).success.mp hvalid
  obtain ⟨s, hparse, haccepted⟩ := (referenceCheck_success contract b).mp hsuccess
  have hinit : ∀ b₂, Serializes ext initState b₂ → contract.state.fromSlice b₂ = .ok s := by
    intro b₂ h₂
    rw [h₂.unique hb]
    exact hparse
  have hfirst : Current ext contract initState value s := by
    intro b₁ b₂ h₁ h₂
    rcases hstart with rfl | hgarbage
    · unfold referenceState parseInput
      rw [hinit b₁ h₁]
    · obtain ⟨e, he⟩ := hgarbage b₁ h₁.1
      unfold referenceState parseInput
      rw [he, hinit b₂ h₂]
  obtain ⟨s', hfold, hlive⟩ := accepted_foldlM hsurvives turns value s hfirst
  refine ⟨s', hlive, foldlM_keeps Inv _ ?_ (hcheck s haccepted) hfold⟩
  intro turn _ before after hbefore hstep
  obtain ⟨event, -, haccept, rfl⟩ := callbackStep_some hstep
  exact hkeep _ before hbefore haccept

/-! ### A life that is answered throughout -/

/-- Every state has a text, of a length that a Borsh header can say. -/
def Writes (contract : Contract State Event) : Prop :=
  ∀ s, ∃ text, contract.state.toVec s = .ok text ∧ text.length < 2 ^ 32

/-- The message that goes with what the callback made of an event. -/
def messageOf (result : ContractResult State) : String :=
  if result.success then "" else s!"{errEventRejected}: {result.error}"

/-- A result of moderate size has a layout. -/
theorem encode_moderate {text : Bytes} {success : Bool} {error : String}
    (htext : text.length < 2 ^ 32) (herror : (Codec.utf8 error).length < 2 ^ 32) :
    ∃ bytes, ContractResultData.codec.encode { finalState := ⟨text⟩, success, error } = .ok bytes := by
  have hstate : ContractData.codec.encode ⟨text⟩ = .ok (le32 text.length ++ text) :=
    Codec.blob_encode htext
  have hmessage : Codec.string.encode error = .ok (le32 (Codec.utf8 error).length ++ Codec.utf8 error) :=
    Codec.blob_encode herror
  exact ⟨_, Codec.pair_encode hstate (Codec.pair_encode rfl hmessage)⟩

/-- **An event that was answered is answered with what the callback made of it.** -/
theorem answer_of_callback {turn : BuiltTurn V} {event : Event} {result : ExecutionResult V}
    {stats : ExecutionStats} (hwrites : Writes contract)
    (h : Current ext contract initState value s)
    (hread : readEvent ext contract turn.event = some event)
    (hshort : (Codec.utf8 (messageOf
      (contract.callback { event, isOwner := turn.isOwner } (.new s)))).length < 2 ^ 32)
    (hanswer : contract.answer ext shell initState value turn = .ok (result, stats)) :
    result.success = (contract.callback { event, isOwner := turn.isOwner } (.new s)).success ∧
      result.error = messageOf (contract.callback { event, isOwner := turn.isOwner } (.new s)) := by
  obtain ⟨b₁, b₂, b₃, h₁, h₂, h₃, -, outcome, bytes, hsettles, -, hreported⟩ :=
    executeInner_sent hanswer
  have hstate : referenceState contract b₁ b₂ = .ok s := h b₁ b₂ h₁ h₂
  have hevent : contract.event.fromSlice b₃ = .ok event := by
    unfold readEvent at hread
    rw [h₃.1] at hread
    cases hparse : contract.event.fromSlice b₃ with
    | error e => simp [hparse, Except.toOption] at hread
    | ok e => simpa [hparse, Except.toOption] using hread
  obtain ⟨final, hfinal, hlen⟩ :=
    hwrites (contract.callback { event, isOwner := turn.isOwner } (.new s)).state
  have hprepared : tryReference contract b₁ b₂ b₃ turn.isOwner
      = .ok { finalState := ⟨final⟩
              success := (contract.callback { event, isOwner := turn.isOwner } (.new s)).success
              error := messageOf
                (contract.callback { event, isOwner := turn.isOwner } (.new s)) } := by
    unfold tryReference parseInput
    rw [hstate]
    simp only [hevent, hfinal]
    rfl
  rcases explains_of_settles hsettles hreported with ⟨-, hreport⟩ | ⟨hother, hnone, -⟩
  · obtain ⟨-, hsuccess, herror⟩ := report_ok hreport
    unfold reference at hsuccess herror
    rw [hprepared] at hsuccess herror
    exact ⟨hsuccess, herror⟩
  · obtain rfl := Except.ok.inj (hprepared.symm.trans hother)
    obtain ⟨layout, henc⟩ := encode_moderate hlen hshort
    exact absurd henc (hnone layout)

/-- So what the callback accepts is accepted. -/
theorem accepting_of_callbackStep {turn : BuiltTurn V} {s' : State} (hwrites : Writes contract)
    (h : Current ext contract initState value s)
    (hok : ∃ x, contract.answer ext shell initState value turn = .ok x)
    (hstep : callbackStep ext contract s turn = some s') :
    accepting (contract.answer ext shell initState value turn) = true := by
  obtain ⟨⟨result, stats⟩, hanswer⟩ := hok
  obtain ⟨event, hread, haccept, -⟩ := callbackStep_some hstep
  have hempty : messageOf (contract.callback { event, isOwner := turn.isOwner } (.new s)) = "" := by
    unfold messageOf
    rw [if_pos haccept]
  have hshort : (Codec.utf8 (messageOf
      (contract.callback { event, isOwner := turn.isOwner } (.new s)))).length < 2 ^ 32 := by
    rw [hempty]
    decide
  obtain ⟨hsuccess, -⟩ := answer_of_callback hwrites h hread hshort hanswer
  rw [hanswer]
  exact hsuccess.trans haccept

/-- **An event that was answered is absorbed.** -/
theorem applyTurn_absorbs (hsurvives : Survives ext contract) (hwrites : Writes contract)
    (h : Current ext contract initState value s) (turn : BuiltTurn V)
    (hok : ∃ x, contract.answer ext shell initState value turn = .ok x) :
    Current ext contract initState (contract.applyTurn ext shell initState value turn)
      (absorb ext contract s turn) := by
  unfold absorb
  by_cases haccept : accepting (contract.answer ext shell initState value turn) = true
  · obtain ⟨s', hstep, hnext⟩ := applyTurn_accepted hsurvives h haccept
    rw [hstep]
    exact hnext
  · rw [applyTurn_unaccepted (Bool.eq_false_iff.mpr haccept)]
    cases hstep : callbackStep ext contract s turn with
    | none => exact h
    | some s' => exact absurd (accepting_of_callbackStep hwrites h hok hstep) haccept

end Lives

/-! ### A latch -/

def jsonTrue : Bytes := [0x74, 0x72, 0x75, 0x65]

def jsonFalse : Bytes := [0x66, 0x61, 0x6C, 0x73, 0x65]

/-- JSON of a flag. -/
def boolJson : Serde Bool where
  toVec := fun flag => .ok (if flag then jsonTrue else jsonFalse)
  fromSlice := fun bytes =>
    if bytes = jsonTrue then .ok true else if bytes = jsonFalse then .ok false
    else .error "expected a boolean"

def boolExternals : Externals Bool where
  json := boolJson
  wasmText := nullExternals.wasmText
  borshText := nullExternals.borshText

/-- It must start set, and an event may set it again but not release it. -/
def latch : Contract Bool Bool where
  state := boolJson
  event := boolJson
  callback := fun context result =>
    if context.event then { result with state := true }.accept
    else result.reject "a latch is not released"
  check := fun state result => if state then result.accept else result.reject "not set"

theorem boolJson_roundTrip : ∀ flag text, boolJson.toVec flag = .ok text →
    boolJson.fromSlice text = .ok flag := by
  intro flag text h
  obtain rfl := Except.ok.inj h
  cases flag <;> rfl

theorem latch_survives : Survives boolExternals latch := by
  intro s text value text' hser hread hagain
  have hvalue : boolJson.fromSlice text = .ok s := boolJson_roundTrip s text hser
  obtain rfl : value = s := Except.ok.inj (hread.symm.trans hvalue)
  exact boolJson_roundTrip value text' hagain

theorem boolExternals_json : JsonTexts boolExternals := by
  intro value b hb
  obtain rfl := Except.ok.inj hb
  cases value
  · exact ⟨0x66, [0x61, 0x6C, 0x73, 0x65], rfl, by decide⟩
  · exact ⟨0x74, [0x72, 0x75, 0x65], rfl, by decide⟩

theorem latch_admitted : (latch.module bareBuild pageShell).Admitted
    (MemoryManager.fromLimits (ResolvedMachineSpec.limits ⟨4096, 2⟩)).storeLimits := by decide

theorem latch_validated : validateInner boolExternals (ResolvedMachineSpec.limits ⟨4096, 2⟩)
    (latch.module bareBuild pageShell) true = .ok () := by
  have hlodge : bareBuild.Lodges 100 jsonTrue [1, 0, 0, 0, 0] :=
    bareBuild_lodges (by decide) (by decide)
  exact validateInner_total boolExternals_json ⟨rfl, by decide⟩ (by decide) latch_admitted rfl rfl
    pageShell_room hlodge bareBuild_work (by decide) rfl (by decide)

/-- A build that moves its buffers up the page and computes before the callback. -/
def shiftedBuild : Build where
  borshText := bareBuild.borshText
  work := fun site => if site = .callback then [.compute, .compute] else []
  buffer := fun _ => 4096

/-- A release, asked for by the owner, and then another set, compiled differently. -/
def latchTurns : List (BuiltTurn Bool) :=
  [ { machine := ⟨4096, 2⟩, event := false, isOwner := true, build := bareBuild }
  , { machine := ⟨512, 1⟩, event := true, isOwner := false, build := shiftedBuild } ]

/-- **The latch is not seen released**, though its owner asked for it. -/
theorem latch_stays_set : ∃ s, Current boolExternals latch true
    (latch.live boolExternals pageShell true true latchTurns) s ∧ s = true := by
  have hcheck : ∀ s, (latch.check s .default).success = true → s = true := by decide
  have hkeep : ∀ (context : Context Bool) before, before = true →
      (latch.callback context (.new before)).success = true →
      (latch.callback context (.new before)).state = true := by
    rintro ⟨event, isOwner⟩ before rfl -
    cases event <;> rfl
  exact validated_life boolExternals_json latch_survives hcheck hkeep latch_validated (Or.inl rfl)
    latchTurns

theorem latch_simulated :
    (latch.accepted boolExternals pageShell true false latchTurns).Sublist latchTurns ∧
      latch.live boolExternals pageShell true false
          (latch.accepted boolExternals pageShell true false latchTurns)
        = latch.live boolExternals pageShell true false latchTurns ∧
      ∃ s', (latch.accepted boolExternals pageShell true false latchTurns).foldlM
          (callbackStep boolExternals latch) false = some s' ∧
        Current boolExternals latch true
          (latch.live boolExternals pageShell true false latchTurns) s' := by
  refine live_simulated latch_survives (current_of_parses ?_) latchTurns
  intro b hb
  exact boolJson_roundTrip false b hb

theorem latch_writes : Writes latch := by
  intro flag
  cases flag
  · exact ⟨jsonFalse, rfl, by decide⟩
  · exact ⟨jsonTrue, rfl, by decide⟩

/-- The latch is set by anyone. -/
def latchSet : BuiltTurn Bool :=
  { machine := ⟨4096, 2⟩, event := true, isOwner := false, build := bareBuild }

theorem latchSet_answered : ∃ x, latch.answer boolExternals pageShell true false latchSet = .ok x := by
  have htrue : Serializes boolExternals true jsonTrue := ⟨rfl, by decide⟩
  have hfalse : Serializes boolExternals false jsonFalse := ⟨rfl, by decide⟩
  have hstage : Stageable (ResolvedMachineSpec.limits ⟨4096, 2⟩) jsonFalse jsonTrue jsonTrue :=
    ⟨by decide, by decide, by decide⟩
  have henc : ContractResultData.codec.encode (reference latch jsonFalse jsonTrue jsonTrue false)
      = .ok [4, 0, 0, 0, 0x74, 0x72, 0x75, 0x65, 1, 0, 0, 0, 0] := rfl
  have hhouse : bareBuild.Houses 100 jsonFalse jsonTrue jsonTrue
      [4, 0, 0, 0, 0x74, 0x72, 0x75, 0x65, 1, 0, 0, 0, 0] :=
    bareBuild_houses (by decide) (by decide) (by decide) (by decide)
  obtain ⟨stats, hexec⟩ := executeInner_total hfalse htrue htrue hstage latch_admitted rfl rfl
    pageShell_room hhouse bareBuild_work (by decide) henc (by decide)
  have href : reference latch jsonFalse jsonTrue jsonTrue false
      = { finalState := ⟨jsonTrue⟩, success := true, error := "" } := rfl
  have hread : boolExternals.json.fromSlice jsonTrue = .ok true :=
    boolJson_roundTrip true jsonTrue rfl
  rw [href] at hexec
  unfold report at hexec
  simp only [hread, Except.map] at hexec
  exact ⟨({ finalState := true, success := true, error := "" }, stats), hexec⟩

end Sdk

end Ave
