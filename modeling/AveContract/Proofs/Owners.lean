/-
Events that are the owner's.

A contract that keeps an event for its owner calls `requireOwner` first, and where
that is refused returns what it was handed (`Guards`).  The flag it goes by is an
argument of `execute`, and every event is executed on its own, so nothing that was
answered before can lend it to somebody else: an event behind the guard takes effect
only where its sender was the owner, and whatever of the state only such events
change is the owner's to change (`owner_life`).
-/
import AveContract.Proofs.Lives

namespace Ave

open Slice Borsh

namespace Sdk

section Owners

variable {V State Event : Type} {ext : Externals V} {contract : Contract State Event}
  {shell : Shell} {initState value : V} {s : State} {guarded : Event → Prop}

/-- For these events the callback asks `requireOwner` first, and goes no further where it is
refused. -/
def Guards (contract : Contract State Event) (guarded : Event → Prop) : Prop :=
  ∀ (context : Context Event) (result : ContractResult State), guarded context.event →
    (requireOwner context result).1 = false →
      contract.callback context result = (requireOwner context result).2

/-- A turn that brings such an event. -/
def Brings (ext : Externals V) (contract : Contract State Event) (guarded : Event → Prop)
    (turn : BuiltTurn V) : Prop :=
  ∃ event, readEvent ext contract turn.event = some event ∧ guarded event

/-- What the callback answers to anybody else. -/
theorem Guards.callback (h : Guards contract guarded) {event : Event} (hguarded : guarded event)
    (s : State) : contract.callback { event, isOwner := false } (.new s)
      = (ContractResult.new s).reject "Only the owner can perform this action" :=
  h { event, isOwner := false } (.new s) hguarded rfl

/-- **The callback takes no such event from anybody else.** -/
theorem Guards.callbackStep (h : Guards contract guarded) {turn : BuiltTurn V}
    (hbrings : Brings ext contract guarded turn) (hother : turn.isOwner = false) (s : State) :
    callbackStep ext contract s turn = none := by
  obtain ⟨event, hread, hguarded⟩ := hbrings
  unfold Sdk.callbackStep
  rw [hread, hother]
  simp only [h.callback hguarded s]
  rfl

/-- **Nor does the host.** -/
theorem Guards.accepting (h : Guards contract guarded) {turn : BuiltTurn V}
    (hbrings : Brings ext contract guarded turn)
    (haccept : Sdk.accepting (contract.answer ext shell initState value turn) = true) :
    turn.isOwner = true := by
  obtain ⟨event, hread, hguarded⟩ := hbrings
  cases hanswer : contract.answer ext shell initState value turn with
  | error e =>
      rw [hanswer] at haccept
      exact absurd haccept Bool.false_ne_true
  | ok answer =>
      obtain ⟨result, stats⟩ := answer
      rw [hanswer] at haccept
      obtain ⟨b₁, b₂, b₃, before, after, final, -, -, h₃, haccepts, -⟩ :=
        executeInner_accepted hanswer haccept
      obtain ⟨event', hevent, hcall, -⟩ := haccepts.callback
      have hsame : event' = event := by
        unfold readEvent at hread
        rw [h₃.1] at hread
        simpa [hevent, Except.toOption] using hread
      subst hsame
      cases hother : turn.isOwner with
      | true => rfl
      | false =>
          rw [hother, h.callback hguarded before] at hcall
          exact absurd hcall Bool.false_ne_true

/-- What the host is told of such an event from anybody else. -/
def ownerRefusal : String := s!"{errEventRejected}: Only the owner can perform this action"

/-- Anybody else who brought such an event and was answered was told so. -/
def Refuses (ext : Externals V) (contract : Contract State Event) (guarded : Event → Prop)
    (turn : BuiltTurn V) (answer : Except RuntimeError (ExecutionResult V × ExecutionStats)) : Prop :=
  Brings ext contract guarded turn → turn.isOwner = false →
    ∀ result stats, answer = .ok (result, stats) →
      result.success = false ∧ result.error = ownerRefusal

/-- **And it is told why.** -/
theorem Guards.refusal (h : Guards contract guarded) (hwrites : Writes contract)
    (hcurrent : Current ext contract initState value s) (turn : BuiltTurn V) :
    Refuses ext contract guarded turn (contract.answer ext shell initState value turn) := by
  intro hbrings hother result stats hanswer
  obtain ⟨event, hread, hguarded⟩ := hbrings
  have hcallback : contract.callback { event, isOwner := turn.isOwner } (.new s)
      = (ContractResult.new s).reject "Only the owner can perform this action" := by
    rw [hother]
    exact h.callback hguarded s
  have hmessage : messageOf (contract.callback { event, isOwner := turn.isOwner } (.new s))
      = ownerRefusal := by
    rw [hcallback]
    rfl
  obtain ⟨hsuccess, herror⟩ := answer_of_callback hwrites hcurrent hread
    (by rw [hmessage]; decide) hanswer
  rw [hcallback] at hsuccess
  exact ⟨hsuccess, herror.trans hmessage⟩

end Owners

/-! ### A latch with an owner -/

/-- Anybody may touch it, and its owner may release it. -/
def ownedLatch : Contract Bool Bool where
  state := boolJson
  event := boolJson
  callback := fun context result =>
    if context.event then result.accept
    else
      match requireOwner context result with
      | (false, result) => result
      | (true, result) => { result with state := false }.accept
  check := fun _ result => result.accept

theorem ownedLatch_guards : Guards ownedLatch (· = false) := by
  rintro ⟨event, isOwner⟩ result rfl hrefused
  cases isOwner with
  | true => exact absurd hrefused (by simp [requireOwner])
  | false => rfl

/-- Two releases asked for by somebody else, and a touch in between. -/
def intruderTurns : List (BuiltTurn Bool) :=
  [ { machine := ⟨4096, 2⟩, event := false, isOwner := false, build := bareBuild }
  , { machine := ⟨512, 1⟩, event := true, isOwner := false, build := shiftedBuild }
  , { machine := ⟨512, 1⟩, event := false, isOwner := false, build := shiftedBuild } ]

end Sdk

end Ave
