/-
The life of the example contract.

Whoever sends them, its events are assignments to the one thing it keeps.  So none is
turned down, and of a life only the last event that took effect is left
(`example2_life`).
-/
import AveContract.Proofs.Lives
import AveContract.Sdk.Examples

namespace Ave

open Sdk

namespace Example2

section Life

variable {V : Type} {ext : Externals V} {shell : Shell} {state : Serde State}
  {event : Serde StateEvent} {initState value : V} {s : State}

/-- One accepted event. -/
theorem callbackStep_data {turn : BuiltTurn V} {s' : State}
    (h : callbackStep ext (contract state event) s turn = some s') :
    readEvent ext (contract state event) turn.event = some (.changeData s'.data) := by
  obtain ⟨brought, hread, -, rfl⟩ := callbackStep_some h
  cases brought with
  | changeData data => exact hread

/-- **A run of accepted events leaves what the last one brought.** -/
theorem foldlM_data : ∀ (turns : List (BuiltTurn V)) {s s' : State},
    turns.foldlM (callbackStep ext (contract state event)) s = some s' →
      ∃ texts : List String,
        turns.map (fun turn => readEvent ext (contract state event) turn.event)
          = texts.map (fun text => some (.changeData text)) ∧
        s'.data = texts.getLast?.getD s.data := by
  intro turns
  induction turns with
  | nil =>
      intro s s' h
      obtain rfl : s = s' := Option.some.inj h
      exact ⟨[], rfl, rfl⟩
  | cons turn rest ih =>
      intro s s' h
      rw [List.foldlM_cons] at h
      obtain ⟨s₁, hstep, hrest⟩ := Option.bind_eq_some_iff.mp h
      obtain ⟨texts, hread, hlast⟩ := ih hrest
      refine ⟨s₁.data :: texts, ?_, ?_⟩
      · rw [List.map_cons, List.map_cons, callbackStep_data hstep, hread]
      · rw [hlast, List.getLast?_cons, Option.getD_some]

/-- An event of the contract that was answered was accepted. -/
def Accepting (ext : Externals V) (state : Serde State) (event : Serde StateEvent)
    (turn : BuiltTurn V) (answer : Except RuntimeError (ExecutionResult V × ExecutionStats)) : Prop :=
  ∀ brought, readEvent ext (contract state event) turn.event = some brought →
    ∀ result stats, answer = .ok (result, stats) → result.success = true ∧ result.error = ""

/-- **No event is turned down.** -/
theorem answer_accepting (hwrites : Writes (contract state event))
    (h : Current ext (contract state event) initState value s) (turn : BuiltTurn V) :
    Accepting ext state event turn
      ((contract state event).answer ext shell initState value turn) := by
  intro brought hread result stats hanswer
  cases brought with
  | changeData data =>
      exact answer_of_callback hwrites h hread (show (Borsh.Codec.utf8 "").length < 2 ^ 32 by decide)
        hanswer

end Life

/-! ### A text, replaced -/

/-- `{"data":""}`. -/
def emptyText : Bytes := [0x7B, 0x22, 0x64, 0x61, 0x74, 0x61, 0x22, 0x3A, 0x22, 0x22, 0x7D]

/-- `{"data":"Ave"}`. -/
def aveText : Bytes :=
  [0x7B, 0x22, 0x64, 0x61, 0x74, 0x61, 0x22, 0x3A, 0x22, 0x41, 0x76, 0x65, 0x22, 0x7D]

/-- `{"ChangeData":{"data":"Ave"}}`. -/
def changeText : Bytes :=
  [ 0x7B, 0x22, 0x43, 0x68, 0x61, 0x6E, 0x67, 0x65, 0x44, 0x61, 0x74, 0x61, 0x22, 0x3A, 0x7B
  , 0x22, 0x64, 0x61, 0x74, 0x61, 0x22, 0x3A, 0x22, 0x41, 0x76, 0x65, 0x22, 0x7D, 0x7D ]

/-- The JSON of two states. -/
def stateJson : Serde State where
  toVec := fun s =>
    if s = ⟨""⟩ then .ok emptyText else if s = ⟨"Ave"⟩ then .ok aveText
    else .error "not one of the two"
  fromSlice := fun text =>
    if text = emptyText then .ok ⟨""⟩ else if text = aveText then .ok ⟨"Ave"⟩
    else .error "not one of the two"

/-- The JSON of one event. -/
def eventJson : Serde StateEvent where
  toVec := fun event =>
    if event = .changeData "Ave" then .ok changeText else .error "not the one"
  fromSlice := fun text =>
    if text = changeText then .ok (.changeData "Ave") else .error "not the one"

/-- A host whose values are their texts. -/
def textExternals : Externals Bytes where
  json := { toVec := .ok, fromSlice := .ok }
  wasmText := nullExternals.wasmText
  borshText := nullExternals.borshText

theorem stateJson_roundTrip {s : State} {text : Bytes} (h : stateJson.toVec s = .ok text) :
    stateJson.fromSlice text = .ok s := by
  have h' : (if s = ⟨""⟩ then Except.ok emptyText
      else if s = ⟨"Ave"⟩ then .ok aveText else .error "not one of the two") = .ok text := h
  by_cases hempty : s = ⟨""⟩
  · rw [if_pos hempty] at h'
    obtain rfl := Except.ok.inj h'
    rw [hempty]
    rfl
  · rw [if_neg hempty] at h'
    by_cases hnamed : s = ⟨"Ave"⟩
    · rw [if_pos hnamed] at h'
      obtain rfl := Except.ok.inj h'
      rw [hnamed]
      rfl
    · rw [if_neg hnamed] at h'
      simp at h'

theorem example2_survives : Survives textExternals (contract stateJson eventJson) := by
  intro s text value text' hser hread hagain
  obtain rfl : text = value := Except.ok.inj hread
  obtain rfl : text = text' := Except.ok.inj hagain
  exact stateJson_roundTrip hser

/-- The same event twice, compiled differently. -/
def changeTurns : List (BuiltTurn Bytes) :=
  [ { machine := ⟨4096, 2⟩, event := changeText, isOwner := false, build := bareBuild }
  , { machine := ⟨512, 1⟩, event := changeText, isOwner := true, build := shiftedBuild } ]

end Example2

end Ave
