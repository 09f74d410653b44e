/-
What two machines can tell each other about one event.

`Proofs/Capped.lean` compares two runs.  Here the answers of `execute` are compared,
and then those of a whole life.  An `Ok` carries the result, the fuel and the memory,
and all three are the same wherever there is an `Ok` at all.  Running out of fuel is
as definite: no machine answers `Ok` where another ran dry, any two that ran dry
consumed the same, and a machine with larger caps runs dry too.

So a replica that was never stopped holds the state, and has the verdicts, of any
other that was never stopped.
-/
import AveContract.Proofs.Capacity
import AveContract.Runtime.Subject

namespace Ave

open Metered

section Answers

variable {V σ : Type} {ext : Externals V} {limits₁ limits₂ : WasmLimits} {module : WasmModule σ}
  {state initState event : V} {isOwner : Bool}

/-- Two runs that cannot be told apart are finished alike. -/
theorem finishCall_follow {r₁ r₂ : GuestRun σ} (h : Follows (SameStore limits₁ limits₂) r₁ r₂) :
    finishCall ext r₁ = finishCall ext r₂ := by
  unfold finishCall
  rw [← h.outcome, ← h.fuel, ← h.final.memoryExport, ← h.final.memory]
  cases r₁.outcome with
  | error e => rfl
  | ok x =>
      simp only
      rw [getExecutionResult_congr h.final.hostMemory h.final.hostMap]

/-- An answer that was not a failure of staging or instantiation is that of a call. -/
theorem executeInner_called {inst : Instance σ} {r : GuestRun σ}
    (h : callMain ext limits₁ module state initState event isOwner = .ok (inst, r)) :
    executeInner ext limits₁ module state initState event isOwner = finishCall ext r := by
  unfold executeInner
  rw [h]

/-- An answer the fleet can vote on: an outcome, or a budget used up. -/
def Definite (answer : Except RuntimeError (ExecutionResult V × ExecutionStats)) : Prop :=
  (∃ x, answer = .ok x) ∨ ∃ consumed, answer = .error (.outOfFuel consumed)

/-- Any other error is none. -/
theorem not_definite {e : RuntimeError} (h : ∀ consumed, e ≠ .outOfFuel consumed) :
    ¬Definite (.error e : Except RuntimeError (ExecutionResult V × ExecutionStats)) := by
  rintro (⟨x, hx⟩ | ⟨consumed, hc⟩)
  · simp at hx
  · exact h consumed (Except.error.inj hc)

/-- **The second machine's answer is the first one's, or indefinite.** -/
theorem executeInner_trace {i₁ : Instance σ} {r₁ : GuestRun σ}
    (h : callMain ext limits₁ module state initState event isOwner = .ok (i₁, r₁))
    (hown : OwnEnd r₁.outcome) (limits₂ : WasmLimits) :
    executeInner ext limits₂ module state initState event isOwner = finishCall ext r₁ ∨
      ¬Definite (executeInner ext limits₂ module state initState event isOwner) := by
  have hsecond : SecondNode ext limits₁ limits₂ module state initState event isOwner i₁ r₁ :=
    callMain_trace h hown
  obtain ⟨hstaging, hinstance, hmain⟩ := hsecond
  by_cases hfits : StagingFits ext limits₂ state initState event
  · by_cases hinst : InstanceFits limits₂ module i₁
    · obtain ⟨i₂, r₂, hcall₂, -, hfollow, hstop⟩ := hmain hfits hinst
      by_cases hall : AllWithin limits₂ r₁.events
      · refine Or.inl ?_
        rw [executeInner_called hcall₂]
        exact (finishCall_follow (hfollow hall)).symm
      · obtain ⟨e, he, hd⟩ := hstop hall
        rw [executeInner_of_failure hcall₂ he (by simp [hd])]
        exact Or.inr (not_definite (by simp))
    · obtain ⟨details, hd⟩ := hinstance hfits hinst
      refine Or.inr ?_
      unfold executeInner
      rw [hd]
      exact not_definite (by simp)
  · obtain ⟨details, hd⟩ := hstaging hfits
    refine Or.inr ?_
    unfold executeInner
    rw [hd]
    exact not_definite (by simp)

/-- **With larger caps it is the first one's.** -/
theorem executeInner_grown {i₁ : Instance σ} {r₁ : GuestRun σ} (hle : CapsLe limits₁ limits₂)
    (h : callMain ext limits₁ module state initState event isOwner = .ok (i₁, r₁))
    (hown : OwnEnd r₁.outcome) :
    executeInner ext limits₂ module state initState event isOwner = finishCall ext r₁ := by
  obtain ⟨hfits, hinst, hall⟩ := completes_fits hle h
  have hsecond : SecondNode ext limits₁ limits₂ module state initState event isOwner i₁ r₁ :=
    callMain_trace h hown
  obtain ⟨i₂, r₂, hcall₂, -, hfollow, -⟩ := hsecond.main hfits hinst
  rw [executeInner_called hcall₂]
  exact (finishCall_follow (hfollow hall)).symm

/-- The errors of moving data: a text that could not be made or read, or memory that was not there. -/
def DataError (e : RuntimeError) : Prop :=
  (∃ context details, e = .serializationError context details) ∨
    ∃ details, e = .memoryAllocationFailed details

theorem stageValue_dataError {m : MemoryManager} {value : V} {e : RuntimeError}
    (h : stageValue ext m value = .error e) : DataError e := by
  unfold stageValue valueToContractData at h
  cases hser : ext.json.toVec value with
  | error details =>
      rw [hser] at h
      obtain rfl := Except.error.inj h
      exact Or.inl ⟨_, _, rfl⟩
  | ok payload =>
      rw [hser] at h
      simp only at h
      by_cases hlen : payload.length ≤ u32Max
      · by_cases hfits : m.Fits (4 + payload.length)
        · have hok : writeContractData m ⟨payload⟩ = (.ok _, _) := writeContractData_fits hlen hfits
          rw [hok] at h
          simp at h
        · obtain ⟨details, hd⟩ : ∃ details, writeContractData m ⟨payload⟩
              = (.error (.memoryAllocationFailed details), m) := writeContractData_refused hlen hfits
          rw [hd] at h
          obtain rfl := Except.error.inj h
          exact Or.inr ⟨details, rfl⟩
      · unfold writeContractData at h
        simp only [if_neg hlen] at h
        obtain rfl := Except.error.inj h
        exact Or.inl ⟨_, _, rfl⟩

theorem staging_dataError {e : RuntimeError}
    (h : generateExecutionContext ext state initState event limits₁ = .error e) : DataError e := by
  unfold generateExecutionContext at h
  split at h
  · rename_i e' hstage
    obtain rfl := Except.error.inj h
    exact stageValue_dataError hstage
  · split at h
    · rename_i e' hstage
      obtain rfl := Except.error.inj h
      exact stageValue_dataError hstage
    · split at h
      · rename_i e' hstage
        obtain rfl := Except.error.inj h
        exact stageValue_dataError hstage
      · simp at h

theorem getExecutionResult_dataError {store : Store} {p : Word} {e : RuntimeError}
    (h : getExecutionResult ext store p = .error e) : DataError e := by
  unfold getExecutionResult at h
  split at h
  · obtain rfl := Except.error.inj h
    exact Or.inr ⟨_, rfl⟩
  · split at h
    · obtain rfl := Except.error.inj h
      exact Or.inl ⟨_, _, rfl⟩
    · split at h
      · obtain rfl := Except.error.inj h
        exact Or.inl ⟨_, _, rfl⟩
      · simp at h

/-- Before the guest is called nothing is said of its fuel. -/
theorem callMain_error {e : RuntimeError}
    (h : callMain ext limits₁ module state initState event isOwner = .error e) :
    DataError e ∨ (∃ details, e = .instantiationFailed details) ∨
      e = .entryPointNotFound "main_function" := by
  unfold callMain at h
  split at h
  · rename_i e' hgen
    obtain rfl := Except.error.inj h
    exact Or.inl (staging_dataError hgen)
  · split at h
    · obtain rfl := Except.error.inj h
      exact Or.inr (Or.inl ⟨_, rfl⟩)
    · split at h
      · obtain rfl := Except.error.inj h
        exact Or.inr (Or.inr rfl)
      · simp at h

/-- The error of a run that ran dry. -/
theorem downcastTrap_dry {e : WasmError} (h : e.downcastTrap = some .outOfFuel) :
    e = .trap .outOfFuel := by
  cases e with
  | trap t =>
      obtain rfl := Option.some.inj h
      rfl
  | host e => simp [WasmError.downcastTrap] at h
  | memoryAccess => simp [WasmError.downcastTrap] at h
  | growRefused desired => simp [WasmError.downcastTrap] at h
  | resourceLimit details => simp [WasmError.downcastTrap] at h
  | unknownImport module name => simp [WasmError.downcastTrap] at h

/-- No request is refused for want of fuel. -/
theorem ownEnd_dry : OwnEnd (.error (.trap .outOfFuel) : Except WasmError (Word × σ)) := by
  intro op s e t hrefused heq
  obtain rfl := Except.error.inj heq
  exact (exec_error hrefused).notDry rfl

/-- A call is reported as out of fuel when it ran dry, and only then. -/
theorem finishCall_dry {r : GuestRun σ} {consumed : Nat}
    (h : finishCall ext r = .error (.outOfFuel consumed)) :
    r.outcome = .error (.trap .outOfFuel) := by
  unfold finishCall at h
  cases hout : r.outcome with
  | ok x =>
      rw [hout] at h
      simp only at h
      split at h
      · rename_i e hres
        obtain rfl := Except.error.inj h
        rcases getExecutionResult_dataError hres with ⟨_, _, hno⟩ | ⟨_, hno⟩ <;> simp at hno
      · simp at h
  | error e =>
      rw [hout] at h
      simp only at h
      split at h
      · rename_i hdry
        rw [downcastTrap_dry hdry]
      · simp at h

/-- What a finished call is reported as, when it is an error. -/
theorem finishCall_error {r : GuestRun σ} {e : RuntimeError} (h : finishCall ext r = .error e) :
    DataError e ∨ (∃ consumed, e = .outOfFuel consumed) ∨
      ∃ details, e = .contractExecutionFailed details := by
  unfold finishCall at h
  cases hout : r.outcome with
  | ok x =>
      rw [hout] at h
      simp only at h
      split at h
      · rename_i e' hres
        obtain rfl := Except.error.inj h
        exact Or.inl (getExecutionResult_dataError hres)
      · simp at h
  | error e' =>
      rw [hout] at h
      simp only at h
      split at h
      · obtain rfl := Except.error.inj h
        exact Or.inr (Or.inl ⟨_, rfl⟩)
      · obtain rfl := Except.error.inj h
        exact Or.inr (Or.inr ⟨_, rfl⟩)

/-- A definite answer is that of a call that ended for reasons of its own. -/
theorem definite_called
    (h : Definite (executeInner ext limits₁ module state initState event isOwner)) :
    ∃ inst r, callMain ext limits₁ module state initState event isOwner = .ok (inst, r) ∧
      OwnEnd r.outcome := by
  rcases h with ⟨⟨result, stats⟩, hok⟩ | ⟨consumed, hdry⟩
  · obtain ⟨inst, r, p, q, hcall, hout, -⟩ := executeInner_ok hok
    exact ⟨inst, r, hcall, hout ▸ ownEnd_ok (p, q)⟩
  · cases hcall : callMain ext limits₁ module state initState event isOwner with
    | error e =>
        unfold executeInner at hdry
        rw [hcall] at hdry
        obtain rfl := Except.error.inj hdry
        rcases callMain_error hcall with (⟨_, _, hno⟩ | ⟨_, hno⟩) | ⟨_, hno⟩ | hno <;> simp at hno
    | ok x =>
        obtain ⟨inst, r⟩ := x
        rw [executeInner_called hcall] at hdry
        exact ⟨inst, r, rfl, finishCall_dry hdry ▸ ownEnd_dry⟩

/-- **Two definite answers are the same.** -/
theorem definite_same (h₁ : Definite (executeInner ext limits₁ module state initState event isOwner))
    (h₂ : Definite (executeInner ext limits₂ module state initState event isOwner)) :
    executeInner ext limits₁ module state initState event isOwner
      = executeInner ext limits₂ module state initState event isOwner := by
  obtain ⟨inst, r, hcall, hown⟩ := definite_called h₁
  rcases executeInner_trace hcall hown limits₂ with heq | hno
  · rw [heq]
    exact executeInner_called hcall
  · exact absurd h₂ hno

/-- **A definite answer is given by every larger machine.** -/
theorem definite_grown (hle : CapsLe limits₁ limits₂)
    (h₁ : Definite (executeInner ext limits₁ module state initState event isOwner)) :
    executeInner ext limits₁ module state initState event isOwner
      = executeInner ext limits₂ module state initState event isOwner := by
  obtain ⟨inst, r, hcall, hown⟩ := definite_called h₁
  rw [executeInner_grown hle hcall hown]
  exact executeInner_called hcall

/--
**Ok and out of fuel are verdicts of the fleet.**

For any module, inputs and two sets of limits.  No machine answers `Ok` where
another ran dry; two `Ok`s have the same result, fuel and memory, and two runs dry
the same consumption; and what a machine is definite about, a larger one is too.
-/
theorem definite_agree {V σ : Type} (ext : Externals V) (limits₁ limits₂ : WasmLimits)
    (module : WasmModule σ) (state initState event : V) (isOwner : Bool) :
    (∀ x consumed, executeInner ext limits₁ module state initState event isOwner = .ok x →
      executeInner ext limits₂ module state initState event isOwner
        ≠ .error (.outOfFuel consumed)) ∧
    (∀ x₁ x₂, executeInner ext limits₁ module state initState event isOwner = .ok x₁ →
      executeInner ext limits₂ module state initState event isOwner = .ok x₂ → x₁ = x₂) ∧
    (∀ c₁ c₂, executeInner ext limits₁ module state initState event isOwner
        = .error (.outOfFuel c₁) →
      executeInner ext limits₂ module state initState event isOwner = .error (.outOfFuel c₂) →
      c₁ = c₂) ∧
    (CapsLe limits₁ limits₂ →
      Definite (executeInner ext limits₁ module state initState event isOwner) →
      executeInner ext limits₂ module state initState event isOwner
        = executeInner ext limits₁ module state initState event isOwner) := by
  refine ⟨?_, ?_, ?_, fun hle h₁ => (definite_grown hle h₁).symm⟩
  · intro x consumed h₁ h₂
    have hsame := definite_same (Or.inl ⟨x, h₁⟩) (Or.inr ⟨consumed, h₂⟩)
    rw [h₁, h₂] at hsame
    simp at hsame
  · intro x₁ x₂ h₁ h₂
    have hsame := definite_same (Or.inl ⟨x₁, h₁⟩) (Or.inl ⟨x₂, h₂⟩)
    rw [h₁, h₂] at hsame
    exact Except.ok.inj hsame
  · intro c₁ c₂ h₁ h₂
    have hsame := definite_same (Or.inr ⟨c₁, h₁⟩) (Or.inr ⟨c₂, h₂⟩)
    rw [h₁, h₂] at hsame
    simpa using hsame

end Answers

/-! ### Replicas -/

section Replicas

variable {V σ : Type} {ext : Externals V} {module : WasmModule σ} {initState : V}

/-- The same event, on whatever machines. -/
def SameTurn (t₁ t₂ : Turn V) : Prop := t₁.event = t₂.event ∧ t₁.isOwner = t₂.isOwner

/-- The same event, the second time on a machine with larger caps. -/
def LargerTurn (t₁ t₂ : Turn V) : Prop := SameTurn t₁ t₂ ∧ CapsLe t₁.machine.limits t₂.machine.limits

theorem SameTurn.answer_eq {t₁ t₂ : Turn V} {value : V} (h : SameTurn t₁ t₂) :
    t₂.answer ext module initState value
      = executeInner ext t₂.machine.limits module value initState t₁.event t₁.isOwner := by
  rw [Turn.answer, h.1, h.2]

/-- The same answer is applied alike. -/
theorem applyTurn_congr {t₁ t₂ : Turn V} {value : V}
    (h : t₁.answer ext module initState value = t₂.answer ext module initState value) :
    applyTurn ext module initState value t₁ = applyTurn ext module initState value t₂ := by
  unfold applyTurn
  rw [h]

/-- Every answer on the way was definite. -/
def Unstopped (ext : Externals V) (module : WasmModule σ) (initState value : V)
    (turns : List (Turn V)) : Prop :=
  ∀ a ∈ answers ext module initState value turns, Definite a

theorem Unstopped.cons {turn : Turn V} {rest : List (Turn V)} {value : V}
    (h : Unstopped ext module initState value (turn :: rest)) :
    Definite (turn.answer ext module initState value) ∧
      Unstopped ext module initState (applyTurn ext module initState value turn) rest :=
  List.forall_mem_cons.mp h

/-- Two lives that went alike: the same answers, and the same state at the end. -/
def Alike (ext : Externals V) (module : WasmModule σ) (initState value : V)
    (turns₁ turns₂ : List (Turn V)) : Prop :=
  answers ext module initState value turns₁ = answers ext module initState value turns₂ ∧
    live ext module initState value turns₁ = live ext module initState value turns₂

theorem Alike.cons {t₁ t₂ : Turn V} {rest₁ rest₂ : List (Turn V)} {value : V}
    (hsame : t₁.answer ext module initState value = t₂.answer ext module initState value)
    (h : Alike ext module initState (applyTurn ext module initState value t₁) rest₁ rest₂) :
    Alike ext module initState value (t₁ :: rest₁) (t₂ :: rest₂) := by
  obtain ⟨hanswers, hlive⟩ := h
  rw [applyTurn_congr hsame] at hanswers hlive
  constructor
  · rw [answers, answers, hsame, applyTurn_congr hsame, hanswers]
  · show live ext module initState (applyTurn ext module initState value t₁) rest₁
      = live ext module initState (applyTurn ext module initState value t₂) rest₂
    rw [applyTurn_congr hsame]
    exact hlive

/-- Two unstopped replicas. -/
theorem alike_of_unstopped : ∀ {turns₁ turns₂ : List (Turn V)} (value : V),
    List.Forall₂ SameTurn turns₁ turns₂ → Unstopped ext module initState value turns₁ →
      Unstopped ext module initState value turns₂ →
        Alike ext module initState value turns₁ turns₂ := by
  intro turns₁ turns₂ value h
  induction h generalizing value with
  | nil => intro _ _; exact ⟨rfl, rfl⟩
  | @cons t₁ t₂ rest₁ rest₂ hturn _ ih =>
      intro h₁ h₂
      obtain ⟨hd₁, hrest₁⟩ := h₁.cons
      obtain ⟨hd₂, hrest₂⟩ := h₂.cons
      have hsame : t₁.answer ext module initState value
          = t₂.answer ext module initState value := by
        rw [hturn.answer_eq] at hd₂ ⊢
        exact definite_same hd₁ hd₂
      rw [← applyTurn_congr hsame] at hrest₂
      exact Alike.cons hsame (ih _ hrest₁ hrest₂)

/-- A replica on larger machines than an unstopped one. -/
theorem alike_of_larger : ∀ {turns₁ turns₂ : List (Turn V)} (value : V),
    List.Forall₂ LargerTurn turns₁ turns₂ → Unstopped ext module initState value turns₁ →
      Alike ext module initState value turns₁ turns₂ := by
  intro turns₁ turns₂ value h
  induction h generalizing value with
  | nil => intro _; exact ⟨rfl, rfl⟩
  | @cons t₁ t₂ rest₁ rest₂ hturn _ ih =>
      intro h₁
      obtain ⟨hd₁, hrest₁⟩ := h₁.cons
      have hsame : t₁.answer ext module initState value
          = t₂.answer ext module initState value := by
        rw [hturn.1.answer_eq]
        exact definite_grown hturn.2 hd₁
      exact Alike.cons hsame (ih _ hrest₁)

/--
**Replicas that were never stopped agree, event by event.**

Each event may have been executed on machines of any two sizes: if all answers on
both sides are definite, they are the same answers, and the two replicas end with
the same state.  And a replica whose machines are the larger ones is not stopped
where the other was not.
-/
theorem lives_agree {V σ : Type} (ext : Externals V) (module : WasmModule σ) (initState : V) :
    ∀ (turns₁ turns₂ : List (Turn V)) (value : V),
      (List.Forall₂ SameTurn turns₁ turns₂ → Unstopped ext module initState value turns₁ →
        Unstopped ext module initState value turns₂ →
        Alike ext module initState value turns₁ turns₂) ∧
      (List.Forall₂ LargerTurn turns₁ turns₂ → Unstopped ext module initState value turns₁ →
        Alike ext module initState value turns₁ turns₂) :=
  fun _ _ value => ⟨alike_of_unstopped value, alike_of_larger value⟩

end Replicas

end Ave
