/-
Deterministic programs that run on a meter and ask a host.

A program is a coalgebra: from its state it makes one move, which is to ask the
host for something and go on with the answer, to return, or to fail.  The host is
a handler: it answers a request or refuses it, and keeps a state of its own.
`run` pays one unit of fuel for every move and stops dry when there is none left.
Nothing bounds the program but the fuel, and nothing it does depends on anything
but the answers it was given.

The theorem the file is for compares one program under two hosts.  Suppose that
whenever the first host answers a request, the second either gives the same
answer or refuses.  Then the second run is the first run until the first refusal:
if the second host admits every request of the first run, the two runs are the
same, and if it does not, the second run ends in a refusal (`run_trace`).

Straight-line programs are easier to write as trees than as coalgebras.  `Prog`
is the tree of requests, `Prog.eval` what it does when fuel is no concern, and
`eval_of_run` says a run that returned did just that.  A tree also has a size, the
number of requests it can make, and a run with more fuel than that does not run dry
(`Sized.run`).
-/
import Mathlib.Tactic.Common

namespace Metered

/-- What a program does next: `σ` is the type of its states. -/
inductive Move (Op : Type) (Answer : Op → Type) (R E σ : Type) where
  | ask (op : Op) (k : Answer op → σ)
  | ret (r : R) (s : σ)
  | fail (e : E)

/-- The same move, with its failure read as another type of failure. -/
def Move.mapFail {Op : Type} {Answer : Op → Type} {R E E' σ : Type} (f : E → E') :
    Move Op Answer R E σ → Move Op Answer R E' σ
  | .ask op k => .ask op k
  | .ret r s => .ret r s
  | .fail e => .fail (f e)

/-- A host: it answers a request or refuses it. -/
abbrev Handler (Op : Type) (Answer : Op → Type) (S E : Type) :=
  (op : Op) → S → Except E (Answer op) × S

/-- A request that was answered, with the host's state when it was made. -/
structure Event (Op : Type) (Answer : Op → Type) (S : Type) where
  before : S
  op : Op
  answer : Answer op

/-- The request and its answer, without the host's state. -/
def Event.call {Op : Type} {Answer : Op → Type} {S : Type} (e : Event Op Answer S) :
    Σ op, Answer op := ⟨e.op, e.answer⟩

/-- A finished run. -/
structure Run (Op : Type) (Answer : Op → Type) (S R E σ : Type) where
  events : List (Event Op Answer S)
  final : S
  fuel : Nat
  outcome : Except E (R × σ)

variable {Op : Type} {Answer : Op → Type} {S R E σ : Type}

/-- The requests of a run and their answers. -/
def Run.calls (r : Run Op Answer S R E σ) : List (Σ op, Answer op) := r.events.map Event.call

/-- One more event in front of a run. -/
def Run.push (e : Event Op Answer S) (r : Run Op Answer S R E σ) : Run Op Answer S R E σ :=
  { r with events := e :: r.events }

/-- Runs a program on a budget; `dry` is the failure of a run that has used it up. -/
def run (step : σ → Move Op Answer R E σ) (handle : Handler Op Answer S E) (dry : E) :
    Nat → σ → S → Run Op Answer S R E σ
  | 0, _, s => { events := [], final := s, fuel := 0, outcome := .error dry }
  | fuel + 1, q, s =>
      match step q with
      | .ret r q' => { events := [], final := s, fuel, outcome := .ok (r, q') }
      | .fail e => { events := [], final := s, fuel, outcome := .error e }
      | .ask op k =>
          match handle op s with
          | (.error e, s') => { events := [], final := s', fuel, outcome := .error e }
          | (.ok a, s') => Run.push ⟨s, op, a⟩ (run step handle dry fuel (k a) s')

/-! ### One move of a run -/

section Steps

variable {step : σ → Move Op Answer R E σ} {handle : Handler Op Answer S E} {dry : E}
  {fuel : Nat} {q : σ} {s : S}

theorem run_zero : run step handle dry 0 q s =
    { events := [], final := s, fuel := 0, outcome := .error dry } := rfl

theorem run_ret {r : R} {q' : σ} (h : step q = .ret r q') :
    run step handle dry (fuel + 1) q s =
      { events := [], final := s, fuel, outcome := .ok (r, q') } := by
  rw [run, h]

theorem run_fail {e : E} (h : step q = .fail e) : run step handle dry (fuel + 1) q s =
    { events := [], final := s, fuel, outcome := .error e } := by
  rw [run, h]

theorem run_refused {op : Op} {k : Answer op → σ} {e : E} {s' : S} (h : step q = .ask op k)
    (hh : handle op s = (.error e, s')) : run step handle dry (fuel + 1) q s =
      { events := [], final := s', fuel, outcome := .error e } := by
  rw [run, h]
  simp only [hh]

theorem run_answered {op : Op} {k : Answer op → σ} {a : Answer op} {s' : S}
    (h : step q = .ask op k) (hh : handle op s = (.ok a, s')) :
    run step handle dry (fuel + 1) q s =
      Run.push ⟨s, op, a⟩ (run step handle dry fuel (k a) s') := by
  rw [run, h]
  simp only [hh]

end Steps

@[simp] theorem push_outcome (e : Event Op Answer S) (r : Run Op Answer S R E σ) :
    (r.push e).outcome = r.outcome := rfl

@[simp] theorem push_final (e : Event Op Answer S) (r : Run Op Answer S R E σ) :
    (r.push e).final = r.final := rfl

@[simp] theorem push_events (e : Event Op Answer S) (r : Run Op Answer S R E σ) :
    (r.push e).events = e :: r.events := rfl

@[simp] theorem push_calls (e : Event Op Answer S) (r : Run Op Answer S R E σ) :
    (r.push e).calls = e.call :: r.calls := rfl

/-! ### Invariants of a run -/

/-- Every answered request of a run was one the host admits. -/
theorem run_admitted {step : σ → Move Op Answer R E σ} {handle : Handler Op Answer S E} {dry : E}
    {Inv : S → Prop} {Admits : Op → S → Prop}
    (hstep : ∀ op s a s', Inv s → handle op s = (.ok a, s') → Admits op s ∧ Inv s') :
    ∀ (fuel : Nat) (q : σ) (s : S), Inv s →
      ∀ e ∈ (run step handle dry fuel q s).events, Admits e.op e.before := by
  intro fuel
  induction fuel with
  | zero => intro q s _ e he; simp [run_zero] at he
  | succ fuel ih =>
      intro q s hinv e he
      cases hmove : step q with
      | ret r q' => rw [run_ret hmove] at he; simp at he
      | fail e => rw [run_fail hmove] at he; simp at he
      | ask op k =>
          cases hh : handle op s with
          | mk answer s' =>
              cases answer with
              | error e => rw [run_refused hmove hh] at he; simp at he
              | ok a =>
                  obtain ⟨hadm, hinv'⟩ := hstep op s a s' hinv hh
                  rw [run_answered hmove hh, push_events] at he
                  rcases List.mem_cons.mp he with rfl | hold
                  · exact hadm
                  · exact ih _ _ hinv' e hold

/-- What every request keeps holds where a run ends. -/
theorem run_keeps {step : σ → Move Op Answer R E σ} {handle : Handler Op Answer S E} {dry : E}
    {Inv : S → Prop} (hkeep : ∀ op s, Inv s → Inv (handle op s).2) :
    ∀ (fuel : Nat) (q : σ) (s : S), Inv s → Inv (run step handle dry fuel q s).final := by
  intro fuel
  induction fuel with
  | zero => intro q s h; exact h
  | succ fuel ih =>
      intro q s h
      cases hmove : step q with
      | ret r q' => rw [run_ret hmove]; exact h
      | fail e => rw [run_fail hmove]; exact h
      | ask op k =>
          have hnext : Inv (handle op s).2 := hkeep op s h
          rcases hh : handle op s with ⟨_ | a, s'⟩
          · rw [run_refused hmove hh]
            rw [hh] at hnext
            exact hnext
          · rw [run_answered hmove hh, push_final]
            rw [hh] at hnext
            exact ih (k a) s' hnext

/-- **What no request lowers is highest where a run ends.** -/
theorem run_rises {step : σ → Move Op Answer R E σ} {handle : Handler Op Answer S E} {dry : E}
    {measure : S → Nat} (hrise : ∀ op s, measure s ≤ measure (handle op s).2) :
    ∀ (fuel : Nat) (q : σ) (s : S), measure s ≤ measure (run step handle dry fuel q s).final ∧
      ∀ e ∈ (run step handle dry fuel q s).events,
        measure e.before ≤ measure (run step handle dry fuel q s).final := by
  intro fuel
  induction fuel with
  | zero => intro q s; exact ⟨Nat.le_refl _, by simp [run_zero]⟩
  | succ fuel ih =>
      intro q s
      cases hmove : step q with
      | ret r q' => rw [run_ret hmove]; exact ⟨Nat.le_refl _, by simp⟩
      | fail e => rw [run_fail hmove]; exact ⟨Nat.le_refl _, by simp⟩
      | ask op k =>
          have hnext : measure s ≤ measure (handle op s).2 := hrise op s
          rcases hh : handle op s with ⟨_ | a, s'⟩
          · rw [run_refused hmove hh]
            rw [hh] at hnext
            exact ⟨hnext, by simp⟩
          · rw [run_answered hmove hh, push_final, push_events]
            rw [hh] at hnext
            obtain ⟨hfinal, hevents⟩ := ih (k a) s'
            have hfirst := Nat.le_trans hnext hfinal
            exact ⟨hfirst, List.forall_mem_cons.mpr ⟨hfirst, hevents⟩⟩

/-- A run does not gain fuel. -/
theorem run_fuel_le {step : σ → Move Op Answer R E σ} {handle : Handler Op Answer S E} {dry : E} :
    ∀ (fuel : Nat) (q : σ) (s : S), (run step handle dry fuel q s).fuel ≤ fuel := by
  intro fuel
  induction fuel with
  | zero => intro q s; exact Nat.le_refl _
  | succ fuel ih =>
      intro q s
      cases hmove : step q with
      | ret r q' => rw [run_ret hmove]; exact Nat.le_succ _
      | fail e => rw [run_fail hmove]; exact Nat.le_succ _
      | ask op k =>
          rcases hh : handle op s with ⟨_ | a, s'⟩
          · rw [run_refused hmove hh]
            exact Nat.le_succ _
          · rw [run_answered hmove hh]
            exact Nat.le_succ_of_le (ih (k a) s')

/-- A program that always has one more answered request to make uses up any budget. -/
theorem run_dry {step : σ → Move Op Answer R E σ} {handle : Handler Op Answer S E} {dry : E}
    {Going : σ → S → Prop}
    (hgoing : ∀ q s, Going q s → ∃ op k a s', step q = .ask op k ∧ handle op s = (.ok a, s') ∧
      Going (k a) s') :
    ∀ (fuel : Nat) (q : σ) (s : S), Going q s →
      (run step handle dry fuel q s).outcome = .error dry := by
  intro fuel
  induction fuel with
  | zero => intro q s _; rw [run_zero]
  | succ fuel ih =>
      intro q s h
      obtain ⟨op, k, a, s', hstep, hh, hnext⟩ := hgoing q s h
      rw [run_answered hstep hh, push_outcome]
      exact ih (k a) s' hnext

/-! ### One program under two hosts -/

/-- The two runs made the same requests, got the same answers and ended alike. -/
structure Follows (Rel : S → S → Prop) (r₁ r₂ : Run Op Answer S R E σ) : Prop where
  calls : r₁.calls = r₂.calls
  outcome : r₁.outcome = r₂.outcome
  fuel : r₁.fuel = r₂.fuel
  final : Rel r₁.final r₂.final

theorem Follows.push {Rel : S → S → Prop} {r₁ r₂ : Run Op Answer S R E σ} (h : Follows Rel r₁ r₂)
    (s₁ s₂ : S) (op : Op) (a : Answer op) :
    Follows Rel (r₁.push ⟨s₁, op, a⟩) (r₂.push ⟨s₂, op, a⟩) :=
  ⟨by rw [push_calls, push_calls, h.calls]; rfl, h.outcome, h.fuel, h.final⟩

/-- The second host gives the first one's answers, except to what it does not admit. -/
structure Curbs (Rel : S → S → Prop) (Admits : Op → S → Prop) (Refusal : E → Prop)
    (h₁ h₂ : Handler Op Answer S E) : Prop where
  answers : ∀ op s₁ s₂ a t₁, Rel s₁ s₂ → h₁ op s₁ = (.ok a, t₁) → Admits op s₁ →
    ∃ t₂, h₂ op s₂ = (.ok a, t₂) ∧ Rel t₁ t₂
  refuses : ∀ op s₁ s₂ a t₁, Rel s₁ s₂ → h₁ op s₁ = (.ok a, t₁) → ¬Admits op s₁ →
    ∃ e t₂, h₂ op s₂ = (.error e, t₂) ∧ Refusal e

variable {Rel : S → S → Prop} {Admits : Op → S → Prop} {Refusal : E → Prop}
  {h₁ h₂ : Handler Op Answer S E}

/--
**The second run is the first one until the first refusal.**

For a first run that ended for reasons of its own: it returned, failed, or ran dry,
and was not itself refused.  Induction on the fuel: the two programs are in the same
state, so they make the same move, and the hosts' states stay related.
-/
theorem run_trace (step : σ → Move Op Answer R E σ) (dry : E)
    (hc : Curbs Rel Admits Refusal h₁ h₂) {x : Except E (R × σ)}
    (hown : ∀ op s e t, h₁ op s = (.error e, t) → x ≠ .error e) :
    ∀ (fuel : Nat) (q : σ) (s₁ s₂ : S), Rel s₁ s₂ →
      (run step h₁ dry fuel q s₁).outcome = x →
      ((∀ e ∈ (run step h₁ dry fuel q s₁).events, Admits e.op e.before) →
        Follows Rel (run step h₁ dry fuel q s₁) (run step h₂ dry fuel q s₂)) ∧
      ((¬∀ e ∈ (run step h₁ dry fuel q s₁).events, Admits e.op e.before) →
        ∃ e, (run step h₂ dry fuel q s₂).outcome = .error e ∧ Refusal e) := by
  intro fuel
  induction fuel with
  | zero =>
      intro q s₁ s₂ hrel _
      rw [run_zero, run_zero]
      exact ⟨fun _ => ⟨rfl, rfl, rfl, hrel⟩, fun hn => absurd (by simp) hn⟩
  | succ fuel ih =>
      intro q s₁ s₂ hrel hx
      cases hstep : step q with
      | ret r q' =>
          rw [run_ret hstep, run_ret hstep]
          exact ⟨fun _ => ⟨rfl, rfl, rfl, hrel⟩, fun hn => absurd (by simp) hn⟩
      | fail e =>
          rw [run_fail hstep, run_fail hstep]
          exact ⟨fun _ => ⟨rfl, rfl, rfl, hrel⟩, fun hn => absurd (by simp) hn⟩
      | ask op k =>
          cases hh : h₁ op s₁ with
          | mk answer t₁ =>
              cases answer with
              | error e =>
                  rw [run_refused hstep hh] at hx
                  exact absurd hx.symm (hown op s₁ e t₁ hh)
              | ok a =>
                  rw [run_answered hstep hh, push_outcome] at hx
                  rw [run_answered hstep hh, push_events]
                  by_cases hadm : Admits op s₁
                  · obtain ⟨t₂, hh₂, hrel'⟩ := hc.answers op s₁ s₂ a t₁ hrel hh hadm
                    obtain ⟨hsame, hstop⟩ := ih (k a) t₁ t₂ hrel' hx
                    rw [run_answered hstep hh₂]
                    refine ⟨fun hall => ?_, fun hn => ?_⟩
                    · exact (hsame fun e he => hall e (List.mem_cons_of_mem _ he)).push s₁ s₂ op a
                    · rw [push_outcome]
                      refine hstop fun hall => hn ?_
                      intro e he
                      rcases List.mem_cons.mp he with rfl | hold
                      · exact hadm
                      · exact hall e hold
                  · obtain ⟨e, t₂, hh₂, href⟩ := hc.refuses op s₁ s₂ a t₁ hrel hh hadm
                    rw [run_refused hstep hh₂]
                    exact ⟨fun hall => absurd (hall _ List.mem_cons_self) hadm,
                      fun _ => ⟨e, rfl, href⟩⟩

/-! ### Straight-line programs as trees -/

/-- A program written as the tree of its requests. -/
inductive Prog (Op : Type) (Answer : Op → Type) (F α : Type) where
  | ret (a : α)
  | ask (op : Op) (k : Answer op → Prog Op Answer F α)
  | fail (e : F)

namespace Prog

variable {F α β : Type}

/-- One program after another. -/
def bind : Prog Op Answer F α → (α → Prog Op Answer F β) → Prog Op Answer F β
  | .ret a, f => f a
  | .ask op k, f => .ask op fun a => (k a).bind f
  | .fail e, _ => .fail e

instance : Monad (Prog Op Answer F) where
  pure := .ret
  bind := bind

/-- Sequencing does not depend on where the parts are divided. -/
theorem bind_assoc {γ : Type} (p : Prog Op Answer F α) (f : α → Prog Op Answer F β)
    (g : β → Prog Op Answer F γ) : p >>= f >>= g = p >>= fun a => f a >>= g := by
  induction p with
  | ret a => rfl
  | fail e => rfl
  | ask op k ih => exact congrArg (Prog.ask op) (funext ih)

/-- A single request. -/
def request (op : Op) : Prog Op Answer F (Answer op) := .ask op .ret

/-- What a program does when fuel is no concern; `lift` reads its own failures as the host's. -/
def eval (lift : F → E) (handle : Handler Op Answer S E) :
    Prog Op Answer F α → S → Except E α × S
  | .ret a, s => (.ok a, s)
  | .fail e, s => (.error (lift e), s)
  | .ask op k, s =>
      match handle op s with
      | (.error e, s') => (.error e, s')
      | (.ok a, s') => (k a).eval lift handle s'

/-- A tree as a coalgebra: its states are the subtrees still to do. -/
def step : Prog Op Answer F R → Move Op Answer R F (Prog Op Answer F R)
  | .ret r => .ret r (.ret r)
  | .ask op k => .ask op k
  | .fail e => .fail e

/-- The same, failing as the host does. -/
def stepAs (lift : F → E) (p : Prog Op Answer F R) : Move Op Answer R E (Prog Op Answer F R) :=
  (step p).mapFail lift

section Eval

variable {lift : F → E} {handle : Handler Op Answer S E}

theorem eval_request (op : Op) (s : S) :
    eval lift handle (request op) s = handle op s := by
  rw [request, eval]
  rcases handle op s with ⟨_ | _, _⟩ <;> rfl

/-- **A sequence does the first and, if it returned, the second.** -/
theorem eval_bind (f : α → Prog Op Answer F β) :
    ∀ (p : Prog Op Answer F α) (s : S), eval lift handle (p >>= f) s =
      match eval lift handle p s with
      | (.error e, s') => (.error e, s')
      | (.ok a, s') => eval lift handle (f a) s' := by
  intro p
  induction p with
  | ret a => intro s; rfl
  | fail e => intro s; rfl
  | ask op k ih =>
      intro s
      show eval lift handle (.ask op fun a => (k a).bind f) s = _
      rw [eval, eval]
      rcases handle op s with ⟨_ | a, s'⟩
      · rfl
      · exact ih a s'

/-- What a sequence that returned went through. -/
theorem eval_bind_ok {f : α → Prog Op Answer F β} {p : Prog Op Answer F α} {s t : S} {b : β}
    (h : eval lift handle (p >>= f) s = (.ok b, t)) :
    ∃ a s', eval lift handle p s = (.ok a, s') ∧ eval lift handle (f a) s' = (.ok b, t) := by
  rw [eval_bind] at h
  rcases hp : eval lift handle p s with ⟨_ | a, s'⟩
  · rw [hp] at h
    simp at h
  · rw [hp] at h
    exact ⟨a, s', rfl, h⟩

/-- **Two hosts that look alike are alike to a program.**  The one's state is read off the
other's by `view`. -/
theorem eval_view {T : Type} {host : Handler Op Answer T E} {view : S → T}
    (hview : ∀ op s, host op (view s) = ((handle op s).1, view (handle op s).2)) :
    ∀ (p : Prog Op Answer F α) (s : S), eval lift host p (view s) =
      ((eval lift handle p s).1, view (eval lift handle p s).2) := by
  intro p
  induction p with
  | ret a => intro s; rfl
  | fail e => intro s; rfl
  | ask op k ih =>
      intro s
      rw [eval, eval, hview]
      rcases handle op s with ⟨_ | a, s'⟩
      · rfl
      · exact ih a s'

/-- What every answered request keeps and every refused one leaves holds after a program. -/
theorem eval_keeps {Inv : S → Prop} (hkeep : ∀ op s, Inv s → Inv (handle op s).2) :
    ∀ (p : Prog Op Answer F α) (s : S), Inv s → Inv (eval lift handle p s).2 := by
  intro p
  induction p with
  | ret a => intro s h; exact h
  | fail e => intro s h; exact h
  | ask op k ih =>
      intro s h
      have hnext : Inv (handle op s).2 := hkeep op s h
      rw [eval]
      rcases hh : handle op s with ⟨_ | a, s'⟩
      · rw [hh] at hnext
        exact hnext
      · rw [hh] at hnext
        exact ih a s' hnext

/-- **A run that returned did what the tree does.** -/
theorem eval_of_run (dry : E) :
    ∀ (fuel : Nat) (p : Prog Op Answer F R) (s : S) (r : R) (q : Prog Op Answer F R),
      (run (stepAs lift) handle dry fuel p s).outcome = .ok (r, q) →
      eval lift handle p s = (.ok r, (run (stepAs lift) handle dry fuel p s).final) := by
  intro fuel
  induction fuel with
  | zero => intro p s r q h; simp [run_zero] at h
  | succ fuel ih =>
      intro p s r q h
      cases p with
      | ret r' =>
          have hstep : stepAs lift (.ret r' : Prog Op Answer F R) = .ret r' (.ret r') := rfl
          rw [run_ret hstep] at h ⊢
          simp only [Except.ok.injEq, Prod.mk.injEq] at h
          rw [eval, h.1]
      | fail e =>
          have hstep : stepAs lift (.fail e : Prog Op Answer F R) = .fail (lift e) := rfl
          rw [run_fail hstep] at h
          simp at h
      | ask op k =>
          have hstep : stepAs lift (.ask op k : Prog Op Answer F R) = .ask op k := rfl
          cases hh : handle op s with
          | mk answer s' =>
              cases answer with
              | error e => rw [run_refused hstep hh] at h; simp at h
              | ok a =>
                  rw [run_answered hstep hh, push_outcome] at h
                  rw [run_answered hstep hh, push_final, eval, hh]
                  exact ih (k a) s' r q h

end Eval

/-! ### Enough fuel -/

/-- A program that makes at most `n` requests, whatever the answers, and has no failure of its
own. -/
inductive Sized : Nat → Prog Op Answer F α → Prop where
  | ret {n : Nat} (a : α) : Sized n (.ret a)
  | ask {n : Nat} {op : Op} {k : Answer op → Prog Op Answer F α} (h : ∀ a, Sized n (k a)) :
      Sized (n + 1) (.ask op k)

section Sized

variable {lift : F → E} {handle : Handler Op Answer S E} {n m : Nat}

theorem Sized.request (op : Op) : Sized 1 (request op : Prog Op Answer F (Answer op)) :=
  .ask fun a => .ret a

theorem Sized.mono {p : Prog Op Answer F α} (h : Sized n p) (hle : n ≤ m) : Sized m p := by
  induction h generalizing m with
  | ret a => exact .ret a
  | ask h ih =>
      obtain ⟨m, rfl⟩ := Nat.exists_eq_add_of_le' (Nat.le_trans (Nat.le_add_left 1 _) hle)
      exact .ask fun a => ih a (Nat.le_of_succ_le_succ hle)

/-- **The requests of a sequence add up.** -/
theorem Sized.bind {p : Prog Op Answer F α} {f : α → Prog Op Answer F β} (h : Sized n p)
    (hf : ∀ a, Sized m (f a)) : Sized (n + m) (p >>= f) := by
  induction h with
  | ret a => exact (hf a).mono (Nat.le_add_left m _)
  | ask h ih =>
      rw [Nat.succ_add]
      exact .ask ih

/-- **With more fuel than requests to make, a run does what the tree does.** -/
theorem Sized.run {p : Prog Op Answer F R} (h : Sized n p) (dry : E) {fuel : Nat}
    (hfuel : n < fuel) (s : S) :
    (run (stepAs lift) handle dry fuel p s).outcome
      = (p.eval lift handle s).1.map fun r => (r, .ret r) := by
  induction h generalizing fuel s with
  | ret r =>
      obtain ⟨fuel, rfl⟩ := Nat.exists_eq_add_of_lt hfuel
      have hstep : stepAs lift (.ret r : Prog Op Answer F R) = .ret r (.ret r) := rfl
      rw [run_ret hstep]
      rfl
  | @ask n op k h ih =>
      obtain ⟨fuel, rfl⟩ := Nat.exists_eq_add_of_lt hfuel
      have hstep : stepAs lift (.ask op k : Prog Op Answer F R) = .ask op k := rfl
      rw [eval]
      rcases hh : handle op s with ⟨_ | a, s'⟩
      · rw [run_refused hstep hh]
        rfl
      · rw [run_answered hstep hh, push_outcome]
        exact ih a (by omega) s'

/-- What such a program fails with is a refusal of the host's. -/
theorem Sized.refused {p : Prog Op Answer F α} (h : Sized n p) {s t : S} {e : E}
    (heval : p.eval lift handle s = (.error e, t)) :
    ∃ op s', handle op s' = (.error e, t) := by
  induction h generalizing s with
  | ret a => simp [eval] at heval
  | @ask n op k h ih =>
      rw [eval] at heval
      rcases hh : handle op s with ⟨e' | a, s'⟩
      · rw [hh] at heval
        simp only [Prod.mk.injEq, Except.error.injEq] at heval
        obtain ⟨rfl, rfl⟩ := heval
        exact ⟨op, s, hh⟩
      · rw [hh] at heval
        exact ih a heval

end Sized

end Prog

end Metered
