/-
One way to keep counters and histograms by label.

A histogram has upper bounds in ascending order.  An observation is counted in the
first bucket whose bound is not below it, and the last bucket has no bound.  What a
reader is shown is cumulative, for each bound what was counted there or before; so
a reader is shown, for each bound, how many observations were at most that
(`Histogram.shown_ofList`).  That rests on the order of the bounds, and on nothing
else.  A family has one metric for each label, made when the label is first used.

Together they are a lawful client (`plain_lawful`).
-/
import AveContract.Lib.Tally
import Mathlib.Data.List.Induction

namespace Tally

/-! ### Histograms -/

/-- Buckets in order, each with its upper bound and what was counted there. -/
structure Histogram where
  buckets : List (Option Nat × Nat)
  count : Nat
  deriving DecidableEq, Repr

namespace Histogram

/-- An empty histogram. -/
def new (bounds : List Nat) : Histogram where
  buckets := (bounds.map fun bound => (some bound, 0)) ++ [(none, 0)]
  count := 0

/-- The value is at most the bound. -/
def under (value : Nat) : Option Nat → Bool
  | none => true
  | some bound => decide (value ≤ bound)

/-- Counts the value in the first bucket it is under. -/
def observeIn (value : Nat) : List (Option Nat × Nat) → List (Option Nat × Nat)
  | [] => []
  | (bound, n) :: rest =>
      if under value bound then (bound, n + 1) :: rest else (bound, n) :: observeIn value rest

/-- Records a value. -/
def observe (h : Histogram) (value : Nat) : Histogram where
  buckets := observeIn value h.buckets
  count := h.count + 1

/-- The buckets with everything before them added. -/
def cumulate : Nat → List (Option Nat × Nat) → List (Option Nat × Nat)
  | _, [] => []
  | acc, (bound, n) :: rest => (bound, acc + n) :: cumulate (acc + n) rest

/-- What a reader is shown. -/
def shown (h : Histogram) : List (Option Nat × Nat) := cumulate 0 h.buckets

/-- The histogram of a list of values. -/
def ofList (bounds values : List Nat) : Histogram := values.foldl observe (new bounds)

/-- Each bound is at most the next: what is under the one is under the other. -/
def Ascending (buckets : List (Option Nat × Nat)) : Prop :=
  buckets.Pairwise fun b c => ∀ value, under value b.1 → under value c.1

theorem ascending_new {bounds : List Nat} (h : bounds.Pairwise (· ≤ ·)) :
    Ascending (new bounds).buckets := by
  refine List.pairwise_append.mpr ⟨?_, List.pairwise_singleton _ _, ?_⟩
  · refine List.pairwise_map.mpr (h.imp fun {b c} hle value hunder => ?_)
    have hb : value ≤ b := of_decide_eq_true hunder
    exact decide_eq_true (Nat.le_trans hb hle)
  · intro b _ c hc value _
    rw [List.mem_singleton.mp hc]
    rfl

/-- Observing moves no bound. -/
theorem bounds_observeIn (value : Nat) : ∀ buckets : List (Option Nat × Nat),
    (observeIn value buckets).map (·.1) = buckets.map (·.1) := by
  intro buckets
  induction buckets with
  | nil => rfl
  | cons b rest ih =>
      obtain ⟨bound, n⟩ := b
      rw [observeIn]
      by_cases h : under value bound = true
      · rw [if_pos h]
        rfl
      · rw [if_neg h, List.map_cons, List.map_cons, ih]

theorem ascending_iff (buckets : List (Option Nat × Nat)) : Ascending buckets ↔
    (buckets.map (·.1)).Pairwise fun b c => ∀ value, under value b → under value c := by
  rw [List.pairwise_map]
  rfl

theorem Ascending.observeIn {buckets : List (Option Nat × Nat)} (h : Ascending buckets)
    (value : Nat) : Ascending (observeIn value buckets) := by
  rw [ascending_iff, bounds_observeIn, ← ascending_iff]
  exact h

/-- One more for every bound the value is under. -/
def bump (value : Nat) (b : Option Nat × Nat) : Option Nat × Nat :=
  (b.1, if under value b.1 then b.2 + 1 else b.2)

theorem cumulate_succ (value : Nat) : ∀ (acc : Nat) (buckets : List (Option Nat × Nat)),
    (∀ b ∈ buckets, under value b.1 = true) →
      cumulate (acc + 1) buckets = (cumulate acc buckets).map (bump value) := by
  intro acc buckets
  induction buckets generalizing acc with
  | nil => intro _; rfl
  | cons b rest ih =>
      intro h
      obtain ⟨bound, n⟩ := b
      obtain ⟨hfirst, hrest⟩ := List.forall_mem_cons.mp h
      rw [cumulate, cumulate, List.map_cons, Nat.add_right_comm, ih _ hrest, bump]
      simp only [hfirst, if_true]

/-- **Observing a value adds one wherever the value is under the bound.** -/
theorem cumulate_observeIn (value : Nat) : ∀ (acc : Nat) (buckets : List (Option Nat × Nat)),
    Ascending buckets →
      cumulate acc (observeIn value buckets) = (cumulate acc buckets).map (bump value) := by
  intro acc buckets
  induction buckets generalizing acc with
  | nil => intro _; rfl
  | cons b rest ih =>
      intro h
      obtain ⟨bound, n⟩ := b
      obtain ⟨hlater, hrest⟩ := List.pairwise_cons.mp h
      rw [observeIn]
      by_cases hunder : under value bound = true
      · rw [if_pos hunder, cumulate, cumulate, List.map_cons, ← Nat.add_assoc,
          cumulate_succ value _ _ fun b hb => hlater b hb value hunder, bump]
        simp only [hunder, if_true]
      · rw [if_neg hunder, cumulate, cumulate, List.map_cons, ih _ hrest, bump]
        simp only [if_neg hunder]

theorem cumulate_zero : ∀ bounds : List Nat,
    cumulate 0 ((bounds.map fun bound => (some bound, 0)) ++ [(none, 0)])
      = (bounds.map fun bound => (some bound, 0)) ++ [(none, 0)] := by
  intro bounds
  induction bounds with
  | nil => rfl
  | cons bound rest ih =>
      rw [List.map_cons, List.cons_append, cumulate, ih]

/--
**What a reader is shown for a bound is how many observations were at most that.**

Induction on the observations, from the last: each adds one for the bounds it is
under and leaves the order of the buckets alone.
-/
theorem shown_ofList {bounds : List Nat} (hsorted : bounds.Pairwise (· ≤ ·)) (values : List Nat) :
    (ofList bounds values).shown
      = (bounds.map fun bound => (some bound, values.countP fun value => decide (value ≤ bound)))
          ++ [(none, values.length)] := by
  have hinv : Ascending (ofList bounds values).buckets ∧ (ofList bounds values).shown
      = (bounds.map fun bound => (some bound, values.countP fun value => decide (value ≤ bound)))
          ++ [(none, values.length)] := by
    induction values using List.reverseRecOn with
    | nil => exact ⟨ascending_new hsorted, cumulate_zero bounds⟩
    | append_singleton values value ih =>
        obtain ⟨hasc, hshown⟩ := ih
        have hstep : ofList bounds (values ++ [value]) = (ofList bounds values).observe value :=
          List.foldl_append
        rw [hstep]
        refine ⟨hasc.observeIn value, ?_⟩
        show cumulate 0 (observeIn value (ofList bounds values).buckets) = _
        rw [cumulate_observeIn value 0 _ hasc]
        show ((ofList bounds values).shown).map (bump value) = _
        rw [hshown, List.map_append, List.map_map]
        congr 1
        · refine List.map_congr_left fun bound _ => ?_
          rw [List.countP_append, List.countP_singleton]
          show (some bound, if decide (value ≤ bound) then _ else _) = _
          by_cases hle : value ≤ bound
          · simp only [hle, decide_true, if_true]
          · simp only [hle, decide_false, Bool.false_eq_true, if_false, Nat.add_zero]
        · rw [List.length_append]
          rfl
  exact hinv.2

/-- So for one bound. -/
theorem lookup_shown {bounds : List Nat} (hsorted : bounds.Pairwise (· ≤ ·)) (values : List Nat)
    {bound : Nat} (h : bound ∈ bounds) : (ofList bounds values).shown.lookup (some bound)
      = some (values.countP fun value => decide (value ≤ bound)) := by
  have hlookup : ∀ (bounds : List Nat) (f : Nat → Nat) (rest : List (Option Nat × Nat)),
      bound ∈ bounds →
        ((bounds.map fun b => (some b, f b)) ++ rest).lookup (some bound) = some (f bound) := by
    intro bounds f rest
    induction bounds with
    | nil => intro hmem; exact absurd hmem List.not_mem_nil
    | cons b bounds ih =>
        intro hmem
        rw [List.map_cons, List.cons_append, List.lookup_cons]
        by_cases heq : bound = b
        · subst heq
          simp
        · have hne : (some bound == some b) = false := by simpa using heq
          rw [hne]
          exact ih ((List.mem_cons.mp hmem).resolve_left heq)
  rw [shown_ofList hsorted]
  exact hlookup bounds (fun b => values.countP fun value => decide (value ≤ b)) _ h

end Histogram

/-! ### Families -/

/-- One metric for each label, made on first use. -/
structure Family (L M : Type) where
  make : M
  metrics : L → Option M

namespace Family

variable {L M : Type} [DecidableEq L]

def new (make : M) : Family L M := ⟨make, fun _ => none⟩

/-- The metric of a label. -/
def getOrCreate (family : Family L M) (label : L) : M := (family.metrics label).getD family.make

/-- Changes the metric of a label. -/
def update (family : Family L M) (label : L) (change : M → M) : Family L M where
  make := family.make
  metrics := fun l =>
    if l = label then some (change (family.getOrCreate label)) else family.metrics l

theorem getOrCreate_update_same (family : Family L M) (label : L) (change : M → M) :
    (family.update label change).getOrCreate label = change (family.getOrCreate label) := by
  unfold getOrCreate update
  simp only [if_true]
  rfl

theorem getOrCreate_update_apart (family : Family L M) {label l : L} (change : M → M)
    (h : l ≠ label) : (family.update label change).getOrCreate l = family.getOrCreate l := by
  unfold getOrCreate update
  simp only [if_neg h]

end Family

/-! ### The client -/

/-- Counters are numbers, and histograms and families are the ones above. -/
def plain : Client where
  Counter := Nat
  counter := 0
  inc := (· + 1)
  get := id
  Histogram := Histogram
  histogram := Histogram.new
  observe := Histogram.observe
  count := Histogram.count
  shown := fun h bound => h.shown.lookup (some bound)
  Family := Family
  family := Family.new
  getOrCreate := Family.getOrCreate
  update := Family.update

/-- **It is a lawful one.** -/
theorem plain_lawful : plain.Lawful where
  counter := rfl
  inc := fun _ => rfl
  histogram := fun _ => rfl
  observe := fun _ _ => rfl
  shown := fun _ values hsorted _ h => Histogram.lookup_shown hsorted values h
  family := fun _ _ => rfl
  same := Family.getOrCreate_update_same
  apart := fun family _ _ change h => Family.getOrCreate_update_apart family change h

end Tally
