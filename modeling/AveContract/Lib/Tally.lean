/-
Counters and histograms that are kept by label, as a metrics client offers them.

`Client` is what such a library lets its users do.  What it documents is that a label
has a metric of its own and that a count goes up by one and does not wrap
(`Client.Counting`), and that a bucket shows how many observations were at most its
bound (`Client.Lawful`).  How it is done is left to it; `Lib/Histogram.lean` does it
in one way.

So a metric is a function of what was recorded under its own label
(`Client.getOrCreate_feed`), and a count is a number of samples (`Client.get_countBy`,
`Client.count_observeBy`).  Where many sources send samples at once, what was sent up
to some moment is an interleaving of their first few (`Interleaved`); what each source
keeps in order the whole keeps in order (`Interleaved.countP_le`).
-/
import Mathlib.Data.List.Forall2
import Mathlib.Tactic.Common

namespace Tally

/-! ### A client -/

/-- What a client library offers: counters, histograms, and families of them by label. -/
structure Client where
  Counter : Type
  counter : Counter
  inc : Counter → Counter
  get : Counter → Nat
  Histogram : Type
  /-- An empty histogram with the given upper bounds. -/
  histogram : List Nat → Histogram
  observe : Histogram → Nat → Histogram
  count : Histogram → Nat
  /-- What a reader is shown for a bound. -/
  shown : Histogram → Nat → Option Nat
  Family : Type → Type → Type
  /-- A family whose metrics are made like this one. -/
  family : {L M : Type} → M → Family L M
  getOrCreate : {L M : Type} → [DecidableEq L] → Family L M → L → M
  /-- Changes the metric of a label. -/
  update : {L M : Type} → [DecidableEq L] → Family L M → L → (M → M) → Family L M

/-- What it documents of its counts. -/
structure Client.Counting (client : Client) : Prop where
  counter : client.get client.counter = 0
  /-- A counter goes up by one, and does not wrap. -/
  inc : ∀ c, client.get (client.inc c) = client.get c + 1
  histogram : ∀ bounds, client.count (client.histogram bounds) = 0
  /-- So does the count of a histogram. -/
  observe : ∀ h value, client.count (client.observe h value) = client.count h + 1
  /-- Every label starts with a metric of its own. -/
  family : ∀ {L M : Type} [DecidableEq L] (make : M) (label : L),
    client.getOrCreate (client.family make) label = make
  same : ∀ {L M : Type} [DecidableEq L] (family : client.Family L M) (label : L) (change : M → M),
    client.getOrCreate (client.update family label change) label
      = change (client.getOrCreate family label)
  /-- Labels are kept apart. -/
  apart : ∀ {L M : Type} [DecidableEq L] (family : client.Family L M) {label l : L}
    (change : M → M), l ≠ label →
      client.getOrCreate (client.update family label change) l = client.getOrCreate family l

/-- And of its buckets. -/
structure Client.Lawful (client : Client) : Prop extends client.Counting where
  /-- A bucket shows how many observations were at most its bound. -/
  shown : ∀ bounds values : List Nat, bounds.Pairwise (· ≤ ·) → ∀ bound ∈ bounds,
    client.shown (values.foldl client.observe (client.histogram bounds)) bound
      = some (values.countP fun value => decide (value ≤ bound))

/-! ### What was recorded under a label -/

section Labels

variable {L M S A B : Type} [DecidableEq L]

/-- What the samples have for a label, in the order they came. -/
def pick (key : S → Option (L × A)) (label : L) : List S → List A
  | [] => []
  | sample :: rest =>
      match key sample with
      | none => pick key label rest
      | some (l, a) => if label = l then a :: pick key label rest else pick key label rest

/-- The samples of a label. -/
def labelled (key : S → Option (L × A)) (label : L) (sample : S) : Bool :=
  decide ((key sample).map (·.1) = some label)

theorem length_pick (key : S → Option (L × A)) (label : L) (samples : List S) :
    (pick key label samples).length = samples.countP (labelled key label) := by
  induction samples with
  | nil => rfl
  | cons sample rest ih =>
      rw [pick, List.countP_cons, labelled]
      cases key sample with
      | none => exact ih
      | some p =>
          obtain ⟨l, a⟩ := p
          by_cases h : label = l
          · subst h
            simp only [if_true, Option.map_some, decide_true, List.length_cons, ih]
          · have hne : ¬some l = some label := fun heq => h (Option.some.inj heq).symm
            simp only [if_neg h, Option.map_some, hne, decide_false, Bool.false_eq_true, if_false, ih]
            rfl

theorem mem_pick {key : S → Option (L × A)} {label : L} {a : A} {samples : List S}
    (h : a ∈ pick key label samples) : ∃ sample ∈ samples, key sample = some (label, a) := by
  induction samples with
  | nil => exact absurd h List.not_mem_nil
  | cons sample rest ih =>
      have hrest : a ∈ pick key label rest → ∃ s ∈ sample :: rest, key s = some (label, a) := by
        intro hmem
        obtain ⟨s, hs, hkey⟩ := ih hmem
        exact ⟨s, List.mem_cons_of_mem _ hs, hkey⟩
      rw [pick] at h
      split at h
      · exact hrest h
      · rename_i l a' hkey
        split at h
        · rename_i hl
          rcases List.mem_cons.mp h with rfl | hmem
          · exact ⟨sample, List.mem_cons_self, by rw [hkey, hl]⟩
          · exact hrest hmem
        · exact hrest h

theorem pick_map (key : S → Option (L × A)) (g : A → B) (label : L) (samples : List S) :
    pick (fun sample => (key sample).map fun p => (p.1, g p.2)) label samples
      = (pick key label samples).map g := by
  induction samples with
  | nil => rfl
  | cons sample rest ih =>
      rw [pick, pick]
      cases key sample with
      | none => exact ih
      | some p =>
          obtain ⟨l, a⟩ := p
          by_cases h : label = l
          · simp only [Option.map_some, if_pos h, ih, List.map_cons]
          · simp only [Option.map_some, if_neg h, ih]

/-- More samples pick more. -/
theorem pick_mono (key : S → Option (L × A)) (label : L) {samples more : List S}
    (h : samples <+: more) : pick key label samples <+: pick key label more := by
  obtain ⟨rest, rfl⟩ := h
  induction samples with
  | nil => exact List.nil_prefix
  | cons sample samples ih =>
      rw [List.cons_append, pick, pick]
      cases key sample with
      | none => exact ih
      | some p =>
          obtain ⟨l, a⟩ := p
          by_cases hl : label = l
          · simp only [if_pos hl]
            exact List.prefix_cons_inj a |>.mpr ih
          · simp only [if_neg hl]
            exact ih

end Labels

namespace Client

variable {L M S : Type} [DecidableEq L] {client : Client}

/-- What one of many kinds of sample does to a family: something to a label's metric, or
nothing. -/
def feed (client : Client) (change : S → Option (L × (M → M))) (family : client.Family L M)
    (sample : S) : client.Family L M :=
  match change sample with
  | none => family
  | some (label, f) => client.update family label f

/-- **A metric is what was recorded under its label.** -/
theorem getOrCreate_feed (hlaw : client.Counting) (change : S → Option (L × (M → M))) (label : L) :
    ∀ (samples : List S) (family : client.Family L M),
      client.getOrCreate (samples.foldl (client.feed change) family) label
        = (pick change label samples).foldl (fun m f => f m) (client.getOrCreate family label) := by
  intro samples
  induction samples with
  | nil => intro family; rfl
  | cons sample rest ih =>
      intro family
      rw [List.foldl_cons, ih, feed, pick]
      cases change sample with
      | none => rfl
      | some p =>
          obtain ⟨l, f⟩ := p
          by_cases h : label = l
          · subst h
            simp only [if_true, List.foldl_cons, hlaw.same]
          · simp only [if_neg h, hlaw.apart family f h]

/-- Counts every sample that has a label. -/
def countBy (client : Client) (key : S → Option (L × Unit)) :
    client.Family L client.Counter → S → client.Family L client.Counter :=
  client.feed fun sample => (key sample).map fun p => (p.1, client.inc)

/-- Observes the value of every sample that has one. -/
def observeBy (client : Client) (key : S → Option (L × Nat)) :
    client.Family L client.Histogram → S → client.Family L client.Histogram :=
  client.feed fun sample => (key sample).map fun p => (p.1, (client.observe · p.2))

/-- **A counter counts the samples of its label.** -/
theorem get_countBy (hlaw : client.Counting) (key : S → Option (L × Unit)) (label : L)
    (samples : List S) :
    client.get (client.getOrCreate (samples.foldl (client.countBy key) (client.family client.counter))
        label) = samples.countP (labelled key label) := by
  have hfold : ∀ (units : List Unit) (c : client.Counter),
      client.get ((units.map fun _ => client.inc).foldl (fun m f => f m) c)
        = client.get c + units.length := by
    intro units
    induction units with
    | nil => intro c; rfl
    | cons u rest ih =>
        intro c
        rw [List.map_cons, List.foldl_cons, ih, hlaw.inc, List.length_cons]
        omega
  rw [countBy, getOrCreate_feed hlaw, pick_map key (fun _ => client.inc), hfold, length_pick,
    hlaw.family, hlaw.counter]
  exact Nat.zero_add _

/-- A histogram is that of the values of its label. -/
theorem getOrCreate_observeBy (hlaw : client.Counting) (key : S → Option (L × Nat)) (label : L)
    (bounds : List Nat) (samples : List S) :
    client.getOrCreate
        (samples.foldl (client.observeBy key) (client.family (client.histogram bounds))) label
      = (pick key label samples).foldl client.observe (client.histogram bounds) := by
  rw [observeBy, getOrCreate_feed hlaw,
    pick_map key (fun (value : Nat) (h : client.Histogram) => client.observe h value),
    List.foldl_map, hlaw.family]

/-- **It counts the samples of its label.** -/
theorem count_observeBy (hlaw : client.Counting) (key : S → Option (L × Nat)) (label : L)
    (bounds : List Nat) (samples : List S) :
    client.count (client.getOrCreate
        (samples.foldl (client.observeBy key) (client.family (client.histogram bounds))) label)
      = samples.countP (labelled key label) := by
  have hfold : ∀ (values : List Nat) (h : client.Histogram),
      client.count (values.foldl client.observe h) = client.count h + values.length := by
    intro values
    induction values with
    | nil => intro h; rfl
    | cons value rest ih =>
        intro h
        rw [List.foldl_cons, ih, hlaw.observe, List.length_cons]
        omega
  rw [getOrCreate_observeBy hlaw, hfold, length_pick, hlaw.histogram]
  exact Nat.zero_add _

/-- **And its bounds show how many of their values were at most that.** -/
theorem shown_observeBy (hlaw : client.Lawful) (key : S → Option (L × Nat)) (label : L)
    {bounds : List Nat} (hsorted : bounds.Pairwise (· ≤ ·)) (samples : List S) {bound : Nat}
    (h : bound ∈ bounds) :
    client.shown (client.getOrCreate
        (samples.foldl (client.observeBy key) (client.family (client.histogram bounds))) label) bound
      = some ((pick key label samples).countP fun value => decide (value ≤ bound)) := by
  rw [getOrCreate_observeBy hlaw.toCounting]
  exact hlaw.shown bounds _ hsorted bound h

end Client

/-! ### Samples of many sources -/

/-- Where each source gives one sample of a kind or none, there are as many samples of the kind as
sources that give one. -/
theorem countP_flatMap {C S : Type*} {samples : C → List S} {kind : S → Bool} {gives : C → Bool}
    (h : ∀ c, (samples c).countP kind = if gives c then 1 else 0) :
    ∀ sources : List C, (sources.flatMap samples).countP kind = sources.countP gives := by
  intro sources
  induction sources with
  | nil => rfl
  | cons c rest ih =>
      rw [List.flatMap_cons, List.countP_append, ih, h, List.countP_cons, Nat.add_comm]

/-- Where each source is of one of three kinds if it is of the whole, the three add up. -/
theorem countP_split {C : Type*} {whole a b c : C → Bool}
    (h : ∀ x, (whole x).toNat = (a x).toNat + (b x).toNat + (c x).toNat) :
    ∀ l : List C, l.countP whole = l.countP a + l.countP b + l.countP c := by
  have hone : ∀ (p : C → Bool) (x : C) (rest : List C),
      (x :: rest).countP p = rest.countP p + (p x).toNat := by
    intro p x rest
    rw [List.countP_cons]
    cases p x <;> rfl
  intro l
  induction l with
  | nil => rfl
  | cons x rest ih =>
      rw [hone, hone, hone, hone, ih, h]
      omega

/-- What is of either of two kinds, where nothing is of both. -/
theorem countP_or {S : Type*} {a b : S → Bool} (h : ∀ s, ¬(a s = true ∧ b s = true))
    (l : List S) : l.countP (fun s => a s || b s) = l.countP a + l.countP b := by
  have hsplit : l.countP (fun s => a s || b s)
      = l.countP a + l.countP b + l.countP fun _ => false := by
    refine countP_split (fun s => ?_) l
    have hs := h s
    cases ha : a s <;> cases hb : b s <;> simp [ha, hb] at hs ⊢
  have hnone : l.countP (fun _ => false) = 0 := by simp
  rw [hsplit, hnone, Nat.add_zero]

/-- Up to a later moment there is at least as much. -/
theorem countP_take_le {S : Type*} (p : S → Bool) (l : List S) {n m : Nat} (h : n ≤ m) :
    (l.take n).countP p ≤ (l.take m).countP p :=
  ((List.take_prefix_take_left h).sublist).countP_le

/-- What some sources have sent up to some moment: in every step one of them sends its next. -/
inductive Interleaved {S : Type*} : List (List S) → List S → Prop
  | done (sources : List (List S)) : Interleaved sources []
  | step {before after : List (List S)} {s : S} {later sent : List S}
      (h : Interleaved (before ++ later :: after) sent) :
      Interleaved (before ++ (s :: later) :: after) (s :: sent)

namespace Interleaved

variable {S : Type*} {sources : List (List S)} {sent : List S}

/-- One source may send several in a row. -/
theorem send {before after : List (List S)} {rest : List S} :
    ∀ part : List S, Interleaved (before ++ rest :: after) sent →
      Interleaved (before ++ (part ++ rest) :: after) (part ++ sent) := by
  intro part h
  induction part with
  | nil => exact h
  | cons s part ih => exact .step ih

/-- It is so at every earlier moment. -/
theorem take (h : Interleaved sources sent) : ∀ n, Interleaved sources (sent.take n) := by
  induction h with
  | done sources => intro n; rw [List.take_nil]; exact .done sources
  | step _ ih =>
      intro n
      cases n with
      | zero => exact .done _
      | succ n => exact .step (ih n)

/-- **What was sent is the first few samples of each source.** -/
theorem parts (h : Interleaved sources sent) :
    ∃ parts : List (List S), List.Forall₂ (· <+: ·) parts sources ∧ sent.Perm parts.flatten := by
  induction h with
  | done sources =>
      refine ⟨sources.map fun _ => [], ?_, ?_⟩
      · rw [List.forall₂_map_left_iff]
        exact List.forall₂_same.mpr fun _ _ => List.nil_prefix
      · have hnil : (sources.map fun _ => ([] : List S)).flatten = [] := by simp
        rw [hnil]
  | @step before after s later sent _ ih =>
      obtain ⟨parts, hparts, hperm⟩ := ih
      have hbefore := List.forall₂_take_append parts before (later :: after) hparts
      have hrest := List.forall₂_drop_append parts before (later :: after) hparts
      obtain ⟨part, afters, hpart, hafter, hdrop⟩ := List.forall₂_cons_right_iff.mp hrest
      refine ⟨parts.take before.length ++ (s :: part) :: afters, ?_, ?_⟩
      · exact List.rel_append hbefore (.cons ((List.prefix_cons_inj s).mpr hpart) hafter)
      · rw [← List.take_append_drop before.length parts, hdrop, List.flatten_append,
          List.flatten_cons] at hperm
        rw [List.flatten_append, List.flatten_cons, List.cons_append]
        exact (hperm.cons s).trans List.perm_middle.symm

/-- **What each source keeps in order the whole keeps in order.** -/
theorem countP_le {late early : S → Bool}
    (hsource : ∀ source ∈ sources, ∀ part, part <+: source → part.countP late ≤ part.countP early)
    (h : Interleaved sources sent) : sent.countP late ≤ sent.countP early := by
  obtain ⟨parts, hparts, hperm⟩ := h.parts
  rw [hperm.countP_eq, hperm.countP_eq]
  clear hperm h
  induction hparts with
  | nil => exact Nat.le_refl _
  | cons hpart _ ih =>
      obtain ⟨hfirst, hrest⟩ := List.forall_mem_cons.mp hsource
      rw [List.flatten_cons, List.countP_append, List.countP_append]
      exact Nat.add_le_add (hfirst _ hpart) (ih hrest)

/-- No more was sent than there is. -/
theorem countP_le_flatten (p : S → Bool) (h : Interleaved sources sent) :
    sent.countP p ≤ sources.flatten.countP p := by
  obtain ⟨parts, hparts, hperm⟩ := h.parts
  rw [hperm.countP_eq]
  clear hperm h
  induction hparts with
  | nil => exact Nat.le_refl _
  | cons hpart _ ih =>
      rw [List.flatten_cons, List.flatten_cons, List.countP_append, List.countP_append]
      exact Nat.add_le_add hpart.sublist.countP_le ih

/-- What was sent came from a source. -/
theorem mem (h : Interleaved sources sent) : ∀ s ∈ sent, ∃ source ∈ sources, s ∈ source := by
  induction h with
  | done sources => intro s hs; exact absurd hs List.not_mem_nil
  | @step before after s later sent _ ih =>
      intro x hx
      have hhere : s :: later ∈ before ++ (s :: later) :: after := by simp
      rcases List.mem_cons.mp hx with rfl | hlater
      · exact ⟨_, hhere, List.mem_cons_self⟩
      · obtain ⟨source, hsource, hmem⟩ := ih x hlater
        rcases List.mem_append.mp hsource with hbefore | hafter
        · exact ⟨source, List.mem_append_left _ hbefore, hmem⟩
        · rcases List.mem_cons.mp hafter with rfl | hafter
          · exact ⟨_, hhere, List.mem_cons_of_mem _ hmem⟩
          · exact ⟨source, List.mem_append_right _ (List.mem_cons_of_mem _ hafter), hmem⟩

end Interleaved

end Tally
