/-
What is scraped while calls are under way.

A scrape is no snapshot.  It goes through the registry, one metric after another and
one label after another, and calls send their observations all the while.  Each
reading is of what had been sent up to its own moment, and of the moments it is only
known that a metric registered later is read later (`Scrape`).

What was sent up to a moment is an interleaving of the first few observations of each
call.  A call sends its fuel and its memory before it is counted as executed, and the
registry has them after; so nothing is counted as executed whose fuel and memory the
same scrape does not show (`metrics_scraped`).  One histogram is read at one moment,
and what its buckets can hold is settled by what a call can observe
(`metrics_buckets`).
-/
import AveContract.Proofs.Metrics

namespace Ave

open Tally

namespace ExecuteCall

variable {V : Type} (ext : Externals V) (c : ExecuteCall V)

/-! ### What one call observes -/

/-- What a call observes of its fuel and its memory. -/
structure Readings (limits : WasmLimits) (fuel bytes : Nat) : Prop where
  fuel : fuel ≤ maxFuel
  pages : wasmPageBytes ∣ bytes
  most : bytes ≤ limits.memorySize

theorem readings {inst : Instance c.σ} {r : GuestRun c.σ} (h : c.run ext = .ok (inst, r)) :
    Readings c.limits (maxFuel - r.fuel) (memoryBytesOf r) := by
  have hspent : Spent c.limits c.module inst r := callMain_spent h
  unfold memoryBytesOf
  refine ⟨Nat.sub_le _ _, ?_, ?_⟩
  · split
    · exact hspent.paged.pages
    · exact Nat.dvd_zero _
  · split
    · exact hspent.paged.most
    · exact Nat.zero_le _

/-- The samples of a call, spelled out. -/
inductive Spelled : List Sample → Prop where
  | unstarted : Spelled [.execution "error", .executionSeconds "error" c.elapsed]
  | returned {fuel bytes : Nat} (label : String) (values : Readings c.limits fuel bytes) :
      Spelled [ .fuelConsumed "success" fuel, .memoryPeak "success" bytes, .execution label
              , .executionSeconds label c.elapsed ]
  | dry {fuel bytes : Nat} (values : Readings c.limits fuel bytes) :
      Spelled [ .fuelConsumed "error" fuel, .memoryPeak "error" bytes, .fuelExhausted
              , .execution "error", .executionSeconds "error" c.elapsed ]
  | stopped {fuel bytes : Nat} (values : Readings c.limits fuel bytes) :
      Spelled [ .fuelConsumed "error" fuel, .memoryPeak "error" bytes, .execution "error"
              , .executionSeconds "error" c.elapsed ]

theorem samples_spelled : c.Spelled (c.samples ext) := by
  cases c.ending ext with
  | unstarted e hrun hanswer _ =>
      rw [samples, hrun, hanswer]
      exact .unstarted
  | read inst r x result stats hrun hout hanswer =>
      rw [samples, hrun]
      simp only [calledSamples, hout]
      exact .returned _ (c.readings ext hrun)
  | unread inst r x e hrun hout hanswer _ =>
      rw [samples, hrun]
      simp only [calledSamples, hout]
      exact .returned _ (c.readings ext hrun)
  | dry inst r e consumed hrun hout htrap hanswer =>
      rw [samples, hrun, hanswer]
      simp only [calledSamples, hout, htrap, if_true]
      exact .dry (c.readings ext hrun)
  | stopped inst r e details hrun hout htrap hanswer =>
      rw [samples, hrun, hanswer]
      simp only [calledSamples, hout, if_neg htrap]
      exact .stopped (c.readings ext hrun)

/-- A sample of an execution that the contract decided. -/
def decided {A : Type} (key : Sample → Option (ContractExecutionLabels × A)) (s : Sample) : Bool :=
  labelled key { result := "accepted" } s || labelled key { result := "rejected" } s

/-- What a call sends in order, at any moment of it. -/
structure Ordered (part : List Sample) : Prop where
  executionsFuel : part.countP (decided Sample.executions)
    ≤ part.countP (labelled Sample.fuel { result := "success" })
  executionsMemory : part.countP (decided Sample.executions)
    ≤ part.countP (labelled Sample.memory { result := "success" })
  secondsFuel : part.countP (decided Sample.seconds)
    ≤ part.countP (labelled Sample.fuel { result := "success" })
  secondsMemory : part.countP (decided Sample.seconds)
    ≤ part.countP (labelled Sample.memory { result := "success" })
  exhausted : part.countP (labelled Sample.exhausted { result := "error" })
    ≤ part.countP (labelled Sample.memory { result := "error" })

/-- **Fuel and memory are sent before what came of them.** -/
theorem ordered {samples part : List Sample} (h : c.Spelled samples) (hpart : part <+: samples) :
    Ordered part := by
  obtain ⟨n, rfl⟩ : ∃ n, part = samples.take n := ⟨_, List.prefix_iff_eq_take.mp hpart⟩
  cases h with
  | unstarted =>
      rcases n with _ | _ | n <;> constructor <;>
        simp [decided, labelled, Sample.executions, Sample.seconds, Sample.fuel,
          Sample.memory, Sample.exhausted]
  | returned label values =>
      have hone : (if label = "accepted" ∨ label = "rejected" then 1 else 0) ≤ 1 := by
        split <;> decide
      rcases n with _ | _ | _ | _ | n <;> constructor <;>
        simp [List.countP_cons, decided, labelled, Sample.executions, Sample.seconds, Sample.fuel,
          Sample.memory, Sample.exhausted, hone]
  | dry values =>
      rcases n with _ | _ | _ | _ | _ | n <;> constructor <;>
        simp [decided, labelled, Sample.executions, Sample.seconds, Sample.fuel,
          Sample.memory, Sample.exhausted]
  | stopped values =>
      rcases n with _ | _ | _ | _ | n <;> constructor <;>
        simp [decided, labelled, Sample.executions, Sample.seconds, Sample.fuel,
          Sample.memory, Sample.exhausted]

end ExecuteCall

section Calls

variable {V : Type} {ext : Externals V} {calls : List (ExecuteCall V)} {sent : List Sample}

/-- At any moment what was sent is in order. -/
theorem sent_ordered {late early : Sample → Bool}
    (hord : ∀ part, ExecuteCall.Ordered part → part.countP late ≤ part.countP early)
    (h : Interleaved (calls.map (·.samples ext)) sent) (n : Nat) :
    (sent.take n).countP late ≤ (sent.take n).countP early := by
  refine (h.take n).countP_le fun source hsource part hpart => hord part ?_
  obtain ⟨c, -, rfl⟩ := List.mem_map.mp hsource
  exact c.ordered (c.samples_spelled ext) hpart

/-- So are the two kinds of decided execution together, each up to an earlier moment. -/
theorem decided_ordered {A : Type} {key : Sample → Option (ContractExecutionLabels × A)}
    {early : Sample → Bool}
    (hord : ∀ part, ExecuteCall.Ordered part →
      part.countP (ExecuteCall.decided key) ≤ part.countP early)
    (h : Interleaved (calls.map (·.samples ext)) sent) {n n' m : Nat} (hn : n ≤ m) (hn' : n' ≤ m) :
    (sent.take n).countP (labelled key { result := "accepted" })
        + (sent.take n').countP (labelled key { result := "rejected" })
      ≤ (sent.take m).countP early := by
  have hapart : ∀ s, ¬(labelled key { result := "accepted" } s = true ∧
      labelled key { result := "rejected" } s = true) := by
    rintro s ⟨ha, hb⟩
    have heq := (of_decide_eq_true ha).symm.trans (of_decide_eq_true hb)
    simp at heq
  calc (sent.take n).countP (labelled key { result := "accepted" })
        + (sent.take n').countP (labelled key { result := "rejected" })
      ≤ (sent.take m).countP (labelled key { result := "accepted" })
        + (sent.take m).countP (labelled key { result := "rejected" }) :=
          Nat.add_le_add (countP_take_le _ _ hn) (countP_take_le _ _ hn')
    _ = (sent.take m).countP (ExecuteCall.decided key) := (countP_or hapart _).symm
    _ ≤ (sent.take m).countP early := sent_ordered hord h m

/-- No more was sent of a kind than there are calls that send one. -/
theorem sent_le_calls {kind : Sample → Bool} {gives : ExecuteCall V → Bool}
    (hgives : ∀ c : ExecuteCall V, (c.samples ext).countP kind = if gives c then 1 else 0)
    (h : Interleaved (calls.map (·.samples ext)) sent) (n : Nat) :
    (sent.take n).countP kind ≤ calls.countP gives := by
  refine ((h.take n).countP_le_flatten kind).trans (Nat.le_of_eq ?_)
  rw [← List.flatMap_def]
  exact countP_flatMap hgives calls

end Calls

/-! ### A scrape -/

/-- A scrape, by how much had been sent when each metric was read for a label.  What was registered
later is read later, and the labels of one metric are read in any order. -/
structure Scrape where
  moment : Metric → ContractExecutionLabels → Nat
  inOrder : ((ContractMetrics.registerInto []).map fun entry => entry.2.2).Pairwise
    fun early late => ∀ l l', moment early l ≤ moment late l'

namespace Scrape

section Readings

variable (scrape : Scrape) (client : Client) (sent : List Sample) (label : ContractExecutionLabels)

/-- The metrics as they were when one of them was read for a label.  A label that is not there yet
reads as an empty metric. -/
def found (metric : Metric) : ContractMetrics client :=
  (ContractMetrics.new client).recordAll (sent.take (scrape.moment metric label))

def executions : Nat := (scrape.found client sent label .contractExecutions).executions label

def seconds : Nat := (scrape.found client sent label .contractExecutionSeconds).seconds label

def fuel : Nat := (scrape.found client sent label .contractFuelConsumed).fuel label

def fuelShown (bound : Nat) : Option Nat :=
  (scrape.found client sent label .contractFuelConsumed).fuelShown label bound

def exhausted : Nat := (scrape.found client sent label .contractFuelExhaustedTotal).exhausted label

def memory : Nat := (scrape.found client sent label .contractMemoryPeakBytes).memory label

def memoryShown (bound : Nat) : Option Nat :=
  (scrape.found client sent label .contractMemoryPeakBytes).memoryShown label bound

end Readings

/-- What is registered later is read later. -/
theorem moment_le (scrape : Scrape) {early late : Metric}
    (h : [early, late].Sublist ((ContractMetrics.registerInto []).map fun entry => entry.2.2))
    (l l' : ContractExecutionLabels) : scrape.moment early l ≤ scrape.moment late l' :=
  List.pairwise_iff_forall_sublist.mp scrape.inOrder h l l'

/-! Each reading is a count of what had been sent at its moment. -/

section Counts

variable {client : Client} (hlaw : client.Counting) (scrape : Scrape) (sent : List Sample)
  (l : ContractExecutionLabels)

include hlaw

theorem executions_eq : scrape.executions client sent l
    = (sent.take (scrape.moment .contractExecutions l)).countP (labelled Sample.executions l) :=
  ContractMetrics.recordAll_executions hlaw _ l

theorem seconds_eq : scrape.seconds client sent l
    = (sent.take (scrape.moment .contractExecutionSeconds l)).countP (labelled Sample.seconds l) :=
  ContractMetrics.recordAll_seconds hlaw _ l

theorem fuel_eq : scrape.fuel client sent l
    = (sent.take (scrape.moment .contractFuelConsumed l)).countP (labelled Sample.fuel l) :=
  ContractMetrics.recordAll_fuel hlaw _ l

theorem exhausted_eq : scrape.exhausted client sent l
    = (sent.take (scrape.moment .contractFuelExhaustedTotal l)).countP
        (labelled Sample.exhausted l) :=
  ContractMetrics.recordAll_exhausted hlaw _ l

theorem memory_eq : scrape.memory client sent l
    = (sent.take (scrape.moment .contractMemoryPeakBytes l)).countP (labelled Sample.memory l) :=
  ContractMetrics.recordAll_memory hlaw _ l

end Counts

/-- One scrape is over each metric before another comes to it. -/
def Before (scrape later : Scrape) : Prop :=
  ∀ metric l, scrape.moment metric l ≤ later.moment metric l

end Scrape

/-- What one scrape shows. -/
structure Scraped {V : Type} (ext : Externals V) (calls : List (ExecuteCall V)) (client : Client)
    (sent : List Sample) (scrape : Scrape) : Prop where
  /-- An execution that the contract decided comes with its fuel. -/
  executionsFuel : scrape.executions client sent { result := "accepted" }
      + scrape.executions client sent { result := "rejected" }
    ≤ scrape.fuel client sent { result := "success" }
  /-- And with its memory. -/
  executionsMemory : scrape.executions client sent { result := "accepted" }
      + scrape.executions client sent { result := "rejected" }
    ≤ scrape.memory client sent { result := "success" }
  /-- So does one that was timed. -/
  secondsFuel : scrape.seconds client sent { result := "accepted" }
      + scrape.seconds client sent { result := "rejected" }
    ≤ scrape.fuel client sent { result := "success" }
  secondsMemory : scrape.seconds client sent { result := "accepted" }
      + scrape.seconds client sent { result := "rejected" }
    ≤ scrape.memory client sent { result := "success" }
  /-- A run dry comes with its memory. -/
  exhausted : scrape.exhausted client sent { result := "error" }
    ≤ scrape.memory client sent { result := "error" }
  /-- And nothing is shown that no call did. -/
  counted : ∀ result, scrape.executions client sent { result }
    ≤ calls.countP fun c => decide (c.label ext = result)
  timed : ∀ result, scrape.seconds client sent { result }
    ≤ calls.countP fun c => decide (c.label ext = result)
  ranDry : scrape.exhausted client sent { result := "error" } ≤ calls.countP (·.ranDry ext)

/-- A later scrape shows no less. -/
structure NoLess (client : Client) (sent : List Sample) (scrape later : Scrape) : Prop where
  executions : ∀ l, scrape.executions client sent l ≤ later.executions client sent l
  seconds : ∀ l, scrape.seconds client sent l ≤ later.seconds client sent l
  fuel : ∀ l, scrape.fuel client sent l ≤ later.fuel client sent l
  exhausted : ∀ l, scrape.exhausted client sent l ≤ later.exhausted client sent l
  memory : ∀ l, scrape.memory client sent l ≤ later.memory client sent l
  fuelShown : ∀ l, ∀ bound ∈ ContractMetrics.fuelBuckets, ∃ n m,
    scrape.fuelShown client sent l bound = some n ∧ later.fuelShown client sent l bound = some m ∧
      n ≤ m
  memoryShown : ∀ l, ∀ bound ∈ ContractMetrics.memoryBuckets, ∃ n m,
    scrape.memoryShown client sent l bound = some n ∧
      later.memoryShown client sent l bound = some m ∧ n ≤ m

section Scrapes

variable {V : Type} {client : Client} {ext : Externals V} {calls : List (ExecuteCall V)}
  {sent : List Sample}

/-- What one scrape shows is in order, and was done. -/
theorem scraped (hlaw : client.Counting) (h : Interleaved (calls.map (·.samples ext)) sent)
    (scrape : Scrape) : Scraped ext calls client sent scrape := by
  have hlabel : ∀ result (c : ExecuteCall V),
      (if decide (({ result := c.label ext } : ContractExecutionLabels) = { result }) then 1 else 0)
        = if decide (c.label ext = result) then 1 else 0 := by
    intro result c
    simp
  constructor
  · rw [scrape.executions_eq hlaw, scrape.executions_eq hlaw, scrape.fuel_eq hlaw]
    exact decided_ordered (fun _ hpart => hpart.executionsFuel) h
      (scrape.moment_le (by decide) _ _) (scrape.moment_le (by decide) _ _)
  · rw [scrape.executions_eq hlaw, scrape.executions_eq hlaw, scrape.memory_eq hlaw]
    exact decided_ordered (fun _ hpart => hpart.executionsMemory) h
      (scrape.moment_le (by decide) _ _) (scrape.moment_le (by decide) _ _)
  · rw [scrape.seconds_eq hlaw, scrape.seconds_eq hlaw, scrape.fuel_eq hlaw]
    exact decided_ordered (fun _ hpart => hpart.secondsFuel) h
      (scrape.moment_le (by decide) _ _) (scrape.moment_le (by decide) _ _)
  · rw [scrape.seconds_eq hlaw, scrape.seconds_eq hlaw, scrape.memory_eq hlaw]
    exact decided_ordered (fun _ hpart => hpart.secondsMemory) h
      (scrape.moment_le (by decide) _ _) (scrape.moment_le (by decide) _ _)
  · rw [scrape.exhausted_eq hlaw, scrape.memory_eq hlaw]
    exact (countP_take_le _ sent (scrape.moment_le (by decide) _ _)).trans
      (sent_ordered (fun _ hpart => hpart.exhausted) h _)
  · intro result
    rw [scrape.executions_eq hlaw]
    exact sent_le_calls (fun c => ((c.samples_counted ext _).1).trans (hlabel result c)) h _
  · intro result
    rw [scrape.seconds_eq hlaw]
    exact sent_le_calls (fun c => ((c.samples_counted ext _).2).trans (hlabel result c)) h _
  · rw [scrape.exhausted_eq hlaw]
    exact sent_le_calls (fun c => c.samples_exhausted ext) h _

/-- Each reading of a later scrape is of at least as much. -/
theorem noLess (hlaw : client.Lawful) (sent : List Sample) {scrape later : Scrape}
    (h : scrape.Before later) : NoLess client sent scrape later := by
  have hcounts := hlaw.toCounting
  have hpicked : ∀ (key : Sample → Option (ContractExecutionLabels × Nat)) metric l bound,
      (pick key l (sent.take (scrape.moment metric l))).countP (fun value => decide (value ≤ bound))
        ≤ (pick key l (sent.take (later.moment metric l))).countP
            fun value => decide (value ≤ bound) := by
    intro key metric l bound
    exact (pick_mono key l (List.take_prefix_take_left (h metric l))).sublist.countP_le
  constructor
  · intro l
    rw [scrape.executions_eq hcounts, later.executions_eq hcounts]
    exact countP_take_le _ _ (h _ l)
  · intro l
    rw [scrape.seconds_eq hcounts, later.seconds_eq hcounts]
    exact countP_take_le _ _ (h _ l)
  · intro l
    rw [scrape.fuel_eq hcounts, later.fuel_eq hcounts]
    exact countP_take_le _ _ (h _ l)
  · intro l
    rw [scrape.exhausted_eq hcounts, later.exhausted_eq hcounts]
    exact countP_take_le _ _ (h _ l)
  · intro l
    rw [scrape.memory_eq hcounts, later.memory_eq hcounts]
    exact countP_take_le _ _ (h _ l)
  · intro l bound hbound
    exact ⟨_, _, ContractMetrics.recordAll_fuelShown hlaw _ l hbound,
      ContractMetrics.recordAll_fuelShown hlaw _ l hbound, hpicked _ _ _ _⟩
  · intro l bound hbound
    exact ⟨_, _, ContractMetrics.recordAll_memoryShown hlaw _ l hbound,
      ContractMetrics.recordAll_memoryShown hlaw _ l hbound, hpicked _ _ _ _⟩

end Scrapes

/-! ### What the buckets can hold -/

/-- What was observed of some call's fuel and memory. -/
theorem spelled_values {V : Type} {c : ExecuteCall V} {samples : List Sample}
    (h : c.Spelled samples) {s : Sample} (hs : s ∈ samples) :
    (∀ l value, s.fuel = some (l, value) → value ≤ maxFuel) ∧
      ∀ l value, s.memory = some (l, value) →
        wasmPageBytes ∣ value ∧ value ≤ c.limits.memorySize := by
  cases h with
  | unstarted =>
      simp only [List.mem_cons, List.not_mem_nil, or_false] at hs
      rcases hs with rfl | rfl <;> simp [Sample.fuel, Sample.memory]
  | returned label values =>
      simp only [List.mem_cons, List.not_mem_nil, or_false] at hs
      rcases hs with rfl | rfl | rfl | rfl <;>
        simp [Sample.fuel, Sample.memory, values.fuel, values.pages, values.most]
  | dry values =>
      simp only [List.mem_cons, List.not_mem_nil, or_false] at hs
      rcases hs with rfl | rfl | rfl | rfl | rfl <;>
        simp [Sample.fuel, Sample.memory, values.fuel, values.pages, values.most]
  | stopped values =>
      simp only [List.mem_cons, List.not_mem_nil, or_false] at hs
      rcases hs with rfl | rfl | rfl | rfl <;>
        simp [Sample.fuel, Sample.memory, values.fuel, values.pages, values.most]

/-- What the histograms of fuel and memory can hold. -/
structure Buckets {V : Type} (calls : List (ExecuteCall V)) {client : Client}
    (m : ContractMetrics client) : Prop where
  /-- The last bound of the fuel is the budget, and nothing is above it. -/
  budget : ∀ l, m.fuelShown l maxFuel = some (m.fuel l)
  /-- The two bounds below a page show the same: the executions with no memory to look at. -/
  page : ∀ l, m.memoryShown l 4096 = m.memoryShown l 16384
  /-- Above what every machine allows there is nothing either. -/
  most : ∀ l, ∀ bound ∈ ContractMetrics.memoryBuckets,
    (∀ c ∈ calls, c.limits.memorySize ≤ bound) → m.memoryShown l bound = some (m.memory l)

section Values

variable {V : Type} {client : Client} {ext : Externals V} {calls : List (ExecuteCall V)}
  {sent : List Sample}

/-- What was sent was observed by some call. -/
theorem sent_values (h : Interleaved (calls.map (·.samples ext)) sent) {s : Sample} (hs : s ∈ sent) :
    ∃ c ∈ calls, (∀ l value, s.fuel = some (l, value) → value ≤ maxFuel) ∧
      ∀ l value, s.memory = some (l, value) →
        wasmPageBytes ∣ value ∧ value ≤ c.limits.memorySize := by
  obtain ⟨source, hsource, hmem⟩ := h.mem s hs
  obtain ⟨c, hc, rfl⟩ := List.mem_map.mp hsource
  exact ⟨c, hc, spelled_values (c.samples_spelled ext) hmem⟩

/--
**What the histograms can hold.**

At any moment and for any interleaving.  No execution takes more than the budget, so
none is above the last bound of the fuel; a memory is empty or at least a page, so the
two smallest bounds of the memory cannot be told apart; and a bound that no machine
lets a memory pass has them all.
-/
theorem metrics_buckets (hlaw : client.Lawful) (h : Interleaved (calls.map (·.samples ext)) sent) :
    Buckets calls ((ContractMetrics.new client).recordAll sent) := by
  constructor
  · intro l
    rw [ContractMetrics.recordAll_fuelShown hlaw sent l (by decide),
      ContractMetrics.recordAll_fuel hlaw.toCounting, ← length_pick, List.countP_eq_length.mpr]
    intro value hvalue
    obtain ⟨s, hs, hkey⟩ := mem_pick hvalue
    obtain ⟨c, -, hfuel, -⟩ := sent_values h hs
    exact decide_eq_true (hfuel l value hkey)
  · intro l
    rw [ContractMetrics.recordAll_memoryShown hlaw sent l (by decide),
      ContractMetrics.recordAll_memoryShown hlaw sent l (by decide)]
    congr 1
    refine List.countP_congr fun value hvalue => ?_
    obtain ⟨s, hs, hkey⟩ := mem_pick hvalue
    obtain ⟨c, -, -, hmemory⟩ := sent_values h hs
    obtain ⟨pages, rfl⟩ := (hmemory l value hkey).1
    simp only [decide_eq_true_eq]
    unfold wasmPageBytes
    omega
  · intro l bound hbound hmost
    rw [ContractMetrics.recordAll_memoryShown hlaw sent l hbound,
      ContractMetrics.recordAll_memory hlaw.toCounting, ← length_pick, List.countP_eq_length.mpr]
    intro value hvalue
    obtain ⟨s, hs, hkey⟩ := mem_pick hvalue
    obtain ⟨c, hc, -, hmemory⟩ := sent_values h hs
    exact decide_eq_true ((hmemory l value hkey).2.trans (hmost c hc))

end Values

/-! ### Two latches being set -/

/-- One source is done, and another like it has begun. -/
theorem interleaved_twice {S : Type} (source : List S) (n : Nat) :
    Interleaved [source, source] (source ++ source.take n) := by
  have hsecond : Interleaved ([[]] ++ (source.take n ++ source.drop n) :: [])
      (source.take n ++ []) := .send _ (.done _)
  rw [List.take_append_drop, List.append_nil] at hsecond
  have hboth : Interleaved ([] ++ (source ++ []) :: [source]) (source ++ source.take n) :=
    .send source hsecond
  rw [List.append_nil] at hboth
  exact hboth

/-- One call is done, and another has sent its first observation. -/
def latchSent : List Sample :=
  latchCall.samples Sdk.boolExternals ++ (latchCall.samples Sdk.boolExternals).take 1

theorem latchCall_sent : Interleaved
    ([latchCall, latchCall].map (·.samples Sdk.boolExternals)) latchSent :=
  interleaved_twice (latchCall.samples Sdk.boolExternals) 1

/-- It reads the executions first, while the first call is at its end, and the memory last. -/
def latchScrape : Scrape where
  moment := fun metric _ =>
    match metric with
    | .contractExecutions => 3
    | .contractExecutionSeconds => 3
    | .contractFuelConsumed => 4
    | .contractFuelExhaustedTotal => 4
    | .contractMemoryPeakBytes => 5
  inOrder := by simp [ContractMetrics.registerInto]

theorem latch_buckets : Buckets [latchCall, latchCall]
    ((ContractMetrics.new plain).recordAll latchSent) :=
  metrics_buckets plain_lawful latchCall_sent

end Ave
