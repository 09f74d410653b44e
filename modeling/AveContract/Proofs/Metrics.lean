/-
What the metrics say of the calls that were made.

Every observation changes one metric of one label, so a set of metrics is a function
of the observations it was sent, and how those of several calls were interleaved does
not matter (`recordAll_*`); of the client library this takes that it keeps labels
apart and counts (`Client.Counting`).  What is left is to say what one
call sends, which is settled by how far it got: nothing but its own count if
`main_function` was never called, and its fuel and memory before anything is known of
its result if it was.

From there the books are kept by addition: when no call is under way every call is
accounted for once (`metrics_account`).
-/
import AveContract.Lib.Histogram
import AveContract.Proofs.Agreement
import AveContract.Proofs.Stats
import AveContract.Runtime.Metrics

namespace Ave

open Tally Metered

/-! ### One observation -/

/-- One observation of one metric. -/
inductive Sample where
  | execution (result : String)
  | executionSeconds (result : String) (duration : Nat)
  | fuelConsumed (result : String) (fuel : Nat)
  | fuelExhausted
  | memoryPeak (result : String) (bytes : Nat)
  deriving DecidableEq, Repr

namespace Sample

abbrev Labels := ContractExecutionLabels

def executions : Sample → Option (Labels × Unit)
  | .execution result => some ({ result }, ())
  | _ => none

def seconds : Sample → Option (Labels × Nat)
  | .executionSeconds result duration => some ({ result }, duration)
  | _ => none

def fuel : Sample → Option (Labels × Nat)
  | .fuelConsumed result fuel => some ({ result }, fuel)
  | _ => none

def exhausted : Sample → Option (Labels × Unit)
  | .fuelExhausted => some ({ result := "error" }, ())
  | _ => none

def memory : Sample → Option (Labels × Nat)
  | .memoryPeak result bytes => some ({ result }, bytes)
  | _ => none

end Sample

namespace ContractMetrics

variable {client : Client}

/-- An observation, metric by metric. -/
def record (self : ContractMetrics client) (sample : Sample) : ContractMetrics client where
  contractExecutions := client.countBy Sample.executions self.contractExecutions sample
  contractExecutionSeconds := client.observeBy Sample.seconds self.contractExecutionSeconds sample
  contractFuelConsumed := client.observeBy Sample.fuel self.contractFuelConsumed sample
  contractFuelExhaustedTotal := client.countBy Sample.exhausted self.contractFuelExhaustedTotal sample
  contractMemoryPeakBytes := client.observeBy Sample.memory self.contractMemoryPeakBytes sample

def recordAll (self : ContractMetrics client) (samples : List Sample) : ContractMetrics client :=
  samples.foldl record self

/-- A family is fed every observation in turn. -/
theorem recordAll_family {F : Type} (family : ContractMetrics client → F) (step : F → Sample → F)
    (hstep : ∀ m sample, family (record m sample) = step (family m) sample) :
    ∀ (samples : List Sample) (m : ContractMetrics client),
      family (m.recordAll samples) = samples.foldl step (family m) := by
  intro samples
  induction samples with
  | nil => intro m; rfl
  | cons sample rest ih =>
      intro m
      rw [List.foldl_cons, ← hstep]
      exact ih (m.record sample)

theorem recordAll_append (m : ContractMetrics client) (samples more : List Sample) :
    m.recordAll (samples ++ more) = (m.recordAll samples).recordAll more :=
  List.foldl_append

/-! ### What the metrics say of a label -/

section Readings

variable (self : ContractMetrics client) (label : ContractExecutionLabels)

/-- The executions counted. -/
def executions : Nat := client.get (client.getOrCreate self.contractExecutions label)

/-- The executions timed. -/
def seconds : Nat := client.count (client.getOrCreate self.contractExecutionSeconds label)

/-- The observations of fuel. -/
def fuel : Nat := client.count (client.getOrCreate self.contractFuelConsumed label)

/-- The runs dry. -/
def exhausted : Nat := client.get (client.getOrCreate self.contractFuelExhaustedTotal label)

/-- The observations of memory. -/
def memory : Nat := client.count (client.getOrCreate self.contractMemoryPeakBytes label)

/-- What a bound of the fuel shows. -/
def fuelShown (bound : Nat) : Option Nat :=
  client.shown (client.getOrCreate self.contractFuelConsumed label) bound

/-- What a bound of the memory shows. -/
def memoryShown (bound : Nat) : Option Nat :=
  client.shown (client.getOrCreate self.contractMemoryPeakBytes label) bound

end Readings

section Recorded

variable (hlaw : client.Counting) (samples : List Sample) (label : ContractExecutionLabels)

include hlaw

theorem recordAll_executions : ((new client).recordAll samples).executions label
    = samples.countP (labelled Sample.executions label) := by
  unfold executions
  rw [recordAll_family contractExecutions (client.countBy Sample.executions) fun _ _ => rfl]
  exact client.get_countBy hlaw _ _ _

theorem recordAll_exhausted : ((new client).recordAll samples).exhausted label
    = samples.countP (labelled Sample.exhausted label) := by
  unfold exhausted
  rw [recordAll_family contractFuelExhaustedTotal (client.countBy Sample.exhausted) fun _ _ => rfl]
  exact client.get_countBy hlaw _ _ _

theorem recordAll_seconds : ((new client).recordAll samples).seconds label
    = samples.countP (labelled Sample.seconds label) := by
  unfold seconds
  rw [recordAll_family contractExecutionSeconds (client.observeBy Sample.seconds) fun _ _ => rfl]
  exact client.count_observeBy hlaw _ _ _ _

theorem recordAll_fuel : ((new client).recordAll samples).fuel label
    = samples.countP (labelled Sample.fuel label) := by
  unfold fuel
  rw [recordAll_family contractFuelConsumed (client.observeBy Sample.fuel) fun _ _ => rfl]
  exact client.count_observeBy hlaw _ _ _ _

theorem recordAll_memory : ((new client).recordAll samples).memory label
    = samples.countP (labelled Sample.memory label) := by
  unfold memory
  rw [recordAll_family contractMemoryPeakBytes (client.observeBy Sample.memory) fun _ _ => rfl]
  exact client.count_observeBy hlaw _ _ _ _

end Recorded

section Buckets

variable (hlaw : client.Lawful) (samples : List Sample) (label : ContractExecutionLabels)

include hlaw

theorem recordAll_fuelShown {bound : Nat} (h : bound ∈ fuelBuckets) :
    ((new client).recordAll samples).fuelShown label bound
      = some ((pick Sample.fuel label samples).countP fun value => decide (value ≤ bound)) := by
  unfold fuelShown
  rw [recordAll_family contractFuelConsumed (client.observeBy Sample.fuel) fun _ _ => rfl]
  exact client.shown_observeBy hlaw _ _ (by decide) _ h

theorem recordAll_memoryShown {bound : Nat} (h : bound ∈ memoryBuckets) :
    ((new client).recordAll samples).memoryShown label bound
      = some ((pick Sample.memory label samples).countP fun value => decide (value ≤ bound)) := by
  unfold memoryShown
  rw [recordAll_family contractMemoryPeakBytes (client.observeBy Sample.memory) fun _ _ => rfl]
  exact client.shown_observeBy hlaw _ _ (by decide) _ h

end Buckets

end ContractMetrics

/-! ### What a call sends -/

open ContractRuntime

/-- The linear memory of a finished call, as it is observed. -/
def memoryBytesOf {σ : Type} (r : GuestRun σ) : Nat :=
  if r.final.memoryExport then r.final.memory.length else 0

/-- What is sent when `main_function` is back. -/
def calledSamples {σ : Type} (r : GuestRun σ) : List Sample :=
  match r.outcome with
  | .ok _ => [.fuelConsumed "success" (maxFuel - r.fuel), .memoryPeak "success" (memoryBytesOf r)]
  | .error e =>
      [.fuelConsumed "error" (maxFuel - r.fuel), .memoryPeak "error" (memoryBytesOf r)]
        ++ if e.downcastTrap = some .outOfFuel then [.fuelExhausted] else []

theorem observeCall_eq {client : Client} {σ : Type} (m : ContractMetrics client) (r : GuestRun σ) :
    observeCall m r = m.recordAll (calledSamples r) := by
  unfold observeCall calledSamples
  cases r.outcome with
  | ok x => rfl
  | error e =>
      by_cases hdry : e.downcastTrap = some .outOfFuel
      · simp only [hdry, decide_true, if_true]
        rfl
      · simp only [hdry, decide_false, Bool.false_eq_true, if_false]
        rfl

namespace ExecuteCall

variable {V : Type} (ext : Externals V) (c : ExecuteCall V)

/-- The limits of the runtime the call is made on. -/
def limits : WasmLimits := limitsFor c.spec

/-- The run of `main_function`, if it came to it. -/
def run : Except RuntimeError (Instance c.σ × GuestRun c.σ) :=
  callMain ext c.limits c.module c.state c.initState c.event c.isOwner

/-- What the caller is answered. -/
def answer : Except RuntimeError (ExecutionResult V × ExecutionStats) :=
  executeInner ext c.limits c.module c.state c.initState c.event c.isOwner

/-- Everything the call sends, in order. -/
def samples : List Sample :=
  (match c.run ext with
    | .error _ => []
    | .ok (_, r) => calledSamples r) ++
  [ .execution (resultLabel (c.answer ext))
  , .executionSeconds (resultLabel (c.answer ext)) c.elapsed ]

/-- **Recording changes no answer**, and leaves exactly these samples behind. -/
theorem execute_eq {client : Client} (metrics : Option (ContractMetrics client)) :
    (ContractRuntime.withMetrics c.spec metrics).execute ext c.module c.state c.initState c.event
        c.isOwner c.elapsed
      = (c.answer ext,
          { limits := c.limits, metrics := metrics.map (·.recordAll (c.samples ext)) }) := by
  have hlimits : (ContractRuntime.withMetrics c.spec metrics).limits = c.limits := rfl
  have hmetrics : (ContractRuntime.withMetrics c.spec metrics).metrics = metrics := rfl
  unfold execute executeInnerObserved samples answer executeInner run
  rw [hlimits]
  cases callMain ext c.limits c.module c.state c.initState c.event c.isOwner with
  | error e => cases metrics <;> rfl
  | ok x =>
      obtain ⟨inst, r⟩ := x
      cases metrics with
      | none => rfl
      | some m =>
          simp only [hmetrics, Option.map_some, observeCall_eq, ContractMetrics.recordAll_append]
          rfl

/-! ### How a call ends -/

/-- How far a call got, and what it was answered for that. -/
inductive Ending : Prop where
  /-- `main_function` was never called. -/
  | unstarted (e : RuntimeError) (run : c.run ext = .error e) (answer : c.answer ext = .error e)
      (quiet : (∀ consumed, e ≠ .outOfFuel consumed) ∧ ∀ d, e ≠ .contractExecutionFailed d)
  /-- It returned, and its result was read. -/
  | read (inst : Instance c.σ) (r : GuestRun c.σ) (x : Word × c.σ) (result : ExecutionResult V)
      (stats : ExecutionStats) (run : c.run ext = .ok (inst, r)) (outcome : r.outcome = .ok x)
      (answer : c.answer ext = .ok (result, stats))
  /-- It returned, and its result could not be read. -/
  | unread (inst : Instance c.σ) (r : GuestRun c.σ) (x : Word × c.σ) (e : RuntimeError)
      (run : c.run ext = .ok (inst, r)) (outcome : r.outcome = .ok x)
      (answer : c.answer ext = .error e)
      (quiet : (∀ consumed, e ≠ .outOfFuel consumed) ∧ ∀ d, e ≠ .contractExecutionFailed d)
  /-- It ran out of fuel. -/
  | dry (inst : Instance c.σ) (r : GuestRun c.σ) (e : WasmError) (consumed : Nat)
      (run : c.run ext = .ok (inst, r)) (outcome : r.outcome = .error e)
      (trap : e.downcastTrap = some .outOfFuel)
      (answer : c.answer ext = .error (.outOfFuel consumed))
  /-- It stopped for another reason. -/
  | stopped (inst : Instance c.σ) (r : GuestRun c.σ) (e : WasmError) (details : String)
      (run : c.run ext = .ok (inst, r)) (outcome : r.outcome = .error e)
      (trap : e.downcastTrap ≠ some .outOfFuel)
      (answer : c.answer ext = .error (.contractExecutionFailed details))

/-- An error of moving data is neither a run dry nor the contract's failure. -/
theorem dataError_quiet {e : RuntimeError} (h : DataError e) :
    (∀ consumed, e ≠ .outOfFuel consumed) ∧ ∀ d, e ≠ .contractExecutionFailed d := by
  rcases h with ⟨_, _, rfl⟩ | ⟨_, rfl⟩ <;> simp

/-- **A call ends in one of five ways.** -/
theorem ending : Ending ext c := by
  cases hrun : c.run ext with
  | error e =>
      have hanswer : c.answer ext = .error e := by
        unfold answer executeInner
        unfold run at hrun
        rw [hrun]
      refine .unstarted e hrun hanswer ?_
      rcases callMain_error hrun with hdata | ⟨_, rfl⟩ | rfl
      · exact dataError_quiet hdata
      · simp
      · simp
  | ok x =>
      obtain ⟨inst, r⟩ := x
      have hanswer : c.answer ext = finishCall ext r := executeInner_called hrun
      cases hout : r.outcome with
      | ok x =>
          cases hres : getExecutionResult ext r.final x.1 with
          | ok result =>
              have hread : ∃ stats, c.answer ext = .ok (result, stats) := by
                rw [hanswer, finishCall, hout]
                simp only [hres]
                exact ⟨_, rfl⟩
              obtain ⟨stats, hread⟩ := hread
              exact .read inst r x result stats hrun hout hread
          | error e =>
              refine .unread inst r x e hrun hout ?_ (dataError_quiet (getExecutionResult_dataError hres))
              rw [hanswer, finishCall, hout]
              simp only [hres]
      | error e =>
          by_cases hdry : e.downcastTrap = some .outOfFuel
          · refine .dry inst r e (maxFuel - r.fuel) hrun hout hdry ?_
            rw [hanswer, finishCall, hout]
            simp only [hdry, if_true]
          · refine .stopped inst r e (ext.wasmText e) hrun hout hdry ?_
            rw [hanswer, finishCall, hout]
            simp only [if_neg hdry]

/-- What is counted of a call. -/
def label : String := resultLabel (c.answer ext)

/-- `main_function` returned. -/
def returned : Bool :=
  match c.run ext with
  | .error _ => false
  | .ok (_, r) => r.outcome.isOk

/-- `main_function` was called and did not return. -/
def broke : Bool :=
  match c.run ext with
  | .error _ => false
  | .ok (_, r) => !r.outcome.isOk

/-- It was answered that it ran out of fuel. -/
def ranDry : Bool :=
  match c.answer ext with
  | .error (.outOfFuel _) => true
  | _ => false

/-- It was answered that the contract failed. -/
def failed : Bool :=
  match c.answer ext with
  | .error (.contractExecutionFailed _) => true
  | _ => false

/-- `main_function` was never called. -/
def unstarted : Bool :=
  match c.run ext with
  | .error _ => true
  | .ok _ => false

/-- `main_function` returned, and nothing could be made of it. -/
def unread : Bool := c.returned ext && !(c.answer ext).isOk

end ExecuteCall

/-- **The metrics are those of all samples that were sent.** -/
theorem serve_eq {client : Client} {V : Type} (ext : Externals V) : ∀ (calls : List (ExecuteCall V))
    (m : ContractMetrics client),
      serve ext (some m) calls = some (m.recordAll (calls.flatMap (·.samples ext))) := by
  intro calls
  induction calls with
  | nil => intro m; rfl
  | cons c rest ih =>
      intro m
      rw [serve, c.execute_eq]
      simp only [Option.map_some]
      rw [ih, List.flatMap_cons, ContractMetrics.recordAll_append]

/-! ### The books -/

/-- What a set of metrics says when it has heard all of the calls, and nothing else. -/
structure Accounts {client : Client} {V : Type} (ext : Externals V) (calls : List (ExecuteCall V))
    (m : ContractMetrics client) : Prop where
  /-- Each execution is counted under its business outcome. -/
  executions : ∀ result, m.executions { result } = calls.countP fun c => decide (c.label ext = result)
  /-- There are three of these, and every call has one. -/
  every : m.executions { result := "accepted" } + m.executions { result := "rejected" }
      + m.executions { result := "error" } = calls.length
  /-- Each execution counted was timed. -/
  seconds : ∀ l, m.seconds l = m.executions l
  /-- Memory is observed with the fuel. -/
  memory : ∀ l, m.memory l = m.fuel l
  /-- The exhausted ones are those that were told so. -/
  exhausted : m.exhausted { result := "error" } = calls.countP (·.ranDry ext)
  /-- The fuel of a success is that of a call that returned, whatever came of its result. -/
  returned : m.fuel { result := "success" }
    = m.executions { result := "accepted" } + m.executions { result := "rejected" }
      + calls.countP (·.unread ext)
  /-- The fuel of an error is that of a call that did not. -/
  stopped : m.fuel { result := "error" }
    = m.exhausted { result := "error" } + calls.countP (·.failed ext)
  /-- An execution that counts as an error did not return, was not read or was not started. -/
  errors : m.executions { result := "error" }
    = m.fuel { result := "error" } + calls.countP (·.unread ext) + calls.countP (·.unstarted ext)

namespace ExecuteCall

variable {V : Type} (ext : Externals V) (c : ExecuteCall V)

/-- **Each call is counted once, under its business outcome, and timed.** -/
theorem samples_counted (l : ContractExecutionLabels) :
    (c.samples ext).countP (labelled Sample.executions l)
        = (if decide ({ result := c.label ext } = l) then 1 else 0) ∧
      (c.samples ext).countP (labelled Sample.seconds l)
        = (if decide ({ result := c.label ext } = l) then 1 else 0) := by
  unfold samples label
  rw [List.countP_append, List.countP_append]
  cases c.run ext with
  | error e => simp [List.countP_cons, labelled, Sample.executions, Sample.seconds]
  | ok x =>
      obtain ⟨inst, r⟩ := x
      cases hout : r.outcome with
      | ok x =>
          simp [calledSamples, hout, List.countP_cons, labelled, Sample.executions,
            Sample.seconds]
      | error e =>
          by_cases hdry : e.downcastTrap = some .outOfFuel <;>
            simp [calledSamples, hout, hdry, List.countP_cons, labelled, Sample.executions,
              Sample.seconds]

/-- Of a call that was made the fuel and the memory are observed, under how it ended. -/
theorem samples_metered (l : ContractExecutionLabels) :
    (c.samples ext).countP (labelled Sample.fuel l)
        = (if (c.returned ext && decide ({ result := "success" } = l)) ||
            (c.broke ext && decide ({ result := "error" } = l)) then 1 else 0) ∧
      (c.samples ext).countP (labelled Sample.memory l)
        = (c.samples ext).countP (labelled Sample.fuel l) := by
  unfold samples returned broke
  rw [List.countP_append, List.countP_append]
  cases c.run ext with
  | error e => simp [labelled, Sample.fuel, Sample.memory]
  | ok x =>
      obtain ⟨inst, r⟩ := x
      cases hout : r.outcome with
      | ok x =>
          simp [calledSamples, hout, List.countP_cons, labelled, Sample.fuel, Sample.memory,
            Except.isOk, Except.toBool]
      | error e =>
          by_cases hdry : e.downcastTrap = some .outOfFuel <;>
            simp [calledSamples, hout, hdry, List.countP_cons, labelled, Sample.fuel,
              Sample.memory, Except.isOk, Except.toBool]

/-- A run dry is counted by itself. -/
theorem samples_exhausted : (c.samples ext).countP
    (labelled Sample.exhausted { result := "error" })
      = (if c.ranDry ext then 1 else 0) := by
  unfold ranDry samples
  rw [List.countP_append]
  cases c.ending ext with
  | unstarted e hrun hanswer hquiet =>
      have hno : ∀ consumed, e ≠ .outOfFuel consumed := hquiet.1
      rw [hrun, hanswer]
      cases e with
      | outOfFuel consumed => exact absurd rfl (hno consumed)
      | _ => simp [labelled, Sample.exhausted]
  | read inst r x result stats hrun hout hanswer =>
      rw [hrun, hanswer]
      simp [calledSamples, hout, labelled, Sample.exhausted]
  | unread inst r x e hrun hout hanswer hquiet =>
      have hno : ∀ consumed, e ≠ .outOfFuel consumed := hquiet.1
      rw [hrun, hanswer]
      cases e with
      | outOfFuel consumed => exact absurd rfl (hno consumed)
      | _ => simp [calledSamples, hout, labelled, Sample.exhausted]
  | dry inst r e consumed hrun hout htrap hanswer =>
      rw [hrun, hanswer]
      simp [calledSamples, hout, htrap, labelled, Sample.exhausted]
  | stopped inst r e details hrun hout htrap hanswer =>
      rw [hrun, hanswer]
      simp [calledSamples, hout, htrap, labelled, Sample.exhausted]

/-- The kinds of a call: what it is counted as, and how it ended. -/
theorem kinds :
    (decide (c.label ext = "accepted")).toNat + (decide (c.label ext = "rejected")).toNat
        + (decide (c.label ext = "error")).toNat = 1 ∧
    (c.returned ext).toNat = (decide (c.label ext = "accepted")).toNat
        + (decide (c.label ext = "rejected")).toNat + (c.unread ext).toNat ∧
    (c.broke ext).toNat = (c.ranDry ext).toNat + (c.failed ext).toNat ∧
    (decide (c.label ext = "error")).toNat
      = (c.broke ext).toNat + (c.unread ext).toNat + (c.unstarted ext).toNat := by
  unfold unread returned broke ranDry failed unstarted label
  cases c.ending ext with
  | unstarted e hrun hanswer hquiet =>
      rw [hrun, hanswer]
      cases e with
      | outOfFuel consumed => exact absurd rfl (hquiet.1 consumed)
      | contractExecutionFailed details => exact absurd rfl (hquiet.2 details)
      | _ => simp [resultLabel]
  | read inst r x result stats hrun hout hanswer =>
      rw [hrun, hanswer]
      cases hsuccess : result.success <;>
        simp [resultLabel, hout, hsuccess, Except.isOk, Except.toBool]
  | unread inst r x e hrun hout hanswer hquiet =>
      rw [hrun, hanswer]
      cases e with
      | outOfFuel consumed => exact absurd rfl (hquiet.1 consumed)
      | contractExecutionFailed details => exact absurd rfl (hquiet.2 details)
      | _ => simp [resultLabel, hout, Except.isOk, Except.toBool]
  | dry inst r e consumed hrun hout htrap hanswer =>
      rw [hrun, hanswer]
      simp [resultLabel, hout, Except.isOk, Except.toBool]
  | stopped inst r e details hrun hout htrap hanswer =>
      rw [hrun, hanswer]
      simp [resultLabel, hout, Except.isOk, Except.toBool]

end ExecuteCall

/-- **However they were interleaved, the samples of the calls keep the books.** -/
theorem accounts_of_perm {client : Client} (hlaw : client.Counting) {V : Type} (ext : Externals V)
    (calls : List (ExecuteCall V)) {samples : List Sample}
    (h : samples.Perm (calls.flatMap (·.samples ext))) :
    Accounts ext calls ((ContractMetrics.new client).recordAll samples) := by
  have hcounted : ∀ l, samples.countP (labelled Sample.executions l)
      = calls.countP fun c => decide ({ result := c.label ext } = l) := by
    intro l
    rw [h.countP_eq]
    exact countP_flatMap (fun c => (c.samples_counted ext l).1) calls
  have hlabel : ∀ result, samples.countP (labelled Sample.executions { result })
      = calls.countP fun c => decide (c.label ext = result) := by
    intro result
    rw [hcounted]
    refine List.countP_congr fun c _ => ?_
    simp
  have hmetered : ∀ l, samples.countP (labelled Sample.fuel l)
      = calls.countP fun c => (c.returned ext && decide ({ result := "success" } = l)) ||
          (c.broke ext && decide ({ result := "error" } = l)) := by
    intro l
    rw [h.countP_eq]
    exact countP_flatMap (fun c => (c.samples_metered ext l).1) calls
  have hreturned : samples.countP (labelled Sample.fuel { result := "success" })
      = calls.countP (·.returned ext) := by
    rw [hmetered]
    refine List.countP_congr fun c _ => ?_
    simp
  have hbroke : samples.countP (labelled Sample.fuel { result := "error" })
      = calls.countP (·.broke ext) := by
    rw [hmetered]
    refine List.countP_congr fun c _ => ?_
    simp
  have hdry : samples.countP (labelled Sample.exhausted { result := "error" })
      = calls.countP (·.ranDry ext) := by
    rw [h.countP_eq]
    exact countP_flatMap (fun c => c.samples_exhausted ext) calls
  have hnone : calls.countP (fun _ => false) = 0 := by simp
  constructor
  · intro result
    rw [ContractMetrics.recordAll_executions hlaw, hlabel]
  · simp only [ContractMetrics.recordAll_executions hlaw, hlabel]
    have hall : calls.countP (fun _ => true) = calls.length := by simp
    rw [← hall]
    exact (countP_split (fun c => ((c.kinds ext).1).symm) calls).symm
  · intro l
    rw [ContractMetrics.recordAll_executions hlaw, ContractMetrics.recordAll_seconds hlaw, hcounted,
      h.countP_eq]
    exact countP_flatMap (fun c => (c.samples_counted ext l).2) calls
  · intro l
    rw [ContractMetrics.recordAll_fuel hlaw, ContractMetrics.recordAll_memory hlaw, hmetered,
      h.countP_eq]
    exact countP_flatMap (fun c => (c.samples_metered ext l).2.trans (c.samples_metered ext l).1)
      calls
  · rw [ContractMetrics.recordAll_exhausted hlaw, hdry]
  · simp only [ContractMetrics.recordAll_executions hlaw, ContractMetrics.recordAll_fuel hlaw, hlabel,
      hreturned]
    exact countP_split (fun c => (c.kinds ext).2.1) calls
  · rw [ContractMetrics.recordAll_exhausted hlaw, ContractMetrics.recordAll_fuel hlaw, hbroke, hdry]
    rw [countP_split (c := fun _ => false) (fun c => (c.kinds ext).2.2.1) calls, hnone,
      Nat.add_zero]
  · simp only [ContractMetrics.recordAll_executions hlaw, ContractMetrics.recordAll_fuel hlaw, hlabel,
      hbroke]
    exact countP_split (fun c => (c.kinds ext).2.2.2) calls

/--
**When no call is under way, every call is accounted for once.**

For any calls, on any machines and answered in any way, served one after the other or
with what they send interleaved as it may be: the executions are counted by outcome,
the fuel and the memory by whether `main_function` returned, and the runs dry by
themselves; and the two ways of counting differ by the calls that were never started
and the results that were never read.
-/
theorem metrics_account {client : Client} (hlaw : client.Counting) {V : Type} (ext : Externals V)
    (calls : List (ExecuteCall V)) :
    (∃ m, serve ext (some (.new client)) calls = some m ∧ Accounts ext calls m) ∧
      ∀ samples : List Sample, samples.Perm (calls.flatMap (·.samples ext)) →
        Accounts ext calls ((ContractMetrics.new client).recordAll samples) :=
  ⟨⟨_, serve_eq ext calls _, accounts_of_perm hlaw ext calls (List.Perm.refl _)⟩,
    fun _ h => accounts_of_perm hlaw ext calls h⟩

/-! ### A latch that is set -/

/-- A call that sets the latch, on a default machine. -/
def latchCall : ExecuteCall Bool where
  spec := none
  module := Sdk.latch.module Sdk.bareBuild Sdk.pageShell
  state := false
  initState := true
  event := true
  isOwner := false
  elapsed := 1000000

theorem latch_accounts : ∃ m : ContractMetrics plain,
    serve Sdk.boolExternals (some (.new plain)) [latchCall, latchCall] = some m ∧
      Accounts Sdk.boolExternals [latchCall, latchCall] m :=
  (metrics_account plain_lawful.toCounting Sdk.boolExternals [latchCall, latchCall]).1

end Ave
