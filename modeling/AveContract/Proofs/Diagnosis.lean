/-
A refused list of imports is refused for its first fault.

`checkImports` stops at the first import it cannot strike, so what it says is about
that one: everything before it was the SDK's, each name once.  Here that is made
exact.  `Complaint` says which fault goes with which error, and has two ways to an
unknown import, since a function that is imported twice is unknown the second time.
What is missing is said only when there is no fault, and then it is said completely.

The loop's invariant is `Pending`: the names it holds are those of the SDK that the
imports so far did not have.
-/
import AveContract.Proofs.Imports

namespace Ave

/-- Imports of the SDK's, none of them twice. -/
structure Struck (imports : List Import) : Prop where
  sdk : ∀ i ∈ imports, sdkImport i.name = some i
  once : (imports.map Import.name).Nodup

/-- The names of the SDK that `earlier` does not have. -/
structure Pending (earlier : List Import) (pending : List String) : Prop where
  mem : ∀ name, name ∈ pending ↔ name ∈ sdkFunctions ∧ name ∉ earlier.map Import.name
  once : pending.Nodup

/-- What is wrong with an import after `earlier`, and what is said of it. -/
inductive Complaint (earlier : List Import) (i : Import) : InvalidModuleKind → Prop
  | module (hmodule : i.module ≠ "env") :
      Complaint earlier i (.unexpectedImportModule i.module i.name)
  | nonFunction {debug : String} (hmodule : i.module = "env") (htype : i.type = .other debug) :
      Complaint earlier i (.nonFunctionImport debug)
  | signature {type : FuncType} {expected : List ValType × List ValType × String}
      (hmodule : i.module = "env") (htype : i.type = .func type)
      (hexpected : expectedSdkSignature i.name = some expected)
      (hother : type ≠ ⟨expected.1, expected.2.1⟩) :
      Complaint earlier i (.invalidImportSignature i.name expected.2.2)
  | unknown {type : FuncType} (hmodule : i.module = "env") (htype : i.type = .func type)
      (hname : i.name ∉ sdkFunctions) : Complaint earlier i (.unknownImportFunction i.name)
  | twice (hsdk : sdkImport i.name = some i) (hname : i.name ∈ earlier.map Import.name) :
      Complaint earlier i (.unknownImportFunction i.name)

/-! ### One import -/

/-- A name with a signature is one of the SDK's. -/
theorem mem_sdkFunctions {name : String} {expected : List ValType × List ValType × String}
    (h : expectedSdkSignature name = some expected) : name ∈ sdkFunctions := by
  unfold expectedSdkSignature at h
  split at h
  · decide
  · decide
  · decide
  · decide
  · simp at h

/-- The SDK's import of a name is a function of `env` with the signature expected of it. -/
theorem sdkImport_some {i : Import} (h : sdkImport i.name = some i) :
    ∃ expected, expectedSdkSignature i.name = some expected ∧ i.module = "env" ∧
      i.type = .func ⟨expected.1, expected.2.1⟩ := by
  obtain ⟨expected, hexpected, heq⟩ := Option.map_eq_some_iff.mp h
  exact ⟨expected, hexpected, (congrArg Import.module heq).symm, (congrArg Import.type heq).symm⟩

/-- Every import is the SDK's for the first time, or there is something wrong with it. -/
theorem struck_or_complaint (earlier : List Import) (i : Import) :
    (sdkImport i.name = some i ∧ i.name ∉ earlier.map Import.name) ∨
      ∃ kind, Complaint earlier i kind := by
  by_cases hmodule : i.module = "env"
  · cases htype : i.type with
    | other debug => exact Or.inr ⟨_, .nonFunction hmodule htype⟩
    | func type =>
        cases hexpected : expectedSdkSignature i.name with
        | none =>
            refine Or.inr ⟨_, .unknown hmodule htype fun hmem => ?_⟩
            obtain ⟨expected, hsome⟩ := expectedSdkSignature_isSome hmem
            rw [hexpected] at hsome
            simp at hsome
        | some expected =>
            by_cases hother : type = ⟨expected.1, expected.2.1⟩
            · have hsdk : sdkImport i.name = some i := by
                rw [sdkImport, hexpected, Option.map_some, ← hother, ← htype, ← hmodule]
              by_cases hname : i.name ∈ earlier.map Import.name
              · exact Or.inr ⟨_, .twice hsdk hname⟩
              · exact Or.inl ⟨hsdk, hname⟩
            · exact Or.inr ⟨_, .signature hmodule htype hexpected hother⟩
  · exact Or.inr ⟨_, .module hmodule⟩

/-- **What is wrong is what is said.** -/
theorem Complaint.checkImports {earlier rest : List Import} {i : Import} {pending : List String}
    {kind : InvalidModuleKind} (h : Complaint earlier i kind) (hpending : Pending earlier pending) :
    checkImports (i :: rest) pending = .error kind := by
  rw [Ave.checkImports]
  cases h with
  | module hmodule => rw [if_pos hmodule]
  | nonFunction hmodule htype => rw [if_neg (not_not.mpr hmodule), htype]
  | signature hmodule htype hexpected hother =>
      rename_i type expected
      have hno : ¬signatureMatches type expected = true :=
        fun hmatch => hother ((signatureMatches_iff hexpected).mp hmatch)
      rw [if_neg (not_not.mpr hmodule), htype, hexpected]
      simp only [if_neg hno]
  | unknown hmodule htype hname =>
      have hnone : expectedSdkSignature i.name = none := by
        cases hexpected : expectedSdkSignature i.name with
        | none => rfl
        | some expected => exact absurd (mem_sdkFunctions hexpected) hname
      have hmem : i.name ∉ pending := fun hmem => hname ((hpending.mem _).mp hmem).1
      rw [if_neg (not_not.mpr hmodule), htype, hnone]
      exact if_neg hmem
  | twice hsdk hname =>
      obtain ⟨expected, hexpected, hmodule, htype⟩ := sdkImport_some hsdk
      have hmatch : signatureMatches ⟨expected.1, expected.2.1⟩ expected = true :=
        (signatureMatches_iff hexpected).mpr rfl
      have hmem : i.name ∉ pending := fun hmem => ((hpending.mem _).mp hmem).2 hname
      rw [if_neg (not_not.mpr hmodule), htype, hexpected]
      simp only [if_pos hmatch]
      exact if_neg hmem

/-! ### The loop -/

theorem Struck.snoc {earlier : List Import} {i : Import} (h : Struck earlier)
    (hsdk : sdkImport i.name = some i) (hname : i.name ∉ earlier.map Import.name) :
    Struck (earlier ++ [i]) := by
  refine ⟨fun j hj => ?_, ?_⟩
  · rcases List.mem_append.mp hj with hold | hnew
    · exact h.sdk j hold
    · rw [List.mem_singleton.mp hnew]
      exact hsdk
  · rw [List.map_append, List.map_singleton]
    exact List.nodup_append.mpr ⟨h.once, List.nodup_singleton _, fun a ha b hb heq =>
      hname (by rw [← List.mem_singleton.mp hb, ← heq]; exact ha)⟩

/-- Striking a name leaves those that are still to be seen. -/
theorem Pending.erase {earlier : List Import} {i : Import} {pending : List String}
    (h : Pending earlier pending) : Pending (earlier ++ [i]) (pending.erase i.name) := by
  refine ⟨fun name => ?_, h.once.erase _⟩
  rw [h.once.mem_erase_iff, h.mem, List.map_append, List.map_singleton, List.mem_append,
    List.mem_singleton]
  tauto

/-- An import of the SDK's that is new is struck. -/
theorem checkImports_strike {earlier : List Import} {pending : List String} {i : Import}
    (rest : List Import) (hpending : Pending earlier pending) (hsdk : sdkImport i.name = some i)
    (hname : i.name ∉ earlier.map Import.name) :
    checkImports (i :: rest) pending = checkImports rest (pending.erase i.name) := by
  obtain ⟨expected, hexpected, hmodule, htype⟩ := sdkImport_some hsdk
  have hmatch : signatureMatches ⟨expected.1, expected.2.1⟩ expected = true :=
    (signatureMatches_iff hexpected).mpr rfl
  have hmem : i.name ∈ pending := (hpending.mem _).mpr ⟨mem_sdkFunctions hexpected, hname⟩
  rw [checkImports, if_neg (not_not.mpr hmodule), htype, hexpected]
  simp only [if_pos hmatch]
  exact if_pos hmem

/-- The first fault of a list, after `earlier`. -/
def FirstFault (earlier imports : List Import) (kind : InvalidModuleKind) : Prop :=
  ∃ struck i later, imports = struck ++ i :: later ∧ Struck (earlier ++ struck) ∧
    Complaint (earlier ++ struck) i kind

/-- **The whole loop says the first fault, or what is missing where there is none.** -/
theorem checkImports_run : ∀ (imports earlier : List Import) (pending : List String),
    Struck earlier → Pending earlier pending →
    (∃ kind, FirstFault earlier imports kind ∧ checkImports imports pending = .error kind) ∨
      ∃ missing, Struck (earlier ++ imports) ∧ Pending (earlier ++ imports) missing ∧
        checkImports imports pending = .ok missing := by
  intro imports
  induction imports with
  | nil =>
      intro earlier pending hstruck hpending
      rw [List.append_nil]
      exact Or.inr ⟨pending, hstruck, hpending, rfl⟩
  | cons i rest ih =>
      intro earlier pending hstruck hpending
      rcases struck_or_complaint earlier i with ⟨hsdk, hname⟩ | ⟨kind, hcomplaint⟩
      · have hstrike := checkImports_strike rest hpending hsdk hname
        rcases ih (earlier ++ [i]) (pending.erase i.name) (hstruck.snoc hsdk hname) hpending.erase with
          ⟨kind, ⟨struck, j, later, hrest, hstruck', hcomplaint⟩, he⟩ | ⟨missing, hall, hleft, hok⟩
        · rw [← List.append_cons] at hstruck' hcomplaint
          exact Or.inl ⟨kind, ⟨i :: struck, j, later, by rw [hrest, List.cons_append], hstruck',
            hcomplaint⟩, hstrike.trans he⟩
        · rw [← List.append_cons] at hall hleft
          exact Or.inr ⟨missing, hall, hleft, hstrike.trans hok⟩
      · refine Or.inl ⟨kind, ⟨[], i, rest, rfl, ?_, ?_⟩, hcomplaint.checkImports hpending⟩
        · rw [List.append_nil]
          exact hstruck
        · rw [List.append_nil]
          exact hcomplaint

theorem struck_nil : Struck [] := ⟨fun _ h => absurd h List.not_mem_nil, List.nodup_nil⟩

theorem pending_nil : Pending [] sdkFunctions := by
  refine ⟨fun name => ?_, by decide⟩
  rw [List.map_nil]
  exact ⟨fun h => ⟨h, List.not_mem_nil⟩, fun h => h.1⟩

/-- Imports that were struck leave the loop where the SDK's other names are pending. -/
theorem checkImports_struck : ∀ (imports later earlier : List Import) (pending : List String),
    Struck (earlier ++ imports) → Pending earlier pending →
    ∃ left, Pending (earlier ++ imports) left ∧
      checkImports (imports ++ later) pending = checkImports later left := by
  intro imports later
  induction imports with
  | nil =>
      intro earlier pending _ hpending
      rw [List.append_nil]
      exact ⟨pending, hpending, rfl⟩
  | cons i rest ih =>
      intro earlier pending hstruck hpending
      have hsdk : sdkImport i.name = some i :=
        hstruck.sdk i (List.mem_append_right _ List.mem_cons_self)
      have hname : i.name ∉ earlier.map Import.name := by
        intro hmem
        have honce := hstruck.once
        rw [List.map_append, List.map_cons] at honce
        exact (List.nodup_append.mp honce).2.2 _ hmem _ List.mem_cons_self rfl
      rw [List.append_cons] at hstruck ⊢
      obtain ⟨left, hleft, heq⟩ := ih (earlier ++ [i]) (pending.erase i.name) hstruck hpending.erase
      exact ⟨left, hleft, (checkImports_strike (rest ++ later) hpending hsdk hname).trans heq⟩

/-! ### The verdict -/

/-- Why a list of imports is refused. -/
inductive Refusal (imports : List Import) : InvalidModuleKind → Prop
  | fault {kind : InvalidModuleKind} (h : FirstFault [] imports kind) : Refusal imports kind
  | missing {names : List String} (hstruck : Struck imports) (hne : names ≠ [])
      (hmem : ∀ name, name ∈ names ↔ name ∈ sdkFunctions ∧ name ∉ imports.map Import.name) :
      Refusal imports (.missingImports names)

/--
**A module is refused for its first faulty import, or for all that it lacks.**

Whatever the imports are: a refusal names a fault of the first import that is not
the SDK's for the first time, and where there is no such import it names exactly
the functions that are missing.  The first fault of a list, if it has one, is the
error.
-/
theorem imports_diagnosed (imports : List Import) :
    (∀ e, validateImports imports = .error e → ∃ kind, e = .invalidModule kind ∧ Refusal imports kind) ∧
      ∀ kind, FirstFault [] imports kind →
        validateImports imports = .error (.invalidModule kind) := by
  constructor
  · intro e he
    unfold validateImports at he
    rcases checkImports_run imports [] sdkFunctions struck_nil pending_nil with
      ⟨kind, hfault, hkind⟩ | ⟨missing, hstruck, hpending, hok⟩
    · rw [hkind] at he
      exact ⟨kind, (Except.error.inj he).symm, .fault hfault⟩
    · rw [hok] at he
      cases missing with
      | nil => simp at he
      | cons name names =>
          exact ⟨_, (Except.error.inj he).symm, .missing hstruck (List.cons_ne_nil _ _) hpending.mem⟩
  · rintro kind ⟨struck, i, later, rfl, hstruck, hcomplaint⟩
    obtain ⟨pending, hpending, heq⟩ :=
      checkImports_struck struck (i :: later) [] sdkFunctions hstruck pending_nil
    unfold validateImports
    rw [heq, hcomplaint.checkImports hpending]

end Ave
