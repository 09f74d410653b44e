/-
The import check accepts the SDK's imports and nothing else.

The loop keeps the names still to be seen and strikes each import from them.  It
strikes an import only if that is the SDK's of its name, module and type included,
so a list that gets to the end has been matched one to one with the names: it is
the SDK's list in some order.
-/
import AveContract.Runtime.ContractRuntime
import AveContract.Sdk.Guest

namespace Ave

/-! ### One import -/

/-- The import the SDK declares under a name. -/
def sdkImport (name : String) : Option Import :=
  (expectedSdkSignature name).map fun expected => ⟨"env", name, .func ⟨expected.1, expected.2.1⟩⟩

theorem valtypeEq_i32 {t : ValType} : valtypeEq t .i32 = true ↔ t = .i32 := by
  cases t with
  | i32 => simp [valtypeEq]
  | i64 => simp [valtypeEq]
  | f32 => simp [valtypeEq]
  | f64 => simp [valtypeEq]
  | v128 => simp [valtypeEq]
  | ref type => simp [valtypeEq]

/-- Where no references are expected, the comparison of two lists of types is equality. -/
theorem valtypesEq_i32 : ∀ {expected : List ValType} {actual : List ValType},
    (∀ t ∈ expected, t = .i32) → (valtypesEq actual expected = true ↔ actual = expected) := by
  intro expected
  induction expected with
  | nil =>
      intro actual _
      cases actual with
      | nil => simp [valtypesEq]
      | cons t actual => simp [valtypesEq]
  | cons u expected ih =>
      intro actual h
      obtain ⟨rfl, hrest⟩ := List.forall_mem_cons.mp h
      cases actual with
      | nil => simp [valtypesEq]
      | cons t actual =>
          have hih : valtypesEq actual expected = true ↔ actual = expected := ih hrest
          simp only [valtypesEq, Bool.and_eq_true] at hih
          simp only [valtypesEq, List.length_cons, List.zip_cons_cons, List.all_cons,
            Bool.and_eq_true, valtypeEq_i32, List.cons.injEq, ← hih, beq_iff_eq, Nat.add_right_cancel_iff]
          tauto

/-- The SDK's signatures are made of `i32` alone. -/
theorem expectedSdkSignature_i32 {name : String} {expected : List ValType × List ValType × String}
    (h : expectedSdkSignature name = some expected) :
    (∀ t ∈ expected.1, t = .i32) ∧ ∀ t ∈ expected.2.1, t = .i32 := by
  unfold expectedSdkSignature at h
  split at h
  · obtain rfl := Option.some.inj h
    decide
  · obtain rfl := Option.some.inj h
    decide
  · obtain rfl := Option.some.inj h
    decide
  · obtain rfl := Option.some.inj h
    decide
  · simp at h

/-- A type matches the signature expected of a name if it is that signature. -/
theorem signatureMatches_iff {name : String} {expected : List ValType × List ValType × String}
    {type : FuncType} (h : expectedSdkSignature name = some expected) :
    signatureMatches type expected = true ↔ type = ⟨expected.1, expected.2.1⟩ := by
  obtain ⟨hparams, hresults⟩ := expectedSdkSignature_i32 h
  rw [signatureMatches, Bool.and_eq_true, valtypesEq_i32 hparams, valtypesEq_i32 hresults]
  constructor
  · rintro ⟨hp, hr⟩
    cases type
    simp only at hp hr
    rw [hp, hr]
  · rintro rfl
    exact ⟨rfl, rfl⟩

theorem expectedSdkSignature_isSome {name : String} (h : name ∈ sdkFunctions) :
    ∃ expected, expectedSdkSignature name = some expected := by
  simp only [sdkFunctions, List.mem_cons, List.not_mem_nil, or_false] at h
  rcases h with rfl | rfl | rfl | rfl
  · exact ⟨_, rfl⟩
  · exact ⟨_, rfl⟩
  · exact ⟨_, rfl⟩
  · exact ⟨_, rfl⟩

/-! ### The loop -/

/-- **One round strikes an import of the SDK's, or ends the loop.** -/
theorem checkImports_cons {i : Import} (rest : List Import) {pending : List String}
    (hsub : ∀ name ∈ pending, name ∈ sdkFunctions) :
    (sdkImport i.name = some i ∧ i.name ∈ pending ∧
        checkImports (i :: rest) pending = checkImports rest (pending.erase i.name)) ∨
      (¬(sdkImport i.name = some i ∧ i.name ∈ pending) ∧
        ∃ kind, checkImports (i :: rest) pending = .error kind) := by
  obtain ⟨module, name, type⟩ := i
  rw [checkImports]
  by_cases hmodule : module = "env"
  · subst hmodule
    rw [if_neg (by simp)]
    cases type with
    | other debug =>
        refine Or.inr ⟨fun h => ?_, _, rfl⟩
        obtain ⟨expected, -, heq⟩ := Option.map_eq_some_iff.mp h.1
        simp at heq
    | func type =>
        cases hexp : expectedSdkSignature name with
        | none =>
            have hmem : name ∉ pending := by
              intro hmem
              obtain ⟨expected, hsome⟩ := expectedSdkSignature_isSome (hsub name hmem)
              rw [hexp] at hsome
              simp at hsome
            refine Or.inr ⟨fun h => hmem h.2, ?_⟩
            simp only
            exact ⟨_, if_neg hmem⟩
        | some expected =>
            have himport : sdkImport name = some ⟨"env", name, .func type⟩ ↔
                signatureMatches type expected = true := by
              rw [signatureMatches_iff hexp, sdkImport, hexp]
              simp [eq_comm]
            simp only [himport]
            by_cases hsig : signatureMatches type expected = true
            · by_cases hmem : name ∈ pending
              · exact Or.inl ⟨hsig, hmem, by rw [if_pos hsig]; exact if_pos hmem⟩
              · refine Or.inr ⟨fun h => hmem h.2, ?_⟩
                rw [if_pos hsig]
                exact ⟨_, if_neg hmem⟩
            · refine Or.inr ⟨fun h => hsig h.1, ?_⟩
              rw [if_neg hsig]
              exact ⟨_, rfl⟩
  · refine Or.inr ⟨fun h => ?_, _, if_pos hmodule⟩
    obtain ⟨expected, -, heq⟩ := Option.map_eq_some_iff.mp h.1
    simp only [Import.mk.injEq] at heq
    exact hmodule heq.1.symm

/-- **The loop strikes every name if and only if the imports are the SDK's of those names.** -/
theorem checkImports_ok_iff : ∀ (imports : List Import) {pending : List String},
    (∀ name ∈ pending, name ∈ sdkFunctions) →
    (checkImports imports pending = .ok [] ↔
      (∀ i ∈ imports, sdkImport i.name = some i) ∧ (imports.map Import.name).Perm pending) := by
  intro imports
  induction imports with
  | nil =>
      intro pending _
      rw [checkImports, Except.ok.injEq, List.map_nil, List.nil_perm]
      simp
  | cons i rest ih =>
      intro pending hsub
      rw [List.map_cons, List.cons_perm_iff_perm_erase, List.forall_mem_cons]
      rcases checkImports_cons rest hsub with ⟨hsdk, hmem, heq⟩ | ⟨hno, kind, he⟩
      · have hsub' : ∀ name ∈ pending.erase i.name, name ∈ sdkFunctions :=
          fun name h => hsub name (List.mem_of_mem_erase h)
        rw [heq, ih hsub']
        tauto
      · rw [he]
        refine iff_of_false (by simp) ?_
        rintro ⟨⟨hsdk, -⟩, hmem, -⟩
        exact hno ⟨hsdk, hmem⟩

theorem validateImports_ok_iff {imports : List Import} :
    validateImports imports = .ok () ↔ checkImports imports sdkFunctions = .ok [] := by
  unfold validateImports
  cases checkImports imports sdkFunctions with
  | error kind => simp
  | ok missing =>
      cases missing with
      | nil => simp
      | cons name missing => simp

/-- What the SDK declares is its import of each name. -/
theorem externf_eq : Sdk.externf = sdkFunctions.filterMap sdkImport := by decide

/-- A list of the SDK's imports is told by its names. -/
theorem filterMap_sdkImport : ∀ {imports : List Import},
    (∀ i ∈ imports, sdkImport i.name = some i) →
      (imports.map Import.name).filterMap sdkImport = imports := by
  intro imports
  induction imports with
  | nil => intro _; rfl
  | cons i rest ih =>
      intro h
      obtain ⟨hi, hrest⟩ := List.forall_mem_cons.mp h
      rw [List.map_cons, List.filterMap_cons_some hi, ih hrest]

/--
**The import check accepts the four SDK functions in any order, and nothing else.**
-/
theorem imports_accepted_iff (imports : List Import) :
    (validateImports imports = .ok () ↔ imports.Perm Sdk.externf) ∧
      ∀ imports', imports.Perm imports' →
        (validateImports imports = .ok () ↔ validateImports imports' = .ok ()) := by
  have hperm : ∀ imports, validateImports imports = .ok () ↔ imports.Perm Sdk.externf := by
    intro imports
    rw [validateImports_ok_iff, checkImports_ok_iff imports fun name h => h]
    constructor
    · rintro ⟨hsdk, hnames⟩
      rw [← filterMap_sdkImport hsdk, externf_eq]
      exact hnames.filterMap sdkImport
    · intro h
      refine ⟨fun i hi => ?_, h.map Import.name⟩
      have hall : ∀ i ∈ Sdk.externf, sdkImport i.name = some i := by decide
      exact hall i (h.mem_iff.mp hi)
  refine ⟨hperm imports, ?_⟩
  intro imports' h
  rw [hperm, hperm]
  exact ⟨fun h' => h.symm.trans h', fun h' => h.trans h'⟩

end Ave
