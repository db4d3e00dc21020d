import CredentialLease.Proofs.Address.Names

/-!
# Which targets are read

A target is read if it names a collection, unless a query is given both in it and in the settings
or the ingest pipeline may not be used. The first two faults lie in the address, the last one in
the settings.

Main statement: `parse_grammar`.
-/

namespace CredentialLease

/-! ### The name of a collection -/

namespace Target

/-- A name is left of a text if it is not empty and holds neither a slash nor white space. -/
theorem collection_eq_ok_iff {target name : String} {resource : List Char} :
    collection target resource = .ok name ↔ sanitize resource = name.toList ∧
      name.toList ≠ [] ∧ '/' ∉ name.toList ∧ ∀ c ∈ name.toList, Text.isBlank c = false := by
  rw [collection]
  by_cases hNil : sanitize resource = []
  · rw [if_pos hNil]
    constructor
    · intro h
      cases h
    · rintro ⟨hName, hNe, -⟩
      exact absurd (hName ▸ hNil) hNe
  rw [if_neg hNil]
  by_cases hSlash : '/' ∈ sanitize resource
  · rw [if_pos (List.contains_iff_mem.mpr hSlash)]
    constructor
    · intro h
      cases h
    · rintro ⟨hName, -, hFree, -⟩
      exact absurd (hName ▸ hSlash) hFree
  rw [if_neg fun h => hSlash (List.contains_iff_mem.mp h)]
  by_cases hBlank : (sanitize resource).any Text.isBlank = true
  · rw [if_pos hBlank]
    obtain ⟨c, hc, hBlank⟩ := List.any_eq_true.mp hBlank
    constructor
    · intro h
      cases h
    · rintro ⟨hName, -, -, hNone⟩
      rw [hNone c (hName ▸ hc)] at hBlank
      cases hBlank
  · rw [if_neg hBlank, Except.ok.injEq]
    have hNone : ∀ c ∈ sanitize resource, Text.isBlank c = false := fun c hc =>
      Bool.eq_false_iff.mpr fun h => hBlank (List.any_eq_true.mpr ⟨c, hc, h⟩)
    constructor
    · rintro rfl
      rw [String.toList_ofList]
      exact ⟨rfl, hNil, hSlash, hNone⟩
    · rintro ⟨hName, -⟩
      rw [hName, String.ofList_toList]

theorem collection_eq_error {target : String} {resource : List Char} {error : CredentialError}
    (h : collection target resource = .error error) : ∃ details, error = .addressFormat details := by
  rw [collection] at h
  split at h
  · exact ⟨_, (Except.error.inj h).symm⟩
  split at h
  · exact ⟨_, (Except.error.inj h).symm⟩
  split at h
  · exact ⟨_, (Except.error.inj h).symm⟩
  · cases h

/-- **The name of a collection is the one that the target names.** -/
theorem collection_split_eq_ok_iff {target name : String} :
    collection target (split target.toList).1 = .ok name ↔ Names name.toList target.toList := by
  rw [collection_eq_ok_iff, names_iff]
  constructor
  · rintro ⟨hName, hNe, hSlash, hBlank⟩
    refine ⟨⟨hNe, hSlash, fun hc => ?_, hBlank⟩, hName⟩
    rw [← hName] at hc
    exact question_notMem_split _ (sanitize_subset _ hc)
  · rintro ⟨⟨hNe, hSlash, -, hBlank⟩, hName⟩
    exact ⟨hName, hNe, hSlash, hBlank⟩

end Target

/-! ### The settings -/

namespace AddressSettings

/-- Whether the settings ask for no ingest pipeline, or for one that they may use: its name holds no
white space, and the operation creates documents. -/
def PipelineFits (settings : AddressSettings) : Prop :=
  ∀ pipeline, settings.ingestPipeline = some pipeline → Text.AllBlank pipeline.toList ∨
    (∀ c ∈ pipeline.toList, Text.isBlank c = false) ∧
      (settings.writeOperation = .index ∨ settings.writeOperation = .create)

theorem hasQuery_iff {settings : AddressSettings} : settings.hasQuery = true ↔
    ∃ query, settings.query = some query ∧ ¬ Text.AllBlank query.toList := by
  cases hQuery : settings.query with
  | none => simp [hasQuery, hQuery]
  | some query => simp [hasQuery, hQuery, isBlankText, Text.AllBlank]

theorem createsDocuments_iff {operation : WriteOperation} : operation.createsDocuments = true ↔
    operation = .index ∨ operation = .create := by
  cases operation <;> decide

theorem exists_effectivePipeline_iff {settings : AddressSettings} :
    (∃ pipeline, settings.effectivePipeline = .ok pipeline) ↔ settings.PipelineFits := by
  rw [effectivePipeline, PipelineFits]
  cases settings.ingestPipeline with
  | none => simp
  | some pipeline =>
    simp only [Option.some.injEq, forall_eq', ← createsDocuments_iff]
    by_cases hBlank : isBlankText pipeline = true
    · rw [if_pos hBlank]
      exact ⟨fun _ => .inl (List.all_eq_true.mp hBlank), fun _ => ⟨_, rfl⟩⟩
    rw [if_neg hBlank]
    have hSome : ¬ Text.AllBlank pipeline.toList := fun h => hBlank (List.all_eq_true.mpr h)
    by_cases hInside : hasBlank pipeline = true
    · rw [if_pos hInside]
      obtain ⟨c, hc, hInside⟩ := List.any_eq_true.mp hInside
      constructor
      · rintro ⟨_, h⟩
        cases h
      · rintro (h | ⟨h, -⟩)
        · exact absurd h hSome
        · rw [h c hc] at hInside
          cases hInside
    rw [if_neg hInside]
    have hPlain : ∀ c ∈ pipeline.toList, Text.isBlank c = false := fun c hc =>
      Bool.eq_false_iff.mpr fun h => hInside (List.any_eq_true.mpr ⟨c, hc, h⟩)
    cases hCreates : settings.writeOperation.createsDocuments with
    | false => simp [hSome]
    | true => simpa using .inr hPlain

theorem effectivePipeline_eq_error {settings : AddressSettings} {error : CredentialError}
    (h : settings.effectivePipeline = .error error) :
    ∃ details, error = .invalidConfiguration details := by
  rw [effectivePipeline] at h
  split at h
  · cases h
  split at h
  · cases h
  split at h
  · exact ⟨_, (Except.error.inj h).symm⟩
  split at h
  · exact ⟨_, (Except.error.inj h).symm⟩
  · cases h

/-- The settings after a query was found in a target, or none. -/
def taking (query : Option (List Char)) (settings : AddressSettings) : AddressSettings :=
  match query with
  | some query => { settings with query := some (String.ofList query) }
  | none => settings

/-- The pipeline does not depend on the query. -/
theorem effectivePipeline_taking (query : Option (List Char)) (settings : AddressSettings) :
    (settings.taking query).effectivePipeline = settings.effectivePipeline := by
  cases query with
  | none => rfl
  | some query => rfl

end AddressSettings

/-! ### Reading a target -/

namespace ResourceAddress

variable {target : String} {settings : AddressSettings}

/-- Whether a query is given both in a target and apart from it. In a target an ampersand counts as
one. -/
def HasTwoQueries (target : String) (settings : AddressSettings) : Prop :=
  ('?' ∈ target.toList ∨ '&' ∈ target.toList) ∧
    ∃ query, settings.query = some query ∧ ¬ Text.AllBlank query.toList

theorem hasTwoQueries_iff : HasTwoQueries target settings ↔
    ((target.toList.contains '?' || target.toList.contains '&') && settings.hasQuery) = true := by
  simp [HasTwoQueries, ← AddressSettings.hasQuery_iff]

/-- Two queries are told by the target. -/
theorem parse_eq_conflict (hSome : ¬ isBlankText target = true)
    (h : HasTwoQueries target settings) : parse target settings = .error (.addressFormat
      s!"cannot specify a query in the target [{target}] and through the query setting") := by
  rw [parse, if_neg hSome, if_pos (hasTwoQueries_iff.mp h)]

theorem parse_of_hasTwoQueries (h : HasTwoQueries target settings) :
    ∃ details, parse target settings = .error (.addressFormat details) := by
  by_cases hBlank : isBlankText target = true
  · rw [parse, if_pos hBlank]
    exact ⟨_, rfl⟩
  · exact ⟨_, parse_eq_conflict hBlank h⟩

theorem parse_of_forall_not_names (settings : AddressSettings)
    (h : ∀ name, ¬ Target.Names name target.toList) :
    ∃ details, parse target settings = .error (.addressFormat details) := by
  rw [parse]
  split
  · exact ⟨_, rfl⟩
  split
  · exact ⟨_, rfl⟩
  · cases hName : Target.collection target (Target.split target.toList).1 with
    | ok name => exact absurd (Target.collection_split_eq_ok_iff.mp hName) (h _)
    | error error =>
      obtain ⟨details, rfl⟩ := Target.collection_eq_error hName
      exact ⟨details, by simp only [hName, bind, Except.bind]⟩

/-- A target that names a collection is not blank. -/
theorem not_isBlankText_of_names {name : List Char} (hName : Target.Names name target.toList) :
    ¬ isBlankText target = true := by
  intro hBlank
  obtain ⟨c, hc⟩ := List.exists_mem_of_ne_nil _ hName.isName.ne_nil
  have hTrue := List.all_eq_true.mp hBlank c (hName.subset hc)
  rw [hName.isName.blank c hc] at hTrue
  cases hTrue

/-- **A target that names a collection is read as its address**, unless there are two queries or the
pipeline is refused. -/
theorem parse_of_names {name : String} (hName : Target.Names name.toList target.toList)
    (hQueries : ¬ HasTwoQueries target settings) :
    parse target settings = settings.effectivePipeline.map fun pipeline =>
      ⟨⟨name, pipeline⟩, settings.taking (Target.split target.toList).2⟩ := by
  have hSome := not_isBlankText_of_names hName
  have hCollection := Target.collection_split_eq_ok_iff.mpr hName
  rw [parse, if_neg hSome, if_neg fun h => hQueries (hasTwoQueries_iff.mpr h),
    ← AddressSettings.effectivePipeline_taking (Target.split target.toList).2]
  simp only [hCollection, AddressSettings.taking, bind, Except.bind]
  generalize AddressSettings.effectivePipeline _ = pipeline
  cases pipeline with
  | error error => rfl
  | ok pipeline => rfl

/-- **What a target is read as**: the address of the collection that it names, with the pipeline of the
settings, and the settings with its query. -/
theorem parse_eq_ok_iff {parsed : ParsedTarget} : parse target settings = .ok parsed ↔
    Target.Names parsed.address.collection.toList target.toList ∧ ¬ HasTwoQueries target settings ∧
      settings.effectivePipeline = .ok parsed.address.pipeline ∧
      parsed.settings = settings.taking (Target.split target.toList).2 := by
  constructor
  · intro h
    have hQueries : ¬ HasTwoQueries target settings := by
      intro hQueries
      obtain ⟨details, hParse⟩ := parse_of_hasTwoQueries hQueries
      rw [h] at hParse
      cases hParse
    obtain ⟨name, hName⟩ : ∃ name, Target.Names name target.toList := by
      by_contra hNever
      obtain ⟨details, hParse⟩ := parse_of_forall_not_names settings (not_exists.mp hNever)
      rw [h] at hParse
      cases hParse
    rw [← String.toList_ofList (l := name)] at hName
    rw [parse_of_names hName hQueries] at h
    cases hPipeline : settings.effectivePipeline with
    | error error =>
      rw [hPipeline] at h
      cases h
    | ok pipeline =>
      rw [hPipeline] at h
      obtain rfl := Except.ok.inj h
      exact ⟨hName, hQueries, rfl, rfl⟩
  · rintro ⟨hName, hQueries, hPipeline, hSettings⟩
    rw [parse_of_names hName hQueries, hPipeline, ← hSettings]
    rfl

/-- **A target is read exactly if it keeps to the grammar**, there are no two queries, and the
pipeline may be used. The address is that of the collection that the target names, and the query of
the target, from its first question mark on, takes the place of the one in the settings. A target
that breaks one of the first two rules is malformed; if only the third one is broken, the settings
are at fault. -/
theorem parse_grammar (target : String) (settings : AddressSettings) :
    ((∃ parsed, parse target settings = .ok parsed) ↔
      (∃ name, Target.Names name target.toList) ∧ ¬ HasTwoQueries target settings ∧
        settings.PipelineFits) ∧
    (∀ parsed, parse target settings = .ok parsed →
      (∀ name, Target.Names name target.toList ↔ name = parsed.address.collection.toList) ∧
      ('?' ∉ target.toList → parsed.settings = settings) ∧
      ∀ head query, target.toList = head ++ '?' :: query → '?' ∉ head →
        parsed.settings = { settings with query := some (String.ofList ('?' :: query)) }) ∧
    ((∃ details, parse target settings = .error (.addressFormat details)) ↔
      (¬ ∃ name, Target.Names name target.toList) ∨ HasTwoQueries target settings) ∧
    ((∃ details, parse target settings = .error (.invalidConfiguration details)) ↔
      (∃ name, Target.Names name target.toList) ∧ ¬ HasTwoQueries target settings ∧
        ¬ settings.PipelineFits) := by
  by_cases hName : ∃ name, Target.Names name target.toList
  case neg =>
    obtain ⟨details, hParse⟩ := parse_of_forall_not_names settings (not_exists.mp hName)
    simp [hParse, hName]
  by_cases hQueries : HasTwoQueries target settings
  case pos =>
    obtain ⟨details, hParse⟩ := parse_of_hasTwoQueries hQueries
    simp [hParse, hQueries]
  obtain ⟨name, hNames⟩ := hName
  rw [← String.toList_ofList (l := name)] at hNames
  have hParse := parse_of_names hNames hQueries
  by_cases hFits : settings.PipelineFits
  case neg =>
    cases hPipeline : settings.effectivePipeline with
    | ok pipeline =>
      exact absurd (AddressSettings.exists_effectivePipeline_iff.mp ⟨pipeline, hPipeline⟩) hFits
    | error error =>
      obtain ⟨details, rfl⟩ := AddressSettings.effectivePipeline_eq_error hPipeline
      have hRefused : parse target settings = .error (.invalidConfiguration details) := by
        rw [hParse, hPipeline]
        rfl
      simpa [hRefused, hQueries, hFits] using ⟨_, hNames⟩
  case pos =>
    obtain ⟨pipeline, hPipeline⟩ := AddressSettings.exists_effectivePipeline_iff.mpr hFits
    have hRead : parse target settings = .ok
        ⟨⟨String.ofList name, pipeline⟩, settings.taking (Target.split target.toList).2⟩ := by
      rw [hParse, hPipeline]
      rfl
    refine ⟨⟨fun _ => ⟨⟨_, hNames⟩, hQueries, hFits⟩, fun _ => ⟨_, hRead⟩⟩, ?_, ?_, ?_⟩
    · rintro parsed hParsed
      obtain rfl := Except.ok.inj (hRead.symm.trans hParsed)
      refine ⟨fun other => ?_, fun hQuery => ?_, fun head query hTarget hHead => ?_⟩
      · constructor
        · exact fun hOther => hOther.unique hNames
        · rintro rfl
          exact hNames
      · rw [Target.split_of_notMem hQuery]
        rfl
      · rw [hTarget, Target.split_append hHead]
        rfl
    · simpa [hRead, hQueries] using ⟨_, hNames⟩
    · simp [hRead, hFits]

/-- What stands around the name is no part of it, and a path segment before the query is dropped. -/
example : ResourceAddress.parse " /logs/_search?q=1" default =
    .ok ⟨⟨"logs", none⟩, ⟨some "?q=1", none, .index⟩⟩ := by
  decide

end ResourceAddress

end CredentialLease
