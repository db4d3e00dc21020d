import CredentialLease.Proofs.Address.Grammar

/-!
# What the endpoints of an address tell

The name of a collection holds no slash, and every endpoint goes on with one where the name ends. So
an endpoint is cut in only one way into the name and the rest (`append_inj_of_slash`), and the rest of
a bulk endpoint tells the ingest pipeline (`bulkSuffix_inj`). A dynamic collection is left out of its
bulk and refresh endpoints, which then begin with a slash, as those of a static one never do
(`staticCollection_eq_empty_iff`).

Main statement: `endpoints_unambiguous`.
-/

namespace CredentialLease

/-- The ingest pipeline that settings name, where a blank one counts as none. -/
def AddressSettings.namedPipeline (settings : AddressSettings) : Option String :=
  settings.ingestPipeline.filter fun pipeline => !isBlankText pipeline

/-- A pipeline that may be used is the one that the settings name. -/
theorem AddressSettings.eq_namedPipeline {settings : AddressSettings} {pipeline : Option String}
    (h : settings.effectivePipeline = .ok pipeline) : pipeline = settings.namedPipeline := by
  rw [effectivePipeline] at h
  rw [namedPipeline]
  split at h
  · next hNone =>
    rw [hNone]
    exact (Except.ok.inj h).symm
  · next named hNamed =>
    rw [hNamed]
    split at h
    · next hBlank => simpa [Option.filter, hBlank] using (Except.ok.inj h).symm
    split at h
    · cases h
    split at h
    · cases h
    · next hBlank _ _ => simpa [Option.filter, hBlank] using (Except.ok.inj h).symm

namespace ResourceAddress

variable {address other : ResourceAddress}

/-! ### Where an endpoint is cut -/

/-- **A text is cut at its first slash in one way only.** -/
theorem append_inj_of_slash {name name' suffix suffix' : String} (hName : '/' ∉ name.toList)
    (hName' : '/' ∉ name'.toList) (hSuffix : suffix.toList.head? = some '/')
    (hSuffix' : suffix'.toList.head? = some '/') :
    name ++ suffix = name' ++ suffix' ↔ name = name' ∧ suffix = suffix' := by
  -- what stands before the first slash can be read off the whole
  have hBefore {text more : String} (h : '/' ∉ text.toList) (hMore : more.toList.head? = some '/') :
      (text ++ more).toList.takeWhile (· ≠ '/') = text.toList := by
    obtain ⟨rest, hRest⟩ := List.head?_eq_some_iff.mp hMore
    rw [String.toList_append, hRest, Target.takeWhile_append_cons h]
  constructor
  · intro h
    have hSame : name = name' := by
      rw [← String.toList_inj, ← hBefore hName hSuffix, h, hBefore hName' hSuffix']
    subst hSame
    exact ⟨rfl, (String.append_right_inj name).mp h⟩
  · rintro ⟨rfl, rfl⟩
    rfl

theorem head?_bulkSuffix (address : ResourceAddress) :
    address.bulkSuffix.toList.head? = some '/' := by
  rw [bulkSuffix]
  split
  · rw [String.toList_append]
    rfl
  · rfl

/-- **The end of a bulk endpoint tells the pipeline.** -/
theorem bulkSuffix_inj : address.bulkSuffix = other.bulkSuffix ↔ address.pipeline = other.pipeline := by
  -- with a pipeline there is more than without
  have hLonger (pipeline : String) : "/_bulk?pipeline=" ++ pipeline ≠ "/_bulk" := by
    intro h
    have hLength := congrArg String.length h
    rw [String.length_append, show "/_bulk?pipeline=".length = 16 from rfl,
      show "/_bulk".length = 6 from rfl] at hLength
    omega
  rw [bulkSuffix, bulkSuffix]
  cases address.pipeline with
  | none =>
    cases other.pipeline with
    | none => simp
    | some pipeline' => simpa using (hLonger pipeline').symm
  | some pipeline =>
    cases other.pipeline with
    | none => simpa using hLonger pipeline
    | some pipeline' => simp

/-! ### Static and dynamic collections -/

theorem staticCollection_of_static (hStatic : address.hasDynamicPattern = false) :
    address.staticCollection = address.collection := by
  rw [staticCollection, hStatic]
  rfl

theorem slash_notMem_staticCollection (hName : Target.IsName address.collection.toList) :
    '/' ∉ address.staticCollection.toList := by
  rw [staticCollection]
  split
  · simp
  · exact hName.slash

/-- **The name is left out of the bulk and refresh endpoints exactly if it is dynamic.** -/
theorem staticCollection_eq_empty_iff (hName : Target.IsName address.collection.toList) :
    address.staticCollection = "" ↔ address.hasDynamicPattern = true := by
  rw [staticCollection]
  split
  · next hDynamic => simp [hDynamic]
  · next hStatic => simpa [hStatic] using hName.ne_nil

/-- No endpoint without a name is one with a name. -/
theorem staticCollection_append_ne {suffix suffix' : String}
    (hName : Target.IsName address.collection.toList)
    (hOther : Target.IsName other.collection.toList)
    (hDynamic : address.hasDynamicPattern = true) (hStatic : other.hasDynamicPattern = false)
    (hSuffix : suffix.toList.head? = some '/') (hSuffix' : suffix'.toList.head? = some '/') :
    address.staticCollection ++ suffix ≠ other.staticCollection ++ suffix' := by
  intro h
  obtain ⟨hSame, -⟩ := (append_inj_of_slash (slash_notMem_staticCollection hName)
    (slash_notMem_staticCollection hOther) hSuffix hSuffix').mp h
  rw [(staticCollection_eq_empty_iff hName).mpr hDynamic] at hSame
  have hEmpty := (staticCollection_eq_empty_iff hOther).mp hSame.symm
  rw [hStatic] at hEmpty
  cases hEmpty

/-! ### Addresses that were read -/

/-- **Addresses are unambiguous**, whatever two targets and settings they were read from. The name of a
collection is not empty and holds neither a slash nor a question mark nor white space. The mapping and
the aliases endpoint tell the collection. Where it is static the refresh endpoint tells it too, and the
bulk endpoint tells it together with the ingest pipeline. No bulk or refresh endpoint of a dynamic
collection is one of a static collection. -/
theorem endpoints_unambiguous {target target' : String} {settings settings' : AddressSettings}
    {parsed parsed' : ParsedTarget} (h : parse target settings = .ok parsed)
    (h' : parse target' settings' = .ok parsed') :
    Target.IsName parsed.address.collection.toList ∧
    (parsed.address.mappingEndpoint = parsed'.address.mappingEndpoint ↔
      parsed.address.collection = parsed'.address.collection) ∧
    (parsed.address.aliasesEndpoint = parsed'.address.aliasesEndpoint ↔
      parsed.address.collection = parsed'.address.collection) ∧
    (parsed.address.hasDynamicPattern = false → parsed'.address.hasDynamicPattern = false →
      (parsed.address.bulkEndpoint = parsed'.address.bulkEndpoint ↔
        parsed.address.collection = parsed'.address.collection ∧
          settings.namedPipeline = settings'.namedPipeline) ∧
      (parsed.address.refreshEndpoint = parsed'.address.refreshEndpoint ↔
        parsed.address.collection = parsed'.address.collection)) ∧
    (parsed.address.hasDynamicPattern = true → parsed'.address.hasDynamicPattern = false →
      parsed.address.bulkEndpoint ≠ parsed'.address.bulkEndpoint ∧
      parsed.address.bulkEndpoint ≠ parsed'.address.refreshEndpoint ∧
      parsed.address.refreshEndpoint ≠ parsed'.address.bulkEndpoint ∧
      parsed.address.refreshEndpoint ≠ parsed'.address.refreshEndpoint) := by
  obtain ⟨hNames, -, hPipeline, -⟩ := parse_eq_ok_iff.mp h
  obtain ⟨hNames', -, hPipeline', -⟩ := parse_eq_ok_iff.mp h'
  have hName := hNames.isName
  have hName' := hNames'.isName
  have hRefresh : "/_refresh".toList.head? = some '/' := rfl
  refine ⟨hName, ?_, ?_, fun hStatic hStatic' => ⟨?_, ?_⟩, fun hDynamic hStatic' => ?_⟩
  · rw [mappingEndpoint, mappingEndpoint]
    exact String.append_left_inj _
  · rw [aliasesEndpoint, aliasesEndpoint]
    exact String.append_left_inj _
  · rw [bulkEndpoint, bulkEndpoint, staticCollection_of_static hStatic,
      staticCollection_of_static hStatic', append_inj_of_slash hName.slash hName'.slash
        (head?_bulkSuffix _) (head?_bulkSuffix _), bulkSuffix_inj,
      AddressSettings.eq_namedPipeline hPipeline, AddressSettings.eq_namedPipeline hPipeline']
  · rw [refreshEndpoint, refreshEndpoint, staticCollection_of_static hStatic,
      staticCollection_of_static hStatic']
    exact String.append_left_inj _
  · have hDiffer {suffix suffix' : String} (hSuffix : suffix.toList.head? = some '/')
        (hSuffix' : suffix'.toList.head? = some '/') :=
      staticCollection_append_ne hName hName' hDynamic hStatic' hSuffix hSuffix'
    exact ⟨hDiffer (head?_bulkSuffix _) (head?_bulkSuffix _), hDiffer (head?_bulkSuffix _) hRefresh,
      hDiffer hRefresh (head?_bulkSuffix _), hDiffer hRefresh hRefresh⟩

/-- A dynamic collection and a static one with the same pipeline, both written with more than their
names. -/
theorem endpoints_unambiguous_dynamic :
    ∃ dynamic static : ParsedTarget,
      parse "/logs-\x7bday\x7d/_search?q=1" ⟨some " ", some "geoip", .create⟩ = .ok dynamic ∧
      parse " logs&/ " ⟨none, some "geoip", .index⟩ = .ok static ∧
      dynamic.address.hasDynamicPattern = true ∧ static.address.hasDynamicPattern = false ∧
      dynamic.address.bulkEndpoint ≠ static.address.bulkEndpoint ∧
      dynamic.address.mappingEndpoint ≠ static.address.mappingEndpoint := by
  have hDynamic : parse "/logs-\x7bday\x7d/_search?q=1" ⟨some " ", some "geoip", .create⟩
      = .ok ⟨⟨"logs-\x7bday\x7d", some "geoip"⟩, ⟨some "?q=1", some "geoip", .create⟩⟩ := by decide
  have hStatic : parse " logs&/ " ⟨none, some "geoip", .index⟩
      = .ok ⟨⟨"logs&", some "geoip"⟩, ⟨none, some "geoip", .index⟩⟩ := by decide
  obtain ⟨-, hMapping, -, -, hDiffer⟩ := endpoints_unambiguous hDynamic hStatic
  obtain ⟨hBulk, -, -, -⟩ := hDiffer (by decide) (by decide)
  refine ⟨_, _, hDynamic, hStatic, by decide, by decide, hBulk, fun hSame => ?_⟩
  exact absurd (hMapping.mp hSame) (by decide)

end ResourceAddress

end CredentialLease
