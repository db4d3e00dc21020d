import CredentialLease.Proofs.Address.Grammar

/-!
# An address is its own normal form

The name of a collection names itself, without a query. So the text of an address that was read, with
the settings that came with it, is read as the same address and the same settings again. The one
exception is an ampersand in the name: it counts as a query in a target, so it must not stand beside
one in the settings, and the target that was read first may have brought that there.

Main statement: `parse_toString`.
-/

namespace CredentialLease

/-- A name names itself. -/
theorem Target.IsName.names {name : List Char} (h : IsName name) : Names name name :=
  .plain h.question ⟨h, [], [], [], [], List.forall_mem_nil _, .inl rfl, .inl rfl,
    List.forall_mem_nil _, by simp⟩

/-- Whether an ampersand in the name of the collection stands beside a query in the settings. -/
def ParsedTarget.Conflicts (parsed : ParsedTarget) : Prop :=
  '&' ∈ parsed.address.collection.toList ∧
    ∃ query, parsed.settings.query = some query ∧ ¬ Text.AllBlank query.toList

namespace ResourceAddress

variable {parsed : ParsedTarget}

/-- What is read twice has two queries exactly if it conflicts. -/
theorem hasTwoQueries_toString_iff (hName : Target.IsName parsed.address.collection.toList) :
    HasTwoQueries (toString parsed.address) parsed.settings ↔ parsed.Conflicts := by
  show ('?' ∈ parsed.address.collection.toList ∨ '&' ∈ parsed.address.collection.toList) ∧ _ ↔ _
  rw [or_iff_right hName.question]
  rfl

/-- **Reading what was read gives the same again**, for every target and all settings: the text of the
address is read with the settings that came with it as the same address, endpoints and all, and the same
settings. The one exception is a name with an ampersand beside a query in the settings, which is a
conflict of two queries. -/
theorem parse_toString {target : String} {settings : AddressSettings}
    (h : parse target settings = .ok parsed) :
    (¬ parsed.Conflicts → parse (toString parsed.address) parsed.settings = .ok parsed) ∧
    (parsed.Conflicts → parse (toString parsed.address) parsed.settings = .error (.addressFormat
      s!"cannot specify a query in the target [{parsed.address}] and through the query setting")) := by
  obtain ⟨hNames, -, hPipeline, hSettings⟩ := parse_eq_ok_iff.mp h
  have hName := hNames.isName
  have hAgain : Target.Names parsed.address.collection.toList (toString parsed.address).toList :=
    hName.names
  constructor
  · intro hFree
    refine parse_eq_ok_iff.mpr ⟨hAgain, mt (hasTwoQueries_toString_iff hName).mp hFree, ?_, ?_⟩
    -- the pipeline does not depend on the query, and the name carries none
    · rw [hSettings, AddressSettings.effectivePipeline_taking, hPipeline]
    · show parsed.settings = parsed.settings.taking (Target.split parsed.address.collection.toList).2
      rw [Target.split_of_notMem hName.question]
      rfl
  · intro hConflicts
    exact parse_eq_conflict (not_isBlankText_of_names hAgain)
      ((hasTwoQueries_toString_iff hName).mpr hConflicts)

/-- Two targets with a query, the name of one with an ampersand in it. -/
theorem parse_toString_ampersand :
    ∃ free conflicting : ParsedTarget,
      parse " logs-\x7bday\x7d/_search?q=1" ⟨none, some "geoip", .create⟩ = .ok free ∧
      parse (toString free.address) free.settings = .ok free ∧
      parse "/a&b/_search?q=1" ⟨some " ", none, .upsert⟩ = .ok conflicting ∧
      parse (toString conflicting.address) conflicting.settings = .error (.addressFormat
        "cannot specify a query in the target [a&b] and through the query setting") := by
  have hFree : parse " logs-\x7bday\x7d/_search?q=1" ⟨none, some "geoip", .create⟩
      = .ok ⟨⟨"logs-\x7bday\x7d", some "geoip"⟩, ⟨some "?q=1", some "geoip", .create⟩⟩ := by decide
  have hConflicting : parse "/a&b/_search?q=1" ⟨some " ", none, .upsert⟩
      = .ok ⟨⟨"a&b", none⟩, ⟨some "?q=1", none, .upsert⟩⟩ := by decide
  refine ⟨_, _, hFree, (parse_toString hFree).1 ?_, hConflicting, (parse_toString hConflicting).2 ?_⟩
  · rintro ⟨hMem, -⟩
    revert hMem
    decide
  · exact ⟨by decide, _, rfl, fun hBlank => absurd (hBlank '?' (by decide)) (by decide)⟩

end ResourceAddress

end CredentialLease
