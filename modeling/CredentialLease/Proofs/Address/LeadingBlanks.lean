import CredentialLease.Proofs.Address.Grammar

/-!
# White space in front of a target

White space is taken off the part of a target that names the collection, after the query and the last
path segment have been cut off. A slash in front of the target is no path separator, but with white
space before it it is one: then everything behind it is dropped, and only the white space is left
(`split_of_slashInFront`). Apart from that, white space in front makes no difference to what a target
is read as (`sanitize_split_append`).

Main statement: `parse_blank_append`.
-/

namespace CredentialLease

namespace Target

variable {before target : List Char}

/-- Whether a target carries a query, and its first character is the only slash before that. -/
def SlashInFront (target : List Char) : Prop :=
  ∃ name query, target = '/' :: name ++ '?' :: query ∧ '/' ∉ name ∧ '?' ∉ name

section Blank

variable (hBlank : Text.AllBlank before)
include hBlank

theorem notMem_of_allBlank {c : Char} (hc : Text.isBlank c = false) : c ∉ before := by
  intro hMem
  rw [hBlank c hMem] at hc
  cases hc

theorem question_notMem_of_allBlank : '?' ∉ before := notMem_of_allBlank hBlank (by decide)

/-- White space in front is taken off. -/
theorem sanitize_append (text : List Char) : sanitize (before ++ text) = sanitize text := by
  have hTrim := Text.trim_append hBlank (List.forall_mem_nil _) text
  rw [List.append_nil] at hTrim
  rw [sanitize, hTrim, sanitize]

/-- White space in front is no part of the query. -/
theorem split_append_snd : (split (before ++ target)).2 = (split target).2 := by
  have hQuestion := question_notMem_of_allBlank hBlank
  by_cases hQuery : '?' ∈ target
  · obtain ⟨head, query, rfl, hHead⟩ := List.eq_append_cons_of_mem hQuery
    have hWhole : '?' ∉ before ++ head := by simp [hQuestion, hHead]
    rw [← List.append_assoc, split_append hWhole, split_append hHead]
  · have hWhole : '?' ∉ before ++ target := by simp [hQuestion, hQuery]
    rw [split_of_notMem hWhole, split_of_notMem hQuery]

/-- **White space in front makes no difference to what names the collection**, unless the only slash
before the query is the first character of the target. -/
theorem sanitize_split_append (h : before = [] ∨ ¬ SlashInFront target) :
    sanitize (split (before ++ target)).1 = sanitize (split target).1 := by
  have hQuestion := question_notMem_of_allBlank hBlank
  have hNoSlash := notMem_of_allBlank hBlank (show Text.isBlank '/' = false by decide)
  rcases split_cases target with ⟨hQuery, hSplit⟩ | ⟨head, query, rfl, hHead, hSlash, hSplit⟩ |
    ⟨resource, segment, query, rfl, hSome, hResource, hSegment, hSlash, hSplit⟩
  -- there is no query
  · have hWhole : '?' ∉ before ++ target := by simp [hQuestion, hQuery]
    rw [split_of_notMem hWhole, hSplit]
    exact sanitize_append hBlank target
  -- no slash stands behind the first character
  · rcases h with rfl | hFront
    · rw [List.nil_append]
    have hNone : '/' ∉ head := by
      intro hMem
      obtain ⟨c, name, rfl⟩ := List.exists_cons_of_ne_nil (List.ne_nil_of_mem hMem)
      obtain rfl : '/' = c := (List.mem_cons.mp hMem).resolve_right hSlash
      exact hFront ⟨name, query, rfl, hSlash, fun hc => hHead (List.mem_cons_of_mem _ hc)⟩
    have hWhole : '?' ∉ before ++ head := by simp [hQuestion, hHead]
    have hTail : '/' ∉ (before ++ head).tail := by
      intro hMem
      simpa [hNoSlash, hNone] using List.mem_of_mem_tail hMem
    rw [← List.append_assoc, split_append hWhole, dropLastSegment_of_notMem hTail, hSplit]
    exact sanitize_append hBlank head
  -- the last segment is dropped, with or without the white space
  · have hWhole : '?' ∉ before ++ resource ++ '/' :: segment := by
      simp [hQuestion, hResource, hSegment]
    have hMore : before ++ resource ≠ [] := by simp [hSome]
    have hRegroup : before ++ (resource ++ '/' :: segment ++ '?' :: query)
        = before ++ resource ++ '/' :: segment ++ '?' :: query := by simp
    rw [hRegroup, split_append hWhole, dropLastSegment_append hMore hSlash, hSplit]
    exact sanitize_append hBlank resource

/-- **With white space before it a slash in front is a path separator**, and the name behind it is
dropped. -/
theorem split_of_slashInFront (hSome : before ≠ []) (h : SlashInFront target) :
    (split (before ++ target)).1 = before := by
  have hQuestion := question_notMem_of_allBlank hBlank
  obtain ⟨name, query, rfl, hSlash, hName⟩ := h
  have hWhole : '?' ∉ before ++ '/' :: name := by simp [hQuestion, hName]
  rw [← List.append_assoc, split_append hWhole]
  exact dropLastSegment_append hSome hSlash

end Blank

end Target

namespace ResourceAddress

variable {target other before : String} {settings : AddressSettings}

/-- Targets are read alike, up to the details of a failure, if they name the same collections and carry
the same query. -/
theorem parse_congr (hNames : ∀ name, Target.Names name target.toList ↔ Target.Names name other.toList)
    (hQueries : HasTwoQueries target settings ↔ HasTwoQueries other settings)
    (hQuery : (Target.split target.toList).2 = (Target.split other.toList).2) :
    (parse target settings).mapError CredentialError.code
      = (parse other settings).mapError CredentialError.code := by
  by_cases hTwo : HasTwoQueries target settings
  · obtain ⟨details, hParse⟩ := parse_of_hasTwoQueries hTwo
    obtain ⟨details', hParse'⟩ := parse_of_hasTwoQueries (hQueries.mp hTwo)
    rw [hParse, hParse']
    rfl
  by_cases hName : ∃ name, Target.Names name target.toList
  · obtain ⟨name, hName⟩ := hName
    rw [← String.toList_ofList (l := name)] at hName
    rw [parse_of_names hName hTwo, parse_of_names ((hNames _).mp hName) (hTwo ∘ hQueries.mpr), hQuery]
  · have hNever := not_exists.mp hName
    obtain ⟨details, hParse⟩ := parse_of_forall_not_names settings hNever
    obtain ⟨details', hParse'⟩ := parse_of_forall_not_names settings fun name hOther =>
      hNever name ((hNames name).mpr hOther)
    rw [hParse, hParse']
    rfl

/-- **White space in front of a target makes no difference**, unless the only slash before the query is
the first character of the target: the address and the settings are the same, or both targets are
refused for the same reason. In the excepted case a target with white space in front is always refused,
since the slash then separates the white space from a path segment. -/
theorem parse_blank_append (hBlank : Text.AllBlank before.toList) (target : String)
    (settings : AddressSettings) :
    (before = "" ∨ ¬ Target.SlashInFront target.toList →
      (parse (before ++ target) settings).mapError CredentialError.code
        = (parse target settings).mapError CredentialError.code) ∧
    (before ≠ "" → Target.SlashInFront target.toList →
      ∃ details, parse (before ++ target) settings = .error (.addressFormat details)) := by
  constructor
  · intro h
    have hEmpty : before.toList = [] ∨ ¬ Target.SlashInFront target.toList := by
      simpa using h
    refine parse_congr (fun name => ?_) ?_ ?_
    · rw [String.toList_append, Target.names_iff, Target.names_iff,
        Target.sanitize_split_append hBlank hEmpty]
    · have hQuestion := Target.question_notMem_of_allBlank hBlank
      have hAmpersand := Target.notMem_of_allBlank hBlank (show Text.isBlank '&' = false by decide)
      simp [HasTwoQueries, hQuestion, hAmpersand]
    · rw [String.toList_append, Target.split_append_snd hBlank]
  · intro hSome hFront
    refine parse_of_forall_not_names settings fun name hName => ?_
    -- what is left to name the collection is white space
    have hNonempty : before.toList ≠ [] := by simpa using hSome
    rw [String.toList_append, Target.names_iff,
      Target.split_of_slashInFront hBlank hNonempty hFront] at hName
    have hNil : Target.sanitize before.toList = [] := by
      have hSame := Target.sanitize_append hBlank []
      rwa [List.append_nil] at hSame
    exact hName.1.ne_nil (hName.2.symm.trans hNil)

/-- White space in front of a target with a path segment makes no difference, and in front of a slash it
leaves nothing. -/
theorem parse_blank_append_segment :
    (parse ("\t " ++ "logs/_search?q=1") default).mapError CredentialError.code
      = .ok ⟨⟨"logs", none⟩, ⟨some "?q=1", none, .index⟩⟩ ∧
    ∃ details, parse ("\t " ++ "/logs?q=1") default = .error (.addressFormat details) := by
  have hBlank : Text.AllBlank "\t ".toList := List.all_eq_true.mp (by decide)
  have hNoSlash : ¬ Target.SlashInFront "logs/_search?q=1".toList := by
    rintro ⟨name, query, h, -⟩
    cases h
  have hSlash : Target.SlashInFront "/logs?q=1".toList :=
    ⟨"logs".toList, "q=1".toList, rfl, by decide, by decide⟩
  have hRead : parse "logs/_search?q=1" default
      = .ok ⟨⟨"logs", none⟩, ⟨some "?q=1", none, .index⟩⟩ := by decide
  obtain ⟨hSame, -⟩ := parse_blank_append hBlank "logs/_search?q=1" default
  obtain ⟨-, hRefused⟩ := parse_blank_append hBlank "/logs?q=1" default
  refine ⟨?_, hRefused (by decide) hSlash⟩
  rw [hSame (.inr hNoSlash), hRead]
  rfl

/-- A blank in front of a target that is read, and with it the target is refused. -/
theorem blank_before_slash_refused :
    parse "/logs?q=1" default = .ok ⟨⟨"logs", none⟩, ⟨some "?q=1", none, .index⟩⟩ ∧
    parse (" " ++ "/logs?q=1") default
      = .error (.addressFormat "no collection found in target [ /logs?q=1]") := by
  constructor <;> decide

end ResourceAddress

end CredentialLease
