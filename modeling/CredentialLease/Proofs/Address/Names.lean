import CredentialLease.Address.Target
import CredentialLease.Proofs.Text.Trimming

/-!
# What a target names

A text gives a name if it is that name with at most one slash on either side and white space around
it all (`Gives`). A target names a collection if it gives the name and carries no query, or if what
stands before its first question mark does so, as a whole or up to its last slash (`Names`).
Cleaning up a text leaves the name that it gives (`gives_iff`), and the part of a target that is
cleaned up is the one that counts.

Main statement: `names_iff`.
-/

namespace CredentialLease

/-! ### Names -/

namespace Target

variable {text name target head query resource segment : List Char}

/-- Whether a text can be the name of a collection. -/
structure IsName (name : List Char) : Prop where
  ne_nil : name ≠ []
  slash : '/' ∉ name
  question : '?' ∉ name
  blank : ∀ c ∈ name, Text.isBlank c = false

/-- Whether a text is a slash that may be left out. -/
def IsOptionalSlash (text : List Char) : Prop := text = [] ∨ text = ['/']

/-- **Whether a text gives a name**: it is the name with at most one slash on either side, between
blank characters. -/
def Gives (name text : List Char) : Prop :=
  IsName name ∧ ∃ before lead trail after, Text.AllBlank before ∧ IsOptionalSlash lead ∧
    IsOptionalSlash trail ∧ Text.AllBlank after ∧ text = before ++ (lead ++ name ++ trail) ++ after

/-- **Whether a target names a collection.** -/
inductive Names (name : List Char) : List Char → Prop where
  /-- The target carries no query. -/
  | plain {target : List Char} (hQuery : '?' ∉ target) (h : Gives name target) :
      Names name target
  /-- All that stands before the query counts, since a slash in front is no separator. -/
  | whole {head query : List Char} (hHead : '?' ∉ head) (hSlash : '/' ∉ head.tail)
      (h : Gives name head) : Names name (head ++ '?' :: query)
  /-- What stands behind the last slash before the query is dropped. -/
  | segment {resource segment query : List Char} (hSome : resource ≠ [])
      (hResource : '?' ∉ resource) (hSegment : '?' ∉ segment) (hSlash : '/' ∉ segment)
      (h : Gives name resource) : Names name (resource ++ '/' :: segment ++ '?' :: query)

theorem Gives.subset (h : Gives name text) : name ⊆ text := by
  obtain ⟨-, before, lead, trail, after, -, -, -, -, rfl⟩ := h
  intro c hc
  simp [hc]

/-- The name that a target gives stands in it. -/
theorem Names.subset (h : Names name target) : name ⊆ target := by
  intro c hc
  cases h with
  | plain _ h => exact h.subset hc
  | whole _ _ h => exact List.mem_append_left _ (h.subset hc)
  | segment _ _ _ _ h => exact List.mem_append_left _ (List.mem_append_left _ (h.subset hc))

theorem Names.isName (h : Names name target) : IsName name := by
  cases h with
  | plain _ h => exact h.1
  | whole _ _ h => exact h.1
  | segment _ _ _ _ h => exact h.1

/-! ### Cleaning up -/

theorem stripLeadingSlash_append {lead : List Char} (hLead : IsOptionalSlash lead)
    (h : text.head? ≠ some '/') : stripLeadingSlash (lead ++ text) = text := by
  rcases hLead with rfl | rfl
  · rw [List.nil_append]
    unfold stripLeadingSlash
    split
    · simp at h
    · rfl
  · rfl

theorem stripTrailingSlash_append {trail : List Char} (hTrail : IsOptionalSlash trail)
    (h : text.getLast? ≠ some '/') : stripTrailingSlash (text ++ trail) = text := by
  have hReverse : IsOptionalSlash trail.reverse := by
    rcases hTrail with rfl | rfl
    · exact .inl rfl
    · exact .inr rfl
  have hHead : text.reverse.head? ≠ some '/' := by
    rw [List.head?_reverse]
    exact h
  rw [stripTrailingSlash, List.reverse_append, stripLeadingSlash_append hReverse hHead,
    List.reverse_reverse]

theorem exists_stripLeadingSlash (text : List Char) :
    ∃ lead, IsOptionalSlash lead ∧ text = lead ++ stripLeadingSlash text := by
  unfold stripLeadingSlash
  split
  · exact ⟨['/'], .inr rfl, rfl⟩
  · exact ⟨[], .inl rfl, rfl⟩

theorem exists_stripTrailingSlash (text : List Char) :
    ∃ trail, IsOptionalSlash trail ∧ text = stripTrailingSlash text ++ trail := by
  obtain ⟨lead, hLead, hText⟩ := exists_stripLeadingSlash text.reverse
  refine ⟨lead.reverse, ?_, ?_⟩
  · rcases hLead with rfl | rfl
    · exact .inl rfl
    · exact .inr rfl
  · rw [stripTrailingSlash, ← List.reverse_append, ← hText, List.reverse_reverse]

/-- Cleaning up takes slashes and blank characters off the ends, and nothing else. -/
theorem exists_sanitize (text : List Char) :
    ∃ before lead trail after, Text.AllBlank before ∧ IsOptionalSlash lead ∧
      IsOptionalSlash trail ∧ Text.AllBlank after ∧
      text = before ++ (lead ++ sanitize text ++ trail) ++ after := by
  obtain ⟨before, after, hBefore, hAfter, hText⟩ := Text.exists_trim text
  obtain ⟨lead, hLead, hTrimmed⟩ := exists_stripLeadingSlash (Text.trim text)
  obtain ⟨trail, hTrail, hRest⟩ := exists_stripTrailingSlash (stripLeadingSlash (Text.trim text))
  refine ⟨before, lead, trail, after, hBefore, hLead, hTrail, hAfter, ?_⟩
  rw [sanitize, List.append_assoc lead, ← hRest, ← hTrimmed]
  exact hText

theorem sanitize_subset (text : List Char) : sanitize text ⊆ text := by
  obtain ⟨before, lead, trail, after, -, -, -, -, hText⟩ := exists_sanitize text
  intro c hc
  rw [hText]
  simp [hc]

/-- **A text gives a name exactly when cleaning it up leaves that name.** -/
theorem gives_iff : Gives name text ↔ IsName name ∧ sanitize text = name := by
  constructor
  · rintro ⟨hName, before, lead, trail, after, hBefore, hLead, hTrail, hAfter, rfl⟩
    refine ⟨hName, ?_⟩
    have hSlash : Text.isBlank '/' = false := by decide
    -- there is nothing blank between the slashes, so trimming stops at them
    have hCore : ∀ c ∈ lead ++ name ++ trail, Text.isBlank c = false := by
      intro c hc
      rw [List.mem_append, List.mem_append] at hc
      rcases hc with (hc | hc) | hc
      · rcases hLead with rfl | rfl
        · cases hc
        · rw [List.mem_singleton.mp hc, hSlash]
      · exact hName.blank c hc
      · rcases hTrail with rfl | rfl
        · cases hc
        · rw [List.mem_singleton.mp hc, hSlash]
    have hHead : (name ++ trail).head? ≠ some '/' := by
      obtain ⟨c, rest, rfl⟩ := List.exists_cons_of_ne_nil hName.ne_nil
      intro h
      exact hName.slash (by simp at h; simp [h])
    have hLast : name.getLast? ≠ some '/' :=
      fun h => hName.slash (List.mem_of_getLast? h)
    rw [sanitize, Text.trim_append hBefore hAfter, Text.trim_eq_self hCore, List.append_assoc,
      stripLeadingSlash_append hLead hHead, stripTrailingSlash_append hTrail hLast]
  · rintro ⟨hName, rfl⟩
    exact ⟨hName, exists_sanitize text⟩

/-! ### Cutting a target -/

theorem forall_ne_of_notMem {separator : Char} (h : separator ∉ text) :
    ∀ c ∈ text, decide (c ≠ separator) = true := by
  intro c hc
  rw [decide_eq_true_eq]
  rintro rfl
  exact h hc

/-- What stands before the first separator can be read off the whole. -/
theorem takeWhile_append_cons {separator : Char} (h : separator ∉ text) (rest : List Char) :
    (text ++ separator :: rest).takeWhile (· ≠ separator) = text := by
  rw [List.takeWhile_append_of_pos (forall_ne_of_notMem h)]
  simp

theorem dropWhile_append_cons {separator : Char} (h : separator ∉ text) (rest : List Char) :
    (text ++ separator :: rest).dropWhile (· ≠ separator) = separator :: rest := by
  rw [List.dropWhile_append_of_pos (forall_ne_of_notMem h)]
  simp

theorem dropLastSegment_of_notMem (h : '/' ∉ head.tail) : dropLastSegment head = head := by
  cases head with
  | nil => rfl
  | cons c rest =>
    have hRest : rest.reverse.dropWhile (· ≠ '/') = [] :=
      List.dropWhile_eq_nil_iff.mpr (forall_ne_of_notMem fun hc => h (List.mem_reverse.mp hc))
    rw [dropLastSegment, List.reverse_cons, List.dropWhile_append, hRest]
    by_cases hc : c = '/' <;> simp [hc]

theorem dropLastSegment_append (hSome : resource ≠ []) (h : '/' ∉ segment) :
    dropLastSegment (resource ++ '/' :: segment) = resource := by
  have hSegment : '/' ∉ segment.reverse := fun hc => h (List.mem_reverse.mp hc)
  obtain ⟨c, before, hResource⟩ : ∃ c before, resource.reverse = c :: before :=
    List.exists_cons_of_ne_nil (fun hNil => hSome (List.reverse_eq_nil_iff.mp hNil))
  rw [dropLastSegment, List.reverse_append, List.reverse_cons, List.append_assoc,
    List.singleton_append, dropWhile_append_cons hSegment, hResource]
  show (c :: before).reverse = resource
  rw [← hResource, List.reverse_reverse]

/-- What stands before a query has no slash behind its first character, or is cut at its last
one. -/
theorem notMem_tail_or_exists_append (head : List Char) : '/' ∉ head.tail ∨
    ∃ resource segment, head = resource ++ '/' :: segment ∧ resource ≠ [] ∧ '/' ∉ segment := by
  by_cases h : '/' ∈ head.tail
  · right
    obtain ⟨c, rest, rfl⟩ := List.exists_cons_of_ne_nil (List.ne_nil_of_mem (List.mem_of_mem_tail h))
    obtain ⟨after, before, hRest, hAfter⟩ :=
      List.eq_append_cons_of_mem (List.mem_reverse.mpr h)
    refine ⟨c :: before.reverse, after.reverse, ?_, List.cons_ne_nil _ _, ?_⟩
    · have hRest : rest = (after ++ '/' :: before).reverse := by
        rw [← hRest, List.reverse_reverse]
        rfl
      rw [hRest]
      simp
    · rw [List.mem_reverse]
      exact hAfter
  · exact .inl h

theorem split_of_notMem (h : '?' ∉ target) : split target = (target, none) := by
  have hNone : target.dropWhile (· ≠ '?') = [] :=
    List.dropWhile_eq_nil_iff.mpr (forall_ne_of_notMem h)
  rw [split, hNone]

theorem split_append (h : '?' ∉ head) :
    split (head ++ '?' :: query) = (dropLastSegment head, some ('?' :: query)) := by
  rw [split, dropWhile_append_cons h, takeWhile_append_cons h]

/-- **The ways in which a target is cut.** It has no question mark, or the first one stands behind a
text that is kept as a whole or up to its last slash. -/
theorem split_cases (target : List Char) :
    ('?' ∉ target ∧ split target = (target, none)) ∨
    (∃ head query, target = head ++ '?' :: query ∧ '?' ∉ head ∧ '/' ∉ head.tail ∧
      split target = (head, some ('?' :: query))) ∨
    ∃ resource segment query, target = resource ++ '/' :: segment ++ '?' :: query ∧
      resource ≠ [] ∧ '?' ∉ resource ∧ '?' ∉ segment ∧ '/' ∉ segment ∧
      split target = (resource, some ('?' :: query)) := by
  by_cases hQuery : '?' ∈ target
  · obtain ⟨head, query, rfl, hHead⟩ := List.eq_append_cons_of_mem hQuery
    rcases notMem_tail_or_exists_append head with
      hSlash | ⟨resource, segment, rfl, hSome, hSlash⟩
    · refine .inr (.inl ⟨head, query, rfl, hHead, hSlash, ?_⟩)
      rw [split_append hHead, dropLastSegment_of_notMem hSlash]
    · have hResource : '?' ∉ resource := fun hc => hHead (List.mem_append_left _ hc)
      have hSegment : '?' ∉ segment := fun hc =>
        hHead (List.mem_append_right _ (List.mem_cons_of_mem _ hc))
      refine .inr (.inr ⟨resource, segment, query, rfl, hSome, hResource, hSegment, hSlash, ?_⟩)
      rw [split_append hHead, dropLastSegment_append hSome hSlash]
  · exact .inl ⟨hQuery, split_of_notMem hQuery⟩

theorem question_notMem_split (target : List Char) : '?' ∉ (split target).1 := by
  rcases split_cases target with ⟨hQuery, hSplit⟩ | ⟨head, query, -, hHead, -, hSplit⟩ |
    ⟨resource, segment, query, -, -, hResource, -, -, hSplit⟩
  · rw [hSplit]
    exact hQuery
  · rw [hSplit]
    exact hHead
  · rw [hSplit]
    exact hResource

/-- **A target names a collection exactly when that is what is left of the part of it that is cleaned
up.** -/
theorem names_iff : Names name target ↔ IsName name ∧ sanitize (split target).1 = name := by
  rw [← gives_iff]
  constructor
  · intro h
    cases h with
    | plain hQuery h =>
      rw [split_of_notMem hQuery]
      exact h
    | whole hHead hSlash h =>
      rw [split_append hHead, dropLastSegment_of_notMem hSlash]
      exact h
    | @segment resource segment query hSome hResource hSegment hSlash h =>
      have hHead : '?' ∉ resource ++ '/' :: segment := by
        simp [hResource, hSegment]
      rw [split_append hHead, dropLastSegment_append hSome hSlash]
      exact h
  · intro h
    rcases split_cases target with ⟨hQuery, hSplit⟩ | ⟨head, query, rfl, hHead, hSlash, hSplit⟩ |
      ⟨resource, segment, query, rfl, hSome, hResource, hSegment, hSlash, hSplit⟩
    · rw [hSplit] at h
      exact .plain hQuery h
    · rw [hSplit] at h
      exact .whole hHead hSlash h
    · rw [hSplit] at h
      exact .segment hSome hResource hSegment hSlash h

/-- A target names one collection at most. -/
theorem Names.unique {other : List Char} (h : Names name target) (hOther : Names other target) :
    name = other := by
  rw [← (names_iff.mp h).2, (names_iff.mp hOther).2]

end Target

end CredentialLease
