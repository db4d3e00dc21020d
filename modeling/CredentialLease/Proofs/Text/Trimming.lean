import CredentialLease.Text.Blank
import Mathlib.Data.List.TakeWhile

/-!
# What trimming removes

`exists_trim` says that trimming takes blank characters off both ends and nothing else, and
`trim_append` that blank characters put around a text make no difference to it. A text without
white space stays as it is (`trim_eq_self`), so it is what is left of a value exactly when the value
is that text between blanks (`trimmed_eq_iff`).
-/

namespace CredentialLease.Text

theorem trimStart_append {before : List Char} (h : AllBlank before) (s : List Char) :
    trimStart (before ++ s) = trimStart s :=
  List.dropWhile_append_of_pos h

theorem trimEnd_append {after : List Char} (h : AllBlank after) (s : List Char) :
    trimEnd (s ++ after) = trimEnd s := by
  have hReverse : ∀ c ∈ after.reverse, isBlank c = true :=
    fun c hc => h c (List.mem_reverse.mp hc)
  rw [trimEnd, List.reverse_append, List.dropWhile_append_of_pos hReverse, trimEnd]

/-- **Blank characters around a text make no difference to what is left of it.** -/
theorem trim_append {before after : List Char} (hBefore : AllBlank before)
    (hAfter : AllBlank after) (s : List Char) : trim (before ++ s ++ after) = trim s := by
  rw [List.append_assoc, trim, trimStart_append hBefore]
  by_cases hs : AllBlank s
  -- nothing is left of a blank text
  · have hAll : AllBlank (s ++ after) := by
      intro c hc
      rcases List.mem_append.mp hc with hc | hc
      · exact hs c hc
      · exact hAfter c hc
    rw [← trim, trim_eq_nil_iff.mpr hAll, trim_eq_nil_iff.mpr hs]
  -- the first character that is not blank stands in `s`
  · have hStart : trimStart (s ++ after) = trimStart s ++ after := by
      have hNe : ¬ (s.dropWhile isBlank).isEmpty := by
        rw [List.isEmpty_iff, dropWhile_eq_nil_iff]
        exact hs
      rw [trimStart, List.dropWhile_append, if_neg hNe, trimStart]
    rw [hStart, trimEnd_append hAfter, trim]

/-- **A text is what is left of it, between blank characters.** -/
theorem exists_trim (s : List Char) :
    ∃ before after, AllBlank before ∧ AllBlank after ∧ s = before ++ trim s ++ after := by
  refine ⟨s.takeWhile isBlank, ((trimStart s).reverse.takeWhile isBlank).reverse, ?_, ?_, ?_⟩
  · exact fun c hc => List.mem_takeWhile_imp hc
  · exact fun c hc => List.mem_takeWhile_imp (List.mem_reverse.mp hc)
  · have hEnd : trim s ++ ((trimStart s).reverse.takeWhile isBlank).reverse = trimStart s := by
      rw [trim, trimEnd, ← List.reverse_append, List.takeWhile_append_dropWhile,
        List.reverse_reverse]
    rw [List.append_assoc, hEnd]
    exact List.takeWhile_append_dropWhile.symm

/-- A text without white space stays as it is. -/
theorem trim_eq_self {s : List Char} (h : ∀ c ∈ s, isBlank c = false) : trim s = s := by
  obtain ⟨before, after, hBefore, hAfter, hs⟩ := exists_trim s
  have hNil : ∀ {t : List Char}, AllBlank t → (∀ c ∈ t, c ∈ s) → t = [] := by
    intro t hBlank hMem
    refine List.eq_nil_iff_forall_not_mem.mpr fun c hc => ?_
    have hTrue := hBlank c hc
    rw [h c (hMem c hc)] at hTrue
    cases hTrue
  -- what was taken off is blank, so there is none of it
  obtain rfl := hNil hBefore fun c hc => by rw [hs]; simp [hc]
  obtain rfl := hNil hAfter fun c hc => by rw [hs]; simp [hc]
  simpa using hs.symm

end CredentialLease.Text

namespace CredentialLease

theorem trimmed_eq_self {text : String} (h : ∀ c ∈ text.toList, Text.isBlank c = false) :
    trimmed text = text := by
  rw [trimmed, Text.trim_eq_self h, String.ofList_toList]

/-- **What is left of a value is a text without white space exactly when the value is that text
between blank characters.** -/
theorem trimmed_eq_iff {value text : String} (h : ∀ c ∈ text.toList, Text.isBlank c = false) :
    trimmed value = text ↔ ∃ before after, Text.AllBlank before ∧ Text.AllBlank after ∧
      value.toList = before ++ text.toList ++ after := by
  constructor
  · rintro rfl
    rw [trimmed, String.toList_ofList]
    exact Text.exists_trim value.toList
  · rintro ⟨before, after, hBefore, hAfter, hValue⟩
    rw [trimmed, hValue, Text.trim_append hBefore hAfter, Text.trim_eq_self h,
      String.ofList_toList]

end CredentialLease
