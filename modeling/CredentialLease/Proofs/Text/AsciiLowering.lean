import CredentialLease.Text.Casing
import Mathlib.Tactic.ByContra
import Mathlib.Tactic.SplitIfs

/-!
# Texts with an ASCII lower-case form

Full lower-casing takes two characters outside ASCII to texts with an ASCII character in them: the
Kelvin sign becomes `k`, and `İ` becomes `i` with a dot above it as a second character. All others
become characters outside ASCII (`toNat_lowerChar`, by the table of mappings). So a text whose
lower-case form is ASCII and has no `k` is ASCII itself (`isAscii_of_lowerText`), and its lower-case
form is the one that the letters `A` to `Z` alone give.

Main statement: `lowerText_eq_iff`.
-/

namespace CredentialLease.Text

/-- Whether a character is one of the first 128. -/
def IsAscii (c : Char) : Prop := c.toNat < 128

instance (c : Char) : Decidable (IsAscii c) := inferInstanceAs (Decidable (c.toNat < 128))

/-! ### Letters of ASCII -/

theorem toNat_ofNat_of_valid {n : Nat} (h : n.isValidChar) : (Char.ofNat n).toNat = n := by
  rw [Char.ofNat, dif_pos h]
  rfl

/-- Outside ASCII there is no letter with another case in ASCII. -/
theorem toLower_of_not_isAscii {c : Char} (h : ¬ IsAscii c) : c.toLower = c := by
  have hUpper : ¬ (c.val ≥ 'A'.val ∧ c.val ≤ 'Z'.val) := by
    rintro ⟨-, hLast⟩
    have hSmall : c.toNat ≤ 90 := UInt32.le_iff_toNat_le.mp hLast
    exact h (Nat.lt_of_le_of_lt hSmall (by decide))
  exact dif_neg hUpper

/-- In ASCII the letters `A` to `Z` have a lower-case form, at the distance 32. -/
theorem toLower_of_isAscii {c : Char} (h : IsAscii c) :
    c.toLower = if 65 ≤ c.toNat ∧ c.toNat ≤ 90 then Char.ofNat (c.toNat + 32) else c := by
  have hTable : ∀ n, n < 128 → (Char.ofNat n).toLower
      = if 65 ≤ n ∧ n ≤ 90 then Char.ofNat (n + 32) else Char.ofNat n := by decide
  have hChar := hTable c.toNat h
  rwa [Char.ofNat_toNat] at hChar

/-! ### Characters outside ASCII -/

/-- A run beyond ASCII stays beyond it, except the one from the Kelvin sign to `k`. -/
theorem image_of_mem_lowercaseRuns : ∀ run ∈ lowercaseRuns, run.last < 128 ∨
    ((128 ≤ run.image ∨ run.image = 107 ∧ run.last = run.first) ∧
      (run.image + (run.last - run.first) < 0xD800 ∨
        0xDFFF < run.image ∧ run.image + (run.last - run.first) < 0x110000)) := by
  decide +kernel

/-- **A character outside ASCII is mapped to one outside ASCII, or to `k`.** -/
theorem lowerChar_of_not_isAscii {c : Char} (h : ¬ IsAscii c) :
    ¬ IsAscii (lowerChar c) ∨ lowerChar c = 'k' := by
  unfold lowerChar
  split
  · next run hFound =>
    have hCovers := List.find?_some hFound
    simp only [CaseRun.covers, Bool.and_eq_true, decide_eq_true_eq] at hCovers
    obtain ⟨⟨hFirst, hLast⟩, -⟩ := hCovers
    have hCode : 128 ≤ c.toNat := Nat.le_of_not_lt h
    obtain hAscii | ⟨hImage, hValid⟩ :=
      image_of_mem_lowercaseRuns run (List.mem_of_find?_eq_some hFound)
    · omega
    obtain hImage | ⟨hKelvin, hSingle⟩ := hImage
    · left
      have hChar : (run.apply c.toNat).isValidChar := by
        unfold CaseRun.apply Nat.isValidChar
        omega
      rw [IsAscii, toNat_ofNat_of_valid hChar, CaseRun.apply]
      omega
    · right
      rw [CaseRun.apply, hKelvin, show c.toNat - run.first = 0 by omega]
  · exact .inl h

/-- **Something in the lower-case form of a character outside ASCII is outside ASCII, or a `k`.** -/
theorem exists_mem_lowerInContext (before : List Char) {c : Char} (after : List Char)
    (h : ¬ IsAscii c) : ∃ d ∈ lowerInContext before c after, ¬ IsAscii d ∨ d = 'k' := by
  unfold lowerInContext
  split_ifs
  · exact ⟨_, List.mem_singleton.mpr rfl, .inl (by decide)⟩
  · exact ⟨_, List.mem_singleton.mpr rfl, .inl (by decide)⟩
  · exact ⟨Char.ofNat 0x307, by simp, .inl (by decide)⟩
  · exact ⟨_, List.mem_singleton.mpr rfl, lowerChar_of_not_isAscii h⟩

/-! ### Texts -/

/-- **A text is ASCII if its lower-case form is, and has no `k`.** -/
theorem isAscii_of_lowerText {s : List Char} (h : ∀ d ∈ lowerText s, IsAscii d ∧ d ≠ 'k') :
    ∀ c ∈ s, IsAscii c := by
  suffices key : ∀ before, (∀ d ∈ lowerFrom before s, IsAscii d ∧ d ≠ 'k') → ∀ c ∈ s, IsAscii c from
    key [] h
  clear h
  induction s with
  | nil => simp
  | cons c rest ih =>
    intro before h
    rw [lowerFrom] at h
    have hRest : ∀ d ∈ rest, IsAscii d := ih _ fun d hd => h d (List.mem_append_right _ hd)
    have hHead : IsAscii c := by
      by_contra hOutside
      obtain ⟨d, hd, hBad⟩ := exists_mem_lowerInContext before rest hOutside
      obtain ⟨hAscii, hNotK⟩ := h d (List.mem_append_left _ hd)
      exact hBad.elim (fun hOut => hOut hAscii) hNotK
    exact List.forall_mem_cons.mpr ⟨hHead, hRest⟩

/-- The lower-case form of an ASCII text is the ASCII one. -/
theorem lowerText_of_isAscii {s : List Char} (h : ∀ c ∈ s, IsAscii c) :
    lowerText s = s.map Char.toLower := by
  rw [lowerText_of_ascii h]
  exact List.map_congr_left fun c hc => (toLower_of_isAscii (h c hc)).symm

/-- **Full lower-casing gives an ASCII text without `k` exactly where the ASCII one gives it.** -/
theorem lowerText_eq_iff {s t : List Char} (h : ∀ d ∈ t, IsAscii d ∧ d ≠ 'k') :
    lowerText s = t ↔ s.map Char.toLower = t := by
  constructor
  · rintro rfl
    rw [lowerText_of_isAscii (isAscii_of_lowerText h)]
  · rintro rfl
    refine lowerText_of_isAscii fun c hc => ?_
    by_contra hOutside
    have hSame := (h _ (List.mem_map_of_mem hc)).1
    rw [toLower_of_not_isAscii hOutside] at hSame
    exact hOutside hSame

/-- The lower-case form of the Kelvin sign is ASCII all the same. -/
example : lowerText ['\u212A'] = ['k'] := by decide +kernel

end CredentialLease.Text
