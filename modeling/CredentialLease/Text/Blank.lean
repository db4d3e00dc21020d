import CredentialLease.Text.CodePoints

/-!
# Unicode white space and trimming

A character is blank when it has the Unicode property `White_Space`. A text is blank when all of
its characters are, and `trim` removes the blank characters at both of its ends.

Main statements: `isBlank_of_isWhitespace` (every character that the core library calls white
space is blank) and `trim_eq_nil_iff` (exactly the blank texts trim to nothing).
-/

namespace CredentialLease.Text

/-- The code points with the Unicode property `White_Space`. -/
def whiteSpace : CodePoints :=
  [(0x09, 0x0D), (0x20, 0x20), (0x85, 0x85), (0xA0, 0xA0), (0x1680, 0x1680), (0x2000, 0x200A),
   (0x2028, 0x2029), (0x202F, 0x202F), (0x205F, 0x205F), (0x3000, 0x3000)]

/-- Whether a character is white space. -/
def isBlank (c : Char) : Bool := whiteSpace.contains c

/-- Every character that the core library calls white space is blank. -/
theorem isBlank_of_isWhitespace {c : Char} (h : c.isWhitespace = true) : isBlank c = true := by
  simp only [Char.isWhitespace, Bool.or_eq_true, decide_eq_true_eq] at h
  rcases h with ((rfl | rfl) | rfl) | rfl <;> decide

/-! ### Trimming -/

/-- The characters of a text from its first one that is not blank. -/
def trimStart (s : List Char) : List Char := s.dropWhile isBlank

/-- The characters of a text up to its last one that is not blank. -/
def trimEnd (s : List Char) : List Char := (s.reverse.dropWhile isBlank).reverse

/-- A text without the blank characters at its ends. -/
def trim (s : List Char) : List Char := trimEnd (trimStart s)

/-- Whether all characters of a text are blank. -/
def AllBlank (s : List Char) : Prop := ∀ c ∈ s, isBlank c = true

instance (s : List Char) : Decidable (AllBlank s) :=
  inferInstanceAs (Decidable (∀ c ∈ s, isBlank c = true))

theorem dropWhile_eq_nil_iff {p : Char → Bool} {s : List Char} :
    s.dropWhile p = [] ↔ ∀ c ∈ s, p c = true := by
  induction s with
  | nil => simp
  | cons c r ih => by_cases h : p c <;> simp [h, ih]

/-- **Exactly the blank texts trim to nothing.** -/
theorem trim_eq_nil_iff {s : List Char} : trim s = [] ↔ AllBlank s := by
  constructor
  · intro h
    have hEnd : ∀ c ∈ trimStart s, isBlank c = true := by
      simpa [trim, trimEnd, dropWhile_eq_nil_iff] using h
    have hSplit : s.takeWhile isBlank ++ trimStart s = s := List.takeWhile_append_dropWhile
    intro c hc
    rw [← hSplit, List.mem_append] at hc
    rcases hc with hc | hc
    · exact List.all_eq_true.1 List.all_takeWhile c hc
    · exact hEnd c hc
  · intro h
    have hStart : trimStart s = [] := dropWhile_eq_nil_iff.2 h
    simp [trim, trimEnd, hStart]

end CredentialLease.Text

namespace CredentialLease

/-- A string without the white space at its ends. -/
def trimmed (s : String) : String := String.ofList (Text.trim s.toList)

/-- Whether a string holds white space alone. -/
def isBlankText (s : String) : Bool := s.toList.all Text.isBlank

/-- Whether a string holds any white space. -/
def hasBlank (s : String) : Bool := s.toList.any Text.isBlank

end CredentialLease
