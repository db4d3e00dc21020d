/-!
# Texts cut at a character

`splitOn` cuts a text at every occurrence of a character, and `joinWith` puts the pieces together
again.

Main statements: `joinWith_splitOn` (the pieces make up the text) and `not_mem_of_mem_splitOn` (no
piece holds the character).
-/

namespace CredentialLease.Text

/-- The pieces of a text between the occurrences of a character. -/
def splitOn (separator : Char) : List Char → List (List Char)
  | [] => [[]]
  | c :: rest =>
    if c = separator then [] :: splitOn separator rest
    else
      match splitOn separator rest with
      | piece :: more => (c :: piece) :: more
      | [] => [[c]]

/-- Pieces with a character between each two. -/
def joinWith (separator : Char) : List (List Char) → List Char
  | [] => []
  | [piece] => piece
  | piece :: more => piece ++ separator :: joinWith separator more

theorem splitOn_ne_nil (separator : Char) (s : List Char) : splitOn separator s ≠ [] := by
  cases s with
  | nil => simp [splitOn]
  | cons c rest =>
    unfold splitOn
    split
    · simp
    · split <;> simp

/-- **The pieces of a text make it up.** -/
theorem joinWith_splitOn (separator : Char) (s : List Char) :
    joinWith separator (splitOn separator s) = s := by
  induction s with
  | nil => rfl
  | cons c rest ih =>
    obtain ⟨piece, more, hPieces⟩ := List.exists_cons_of_ne_nil (splitOn_ne_nil separator rest)
    rw [hPieces] at ih
    by_cases h : c = separator
    · simp [splitOn, h, hPieces, joinWith, ih]
    · cases more with
      | nil => simpa [splitOn, h, hPieces, joinWith] using ih
      | cons next others => simpa [splitOn, h, hPieces, joinWith] using ih

/-- **No piece holds the character at which the text was cut.** -/
theorem not_mem_of_mem_splitOn {separator : Char} {s piece : List Char}
    (h : piece ∈ splitOn separator s) : separator ∉ piece := by
  induction s generalizing piece with
  | nil => simp_all [splitOn]
  | cons c rest ih =>
    obtain ⟨first, more, hPieces⟩ := List.exists_cons_of_ne_nil (splitOn_ne_nil separator rest)
    by_cases hc : c = separator
    · simp only [splitOn, hc, if_true, List.mem_cons] at h
      rcases h with rfl | h
      · simp
      · exact ih h
    · simp only [splitOn, hc, if_false, hPieces, List.mem_cons] at h
      rcases h with rfl | h
      · have hFirst : separator ∉ first := ih (by simp [hPieces])
        simp [hFirst, Ne.symm hc]
      · exact ih (by simp [hPieces, h])

end CredentialLease.Text
