import CredentialLease.Json.Token
import CredentialLease.Json.Value
import CredentialLease.Proofs.Text.Utf8

/-!
# JSON strings are read back

A text is written as a JSON string by escaping the quote, the backslash and the control characters.
The reader takes that apart again, byte by byte and escape by escape: every character is read as the
pieces that `charPieces` tells, and these spell its bytes.

Main statement: `token_quote`.
-/

namespace CredentialLease

namespace Json

/-- The bytes of a character that needs no escape are read as they are. -/
theorem isPlain_of_mem_utf8EncodeChar {c : Char} (hControl : ¬ c.toNat < 0x20) (hQuote : c ≠ '"')
    (hBackslash : c ≠ '\\') {b : UInt8} (h : b ∈ String.utf8EncodeChar c) :
    ¬ b < 0x20 ∧ b ≠ 34 ∧ b ≠ 92 := by
  have hSame : b.toNat < 128 → c.toNat = b.toNat := toNat_of_mem_utf8EncodeChar h
  refine ⟨?_, ?_, ?_⟩
  · intro hByte
    replace hByte : b.toNat < 32 := UInt8.lt_iff_toNat_lt.mp hByte
    exact hControl (by rw [hSame (by omega)]; exact hByte)
  · rintro rfl
    exact hQuote (Char.toNat_inj.mp (hSame (by decide)))
  · rintro rfl
    exact hBackslash (Char.toNat_inj.mp (hSame (by decide)))

/-! ### Pieces -/

/-- The pieces in which a character of a string is read. -/
def charPieces (c : Char) : List Piece :=
  if c.toNat < 0x20 ∧ c.toNat ≠ 8 ∧ c.toNat ≠ 9 ∧ c.toNat ≠ 10 ∧ c.toNat ≠ 12 ∧ c.toNat ≠ 13 then
    [.unit c.toNat]
  else (String.utf8EncodeChar c).map .byte

section Pieces

variable {read : List Piece} {rest : Bytes}

theorem pieces_of_isPlain {b : UInt8} (hControl : ¬ b < 0x20) (hQuote : b ≠ 34)
    (hBackslash : b ≠ 92) : pieces read (b :: rest) = pieces (.byte b :: read) rest := by
  rw [pieces]
  · rw [if_neg hControl]
  · exact hQuote
  · intro _ _ _ _ _ h
    exact absurd h hBackslash
  · intro _ _ h
    exact absurd h hBackslash

theorem pieces_bytes {bytes : Bytes} (h : ∀ b ∈ bytes, ¬ b < 0x20 ∧ b ≠ 34 ∧ b ≠ 92) :
    pieces read (bytes ++ rest) = pieces ((bytes.map .byte).reverse ++ read) rest := by
  induction bytes generalizing read with
  | nil => rfl
  | cons b bytes ih =>
    obtain ⟨⟨hControl, hQuote, hBackslash⟩, hRest⟩ := List.forall_mem_cons.mp h
    rw [List.cons_append, pieces_of_isPlain hControl hQuote hBackslash, ih hRest, List.map_cons,
      List.reverse_cons, List.append_assoc]
    rfl

theorem pieces_letter {letter b : UInt8} (hLetter : letter ≠ 117) (h : escapedByte letter = some b) :
    pieces read (92 :: letter :: rest) = pieces (.byte b :: read) rest := by
  rw [pieces]
  · rw [h]
  · intro _ _ _ _ _ hUnit
    exact absurd hUnit hLetter

theorem pieces_unit {a b c d : UInt8} {code : Nat} (h : hexUnit a b c d = some code) :
    pieces read (92 :: 117 :: a :: b :: c :: d :: rest) = pieces (.unit code :: read) rest := by
  rw [pieces, h]

/-- The escape of a control character by its code. -/
theorem pieces_code {code : Nat} (h : code < 0x20) :
    pieces read (['\\', 'u', '0', '0', Nat.digitChar (code / 16),
        Nat.digitChar (code % 16)].flatMap String.utf8EncodeChar ++ rest)
      = pieces (.unit code :: read) rest := by
  have hAll : ∀ k : Fin 32, ['\\', 'u', '0', '0', Nat.digitChar (k / 16),
          Nat.digitChar (k % 16)].flatMap String.utf8EncodeChar
        = [92, 117, 48, 48, UInt8.ofNat (Nat.digitChar (k / 16)).toNat,
            UInt8.ofNat (Nat.digitChar (k % 16)).toNat] ∧
      hexUnit 48 48 (UInt8.ofNat (Nat.digitChar (k / 16)).toNat)
        (UInt8.ofNat (Nat.digitChar (k % 16)).toNat) = some k := by
    decide +kernel
  obtain ⟨hBytes, hCode⟩ := hAll ⟨code, h⟩
  rw [hBytes]
  exact pieces_unit hCode

/-- The escape of a character by a letter. -/
theorem pieces_escapeChar_of_eq {c : Char} {code : Nat} (hCode : c.toNat = code) {letter b : UInt8}
    (hEscape : (escapeChar (Char.ofNat code)).flatMap String.utf8EncodeChar = [92, letter])
    (hPieces : charPieces (Char.ofNat code) = [.byte b]) (hLetter : letter ≠ 117)
    (hByte : escapedByte letter = some b) :
    pieces read ((escapeChar c).flatMap String.utf8EncodeChar ++ rest)
      = pieces ((charPieces c).reverse ++ read) rest := by
  obtain rfl : c = Char.ofNat code := by rw [← hCode, Char.ofNat_toNat]
  rw [hEscape, hPieces]
  exact pieces_letter hLetter hByte

/-- **A character that is written in a string is read as its pieces.** -/
theorem pieces_escapeChar (c : Char) :
    pieces read ((escapeChar c).flatMap String.utf8EncodeChar ++ rest)
      = pieces ((charPieces c).reverse ++ read) rest := by
  by_cases hQuote : c = '"'
  · subst hQuote
    exact pieces_escapeChar_of_eq rfl rfl rfl (by decide) rfl
  by_cases hBackslash : c = '\\'
  · subst hBackslash
    exact pieces_escapeChar_of_eq rfl rfl rfl (by decide) rfl
  by_cases h8 : c.toNat = 8
  · exact pieces_escapeChar_of_eq h8 rfl rfl (by decide) rfl
  by_cases h9 : c.toNat = 9
  · exact pieces_escapeChar_of_eq h9 rfl rfl (by decide) rfl
  by_cases h10 : c.toNat = 10
  · exact pieces_escapeChar_of_eq h10 rfl rfl (by decide) rfl
  by_cases h12 : c.toNat = 12
  · exact pieces_escapeChar_of_eq h12 rfl rfl (by decide) rfl
  by_cases h13 : c.toNat = 13
  · exact pieces_escapeChar_of_eq h13 rfl rfl (by decide) rfl
  rw [escapeChar, if_neg hQuote, if_neg hBackslash, if_neg h8, if_neg h9, if_neg h10, if_neg h12,
    if_neg h13, charPieces]
  by_cases hControl : c.toNat < 0x20
  · rw [if_pos hControl, if_pos ⟨hControl, h8, h9, h10, h12, h13⟩]
    exact pieces_code hControl
  · rw [if_neg hControl, if_neg fun h => hControl h.1, List.flatMap_singleton]
    exact pieces_bytes fun b hb => isPlain_of_mem_utf8EncodeChar hControl hQuote hBackslash hb

/-- A text that is written in a string is read up to the closing quote. -/
theorem pieces_escaped (s : List Char) :
    pieces read ((s.flatMap escapeChar).flatMap String.utf8EncodeChar ++ 34 :: rest)
      = some ((s.flatMap charPieces).reverse ++ read, rest) := by
  induction s generalizing read with
  | nil => rw [List.flatMap_nil, List.flatMap_nil, List.nil_append, pieces]; rfl
  | cons c s ih =>
    rw [List.flatMap_cons, List.flatMap_append, List.append_assoc, pieces_escapeChar, ih,
      List.flatMap_cons, List.reverse_append, List.append_assoc]

end Pieces

/-! ### What pieces spell -/

section Spelling

variable {after : Bytes} {earlier : List Piece}

theorem spelledBefore_bytes (bytes : Bytes) :
    spelledBefore after ((bytes.map .byte).reverse ++ earlier)
      = spelledBefore (bytes ++ after) earlier := by
  induction bytes generalizing earlier with
  | nil => rfl
  | cons b bytes ih =>
    rw [List.map_cons, List.reverse_cons, List.append_assoc, ih, List.singleton_append,
      spelledBefore]
    rfl

theorem spelledBefore_unit {code : Nat} (h : code < 0x20) :
    spelledBefore after (.unit code :: earlier)
      = spelledBefore (String.utf8EncodeChar (Char.ofNat code) ++ after) earlier := by
  have hLow : isLowSurrogate code = false := by
    rw [isLowSurrogate, Bool.and_eq_false_iff]
    exact .inl (decide_eq_false (by omega))
  have hHigh : isHighSurrogate code = false := by
    rw [isHighSurrogate, Bool.and_eq_false_iff]
    exact .inl (decide_eq_false (by omega))
  cases earlier with
  | nil =>
    show (if isLowSurrogate code || isHighSurrogate code then none else _) = _
    rw [hLow, hHigh]
    rfl
  | cons piece earlier =>
    cases piece with
    | byte b =>
      show (if isLowSurrogate code || isHighSurrogate code then none else _) = _
      rw [hLow, hHigh]
      rfl
    | unit high =>
      rw [spelledBefore, hLow, hHigh]
      rfl

/-- **The pieces of a character spell its bytes.** -/
theorem spelledBefore_charPieces (c : Char) :
    spelledBefore after ((charPieces c).reverse ++ earlier)
      = spelledBefore (String.utf8EncodeChar c ++ after) earlier := by
  rw [charPieces]
  split
  · next h =>
    show spelledBefore after (.unit c.toNat :: earlier) = _
    rw [spelledBefore_unit h.1, Char.ofNat_toNat]
  · exact spelledBefore_bytes _

theorem spelledBefore_flatMap (s : List Char) :
    spelledBefore after ((s.flatMap charPieces).reverse ++ earlier)
      = spelledBefore (s.flatMap String.utf8EncodeChar ++ after) earlier := by
  induction s generalizing earlier with
  | nil => rfl
  | cons c s ih =>
    rw [List.flatMap_cons, List.reverse_append, List.append_assoc, ih, spelledBefore_charPieces,
      List.flatMap_cons, List.append_assoc]

theorem spelled_flatMap (s : List Char) :
    spelled (s.flatMap charPieces).reverse = some (String.ofList s) := by
  have hSpelled : spelledBefore [] ((s.flatMap charPieces).reverse ++ [])
      = some (s.flatMap String.utf8EncodeChar ++ []) := spelledBefore_flatMap s
  rw [List.append_nil, List.append_nil] at hSpelled
  rw [spelled, hSpelled, ← utf8_ofList]
  exact ofUtf8_utf8 _

end Spelling

theorem utf8_quote (s : String) :
    utf8 (quote s)
      = 34 :: ((s.toList.flatMap escapeChar).flatMap String.utf8EncodeChar ++ [34]) := by
  rw [quote, utf8_ofList, List.cons_append, List.flatMap_cons, List.flatMap_append]
  rfl

/-- **What is written for a text is read as that text.** -/
theorem token_quote (s : String) (rest : Bytes) :
    token (utf8 (quote s) ++ rest) = some (.string (some s), rest) := by
  rw [utf8_quote, List.cons_append, List.append_assoc, List.singleton_append, token, pieces_escaped,
    List.append_nil]
  show some (Token.string (spelled _), rest) = _
  rw [spelled_flatMap, String.ofList_toList]

end Json

end CredentialLease
