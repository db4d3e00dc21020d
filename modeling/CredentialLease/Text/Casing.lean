import CredentialLease.Text.CasingTable

/-!
# Full lower-casing of a text

Every character is replaced by its lower-case form. Two characters need more than the table of
simple mappings: `İ` becomes two characters, and `Σ` becomes `ς` at the end of a word and `σ`
elsewhere. A capital sigma ends a word when, skipping case-ignorable characters, a cased character
comes before it and none comes after it.

Main statements: `length_le_lowerText` (no character is lost) and `lowerText_of_ascii` (on ASCII
texts only the letters `A` to `Z` change, each by the distance 32).
-/

namespace CredentialLease.Text

/-! ### Single characters -/

/-- Whether a run covers a code point. -/
def CaseRun.covers (run : CaseRun) (code : Nat) : Bool :=
  run.first ≤ code && code ≤ run.last && (code - run.first) % run.stride == 0

/-- The image of a code point that the run covers. -/
def CaseRun.apply (run : CaseRun) (code : Nat) : Nat := run.image + (code - run.first)

/-- The simple lower-case form of a character. -/
def lowerChar (c : Char) : Char :=
  match lowercaseRuns.find? (·.covers c.toNat) with
  | some run => Char.ofNat (run.apply c.toNat)
  | none => c

/-! ### Texts -/

/-- Whether the first character that is not case-ignorable is cased. -/
def startsCased (s : List Char) : Bool :=
  match s.dropWhile caseIgnorable.contains with
  | [] => false
  | c :: _ => cased.contains c

/-- The lower-case form of a character between the text before it, in reverse, and the text
after it. -/
def lowerInContext (before : List Char) (c : Char) (after : List Char) : List Char :=
  if c = 'Σ' then
    [if startsCased before && !startsCased after then 'ς' else 'σ']
  else if c = 'İ' then ['i', Char.ofNat 0x307]
  else [lowerChar c]

/-- Lower-cases the rest of a text, given the part before it in reverse. -/
def lowerFrom (before : List Char) : List Char → List Char
  | [] => []
  | c :: rest => lowerInContext before c rest ++ lowerFrom (c :: before) rest

/-- The lower-case form of a text. -/
def lowerText (s : List Char) : List Char := lowerFrom [] s

/-! ### Laws -/

theorem length_lowerInContext_pos (before : List Char) (c : Char) (after : List Char) :
    0 < (lowerInContext before c after).length := by
  unfold lowerInContext
  split
  · simp
  · split <;> simp

theorem length_le_lowerFrom (before s : List Char) : s.length ≤ (lowerFrom before s).length := by
  induction s generalizing before with
  | nil => simp
  | cons c rest ih =>
    have hHead := length_lowerInContext_pos before c rest
    have hTail := ih (c :: before)
    simp only [lowerFrom, List.length_append, List.length_cons]
    omega

/-- **Lower-casing loses no character.** -/
theorem length_le_lowerText (s : List Char) : s.length ≤ (lowerText s).length :=
  length_le_lowerFrom [] s

/-- Below code point 128 only the capital letters change. -/
theorem lowerInContext_of_ascii (before : List Char) {c : Char} (after : List Char)
    (h : c.toNat < 128) :
    lowerInContext before c after
      = [if 65 ≤ c.toNat ∧ c.toNat ≤ 90 then Char.ofNat (c.toNat + 32) else c] := by
  have hTable : ∀ n, n < 128 → lowerChar (Char.ofNat n)
      = if 65 ≤ n ∧ n ≤ 90 then Char.ofNat (n + 32) else Char.ofNat n := by decide +kernel
  have hSigma : c ≠ 'Σ' := fun e => absurd (e ▸ h) (by decide)
  have hDotted : c ≠ 'İ' := fun e => absurd (e ▸ h) (by decide)
  have hChar := hTable c.toNat h
  rw [Char.ofNat_toNat] at hChar
  rw [lowerInContext, if_neg hSigma, if_neg hDotted, hChar]

/-- **On ASCII texts only the letters `A` to `Z` change.** -/
theorem lowerText_of_ascii {s : List Char} (h : ∀ c ∈ s, c.toNat < 128) :
    lowerText s
      = s.map fun c => if 65 ≤ c.toNat ∧ c.toNat ≤ 90 then Char.ofNat (c.toNat + 32) else c := by
  have key : ∀ before, lowerFrom before s
      = s.map fun c => if 65 ≤ c.toNat ∧ c.toNat ≤ 90 then Char.ofNat (c.toNat + 32) else c := by
    induction s with
    | nil => intro before; rfl
    | cons c rest ih =>
      intro before
      have hRest := ih (fun d hd => h d (List.mem_cons_of_mem _ hd)) (c :: before)
      rw [lowerFrom, lowerInContext_of_ascii before rest (h c List.mem_cons_self), hRest]
      rfl
  exact key []

end CredentialLease.Text

namespace CredentialLease

/-- The lower-case form of a string. -/
def lowered (s : String) : String := String.ofList (Text.lowerText s.toList)

end CredentialLease
