import CredentialLease.Address.WriteOperation
import CredentialLease.Proofs.Text.AsciiLowering
import Mathlib.Data.List.Forall2

/-!
# Which texts name a write operation

A text is lower-cased in full before it is compared with the names of the operations. These are in
lower-case ASCII, and there is no `k` in them, so that a text has one of them for its lower-case form
exactly when it is the name itself up to the case of ASCII letters (`lowered_eq_name_iff`). No text
with another character in it names an operation.

Main statement: `parse_upToCase`.
-/

namespace CredentialLease

/-- Whether two texts are of one length and have the same characters, up to the case of the letters
`A` to `Z`. -/
structure SameUpToCase (text other : String) : Prop where
  length : text.length = other.length
  chars : ∀ (i : Nat) (c d : Char), text.toList[i]? = some c → other.toList[i]? = some d →
    c.toLower = d.toLower

/-- Texts are the same up to case exactly when their letters give the same text in lower case. -/
theorem sameUpToCase_iff {text other : String} : SameUpToCase text other ↔
    text.toList.map Char.toLower = other.toList.map Char.toLower := by
  constructor
  · rintro ⟨hLength, hChars⟩
    rw [← String.length_toList, ← String.length_toList] at hLength
    refine List.ext_getElem (by simpa using hLength) fun i hi hj => ?_
    rw [List.getElem_map, List.getElem_map]
    exact hChars i _ _ (List.getElem?_eq_getElem _) (List.getElem?_eq_getElem _)
  · intro h
    refine ⟨?_, fun i c d hc hd => ?_⟩
    · have hLength := congrArg List.length h
      rwa [List.length_map, List.length_map, String.length_toList, String.length_toList] at hLength
    · have hChar := congrArg (·[i]?) h
      simp only [List.getElem?_map, hc, hd, Option.map_some] at hChar
      exact Option.some.inj hChar

namespace WriteOperation

variable {text : String} {operation : WriteOperation}

/-! ### Names -/

/-- The names of the operations are in lower-case ASCII, and there is no `k` in them. -/
theorem chars_name (operation : WriteOperation) :
    ∀ c ∈ operation.name.toList, Text.IsAscii c ∧ c ≠ 'k' := by
  have hAll : operation.name.toList.all (fun c => decide (Text.IsAscii c ∧ c ≠ 'k')) = true := by
    cases operation <;> decide
  exact fun c hc => of_decide_eq_true (List.all_eq_true.mp hAll c hc)

theorem map_toLower_name (operation : WriteOperation) :
    operation.name.toList.map Char.toLower = operation.name.toList := by
  cases operation <;> decide

/-- An operation is found by its name alone. -/
theorem ofName_eq_some_iff : ofName text = some operation ↔ text = operation.name := by
  constructor
  · intro h
    unfold ofName at h
    split_ifs at h with hIndex hCreate hUpdate hUpsert
    · obtain rfl := Option.some.inj h
      exact hIndex
    · obtain rfl := Option.some.inj h
      exact hCreate
    · obtain rfl := Option.some.inj h
      exact hUpdate
    · obtain rfl := Option.some.inj h
      exact hUpsert
  · rintro rfl
    exact ofName_name operation

/-! ### Texts that name an operation -/

/-- A text that names no operation is reported in lower case. -/
theorem parse_eq_error (h : ∀ operation, parse text ≠ .ok operation) :
    parse text = .error (.other s!"invalid write operation: {lowered text}") := by
  unfold parse at h ⊢
  cases hFound : ofName (lowered text) with
  | none => rfl
  | some operation =>
    rw [hFound] at h
    exact absurd rfl (h operation)

theorem parse_eq_ok_iff : parse text = .ok operation ↔ lowered text = operation.name := by
  rw [← ofName_eq_some_iff, parse]
  cases ofName (lowered text) with
  | none =>
    constructor
    · intro h
      cases h
    · intro h
      cases h
  | some found => rw [Except.ok.injEq, Option.some.injEq]

/-- **A text has the name of an operation for its lower-case form exactly when it is that name up to
the case of ASCII letters.** -/
theorem lowered_eq_name_iff : lowered text = operation.name ↔ SameUpToCase text operation.name := by
  rw [sameUpToCase_iff, map_toLower_name, ← Text.lowerText_eq_iff (chars_name operation), lowered,
    ← String.toList_inj, String.toList_ofList]

/-- A text that is the name of an operation up to case is ASCII. -/
theorem isAscii_of_parse (h : parse text = .ok operation) : ∀ c ∈ text.toList, Text.IsAscii c := by
  have hLowered := parse_eq_ok_iff.mp h
  rw [lowered, ← String.toList_inj, String.toList_ofList] at hLowered
  refine Text.isAscii_of_lowerText fun d hd => ?_
  rw [hLowered] at hd
  exact chars_name operation d hd

/-- **A text names an operation exactly when it is the name of it up to the case of ASCII letters**, with
as many characters. A text with a character outside ASCII is refused, although it may have an ASCII
lower-case form, and what is read from a text is read again from its name. -/
theorem parse_upToCase (text : String) :
    (∀ operation, parse text = .ok operation ↔ SameUpToCase text operation.name) ∧
    (∀ c ∈ text.toList, ¬ Text.IsAscii c →
      parse text = .error (.other s!"invalid write operation: {lowered text}")) ∧
    (∀ operation, parse text = .ok operation → parse operation.name = parse text) := by
  refine ⟨fun operation => parse_eq_ok_iff.trans lowered_eq_name_iff, ?_, ?_⟩
  · intro c hc hOutside
    exact parse_eq_error fun operation hParse => hOutside (isAscii_of_parse hParse c hc)
  · intro operation h
    rw [h, parse_name]

/-- The case of the letters does not matter, and it may be mixed. -/
theorem parse_upToCase_mixed : SameUpToCase "uPSerT" "upsert" ∧ parse "uPSerT" = .ok .upsert := by
  have hSame : SameUpToCase "uPSerT" "upsert" := sameUpToCase_iff.mpr (by decide)
  exact ⟨hSame, ((parse_upToCase "uPSerT").1 .upsert).mpr hSame⟩

end WriteOperation

end CredentialLease
