import CredentialLease.Proofs.Json.Strings
import CredentialLease.Record.CredentialRecord

/-!
# Records are read back from their JSON texts

The text of a record is an object of texts over several lines. Its lexical elements are the braces and
the members with commas between them (`Lexes`), the members are read in their order, and a record is
what its entries in ascending order build.

Main statement: `CredentialRecord.read_pretty`.
-/

namespace CredentialLease

namespace Json

/-! ### Lexical elements -/

/-- **Whether these elements are read at the front of any text that begins with these bytes**, in as
many steps as there are elements. -/
structure Lexes (bytes : Bytes) (elements : List Token) : Prop where
  reads : ∀ read fuel rest, tokensFrom read (fuel + elements.length) (bytes ++ rest)
    = tokensFrom (elements.reverse ++ read) fuel rest
  length_le : elements.length ≤ bytes.length

namespace Lexes

variable {first second : Bytes} {before after : List Token}

theorem append (hFirst : Lexes first before) (hSecond : Lexes second after) :
    Lexes (first ++ second) (before ++ after) where
  reads := by
    intro read fuel rest
    have hFuel : fuel + (before ++ after).length = fuel + after.length + before.length := by
      rw [List.length_append]
      omega
    rw [hFuel, List.append_assoc, hFirst.reads, hSecond.reads, List.reverse_append,
      List.append_assoc]
  length_le := by
    have hBefore := hFirst.length_le
    have hAfter := hSecond.length_le
    rw [List.length_append, List.length_append]
    omega

/-- White space is no element. -/
theorem spaces {bytes : Bytes} (h : ∀ b ∈ bytes, isSpace b = true) : Lexes bytes [] where
  reads := by
    intro read fuel rest
    have hDropped : (bytes ++ rest).dropWhile isSpace = rest.dropWhile isSpace :=
      List.dropWhile_append_of_pos h
    show tokensFrom read fuel (bytes ++ rest) = tokensFrom read fuel rest
    rw [tokensFrom, tokensFrom, hDropped]
  length_le := Nat.zero_le _

/-- An element that begins with no white space. -/
theorem single {b : UInt8} {bytes : Bytes} {element : Token} (hFront : isSpace b = false)
    (h : ∀ rest, token (b :: bytes ++ rest) = some (element, rest)) : Lexes (b :: bytes) [element] where
  reads := by
    intro read fuel rest
    have hFront : (b :: bytes ++ rest).dropWhile isSpace = b :: bytes ++ rest := by
      rw [List.cons_append, List.dropWhile_cons_of_neg (by rw [hFront]; decide)]
    show tokensFrom read (fuel + 1) (b :: bytes ++ rest) = tokensFrom (element :: read) fuel rest
    rw [tokensFrom, hFront, List.cons_append]
    dsimp only
    rw [← List.cons_append, h]
  length_le := by
    rw [List.length_singleton, List.length_cons]
    omega

theorem quoted (s : String) : Lexes (utf8 (quote s)) [.string (some s)] := by
  have hToken := token_quote s
  rw [utf8_quote] at hToken ⊢
  exact single rfl hToken

/-- The elements of a whole text. -/
theorem tokens_eq (h : Lexes first before) : tokens first = some before := by
  obtain ⟨fuel, hFuel⟩ := Nat.exists_eq_add_of_le h.length_le
  have hReads := h.reads [] fuel []
  rw [List.append_nil, List.append_nil, Nat.add_comm, ← hFuel] at hReads
  have hEnd : tokensFrom before.reverse fuel [] = some before.reverse := by
    rw [tokensFrom]
    rfl
  rw [tokens, hReads, hEnd, Option.map_some, List.reverse_reverse]

end Lexes

/-! ### Objects of texts -/

/-- The lexical elements of the members of an object of texts. -/
def memberTokens : List (String × String) → List Token
  | [] => []
  | [(name, value)] => [.string (some name), .colon, .string (some value)]
  | (name, value) :: rest =>
    .string (some name) :: .colon :: .string (some value) :: .comma :: memberTokens rest

/-- An object of texts as a JSON value. -/
def ofEntries (entries : List (String × String)) : Value :=
  .object (entries.map fun (name, value) => (name, .text value))

/-- The text of a member. -/
def memberLine (entry : String × String) : String := quote entry.1 ++ ": " ++ quote entry.2

theorem prettyMembers_texts (level : Nat) (entries : List (String × String)) :
    prettyMembers level (entries.map fun (name, value) => (name, .text value))
      = entries.map memberLine := by
  induction entries with
  | nil => rfl
  | cons entry entries ih =>
    rw [List.map_cons, prettyMembers, ih]
    rfl

theorem lexes_colon : Lexes (utf8 ": ") [.colon] :=
  (Lexes.single rfl fun _ => rfl : Lexes [58] _).append (.spaces (List.forall_mem_singleton.mpr rfl) : Lexes [32] [])

theorem lexes_newline (level : Nat) : Lexes (utf8 (newline level)) [] := by
  apply Lexes.spaces
  rw [newline, utf8_append, utf8_ofList (List.replicate _ _)]
  intro b hb
  rcases List.mem_append.mp hb with hBreak | hIndent
  · obtain rfl := List.mem_singleton.mp hBreak
    rfl
  · obtain ⟨c, hc, hIndent⟩ := List.mem_flatMap.mp hIndent
    obtain rfl := List.eq_of_mem_replicate hc
    obtain rfl := List.mem_singleton.mp hIndent
    rfl

theorem lexes_comma (level : Nat) : Lexes (utf8 ("," ++ newline level)) [.comma] := by
  rw [utf8_append]
  exact (Lexes.single rfl fun _ => rfl : Lexes [44] _).append (lexes_newline level)

theorem lexes_memberLine (entry : String × String) :
    Lexes (utf8 (memberLine entry))
      [.string (some entry.1), .colon, .string (some entry.2)] := by
  rw [memberLine, utf8_append, utf8_append]
  exact ((Lexes.quoted entry.1).append lexes_colon).append (Lexes.quoted entry.2)

theorem lexes_members (level : Nat) (entries : List (String × String)) :
    Lexes (utf8 (String.intercalate ("," ++ newline level) (entries.map memberLine)))
      (memberTokens entries) := by
  induction entries with
  | nil => exact (Lexes.spaces (List.forall_mem_nil _) : Lexes [] [])
  | cons entry entries ih =>
    cases entries with
    | nil => exact lexes_memberLine entry
    | cons next entries =>
      rw [List.map_cons, List.map_cons, String.intercalate_cons_cons, utf8_append, utf8_append]
      exact ((lexes_memberLine entry).append (lexes_comma level)).append ih

/-- **The lexical elements of an object of texts.** -/
theorem lexes_pretty (entries : List (String × String)) :
    Lexes (utf8 (ofEntries entries).pretty) (.openBrace :: (memberTokens entries ++ [.closeBrace])) := by
  have hOpen : Lexes (utf8 "\x7b") [.openBrace] := (Lexes.single rfl fun _ => rfl : Lexes [123] _)
  have hClose : Lexes (utf8 "\x7d") [.closeBrace] := (Lexes.single rfl fun _ => rfl : Lexes [125] _)
  rw [Value.pretty, ofEntries, Value.prettyAt, enclose, prettyMembers_texts]
  split
  · next hNone =>
    obtain rfl := List.map_eq_nil_iff.mp hNone
    rw [utf8_append]
    exact hOpen.append hClose
  · rw [utf8_append, utf8_append, utf8_append, utf8_append]
    have hFront := hOpen.append (lexes_newline (0 + 1))
    have hMembers := hFront.append (lexes_members (0 + 1) entries)
    have hAll := (hMembers.append (lexes_newline 0)).append hClose
    rw [List.append_nil, List.append_nil] at hAll
    exact hAll

/-! ### The tree -/

theorem tree_string {fuel : Nat} {text : Option String} {rest : List Token} :
    tree (fuel + 1) (.string text :: rest) = some (.string text, rest) := by
  rw [tree]

/-- Members that are all texts are read in their order. -/
theorem members_memberTokens {entries : List (String × String)} {fuel : Nat} {rest : List Token}
    (hSome : entries ≠ []) (hFuel : entries.length < fuel) :
    members fuel (memberTokens entries ++ .closeBrace :: rest)
      = some (entries.map fun (name, value) => (some name, .string (some value)), rest) := by
  induction entries generalizing fuel with
  | nil => exact absurd rfl hSome
  | cons entry entries ih =>
    rw [List.length_cons] at hFuel
    obtain ⟨fuel, rfl⟩ := Nat.exists_eq_add_of_le' (show 2 ≤ fuel by omega)
    cases entries with
    | nil =>
      show members (fuel + 1 + 1) (.string (some entry.1) :: .colon :: .string (some entry.2)
        :: .closeBrace :: rest) = _
      rw [members, tree_string]
      rfl
    | cons next entries =>
      show members (fuel + 1 + 1) (.string (some entry.1) :: .colon :: .string (some entry.2)
        :: .comma :: (memberTokens (next :: entries) ++ .closeBrace :: rest)) = _
      rw [members, tree_string]
      dsimp only
      rw [ih (List.cons_ne_nil _ _) (by rw [List.length_cons] at hFuel ⊢; omega)]
      rfl

theorem length_le_memberTokens (entries : List (String × String)) :
    entries.length ≤ (memberTokens entries).length := by
  induction entries with
  | nil => exact Nat.zero_le _
  | cons entry entries ih =>
    cases entries with
    | nil =>
      show 1 ≤ 3
      omega
    | cons next entries =>
      show (next :: entries).length + 1 ≤ (memberTokens (next :: entries)).length + 4
      omega

theorem tree_memberTokens {entries : List (String × String)} {fuel : Nat}
    (hFuel : entries.length < fuel) :
    tree (fuel + 1) (.openBrace :: (memberTokens entries ++ [.closeBrace]))
      = some (.object (entries.map fun (name, value) => (some name, .string (some value))), []) := by
  cases entries with
  | nil =>
    show tree (fuel + 1) [.openBrace, .closeBrace] = _
    rw [tree]
    rfl
  | cons entry entries =>
    have hMembers : members fuel (memberTokens (entry :: entries) ++ [.closeBrace]) = some (_, []) :=
      members_memberTokens (List.cons_ne_nil entry entries) hFuel
    -- the members begin with a name, so that this is not the end of the object
    obtain ⟨more, hMore⟩ : ∃ more,
        memberTokens (entry :: entries) = .string (some entry.1) :: more := by
      cases entries with
      | nil => exact ⟨_, rfl⟩
      | cons next entries => exact ⟨_, rfl⟩
    rw [hMore, List.cons_append] at hMembers ⊢
    rw [tree, hMembers]
    intro _ hClose
    cases hClose

/-- **An object of texts is read as that object**, with its members in their order. -/
theorem read_pretty (entries : List (String × String)) :
    read (utf8 (ofEntries entries).pretty)
      = some (.object (entries.map fun (name, value) => (some name, .string (some value)))) := by
  rw [read, (lexes_pretty entries).tokens_eq]
  rw [Option.bind_eq_bind, Option.bind_some, tree_memberTokens]
  have hLength := length_le_memberTokens entries
  rw [List.length_cons, List.length_append]
  omega

/-- **The texts of an object are found in their order.** -/
theorem entries_texts (entries : List (String × String)) :
    Tree.entries (.object (entries.map fun (name, value) => (some name, .string (some value))))
      = some entries := by
  rw [Tree.entries]
  induction entries with
  | nil => rfl
  | cons entry entries ih =>
    rw [List.map_cons, List.mapM_cons, ih]
    rfl

end Json

/-! ### Records -/

/-- An entry with a greater key than the others is put behind them. -/
theorem Entries.insert_of_forall_lt {key value : String} {entries : List (String × String)}
    (h : ∀ entry ∈ entries, entry.1 < key) : insert key value entries = entries ++ [(key, value)] := by
  induction entries with
  | nil => rfl
  | cons entry entries ih =>
    obtain ⟨hFirst, hRest⟩ := List.forall_mem_cons.mp h
    have hDiffers : key ≠ entry.1 := fun hSame => String.lt_irrefl key (hSame ▸ hFirst)
    rw [insert, if_neg (String.lt_asymm hFirst), if_neg hDiffers, ih hRest]
    rfl

namespace CredentialRecord

theorem entries_foldl_put {record : CredentialRecord} {entries : List (String × String)}
    (h : Entries.Ascending (record.entries ++ entries)) :
    (entries.foldl (fun record (key, value) => record.put key value) record).entries
      = record.entries ++ entries := by
  induction entries generalizing record with
  | nil => exact (List.append_nil _).symm
  | cons entry entries ih =>
    have hPut : (record.put entry.1 entry.2).entries = record.entries ++ [entry] := by
      rw [put]
      refine Entries.insert_of_forall_lt fun other hOther => ?_
      exact (List.pairwise_append.mp h).2.2 other hOther entry List.mem_cons_self
    rw [List.foldl_cons, ih, hPut, List.append_assoc]
    · rfl
    · rw [hPut, List.append_assoc]
      exact h

/-- A record is what its entries build. -/
theorem ofEntries_entries (record : CredentialRecord) : ofEntries record.entries = record := by
  have hEntries : (ofEntries record.entries).entries = record.entries :=
    entries_foldl_put (show Entries.Ascending (empty.entries ++ record.entries) from record.ascending)
  cases hBuilt : ofEntries record.entries with
  | mk entries ascending =>
    rw [hBuilt] at hEntries
    cases hEntries
    rfl

/-- **What is written for a record is read as that record.** -/
theorem read_pretty (record : CredentialRecord) : read record.toJson.pretty = some record := by
  rw [read, show record.toJson = Json.ofEntries record.entries from rfl, Json.read_pretty]
  show (Json.Tree.entries _).bind _ = _
  rw [Json.entries_texts]
  exact congrArg some record.ofEntries_entries

end CredentialRecord

end CredentialLease
