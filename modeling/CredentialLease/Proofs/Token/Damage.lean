import CredentialLease.Proofs.Token.StoredForm

/-!
# Payloads that are cut off or go on too long

A payload is a row of fields. A cut leaves some of them in full and falls in the one after these
(`CutIn`). That is where the reader stops. It does so because each of its steps takes the bytes of its
field, whatever comes next, and fails for the field while a byte of it is missing; steps like this can be
put one after the other (`Reads.bind`), and the reader of a payload is made of them (`reads_toToken`).

Bytes that come after the last field belong to no token and are refused. So no payload begins with
another one (`eq_of_ofToken_prefix`).

Main statement: `AccessToken.decode_damaged`.
-/

namespace CredentialLease

namespace Payload

/-! ### Fields -/

/-- A part of a payload, under the name by which it is reported when it is cut off. -/
structure Field where
  name : String
  bytes : Bytes

/-- The bytes of a row of fields. -/
def joined (fields : List Field) : Bytes := fields.flatMap Field.bytes

/-- The fields of the payload of a token. -/
def fields (token : AccessToken) : List Field :=
  [⟨"version", Bytes.bigEndian 1 version⟩,
    ⟨"name length", Bytes.bigEndian 2 (utf8 token.name).length⟩, ⟨"name", utf8 token.name⟩,
    ⟨"secret length", Bytes.bigEndian 4 token.secret.length⟩, ⟨"secret", token.secret.bytes⟩,
    ⟨"timestamp", Bytes.bigEndian 8 token.issued.toNat⟩,
    ⟨"timestamp", Bytes.bigEndian 8 token.expires.toNat⟩]

theorem joined_cons (field : Field) (more : List Field) :
    joined (field :: more) = field.bytes ++ joined more := List.flatMap_cons

theorem joined_append (fields more : List Field) :
    joined (fields ++ more) = joined fields ++ joined more := List.flatMap_append

theorem joined_singleton (field : Field) : joined [field] = field.bytes := List.flatMap_singleton ..

theorem joined_fields (token : AccessToken) : joined (fields token) = ofToken token := by
  simp only [fields, joined_cons, ofToken, List.append_assoc]
  rfl

/-! ### Cuts -/

/-- **Whether a cut in a row of fields falls in a given one of them**: the fields before it are left in
full, and it is not. -/
inductive CutIn (field : Field) : List Field → Bytes → Prop where
  | here {part : Bytes} {more : List Field} (hPart : part <+: field.bytes)
      (hShort : part ≠ field.bytes) : CutIn field (field :: more) part
  | later {whole : Field} {more : List Field} {rest : Bytes} (h : CutIn field more rest) :
      CutIn field (whole :: more) (whole.bytes ++ rest)

/-- **Every cut falls in a field.** -/
theorem exists_cutIn {fields : List Field} {cut : Bytes} (hCut : cut <+: joined fields)
    (hShort : cut ≠ joined fields) : ∃ field, CutIn field fields cut := by
  induction fields generalizing cut with
  | nil => exact absurd (List.prefix_nil.mp hCut) hShort
  | cons field more ih =>
    rw [joined_cons] at hCut hShort
    by_cases hWhole : field.bytes <+: cut
    -- the field is left in full, and the cut falls in one after it
    · obtain ⟨rest, rfl⟩ := hWhole
      rw [List.prefix_append_right_inj] at hCut
      obtain ⟨found, hFound⟩ := ih hCut fun hRest => hShort (by rw [hRest])
      exact ⟨found, .later hFound⟩
    · have hPart : cut <+: field.bytes :=
        (List.prefix_or_prefix_of_prefix hCut (List.prefix_append _ _)).resolve_right hWhole
      exact ⟨field, .here hPart fun hSame => hWhole (hSame ▸ List.prefix_rfl)⟩

/-- A cut in two rows of fields falls in the first row, or leaves it in full and falls in the second. -/
theorem CutIn.of_append {field : Field} {fields more : List Field} {cut : Bytes}
    (h : CutIn field (fields ++ more) cut) :
    CutIn field fields cut ∨ ∃ rest, cut = joined fields ++ rest ∧ CutIn field more rest := by
  induction fields generalizing cut with
  | nil => exact .inr ⟨cut, rfl, h⟩
  | cons whole fields ih =>
    cases h with
    | here hPart hShort => exact .inl (.here hPart hShort)
    | later h =>
      obtain hHere | ⟨rest, rfl, hRest⟩ := ih h
      · exact .inl (.later hHere)
      · exact .inr ⟨rest, by rw [joined_cons, List.append_assoc], hRest⟩

/-! ### Readers of fields -/

variable {α β : Type}

/-- **What a reader does with a row of fields**: it gets to the end of them and does the rest with what
comes after, and it fails at every cut in them, for the field in which the cut falls. -/
structure Reads (read : Bytes → Except CredentialError α) (fields : List Field)
    (after : Bytes → Except CredentialError α) : Prop where
  whole : ∀ rest, read (joined fields ++ rest) = after rest
  cut : ∀ field cut, CutIn field fields cut →
    read cut = .error (.malformedToken s!"truncated payload reading {field.name}")

/-- Whatever is done reads no fields at first. -/
theorem Reads.nil (read : Bytes → Except CredentialError α) : Reads read [] read where
  whole _ := rfl
  cut _ _ h := by cases h

/-- **A reader that always gets to the end of its fields can be followed by another one.** -/
theorem Reads.bind {read : Bytes → Except CredentialError α}
    {next : α → Except CredentialError β} {fields more : List Field} {found : Bytes → α}
    {after : Bytes → Except CredentialError β} (hRead : Reads read fields fun rest => .ok (found rest))
    (hNext : Reads (fun rest => next (found rest)) more after) :
    Reads (fun payload => read payload >>= next) (fields ++ more) after where
  whole rest := by
    rw [joined_append, List.append_assoc, hRead.whole]
    exact hNext.whole rest
  cut field cut h := by
    obtain hHere | ⟨rest, rfl, hRest⟩ := h.of_append
    · rw [hRead.cut field cut hHere]
      rfl
    · rw [hRead.whole]
      exact hNext.cut field rest hRest

theorem reads_take (name : String) (bytes : Bytes) :
    Reads (take name bytes.length) [⟨name, bytes⟩] fun rest => .ok (bytes, rest) where
  whole rest := by
    rw [joined_singleton, take_eq_ok_iff]
    exact ⟨rfl, rfl⟩
  cut field cut h := by
    cases h with
    | here hPart hShort =>
      have hLess : cut.length < bytes.length :=
        Nat.lt_of_le_of_ne hPart.length_le fun hLength => hShort (hPart.eq_of_length hLength)
      exact if_pos hLess
    | later h => cases h

theorem reads_number (name : String) {width n : Nat} (h : n < Bytes.capacity width) :
    Reads (number name width) [⟨name, Bytes.bigEndian width n⟩] fun rest => .ok (n, rest) := by
  have hTake := reads_take name (Bytes.bigEndian width n)
  rw [Bytes.length_bigEndian] at hTake
  have hNumber : Reads (number name width) ([⟨name, Bytes.bigEndian width n⟩] ++ [])
      fun rest => .ok (Bytes.ofBigEndian (Bytes.bigEndian width n), rest) := hTake.bind (.nil _)
  rwa [Bytes.ofBigEndian_bigEndian, Nat.mod_eq_of_lt h] at hNumber

/-! ### The reader of a payload -/

theorem reads_takeVersion :
    Reads takeVersion [⟨"version", Bytes.bigEndian 1 version⟩] fun rest => .ok rest :=
  (reads_number "version" (by decide)).bind (.nil _)

theorem reads_takeName {name : String} (h : (utf8 name).length < Bytes.capacity 2) :
    Reads takeName
      [⟨"name length", Bytes.bigEndian 2 (utf8 name).length⟩, ⟨"name", utf8 name⟩]
      fun rest => .ok (name, rest) := by
  refine (reads_number "name length" h).bind ((reads_take "name" (utf8 name)).bind ?_)
  simp only [ofUtf8_utf8]
  exact .nil _

theorem reads_takeSecret {secret : SecretMaterial} (h : secret.length < Bytes.capacity 4) :
    Reads takeSecret
      [⟨"secret length", Bytes.bigEndian 4 secret.length⟩, ⟨"secret", secret.bytes⟩]
      fun rest => .ok (secret, rest) :=
  (reads_number "secret length" h).bind ((reads_take "secret" secret.bytes).bind (.nil _))

/-- **The reader of a payload reads the fields of a token**, and accepts the token if nothing comes after
them. -/
theorem reads_toToken {token : AccessToken} (h : token.secret.length < Bytes.capacity 4) :
    Reads toToken (fields token) fun rest => takeEnd rest >>= fun _ => .ok token := by
  have hName : (utf8 token.name).length < Bytes.capacity 2 :=
    Nat.lt_of_le_of_lt token.name_le (by decide)
  have hToken : AccessToken.ofMillis token.name token.secret (UInt64.ofNat token.issued.toNat)
      (UInt64.ofNat token.expires.toNat) = .ok token := by
    rw [AccessToken.ofMillis_eq_ok_iff, UInt64.ofNat_toNat, UInt64.ofNat_toNat]
    exact ⟨rfl, rfl, rfl, rfl⟩
  rw [← hToken]
  exact reads_takeVersion.bind <| (reads_takeName hName).bind <| (reads_takeSecret h).bind <|
    (reads_number "timestamp" token.issued.toNat_lt).bind <|
      (reads_number "timestamp" token.expires.toNat_lt).bind <| .nil _

variable {token other : AccessToken}

/-- **Bytes after the payload of a token are left over.** -/
theorem toToken_ofToken_append (h : token.secret.length < Bytes.capacity 4) {more : Bytes}
    (hMore : more ≠ []) : toToken (ofToken token ++ more)
      = .error (.malformedToken s!"{more.length} trailing bytes after token") := by
  rw [← joined_fields, (reads_toToken h).whole, takeEnd, if_neg hMore]
  rfl

/-- **No payload begins with that of another token.** -/
theorem eq_of_ofToken_prefix (h : token.secret.length < Bytes.capacity 4)
    (hOther : other.secret.length < Bytes.capacity 4) (hPrefix : ofToken token <+: ofToken other) :
    token = other := by
  obtain ⟨more, hMore⟩ := hPrefix
  have hRead : toToken (ofToken token ++ more) = .ok other :=
    toToken_eq_ok_iff.mpr ⟨hOther, hMore⟩
  rw [← joined_fields, (reads_toToken h).whole] at hRead
  obtain ⟨-, -, hSame⟩ := bind_eq_ok.mp hRead
  exact Except.ok.inj hSame

end Payload

/-- **Damage to a stored token is told apart.** What is left of its payload after a cut is refused for
the field in which the cut falls, and there is one wherever it is cut. A payload with bytes after it is
refused for these. So the payloads of tokens are prefix-free, if the lengths of their secrets fit. -/
theorem AccessToken.decode_damaged (token : AccessToken) (hSecret : token.secret.length < 2 ^ 32) :
    Payload.joined (Payload.fields token) = Payload.ofToken token ∧
    (∀ cut, cut <+: Payload.ofToken token → cut ≠ Payload.ofToken token →
      (∃ field, Payload.CutIn field (Payload.fields token) cut) ∧
      ∀ field, Payload.CutIn field (Payload.fields token) cut →
        AccessToken.decode (Base64.encode cut)
          = .error (.malformedToken s!"truncated payload reading {field.name}")) ∧
    (∀ more, more ≠ [] → AccessToken.decode (Base64.encode (Payload.ofToken token ++ more))
      = .error (.malformedToken s!"{more.length} trailing bytes after token")) ∧
    ∀ other : AccessToken, other.secret.length < 2 ^ 32 →
      Payload.ofToken other <+: Payload.ofToken token → other = token := by
  rw [← capacity_four] at hSecret ⊢
  refine ⟨Payload.joined_fields token, ?_, ?_, ?_⟩
  · intro cut hCut hShort
    rw [← Payload.joined_fields] at hCut hShort
    refine ⟨Payload.exists_cutIn hCut hShort, fun field hField => ?_⟩
    rw [decode_encode_bytes, (Payload.reads_toToken hSecret).cut field cut hField]
    rfl
  · intro more hMore
    rw [decode_encode_bytes, Payload.toToken_ofToken_append hSecret hMore]
    rfl
  · intro other hOther hPrefix
    exact Payload.eq_of_ofToken_prefix hOther hSecret hPrefix

/-- A cut right after the length of an empty secret falls in the first timestamp, since nothing of the
secret is missing. -/
theorem AccessToken.decode_damaged_emptySecret :
    ∃ token : AccessToken, token.name = "n" ∧ token.secret.length = 0 ∧
      AccessToken.decode (Base64.encode [1, 0, 1, 110, 0, 0, 0, 0])
        = .error (.malformedToken "truncated payload reading timestamp") ∧
      AccessToken.decode (Base64.encode (Payload.ofToken token ++ [0, 0]))
        = .error (.malformedToken "2 trailing bytes after token") := by
  obtain ⟨token, hToken⟩ : ∃ token : AccessToken,
      token = ⟨"n", ⟨[]⟩, 1, 2, by decide, by decide, by decide⟩ := ⟨_, rfl⟩
  obtain ⟨-, hCuts, hMore, -⟩ := decode_damaged token (by rw [hToken]; decide)
  have hPrefix : [1, 0, 1, 110, 0, 0, 0, 0] <+: Payload.ofToken token := by
    rw [hToken]
    decide
  have hShort : [1, 0, 1, 110, 0, 0, 0, 0] ≠ Payload.ofToken token := by
    rw [hToken]
    decide
  have hWhole : ([1, 0, 1, 110, 0, 0, 0, 0] : Bytes) = Bytes.bigEndian 1 Payload.version
      ++ (Bytes.bigEndian 2 1 ++ (utf8 "n" ++ (Bytes.bigEndian 4 0 ++ ([] ++ [])))) := by decide
  have hField : Payload.CutIn ⟨"timestamp", Bytes.bigEndian 8 1⟩ (Payload.fields token)
      [1, 0, 1, 110, 0, 0, 0, 0] := by
    rw [hToken, hWhole]
    exact .later (.later (.later (.later (.later (.here List.nil_prefix (by decide))))))
  refine ⟨token, by rw [hToken], by rw [hToken]; rfl, ?_, hMore [0, 0] (by decide)⟩
  exact (hCuts _ hPrefix hShort).2 _ hField

end CredentialLease
