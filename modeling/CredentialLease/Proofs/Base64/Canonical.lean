import CredentialLease.Base64
import CredentialLease.Proofs.Text.Utf8
import CredentialLease.Text.Blank
import Mathlib.Tactic.IntervalCases

/-!
# Base64 texts and byte strings correspond

`decode_eq_ok_iff`: a text is read as a byte string exactly when it is the text written for it, so
every byte string has one spelling. Both directions follow the groups of four symbols.
`decodeFrom_full` reads one full group whatever comes after it, and `lastSextets_eq_ok` says what a
last group looks like that was read: symbols first, then padding.

The symbols are ASCII, which turns bytes into characters and back (`utf8_encode`), and none of
them is white space (`isBlank_of_mem_encode`).
-/

namespace CredentialLease.Base64

/-! ### Symbols -/

theorem sextet_symbol {n : Nat} (h : n < 64) : sextet (symbol n) = some n := by
  interval_cases n <;> decide

theorem sextet_eq_some {b : UInt8} {n : Nat} (h : sextet b = some n) : n < 64 ∧ symbol n = b := by
  -- there are only 256 bytes to check
  have hAll : ∀ k : Fin 256, ∀ m ∈ sextet (UInt8.ofNat k),
      m < 64 ∧ symbol m = UInt8.ofNat k := by
    decide +kernel
  have hByte := hAll ⟨b.toNat, b.toNat_lt⟩ n
  rw [UInt8.ofNat_toNat] at hByte
  exact hByte h

theorem symbol_ne_padding {n : Nat} (h : n < 64) : symbol n ≠ padding := by
  intro hEq
  have hSome := sextet_symbol h
  rw [hEq, show sextet padding = none by decide] at hSome
  cases hSome

theorem sextetAt_symbol {n : Nat} (h : n < 64) (offset : Nat) :
    sextetAt offset (symbol n) = .ok n := by
  rw [sextetAt, sextet_symbol h]

theorem sextetAt_eq_ok {offset : Nat} {b : UInt8} {n : Nat} (h : sextetAt offset b = .ok n) :
    n < 64 ∧ symbol n = b := by
  unfold sextetAt at h
  split at h
  · next m hm =>
    obtain rfl := Except.ok.inj h
    exact sextet_eq_some hm
  · cases h

/-! ### The last group -/

theorem lastSextets_padding (start position first count : Nat) (h : 2 ≤ position) :
    lastSextets start position (some first) (List.replicate count padding) = .ok [] := by
  induction count generalizing position with
  | zero => rfl
  | succ count ih =>
    rw [List.replicate_succ, lastSextets, if_pos rfl, if_neg (by omega),
      Option.getD_some]
    exact ih (position + 1) (by omega)

/-- Symbols and the padding after them are read as the numbers of the symbols. -/
theorem lastSextets_symbols {ns : List Nat} (hns : ∀ n ∈ ns, n < 64) (start position count : Nat)
    (h : 2 ≤ position + ns.length) :
    lastSextets start position none (ns.map symbol ++ List.replicate count padding) = .ok ns := by
  induction ns generalizing position with
  | nil =>
    have hPosition : 2 ≤ position := by simpa using h
    cases count with
    | zero => rfl
    | succ count =>
      rw [List.map_nil, List.nil_append, List.replicate_succ, lastSextets, if_pos rfl,
        if_neg (by omega)]
      exact lastSextets_padding start (position + 1) _ count (by omega)
  | cons n ns ih =>
    have hn : n < 64 := hns n List.mem_cons_self
    have hMore := ih (fun m hm => hns m (List.mem_cons_of_mem n hm)) (position + 1)
      (by rw [List.length_cons] at h; omega)
    rw [List.map_cons, List.cons_append, lastSextets, if_neg (symbol_ne_padding hn)]
    simp only [sextetAt_symbol hn, hMore, bind, Except.bind, pure, Except.pure]

/-- A last group that is read is made of symbols, and of padding after them. -/
theorem lastSextets_eq_ok {start position : Nat} {pad : Option Nat} {group : Bytes} {ns : List Nat}
    (h : lastSextets start position pad group = .ok ns) :
    (∀ n ∈ ns, n < 64) ∧ (pad ≠ none → ns = []) ∧
      ∃ count, group = ns.map symbol ++ List.replicate count padding := by
  induction group generalizing position pad ns with
  | nil =>
    obtain rfl := Except.ok.inj h
    exact ⟨by simp, fun _ => rfl, 0, rfl⟩
  | cons b rest ih =>
    unfold lastSextets at h
    split_ifs at h with hPad hPosition
    -- a padding symbol, after which only padding may follow
    · obtain ⟨-, hNil, count, hRest⟩ := ih h
      obtain rfl := hNil (by simp)
      refine ⟨by simp, fun _ => rfl, count + 1, ?_⟩
      rw [hRest, hPad, List.replicate_succ]
      rfl
    -- a symbol, which may not follow on padding
    · cases pad with
      | some first => cases h
      | none =>
        simp only [bind, Except.bind, pure, Except.pure] at h
        split at h
        · cases h
        · next n hn =>
          split at h
          · cases h
          · next more hMore =>
            obtain rfl := Except.ok.inj h
            obtain ⟨hLow, rfl⟩ := sextetAt_eq_ok hn
            obtain ⟨hAll, -, count, rfl⟩ := ih hMore
            refine ⟨?_, fun hNone => absurd rfl hNone, count, rfl⟩
            intro m hm
            rcases List.mem_cons.mp hm with rfl | hm
            · exact hLow
            · exact hAll m hm

/-- A last group of two to four symbols, filled up with padding, gives the bytes of the
symbols. -/
theorem decodeLast_symbols {ns : List Nat} (hns : ∀ n ∈ ns, n < 64) (h2 : 2 ≤ ns.length)
    (h4 : ns.length ≤ 4) (start : Nat) :
    ∃ unused, decodeLast start (ns.map symbol ++ List.replicate (4 - ns.length) padding)
      = lastBytes unused ns := by
  have hRead := lastSextets_symbols hns start 0 (4 - ns.length) (by omega)
  have hLength : (ns.map symbol ++ List.replicate (4 - ns.length) padding).length = 4 := by
    rw [List.length_append, List.length_map, List.length_replicate]
    omega
  have hNe : ns.map symbol ++ List.replicate (4 - ns.length) padding ≠ [] := by
    rw [← List.length_pos_iff, hLength]
    omega
  simp only [decodeLast, hRead, hNe, hLength, ↓reduceIte, Nat.reduceMod, ne_eq,
    not_true_eq_false, show ¬ ns.length < 2 by omega]
  exact ⟨_, rfl⟩

/-- A last group that is read is empty, or is made of two to four symbols and filled up with
padding. -/
theorem decodeLast_eq_ok {start : Nat} {group bytes : Bytes} (hGroup : group.length ≤ 4)
    (h : decodeLast start group = .ok bytes) :
    (group = [] ∧ bytes = []) ∨ ∃ ns : List Nat, (∀ n ∈ ns, n < 64) ∧ 2 ≤ ns.length ∧
      ns.length ≤ 4 ∧ group = ns.map symbol ++ List.replicate (4 - ns.length) padding ∧
      ∃ unused, lastBytes unused ns = .ok bytes := by
  unfold decodeLast at h
  split at h
  · cases h
  · next ns hns =>
    dsimp only at h
    split_ifs at h with hNil hFew hFull
    · exact .inl ⟨hNil, (Except.ok.inj h).symm⟩
    -- the padding is as long as the group is short of four
    · obtain ⟨hAll, -, count, rfl⟩ := lastSextets_eq_ok hns
      rw [List.length_append, List.length_map, List.length_replicate] at hGroup hFull
      have hCount : count = 4 - ns.length := by omega
      subst hCount
      exact .inr ⟨ns, hAll, by omega, by omega, rfl, _, h⟩

/-! ### Bytes of a group -/

/-- The first byte of a group is in its first two symbols. -/
theorem first_byte (a b : UInt8) :
    UInt8.ofNat (a.toNat / 4 * 4 + (a.toNat % 4 * 16 + b.toNat / 16) / 16) = a := by
  have ha := a.toNat_lt
  have hb := b.toNat_lt
  apply UInt8.toNat_inj.mp
  rw [UInt8.toNat_ofNat']
  omega

/-- The second byte of a group is in its second and third symbols. -/
theorem second_byte (a b c : UInt8) :
    UInt8.ofNat ((a.toNat % 4 * 16 + b.toNat / 16) % 16 * 16
      + (b.toNat % 16 * 4 + c.toNat / 64) / 4) = b := by
  have hb := b.toNat_lt
  have hc := c.toNat_lt
  apply UInt8.toNat_inj.mp
  rw [UInt8.toNat_ofNat']
  omega

/-- The third byte of a group is in its last two symbols. -/
theorem third_byte (b c : UInt8) :
    UInt8.ofNat ((b.toNat % 16 * 4 + c.toNat / 64) % 4 * 64 + c.toNat % 64) = c := by
  have hc := c.toNat_lt
  apply UInt8.toNat_inj.mp
  rw [UInt8.toNat_ofNat']
  omega

/-- What one symbol leaves over and what the next one adds make one byte. -/
theorem toNat_joined {high low : Nat} (h : high + low < 256) :
    (UInt8.ofNat (high + low)).toNat = high + low := by
  rw [UInt8.toNat_ofNat', Nat.mod_eq_of_lt (by omega)]

/-- Three bytes read from four symbols are written as these symbols. -/
theorem symbols_full {x y z w : Nat} (hx : x < 64) (hy : y < 64) (hz : z < 64) (hw : w < 64)
    (more : Bytes) :
    symbols (UInt8.ofNat (x * 4 + y / 16) :: UInt8.ofNat (y % 16 * 16 + z / 4)
        :: UInt8.ofNat (z % 4 * 64 + w) :: more)
      = symbol x :: symbol y :: symbol z :: symbol w :: symbols more := by
  rw [symbols, toNat_joined (by omega), toNat_joined (by omega), toNat_joined (by omega)]
  congr 2
  · omega
  congr 2
  · omega
  congr 2
  · omega
  congr 2
  omega

/-- The bytes of a last group are written as the symbols that they were read from. -/
theorem symbols_lastBytes {ns : List Nat} (hns : ∀ n ∈ ns, n < 64) (h2 : 2 ≤ ns.length)
    (h4 : ns.length ≤ 4) {unused : Error} {bytes : Bytes} (h : lastBytes unused ns = .ok bytes) :
    symbols bytes = ns.map symbol ++ List.replicate (4 - ns.length) padding := by
  match ns with
  | [x, y] =>
    have hx : x < 64 := hns x (by simp)
    have hy : y < 64 := hns y (by simp)
    rw [lastBytes] at h
    split_ifs at h with hUnused
    obtain rfl := Except.ok.inj h
    rw [symbols, toNat_joined (by omega), show (x * 4 + y / 16) / 4 = x by omega,
      show (x * 4 + y / 16) % 4 * 16 = y by omega]
    rfl
  | [x, y, z] =>
    have hx : x < 64 := hns x (by simp)
    have hy : y < 64 := hns y (by simp)
    have hz : z < 64 := hns z (by simp)
    rw [lastBytes] at h
    split_ifs at h with hUnused
    obtain rfl := Except.ok.inj h
    rw [symbols, toNat_joined (by omega), toNat_joined (by omega),
      show (x * 4 + y / 16) / 4 = x by omega,
      show (x * 4 + y / 16) % 4 * 16 + (y % 16 * 16 + z / 4) / 16 = y by omega,
      show (y % 16 * 16 + z / 4) % 16 * 4 = z by omega]
    rfl
  | [x, y, z, w] =>
    obtain rfl := Except.ok.inj h
    rw [symbols_full (hns x (by simp)) (hns y (by simp)) (hns z (by simp)) (hns w (by simp)),
      symbols]
    rfl
  -- other lengths are ruled out
  | [] | [_] => simp at h2
  | _ :: _ :: _ :: _ :: _ :: _ =>
    simp only [List.length_cons] at h4
    omega

/-! ### Reading what was written -/

theorem length_symbols_mod (bytes : Bytes) : (symbols bytes).length % 4 = 0 := by
  induction bytes using symbols.induct with
  | case1 => simp only [symbols, List.length_nil]
  | case2 a => simp only [symbols, List.length_cons, List.length_nil]
  | case3 a b => simp only [symbols, List.length_cons, List.length_nil]
  | case4 a b c rest ih =>
    simp only [symbols, List.length_cons]
    omega

theorem strayLast_symbols (bytes : Bytes) : strayLast (symbols bytes) = none := by
  unfold strayLast
  split
  · rw [length_symbols_mod]
    simp
  · rfl

/-- The empty text is read as no bytes, wherever it stands. -/
theorem decodeFrom_nil (start : Nat) : decodeFrom start [] = .ok [] := rfl

/-- A full group gives its three bytes and then those of the groups after it. -/
theorem decodeFrom_full {x y z w : Nat} (hx : x < 64) (hy : y < 64) (hz : z < 64) (hw : w < 64)
    (start : Nat) (rest : Bytes) :
    decodeFrom start (symbol x :: symbol y :: symbol z :: symbol w :: rest)
      = (decodeFrom (start + 4) rest).map fun more =>
          UInt8.ofNat (x * 4 + y / 16) :: UInt8.ofNat (y % 16 * 16 + z / 4)
            :: UInt8.ofNat (z % 4 * 64 + w) :: more := by
  cases rest with
  | nil =>
    have hns : ∀ n ∈ [x, y, z, w], n < 64 := by simp [hx, hy, hz, hw]
    -- a full group at the end is read as a last group without padding
    obtain ⟨unused, hLast⟩ := decodeLast_symbols hns (by simp) (by simp) start
    exact hLast
  | cons b rest =>
    rw [decodeFrom]
    simp only [sextetAt_symbol, hx, hy, hz, hw]
    rfl

theorem decodeFrom_symbols (bytes : Bytes) (start : Nat) :
    decodeFrom start (symbols bytes) = .ok bytes := by
  induction bytes using symbols.induct generalizing start with
  | case1 => rw [symbols, decodeFrom_nil]
  | case2 a =>
    have ha := a.toNat_lt
    -- the last symbol has no bits left over, as if a zero byte followed
    have hByte := first_byte a 0
    have hns : ∀ n ∈ [a.toNat / 4, a.toNat % 4 * 16], n < 64 := by
      simp
      omega
    obtain ⟨unused, hLast⟩ := decodeLast_symbols hns (by simp) (by simp) start
    rw [UInt8.toNat_zero, Nat.zero_div, Nat.add_zero] at hByte
    rw [lastBytes, if_pos (by omega), hByte] at hLast
    exact hLast
  | case3 a b =>
    have ha := a.toNat_lt
    have hb := b.toNat_lt
    -- here too the last symbol has no bits left over
    have hByte := second_byte a b 0
    have hns : ∀ n ∈ [a.toNat / 4, a.toNat % 4 * 16 + b.toNat / 16, b.toNat % 16 * 4], n < 64 := by
      simp
      omega
    obtain ⟨unused, hLast⟩ := decodeLast_symbols hns (by simp) (by simp) start
    rw [UInt8.toNat_zero, Nat.zero_div, Nat.add_zero] at hByte
    rw [lastBytes, if_pos (by omega), first_byte, hByte] at hLast
    exact hLast
  | case4 a b c rest ih =>
    have ha := a.toNat_lt
    have hb := b.toNat_lt
    have hc := c.toNat_lt
    rw [symbols, decodeFrom_full (by omega) (by omega) (by omega) (by omega), ih, first_byte,
      second_byte, third_byte]
    rfl

/-- Whatever is read is written as it stood. -/
theorem symbols_of_decodeFrom {start : Nat} {group bytes : Bytes}
    (h : decodeFrom start group = .ok bytes) : symbols bytes = group := by
  induction start, group using decodeFrom.induct generalizing bytes with
  | case1 start a b c d e rest ih =>
    rw [decodeFrom] at h
    simp only [bind, Except.bind, pure, Except.pure] at h
    split at h
    · cases h
    next x hx =>
    split at h
    · cases h
    next y hy =>
    split at h
    · cases h
    next z hz =>
    split at h
    · cases h
    next w hw =>
    split at h
    · cases h
    next more hMore =>
    -- all four symbols and the rest are read
    obtain rfl := Except.ok.inj h
    obtain ⟨hX, rfl⟩ := sextetAt_eq_ok hx
    obtain ⟨hY, rfl⟩ := sextetAt_eq_ok hy
    obtain ⟨hZ, rfl⟩ := sextetAt_eq_ok hz
    obtain ⟨hW, rfl⟩ := sextetAt_eq_ok hw
    rw [symbols_full hX hY hZ hW, ih hMore]
  | case2 start group hShort =>
    -- with more than four bytes left, the group is not the last
    have hLength : group.length ≤ 4 := by
      by_contra hLong
      match group with
      | a :: b :: c :: d :: e :: rest => exact hShort a b c d e rest rfl
      | [] | [_] | [_, _] | [_, _, _] | [_, _, _, _] => simp at hLong
    rw [decodeFrom] at h
    · rcases decodeLast_eq_ok hLength h with ⟨rfl, rfl⟩ | ⟨ns, hns, h2, h4, rfl, unused, hBytes⟩
      · rw [symbols]
      · exact symbols_lastBytes hns h2 h4 hBytes
    · exact hShort

/-! ### Texts -/

/-- A byte that is a character other than white space. -/
def IsVisible (b : UInt8) : Prop := 32 < b.toNat ∧ b.toNat < 127

instance (b : UInt8) : Decidable (IsVisible b) := inferInstanceAs (Decidable (_ ∧ _))

theorem isVisible_symbol (n : Nat) : IsVisible (symbol n) := by
  by_cases h : n < 64
  · interval_cases n <;> decide
  · have h47 : symbol n = 47 := by
      unfold symbol
      rw [if_neg (by omega), if_neg (by omega), if_neg (by omega), if_neg (by omega)]
    rw [h47]
    decide

theorem isVisible_of_mem_symbols {bytes : Bytes} {b : UInt8} (h : b ∈ symbols bytes) :
    IsVisible b := by
  have hPadding : IsVisible padding := by decide
  induction bytes using symbols.induct with
  | case1 => simp [symbols] at h
  | case2 a =>
    simp only [symbols, List.mem_cons, List.not_mem_nil, or_false] at h
    rcases h with rfl | rfl | rfl | rfl
    · exact isVisible_symbol _
    · exact isVisible_symbol _
    · exact hPadding
    · exact hPadding
  | case3 a b =>
    simp only [symbols, List.mem_cons, List.not_mem_nil, or_false] at h
    rcases h with rfl | rfl | rfl | rfl
    · exact isVisible_symbol _
    · exact isVisible_symbol _
    · exact isVisible_symbol _
    · exact hPadding
  | case4 a b c rest ih =>
    simp only [symbols, List.mem_cons] at h
    rcases h with rfl | rfl | rfl | rfl | h
    · exact isVisible_symbol _
    · exact isVisible_symbol _
    · exact isVisible_symbol _
    · exact isVisible_symbol _
    · exact ih h

/-- A visible character is written in UTF-8 as itself and is no white space. -/
theorem char_of_isVisible {b : UInt8} (h : IsVisible b) :
    String.utf8EncodeChar (Char.ofNat b.toNat) = [b] ∧ Text.isBlank (Char.ofNat b.toNat) = false := by
  have hAll : ∀ k : Fin 256, IsVisible (UInt8.ofNat k) →
      String.utf8EncodeChar (Char.ofNat k) = [UInt8.ofNat k] ∧
        Text.isBlank (Char.ofNat k) = false := by
    decide +kernel
  have hByte := hAll ⟨b.toNat, b.toNat_lt⟩
  rw [UInt8.ofNat_toNat] at hByte
  exact hByte h

/-- Visible bytes are the UTF-8 encoding of the characters that they are. -/
theorem flatMap_utf8EncodeChar {bytes : Bytes} (h : ∀ b ∈ bytes, IsVisible b) :
    (bytes.flatMap fun b => String.utf8EncodeChar (Char.ofNat b.toNat)) = bytes := by
  induction bytes with
  | nil => rfl
  | cons b rest ih =>
    rw [List.flatMap_cons, (char_of_isVisible (h b List.mem_cons_self)).1,
      ih fun c hc => h c (List.mem_cons_of_mem b hc)]
    rfl

theorem utf8_encode (bytes : Bytes) : utf8 (encode bytes) = symbols bytes := by
  have hChars : utf8 (encode bytes)
      = (symbols bytes).flatMap fun b => String.utf8EncodeChar (Char.ofNat b.toNat) := by
    simp [utf8, encode, List.utf8Encode, List.flatMap_map]
  rw [hChars, flatMap_utf8EncodeChar fun b hb => isVisible_of_mem_symbols hb]

theorem isBlank_of_mem_encode {bytes : Bytes} {c : Char} (h : c ∈ (encode bytes).toList) :
    Text.isBlank c = false := by
  rw [encode, String.toList_ofList, List.mem_map] at h
  obtain ⟨b, hb, rfl⟩ := h
  exact (char_of_isVisible (isVisible_of_mem_symbols hb)).2

/-- **A text is read as a byte string exactly when it is the one written for it.** -/
theorem decode_eq_ok_iff {text : String} {bytes : Bytes} :
    decode text = .ok bytes ↔ text = encode bytes := by
  constructor
  · intro h
    unfold decode decodeSymbols at h
    split at h
    · cases h
    · have hSymbols : utf8 text = utf8 (encode bytes) := by
        rw [utf8_encode, symbols_of_decodeFrom h]
      exact utf8_injective hSymbols
  · rintro rfl
    rw [decode, utf8_encode, decodeSymbols, strayLast_symbols]
    exact decodeFrom_symbols bytes 0

theorem decode_encode (bytes : Bytes) : decode (encode bytes) = .ok bytes :=
  decode_eq_ok_iff.mpr rfl

/-- **Byte strings are told apart by their texts.** -/
theorem encode_inj {bytes other : Bytes} : encode bytes = encode other ↔ bytes = other := by
  constructor
  · intro h
    have hRead := decode_encode other
    rw [← h, decode_encode] at hRead
    exact Except.ok.inj hRead
  · exact congrArg encode

end CredentialLease.Base64
