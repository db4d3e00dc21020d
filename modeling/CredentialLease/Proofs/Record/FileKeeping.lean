import CredentialLease.Proofs.FileTree.Places
import CredentialLease.Proofs.FileTree.Segments
import CredentialLease.Proofs.Json.Records
import CredentialLease.Proofs.Record.Keeping
import CredentialLease.Record.FileStore

/-!
# The file store keeps what is saved in it

A save writes a temporary file beside the file of the record and moves it there. If that succeeds, the
file holds the text of the new record, which is read back; if it fails at any point, the file stands as
it did, because the temporary file has another name (`placeOf_temporaryPath_ne`). So the store of a file
keeps records (`keeps_store`), for every path that never goes up: a path through a directory that a save
makes, and out of it again, leads to the file only from then on.
-/

namespace CredentialLease

namespace FileStore

open FileTree

variable {path temporary : String} {disk after : Disk} {tree moved : FileTree}
  {record held : CredentialRecord} {contents : Bytes} {room : Option Nat}

/-! ### The temporary file -/

/-- What is put behind a name to make that of the temporary file. -/
def temporaryEnd (disk : Disk) : String := s!".{disk.process}.{disk.temporaries}.tmp"

/-- The name of the temporary file. -/
def temporaryName (path : String) (disk : Disk) : String :=
  (Path.fileName path).getD "" ++ temporaryEnd disk

theorem temporaryPath_eq (path : String) (disk : Disk) :
    temporaryPath path disk = Path.withFileName path (temporaryName path disk) := by
  rw [temporaryPath, temporaryName, temporaryEnd]
  simp only [String.append_assoc]
  rfl

theorem toList_temporaryEnd (disk : Disk) :
    (temporaryEnd disk).toList = '.' :: (Nat.toDigits 10 disk.process
      ++ '.' :: (Nat.toDigits 10 disk.temporaries.toNat ++ ['.', 't', 'm', 'p'])) := by
  have hEnd : (temporaryEnd disk).toList = ".".toList ++ disk.process.repr.toList ++ ".".toList
      ++ disk.temporaries.toNat.repr.toList ++ ".tmp".toList := by
    simp only [temporaryEnd, String.toList_append]
    rfl
  rw [hEnd, Nat.toList_repr, Nat.toList_repr, List.append_assoc, List.append_assoc, List.append_assoc]
  rfl

theorem slash_notMem_temporaryEnd (disk : Disk) : '/' ∉ (temporaryEnd disk).toList := by
  have hDigits (n : Nat) : '/' ∉ Nat.toDigits 10 n := fun h =>
    absurd (Nat.isDigit_of_mem_toDigits (by decide) (by decide) h) (by decide)
  rw [toList_temporaryEnd]
  simp [hDigits]

theorem five_le_length_temporaryEnd (disk : Disk) : 5 ≤ (temporaryEnd disk).length := by
  rw [← String.length_toList, toList_temporaryEnd]
  simp only [List.length_cons, List.length_append, List.length_nil]
  omega

theorem temporaryName_ne {name : String} (h : name.length < 5) : temporaryName path disk ≠ name := by
  intro hSame
  have hLength := congrArg String.length hSame
  rw [temporaryName, String.length_append] at hLength
  have hEnd := five_le_length_temporaryEnd disk
  omega

theorem isName_temporaryName (path : String) (disk : Disk) : Path.IsName (temporaryName path disk) := by
  refine ⟨temporaryName_ne (by decide), ?_⟩
  rw [temporaryName, String.toList_append, List.mem_append, not_or]
  refine ⟨?_, slash_notMem_temporaryEnd disk⟩
  cases hName : Path.fileName path with
  | none => exact List.not_mem_nil
  | some name => exact (Path.isName_of_mem_segments (Path.mem_segments_of_fileName hName)).2

/-- The path of the temporary file does not go up if the path of the file does not. -/
theorem notMem_segments_temporaryPath (hUp : ".." ∉ Path.segments path) (disk : Disk) :
    ".." ∉ Path.segments (temporaryPath path disk) := by
  obtain ⟨init, hSegments, hInit⟩ :=
    Path.exists_segments_withFileName path (isName_temporaryName path disk)
  rw [temporaryPath_eq, hSegments, List.mem_append, List.mem_singleton, not_or]
  exact ⟨fun h => hUp (hInit _ h), (temporaryName_ne (by decide)).symm⟩

/-- **The temporary file stands at another place than the file.** -/
theorem placeOf_temporaryPath_ne {name : String} (h : Path.fileName path = some name)
    (tree : FileTree) (disk : Disk) :
    tree.placeOf path ≠ tree.placeOf (temporaryPath path disk) := by
  obtain ⟨init, hSegments, -⟩ :=
    Path.exists_segments_withFileName path (isName_temporaryName path disk)
  have hTemporary : tree.placeOf (temporaryPath path disk)
      = tree.origin (temporaryPath path disk) ++ names init ++ [temporaryName path disk] := by
    rw [placeOf, temporaryPath_eq, hSegments, names_append,
      names_cons_of_ne (temporaryName_ne (by decide)), List.append_assoc]
    rfl
  obtain ⟨above, hNames⟩ := List.getLast?_eq_some_iff.mp (Path.getLast?_filter_segments h)
  have hPlace : tree.placeOf path = tree.origin path ++ above ++ [name] := by
    rw [placeOf, names, hNames, List.append_assoc]
  rw [hPlace, hTemporary]
  intro hSame
  obtain ⟨-, hLast⟩ := List.append_inj' hSame rfl
  -- the name of the temporary file is longer
  have hLength := congrArg String.length (List.singleton_inj.mp hLast)
  rw [temporaryName, h, Option.getD_some, String.length_append] at hLength
  have hEnd := five_le_length_temporaryEnd disk
  omega

/-! ### Replacing a file -/

/-- A path without a name is not one of a file. -/
theorem read_ne_ok (hTree : tree.WellFormed) (hUp : ".." ∉ Path.segments path)
    (h : Path.fileName path = none) : tree.read path ≠ .ok contents := by
  intro hRead
  obtain ⟨-, hFile⟩ := (hTree.read_eq_ok_iff hUp).mp hRead
  rw [placeOf, names, Path.filter_segments_eq_nil hUp h, List.append_nil, hTree.origin path] at hFile
  cases hFile

/-- **A file is replaced when all has been written and is moved.** -/
theorem replace_ok (h : replace tree temporary path contents room = (.ok (), moved)) :
    ∃ written, tree.write temporary contents = .ok written ∧
      written.moveFile temporary path = .ok moved := by
  rw [replace] at h
  split at h
  · cases h
  next written hWrite =>
  split at h
  case h_2 => cases h
  next final hMove =>
  obtain rfl : final = moved := congrArg Prod.snd h
  exact ⟨written, writeWithin_eq_ok hWrite, hMove⟩

/-- **A file that is not replaced leaves what has been written of it to be removed.** -/
theorem replace_error {error : FileError}
    (h : replace tree temporary path contents room = (.error error, moved)) :
    ∃ written, (written = tree ∨ ∃ fitting, tree.write temporary fitting = .ok written) ∧
      moved = written.removeFile temporary := by
  rw [replace] at h
  split at h
  · next written hWrite => exact ⟨written, writeWithin_eq_error hWrite, (congrArg Prod.snd h).symm⟩
  next written hWrite =>
  split at h
  · cases h
  · exact ⟨written, .inr ⟨contents, writeWithin_eq_ok hWrite⟩, (congrArg Prod.snd h).symm⟩

/-- **A file that is replaced holds what was written.** -/
theorem replace_eq_ok (hTree : tree.WellFormed) (hUp : ".." ∉ Path.segments path)
    (hTemporary : ".." ∉ Path.segments temporary)
    (h : replace tree temporary path contents room = (.ok (), moved)) :
    moved.WellFormed ∧ moved.read path = .ok contents := by
  obtain ⟨written, hWrite, hMove⟩ := replace_ok h
  obtain ⟨hMoved, held, hHeld, hRead⟩ :=
    ((SameBut.write hTemporary hWrite).wellFormed hTree).moveFile hTemporary hUp hMove
  rw [get_placeOf_of_write hTemporary hWrite] at hHeld
  cases hHeld
  exact ⟨hMoved, hRead⟩

/-- **A file that is not replaced stands as it did**, and so does all else but the temporary file. -/
theorem replace_eq_error {error : FileError} (hTemporary : ".." ∉ Path.segments temporary)
    (h : replace tree temporary path contents room = (.error error, moved)) :
    moved.SameBut tree (tree.placeOf temporary) := by
  obtain ⟨written, hWritten, rfl⟩ := replace_error h
  have hRemoved := SameBut.removeFile hTemporary written
  obtain rfl | ⟨fitting, hWrite⟩ := hWritten
  · exact hRemoved
  · have hChanged := SameBut.write hTemporary hWrite
    rw [placeOf_congr hChanged.workingDirectory] at hRemoved
    exact hRemoved.trans hChanged

theorem makeParent_extends (tree : FileTree) (path : String) : (makeParent tree path).2.Extends tree :=
  Extends.makeDirectories _ tree

/-! ### Saving -/

/-- A save succeeds when the temporary file can be written as a whole and moved. -/
theorem save_of_moved {made written moved : FileTree}
    (hParent : makeParent disk.tree path = (.ok (), made))
    (hWrite : made.write (temporaryPath path disk) (utf8 record.toJson.pretty) = .ok written)
    (hMove : written.moveFile (temporaryPath path disk) path = .ok moved) :
    save path record disk
      = (.ok (), { disk with tree := moved, temporaries := disk.temporaries + 1 }) := by
  simp only [save, hParent, replace, writeWithin_none, hWrite, hMove]
  rfl

/-- **What a save does**: it makes the directory of the file, and then replaces the file. -/
theorem save_eq {result : Except Failure Unit} (h : save path record disk room = (result, after)) :
    (∃ error, makeParent disk.tree path = (.error error, after.tree) ∧
      result = .error (.file error)) ∨
    ∃ tree replaced, makeParent disk.tree path = (.ok (), tree) ∧
      replace tree (temporaryPath path disk) path (utf8 record.toJson.pretty) room
        = (replaced, after.tree) ∧
      result = replaced.mapError .file := by
  rw [save] at h
  obtain ⟨rfl, rfl⟩ := Prod.mk.inj h
  dsimp only
  split
  · next error tree hMade => exact .inl ⟨error, hMade, rfl⟩
  · next tree hMade =>
    obtain ⟨outcome, hOutcome⟩ : ∃ outcome, outcome
      = replace tree (temporaryPath path disk) path (utf8 record.toJson.pretty) room := ⟨_, rfl⟩
    rw [← hOutcome]
    exact .inr ⟨tree, outcome.1, hMade, hOutcome.symm, rfl⟩

/-- **A file that is saved holds the text of the record.** -/
theorem read_of_save (hTree : disk.tree.WellFormed) (hUp : ".." ∉ Path.segments path)
    (h : save path record disk room = (.ok (), after)) :
    after.tree.WellFormed ∧ after.tree.read path = .ok (utf8 record.toJson.pretty) := by
  have hExtends := makeParent_extends disk.tree path
  obtain ⟨error, -, hFailed⟩ | ⟨tree, replaced, hMade, hReplaced, hDone⟩ := save_eq h
  · cases hFailed
  · rw [hMade] at hExtends
    cases replaced with
    | error error => cases hDone
    | ok =>
      exact replace_eq_ok (hExtends.wellFormed hTree) hUp
        (notMem_segments_temporaryPath hUp disk) hReplaced

/-- **A save that fails leaves the file as it is.** -/
theorem read_of_save_error (hTree : disk.tree.WellFormed) (hUp : ".." ∉ Path.segments path)
    {failure : Failure} (h : save path record disk room = (.error failure, after)) :
    after.tree.WellFormed ∧
      ∀ contents, after.tree.read path = .ok contents ↔ disk.tree.read path = .ok contents := by
  have hExtends := makeParent_extends disk.tree path
  obtain ⟨error, hMade, -⟩ | ⟨tree, replaced, hMade, hReplaced, hFailed⟩ := save_eq h
  · rw [hMade] at hExtends
    have hAfter := hExtends.wellFormed hTree
    exact ⟨hAfter, fun contents =>
      read_eq_ok_congr hTree hAfter hUp hExtends.workingDirectory hExtends.get_eq_file_iff⟩
  · rw [hMade] at hExtends
    cases replaced with
    | ok => cases hFailed
    | error error =>
      have hSame := replace_eq_error (notMem_segments_temporaryPath hUp disk) hReplaced
      have hAfter := hSame.wellFormed (hExtends.wellFormed hTree)
      refine ⟨hAfter, fun contents => ?_⟩
      cases hName : Path.fileName path with
      | none =>
        exact ⟨fun hRead => absurd hRead (read_ne_ok hAfter hUp hName),
          fun hRead => absurd hRead (read_ne_ok hTree hUp hName)⟩
      | some name =>
        refine read_eq_ok_congr hTree hAfter hUp
          (hSame.workingDirectory.trans hExtends.workingDirectory) ?_
        rw [hSame.get, hExtends.get_eq_file_iff]
        rw [← placeOf_congr hExtends.workingDirectory]
        exact placeOf_temporaryPath_ne hName tree disk

/-! ### Records -/

/-- The text of a record is not blank. -/
theorem isBlankText_pretty (record : CredentialRecord) : isBlankText record.toJson.pretty = false := by
  have hBrace : '\x7b' ∈ record.toJson.pretty.toList := by
    rw [CredentialRecord.toJson, Json.Value.pretty, Json.Value.prettyAt, Json.enclose]
    split
    · simp
    · simp
  rw [isBlankText, Bool.eq_false_iff]
  intro hBlank
  exact absurd (List.all_eq_true.mp hBlank _ hBrace) (by decide)

theorem parse_pretty (path : String) (record : CredentialRecord) :
    parse path record.toJson.pretty = .ok record := by
  rw [parse, isBlankText_pretty, if_neg Bool.false_ne_true, record.read_pretty]

/-- **Whether a disk holds a record** in the file at a path: the file reads as the record, or there is
none that can be read and the record is empty. -/
structure Holds (path : String) (disk : Disk) (record : CredentialRecord) : Prop where
  wellFormed : disk.tree.WellFormed
  recorded : ∀ contents, disk.tree.read path = .ok contents →
    ∃ text, ofUtf8 contents = some text ∧ parse path text = .ok record
  missing : (∀ contents, disk.tree.read path ≠ .ok contents) → record = .empty

/-- A disk holds what can be loaded from it. -/
theorem Holds.of_load (hTree : disk.tree.WellFormed) (h : load path disk = .ok record) :
    Holds path disk record := by
  rw [load] at h
  split at h
  · next hRead =>
    refine ⟨hTree, fun contents hContents => ?_, fun _ => (Except.ok.inj h).symm⟩
    rw [hRead] at hContents
    cases hContents
  · cases h
  · next contents hRead =>
    split at h
    case h_2 => cases h
    next text hText =>
    refine ⟨hTree, fun other hOther => ?_, fun hNone => absurd hRead (hNone contents)⟩
    obtain rfl := Except.ok.inj (hRead.symm.trans hOther)
    exact ⟨text, hText, h⟩

/-- Nothing else can be loaded. -/
theorem Holds.eq_of_load (h : Holds path disk held) (hLoad : load path disk = .ok record) :
    record = held := by
  rw [load] at hLoad
  split at hLoad
  · next hRead =>
    obtain rfl := Except.ok.inj hLoad
    refine (h.missing fun contents hContents => ?_).symm
    rw [hRead] at hContents
    cases hContents
  · cases hLoad
  · next contents hRead =>
    obtain ⟨text, hText, hParse⟩ := h.recorded contents hRead
    rw [hText] at hLoad
    exact Except.ok.inj (hLoad.symm.trans hParse)

/-- A record with entries is held by a file that can be read, so it can be loaded. -/
theorem Holds.load_of_ne_empty (h : Holds path disk record) (hSome : record ≠ .empty) :
    load path disk = .ok record := by
  obtain ⟨contents, hRead⟩ : ∃ contents, disk.tree.read path = .ok contents := by
    by_contra hNone
    exact hSome (h.missing fun contents hRead => hNone ⟨contents, hRead⟩)
  obtain ⟨text, hText, hParse⟩ := h.recorded contents hRead
  rw [load, hRead]
  dsimp only
  rw [hText]
  exact hParse

/-- **The file store keeps records**, at every path that never goes up, whatever the room is. -/
theorem keeps_store (hUp : ".." ∉ Path.segments path) (room : Disk → Option Nat) :
    (store path room).Keeps (Holds path) where
  loads := Holds.eq_of_load
  saves := by
    intro disk held record after hHeld hSave
    obtain ⟨hAfter, hRead⟩ := read_of_save hHeld.wellFormed hUp hSave
    refine ⟨hAfter, fun contents hContents => ?_, fun hNone => absurd hRead (hNone _)⟩
    obtain rfl := Except.ok.inj (hRead.symm.trans hContents)
    exact ⟨_, ofUtf8_utf8 _, parse_pretty path record⟩
  refuses := by
    intro disk held record after failure hHeld hSave
    obtain ⟨hAfter, hRead⟩ := read_of_save_error hHeld.wellFormed hUp hSave
    exact ⟨hAfter, fun contents hContents => hHeld.recorded contents ((hRead contents).mp hContents),
      fun hNone => hHeld.missing fun contents hContents =>
        hNone contents ((hRead contents).mpr hContents)⟩

end FileStore

end CredentialLease
