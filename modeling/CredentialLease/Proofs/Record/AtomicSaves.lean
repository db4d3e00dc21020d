import CredentialLease.Proofs.FileTree.Shapes
import CredentialLease.Proofs.Record.SavedFiles

/-!
# A save happens as a whole or not at all

A save makes the directory of the file, writes a temporary file and moves it. Each step can fail, the
second one also when a part of the file has been written, and what was done before is undone, except for
directories: they stay, and each of them is one that the path goes through. So after a save the file
holds the new record and all other files are as they were, or all files are as they were, the file of
the record included. No temporary file is left.

This takes for granted that the temporary file has a name of its own (`TemporaryFree`): a file that
stands there would be written over. Even then a save that fails keeps the file of the record
(`FileStore.keepsFile_of_save_error`).

Main statement: `FileStore.save_atomic`.
-/

namespace CredentialLease

namespace FileStore

open FileTree

variable {path temporary : String} {record : CredentialRecord} {disk after : Disk}
  {tree written moved : FileTree} {contents : Bytes} {room : Option Nat}

/-! ### Directories on the way to a file -/

/-- **Whether a place is as it was**, or was free and holds a directory that the path goes through.
-/
def KeepsOrMakes (path : String) (after tree : FileTree) (place : Location) : Prop :=
  after.get place = tree.get place ∨
  (tree.get place = none ∧ after.get place = some .directory ∧
    ∃ directory, Path.GoesThrough path directory ∧ after.locate directory = .ok place)

/-- No file comes or goes at such a place, and none is changed. -/
theorem KeepsOrMakes.get_eq_file_iff {place : Location} (h : KeepsOrMakes path moved tree place) :
    moved.get place = some (.file contents) ↔ tree.get place = some (.file contents) := by
  rcases h with hSame | ⟨hNone, hMade, -⟩
  · rw [hSame]
  · rw [hNone, hMade]
    exact ⟨nofun, nofun⟩

/-- What has been made stays, where the directories are kept and nothing else has changed. -/
theorem KeepsOrMakes.of_get_eq {place : Location} (h : KeepsOrMakes path written tree place)
    (hKeeps : moved.KeepsDirectories written) (hSame : moved.get place = written.get place) :
    KeepsOrMakes path moved tree place := by
  rcases h with hKept | ⟨hNone, hMade, directory, hAbove, hLocate⟩
  · exact .inl (hSame.trans hKept)
  · have hThere : moved.get place = some .directory := hSame.trans hMade
    refine .inr ⟨hNone, hThere, directory, hAbove, hKeeps.locate_eq_ok hLocate ?_⟩
    rw [hThere]
    exact Option.some_ne_none _

/-- **Making the directory of a file makes those that its path goes through**, and nothing else. -/
theorem makeParent_keepsOrMakes (tree : FileTree) (path : String) (place : Location) :
    KeepsOrMakes path (makeParent tree path).2 tree place := by
  rcases (makeParent_extends tree path).get place with hSame | ⟨hNone, hMade⟩
  · exact .inl hSame
  obtain ⟨directory, hDirectory, hLocate⟩ := makeDirectories_made (Path.directories path) hNone (by
    show (makeParent tree path).2.get place ≠ none
    rw [hMade]
    exact Option.some_ne_none _)
  exact .inr ⟨hNone, hMade, directory, Path.goesThrough_of_mem_directories hDirectory, hLocate⟩

/-! ### Temporary files -/

/-- **Whether the temporary file of a save has a name of its own**: where it is going to be written,
no file stands. -/
def TemporaryFree (path : String) (disk : Disk) : Prop :=
  ∀ contents, (makeParent disk.tree path).2.read (temporaryPath path disk) ≠ .ok contents

/-- The path of the temporary file does not end as the path of the file does. -/
theorem getLast?_segments_temporaryPath (path : String) (disk : Disk) :
    (Path.segments (temporaryPath path disk)).getLast? = some (temporaryName path disk) ∧
    (Path.segments path).getLast? ≠ some (temporaryName path disk) := by
  obtain ⟨init, hSegments, -⟩ :=
    Path.exists_segments_withFileName path (isName_temporaryName path disk)
  rw [temporaryPath_eq, hSegments]
  refine ⟨List.getLast?_concat, fun hLast => ?_⟩
  have hName := Path.fileName_of_getLast?_segments hLast (temporaryName_ne (by decide))
    (temporaryName_ne (by decide))
  -- the name of the temporary file is longer than that of the file
  have hSame : temporaryName path disk = temporaryName path disk ++ temporaryEnd disk := by
    conv_lhs => rw [temporaryName, hName, Option.getD_some]
  have hLength := congrArg String.length hSame
  rw [String.length_append] at hLength
  have hEnd := five_le_length_temporaryEnd disk
  omega

/-- It has a name of its own if there is no file in the tree that has this name. -/
theorem TemporaryFree.of_forall (h : ∀ above contents,
    disk.tree.get (above ++ [temporaryName path disk]) ≠ some (.file contents)) :
    TemporaryFree path disk := by
  intro contents hRead
  obtain ⟨found, hLocate, hFile⟩ := read_eq_ok.mp hRead
  obtain ⟨above, rfl⟩ := exists_eq_concat_of_locate (getLast?_segments_temporaryPath path disk).1
    (temporaryName_ne (by decide)) (temporaryName_ne (by decide)) hLocate
  exact h above contents ((makeParent_extends disk.tree path).get_eq_file_iff.mp hFile)

/-- **Where a file is written whose name is free nothing stood**, and the file is found there. -/
theorem exists_place_of_write (hFree : ∀ held, tree.read temporary ≠ .ok held)
    (hWrite : tree.write temporary contents = .ok written) :
    ∃ above short, tree.parentOf temporary = .ok (above, some short) ∧
      tree.get (above ++ [short]) = none ∧ written.locate temporary = .ok (above ++ [short]) ∧
      written = tree.set (above ++ [short]) (.file contents) := by
  obtain ⟨above, short, hParent, hSlash, hLength, hPlace, hWritten⟩ := write_eq_ok hWrite
  have hNone : tree.get (above ++ [short]) = none := by
    cases hGet : tree.get (above ++ [short]) with
    | none => rfl
    | some node =>
      cases node with
      | directory => exact absurd hGet hPlace
      | file held =>
        have hLocate := locate_of_parentOf hParent hLength (.refl tree)
          (by rw [hGet]; exact Option.some_ne_none _) (by rw [hSlash]; nofun)
        exact absurd (read_eq_ok.mpr ⟨_, hLocate, hGet⟩) (hFree held)
  refine ⟨above, short, hParent, hNone, ?_, hWritten⟩
  have hFile : written.get (above ++ [short]) = some (.file contents) := by
    rw [hWritten, get_set_concat]
  refine locate_of_parentOf hParent hLength ?_ (by rw [hFile]; exact Option.some_ne_none _)
    (by rw [hSlash]; nofun)
  rw [hWritten]
  exact .set hPlace _

/-! ### Replacing a file -/

/-- What was written where nothing stood is removed without a trace. -/
theorem get_of_write_removeFile (hFree : ∀ held, tree.read temporary ≠ .ok held)
    (hWrite : tree.write temporary contents = .ok written) :
    (written.removeFile temporary).workingDirectory = tree.workingDirectory ∧
      ∀ place, (written.removeFile temporary).get place = tree.get place := by
  obtain ⟨above, short, -, hNone, hLocate, hWritten⟩ := exists_place_of_write hFree hWrite
  have hFile : written.get (above ++ [short]) = some (.file contents) := by
    rw [hWritten, get_set_concat]
  rw [removeFile_of_file hLocate hFile, hWritten]
  refine ⟨rfl, fun place => ?_⟩
  by_cases hPlace : place = above ++ [short]
  · rw [hPlace, get_erase_self _ (List.concat_ne_nil _ _), hNone]
  · rw [get_erase_of_ne _ hPlace, get_set_of_ne _ _ hPlace]

/-- **A file that is not replaced leaves no trace**, even if a part of the new one was written. -/
theorem get_of_replace_error {error : FileError} (hFree : ∀ held, tree.read temporary ≠ .ok held)
    (h : replace tree temporary path contents room = (.error error, moved)) :
    moved.workingDirectory = tree.workingDirectory ∧ ∀ place, moved.get place = tree.get place := by
  obtain ⟨written, rfl | ⟨fitting, hWrite⟩, rfl⟩ := replace_error h
  · -- nothing was written, so there is nothing to remove
    rcases removeFile_eq written temporary with hSame | ⟨found, held, hLocate, hFile, -⟩
    · rw [hSame]
      exact ⟨rfl, fun _ => rfl⟩
    · exact absurd (read_eq_ok.mpr ⟨found, hLocate, hFile⟩) (hFree held)
  · exact get_of_write_removeFile hFree hWrite

/-- **A file that is replaced is all that is new.** -/
theorem get_of_replace_ok (hFree : ∀ held, tree.read temporary ≠ .ok held)
    (hNames : (Path.segments temporary).getLast? ≠ (Path.segments path).getLast?)
    (h : replace tree temporary path contents room = (.ok (), moved)) :
    moved.KeepsDirectories tree ∧ (∀ held, moved.read temporary ≠ .ok held) ∧
    ∃ place, moved.locate path = .ok place ∧
      ∀ other, moved.get other
        = if other = place then some (.file contents) else tree.get other := by
  obtain ⟨written, hWrite, hMove⟩ := replace_ok h
  obtain ⟨above, short, directory, name, hTemporary, hParent, hKeeps, hLocate, hGet⟩ :=
    exists_get_of_write_moveFile hWrite hMove
  obtain ⟨above', short', hTemporary', hNone, -, -⟩ := exists_place_of_write hFree hWrite
  obtain ⟨rfl, hShort⟩ := Prod.mk.inj (Except.ok.inj (hTemporary.symm.trans hTemporary'))
  obtain rfl := Option.some.inj hShort
  refine ⟨hKeeps, fun held hRead => ?_, _, hLocate, fun other => ?_⟩
  · obtain ⟨found, hFound, hFile⟩ := read_eq_ok.mp hRead
    obtain rfl := eq_of_locate_of_parentOf hTemporary hKeeps hFound
    rw [hGet, if_pos rfl] at hFile
    split at hFile
    · next hSame =>
      -- the two places have different names
      obtain ⟨-, hLast⟩ := List.append_inj' hSame rfl
      refine hNames ?_
      obtain ⟨-, -, -, hEnd⟩ := parentOf_eq_ok hTemporary
      obtain ⟨-, -, -, hEnd'⟩ := parentOf_eq_ok hParent
      rw [(Option.filter_eq_some_iff.mp hEnd.symm).1, (Option.filter_eq_some_iff.mp hEnd'.symm).1]
      exact congrArg some (List.singleton_inj.mp hLast)
    · cases hFile
  · rw [hGet]
    split
    · rfl
    split
    · next hHere => rw [hHere, hNone]
    · rfl

/-! ### Saving -/

/-- **A save happens as a whole or not at all.** If it succeeds, the path leads to a file with the
text of the record. All else is as it was, but for directories on the way to the file that were
missing; if the save fails, also for want of room, there is no more to it than that. No temporary file
is left in either case. -/
theorem save_atomic {result : Except Failure Unit} (hFree : TemporaryFree path disk)
    (h : save path record disk room = (result, after)) :
    (result = .ok () →
      ∃ place, after.tree.locate path = .ok place ∧
        after.tree.get place = some (.file (utf8 record.toJson.pretty)) ∧
        ∀ other, other ≠ place → KeepsOrMakes path after.tree disk.tree other) ∧
    (∀ failure, result = .error failure →
      ∀ place, KeepsOrMakes path after.tree disk.tree place) ∧
    ∀ contents, after.tree.read (temporaryPath path disk) ≠ .ok contents := by
  have hMakes := makeParent_keepsOrMakes disk.tree path
  obtain ⟨error, hMade, rfl⟩ | ⟨tree, replaced, hMade, hReplaced, rfl⟩ := save_eq h
  · unfold TemporaryFree at hFree
    rw [hMade] at hFree hMakes
    exact ⟨nofun, fun _ _ => hMakes, hFree⟩
  unfold TemporaryFree at hFree
  rw [hMade] at hFree hMakes
  cases replaced with
  | error error =>
    obtain ⟨hWorking, hGet⟩ := get_of_replace_error hFree hReplaced
    have hKeeps : after.tree.KeepsDirectories tree :=
      ⟨hWorking, fun place hPlace => (hGet place).trans hPlace⟩
    refine ⟨nofun, fun _ _ place => (hMakes place).of_get_eq hKeeps (hGet place), ?_⟩
    intro contents
    rw [read_congr hWorking hGet]
    exact hFree contents
  | ok done =>
    obtain ⟨hLast, hNot⟩ := getLast?_segments_temporaryPath path disk
    obtain ⟨hKeeps, hGone, place, hLocate, hGet⟩ :=
      get_of_replace_ok hFree (by rw [hLast]; exact hNot.symm) hReplaced
    refine ⟨fun _ => ⟨place, hLocate, by rw [hGet, if_pos rfl], fun other hOther => ?_⟩, nofun,
      hGone⟩
    exact (hMakes other).of_get_eq hKeeps (by rw [hGet, if_neg hOther])

/-- A save into a directory that is missing, one that fails because there is a directory in the place of
the file, and one that fails because there is room for one byte alone. -/
theorem save_atomic_nested :
    ∃ (disk after failed full : Disk) (record : CredentialRecord) (failure : Failure),
      TemporaryFree "new/record.json" disk ∧ TemporaryFree "notes" disk ∧
      save "new/record.json" record disk = (.ok (), after) ∧
      save "notes" record disk = (.error failure, failed) ∧
      save "new/record.json" record disk (some 1) = (.error (.file .noSpace), full) ∧
      (∃ place, after.tree.locate "new/record.json" = .ok place ∧
        after.tree.get place = some (.file (utf8 record.toJson.pretty)) ∧
        ∀ other, other ≠ place → KeepsOrMakes "new/record.json" after.tree disk.tree other) ∧
      (∀ place, KeepsOrMakes "notes" failed.tree disk.tree place) ∧
      ∀ place, KeepsOrMakes "new/record.json" full.tree disk.tree place := by
  obtain ⟨record, hRecord⟩ : ∃ record : CredentialRecord,
      record = CredentialRecord.empty.put "key" "v" :=
    ⟨_, rfl⟩
  obtain ⟨disk, hDisk⟩ : ∃ disk : Disk,
      disk = ⟨⟨[(["notes"], .directory), (["notes", "a"], .file [65])], []⟩, 0, 0⟩ := ⟨_, rfl⟩
  have hFree (path : String) : TemporaryFree path disk := by
    refine .of_forall fun above contents hFile => ?_
    rw [FileTree.get, if_neg (List.concat_ne_nil _ _)] at hFile
    obtain ⟨before, behind, hNodes, -⟩ := List.lookup_eq_some_iff.mp hFile
    have hMem : (above ++ [temporaryName path disk], Node.file contents) ∈ disk.tree.nodes := by
      rw [hNodes]
      exact List.mem_append_right _ List.mem_cons_self
    rw [hDisk] at hMem
    rcases List.mem_cons.mp hMem with hNode | hMem
    · cases (Prod.mk.inj hNode).2
    · obtain ⟨hPlace, -⟩ := Prod.mk.inj (List.mem_singleton.mp hMem)
      have hLast := congrArg List.getLast? hPlace
      rw [List.getLast?_concat] at hLast
      exact temporaryName_ne (by decide) (Option.some.inj hLast)
  obtain ⟨after, hSaved⟩ : ∃ after, save "new/record.json" record disk = (.ok (), after) := by
    rw [hRecord, hDisk]
    exact ⟨_, rfl⟩
  obtain ⟨failure, failed, hFailed⟩ :
      ∃ failure failed, save "notes" record disk = (.error failure, failed) := by
    rw [hRecord, hDisk]
    exact ⟨_, _, rfl⟩
  obtain ⟨full, hFull⟩ : ∃ full,
      save "new/record.json" record disk (some 1) = (.error (.file .noSpace), full) := by
    rw [hRecord, hDisk]
    exact ⟨_, rfl⟩
  have hNew : TemporaryFree "new/record.json" disk := hFree _
  have hNotes : TemporaryFree "notes" disk := hFree _
  exact ⟨disk, after, failed, full, record, failure, hNew, hNotes, hSaved, hFailed, hFull,
    (save_atomic hNew hSaved).1 rfl, (save_atomic hNotes hFailed).2.1 failure rfl,
    (save_atomic hNew hFull).2.1 _ rfl⟩

/-! ### The file of the record, whatever stands in its way -/

/-- **Whether the file that a path leads to is kept.** -/
structure KeepsFile (path : String) (after tree : FileTree) : Prop where
  workingDirectory : after.workingDirectory = tree.workingDirectory
  /-- What could be read can still be read. -/
  read : ∀ contents, tree.read path = .ok contents → after.read path = .ok contents
  /-- What could not be read still cannot, if the directory of the path was there or the path does not
  go up. -/
  unread : (∃ parent, tree.parentOf path = .ok parent) ∨ ".." ∉ Path.segments path →
    ∀ contents, after.read path = .ok contents → tree.read path = .ok contents
  /-- A file that the path leads to now stood there before. -/
  file : ∀ place contents, after.locate path = .ok place →
    after.get place = some (.file contents) → tree.get place = some (.file contents)

theorem KeepsFile.refl (path : String) (tree : FileTree) : KeepsFile path tree tree :=
  ⟨rfl, fun _ => id, fun _ _ => id, fun _ _ _ => id⟩

/-- Where a file stands that was there before, a path can lead that could not before only by going up
through a directory that was missing. -/
theorem read_of_read_after (hTree : tree.WellFormed) (hAfter : moved.WellFormed)
    (hKeeps : moved.KeepsDirectories tree)
    (hFile : ∀ place, moved.locate path = .ok place →
      moved.get place = some (.file contents) → tree.get place = some (.file contents))
    (hWay : (∃ parent, tree.parentOf path = .ok parent) ∨ ".." ∉ Path.segments path)
    (hRead : moved.read path = .ok contents) : tree.read path = .ok contents := by
  obtain ⟨place, hLocate, hHeld⟩ := FileTree.read_eq_ok.mp hRead
  have hBefore := hFile place hLocate hHeld
  obtain ⟨parent, hParent⟩ | hUp := hWay
  · have hFound := locate_of_parentOf_of_file hAfter hKeeps hParent hLocate hHeld hBefore
    exact FileTree.read_eq_ok.mpr ⟨place, hFound, hBefore⟩
  · obtain ⟨rfl, -⟩ := eq_of_locate hUp hLocate
    obtain ⟨hCan, -⟩ := (hAfter.read_eq_ok_iff hUp).mp hRead
    rw [placeOf_congr hKeeps.workingDirectory] at hBefore
    exact (hTree.read_eq_ok_iff hUp).mpr ⟨hCan, hBefore⟩

/-- **Whether a tree differs from another one in files of a name alone.** -/
structure SameButNamed (name : String) (after tree : FileTree) : Prop where
  wellFormed : tree.WellFormed → after.WellFormed
  directories : after.KeepsDirectories tree
  get : ∀ above other, other ≠ name → after.get (above ++ [other]) = tree.get (above ++ [other])

namespace SameButNamed

variable {name : String}

theorem trans {first last : FileTree} (hLast : SameButNamed name last moved)
    (h : SameButNamed name moved first) : SameButNamed name last first where
  wellFormed := hLast.wellFormed ∘ h.wellFormed
  directories := hLast.directories.trans h.directories
  get := fun above other hOther => (hLast.get above other hOther).trans (h.get above other hOther)

theorem write (hLast : (Path.segments temporary).getLast? = some name)
    (h : tree.write temporary contents = .ok written) : SameButNamed name written tree := by
  obtain ⟨above, short, hParent, -, -, hPlace, rfl⟩ := write_eq_ok h
  obtain ⟨-, -, hDirectory, hShort⟩ := parentOf_eq_ok hParent
  have hName : short = name := by
    rw [hLast] at hShort
    exact Option.some.inj (Option.filter_eq_some_iff.mp hShort.symm).1 |>.symm
  subst hName
  refine ⟨fun hTree => hTree.set hDirectory hPlace _, .set hPlace _, fun spot other hOther => ?_⟩
  refine get_set_of_ne _ _ fun hSame => hOther ?_
  exact List.singleton_inj.mp (List.append_inj' hSame rfl).2

theorem removeFile (hLast : (Path.segments temporary).getLast? = some name) (hDot : name ≠ ".")
    (hUp : name ≠ "..") (tree : FileTree) : SameButNamed name (tree.removeFile temporary) tree := by
  rcases removeFile_eq tree temporary with hSame | ⟨found, held, hLocate, hFile, hErased⟩
  · rw [hSame]
    exact ⟨id, .refl tree, fun _ _ _ => rfl⟩
  · obtain ⟨above, rfl⟩ := exists_eq_concat_of_locate hLast hDot hUp hLocate
    have hPlace : tree.get (above ++ [name]) ≠ some .directory := by
      rw [hFile]
      nofun
    rw [hErased]
    refine ⟨fun hTree => hTree.erase hPlace, .erase hPlace, fun spot other hOther => ?_⟩
    refine get_erase_of_ne _ fun hSame => hOther ?_
    exact List.singleton_inj.mp (List.append_inj' hSame rfl).2

theorem replace {error : FileError} (hLast : (Path.segments temporary).getLast? = some name)
    (hDot : name ≠ ".") (hUp : name ≠ "..")
    (h : FileStore.replace tree temporary path contents room = (.error error, moved)) :
    SameButNamed name moved tree := by
  obtain ⟨written, rfl | ⟨fitting, hWrite⟩, rfl⟩ := replace_error h
  · exact removeFile hLast hDot hUp written
  · exact (removeFile hLast hDot hUp written).trans (write hLast hWrite)

end SameButNamed

/-- **A save that fails keeps the file of the record**, even where the temporary file was written
over another one. -/
theorem keepsFile_of_save_error {failure : Failure} (hTree : disk.tree.WellFormed)
    (h : save path record disk room = (.error failure, after)) :
    after.tree.WellFormed ∧ KeepsFile path after.tree disk.tree := by
  obtain ⟨hLast, hNot⟩ := getLast?_segments_temporaryPath path disk
  have hExtends := makeParent_extends disk.tree path
  obtain ⟨made, hMade, hSame⟩ : ∃ made, (makeParent disk.tree path).2 = made ∧
      SameButNamed (temporaryName path disk) after.tree made := by
    obtain ⟨error, hMade, -⟩ | ⟨made, replaced, hMade, hReplaced, hFailed⟩ := save_eq h
    · exact ⟨after.tree, by rw [hMade], id, .refl _, fun _ _ _ => rfl⟩
    · cases replaced with
      | ok done => cases hFailed
      | error error =>
        exact ⟨made, by rw [hMade],
          .replace hLast (temporaryName_ne (by decide)) (temporaryName_ne (by decide)) hReplaced⟩
  rw [hMade] at hExtends
  have hAfter := hSame.wellFormed (hExtends.wellFormed hTree)
  have hKeeps := hSame.directories.trans hExtends.keepsDirectories
  have hStood (contents : Bytes) (place : Location) (hLocate : after.tree.locate path = .ok place)
      (hFile : after.tree.get place = some (.file contents)) :
      disk.tree.get place = some (.file contents) := by
    obtain ⟨above, name, rfl, hName, -⟩ := hAfter.exists_name_of_file hLocate hFile
    have hOther : name ≠ temporaryName path disk := by
      rintro rfl
      exact hNot hName
    rw [hSame.get above name hOther] at hFile
    exact hExtends.get_eq_file_iff.mp hFile
  refine ⟨hAfter, hKeeps.workingDirectory, fun contents hRead => ?_, fun hWay contents => ?_,
    fun place contents => hStood contents place⟩
  · obtain ⟨place, hLocate, hFile⟩ := FileTree.read_eq_ok.mp hRead
    obtain ⟨above, name, rfl, hName, -⟩ := hTree.exists_name_of_file hLocate hFile
    have hOther : name ≠ temporaryName path disk := by
      rintro rfl
      exact hNot hName
    have hThere : after.tree.get (above ++ [name]) = some (.file contents) := by
      rw [hSame.get above name hOther, hExtends.get_eq_file_iff, hFile]
    have hFound := hKeeps.locate_eq_ok hLocate (by rw [hThere]; exact Option.some_ne_none _)
    exact FileTree.read_eq_ok.mpr ⟨_, hFound, hThere⟩
  · exact read_of_read_after hTree hAfter hKeeps (hStood contents) hWay

end FileStore

end CredentialLease
