import CredentialLease.Proofs.FileTree.Directories
import CredentialLease.Proofs.Record.FileKeeping

/-!
# What is saved in a file is loaded from it

A save that succeeds has put a file where its path leads. It takes no directory away, so the path
leads there afterwards as well. This holds for every path, also for one that goes up through a
directory that the save itself makes, and for every tree.

Main statement: `FileStore.load_of_save`.
-/

namespace CredentialLease

namespace FileTree

variable {tree written moved : FileTree} {path temporary : String} {contents : Bytes}

/-- **What writing a file and moving it comes to**: the file stands where the path leads, nothing is
left where it was written, and all else stands as it did. -/
theorem exists_get_of_write_moveFile (hWrite : tree.write temporary contents = .ok written)
    (hMove : written.moveFile temporary path = .ok moved) :
    ∃ above short directory name,
      tree.parentOf temporary = .ok (above, some short) ∧
      written.parentOf path = .ok (directory, some name) ∧
      moved.KeepsDirectories tree ∧ moved.locate path = .ok (directory ++ [name]) ∧
      ∀ other, moved.get other
        = if other = directory ++ [name] then some (.file contents)
          else if other = above ++ [short] then none else tree.get other := by
  obtain ⟨above, short, hTemporary, hSlash, hLength, hFree, hWritten⟩ := write_eq_ok hWrite
  obtain ⟨source, held, directory, name, hSource, hHeld, hParent, hSlash', hLength', hFree',
    hMoved⟩ := moveFile_eq_ok hMove
  have hFile : written.get (above ++ [short]) = some (.file contents) := by
    rw [hWritten, get_set_concat]
  have hKeeps : written.KeepsDirectories tree := by
    rw [hWritten]
    exact .set hFree _
  -- the temporary file is found where it was put, so it is the one that is moved
  have hLocate := locate_of_parentOf hTemporary hLength hKeeps
    (by rw [hFile]; exact Option.some_ne_none _) (by rw [hSlash]; nofun)
  obtain rfl := Except.ok.inj (hLocate.symm.trans hSource)
  obtain rfl := Node.file.inj (Option.some.inj (hFile.symm.trans hHeld))
  have hErased : (written.erase (above ++ [short])).KeepsDirectories written := by
    refine .erase ?_
    rw [hFile]
    nofun
  have hKeeps' : moved.KeepsDirectories written := by
    rw [hMoved]
    exact .trans (.set (fun h => hFree' (get_of_get_erase h)) _) hErased
  have hFile' : moved.get (directory ++ [name]) = some (.file contents) := by
    rw [hMoved, get_set_concat]
  refine ⟨above, short, directory, name, hTemporary, hParent, hKeeps'.trans hKeeps, ?_, ?_⟩
  · exact locate_of_parentOf hParent hLength' hKeeps'
      (by rw [hFile']; exact Option.some_ne_none _) (by rw [hSlash']; nofun)
  · intro other
    split
    · next hHere => rw [hHere, hFile']
    · next hOther =>
      rw [hMoved, get_set_of_ne _ _ hOther]
      split
      · next hAside => rw [hAside, get_erase_self _ (List.concat_ne_nil _ _)]
      · next hElse => rw [get_erase_of_ne _ hElse, hWritten, get_set_of_ne _ _ hElse]

/-- What is written and then moved is read under its new path. -/
theorem read_of_write_moveFile (hWrite : tree.write temporary contents = .ok written)
    (hMove : written.moveFile temporary path = .ok moved) : moved.read path = .ok contents := by
  obtain ⟨_, _, directory, name, -, -, -, hLocate, hGet⟩ :=
    exists_get_of_write_moveFile hWrite hMove
  exact read_eq_ok.mpr ⟨_, hLocate, by rw [hGet, if_pos rfl]⟩

end FileTree

/-! ### Saving and loading -/

namespace FileStore

variable {path : String} {record : CredentialRecord} {disk after : Disk} {room : Option Nat}

/-- **A record that was saved is what is loaded next**, whatever the record and the path, and
whatever stood in the file. -/
theorem load_of_save (h : save path record disk room = (.ok (), after)) :
    load path after = .ok record := by
  have hRead : after.tree.read path = .ok (utf8 record.toJson.pretty) := by
    obtain ⟨error, -, hFailed⟩ | ⟨tree, replaced, -, hReplaced, hDone⟩ := save_eq h
    · cases hFailed
    cases replaced with
    | error error => cases hDone
    | ok done =>
      obtain ⟨written, hWrite, hMove⟩ := replace_ok hReplaced
      exact FileTree.read_of_write_moveFile hWrite hMove
  rw [load, hRead]
  dsimp only
  rw [ofUtf8_utf8]
  exact parse_pretty path record

end FileStore

end CredentialLease
