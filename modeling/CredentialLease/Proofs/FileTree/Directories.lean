import CredentialLease.Proofs.FileTree.Places

/-!
# Directories that are kept and made

A walk passes through directories alone until its end. So it is the same wherever these are kept
(`KeepsDirectories.walk_eq_ok`), also when it goes up on its way, and a path leads to what was put
there by its means (`locate_of_parentOf`).

When directories are made, each of those that are new is where one of their paths leads
(`makeDirectories_made`).
-/

namespace CredentialLease

namespace FileTree

variable {tree after : FileTree} {path temporary : String} {segments : List String}
  {start found : Location} {contents : Bytes}

/-! ### Trees with the same directories -/

/-- **Whether all directories of a tree are kept**, and relative paths begin where they did. -/
structure KeepsDirectories (after tree : FileTree) : Prop where
  workingDirectory : after.workingDirectory = tree.workingDirectory
  get : ∀ place, tree.get place = some .directory → after.get place = some .directory

namespace KeepsDirectories

theorem refl (tree : FileTree) : tree.KeepsDirectories tree := ⟨rfl, fun _ => id⟩

theorem trans {first last : FileTree} (hLast : last.KeepsDirectories after)
    (h : after.KeepsDirectories first) : last.KeepsDirectories first where
  workingDirectory := hLast.workingDirectory.trans h.workingDirectory
  get := fun place hPlace => hLast.get place (h.get place hPlace)

/-- A file may be put where there is no directory. -/
theorem set (hFree : tree.get found ≠ some .directory) (node : Node) :
    (tree.set found node).KeepsDirectories tree where
  workingDirectory := rfl
  get := fun _ => get_set_of_directory hFree

/-- What is not a directory may be removed. -/
theorem erase (hFree : tree.get found ≠ some .directory) :
    (tree.erase found).KeepsDirectories tree where
  workingDirectory := rfl
  get := fun _ => get_erase_of_directory hFree

end KeepsDirectories

/-! ### Walks among directories -/

/-- A walk that goes anywhere begins in a directory. -/
theorem directory_of_walk {segment : String} {rest : List String}
    (h : tree.walk start (segment :: rest) = .ok found) : tree.get start = some .directory := by
  rw [walk] at h
  by_contra hStart
  rw [if_pos hStart] at h
  cases h

/-- **A walk is the same wherever all directories are kept**, if there is something at its end. -/
theorem KeepsDirectories.walk_eq_ok (hKeeps : after.KeepsDirectories tree)
    (h : tree.walk start segments = .ok found) (hFound : after.get found ≠ none) :
    after.walk start segments = .ok found := by
  induction segments generalizing start with
  | nil => exact h
  | cons segment rest ih =>
    have hStart := directory_of_walk h
    rw [walk, if_neg (not_not.mpr hStart)] at h
    rw [walk, if_neg (not_not.mpr (hKeeps.get start hStart))]
    by_cases hDot : segment = "."
    · rw [if_pos hDot] at h ⊢
      exact ih h
    rw [if_neg hDot] at h ⊢
    by_cases hUp : segment = ".."
    · rw [if_pos hUp] at h ⊢
      exact ih h
    rw [if_neg hUp] at h ⊢
    by_cases hLong : maxNameLength < (utf8 segment).length
    · rw [if_pos hLong] at h
      cases h
    rw [if_neg hLong] at h ⊢
    by_cases hNone : tree.get (start ++ [segment]) = none
    · rw [if_pos hNone] at h
      cases h
    rw [if_neg hNone] at h
    -- the walk goes on from a directory, unless this is its end
    have hNext : after.get (start ++ [segment]) ≠ none := by
      cases rest with
      | nil =>
        obtain rfl := Except.ok.inj h
        exact hFound
      | cons next more =>
        rw [hKeeps.get _ (directory_of_walk h)]
        exact Option.some_ne_none _
    rw [if_neg hNext]
    exact ih h

/-- What a path leads to it leads to as long as the directories are kept, and there is something. -/
theorem KeepsDirectories.locate_eq_ok (hKeeps : after.KeepsDirectories tree)
    (h : tree.locate path = .ok found) (hFound : after.get found ≠ none) :
    after.locate path = .ok found := by
  have hOrigin : after.origin path = tree.origin path := by
    rw [origin, origin, hKeeps.workingDirectory]
  obtain ⟨hChecked, hWalk⟩ := locate_eq_ok_iff.mp h
  rw [← hOrigin] at hWalk
  exact locate_eq_ok_iff.mpr ⟨hChecked, hKeeps.walk_eq_ok hWalk hFound⟩

/-- The directory in which a path puts something is found as long as directories are kept, by all of
the path but the name. -/
theorem KeepsDirectories.exists_walk_of_parentOf {directory : Location} {name : String}
    (hKeeps : after.KeepsDirectories tree)
    (h : tree.parentOf path = .ok (directory, some name)) :
    ∃ init, Path.segments path = init ++ [name] ∧ name ≠ "." ∧ name ≠ ".." ∧
      after.get directory = some .directory ∧
      after.walk (after.origin path) init = .ok directory := by
  obtain ⟨-, hWalk, hDirectory, hName⟩ := parentOf_eq_ok h
  obtain ⟨hLast, hKept⟩ := Option.filter_eq_some_iff.mp hName.symm
  obtain ⟨hDot, hUp⟩ := of_decide_eq_true hKept
  obtain ⟨init, hInit⟩ := List.getLast?_eq_some_iff.mp hLast
  have hOrigin : after.origin path = tree.origin path := by
    rw [origin, origin, hKeeps.workingDirectory]
  have hThere := hKeeps.get _ hDirectory
  rw [hInit, List.dropLast_concat] at hWalk
  refine ⟨init, hInit, hDot, hUp, hThere, ?_⟩
  rw [hOrigin]
  exact hKeeps.walk_eq_ok hWalk (by rw [hThere]; exact Option.some_ne_none _)

/-- **A path leads to what it has put somewhere**, as long as the directories are kept. A slash at
its end asks for a directory. -/
theorem locate_of_parentOf {directory : Location} {name : String}
    (h : tree.parentOf path = .ok (directory, some name))
    (hLength : (utf8 name).length ≤ maxNameLength) (hKeeps : after.KeepsDirectories tree)
    (hSome : after.get (directory ++ [name]) ≠ none)
    (hSlash : Path.endsInSlash path = true → after.get (directory ++ [name]) = some .directory) :
    after.locate path = .ok (directory ++ [name]) := by
  obtain ⟨hChecked, -⟩ := parentOf_eq_ok h
  obtain ⟨init, hInit, hDot, hUp, hThere, hAbove⟩ := hKeeps.exists_walk_of_parentOf h
  have hName : after.walk (after.origin path) (init ++ [name]) = .ok (directory ++ [name]) := by
    rw [walk_append, hAbove]
    exact (walk_cons hUp).mpr ⟨hThere, .inr ⟨hDot, hLength, hSome, rfl⟩⟩
  rw [locate_eq_ok_iff, hInit, walk_append, hName]
  refine ⟨hChecked, ?_⟩
  show after.walk (directory ++ [name]) _ = .ok _
  split
  · next hEnd => exact (walk_cons (by decide)).mpr ⟨hSlash hEnd, .inl ⟨rfl, rfl⟩⟩
  · rfl

/-- Behind the last name of a path there is at most a slash, which leads nowhere else. -/
theorem eq_of_walk_name {above : Location} {name : String} (hDot : name ≠ ".") (hUp : name ≠ "..")
    (h : tree.walk above (name :: if Path.endsInSlash path then ["."] else []) = .ok found) :
    found = above ++ [name] := by
  obtain ⟨-, ⟨hSame, -⟩ | ⟨-, -, -, hRest⟩⟩ := (walk_cons hUp).mp h
  · exact absurd hSame hDot
  split at hRest
  · obtain ⟨-, ⟨-, hEnd⟩ | ⟨hNot, -⟩⟩ := (walk_cons (by decide)).mp hRest
    · exact (Except.ok.inj hEnd).symm
    · exact absurd rfl hNot
  · exact (Except.ok.inj hRest).symm

/-- It leads to nothing else. -/
theorem eq_of_locate_of_parentOf {directory : Location} {name : String}
    (h : tree.parentOf path = .ok (directory, some name)) (hKeeps : after.KeepsDirectories tree)
    (hFound : after.locate path = .ok found) : found = directory ++ [name] := by
  obtain ⟨init, hInit, hDot, hUp, -, hAbove⟩ := hKeeps.exists_walk_of_parentOf h
  obtain ⟨-, hWhole⟩ := locate_eq_ok_iff.mp hFound
  rw [hInit, List.append_assoc, walk_append, hAbove] at hWhole
  exact eq_of_walk_name hDot hUp hWhole

/-- What a path leads to that ends in a name has this name. -/
theorem exists_eq_concat_of_locate {name : String}
    (hLast : (Path.segments path).getLast? = some name) (hDot : name ≠ ".") (hUp : name ≠ "..")
    (h : tree.locate path = .ok found) : ∃ above, found = above ++ [name] := by
  obtain ⟨init, hInit⟩ := List.getLast?_eq_some_iff.mp hLast
  obtain ⟨-, hWalk⟩ := locate_eq_ok_iff.mp h
  rw [hInit, List.append_assoc, walk_append] at hWalk
  cases hAbove : tree.walk (tree.origin path) init with
  | error error =>
    rw [hAbove] at hWalk
    cases hWalk
  | ok above =>
    rw [hAbove] at hWalk
    exact ⟨above, eq_of_walk_name hDot hUp hWalk⟩

/-- **A path that leads to a file ends in its name**, and in no slash. -/
theorem WellFormed.exists_name_of_file (hTree : tree.WellFormed) (h : tree.locate path = .ok found)
    (hFile : tree.get found = some (.file contents)) :
    ∃ above name, found = above ++ [name] ∧ (Path.segments path).getLast? = some name ∧
      name ≠ "." ∧ name ≠ ".." ∧ Path.endsInSlash path = false := by
  have hNot : tree.get found ≠ some .directory := by
    rw [hFile]
    nofun
  obtain ⟨-, hWalk⟩ := locate_eq_ok_iff.mp h
  have hSlash : Path.endsInSlash path = false := by
    rw [Bool.eq_false_iff]
    intro hSlash
    rw [if_pos hSlash] at hWalk
    exact hNot (get_of_walk_concat hWalk).2
  rw [hSlash, if_neg Bool.false_ne_true, List.append_nil] at hWalk
  rcases List.eq_nil_or_concat (Path.segments path) with hNil | ⟨init, name, hConcat⟩
  · rw [hNil] at hWalk
    obtain rfl := Except.ok.inj hWalk
    exact absurd (hTree.origin path) hNot
  rw [List.concat_eq_append] at hConcat
  have hLast : (Path.segments path).getLast? = some name := by
    rw [hConcat, List.getLast?_concat]
  -- a path that ends in a dot or in two leads to a directory
  have hDot : name ≠ "." := by
    rintro rfl
    rw [hConcat] at hWalk
    exact hNot (get_of_walk_concat hWalk).2
  have hUp : name ≠ ".." := by
    rintro rfl
    rw [hConcat, walk_append] at hWalk
    cases hAbove : tree.walk (tree.origin path) init with
    | error error =>
      rw [hAbove] at hWalk
      cases hWalk
    | ok above =>
      rw [hAbove] at hWalk
      replace hWalk : tree.walk above [".."] = .ok found := hWalk
      have hDirectory := directory_of_walk hWalk
      rw [walk, if_neg (not_not.mpr hDirectory), if_neg (by decide), if_pos rfl] at hWalk
      obtain rfl := Except.ok.inj hWalk
      rcases List.eq_nil_or_concat above with rfl | ⟨up, last, rfl⟩
      · exact hNot rfl
      · rw [List.concat_eq_append] at hDirectory hNot
        rw [List.dropLast_concat] at hNot
        refine hNot (hTree.parent up last ?_)
        rw [hDirectory]
        exact Option.some_ne_none _
  obtain ⟨above, hFound⟩ := exists_eq_concat_of_locate hLast hDot hUp h
  exact ⟨above, name, hFound, hLast, hDot, hUp, hSlash⟩

/-- **What a path comes to lead to it has led to before**, if the directory that it is in was there. -/
theorem locate_of_parentOf_of_file {parent : Location × Option String} (hAfter : after.WellFormed)
    (hKeeps : after.KeepsDirectories tree) (hParent : tree.parentOf path = .ok parent)
    (hFound : after.locate path = .ok found) (hFile : after.get found = some (.file contents))
    (hThere : tree.get found = some (.file contents)) : tree.locate path = .ok found := by
  obtain ⟨above, name, -, hLast, hDot, hUp, hSlash⟩ := hAfter.exists_name_of_file hFound hFile
  obtain ⟨directory, short⟩ := parent
  obtain rfl : short = some name := by
    rw [(parentOf_eq_ok hParent).2.2.2, hLast]
    exact Option.filter_some_pos (decide_eq_true ⟨hDot, hUp⟩)
  obtain rfl := eq_of_locate_of_parentOf hParent hKeeps hFound
  -- the walk through the new tree tells that the name is not too long
  obtain ⟨init, hInit, -, -, -, hAbove⟩ := hKeeps.exists_walk_of_parentOf hParent
  obtain ⟨-, hWhole⟩ := locate_eq_ok_iff.mp hFound
  rw [hInit, List.append_assoc, walk_append, hAbove] at hWhole
  obtain ⟨-, ⟨hSame, -⟩ | ⟨-, hLength, -⟩⟩ := (walk_cons hUp).mp hWhole
  · exact absurd hSame hDot
  refine locate_of_parentOf hParent hLength (.refl tree) ?_ (by rw [hSlash]; nofun)
  rw [hThere]
  exact Option.some_ne_none _

/-! ### Directories that are made -/

theorem Extends.keepsDirectories (h : after.Extends tree) : after.KeepsDirectories tree where
  workingDirectory := h.workingDirectory
  get := by
    intro place hPlace
    rcases h.get place with hSame | ⟨hNone, -⟩
    · rw [hSame, hPlace]
    · rw [hPlace] at hNone
      cases hNone

/-- A directory that is made is where its path leads. -/
theorem ensureDirectory_made {place : Location} (hNone : tree.get place = none)
    (hMade : (tree.ensureDirectory path).2.get place ≠ none) :
    (tree.ensureDirectory path).2.locate path = .ok place := by
  unfold ensureDirectory at hMade ⊢
  cases hResult : tree.makeDirectory path with
  | error error =>
    rw [hResult] at hMade
    exact absurd hNone hMade
  | ok after =>
    rw [hResult] at hMade
    obtain ⟨directory, name, hParent, hLength, hFree, rfl⟩ := makeDirectory_eq_ok hResult
    have hNew : (tree.set (directory ++ [name]) .directory).get (directory ++ [name])
        = some .directory := get_set_concat ..
    have hPlace : place = directory ++ [name] := by
      by_contra hOther
      exact hMade ((get_set_of_ne _ _ hOther).trans hNone)
    rw [hPlace]
    refine locate_of_parentOf hParent hLength (.set ?_ _) ?_ fun _ => hNew
    · rw [hFree]
      nofun
    · rw [hNew]
      exact Option.some_ne_none _

/-- **Each directory that is new is at one of the paths.** -/
theorem makeDirectories_made (paths : List String) {place : Location} (hNone : tree.get place = none)
    (hMade : (FileTree.makeDirectories paths tree).2.get place ≠ none) :
    ∃ path ∈ paths, (FileTree.makeDirectories paths tree).2.locate path = .ok place := by
  induction paths generalizing tree with
  | nil => exact absurd hNone hMade
  | cons path above ih =>
    rw [makeDirectories_cons] at hMade ⊢
    split at hMade
    · split at hMade
      · next after hAbove =>
        have hStep := (Extends.ensureDirectory after path).keepsDirectories
        by_cases hBefore : after.get place = none
        -- the last directory is made
        · exact ⟨path, List.mem_cons_self, ensureDirectory_made hBefore hMade⟩
        -- those above it were made before
        · obtain ⟨top, hTop, hLocate⟩ := ih hNone (by rw [hAbove]; exact hBefore)
          rw [hAbove] at hLocate
          exact ⟨top, List.mem_cons_of_mem path hTop, hStep.locate_eq_ok hLocate hMade⟩
      · next failed hFailed =>
        obtain ⟨top, hTop, hLocate⟩ := ih hNone hMade
        exact ⟨top, List.mem_cons_of_mem path hTop, hLocate⟩
    · exact ⟨path, List.mem_cons_self, ensureDirectory_made hNone hMade⟩

end FileTree

end CredentialLease
