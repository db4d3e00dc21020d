import CredentialLease.FileTree.Basic
import Mathlib.Data.List.Induction

/-!
# Where paths lead

A tree is well formed when everything in it stands in a directory. In such a tree a path that never
goes up leads to a place that its names alone tell (`placeOf`), and whether the file there can be read
does not depend on anything else in the tree (`read_eq_ok_iff`).

Writing and removing a file change what stands at the place of its path and nothing else (`SameBut`).
Making directories only puts directories where nothing stood (`Extends`).
-/

namespace CredentialLease

namespace FileTree

variable {tree after : FileTree} {path : String} {segments : List String} {start found : Location}

/-- **Whether everything stands in a directory**, the working directory included. -/
structure WellFormed (tree : FileTree) : Prop where
  parent : ∀ place name, tree.get (place ++ [name]) ≠ none → tree.get place = some .directory
  workingDirectory : tree.get tree.workingDirectory = some .directory

/-- What is above a directory is a directory. -/
theorem WellFormed.directory_of_append (h : tree.WellFormed) {more : List String}
    (hDirectory : tree.get (start ++ more) = some .directory) :
    tree.get start = some .directory := by
  induction more using List.reverseRecOn with
  | nil =>
    rw [List.append_nil] at hDirectory
    exact hDirectory
  | append_singleton more name ih =>
    rw [← List.append_assoc] at hDirectory
    refine ih (h.parent _ name ?_)
    rw [hDirectory]
    exact Option.some_ne_none _

theorem WellFormed.origin (h : tree.WellFormed) (path : String) :
    tree.get (tree.origin path) = some .directory := by
  rw [FileTree.origin]
  split
  · rfl
  · exact h.workingDirectory

/-! ### Walking -/

/-- The names in segments. -/
def names (segments : List String) : List String := segments.filter (· ≠ ".")

theorem names_append (first second : List String) :
    names (first ++ second) = names first ++ names second := List.filter_append ..

/-- Whether names are not too long. -/
def Short (names : List String) : Prop := ∀ name ∈ names, (utf8 name).length ≤ maxNameLength

/-- One step of a walk that does not go up. -/
theorem walk_cons {segment : String} {rest : List String} (hUp : segment ≠ "..") :
    tree.walk start (segment :: rest) = .ok found ↔
      tree.get start = some .directory ∧
      ((segment = "." ∧ tree.walk start rest = .ok found) ∨
        (segment ≠ "." ∧ (utf8 segment).length ≤ maxNameLength ∧
          tree.get (start ++ [segment]) ≠ none ∧ tree.walk (start ++ [segment]) rest = .ok found)) := by
  rw [walk, if_neg hUp]
  by_cases hDirectory : tree.get start = some .directory
  · rw [if_neg fun h => h hDirectory]
    by_cases hDot : segment = "."
    · rw [if_pos hDot]
      exact ⟨fun h => ⟨hDirectory, .inl ⟨hDot, h⟩⟩,
        fun h => h.2.elim And.right fun hName => absurd hDot hName.1⟩
    · rw [if_neg hDot]
      by_cases hLong : maxNameLength < (utf8 segment).length
      · rw [if_pos hLong]
        refine ⟨nofun, fun h => ?_⟩
        obtain ⟨hSame, -⟩ | ⟨-, hShort, -⟩ := h.2
        · exact absurd hSame hDot
        · omega
      · rw [if_neg hLong]
        by_cases hNone : tree.get (start ++ [segment]) = none
        · rw [if_pos hNone]
          refine ⟨nofun, fun h => ?_⟩
          obtain ⟨hSame, -⟩ | ⟨-, -, hSome, -⟩ := h.2
          · exact absurd hSame hDot
          · exact absurd hNone hSome
        · rw [if_neg hNone]
          refine ⟨fun h => ⟨hDirectory, .inr ⟨hDot, by omega, hNone, h⟩⟩, fun h => ?_⟩
          obtain ⟨hSame, -⟩ | ⟨-, -, -, hRest⟩ := h.2
          · exact absurd hSame hDot
          · exact hRest
  · rw [if_pos hDirectory]
    exact ⟨nofun, fun h => absurd h.1 hDirectory⟩

theorem walk_append (first second : List String) :
    tree.walk start (first ++ second)
      = (tree.walk start first).bind fun place => tree.walk place second := by
  induction first generalizing start with
  | nil => rfl
  | cons segment first ih =>
    rw [List.cons_append, walk, walk]
    split
    · rfl
    split
    · exact ih
    split
    · exact ih
    split
    · rfl
    split
    · rfl
    · exact ih

/-- A walk that asks for a directory at the end finds one. -/
theorem get_of_walk_concat (h : tree.walk start (segments ++ ["."]) = .ok found) :
    tree.walk start segments = .ok found ∧ tree.get found = some .directory := by
  rw [walk_append] at h
  cases hWalk : tree.walk start segments with
  | error error => rw [hWalk] at h; cases h
  | ok walked =>
    rw [hWalk] at h
    replace h : tree.walk walked ["."] = .ok found := h
    obtain ⟨hDirectory, ⟨-, hPlace⟩ | ⟨hDot, -⟩⟩ := (walk_cons (by decide)).mp h
    · obtain rfl := Except.ok.inj hPlace
      exact ⟨rfl, hDirectory⟩
    · exact absurd rfl hDot

theorem names_cons_dot (segments : List String) : names ("." :: segments) = names segments :=
  List.filter_cons_of_neg (by decide)

theorem names_cons_of_ne {segment : String} (h : segment ≠ ".") (segments : List String) :
    names (segment :: segments) = segment :: names segments :=
  List.filter_cons_of_pos (by simpa using h)

/-- **Where a walk leads that does not go up.** -/
theorem eq_of_walk (hUp : ".." ∉ segments) (h : tree.walk start segments = .ok found) :
    found = start ++ names segments ∧ Short (names segments) := by
  induction segments generalizing start with
  | nil =>
    obtain rfl := Except.ok.inj h
    exact ⟨(List.append_nil start).symm, nofun⟩
  | cons segment segments ih =>
    rw [List.mem_cons, not_or] at hUp
    obtain ⟨hSegment, hRest⟩ := hUp
    obtain ⟨-, ⟨rfl, hWalk⟩ | ⟨hName, hLength, -, hWalk⟩⟩ := (walk_cons (Ne.symm hSegment)).mp h
    · rw [names_cons_dot]
      exact ih hRest hWalk
    · obtain ⟨hPlace, hShort⟩ := ih hRest hWalk
      rw [names_cons_of_ne hName]
      refine ⟨?_, List.forall_mem_cons.mpr ⟨hLength, hShort⟩⟩
      rw [hPlace, List.append_assoc]
      rfl

/-- **In a well formed tree a walk leads to every directory.** -/
theorem WellFormed.walk_of_directory (h : tree.WellFormed) (hUp : ".." ∉ segments)
    (hShort : Short (names segments))
    (hDirectory : tree.get (start ++ names segments) = some .directory) :
    tree.walk start segments = .ok (start ++ names segments) := by
  induction segments generalizing start with
  | nil =>
    show Except.ok start = .ok (start ++ [])
    rw [List.append_nil]
  | cons segment segments ih =>
    rw [List.mem_cons, not_or] at hUp
    obtain ⟨hSegment, hRest⟩ := hUp
    have hStart := h.directory_of_append hDirectory
    by_cases hDot : segment = "."
    · subst hDot
      rw [names_cons_dot] at hShort hDirectory ⊢
      exact (walk_cons (Ne.symm hSegment)).mpr ⟨hStart, .inl ⟨rfl, ih hRest hShort hDirectory⟩⟩
    · rw [names_cons_of_ne hDot] at hShort hDirectory ⊢
      obtain ⟨hLength, hShort⟩ := List.forall_mem_cons.mp hShort
      rw [List.append_cons] at hDirectory ⊢
      have hSome : tree.get (start ++ [segment]) ≠ none := by
        rw [h.directory_of_append hDirectory]
        exact Option.some_ne_none _
      exact (walk_cons (Ne.symm hSegment)).mpr
        ⟨hStart, .inr ⟨hDot, hLength, hSome, ih hRest hShort hDirectory⟩⟩

/-- A walk leads to everything that stands in a directory. -/
theorem WellFormed.walk_concat (h : tree.WellFormed) (hUp : ".." ∉ segments)
    (hShort : Short (names segments)) {name : String} (hName : name ≠ "." ∧ name ≠ "..")
    (hLength : (utf8 name).length ≤ maxNameLength)
    (hSome : tree.get (start ++ names segments ++ [name]) ≠ none) :
    tree.walk start (segments ++ [name]) = .ok (start ++ names segments ++ [name]) := by
  have hDirectory := h.parent _ name hSome
  rw [walk_append, h.walk_of_directory hUp hShort hDirectory]
  exact (walk_cons hName.2).mpr ⟨hDirectory, .inr ⟨hName.1, hLength, hSome, rfl⟩⟩

/-- A walk leads to every file whose name comes last. -/
theorem WellFormed.walk_of_file (h : tree.WellFormed) (hUp : ".." ∉ segments)
    (hShort : Short (names segments)) (hLast : segments.getLast? ≠ some ".") {contents : Bytes}
    (hFile : tree.get (start ++ names segments) = some (.file contents)) :
    tree.walk start segments = .ok (start ++ names segments) := by
  obtain rfl | ⟨init, name, rfl⟩ := List.eq_nil_or_concat segments
  · show Except.ok start = .ok (start ++ [])
    rw [List.append_nil]
  · rw [List.concat_eq_append] at hUp hShort hLast hFile ⊢
    have hDot : name ≠ "." := by
      rintro rfl
      exact hLast List.getLast?_concat
    rw [List.mem_append, not_or, List.mem_singleton] at hUp
    rw [names_append, names_cons_of_ne hDot, ← List.append_assoc] at hFile ⊢
    rw [names_append, names_cons_of_ne hDot] at hShort
    refine h.walk_concat hUp.1 (fun other hOther => hShort other (List.mem_append_left _ hOther))
      ⟨hDot, Ne.symm hUp.2⟩ (hShort name (List.mem_append_right _ List.mem_cons_self)) ?_
    rw [show tree.get (start ++ names init ++ [name]) = some (.file contents) from hFile]
    exact Option.some_ne_none _

/-! ### Paths -/

/-- The place to which a path leads that does not go up. -/
def placeOf (tree : FileTree) (path : String) : Location := tree.origin path ++ names (Path.segments path)

/-- **Whether a path can be one of a file**, whatever the tree. -/
structure CanBeFile (path : String) : Prop where
  checked : checkPath path = .ok ()
  short : Short (names (Path.segments path))
  slash : Path.endsInSlash path = false
  last : (Path.segments path).getLast? ≠ some "."

theorem locate_eq_ok_iff : tree.locate path = .ok found ↔ checkPath path = .ok () ∧
    tree.walk (tree.origin path)
      (Path.segments path ++ if Path.endsInSlash path then ["."] else []) = .ok found := by
  rw [locate]
  cases checkPath path with
  | error error => exact ⟨nofun, nofun⟩
  | ok done => exact ⟨fun h => ⟨rfl, h⟩, And.right⟩

/-- Where an existing path leads that does not go up. -/
theorem eq_of_locate (hUp : ".." ∉ Path.segments path) (h : tree.locate path = .ok found) :
    found = tree.placeOf path ∧ checkPath path = .ok () ∧ Short (names (Path.segments path)) := by
  obtain ⟨hChecked, hWalk⟩ := locate_eq_ok_iff.mp h
  have hNames : names (Path.segments path ++ if Path.endsInSlash path then ["."] else [])
      = names (Path.segments path) := by
    rw [names_append]
    split
    · exact List.append_nil _
    · exact List.append_nil _
  have hSlash : ".." ∉ Path.segments path ++ if Path.endsInSlash path then ["."] else [] := by
    rw [List.mem_append, not_or]
    refine ⟨hUp, ?_⟩
    split
    · decide
    · exact List.not_mem_nil
  obtain ⟨hFound, hShort⟩ := eq_of_walk hSlash hWalk
  rw [hNames] at hFound hShort
  exact ⟨hFound, hChecked, hShort⟩

theorem read_eq_ok {contents : Bytes} : tree.read path = .ok contents ↔
    ∃ found, tree.locate path = .ok found ∧ tree.get found = some (.file contents) := by
  constructor
  · intro h
    rw [read] at h
    cases hLocate : tree.locate path with
    | error error =>
      rw [hLocate] at h
      cases h
    | ok found =>
      refine ⟨found, rfl, ?_⟩
      rw [hLocate] at h
      simp only [bind, Except.bind] at h
      split at h
      · next held hFile =>
        obtain rfl := Except.ok.inj h
        exact hFile
      · cases h
      · cases h
  · rintro ⟨found, hLocate, hFile⟩
    rw [read, hLocate]
    simp only [bind, Except.bind, hFile]
    rfl

/-- **When a file is read.** -/
theorem WellFormed.read_eq_ok_iff (h : tree.WellFormed) (hUp : ".." ∉ Path.segments path)
    {contents : Bytes} :
    tree.read path = .ok contents ↔
      CanBeFile path ∧ tree.get (tree.placeOf path) = some (.file contents) := by
  rw [read_eq_ok]
  constructor
  · rintro ⟨found, hLocate, hFile⟩
    obtain ⟨rfl, hChecked, hShort⟩ := eq_of_locate hUp hLocate
    obtain ⟨-, hWalk⟩ := locate_eq_ok_iff.mp hLocate
    have hNot : tree.get (tree.placeOf path) ≠ some .directory := by
      rw [hFile]
      nofun
    have hSlash : Path.endsInSlash path = false := by
      rw [Bool.eq_false_iff]
      intro hSlash
      rw [if_pos hSlash] at hWalk
      exact hNot (get_of_walk_concat hWalk).2
    rw [hSlash, if_neg Bool.false_ne_true, List.append_nil] at hWalk
    refine ⟨⟨hChecked, hShort, hSlash, fun hLast => ?_⟩, hFile⟩
    obtain ⟨init, hInit⟩ := List.getLast?_eq_some_iff.mp hLast
    rw [hInit] at hWalk
    exact hNot (get_of_walk_concat hWalk).2
  · rintro ⟨⟨hChecked, hShort, hSlash, hLast⟩, hFile⟩
    refine ⟨_, locate_eq_ok_iff.mpr ⟨hChecked, ?_⟩, hFile⟩
    rw [hSlash, if_neg Bool.false_ne_true, List.append_nil]
    exact h.walk_of_file hUp hShort hLast hFile

/-! ### Changes of well formed trees -/

/-- What is put into a directory stands there. -/
theorem get_set_concat (tree : FileTree) (directory : Location) (name : String) (node : Node) :
    (tree.set (directory ++ [name]) node).get (directory ++ [name]) = some node :=
  get_set_self tree node (List.concat_ne_nil name directory)

/-- A directory stays where it is when something is put elsewhere. -/
theorem get_set_of_directory {other : Location} {node : Node}
    (hFree : tree.get found ≠ some .directory) (hOther : tree.get other = some .directory) :
    (tree.set found node).get other = some .directory := by
  have hDiffers : other ≠ found := by
    rintro rfl
    exact hFree hOther
  rw [get_set_of_ne _ _ hDiffers, hOther]

theorem get_erase_of_directory {other : Location} (hFree : tree.get found ≠ some .directory)
    (hOther : tree.get other = some .directory) : (tree.erase found).get other = some .directory := by
  have hDiffers : other ≠ found := by
    rintro rfl
    exact hFree hOther
  rw [get_erase_of_ne _ hDiffers, hOther]

/-- Nothing becomes a directory by removing something else. -/
theorem get_of_get_erase {other : Location} (h : (tree.erase found).get other = some .directory) :
    tree.get other = some .directory := by
  by_cases hRoot : other = []
  · rw [hRoot]
    rfl
  · have hDiffers : other ≠ found := by
      rintro rfl
      rw [get_erase_self tree hRoot] at h
      cases h
    rwa [get_erase_of_ne tree hDiffers] at h

/-- A node that is put into a directory leaves a tree well formed, unless it takes the place of
one. -/
theorem WellFormed.set (h : tree.WellFormed) {directory : Location} {name : String}
    (hParent : tree.get directory = some .directory)
    (hFree : tree.get (directory ++ [name]) ≠ some .directory) (node : Node) :
    (tree.set (directory ++ [name]) node).WellFormed where
  parent := by
    intro place other hSome
    by_cases hNew : place ++ [other] = directory ++ [name]
    · obtain ⟨rfl, -⟩ := List.append_inj' hNew rfl
      exact get_set_of_directory hFree hParent
    · rw [get_set_of_ne _ _ hNew] at hSome
      exact get_set_of_directory hFree (h.parent place other hSome)
  workingDirectory := get_set_of_directory hFree h.workingDirectory

/-- A tree stays well formed without one of its files. -/
theorem WellFormed.erase (h : tree.WellFormed) (hFile : tree.get found ≠ some .directory) :
    (tree.erase found).WellFormed where
  parent := by
    intro place name hSome
    have hKept : place ++ [name] ≠ found := by
      rintro rfl
      rw [get_erase_self _ (List.concat_ne_nil _ _)] at hSome
      exact hSome rfl
    rw [get_erase_of_ne _ hKept] at hSome
    exact get_erase_of_directory hFile (h.parent place name hSome)
  workingDirectory := get_erase_of_directory hFile h.workingDirectory

/-! ### Operations -/

/-- Where a path would put something. -/
theorem parentOf_eq_ok {directory : Location} {name : Option String}
    (h : tree.parentOf path = .ok (directory, name)) :
    checkPath path = .ok () ∧
    tree.walk (tree.origin path) (Path.segments path).dropLast = .ok directory ∧
    tree.get directory = some .directory ∧
    name = (Path.segments path).getLast?.filter fun name => name ≠ "." ∧ name ≠ ".." := by
  rw [parentOf] at h
  cases hChecked : checkPath path with
  | error error => rw [hChecked] at h; cases h
  | ok done =>
    rw [hChecked] at h
    cases hWalk : tree.walk (tree.origin path) ((Path.segments path).dropLast ++ ["."]) with
    | error error =>
      simp only [bind, Except.bind, hWalk] at h
      cases h
    | ok walked =>
      simp only [bind, Except.bind, hWalk] at h
      obtain ⟨rfl, rfl⟩ := Prod.mk.inj (Except.ok.inj h)
      obtain ⟨hDirectory, hNode⟩ := get_of_walk_concat hWalk
      exact ⟨rfl, hDirectory, hNode, rfl⟩

/-- **A path that does not go up puts something at its place.** -/
theorem placeOf_of_parentOf (hUp : ".." ∉ Path.segments path) {directory : Location} {name : String}
    (h : tree.parentOf path = .ok (directory, some name)) :
    directory ++ [name] = tree.placeOf path ∧ Short (names (Path.segments path).dropLast) ∧
    (Path.segments path).getLast? = some name ∧ name ≠ "." := by
  obtain ⟨-, hWalk, -, hName⟩ := parentOf_eq_ok h
  obtain ⟨hLast, hKept⟩ := Option.filter_eq_some_iff.mp hName.symm
  obtain ⟨init, hInit⟩ := List.getLast?_eq_some_iff.mp hLast
  have hDot : name ≠ "." := (of_decide_eq_true hKept).1
  rw [hInit, List.mem_append, not_or] at hUp
  rw [hInit, List.dropLast_concat] at hWalk ⊢
  obtain ⟨rfl, hShort⟩ := eq_of_walk hUp.1 hWalk
  refine ⟨?_, hShort, List.getLast?_concat, hDot⟩
  rw [placeOf, hInit, names_append, names_cons_of_ne hDot, ← List.append_assoc]
  rfl

/-- **A directory that is made** stands at the place of its path, where nothing was. -/
theorem makeDirectory_eq_ok (h : tree.makeDirectory path = .ok after) :
    ∃ directory name, tree.parentOf path = .ok (directory, some name) ∧
      (utf8 name).length ≤ maxNameLength ∧ tree.get (directory ++ [name]) = none ∧
      after = tree.set (directory ++ [name]) .directory := by
  rw [makeDirectory] at h
  cases hParent : tree.parentOf path with
  | error error => rw [hParent] at h; cases h
  | ok found =>
    obtain ⟨directory, name⟩ := found
    rw [hParent] at h
    cases name with
    | none => cases h
    | some name =>
      simp only [bind, Except.bind] at h
      split at h
      · cases h
      next hLength =>
      split at h
      · cases h
      next hNone =>
      exact ⟨directory, name, rfl, Nat.not_lt.mp hLength, Option.not_isSome_iff_eq_none.mp hNone,
        (Except.ok.inj h).symm⟩

/-- **A file that is written** stands at the place of its path. -/
theorem write_eq_ok {contents : Bytes} (h : tree.write path contents = .ok after) :
    ∃ directory name, tree.parentOf path = .ok (directory, some name) ∧
      Path.endsInSlash path = false ∧ (utf8 name).length ≤ maxNameLength ∧
      tree.get (directory ++ [name]) ≠ some .directory ∧
      after = tree.set (directory ++ [name]) (.file contents) := by
  rw [write] at h
  cases hParent : tree.parentOf path with
  | error error => rw [hParent] at h; cases h
  | ok found =>
    obtain ⟨directory, name⟩ := found
    rw [hParent] at h
    cases name with
    | none => cases h
    | some name =>
      simp only [bind, Except.bind] at h
      split at h
      · cases h
      next hSlash =>
      split at h
      · cases h
      next hLength =>
      split at h
      · cases h
      next hFree =>
      exact ⟨directory, name, rfl, Bool.eq_false_iff.mpr hSlash, Nat.not_lt.mp hLength, hFree,
        (Except.ok.inj h).symm⟩

/-- Without a bound on the room a file is written or not. -/
theorem writeWithin_none (tree : FileTree) (path : String) (contents : Bytes) :
    tree.writeWithin none path contents =
      match tree.write path contents with
      | .error error => (.error error, tree)
      | .ok written => (.ok (), written) := by
  rw [writeWithin, Option.getD_none, List.take_length]
  cases tree.write path contents with
  | error error => rfl
  | ok written => simp only [if_true]

/-- **A write that succeeds has written the whole contents.** -/
theorem writeWithin_eq_ok {room : Option Nat} {contents : Bytes}
    (h : tree.writeWithin room path contents = (.ok (), after)) :
    tree.write path contents = .ok after := by
  rw [writeWithin] at h
  split at h
  · cases h
  next written hWrite =>
  obtain ⟨hFits, rfl⟩ := Prod.mk.inj h
  split at hFits
  · next hWhole => rw [← hWhole, hWrite]
  · cases hFits

/-- **A write that fails has left all as it was, or has written some bytes.** -/
theorem writeWithin_eq_error {room : Option Nat} {contents : Bytes} {error : FileError}
    (h : tree.writeWithin room path contents = (.error error, after)) :
    after = tree ∨ ∃ fitting, tree.write path fitting = .ok after := by
  rw [writeWithin] at h
  split at h
  · exact .inl (Prod.mk.inj h).2.symm
  · next written hWrite =>
    obtain ⟨-, rfl⟩ := Prod.mk.inj h
    exact .inr ⟨_, hWrite⟩

/-- **A file that is moved** stands at the place of its new path. -/
theorem moveFile_eq_ok {target : String} (h : tree.moveFile path target = .ok after) :
    ∃ source contents directory name, tree.locate path = .ok source ∧
      tree.get source = some (.file contents) ∧
      tree.parentOf target = .ok (directory, some name) ∧
      Path.endsInSlash target = false ∧ (utf8 name).length ≤ maxNameLength ∧
      tree.get (directory ++ [name]) ≠ some .directory ∧
      after = (tree.erase source).set (directory ++ [name]) (.file contents) := by
  rw [moveFile] at h
  cases hSource : tree.locate path with
  | error error => rw [hSource] at h; cases h
  | ok source =>
    cases hParent : tree.parentOf target with
    | error error =>
      simp only [hSource, hParent, bind, Except.bind] at h
      cases h
    | ok found =>
      obtain ⟨directory, name⟩ := found
      simp only [hSource, hParent, bind, Except.bind] at h
      split at h
      · cases h
      · next name contents hFile =>
        split at h
        · cases h
        next hLength =>
        split at h
        · cases h
        next hSlash =>
        split at h
        · cases h
        next hFree =>
        exact ⟨source, contents, directory, name, rfl, hFile, rfl, Bool.eq_false_iff.mpr hSlash,
          Nat.not_lt.mp hLength, hFree, (Except.ok.inj h).symm⟩
      · cases h
      · cases h

/-- **A file that is removed** stood at the place of its path. -/
theorem removeFile_eq (tree : FileTree) (path : String) :
    tree.removeFile path = tree ∨
    ∃ found contents, tree.locate path = .ok found ∧ tree.get found = some (.file contents) ∧
      tree.removeFile path = tree.erase found := by
  rw [removeFile]
  cases hLocate : tree.locate path with
  | error error => exact .inl rfl
  | ok found =>
    cases hNode : tree.get found with
    | none =>
      refine .inl ?_
      simp only [hNode]
    | some node =>
      cases node with
      | directory =>
        refine .inl ?_
        simp only [hNode]
      | file contents =>
        refine .inr ⟨found, contents, rfl, hNode, ?_⟩
        simp only [hNode]

/-- A file that a path leads to is removed. -/
theorem removeFile_of_file {contents : Bytes} (hLocate : tree.locate path = .ok found)
    (hFile : tree.get found = some (.file contents)) : tree.removeFile path = tree.erase found := by
  unfold removeFile
  rw [hLocate]
  dsimp only
  rw [hFile]

/-- A path at whose place something is put can be one of a file. -/
theorem canBeFile_of_parentOf (hUp : ".." ∉ Path.segments path) {directory : Location}
    {name : String} (h : tree.parentOf path = .ok (directory, some name))
    (hSlash : Path.endsInSlash path = false) (hLength : (utf8 name).length ≤ maxNameLength) :
    CanBeFile path := by
  obtain ⟨-, hShort, hLast, hDot⟩ := placeOf_of_parentOf hUp h
  obtain ⟨init, hInit⟩ := List.getLast?_eq_some_iff.mp hLast
  refine ⟨(parentOf_eq_ok h).1, ?_, hSlash, ?_⟩
  · rw [hInit, List.dropLast_concat] at hShort
    rw [hInit, names_append, names_cons_of_ne hDot]
    intro other hOther
    rcases List.mem_append.mp hOther with hAbove | hName
    · exact hShort other hAbove
    · obtain rfl := List.mem_singleton.mp hName
      exact hLength
  · rw [hLast]
    exact fun hSame => hDot (Option.some.inj hSame)

/-! ### What operations leave alone -/

/-- **Whether a tree is another one but for what stands at a place.** -/
structure SameBut (after tree : FileTree) (place : Location) : Prop where
  wellFormed : tree.WellFormed → after.WellFormed
  workingDirectory : after.workingDirectory = tree.workingDirectory
  get : ∀ other, other ≠ place → after.get other = tree.get other

namespace SameBut

variable {place : Location}

theorem refl (tree : FileTree) (place : Location) : tree.SameBut tree place :=
  ⟨id, rfl, fun _ _ => rfl⟩

theorem trans {first last : FileTree} (hLast : last.SameBut after place)
    (h : after.SameBut first place) : last.SameBut first place where
  wellFormed := hLast.wellFormed ∘ h.wellFormed
  workingDirectory := hLast.workingDirectory.trans h.workingDirectory
  get := fun other hOther => (hLast.get other hOther).trans (h.get other hOther)

/-- A file is written at the place of its path alone. -/
theorem write (hUp : ".." ∉ Path.segments path) {contents : Bytes}
    (h : tree.write path contents = .ok after) : after.SameBut tree (tree.placeOf path) := by
  obtain ⟨directory, name, hParent, -, -, hFree, rfl⟩ := write_eq_ok h
  rw [← (placeOf_of_parentOf hUp hParent).1]
  exact ⟨fun hTree => hTree.set (parentOf_eq_ok hParent).2.2.1 hFree _, rfl,
    fun _ hOther => get_set_of_ne _ _ hOther⟩

/-- A file is removed at the place of its path alone. -/
theorem removeFile (hUp : ".." ∉ Path.segments path) (tree : FileTree) :
    (tree.removeFile path).SameBut tree (tree.placeOf path) := by
  rcases removeFile_eq tree path with hSame | ⟨found, contents, hLocate, hFile, hGone⟩
  · rw [hSame]
    exact refl tree _
  · obtain ⟨rfl, -⟩ := eq_of_locate hUp hLocate
    rw [hGone]
    refine ⟨fun hTree => hTree.erase ?_, rfl, fun _ hOther => get_erase_of_ne _ hOther⟩
    rw [hFile]
    nofun

end SameBut

theorem placeOf_congr (h : after.workingDirectory = tree.workingDirectory) (path : String) :
    after.placeOf path = tree.placeOf path := by
  rw [placeOf, placeOf, origin, origin, h]

/-- **A file is read as before** if there is the same file at its place. -/
theorem read_eq_ok_congr (hTree : tree.WellFormed) (hAfter : after.WellFormed)
    (hUp : ".." ∉ Path.segments path) (hWorking : after.workingDirectory = tree.workingDirectory)
    {contents : Bytes} (h : after.get (tree.placeOf path) = some (.file contents) ↔
      tree.get (tree.placeOf path) = some (.file contents)) :
    after.read path = .ok contents ↔ tree.read path = .ok contents := by
  rw [hAfter.read_eq_ok_iff hUp, hTree.read_eq_ok_iff hUp, placeOf_congr hWorking, h]

/-- What is written stands at the place of its path. -/
theorem get_placeOf_of_write (hUp : ".." ∉ Path.segments path) {contents : Bytes}
    (h : tree.write path contents = .ok after) :
    after.get (after.placeOf path) = some (.file contents) := by
  obtain ⟨directory, name, hParent, -, -, -, rfl⟩ := write_eq_ok h
  obtain ⟨hPlace, -⟩ := placeOf_of_parentOf hUp hParent
  have hSame : (tree.set (directory ++ [name]) (.file contents)).placeOf path
      = directory ++ [name] := (placeOf_congr rfl path).trans hPlace.symm
  rw [hSame, get_set_concat]

/-- **What is moved is read from then on under its new path.** -/
theorem WellFormed.moveFile (hTree : tree.WellFormed) {target : String}
    (hUp : ".." ∉ Path.segments path) (hTarget : ".." ∉ Path.segments target)
    (h : tree.moveFile path target = .ok after) :
    after.WellFormed ∧ ∃ contents, tree.get (tree.placeOf path) = some (.file contents) ∧
      after.read target = .ok contents := by
  obtain ⟨source, contents, directory, name, hSource, hFile, hParent, hSlash, hLength, hFree, rfl⟩ :=
    moveFile_eq_ok h
  have hSourceFree : tree.get source ≠ some .directory := by
    rw [hFile]
    nofun
  have hErasedFree : (tree.erase source).get (directory ++ [name]) ≠ some .directory :=
    fun hNode => hFree (get_of_get_erase hNode)
  have hDirectory := get_erase_of_directory hSourceFree (parentOf_eq_ok hParent).2.2.1
  have hAfter := (hTree.erase hSourceFree).set hDirectory hErasedFree (.file contents)
  have hPlace : ((tree.erase source).set (directory ++ [name]) (.file contents)).placeOf target
      = directory ++ [name] :=
    (placeOf_congr rfl target).trans (placeOf_of_parentOf hTarget hParent).1.symm
  refine ⟨hAfter, contents, ?_, (hAfter.read_eq_ok_iff hTarget).mpr ⟨?_, ?_⟩⟩
  · rw [← (eq_of_locate hUp hSource).1, hFile]
  · exact canBeFile_of_parentOf hTarget hParent hSlash hLength
  · rw [hPlace, get_set_concat]

/-! ### Making directories -/

/-- Makes a directory, and finds it is fine if there is one already. -/
def ensureDirectory (tree : FileTree) (path : String) : Except FileError Unit × FileTree :=
  match tree.makeDirectory path with
  | .ok after => (.ok (), after)
  | .error error => (if tree.isDirectory path then .ok () else .error error, tree)

/-- The directories above the last one are made when it cannot be made without them. -/
theorem makeDirectories_cons (path : String) (above : List String) (tree : FileTree) :
    FileTree.makeDirectories (path :: above) tree =
      match tree.makeDirectory path with
      | .error .notFound =>
        match FileTree.makeDirectories above tree with
        | (.ok (), after) => after.ensureDirectory path
        | failed => failed
      | _ => tree.ensureDirectory path := rfl

/-- **Whether a tree is another one with more directories** where nothing stood. -/
structure Extends (after tree : FileTree) : Prop where
  wellFormed : tree.WellFormed → after.WellFormed
  workingDirectory : after.workingDirectory = tree.workingDirectory
  get : ∀ place, after.get place = tree.get place ∨
    (tree.get place = none ∧ after.get place = some .directory)

namespace Extends

theorem refl (tree : FileTree) : tree.Extends tree := ⟨id, rfl, fun _ => .inl rfl⟩

theorem trans {first last : FileTree} (hLast : last.Extends after) (h : after.Extends first) :
    last.Extends first where
  wellFormed := hLast.wellFormed ∘ h.wellFormed
  workingDirectory := hLast.workingDirectory.trans h.workingDirectory
  get := by
    intro place
    rcases hLast.get place with hSame | ⟨hNone, hNew⟩
    · rw [hSame]
      exact h.get place
    · rcases h.get place with hSame | ⟨-, hMade⟩
      · exact .inr ⟨hSame ▸ hNone, hNew⟩
      · rw [hMade] at hNone
        cases hNone

/-- The same files stand in both trees. -/
theorem get_eq_file_iff (h : after.Extends tree) {place : Location} {contents : Bytes} :
    after.get place = some (.file contents) ↔ tree.get place = some (.file contents) := by
  rcases h.get place with hSame | ⟨hNone, hNew⟩
  · rw [hSame]
  · rw [hNone, hNew]
    exact ⟨nofun, nofun⟩

theorem makeDirectory (h : tree.makeDirectory path = .ok after) : after.Extends tree := by
  obtain ⟨directory, name, hParent, -, hNone, rfl⟩ := makeDirectory_eq_ok h
  have hDirectory := (parentOf_eq_ok hParent).2.2.1
  refine ⟨fun hTree => hTree.set hDirectory (by rw [hNone]; nofun) _, rfl, fun place => ?_⟩
  by_cases hPlace : place = directory ++ [name]
  · subst hPlace
    rw [get_set_concat]
    exact .inr ⟨hNone, rfl⟩
  · exact .inl (get_set_of_ne _ _ hPlace)

theorem ensureDirectory (tree : FileTree) (path : String) :
    (tree.ensureDirectory path).2.Extends tree := by
  unfold FileTree.ensureDirectory
  split
  · next made hMade => exact makeDirectory hMade
  · exact refl tree

/-- **Making directories only puts directories where nothing stood.** -/
theorem makeDirectories (paths : List String) (tree : FileTree) :
    (FileTree.makeDirectories paths tree).2.Extends tree := by
  induction paths generalizing tree with
  | nil => exact refl tree
  | cons path above ih =>
    rw [makeDirectories_cons]
    split
    -- the last directory is made after those above it
    · split
      · next after hAbove =>
        have hExtends := ih tree
        rw [hAbove] at hExtends
        exact trans (ensureDirectory after _) hExtends
      · exact ih tree
    -- or at once
    · exact ensureDirectory tree _

end Extends

/-! ### Trees that are new -/

theorem lookup_map_const (places : List Location) (node : Node) (place : Location) :
    (places.map fun spot => (spot, node)).lookup place = if place ∈ places then some node else none := by
  induction places with
  | nil => rfl
  | cons spot places ih =>
    rw [List.map_cons, List.lookup_cons, ih]
    by_cases hSame : place = spot
    · subst hSame
      simp
    · rw [beq_eq_false_iff_ne.mpr hSame]
      simp [hSame]

/-- What stands in a tree with nothing but its working directory. -/
theorem get_fresh (workingDirectory place : Location) :
    (fresh workingDirectory).get place
      = if place <+: workingDirectory then some .directory else none := by
  rw [get]
  by_cases hRoot : place = []
  · rw [if_pos hRoot, if_pos (hRoot ▸ List.nil_prefix)]
  · have hNodes : (fresh workingDirectory).nodes
        = ((List.range workingDirectory.length).map fun depth =>
            workingDirectory.take (depth + 1)).map fun spot => (spot, .directory) := by
      rw [List.map_map]
      rfl
    have hMem : (place ∈ (List.range workingDirectory.length).map fun depth =>
        workingDirectory.take (depth + 1)) ↔ place <+: workingDirectory := by
      rw [List.mem_map]
      constructor
      · rintro ⟨depth, -, rfl⟩
        exact List.take_prefix _ _
      · intro h
        have hLength : 0 < place.length := List.length_pos_iff.mpr hRoot
        have hLe := h.length_le
        refine ⟨place.length - 1, List.mem_range.mpr (by omega), ?_⟩
        rw [Nat.sub_add_cancel hLength, ← List.prefix_iff_eq_take.mp h]
    rw [if_neg hRoot, hNodes, lookup_map_const]
    simp only [hMem]

theorem wellFormed_fresh (workingDirectory : Location) : (fresh workingDirectory).WellFormed where
  parent := by
    intro place name hSome
    rw [get_fresh] at hSome ⊢
    split at hSome
    · next h => exact if_pos ((List.prefix_append place [name]).trans h)
    · exact absurd rfl hSome
  workingDirectory := by
    rw [get_fresh]
    exact if_pos (List.prefix_refl _)

/-- One file at the root makes a well formed tree. -/
theorem wellFormed_fresh_set (name : String) (contents : Bytes) :
    ((fresh []).set [name] (.file contents)).WellFormed := by
  have hFree : (fresh []).get ([] ++ [name]) ≠ some .directory := by
    rw [get_fresh]
    simp
  exact (wellFormed_fresh []).set rfl hFree _

end FileTree

end CredentialLease
