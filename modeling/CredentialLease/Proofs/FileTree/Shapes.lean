import CredentialLease.Proofs.FileTree.Places

/-!
# Trees of the same shape

Two trees have the same shape if the same places are free in them and the same are directories; what
the files hold may differ. Paths are resolved by the shape alone (`SameShape.walk_eq`,
`SameShape.locate_eq`, `SameShape.parentOf_eq`), so every operation fails on both trees with the
same error, or succeeds on both and leaves trees of the same shape. What is read does depend on the
files: it is the same where all files are (`read_congr`).
-/

namespace CredentialLease.FileTree

variable {first second : FileTree} {path : String}

/-- **Whether two trees have the same shape.** -/
structure SameShape (first second : FileTree) : Prop where
  workingDirectory : first.workingDirectory = second.workingDirectory
  free : ∀ place, first.get place = none ↔ second.get place = none
  directory : ∀ place, first.get place = some .directory ↔ second.get place = some .directory

namespace SameShape

theorem refl (tree : FileTree) : tree.SameShape tree :=
  ⟨rfl, fun _ => Iff.rfl, fun _ => Iff.rfl⟩

/-- The same kinds of nodes stand at a place. -/
theorem get_cases (h : first.SameShape second) (place : Location) :
    (first.get place = none ∧ second.get place = none) ∨
    (first.get place = some .directory ∧ second.get place = some .directory) ∨
    ∃ contents other, first.get place = some (.file contents) ∧
      second.get place = some (.file other) := by
  cases hFirst : first.get place with
  | none => exact .inl ⟨rfl, (h.free place).mp hFirst⟩
  | some node =>
    cases node with
    | directory => exact .inr (.inl ⟨rfl, (h.directory place).mp hFirst⟩)
    | file contents =>
      cases hSecond : second.get place with
      | none =>
        have hFree := (h.free place).mpr hSecond
        rw [hFirst] at hFree
        cases hFree
      | some node =>
        cases node with
        | directory =>
          have hDirectory := (h.directory place).mpr hSecond
          rw [hFirst] at hDirectory
          cases hDirectory
        | file other => exact .inr (.inr ⟨contents, other, rfl, rfl⟩)

/-! ### Resolving paths -/

theorem walk_eq (h : first.SameShape second) (start : Location) (segments : List String) :
    first.walk start segments = second.walk start segments := by
  induction segments generalizing start with
  | nil => rfl
  | cons segment rest ih => simp only [walk, ne_eq, h.directory, h.free, ih]

theorem origin_eq (h : first.SameShape second) (path : String) :
    first.origin path = second.origin path := by
  unfold origin
  rw [h.workingDirectory]

theorem locate_eq (h : first.SameShape second) (path : String) :
    first.locate path = second.locate path := by
  unfold locate
  simp only [h.origin_eq, h.walk_eq]

theorem parentOf_eq (h : first.SameShape second) (path : String) :
    first.parentOf path = second.parentOf path := by
  unfold parentOf
  simp only [h.origin_eq, h.walk_eq]

theorem isDirectory_eq (h : first.SameShape second) (path : String) :
    first.isDirectory path = second.isDirectory path := by
  unfold isDirectory
  rw [h.locate_eq]
  cases second.locate path with
  | error error => rfl
  | ok place =>
    have hSame := h.directory place
    simp [hSame]

/-! ### Putting and taking away -/

/-- Nodes of the same kind may be put at the same place. -/
theorem set (h : first.SameShape second) (place : Location) {node other : Node}
    (hKind : node = .directory ↔ other = .directory) :
    (first.set place node).SameShape (second.set place other) where
  workingDirectory := h.workingDirectory
  free := by
    intro spot
    by_cases hSpot : spot = place
    · subst hSpot
      by_cases hRoot : spot = []
      · simp [get, hRoot]
      · simp [get_set_self _ _ hRoot]
    · rw [get_set_of_ne _ _ hSpot, get_set_of_ne _ _ hSpot, h.free]
  directory := by
    intro spot
    by_cases hSpot : spot = place
    · subst hSpot
      by_cases hRoot : spot = []
      · simp [get, hRoot]
      · simp [get_set_self _ _ hRoot, hKind]
    · rw [get_set_of_ne _ _ hSpot, get_set_of_ne _ _ hSpot, h.directory]

theorem erase (h : first.SameShape second) (place : Location) :
    (first.erase place).SameShape (second.erase place) where
  workingDirectory := h.workingDirectory
  free := by
    intro spot
    by_cases hSpot : spot = place
    · subst hSpot
      by_cases hRoot : spot = []
      · simp [get, hRoot]
      · simp [get_erase_self _ hRoot]
    · rw [get_erase_of_ne _ hSpot, get_erase_of_ne _ hSpot, h.free]
  directory := by
    intro spot
    by_cases hSpot : spot = place
    · subst hSpot
      by_cases hRoot : spot = []
      · simp [get, hRoot]
      · simp [get_erase_self _ hRoot]
    · rw [get_erase_of_ne _ hSpot, get_erase_of_ne _ hSpot, h.directory]

end SameShape

/-! ### Operations -/

/-- **Whether two results are the same failure, or trees of the same shape.** -/
inductive SameResult : Except FileError FileTree → Except FileError FileTree → Prop where
  | error (error : FileError) : SameResult (.error error) (.error error)
  | ok {first second : FileTree} (h : first.SameShape second) :
      SameResult (.ok first) (.ok second)

namespace SameShape

theorem makeDirectory (h : first.SameShape second) (path : String) :
    SameResult (first.makeDirectory path) (second.makeDirectory path) := by
  unfold FileTree.makeDirectory
  rw [h.parentOf_eq]
  cases second.parentOf path with
  | error error => exact .error error
  | ok found =>
    obtain ⟨directory, name⟩ := found
    cases name with
    | none => exact .error _
    | some name =>
      have hTaken : (first.get (directory ++ [name])).isSome
          = (second.get (directory ++ [name])).isSome := by
        rw [Bool.eq_iff_iff, Option.isSome_iff_ne_none, Option.isSome_iff_ne_none]
        exact not_congr (h.free _)
      simp only [bind, Except.bind, hTaken]
      split
      · exact .error _
      split
      · exact .error _
      · exact .ok (h.set _ Iff.rfl)

theorem ensureDirectory (h : first.SameShape second) (path : String) :
    (first.ensureDirectory path).1 = (second.ensureDirectory path).1 ∧
    (first.ensureDirectory path).2.SameShape (second.ensureDirectory path).2 := by
  have hMade := h.makeDirectory path
  have hThere := h.isDirectory_eq path
  unfold FileTree.ensureDirectory
  generalize first.makeDirectory path = firstMade at hMade ⊢
  generalize second.makeDirectory path = secondMade at hMade ⊢
  cases hMade with
  | error error => exact ⟨by rw [hThere], h⟩
  | ok hSame => exact ⟨rfl, hSame⟩

/-- A directory that is missing is made in both trees, and so are those above it. -/
theorem makeDirectories (h : first.SameShape second) (paths : List String) :
    (FileTree.makeDirectories paths first).1 = (FileTree.makeDirectories paths second).1 ∧
    (FileTree.makeDirectories paths first).2.SameShape
      (FileTree.makeDirectories paths second).2 := by
  induction paths with
  | nil => exact ⟨rfl, h⟩
  | cons path above ih =>
    have hMade := h.makeDirectory path
    have hOnce := h.ensureDirectory path
    rw [makeDirectories_cons, makeDirectories_cons]
    generalize first.makeDirectory _ = firstMade at hMade ⊢
    generalize second.makeDirectory _ = secondMade at hMade ⊢
    cases hMade with
    | ok _ => exact hOnce
    | error error =>
      cases error with
      | notFound =>
        -- those above it are made first, which comes to the same in both trees
        obtain ⟨hResult, hAbove⟩ := ih
        generalize FileTree.makeDirectories above first = firstAbove at hResult hAbove ⊢
        generalize FileTree.makeDirectories above second = secondAbove at hResult hAbove ⊢
        obtain ⟨result, firstTree⟩ := firstAbove
        obtain ⟨other, secondTree⟩ := secondAbove
        obtain rfl : result = other := hResult
        cases result with
        | error error => exact ⟨rfl, hAbove⟩
        | ok done => exact hAbove.ensureDirectory _
      | _ => exact hOnce

/-- Files may be written that hold different contents. -/
theorem write (h : first.SameShape second) (path : String) (contents other : Bytes) :
    SameResult (first.write path contents) (second.write path other) := by
  unfold FileTree.write
  rw [h.parentOf_eq]
  cases second.parentOf path with
  | error error => exact .error error
  | ok found =>
    obtain ⟨directory, name⟩ := found
    cases name with
    | none => exact .error _
    | some name =>
      simp only [bind, Except.bind, h.directory]
      split
      · exact .error _
      split
      · exact .error _
      split
      · exact .error _
      · exact .ok (h.set _ ⟨nofun, nofun⟩)

theorem moveFile (h : first.SameShape second) (source target : String) :
    SameResult (first.moveFile source target) (second.moveFile source target) := by
  unfold FileTree.moveFile
  rw [h.locate_eq, h.parentOf_eq]
  cases second.locate source with
  | error error => exact .error error
  | ok place =>
    cases second.parentOf target with
    | error error => exact .error error
    | ok found =>
      obtain ⟨directory, name⟩ := found
      cases name with
      | none => exact .error _
      | some name =>
        simp only [bind, Except.bind, h.directory]
        rcases h.get_cases place with ⟨hFirst, hSecond⟩ | ⟨hFirst, hSecond⟩ |
          ⟨contents, other, hFirst, hSecond⟩
        · rw [hFirst, hSecond]
          exact .error _
        · rw [hFirst, hSecond]
          exact .error _
        · rw [hFirst, hSecond]
          dsimp only
          split
          · exact .error _
          split
          · exact .error _
          split
          · exact .error _
          · exact .ok ((h.erase place).set _ ⟨nofun, nofun⟩)

theorem removeFile (h : first.SameShape second) (path : String) :
    (first.removeFile path).SameShape (second.removeFile path) := by
  unfold FileTree.removeFile
  rw [h.locate_eq]
  cases second.locate path with
  | error error => exact h
  | ok place =>
    dsimp only
    rcases h.get_cases place with ⟨hFirst, hSecond⟩ | ⟨hFirst, hSecond⟩ |
      ⟨contents, other, hFirst, hSecond⟩
    · rw [hFirst, hSecond]
      exact h
    · rw [hFirst, hSecond]
      exact h
    · rw [hFirst, hSecond]
      exact h.erase place

end SameShape

/-! ### Trees with the same files -/

/-- **What is read depends on nothing but what stands where.** -/
theorem read_congr (hWorking : first.workingDirectory = second.workingDirectory)
    (hGet : ∀ place, first.get place = second.get place) (path : String) :
    first.read path = second.read path := by
  have hShape : first.SameShape second :=
    ⟨hWorking, fun place => by rw [hGet], fun place => by rw [hGet]⟩
  unfold read
  simp only [hShape.locate_eq, hGet]

end CredentialLease.FileTree
