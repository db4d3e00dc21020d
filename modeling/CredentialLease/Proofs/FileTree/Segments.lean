import CredentialLease.FileTree.Path
import Mathlib.Data.List.Induction

/-!
# The segments of paths that are put together

Where paths are joined with a slash their segments are joined, and the path of pieces has those of them
as its segments that are not empty (`segments_ofPieces`). So a path whose name is replaced ends in the new
name, after segments that were there before (`exists_segments_withFileName`). The name of a path is the
last of its segments that leads somewhere (`fileName_eq`).

A path goes through the directories that its pieces spell, up to one that leads somewhere
(`goesThrough_of_mem_directories`).
-/

namespace CredentialLease

namespace Text

/-- **Texts that are joined at the character are cut there.** -/
theorem splitOn_append (separator : Char) (first second : List Char) :
    splitOn separator (first ++ separator :: second)
      = splitOn separator first ++ splitOn separator second := by
  induction first with
  | nil => simp [splitOn]
  | cons c first ih =>
    obtain ⟨piece, more, hPieces⟩ := List.exists_cons_of_ne_nil (splitOn_ne_nil separator first)
    rw [List.cons_append, splitOn, splitOn, ih]
    by_cases h : c = separator
    · rw [if_pos h, if_pos h, List.cons_append]
    · rw [if_neg h, if_neg h, hPieces]
      rfl

theorem splitOn_of_notMem {separator : Char} {s : List Char} (h : separator ∉ s) :
    splitOn separator s = [s] := by
  induction s with
  | nil => rfl
  | cons c s ih =>
    rw [List.mem_cons, not_or] at h
    rw [splitOn, if_neg (Ne.symm h.1), ih h.2]

end Text

namespace Path

variable {path name : String}

/-- Whether a text can be a segment. -/
def IsName (name : String) : Prop := name ≠ "" ∧ '/' ∉ name.toList

theorem isName_of_mem_segments (h : name ∈ segments path) : IsName name := by
  rw [segments, List.mem_map] at h
  obtain ⟨piece, hPiece, rfl⟩ := h
  obtain ⟨hSplit, hSome⟩ := List.mem_filter.mp hPiece
  refine ⟨fun hEmpty => ?_, ?_⟩
  · exact of_decide_eq_true hSome (String.ofList_eq_empty_iff.mp hEmpty)
  · rw [String.toList_ofList]
    exact Text.not_mem_of_mem_splitOn hSplit

theorem segments_append_slash (first second : String) :
    segments (first ++ "/" ++ second) = segments first ++ segments second := by
  have hList : (first ++ "/" ++ second).toList = first.toList ++ '/' :: second.toList := by
    simp
  rw [segments, hList, Text.splitOn_append, List.filter_append, List.map_append]
  rfl

theorem segments_of_isName (h : IsName name) : segments name = [name] := by
  have hSome : name.toList ≠ [] := fun hNil => h.1 (String.toList_eq_nil_iff.mp hNil)
  have hKept : [name.toList].filter (· ≠ []) = [name.toList] :=
    List.filter_cons_of_pos (decide_eq_true hSome)
  rw [segments, Text.splitOn_of_notMem h.2, hKept, List.map_singleton, String.ofList_toList]

theorem segments_join (directory : String) (h : IsName name) :
    segments (join directory name) = segments directory ++ [name] := by
  rw [join, ← segments_of_isName h]
  split
  · next hEmpty =>
    rw [hEmpty]
    rfl
  split
  · next hSlash =>
    -- the slash is there already
    obtain ⟨init, hInit⟩ := List.getLast?_eq_some_iff.mp (of_decide_eq_true hSlash)
    obtain rfl : directory = String.ofList init ++ "/" := by
      rw [← String.ofList_toList (s := directory), hInit, String.ofList_append]
    have hEnd := segments_append_slash (String.ofList init) ""
    rw [String.append_empty] at hEnd
    rw [segments_append_slash, hEnd, List.append_assoc]
    rfl
  · exact segments_append_slash directory name

/-- **The path of pieces has those as its segments that are not empty.** -/
theorem segments_ofPieces (absolute : Bool) {pieces : List String}
    (h : ∀ piece ∈ pieces, '/' ∉ piece.toList) :
    segments (ofPieces absolute pieces) = pieces.filter (· ≠ "") := by
  have hPiece (piece : String) (hSlash : '/' ∉ piece.toList) :
      segments piece = [piece].filter (· ≠ "") := by
    by_cases hEmpty : piece = ""
    · rw [hEmpty]
      rfl
    · have hKept : [piece].filter (· ≠ "") = [piece] := List.filter_cons_of_pos (decide_eq_true hEmpty)
      rw [segments_of_isName ⟨hEmpty, hSlash⟩, hKept]
  have hJoined : segments (String.intercalate "/" pieces) = pieces.filter (· ≠ "") := by
    induction pieces with
    | nil => rfl
    | cons first rest ih =>
      obtain ⟨hFirst, hRest⟩ := List.forall_mem_cons.mp h
      cases rest with
      | nil => rw [String.intercalate_singleton, hPiece first hFirst]
      | cons next rest =>
        rw [String.intercalate_cons_cons, segments_append_slash, hPiece first hFirst, ih hRest,
          ← List.filter_append]
        rfl
  rw [ofPieces]
  cases absolute with
  | false => rw [if_neg Bool.false_ne_true, String.empty_append, hJoined]
  | true =>
    have hRoot := segments_append_slash "" (String.intercalate "/" pieces)
    rw [String.empty_append, hJoined] at hRoot
    exact hRoot

/-! ### Pieces -/

theorem slash_notMem_of_mem_pieces {piece : String} (h : piece ∈ pieces path) :
    '/' ∉ piece.toList := by
  obtain ⟨chars, hChars, rfl⟩ := List.mem_map.mp h
  rw [String.toList_ofList]
  exact Text.not_mem_of_mem_splitOn hChars

/-- The segments are the pieces that are not empty. -/
theorem filter_pieces (path : String) : (pieces path).filter (· ≠ "") = segments path := by
  have hFilter (texts : List (List Char)) :
      (texts.map String.ofList).filter (· ≠ "") = (texts.filter (· ≠ [])).map String.ofList := by
    rw [List.filter_map]
    congr 1
    refine List.filter_congr fun text _ => decide_eq_decide.mpr (not_congr ?_)
    exact String.ofList_eq_empty_iff
  rw [pieces, segments, hFilter]
  congr 1
  split
  · next hRoot =>
    -- before the slash of the root there is nothing
    obtain ⟨rest, hRest⟩ := List.head?_eq_some_iff.mp (of_decide_eq_true hRoot)
    rw [hRest, List.tail_cons, Text.splitOn, if_pos rfl, List.filter_cons_of_neg (by decide)]
  · rfl

theorem dropIdle_suffix (absolute : Bool) (back : List String) : dropIdle absolute back <:+ back := by
  induction back with
  | nil => exact List.suffix_rfl
  | cons piece before ih =>
    rw [dropIdle]
    split
    · exact ih.trans (List.suffix_cons piece before)
    · exact List.suffix_rfl

/-- What is left begins with a piece that leads somewhere. -/
theorem isIdle_of_dropIdle {absolute : Bool} {back before : List String} {piece : String}
    (h : dropIdle absolute back = piece :: before) : isIdle absolute piece before = false := by
  induction back with
  | nil => cases h
  | cons first rest ih =>
    rw [dropIdle] at h
    split at h
    · exact ih h
    · next hIdle =>
      cases h
      exact Bool.eq_false_iff.mpr hIdle

/-- The first name in reversed pieces is where they first lead somewhere, unless that is a dot. -/
theorem head?_filter_dropIdle (absolute : Bool) (back : List String) :
    ((back.filter (· ≠ "")).filter (· ≠ ".")).head?
      = (dropIdle absolute back).head?.filter (· ≠ ".") := by
  induction back with
  | nil => rfl
  | cons piece before ih =>
    rw [dropIdle, isIdle]
    by_cases hEmpty : piece = ""
    · rw [if_pos (decide_eq_true (.inl hEmpty)), ← ih, hEmpty, List.filter_cons_of_neg (by decide)]
    have hSome : (piece :: before).filter (· ≠ "") = piece :: before.filter (· ≠ "") :=
      List.filter_cons_of_pos (decide_eq_true hEmpty)
    rw [hSome]
    by_cases hDot : piece = "."
    · rw [hDot, List.filter_cons_of_neg (by decide)]
      split
      · exact ih
      · next hKept =>
        -- a dot that counts has nothing before it
        have hBefore : before = [] := by
          by_contra hSome
          exact hKept (decide_eq_true (.inr ⟨rfl, .inr hSome⟩))
        rw [hBefore]
        rfl
    · have hNot : ¬ decide (piece = "" ∨ piece = "." ∧ (absolute = true ∨ before ≠ [])) = true := by
        simp [hEmpty, hDot]
      have hName : (piece :: before.filter (· ≠ "")).filter (· ≠ ".")
          = piece :: (before.filter (· ≠ "")).filter (· ≠ ".") :=
        List.filter_cons_of_pos (decide_eq_true hDot)
      rw [if_neg hNot, hName, List.head?_cons, List.head?_cons, Option.filter_some,
        if_pos (decide_eq_true hDot)]

/-! ### Names -/

/-- **The name of a path is the last of its segments that leads somewhere**, unless that goes up. -/
theorem fileName_eq (path : String) :
    fileName path = ((segments path).filter (· ≠ ".")).getLast?.filter (· ≠ "..") := by
  have hLast : ((segments path).filter (· ≠ ".")).getLast?
      = (trail path).head?.filter (· ≠ ".") := by
    rw [trail, ← head?_filter_dropIdle, ← filter_pieces, List.filter_reverse, List.filter_reverse,
      List.head?_reverse]
  rw [hLast, fileName, Option.filter_filter]
  congr 1
  funext name
  rw [← Bool.decide_and]

/-- **A path that ends in a name has that name.** -/
theorem fileName_of_getLast?_segments (h : (segments path).getLast? = some name)
    (hDot : name ≠ ".") (hUp : name ≠ "..") : fileName path = some name := by
  obtain ⟨init, hInit⟩ := List.getLast?_eq_some_iff.mp h
  have hName : [name].filter (· ≠ ".") = [name] := List.filter_cons_of_pos (decide_eq_true hDot)
  rw [fileName_eq, hInit, List.filter_append, hName, List.getLast?_concat]
  exact Option.filter_eq_some_iff.mpr ⟨rfl, decide_eq_true hUp⟩

/-- The name of a path is the last of its names. -/
theorem getLast?_filter_segments (h : fileName path = some name) :
    ((segments path).filter (· ≠ ".")).getLast? = some name := by
  rw [fileName_eq] at h
  exact (Option.filter_eq_some_iff.mp h).1

theorem mem_segments_of_fileName (h : fileName path = some name) : name ∈ segments path :=
  (List.mem_filter.mp (List.mem_of_getLast? (getLast?_filter_segments h))).1

/-- A path that never goes up and has no name has no names at all. -/
theorem filter_segments_eq_nil (hUp : ".." ∉ segments path) (h : fileName path = none) :
    (segments path).filter (· ≠ ".") = [] := by
  rw [fileName_eq, Option.filter_eq_none_iff] at h
  rw [← List.getLast?_eq_none_iff, Option.eq_none_iff_forall_ne_some]
  intro last hLast
  obtain rfl : last = ".." := by simpa using h last hLast
  exact hUp (List.mem_filter.mp (List.mem_of_getLast? hLast)).1

/-- **A path whose name is replaced ends in the new one**, after segments that were there before. -/
theorem exists_segments_withFileName (path : String) (h : IsName name) :
    ∃ init, segments (withFileName path name) = init ++ [name] ∧
      ∀ segment ∈ init, segment ∈ segments path := by
  rw [withFileName]
  split
  · next directory _ hParent =>
    rw [parent] at hParent
    split at hParent
    · cases hParent
    next last before hTrail =>
    obtain rfl := Option.some.inj hParent
    -- the pieces of the directory are among those of the path
    have hMem : ∀ piece ∈ (dropIdle (isAbsolute path) before).reverse, piece ∈ pieces path := by
      intro piece hPiece
      have hBefore : piece ∈ trail path := by
        rw [hTrail]
        exact List.mem_cons_of_mem last
          ((dropIdle_suffix _ before).subset (List.mem_reverse.mp hPiece))
      exact List.mem_reverse.mp ((dropIdle_suffix _ _).subset hBefore)
    refine ⟨_, by rw [segments_join _ h, segments_ofPieces _ fun piece hPiece =>
      slash_notMem_of_mem_pieces (hMem piece hPiece)], fun segment hSegment => ?_⟩
    obtain ⟨hPiece, hSome⟩ := List.mem_filter.mp hSegment
    rw [← filter_pieces]
    exact List.mem_filter.mpr ⟨hMem segment hPiece, hSome⟩
  · exact ⟨segments path, segments_join path h, fun _ => id⟩

/-! ### Directories -/

/-- **Whether a path goes through a directory**: its pieces begin with those of the directory, and
behind them it leads on. -/
def GoesThrough (path directory : String) : Prop :=
  ∃ above below, pieces path = above ++ below ∧ (∃ piece ∈ below, piece ≠ "" ∧ piece ≠ ".") ∧
    directory = ofPieces (isAbsolute path) above

/-- The paths of reversed pieces are those of what is left of them from a place on. -/
theorem exists_of_mem_paths {absolute : Bool} {back : List String} {directory : String}
    (h : directory ∈ paths absolute back) :
    ∃ above, above <:+ back ∧ directory = ofPieces absolute above.reverse := by
  induction back with
  | nil => cases h
  | cons piece before ih =>
    rw [paths] at h
    split at h
    · obtain ⟨above, hAbove, hDirectory⟩ := ih h
      exact ⟨above, hAbove.trans (List.suffix_cons piece before), hDirectory⟩
    · rcases List.mem_cons.mp h with rfl | hBefore
      · exact ⟨_, List.suffix_rfl, rfl⟩
      · obtain ⟨above, hAbove, hDirectory⟩ := ih hBefore
        exact ⟨above, hAbove.trans (List.suffix_cons piece before), hDirectory⟩

/-- **A path goes through each of its directories.** -/
theorem goesThrough_of_mem_directories {directory : String} (h : directory ∈ directories path) :
    GoesThrough path directory := by
  cases hTrail : trail path with
  | nil =>
    rw [directories, hTrail] at h
    cases h
  | cons last before =>
    rw [directories, hTrail, List.tail_cons] at h
    obtain ⟨above, ⟨between, rfl⟩, hDirectory⟩ := exists_of_mem_paths h
    obtain ⟨behind, hBehind⟩ := dropIdle_suffix (isAbsolute path) (pieces path).reverse
    rw [← trail, hTrail] at hBehind
    have hPieces : pieces path
        = above.reverse ++ (between.reverse ++ last :: behind.reverse) := by
      rw [← List.reverse_reverse (pieces path), ← hBehind]
      simp
    refine ⟨above.reverse, _, hPieces, ⟨last, by simp, ?_⟩, hDirectory⟩
    -- only a dot with nothing before it leads somewhere, and then there is no directory
    have hLast := isIdle_of_dropIdle hTrail
    rw [isIdle, decide_eq_false_iff_not, not_or, not_and_or, not_or, not_not] at hLast
    refine ⟨hLast.1, ?_⟩
    rintro rfl
    obtain hNot | ⟨-, hNil⟩ := hLast.2
    · exact hNot rfl
    · rw [hNil] at h
      cases h

end Path

end CredentialLease
