import Elektrine.Data.Text
import Elektrine.Library.Separated
import Elektrine.Library.TreePaths

/-!
# Paths of the drive

A stored path is a list of segments joined by `/`.  Paths enter through three normalisers,
which trim the whole text, cut it at the slashes and test the segments; they do not trim the
segments.
-/

namespace Elektrine.Drive

open Elektrine.Library

abbrev Path := List Char

inductive DriveError where
  | invalidFolderPath
  | invalidFilename
  | invalidMoveTarget
  | pathTaken
  | notFound
  | emptyFile
  | fileTooLarge
  | storageLimitExceeded
  | storageFailed
  | invalidChange
  | raised
  deriving DecidableEq, Repr

/-- `String.trim` on the characters of a text. -/
def trimSpaces (text : Path) : Path :=
  (text.dropWhile isWhiteSpace).rdropWhile isWhiteSpace

/-- `String.trim(text, "/")`. -/
def trimSlashes (text : Path) : Path :=
  (text.dropWhile (· == '/')).rdropWhile (· == '/')

/-- `String.replace(text, "\\", "/")`. -/
def replaceBackslashes (text : Path) : Path :=
  text.map fun character => if character = '\\' then '/' else character

def join (segments : List Path) : Path := ['/'].intercalate segments

def invalidPathSegment (segment : Path) : Bool :=
  let trimmed := trimSpaces segment
  trimmed.isEmpty || [['.'], ['.', '.']].contains trimmed ||
    trimmed.contains '\x00' || trimmed.contains '/' || trimmed.contains '\\'

/-- `Path.basename`: the last segment that is not empty. -/
def basename (path : Path) : Path := ((pieces '/' path).getLast?).getD []

def normalizeFilename (filename : Path) : Except DriveError Path :=
  let normalized := trimSpaces (basename filename)
  if normalized = [] then .error .invalidFilename
  else if invalidPathSegment normalized then .error .invalidFilename
  else .ok normalized

def normalizeFolderPath (folderPath : Path) : Except DriveError Path :=
  let normalized := replaceBackslashes (trimSlashes (trimSpaces folderPath))
  let segments := pieces '/' normalized
  if normalized = [] then .ok []
  else if segments.any invalidPathSegment then .error .invalidFolderPath
  else .ok (join segments)

def joinPath (folder name : Path) : Path :=
  if folder = [] then name else folder ++ '/' :: name

def normalizeFilePath (path : Path) : Except DriveError Path :=
  let normalized := replaceBackslashes (trimSlashes (trimSpaces path))
  let segments := pieces '/' normalized
  match segments.getLast? with
  | none => .error .invalidFilename
  | some filename =>
      match normalizeFolderPath (join segments.dropLast), normalizeFilename filename with
      | .error reason, _ => .error reason
      | .ok _, .error reason => .error reason
      | .ok folder, .ok name => .ok (joinPath folder name)

def parentFolder (path : Path) : Path := join (pieces '/' path).dropLast

def fileNameFromPath (path : Path) : Path := basename path

def addAncestor (state : List Path × Path) (segment : Path) : List Path × Path :=
  let current := if state.2 = [] then segment else state.2 ++ '/' :: segment
  (state.1 ++ [current], current)

def folderAncestors (folder : Path) : List Path :=
  ((pieces '/' folder).foldl addAncestor ([], [])).1

def replacePrefix (path source target : Path) : Path := relocate '/' source target path

/-- A path is not empty and has no empty segment. -/
def Normal (path : Path) : Prop := path ≠ [] ∧ [] ∉ path.splitOn '/'

theorem Normal.pieces_eq {path : Path} (normal : Normal path) :
    pieces '/' path = path.splitOn '/' := by
  apply List.filter_eq_self.mpr
  intro part member
  have filled : part ≠ [] := by
    intro empty
    rw [empty] at member
    exact normal.2 member
  simpa using filled

theorem Normal.join_pieces {path : Path} (normal : Normal path) :
    join (pieces '/' path) = path :=
  (intercalate_pieces_eq_iff normal.1).mpr normal.2

/-- A segment: not empty and without a slash. -/
def Segment (segment : Path) : Prop := segment ≠ [] ∧ '/' ∉ segment

theorem segment_of_mem_pieces {path segment : Path} (member : segment ∈ pieces '/' path) :
    Segment segment :=
  ⟨ne_nil_of_mem_pieces member, not_mem_of_mem_pieces member⟩

theorem pieces_join {segments : List Path} (proper : ∀ segment ∈ segments, Segment segment) :
    pieces '/' (join segments) = segments :=
  pieces_intercalate_of_pieces proper

theorem join_ne_nil {segments : List Path} (proper : ∀ segment ∈ segments, Segment segment)
    (some_segment : segments ≠ []) : join segments ≠ [] := by
  intro empty
  have cut := pieces_join proper
  rw [empty] at cut
  exact some_segment cut.symm

theorem normal_join {segments : List Path} (proper : ∀ segment ∈ segments, Segment segment)
    (some_segment : segments ≠ []) : Normal (join segments) := by
  have filled := join_ne_nil proper some_segment
  refine ⟨filled, ?_⟩
  rw [← intercalate_pieces_eq_iff filled]
  exact congrArg join (pieces_join proper)

theorem join_append {front back : List Path} (some_front : front ≠ []) (some_back : back ≠ []) :
    join (front ++ back) = join front ++ '/' :: join back := by
  unfold join
  induction front with
  | nil => exact absurd rfl some_front
  | cons first rest ih =>
      by_cases empty : rest = []
      · rw [empty, List.singleton_append, List.intercalate_cons_of_ne_nil some_back]
        simp
      · rw [List.cons_append, List.intercalate_cons_of_ne_nil (by simp [empty]), ih empty,
          List.intercalate_cons_of_ne_nil empty]
        simp

theorem join_singleton (segment : Path) : join [segment] = segment := by
  simp [join]

/-- A folder path is empty (the drive itself) or normal. -/
def FolderPath (folder : Path) : Prop := folder = [] ∨ Normal folder

theorem joinPath_join {segments : List Path} (proper : ∀ segment ∈ segments, Segment segment)
    (name : Path) : joinPath (join segments) name = join (segments ++ [name]) := by
  by_cases empty : segments = []
  · rw [empty, List.nil_append, join_singleton]
    rfl
  · rw [joinPath, if_neg (join_ne_nil proper empty), join_append empty (List.cons_ne_nil _ _),
      join_singleton]

theorem FolderPath.join_pieces {folder : Path} (proper : FolderPath folder) :
    join (pieces '/' folder) = folder := by
  rcases proper with empty | normal
  · rw [empty]
    rfl
  · exact normal.join_pieces

theorem FolderPath.normal_joinPath {folder name : Path} (proper : FolderPath folder)
    (segment : Segment name) : Normal (joinPath folder name) := by
  rw [← proper.join_pieces, joinPath_join fun _ member => segment_of_mem_pieces member]
  apply normal_join
  · intro part member
    rcases List.mem_append.mp member with front | last
    · exact segment_of_mem_pieces front
    · rw [List.mem_singleton.mp last]
      exact segment
  · simp

theorem below_joinPath {folder name upper : Path} (segment : Segment name) :
    Below '/' upper (joinPath folder name) ↔
      folder ≠ [] ∧ (upper = folder ∨ Below '/' upper folder) := by
  unfold joinPath
  split_ifs with empty
  · constructor
    · intro below
      obtain ⟨rest, split⟩ := below.exists_rest
      exact absurd (show '/' ∈ name by rw [split]; simp) segment.2
    · intro both
      exact absurd empty both.1
  · constructor
    · intro below
      refine ⟨empty, ?_⟩
      rcases below.comparable (below_append folder name) with same | upward | downward
      · exact Or.inl same
      · exact Or.inr upward
      · obtain ⟨between, split⟩ := downward.exists_rest
        obtain ⟨rest, whole⟩ := below.exists_rest
        rw [split, List.append_assoc, List.cons_append, List.append_cancel_left_eq,
          List.cons.injEq] at whole
        exact absurd (show '/' ∈ name by rw [whole.2]; simp) segment.2
    · intro both
      rcases both.2 with same | above
      · rw [same]
        exact below_append folder name
      · exact above.trans (below_append folder name)

theorem getLast_getD {parts : List Path} (filled : parts ≠ []) :
    parts.dropLast ++ [(parts.getLast?).getD []] = parts := by
  rw [List.getLast?_eq_some_getLast filled, Option.getD_some]
  exact List.dropLast_append_getLast filled

theorem Normal.joinPath_parent {path : Path} (normal : Normal path) :
    joinPath (parentFolder path) (basename path) = path ∧ Segment (basename path) ∧
      FolderPath (parentFolder path) := by
  have filled : pieces '/' path ≠ [] := by
    intro empty
    have whole := normal.join_pieces
    rw [empty] at whole
    exact normal.1 whole.symm
  have proper : ∀ segment ∈ (pieces '/' path).dropLast, Segment segment := fun segment member =>
    segment_of_mem_pieces (List.mem_of_mem_dropLast member)
  refine ⟨?_, ?_, ?_⟩
  · unfold parentFolder basename
    rw [joinPath_join proper, getLast_getD filled, normal.join_pieces]
  · apply @segment_of_mem_pieces path
    unfold basename
    rw [List.getLast?_eq_some_getLast filled, Option.getD_some]
    exact List.getLast_mem filled
  · unfold parentFolder
    by_cases empty : (pieces '/' path).dropLast = []
    · rw [empty]
      exact Or.inl rfl
    · exact Or.inr (normal_join proper empty)

theorem FolderPath.parentFolder_joinPath {folder name : Path} (proper : FolderPath folder)
    (segment : Segment name) : parentFolder (joinPath folder name) = folder := by
  have front : ∀ part ∈ pieces '/' folder, Segment part := fun _ member =>
    segment_of_mem_pieces member
  have both : ∀ part ∈ pieces '/' folder ++ [name], Segment part := by
    intro part member
    rcases List.mem_append.mp member with earlier | last
    · exact front part earlier
    · rw [List.mem_singleton.mp last]
      exact segment
  have joined : joinPath folder name = join (pieces '/' folder ++ [name]) := by
    rw [← joinPath_join front, proper.join_pieces]
  rw [parentFolder, joined, pieces_join both, List.dropLast_concat, proper.join_pieces]

theorem foldl_addAncestor {segments : List Path}
    (proper : ∀ segment ∈ segments, Segment segment) :
    (segments.foldl addAncestor ([], [])).2 = join segments ∧
      ∀ path, path ∈ (segments.foldl addAncestor ([], [])).1 ↔
        ∃ front back, segments = front ++ back ∧ front ≠ [] ∧ path = join front := by
  induction segments using List.reverseRecOn with
  | nil =>
      refine ⟨rfl, ?_⟩
      intro path
      constructor
      · intro member
        cases member
      · intro found
        obtain ⟨front, back, split, filled, -⟩ := found
        exact absurd (List.append_eq_nil_iff.mp split.symm).1 filled
  | append_singleton segments last ih =>
      have earlier : ∀ segment ∈ segments, Segment segment := fun segment member =>
        proper segment (List.mem_append_left _ member)
      obtain ⟨current, listed⟩ := ih earlier
      have next : (if join segments = [] then last else join segments ++ '/' :: last) =
          join (segments ++ [last]) := joinPath_join earlier last
      rw [List.foldl_append, List.foldl_cons, List.foldl_nil, addAncestor, current, next]
      refine ⟨rfl, ?_⟩
      intro path
      rw [List.mem_append, listed, List.mem_singleton]
      constructor
      · intro found
        rcases found with old | new
        · obtain ⟨front, back, split, filled, same⟩ := old
          exact ⟨front, back ++ [last], by rw [split, List.append_assoc], filled, same⟩
        · exact ⟨segments ++ [last], [], (List.append_nil _).symm, by simp, new⟩
      · intro found
        obtain ⟨front, back, split, filled, same⟩ := found
        rcases List.eq_nil_or_concat back with none_left | some_left
        · right
          rw [none_left, List.append_nil] at split
          rw [same, split]
        · left
          obtain ⟨inner, final, concat⟩ := some_left
          rw [concat, List.concat_eq_append, ← List.append_assoc] at split
          exact ⟨front, inner, List.append_inj_left' split rfl, filled, same⟩

theorem mem_folderAncestors {folder : Path} (normal : Normal folder) {path : Path} :
    path ∈ folderAncestors folder ↔ path = folder ∨ Below '/' path folder := by
  have proper : ∀ segment ∈ pieces '/' folder, Segment segment := fun _ member =>
    segment_of_mem_pieces member
  unfold folderAncestors
  rw [(foldl_addAncestor proper).2]
  constructor
  · intro found
    obtain ⟨front, back, split, filled, same⟩ := found
    have whole := normal.join_pieces
    by_cases none_left : back = []
    · left
      rw [none_left, List.append_nil] at split
      rw [same, ← split, whole]
    · right
      rw [same, ← whole, split, join_append filled none_left]
      exact below_append _ _
  · intro found
    rcases found with same | below
    · exact ⟨pieces '/' folder, [], (List.append_nil _).symm, by
        intro empty
        have whole := normal.join_pieces
        rw [empty] at whole
        exact normal.1 whole.symm, by rw [same, normal.join_pieces]⟩
    · obtain ⟨rest, split⟩ := below.exists_rest
      have cut : folder.splitOn '/' = path.splitOn '/' ++ rest.splitOn '/' := by
        rw [split, List.splitOn_append_cons_self]
      refine ⟨path.splitOn '/', rest.splitOn '/', ?_, List.splitOn_ne_nil _ _, ?_⟩
      · rw [normal.pieces_eq, cut]
      · exact (List.intercalate_splitOn '/').symm

theorem backslash_not_mem_replaceBackslashes (text : Path) : '\\' ∉ replaceBackslashes text := by
  unfold replaceBackslashes
  rw [List.mem_map]
  intro found
  obtain ⟨character, -, same⟩ := found
  split_ifs at same with backslash
  · cases same
  · exact backslash same

theorem mem_of_mem_pieces {text segment : Path} {character : Char}
    (member : segment ∈ pieces '/' text) (inside : character ∈ segment) : character ∈ text := by
  have whole : ['/'].intercalate (text.splitOn '/') = text := List.intercalate_splitOn '/'
  have part := (List.mem_filter.mp member).1
  rw [← whole]
  generalize text.splitOn '/' = parts at part
  induction parts with
  | nil => cases part
  | cons first rest ih =>
      by_cases empty : rest = []
      · rw [empty, List.mem_singleton] at part
        rw [empty, List.intercalate_singleton, ← part]
        exact inside
      · rw [List.intercalate_cons_of_ne_nil empty]
        rcases List.mem_cons.mp part with here | later
        · rw [← here]
          simp [inside]
        · simp [ih later]

theorem not_mem_join {segments : List Path} {character : Char} (differs : character ≠ '/')
    (outside : ∀ segment ∈ segments, character ∉ segment) : character ∉ join segments := by
  induction segments with
  | nil => exact List.not_mem_nil
  | cons first rest ih =>
      have here := outside first List.mem_cons_self
      have later := ih fun segment member => outside segment (List.mem_cons_of_mem _ member)
      by_cases empty : rest = []
      · rw [empty, join_singleton]
        exact here
      · rw [show first :: rest = [first] ++ rest from rfl,
          join_append (List.cons_ne_nil _ _) empty, join_singleton]
        simp [here, later, differs]

theorem normalizeFolderPath_ok {text folder : Path}
    (normalized : normalizeFolderPath text = .ok folder) :
    FolderPath folder ∧ '\\' ∉ folder := by
  unfold normalizeFolderPath at normalized
  simp only at normalized
  split_ifs at normalized
  · cases normalized
    exact ⟨Or.inl rfl, List.not_mem_nil⟩
  · cases normalized
    constructor
    · by_cases empty :
        pieces '/' (replaceBackslashes (trimSlashes (trimSpaces text))) = []
      · rw [empty]
        exact Or.inl rfl
      · exact Or.inr (normal_join (fun _ member => segment_of_mem_pieces member) empty)
    · apply not_mem_join (by decide)
      intro segment member inside
      exact backslash_not_mem_replaceBackslashes _ (mem_of_mem_pieces member inside)

theorem trimSpaces_sublist (text : Path) : (trimSpaces text).Sublist text :=
  (List.rdropWhile_prefix _ _).sublist.trans (List.dropWhile_sublist _)

theorem trimSpaces_trimSpaces (text : Path) : trimSpaces (trimSpaces text) = trimSpaces text := by
  have trimmed := congrArg String.toList (trim_trim (String.ofList text))
  rw [toList_trim, toList_trim, String.toList_ofList] at trimmed
  exact trimmed

theorem normalizeFilename_ok {text name : Path}
    (normalized : normalizeFilename text = .ok name) : Segment name ∧ '\\' ∉ name := by
  unfold normalizeFilename at normalized
  simp only at normalized
  split_ifs at normalized with empty invalid
  cases normalized
  rw [invalidPathSegment, trimSpaces_trimSpaces] at invalid
  simp only [Bool.or_eq_true, not_or, List.contains_iff_mem] at invalid
  exact ⟨⟨empty, invalid.1.2⟩, invalid.2⟩

theorem normalizeFilePath_ok {text path : Path} (normalized : normalizeFilePath text = .ok path) :
    ∃ folder name, path = joinPath folder name ∧ FolderPath folder ∧ Segment name := by
  unfold normalizeFilePath at normalized
  simp only at normalized
  split at normalized
  · cases normalized
  · split at normalized
    · cases normalized
    · cases normalized
    · rename_i folder name read_folder read_name
      cases normalized
      exact ⟨folder, name, rfl, (normalizeFolderPath_ok read_folder).1,
        (normalizeFilename_ok read_name).1⟩

end Elektrine.Drive
