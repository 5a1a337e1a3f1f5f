import Elektrine.Data.Enum
import Elektrine.Drive.Store

/-!
# Listings of the drive

A folder is listed from all rows of the user: its files by their parent, and its folders by
taking the folder off the paths of everything below it.
-/

namespace Elektrine.Drive

open Elektrine.Library

/-- `String.trim_leading(path, text)`: every copy of the text at the beginning goes. -/
def trimLeading (text path : Path) : Path :=
  if text ≠ [] ∧ text <+: path then trimLeading text (path.drop text.length) else path
termination_by path.length
decreasing_by
  rename_i copied
  have filled := List.length_pos_of_ne_nil copied.1
  have fits := copied.2.length_le
  rw [List.length_drop]
  omega

/-- The first part of `String.split(remainder, "/", parts: 2)`. -/
def firstSegment (remainder : Path) : Path := remainder.takeWhile (· ≠ '/')

def immediateChildFolderFromFile (path currentFolder : Path) : Option Path :=
  let currentPrefix := if currentFolder = [] then [] else currentFolder ++ ['/']
  if currentPrefix <+: path then
    let remainder := if currentPrefix = [] then path else trimLeading currentPrefix path
    if remainder.contains '/' then some (joinPath currentFolder (firstSegment remainder))
    else none
  else none

def immediateChildFolderFromFolder (path currentFolder : Path) : Option Path :=
  if path = currentFolder then none
  else if currentFolder = [] ∧ path.contains '/' = false then some path
  else if currentFolder ≠ [] ∧ currentFolder ++ ['/'] <+: path then
    some (joinPath currentFolder (firstSegment (trimLeading (currentFolder ++ ['/']) path)))
  else none

structure FolderEntry where
  name : Path
  path : Path
  fileCount : Nat
  deriving DecidableEq

structure Sorting where
  sortFolders : List FolderEntry → List FolderEntry
  sortFiles : List StoredFile → List StoredFile
  folders_perm (entries : List FolderEntry) : (sortFolders entries).Perm entries
  files_perm (files : List StoredFile) : (sortFiles files).Perm files

def countFilesUnder (files : List StoredFile) (folderPath : Path) : Nat :=
  files.countP fun file => (folderPath ++ ['/']).isPrefixOf file.path

def folderPaths (tables : Tables) (currentFolder : Path) : List Path :=
  (tables.folders.filterMap (immediateChildFolderFromFolder · currentFolder) ++
    tables.files.filterMap (immediateChildFolderFromFile ·.path currentFolder)).eraseDups

def buildFolderEntries (sorting : Sorting) (tables : Tables) (currentFolder : Path) :
    List FolderEntry :=
  sorting.sortFolders ((folderPaths tables currentFolder).map fun path =>
    ⟨basename path, path, countFilesUnder tables.files path⟩)

structure FolderListing where
  currentFolder : Path
  folders : List FolderEntry
  files : List StoredFile

/-- `list_folder` without search and filter. -/
def listFolder (sorting : Sorting) (tables : Tables) (folderPath : Path) :
    Except DriveError FolderListing :=
  (normalizeFolderPath folderPath).map fun currentFolder =>
    { currentFolder := currentFolder
      folders := buildFolderEntries sorting tables currentFolder
      files := sorting.sortFiles (tables.files.filter fun file =>
        parentFolder file.path == currentFolder) }

/-- The folders and files that are reached from a folder by following the listings, so
many of them deep. -/
def walk (sorting : Sorting) (tables : Tables) : Nat → Path → List (Path ⊕ StoredFile)
  | 0, _ => []
  | depth + 1, folder =>
      match listFolder sorting tables folder with
      | .error _ => []
      | .ok listing =>
          listing.files.map .inr ++ listing.folders.flatMap fun entry =>
            .inl entry.path :: walk sorting tables depth entry.path

/-! ## Stored trees -/

/-- The path of the entry is a name behind the path of the folder. -/
def LiesIn (folder path : Path) : Prop :=
  ∃ name, Segment name ∧ path = joinPath folder name

structure StoredTree (tables : Tables) : Prop where
  folders_nodup : tables.folders.Nodup
  files_nodup : tables.files.Nodup
  normal_folder : ∀ folder ∈ tables.folders, Normal folder
  normal_file : ∀ file ∈ tables.files, Normal file.path
  folder_rooted : ∀ folder ∈ tables.folders, ∀ upper, Below '/' upper folder →
    upper ∈ tables.folders
  file_rooted : ∀ file ∈ tables.files, ∀ upper, Below '/' upper file.path →
    upper ∈ tables.folders

structure ListsExactly (tables : Tables) (folder : Path) (listing : FolderListing) : Prop where
  files_nodup : listing.files.Nodup
  files : ∀ file, file ∈ listing.files ↔ file ∈ tables.files ∧ LiesIn folder file.path
  folders_nodup : (listing.folders.map FolderEntry.path).Nodup
  folders : ∀ path, path ∈ listing.folders.map FolderEntry.path ↔
    path ∈ tables.folders ∧ LiesIn folder path

/-- Every listing shows what lies in the folder, and a walk down from the root that is deep
enough comes to every row once. -/
structure CompleteListings (sorting : Sorting) (tables : Tables) : Prop where
  exact : ∀ folder, folder = [] ∨ folder ∈ tables.folders →
    ∃ listing, listFolder sorting tables folder = .ok listing ∧
      ListsExactly tables folder listing
  reached : ∃ enough, ∀ depth, enough ≤ depth →
    (walk sorting tables depth []).Perm
      (tables.folders.map .inl ++ tables.files.map .inr)

def remainder (folder path : Path) : Path :=
  if folder = [] then path else trimLeading (folder ++ ['/']) path

/-- The name at the beginning of the remainder of an entry below the folder is that of a
folder in it; a file may lie there itself. -/
structure Unrepeated (tables : Tables) (folder : Path) : Prop where
  folders : ∀ path ∈ tables.folders, Below '/' folder path →
    joinPath folder (firstSegment (remainder folder path)) ∈ tables.folders
  files : ∀ file ∈ tables.files, Below '/' folder file.path →
    '/' ∈ remainder folder file.path →
      joinPath folder (firstSegment (remainder folder file.path)) ∈ tables.folders

/-- The folder is listed under its own path, without repetitions; or else both it and the
folder that is listed instead are empty. -/
def ListedRightly (tables : Tables) (folder : Path) : Prop :=
  normalizeFolderPath folder = .ok folder ∧ Unrepeated tables folder ∨
    ∃ other, other ≠ folder ∧ normalizeFolderPath folder = .ok other ∧
      ∀ path, path ∈ tables.folders ∨ (∃ file ∈ tables.files, file.path = path) →
        ¬ LiesIn folder path ∧ ¬ LiesIn other path

/-! ## Paths below a folder -/

theorem Normal.rest {front rest : Path} (normal : Normal (front ++ '/' :: rest)) :
    Normal rest := by
  have parts := normal.2
  rw [List.splitOn_append_cons_self, List.mem_append, not_or] at parts
  refine ⟨?_, parts.2⟩
  intro empty
  apply parts.2
  rw [empty]
  exact List.mem_singleton_self []

theorem cut_firstSegment (path : Path) :
    '/' ∉ path ∧ firstSegment path = path ∨
      ∃ rest, path = firstSegment path ++ '/' :: rest := by
  induction path with
  | nil => exact Or.inl ⟨List.not_mem_nil, rfl⟩
  | cons character path ih =>
      by_cases slash : character = '/'
      · exact Or.inr ⟨path, by simp [firstSegment, slash]⟩
      · have kept : firstSegment (character :: path) = character :: firstSegment path := by
          simp [firstSegment, slash]
        rw [kept]
        rcases ih with whole | cut
        · refine Or.inl ⟨?_, by rw [whole.2]⟩
          intro member
          rcases List.mem_cons.mp member with here | later
          · exact slash here.symm
          · exact whole.1 later
        · obtain ⟨rest, cut⟩ := cut
          exact Or.inr ⟨rest, congrArg (List.cons character) cut⟩

theorem segment_firstSegment {path : Path} (normal : Normal path) :
    Segment (firstSegment path) := by
  constructor
  · intro empty
    rcases cut_firstSegment path with whole | cut
    · exact normal.1 (whole.2.symm.trans empty)
    · obtain ⟨rest, cut⟩ := cut
      rw [empty, List.nil_append] at cut
      apply normal.2
      rw [cut, show '/' :: rest = [] ++ '/' :: rest from rfl, List.splitOn_append_cons_self]
      exact List.mem_append_left _ (List.mem_singleton_self [])
  · intro member
    have test := List.mem_takeWhile_imp member
    simp at test

theorem firstSegment_of_segment {name : Path} (segment : Segment name) :
    firstSegment name = name := by
  rcases cut_firstSegment name with whole | cut
  · exact whole.2
  · obtain ⟨rest, cut⟩ := cut
    apply absurd _ segment.2
    rw [cut]
    simp

theorem trimLeading_append {folder : Path} (rest : Path) :
    trimLeading (folder ++ ['/']) (folder ++ '/' :: rest) =
      trimLeading (folder ++ ['/']) rest := by
  have split : folder ++ '/' :: rest = (folder ++ ['/']) ++ rest := by simp
  rw [trimLeading, split, if_pos ⟨by simp, List.prefix_append _ _⟩, List.drop_left]

theorem normal_trimLeading {folder path : Path} (normal : Normal path) :
    Normal (trimLeading (folder ++ ['/']) path) := by
  induction path using trimLeading.induct (folder ++ ['/']) with
  | case1 path copied ih =>
      rw [trimLeading, if_pos copied]
      apply ih
      obtain ⟨rest, split⟩ := copied.2
      rw [← split, List.drop_left]
      apply @Normal.rest folder rest
      rw [← split] at normal
      simpa using normal
  | case2 path apart =>
      rw [trimLeading, if_neg apart]
      exact normal

theorem remainder_joinPath {folder name : Path} (segment : Segment name) :
    remainder folder (joinPath folder name) = name := by
  unfold remainder joinPath
  by_cases root : folder = []
  · rw [if_pos root, if_pos root]
  · rw [if_neg root, if_neg root, trimLeading_append, trimLeading, if_neg]
    intro copied
    obtain ⟨rest, split⟩ := copied.2
    apply segment.2
    rw [← split]
    simp

theorem entry_on_way {folder path : Path} (normal : Normal path)
    (below : folder = [] ∨ Below '/' folder path) :
    ∃ name, Segment name ∧
      (path = joinPath folder name ∨ Below '/' (joinPath folder name) path) := by
  obtain ⟨rest, whole, proper⟩ : ∃ rest, path = joinPath folder rest ∧ Normal rest := by
    by_cases root : folder = []
    · exact ⟨path, by rw [joinPath, if_pos root], normal⟩
    · obtain ⟨rest, split⟩ := (below.resolve_left root).exists_rest
      rw [split] at normal
      exact ⟨rest, by rw [joinPath, if_neg root, split], normal.rest⟩
  refine ⟨firstSegment rest, segment_firstSegment proper, ?_⟩
  rcases cut_firstSegment rest with single | cut
  · exact Or.inl (by rw [single.2, whole])
  · obtain ⟨last, cut⟩ := cut
    right
    have split : path = joinPath folder (firstSegment rest) ++ '/' :: last := by
      rw [whole]
      unfold joinPath
      split_ifs
      · exact cut
      · rw [List.append_assoc, List.cons_append, ← cut]
    rw [split]
    exact below_append _ last

theorem LiesIn.parent {folder path : Path} (proper : FolderPath folder)
    (lies : LiesIn folder path) : parentFolder path = folder := by
  obtain ⟨name, segment, same⟩ := lies
  rw [same]
  exact proper.parentFolder_joinPath segment

theorem liesIn_iff {folder path : Path} (proper : FolderPath folder) (normal : Normal path) :
    LiesIn folder path ↔ parentFolder path = folder := by
  constructor
  · exact LiesIn.parent proper
  · intro parent
    have parts := normal.joinPath_parent
    rw [parent] at parts
    exact ⟨basename path, parts.2.1, parts.1.symm⟩

/-! ## One listing -/

section

variable {tables : Tables} {folder : Path}

theorem fromFolder_iff (below : folder ≠ []) {path child : Path} :
    immediateChildFolderFromFolder path folder = some child ↔
      Below '/' folder path ∧ child = joinPath folder (firstSegment (remainder folder path)) := by
  unfold immediateChildFolderFromFolder remainder
  constructor
  · intro found
    split_ifs at found with _ root inside
    · exact absurd root.1 below
    · rw [if_neg below]
      exact ⟨inside.2, (Option.some.inj found).symm⟩
  · intro found
    rw [if_neg found.1.ne.symm, if_neg (by simp [below]), if_pos ⟨below, found.1⟩, found.2,
      if_neg below]

theorem fromFolder_root_iff {path child : Path} (normal : Normal path) :
    immediateChildFolderFromFolder path [] = some child ↔ '/' ∉ path ∧ child = path := by
  simp [immediateChildFolderFromFolder, normal.1, eq_comm]

theorem fromFile_iff (below : folder ≠ []) {path child : Path} :
    immediateChildFolderFromFile path folder = some child ↔
      Below '/' folder path ∧ '/' ∈ remainder folder path ∧
        child = joinPath folder (firstSegment (remainder folder path)) := by
  have filled : folder ++ ['/'] ≠ [] := by simp
  simp only [immediateChildFolderFromFile, remainder, if_neg below, if_neg filled,
    List.contains_iff_mem]
  constructor
  · intro found
    split_ifs at found with inside deeper
    exact ⟨inside, deeper, (Option.some.inj found).symm⟩
  · intro found
    obtain ⟨inside, deeper, same⟩ := found
    rw [if_pos (show folder ++ ['/'] <+: path from inside), if_pos deeper, same]

theorem fromFile_root_iff {path child : Path} :
    immediateChildFolderFromFile path [] = some child ↔
      '/' ∈ path ∧ child = firstSegment path := by
  simp [immediateChildFolderFromFile, joinPath, eq_comm]

theorem mem_folderPaths_iff {path : Path} :
    path ∈ folderPaths tables folder ↔
      (∃ stored ∈ tables.folders, immediateChildFolderFromFolder stored folder = some path) ∨
        ∃ file ∈ tables.files, immediateChildFolderFromFile file.path folder = some path := by
  simp [folderPaths, List.mem_eraseDups, List.mem_filterMap]

theorem nodup_folderPaths : (folderPaths tables folder).Nodup := by
  unfold folderPaths
  convert nodup_eraseDups _

theorem seen_of_mem_folderPaths (tree : StoredTree tables) {path : Path}
    (member : path ∈ folderPaths tables folder) :
    LiesIn folder path ∧ ∃ entry, Normal entry ∧ (folder = [] ∨ Below '/' folder entry) ∧
      (entry ∈ tables.folders ∨ ∃ file ∈ tables.files, file.path = entry) := by
  rcases mem_folderPaths_iff.mp member with seen | seen
  · obtain ⟨stored, inside, seen⟩ := seen
    have normal := tree.normal_folder stored inside
    by_cases root : folder = []
    · rw [root] at seen ⊢
      obtain ⟨single, same⟩ := (fromFolder_root_iff normal).mp seen
      rw [same]
      exact ⟨⟨stored, ⟨normal.1, single⟩, rfl⟩, stored, normal, Or.inl rfl, Or.inl inside⟩
    · obtain ⟨below, same⟩ := (fromFolder_iff root).mp seen
      rw [same, remainder, if_neg root]
      exact ⟨⟨_, segment_firstSegment (normal_trimLeading normal), rfl⟩, stored, normal,
        Or.inr below, Or.inl inside⟩
  · obtain ⟨file, inside, seen⟩ := seen
    have normal := tree.normal_file file inside
    by_cases root : folder = []
    · rw [root] at seen ⊢
      rw [(fromFile_root_iff.mp seen).2]
      exact ⟨⟨_, segment_firstSegment normal, rfl⟩, file.path, normal, Or.inl rfl,
        Or.inr ⟨file, inside, rfl⟩⟩
    · obtain ⟨below, _, same⟩ := (fromFile_iff root).mp seen
      rw [same, remainder, if_neg root]
      exact ⟨⟨_, segment_firstSegment (normal_trimLeading normal), rfl⟩, file.path, normal,
        Or.inr below, Or.inr ⟨file, inside, rfl⟩⟩

theorem mem_folderPaths_of_liesIn (tree : StoredTree tables) {path : Path}
    (stored : path ∈ tables.folders) (lies : LiesIn folder path) :
    path ∈ folderPaths tables folder := by
  apply mem_folderPaths_iff.mpr
  refine Or.inl ⟨path, stored, ?_⟩
  obtain ⟨name, segment, same⟩ := lies
  by_cases root : folder = []
  · rw [root] at same ⊢
    rw [fromFolder_root_iff (tree.normal_folder path stored)]
    exact ⟨by rw [same]; exact segment.2, rfl⟩
  · rw [fromFolder_iff root, same, remainder_joinPath segment, firstSegment_of_segment segment]
    refine ⟨?_, rfl⟩
    rw [joinPath, if_neg root]
    exact below_append folder name

theorem stored_of_seen_root (tree : StoredTree tables) {path : Path}
    (member : path ∈ folderPaths tables []) : path ∈ tables.folders := by
  rcases mem_folderPaths_iff.mp member with seen | seen
  · obtain ⟨stored, inside, seen⟩ := seen
    rw [((fromFolder_root_iff (tree.normal_folder stored inside)).mp seen).2]
    exact inside
  · obtain ⟨file, inside, seen⟩ := seen
    obtain ⟨deeper, same⟩ := fromFile_root_iff.mp seen
    apply tree.file_rooted file inside
    rw [same]
    rcases cut_firstSegment file.path with whole | cut
    · exact absurd deeper whole.1
    · obtain ⟨rest, cut⟩ := cut
      have below : Below '/' (firstSegment file.path) (firstSegment file.path ++ '/' :: rest) :=
        below_append _ rest
      rwa [← cut] at below

theorem seen_stored_iff (below : folder ≠ []) :
    (∀ path ∈ folderPaths tables folder, path ∈ tables.folders) ↔
      Unrepeated tables folder := by
  constructor
  · intro stored
    constructor
    · intro path inside under
      apply stored
      exact mem_folderPaths_iff.mpr (Or.inl ⟨path, inside, (fromFolder_iff below).mpr
        ⟨under, rfl⟩⟩)
    · intro file inside under deeper
      apply stored
      exact mem_folderPaths_iff.mpr (Or.inr ⟨file, inside, (fromFile_iff below).mpr
        ⟨under, deeper, rfl⟩⟩)
  · intro unrepeated path member
    rcases mem_folderPaths_iff.mp member with seen | seen
    · obtain ⟨stored, inside, seen⟩ := seen
      obtain ⟨under, same⟩ := (fromFolder_iff below).mp seen
      rw [same]
      exact unrepeated.folders stored inside under
    · obtain ⟨file, inside, seen⟩ := seen
      obtain ⟨under, deeper, same⟩ := (fromFile_iff below).mp seen
      rw [same]
      exact unrepeated.files file inside under deeper

def listingOf (sorting : Sorting) (tables : Tables) (folder : Path) : FolderListing where
  currentFolder := folder
  folders := buildFolderEntries sorting tables folder
  files := sorting.sortFiles (tables.files.filter fun file => parentFolder file.path == folder)

variable {sorting : Sorting}

theorem paths_listingOf :
    ((listingOf sorting tables folder).folders.map FolderEntry.path).Perm
      (folderPaths tables folder) := by
  have shown := (sorting.folders_perm ((folderPaths tables folder).map fun path =>
    ⟨basename path, path, countFilesUnder tables.files path⟩)).map FolderEntry.path
  rw [List.map_map] at shown
  exact shown.trans (.of_eq (List.map_id _))

theorem mem_files_listingOf {file : StoredFile} :
    file ∈ (listingOf sorting tables folder).files ↔
      file ∈ tables.files ∧ parentFolder file.path = folder := by
  rw [listingOf, (sorting.files_perm _).mem_iff, List.mem_filter, beq_iff_eq]

theorem listsExactly_iff (tree : StoredTree tables) (proper : FolderPath folder) :
    ListsExactly tables folder (listingOf sorting tables folder) ↔
      ∀ path ∈ folderPaths tables folder, path ∈ tables.folders := by
  constructor
  · intro exact path member
    exact ((exact.folders path).mp (paths_listingOf.mem_iff.mpr member)).1
  · intro stored
    refine ⟨?_, ?_, ?_, ?_⟩
    · exact (sorting.files_perm _).nodup_iff.mpr (tree.files_nodup.filter _)
    · intro file
      rw [mem_files_listingOf]
      apply and_congr_right
      intro inside
      exact (liesIn_iff proper (tree.normal_file file inside)).symm
    · apply paths_listingOf.nodup_iff.mpr
      exact nodup_folderPaths
    · intro path
      rw [paths_listingOf.mem_iff]
      constructor
      · intro member
        exact ⟨stored path member, (seen_of_mem_folderPaths tree member).1⟩
      · intro lies
        exact mem_folderPaths_of_liesIn tree lies.1 lies.2

theorem listsExactly_other_iff (tree : StoredTree tables) {other : Path}
    (proper : FolderPath folder) (otherProper : FolderPath other) (different : other ≠ folder) :
    ListsExactly tables folder (listingOf sorting tables other) ↔
      ∀ path, path ∈ tables.folders ∨ (∃ file ∈ tables.files, file.path = path) →
        ¬ LiesIn folder path ∧ ¬ LiesIn other path := by
  have apart : ∀ {path}, LiesIn folder path → ¬ LiesIn other path := by
    intro path here there
    exact different ((there.parent otherProper).symm.trans (here.parent proper))
  constructor
  · intro exact path entry
    rcases entry with stored | file
    · constructor
      · intro here
        have shown := (exact.folders path).mpr ⟨stored, here⟩
        exact apart here (seen_of_mem_folderPaths tree (paths_listingOf.mem_iff.mp shown)).1
      · intro there
        have shown := (@paths_listingOf tables other sorting).mem_iff.mpr
          (mem_folderPaths_of_liesIn tree stored there)
        exact apart ((exact.folders path).mp shown).2 there
    · obtain ⟨file, inside, same⟩ := file
      rw [← same]
      have normal := tree.normal_file file inside
      constructor
      · intro here
        have shown := mem_files_listingOf.mp ((exact.files file).mpr ⟨inside, here⟩)
        exact apart here ((liesIn_iff otherProper normal).mpr shown.2)
      · intro there
        have shown : file ∈ (listingOf sorting tables other).files :=
          mem_files_listingOf.mpr ⟨inside, there.parent otherProper⟩
        exact apart ((exact.files file).mp shown).2 there
  · intro empty
    have unseen : folderPaths tables other = [] := by
      apply List.eq_nil_iff_forall_not_mem.mpr
      intro path member
      obtain ⟨_, entry, normal, below, stored⟩ := seen_of_mem_folderPaths tree member
      obtain ⟨name, segment, way⟩ := entry_on_way normal below
      rcases way with same | under
      · exact (empty entry stored).2 ⟨name, segment, same⟩
      · have upper : joinPath other name ∈ tables.folders := by
          rcases stored with stored | file
          · exact tree.folder_rooted entry stored _ under
          · obtain ⟨file, inside, same⟩ := file
            rw [← same] at under
            exact tree.file_rooted file inside _ under
        exact (empty _ (Or.inl upper)).2 ⟨name, segment, rfl⟩
    have nothing : (listingOf sorting tables other).folders.map FolderEntry.path = [] := by
      apply List.Perm.eq_nil
      rw [← unseen]
      exact paths_listingOf
    have noFile : ∀ file, file ∉ (listingOf sorting tables other).files := by
      intro file member
      obtain ⟨inside, parent⟩ := mem_files_listingOf.mp member
      exact (empty file.path (Or.inr ⟨file, inside, rfl⟩)).2
        ((liesIn_iff otherProper (tree.normal_file file inside)).mpr parent)
    refine ⟨?_, ?_, ?_, ?_⟩
    · exact (sorting.files_perm _).nodup_iff.mpr (tree.files_nodup.filter _)
    · intro file
      constructor
      · intro member
        exact absurd member (noFile file)
      · intro lies
        exact absurd lies.2 (empty file.path (Or.inr ⟨file, lies.1, rfl⟩)).1
    · rw [nothing]
      exact List.nodup_nil
    · intro path
      rw [nothing]
      constructor
      · intro member
        cases member
      · intro lies
        exact absurd lies.2 (empty path (Or.inl lies.1)).1

theorem listFolder_ok {other : Path} (named : normalizeFolderPath folder = .ok other) :
    listFolder sorting tables folder = .ok (listingOf sorting tables other) := by
  rw [listFolder, named]
  rfl

theorem exact_iff (tree : StoredTree tables) (stored : folder ∈ tables.folders) :
    (∃ listing, listFolder sorting tables folder = .ok listing ∧
      ListsExactly tables folder listing) ↔ ListedRightly tables folder := by
  have normal := tree.normal_folder folder stored
  cases named : normalizeFolderPath folder with
  | error reason =>
      constructor
      · intro found
        obtain ⟨listing, listed, _⟩ := found
        rw [listFolder, named] at listed
        cases listed
      · intro rightly
        rcases rightly with own | found
        · rw [named] at own
          cases own.1
        · obtain ⟨other, _, its, _⟩ := found
          rw [named] at its
          cases its
  | ok other =>
      have proper := (normalizeFolderPath_ok named).1
      have shown : (∃ listing, listFolder sorting tables folder = .ok listing ∧
          ListsExactly tables folder listing) ↔
            ListsExactly tables folder (listingOf sorting tables other) := by
        rw [listFolder_ok named]
        constructor
        · intro found
          obtain ⟨listing, same, exact⟩ := found
          rw [Except.ok.inj same]
          exact exact
        · intro exact
          exact ⟨_, rfl, exact⟩
      rw [shown]
      unfold ListedRightly
      rw [named]
      by_cases own : other = folder
      · rw [own, listsExactly_iff tree (Or.inr normal), seen_stored_iff normal.1]
        constructor
        · intro unrepeated
          exact Or.inl ⟨rfl, unrepeated⟩
        · intro rightly
          rcases rightly with own | found
          · exact own.2
          · obtain ⟨other, different, same, _⟩ := found
            exact absurd (Except.ok.inj same).symm different
      · rw [listsExactly_other_iff tree (Or.inr normal) proper own]
        constructor
        · intro empty
          exact Or.inr ⟨other, own, rfl, empty⟩
        · intro rightly
          rcases rightly with same | found
          · exact absurd (Except.ok.inj same.1) own
          · obtain ⟨another, _, same, empty⟩ := found
            rw [Except.ok.inj same]
            exact empty

theorem root_exact (tree : StoredTree tables) :
    ∃ listing, listFolder sorting tables [] = .ok listing ∧ ListsExactly tables [] listing := by
  refine ⟨listingOf sorting tables [], listFolder_ok rfl, ?_⟩
  exact (listsExactly_iff tree (Or.inl rfl)).mpr fun _ => stored_of_seen_root tree

/-! ## The walk -/

def pathOf : Path ⊕ StoredFile → Path
  | .inl path => path
  | .inr file => file.path

def Stored (tables : Tables) : Path ⊕ StoredFile → Prop
  | .inl path => path ∈ tables.folders
  | .inr file => file ∈ tables.files

theorem Stored.normal (tree : StoredTree tables) {entry : Path ⊕ StoredFile}
    (stored : Stored tables entry) : Normal (pathOf entry) := by
  cases entry with
  | inl path => exact tree.normal_folder path stored
  | inr file => exact tree.normal_file file stored

theorem Stored.rooted (tree : StoredTree tables) {entry : Path ⊕ StoredFile}
    (stored : Stored tables entry) {upper : Path} (below : Below '/' upper (pathOf entry)) :
    upper ∈ tables.folders := by
  cases entry with
  | inl path => exact tree.folder_rooted path stored upper below
  | inr file => exact tree.file_rooted file stored upper below

theorem length_joinPath {name : Path} (segment : Segment name) :
    folder.length < (joinPath folder name).length := by
  have filled := List.length_pos_of_ne_nil segment.1
  unfold joinPath
  split_ifs with root
  · rw [root]
    exact filled
  · rw [List.length_append, List.length_cons]
    omega

theorem LiesIn.under {path : Path} (lies : LiesIn folder path) :
    folder = [] ∨ Below '/' folder path := by
  obtain ⟨name, _, same⟩ := lies
  by_cases root : folder = []
  · exact Or.inl root
  · right
    rw [same, joinPath, if_neg root]
    exact below_append folder name

theorem LiesIn.not_below {first second : Path} (one : LiesIn folder first)
    (other : LiesIn folder second) : ¬ Below '/' first second := by
  obtain ⟨name, segment, same⟩ := one
  obtain ⟨last, lastSegment, there⟩ := other
  intro below
  rw [there, below_joinPath lastSegment, same] at below
  have longer := @length_joinPath folder name segment
  rcases below.2 with here | upward
  · rw [here] at longer
    exact Nat.lt_irrefl _ longer
  · exact Nat.lt_asymm longer upward.length_lt

/-- Every folder is listed exactly. -/
def AllExact (sorting : Sorting) (tables : Tables) : Prop :=
  ∀ folder, folder = [] ∨ folder ∈ tables.folders →
    ∃ listing, listFolder sorting tables folder = .ok listing ∧
      ListsExactly tables folder listing

theorem mem_walk_succ_iff (exact : AllExact sorting tables) {depth : Nat}
    (known : folder = [] ∨ folder ∈ tables.folders) {entry : Path ⊕ StoredFile} :
    entry ∈ walk sorting tables (depth + 1) folder ↔
      Stored tables entry ∧ LiesIn folder (pathOf entry) ∨
        ∃ child ∈ tables.folders, LiesIn folder child ∧
          entry ∈ walk sorting tables depth child := by
  obtain ⟨listing, listed, its⟩ := exact folder known
  have folders : ∀ path, path ∈ listing.folders.map FolderEntry.path ↔ _ := its.folders
  simp only [walk, listed, List.mem_append, List.mem_map, List.mem_flatMap, List.mem_cons]
    at folders ⊢
  constructor
  · intro member
    rcases member with file | child
    · obtain ⟨file, inside, same⟩ := file
      rw [← same]
      exact Or.inl ((its.files file).mp inside)
    · obtain ⟨child, inside, here | later⟩ := child
      · rw [here]
        exact Or.inl ((folders child.path).mp ⟨child, inside, rfl⟩)
      · obtain ⟨stored, lies⟩ := (folders child.path).mp ⟨child, inside, rfl⟩
        exact Or.inr ⟨child.path, stored, lies, later⟩
  · intro member
    rcases member with own | child
    · cases entry with
      | inl path =>
          obtain ⟨child, inside, same⟩ := (folders path).mpr own
          exact Or.inr ⟨child, inside, Or.inl (congrArg Sum.inl same.symm)⟩
      | inr file => exact Or.inl ⟨file, (its.files file).mpr own, rfl⟩
    · obtain ⟨path, stored, lies, later⟩ := child
      obtain ⟨child, inside, same⟩ := (folders path).mpr ⟨stored, lies⟩
      rw [← same] at later
      exact Or.inr ⟨child, inside, Or.inr later⟩

theorem under_of_mem_walk (tree : StoredTree tables) (exact : AllExact sorting tables)
    {depth : Nat} {entry : Path ⊕ StoredFile} :
    ∀ {folder : Path}, folder = [] ∨ folder ∈ tables.folders →
      entry ∈ walk sorting tables depth folder →
        Stored tables entry ∧ (folder = [] ∨ Below '/' folder (pathOf entry)) := by
  induction depth with
  | zero =>
      intro folder _ member
      cases member
  | succ depth ih =>
      intro folder known member
      rcases (mem_walk_succ_iff exact known).mp member with own | child
      · exact ⟨own.1, own.2.under⟩
      · obtain ⟨child, stored, lies, later⟩ := child
        obtain ⟨kept, below⟩ := ih (Or.inr stored) later
        have under := below.resolve_left (tree.normal_folder child stored).1
        exact ⟨kept, lies.under.imp_right fun upper => upper.trans under⟩

theorem mem_walk (tree : StoredTree tables) (exact : AllExact sorting tables)
    {depth : Nat} {entry : Path ⊕ StoredFile} (stored : Stored tables entry) :
    ∀ {folder : Path}, folder = [] ∨ folder ∈ tables.folders →
      (folder = [] ∨ Below '/' folder (pathOf entry)) →
        (pathOf entry).length < folder.length + depth →
          entry ∈ walk sorting tables depth folder := by
  induction depth with
  | zero =>
      intro folder _ below short
      rcases below with root | below
      · rw [root] at short
        exact absurd short (Nat.not_lt_zero _)
      · exact absurd below.length_lt (Nat.lt_asymm short)
  | succ depth ih =>
      intro folder known below short
      obtain ⟨name, segment, way⟩ := entry_on_way (stored.normal tree) below
      apply (mem_walk_succ_iff exact known).mpr
      rcases way with own | under
      · exact Or.inl ⟨stored, name, segment, own⟩
      · have upper := stored.rooted tree under
        have longer := @length_joinPath folder name segment
        refine Or.inr ⟨_, upper, ⟨name, segment, rfl⟩, ih (Or.inr upper) (Or.inr under) ?_⟩
        omega

theorem at_or_below (tree : StoredTree tables) (exact : AllExact sorting tables)
    {depth : Nat} {child : Path} (stored : child ∈ tables.folders)
    {entry : Path ⊕ StoredFile}
    (member : entry ∈ Sum.inl child :: walk sorting tables depth child) :
    entry = .inl child ∨ Below '/' child (pathOf entry) := by
  rcases List.mem_cons.mp member with here | later
  · exact Or.inl here
  · have under := (under_of_mem_walk tree exact (Or.inr stored) later).2
    exact Or.inr (under.resolve_left (tree.normal_folder child stored).1)

theorem nodup_walk (tree : StoredTree tables) (exact : AllExact sorting tables) {depth : Nat} :
    ∀ {folder : Path}, folder = [] ∨ folder ∈ tables.folders →
      (walk sorting tables depth folder).Nodup := by
  induction depth with
  | zero =>
      intro folder _
      exact List.nodup_nil
  | succ depth ih =>
      intro folder known
      obtain ⟨listing, listed, its⟩ := exact folder known
      have child : ∀ entry ∈ listing.folders,
          entry.path ∈ tables.folders ∧ LiesIn folder entry.path := fun entry member =>
        (its.folders entry.path).mp (List.mem_map_of_mem member)
      simp only [walk, listed]
      apply List.nodup_append.mpr
      refine ⟨its.files_nodup.map fun _ _ same => Sum.inr.inj same, ?_, ?_⟩
      · apply List.nodup_flatMap.mpr
        constructor
        · intro entry member
          obtain ⟨stored, _⟩ := child entry member
          refine List.nodup_cons.mpr ⟨?_, ih (Or.inr stored)⟩
          intro inside
          have below := (under_of_mem_walk tree exact (Or.inr stored) inside).2
          exact (below.resolve_left (tree.normal_folder _ stored).1).ne rfl
        · have apart := List.pairwise_map.mp its.folders_nodup
          apply apart.imp_of_mem
          intro first second inside also different entry one other
          obtain ⟨firstStored, firstLies⟩ := child first inside
          obtain ⟨secondStored, secondLies⟩ := child second also
          rcases at_or_below tree exact firstStored one with here | below
          · rcases at_or_below tree exact secondStored other with there | under
            · rw [here] at there
              exact different (Sum.inl.inj there)
            · rw [here] at under
              exact secondLies.not_below firstLies under
          · rcases at_or_below tree exact secondStored other with there | under
            · rw [there] at below
              exact firstLies.not_below secondLies below
            · rcases below.comparable under with same | upward | downward
              · exact different same
              · exact firstLies.not_below secondLies upward
              · exact secondLies.not_below firstLies downward
      · intro one file other inside same
        obtain ⟨file, listedFile, isFile⟩ := List.mem_map.mp file
        obtain ⟨entry, member, later⟩ := List.mem_flatMap.mp inside
        obtain ⟨stored, lies⟩ := child entry member
        rw [← same, ← isFile] at later
        rcases at_or_below tree exact stored later with here | below
        · cases here
        · exact lies.not_below ((its.files file).mp listedFile).2 below

theorem exists_longest (entries : List (Path ⊕ StoredFile)) :
    ∃ bound, ∀ entry ∈ entries, (pathOf entry).length ≤ bound := by
  induction entries with
  | nil => exact ⟨0, fun _ member => by cases member⟩
  | cons first entries ih =>
      obtain ⟨bound, bounded⟩ := ih
      refine ⟨(pathOf first).length + bound, ?_⟩
      intro entry member
      rcases List.mem_cons.mp member with here | later
      · rw [here]
        exact Nat.le_add_right _ _
      · exact Nat.le_add_left_of_le (bounded entry later)

theorem walk_perm (tree : StoredTree tables) (exact : AllExact sorting tables) :
    ∃ enough, ∀ depth, enough ≤ depth →
      (walk sorting tables depth []).Perm
        (tables.folders.map .inl ++ tables.files.map .inr) := by
  obtain ⟨bound, bounded⟩ := exists_longest
    (tables.folders.map Sum.inl ++ tables.files.map Sum.inr)
  refine ⟨bound + 1, ?_⟩
  intro depth enough
  have rows : (tables.folders.map Sum.inl ++ tables.files.map Sum.inr :
      List (Path ⊕ StoredFile)).Nodup := by
    apply List.nodup_append.mpr
    refine ⟨tree.folders_nodup.map fun _ _ same => Sum.inl.inj same,
      tree.files_nodup.map fun _ _ same => Sum.inr.inj same, ?_⟩
    intro one folder other file same
    obtain ⟨_, _, isFolder⟩ := List.mem_map.mp folder
    obtain ⟨_, _, isFile⟩ := List.mem_map.mp file
    rw [same, ← isFile] at isFolder
    cases isFolder
  apply (List.perm_ext_iff_of_nodup (nodup_walk tree exact (Or.inl rfl)) rows).mpr
  intro entry
  have row_iff : entry ∈ tables.folders.map Sum.inl ++ tables.files.map Sum.inr ↔
      Stored tables entry := by
    cases entry <;> simp [Stored]
  rw [row_iff]
  constructor
  · intro member
    exact (under_of_mem_walk tree exact (Or.inl rfl) member).1
  · intro stored
    apply mem_walk tree exact stored (Or.inl rfl) (Or.inl rfl)
    have short := bounded entry (row_iff.mpr stored)
    rw [List.length_nil]
    omega

end

/-- In a stored tree, every listing is complete and a walk down from the root comes to every
row once, exactly when every folder is listed rightly. -/
theorem complete_listings_iff (sorting : Sorting) (tables : Tables) (tree : StoredTree tables) :
    CompleteListings sorting tables ↔
      ∀ folder ∈ tables.folders, ListedRightly tables folder := by
  constructor
  · intro complete folder stored
    exact (exact_iff tree stored).mp (complete.exact folder (Or.inr stored))
  · intro rightly
    have exact : AllExact sorting tables := by
      intro folder known
      rcases known with root | stored
      · rw [root]
        exact root_exact tree
      · exact (exact_iff tree stored).mpr (rightly folder stored)
    exact ⟨exact, walk_perm tree exact⟩

def keepOrder : Sorting where
  sortFolders entries := entries
  sortFiles files := files
  folders_perm _ := .refl _
  files_perm _ := .refl _

/-- The folders `a`, `a/a` and `a/a/b`. -/
def repeatedNames : Tables where
  folders := [['a'], ['a', '/', 'a'], ['a', '/', 'a', '/', 'b']]
  files := []
  binaries := []

theorem rooted_of_all {folders : List Path} {path : Path}
    (all : (path.inits.all fun front =>
      front.getLast? != some '/' || folders.contains front.dropLast) = true) :
    ∀ upper, Below '/' upper path → upper ∈ folders := by
  intro upper below
  have member : upper ++ ['/'] ∈ path.inits := (List.mem_inits _ _).mpr below
  have checked := List.all_eq_true.mp all _ member
  simpa using checked

theorem repeatedNames_stored : StoredTree repeatedNames where
  folders_nodup := by decide
  files_nodup := List.nodup_nil
  normal_folder := by
    unfold Normal
    decide
  normal_file := by
    intro file member
    cases member
  folder_rooted := by
    intro folder member
    apply rooted_of_all
    revert folder
    decide
  file_rooted := by
    intro file member
    cases member

theorem complete_listings_iff_repeatedNames :
    CompleteListings keepOrder repeatedNames ↔
      ∀ folder ∈ repeatedNames.folders, ListedRightly repeatedNames folder :=
  complete_listings_iff keepOrder repeatedNames repeatedNames_stored

theorem not_complete_listings :
    ¬ ∀ (sorting : Sorting) (tables : Tables), StoredTree tables →
      CompleteListings sorting tables := by
  intro every
  have complete := every keepOrder repeatedNames repeatedNames_stored
  have known : ['a'] ∈ repeatedNames.folders := List.mem_cons_self
  have own : normalizeFolderPath ['a'] = .ok ['a'] := by decide
  have left : remainder ['a'] ['a', '/', 'a', '/', 'b'] = ['b'] := by
    have once := @trimLeading_append ['a'] ['a', '/', 'b']
    have twice := @trimLeading_append ['a'] ['b']
    simp only [List.cons_append, List.nil_append] at once twice
    rw [remainder, if_neg (by decide)]
    simp only [List.cons_append, List.nil_append]
    rw [once, twice, trimLeading, if_neg (by decide)]
  rcases (exact_iff repeatedNames_stored known).mp (complete.exact _ (Or.inr known)) with
    rightly | other
  · have shown := rightly.2.folders ['a', '/', 'a', '/', 'b'] (by decide) (by decide)
    rw [left] at shown
    exact absurd shown (by decide)
  · obtain ⟨other, different, same, _⟩ := other
    rw [own] at same
    exact different (Except.ok.inj same).symm

end Elektrine.Drive
