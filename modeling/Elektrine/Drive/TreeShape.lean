import Elektrine.Drive.Store
import Elektrine.Drive.Subtrees
import Elektrine.Library.Runs

/-!
# The drive as a tree

No path is both a file and a folder, nothing is below a file, and everything above a row is
a stored folder.  Folders on the way are created without a look at the files, and the second
normalisation of a path may create other folders than those above the row.
-/

namespace Elektrine.Drive

open Elektrine.Library

def Tables.folderSet (tables : Tables) : Set Path := {path | path ∈ tables.folders}

def Tables.fileSet (tables : Tables) : Set Path := {path | ∃ file ∈ tables.files, file.path = path}

structure IsTree (tables : Tables) : Prop where
  apart : ∀ path, path ∈ tables.fileSet → path ∉ tables.folderSet
  below_file : ∀ file path, file ∈ tables.fileSet → Below '/' file path →
    path ∉ tables.folderSet ∧ path ∉ tables.fileSet
  ancestors : ∀ path, path ∈ tables.folderSet ∪ tables.fileSet → ∀ folder,
    Below '/' folder path → folder ∈ tables.folderSet

structure Shape (tables : Tables) : Prop where
  tree : FolderTree '/' tables.folderSet tables.fileSet
  normal : ∀ file ∈ tables.files, Normal file.path

theorem Shape.isTree {tables : Tables} (shape : Shape tables) : IsTree tables where
  apart := shape.tree.apart
  below_file := fun _ _ stored below => shape.tree.not_below_file stored below
  ancestors := by
    intro path member folder below
    rcases member with stored | stored
    · exact shape.tree.above_folder path stored folder below
    · exact shape.tree.above_file path stored folder below

def Tables.empty : Tables := ⟨[], [], []⟩

theorem shape_empty : Shape Tables.empty where
  tree := by
    have no_folder : Tables.empty.folderSet = ∅ := by
      ext path
      simp [Tables.folderSet, Tables.empty]
    have no_file : Tables.empty.fileSet = ∅ := by
      ext path
      simp [Tables.fileSet, Tables.empty]
    rw [no_folder, no_file]
    exact .empty
  normal := fun _ member => absurd member List.not_mem_nil

theorem Shape.fewerFiles {tables next : Tables} (shape : Shape tables)
    (same_folders : next.folders = tables.folders)
    (files : ∀ file ∈ next.files, ∃ old ∈ tables.files, old.path = file.path) : Shape next where
  tree := by
    have folders_set : next.folderSet = tables.folderSet := by
      unfold Tables.folderSet
      rw [same_folders]
    rw [folders_set]
    apply shape.tree.fewerFiles
    intro path member
    obtain ⟨file, stored, same⟩ := member
    obtain ⟨old, there, equal⟩ := files file stored
    exact ⟨old, there, equal.trans same⟩
  normal := by
    intro file stored
    obtain ⟨old, there, equal⟩ := files file stored
    rw [← equal]
    exact shape.normal old there

theorem Shape.withFile {tables next : Tables} {path : Path} (shape : Shape tables)
    (same_folders : next.folders = tables.folders)
    (files : ∀ file ∈ next.files, file.path = path ∨ ∃ old ∈ tables.files, old.path = file.path)
    (free : path ∉ tables.folders)
    (placed : ∀ upper, Below '/' upper path → upper ∈ tables.folders)
    (normal : Normal path) : Shape next where
  tree := by
    have folders_set : next.folderSet = tables.folderSet := by
      unfold Tables.folderSet
      rw [same_folders]
    rw [folders_set]
    apply (shape.tree.addFile free placed).fewerFiles
    intro other member
    obtain ⟨file, stored, same⟩ := member
    rcases files file stored with here | old
    · exact Or.inl (same.symm.trans here)
    · obtain ⟨old, there, equal⟩ := old
      exact Or.inr ⟨old, there, equal.trans same⟩
  normal := by
    intro file stored
    rcases files file stored with here | old
    · rw [here]
      exact normal
    · obtain ⟨old, there, equal⟩ := old
      rw [← equal]
      exact shape.normal old there

/-- No folder that is created on the way to a folder has the path of a file. -/
def WayClear (tables : Tables) (folder : Path) : Prop :=
  ∀ normalized, normalizeFolderPath folder = .ok normalized →
    ∀ path ∈ folderAncestors normalized, path ∉ tables.fileSet

/-- The folder and those above it are stored, or created on the way. -/
def WayComplete (tables : Tables) (folder : Path) : Prop :=
  ∀ normalized, normalizeFolderPath folder = .ok normalized → folder ≠ [] →
    ∀ upper, upper = folder ∨ Below '/' upper folder →
      upper ∈ tables.folders ∨ upper ∈ folderAncestors normalized

/-- Where the folders on the way can be created, no file is in their place. -/
def CarefulWay (environment : Environment) (tables : Tables) (folder : Path) : Prop :=
  ∀ created, ensureFolderHierarchy environment tables folder = .ok created →
    WayClear tables folder

def CarefulCreate (environment : Environment) (tables : Tables) (path : Path) : Prop :=
  ∀ folder folders, normalizeFolderPath path = .ok folder →
    insertHierarchy environment tables.folders folder = some folders →
    ∀ upper, Below '/' upper folder → upper ∉ tables.fileSet

def CarefulPut (environment : Environment) (tables : Tables) (path : Path) (upload : Upload) :
    Prop :=
  ∀ normalized, putChecks path upload = .ok normalized →
    CarefulWay environment tables (parentFolder normalized) ∧
    (upload.storageKey ≠ none → upload.accepted = true →
      validFile environment normalized = true →
      normalized ∉ tables.folders ∧ WayComplete tables (parentFolder normalized))

def CarefulMoveFile (environment : Environment) (tables : Tables) (fileId : Nat)
    (folderPath : Path) : Prop :=
  ∀ file folder, getFile tables fileId = some file → normalizeFolderPath folderPath = .ok folder →
    CarefulWay environment tables folder ∧
    (validFile environment (joinPath folder (basename file.path)) = true →
      WayComplete tables folder)

def CarefulMove (environment : Environment) (tables : Tables) (sourcePath destination : Path)
    (newName : Option Path) : Prop :=
  ∀ source target, moveChecks tables sourcePath destination newName = .ok (source, target) →
    CarefulWay environment tables (parentFolder target) ∧
    (MoveApplies environment tables sourcePath destination newName source target →
      WayComplete tables (parentFolder target))

def CarefulRename (environment : Environment) (tables : Tables) (folderPath newName : Path) :
    Prop :=
  ∀ folder name, normalizeFolderPath folderPath = .ok folder → folder ≠ [] →
    normalizeFilename newName = .ok name →
    CarefulMove environment tables folder (parentFolder folder) (some name)

def GoesOn {β : Type} : Except DriveError β → Prop
  | .ok _ | .error .notFound => True
  | .error _ => False

def CarefulEach {α β : Type} (operation : Tables → α → Except DriveError β × Tables)
    (Careful : Tables → α → Prop) : Tables → List α → Prop
  | _, [] => True
  | tables, item :: rest =>
      Careful tables item ∧
        (GoesOn (operation tables item).1 →
          CarefulEach operation Careful (operation tables item).2 rest)

theorem insertHierarchy_keeps {environment : Environment} {tables : Tables}
    {folder : Path} {folders : List Path} (shape : Shape tables) (proper : FolderPath folder)
    (ended : insertHierarchy environment tables.folders folder = some folders)
    (clear : ∀ path ∈ folderAncestors folder, path ∉ tables.fileSet) :
    Shape { tables with folders := folders } ∧
      (∀ path ∈ tables.folders, path ∈ folders) ∧
      ∀ path ∈ folderAncestors folder, path ∈ folders := by
  obtain ⟨⟨added, split, listed⟩, present, -⟩ := insertFolders_eq ended
  have kept : ∀ path ∈ tables.folders, path ∈ folders := by
    intro path member
    rw [split]
    exact List.mem_append_left _ member
  refine ⟨⟨?_, shape.normal⟩, kept, present⟩
  have folders_set : ({ tables with folders := folders } : Tables).folderSet =
      tables.folderSet ∪ {path | path ∈ folderAncestors folder} := by
    ext path
    constructor
    · intro member
      have stored : path ∈ folders := member
      rw [split, List.mem_append] at stored
      rcases stored with old | new
      · exact Or.inl old
      · exact Or.inr (listed path new)
    · intro member
      rcases member with old | new
      · exact kept path old
      · exact present path new
  rw [folders_set]
  apply shape.tree.addFolders clear
  intro path member upper below
  have ancestor : path ∈ folderAncestors folder := member
  rcases proper with empty | normal
  · rw [empty] at ancestor
    cases ancestor
  · right
    apply (mem_folderAncestors normal).mpr
    right
    rcases (mem_folderAncestors normal).mp ancestor with same | above
    · rw [same] at below
      exact below
    · exact below.trans above

theorem ensureFolderHierarchy_keeps {environment : Environment} {tables created : Tables}
    {folder : Path} (shape : Shape tables)
    (done : ensureFolderHierarchy environment tables folder = .ok created)
    (careful : CarefulWay environment tables folder) :
    Shape created ∧ (∀ path ∈ tables.folders, path ∈ created.folders) ∧
      (WayComplete tables folder → folder ≠ [] →
        ∀ upper, upper = folder ∨ Below '/' upper folder → upper ∈ created.folders) := by
  have clear := careful created done
  unfold ensureFolderHierarchy at done
  split_ifs at done with empty
  · cases done
    exact ⟨shape, fun _ member => member, fun _ filled => absurd empty filled⟩
  · cases normalized : normalizeFolderPath folder with
    | error reason =>
        rw [normalized] at done
        cases done
    | ok path =>
        simp only [normalized] at done
        cases inserted : insertHierarchy environment tables.folders path with
        | none =>
            rw [inserted] at done
            cases done
        | some folders =>
            rw [inserted] at done
            cases done
            obtain ⟨kept_shape, kept, present⟩ := insertHierarchy_keeps shape
              (normalizeFolderPath_ok normalized).1 inserted (clear path normalized)
            refine ⟨kept_shape, kept, ?_⟩
            intro complete filled upper above
            rcases complete path normalized filled upper above with old | new
            · exact kept upper old
            · exact present upper new

theorem createFolder_keeps {environment : Environment} {tables : Tables} {path : Path}
    (shape : Shape tables) (careful : CarefulCreate environment tables path) :
    Shape (createFolder environment tables path).2 := by
  unfold createFolder
  cases normalized : normalizeFolderPath path with
  | error reason => exact shape
  | ok folder =>
      simp only
      split_ifs with refused
      · exact shape
      · cases inserted : insertHierarchy environment tables.folders folder with
        | none => exact shape
        | some folders =>
            rw [not_or] at refused
            have proper := (normalizeFolderPath_ok normalized).1
            apply (insertHierarchy_keeps shape proper inserted _).1
            intro upper member
            rcases (mem_folderAncestors (proper.resolve_left refused.1)).mp member with same | above
            · intro stored
              obtain ⟨file, there, at_upper⟩ := stored
              apply refused.2
              unfold fileExists
              rw [List.any_eq_true]
              exact ⟨file, there, beq_iff_eq.mpr (at_upper.trans same)⟩
            · exact careful folder folders normalized inserted upper above

theorem persistFile_keeps {environment : Environment} {tables : Tables} {path : Path}
    {upload : Upload} {key : String} (shape : Shape tables) (normal : Normal path)
    (careful : upload.accepted = true → validFile environment path = true →
      path ∉ tables.folders ∧ ∀ upper, Below '/' upper path → upper ∈ tables.folders) :
    Shape (persistFile environment tables path upload key).2 := by
  unfold persistFile
  simp only
  split
  · split_ifs with valid
    · rw [Bool.and_eq_true] at valid
      obtain ⟨free, placed⟩ := careful valid.1 valid.2
      refine shape.withFile rfl ?_ free placed normal
      intro file member
      rcases List.mem_append.mp member with old | new
      · exact Or.inr ⟨file, old, rfl⟩
      · rw [List.mem_singleton.mp new]
        exact Or.inl rfl
    · exact shape.fewerFiles rfl fun file member => ⟨file, member, rfl⟩
  · split_ifs with accepted
    · refine shape.fewerFiles rfl ?_
      intro file member
      obtain ⟨old, stored, same⟩ := List.mem_map.mp member
      refine ⟨old, stored, ?_⟩
      split_ifs at same
      · rw [← same]
      · rw [same]
    · exact shape.fewerFiles rfl fun file member => ⟨file, member, rfl⟩

theorem putChecks_ok {path normalized : Path} {upload : Upload}
    (checked : putChecks path upload = .ok normalized) :
    normalizeFilePath path = .ok normalized := by
  unfold putChecks at checked
  cases read : normalizeFilePath path with
  | error reason =>
      rw [read] at checked
      cases checked
  | ok folder =>
      rw [read] at checked
      simp only at checked
      split_ifs at checked
      rw [Except.ok.injEq] at checked
      rw [checked]

theorem placed_joinPath {folders : List Path} {folder name : Path} (segment : Segment name)
    (stored : folder ≠ [] → ∀ upper, upper = folder ∨ Below '/' upper folder → upper ∈ folders) :
    ∀ upper, Below '/' upper (joinPath folder name) → upper ∈ folders := by
  intro upper below
  obtain ⟨filled, above⟩ := (below_joinPath segment).mp below
  exact stored filled upper above

theorem putFileContent_keeps {environment : Environment} {tables : Tables} {path : Path}
    {upload : Upload} (shape : Shape tables)
    (careful : CarefulPut environment tables path upload) :
    Shape (putFileContent environment tables path upload).2 := by
  unfold putFileContent
  cases checked : putChecks path upload with
  | error reason => exact shape
  | ok normalized =>
      simp only
      obtain ⟨way, rest⟩ := careful normalized checked
      cases done : ensureFolderHierarchy environment tables (parentFolder normalized) with
      | error reason => exact shape
      | ok created =>
          obtain ⟨kept_shape, -, complete⟩ := ensureFolderHierarchy_keeps shape done way
          simp only
          cases stored : upload.storageKey with
          | none => exact kept_shape
          | some key =>
              obtain ⟨folder, name, same, proper, segment⟩ :=
                normalizeFilePath_ok (putChecks_ok checked)
              have parent : parentFolder normalized = folder := by
                rw [same, proper.parentFolder_joinPath segment]
              have normal : Normal normalized := by
                rw [same]
                exact proper.normal_joinPath segment
              apply persistFile_keeps kept_shape normal
              intro accepted valid
              obtain ⟨free, whole⟩ := rest (by rw [stored]; simp) accepted valid
              constructor
              · intro member
                obtain ⟨⟨added, split, short⟩, -⟩ := ensureFolderHierarchy_eq done
                rw [split] at member
                rcases List.mem_append.mp member with old | new
                · exact free old
                · have shorter := short normalized new
                  have longer := parentFolder_length normal
                  omega
              · rw [parent] at complete whole
                rw [same]
                exact placed_joinPath segment (complete whole)

theorem updatePath_keeps {environment : Environment} {tables : Tables} {file : StoredFile}
    {newPath name : Path} (shape : Shape tables) (stored : file ∈ tables.files)
    (normal : Normal newPath) (free : newPath ∉ tables.folders)
    (placed : validFile environment newPath = true →
      ∀ upper, Below '/' upper newPath → upper ∈ tables.folders) :
    Shape (updatePath environment tables file newPath name).2 := by
  unfold updatePath
  split_ifs with valid
  · refine shape.withFile rfl ?_ free ?_ normal
    · intro other member
      obtain ⟨old, there, same⟩ := List.mem_map.mp member
      split_ifs at same
      · rw [← same]
        exact Or.inl rfl
      · exact Or.inr ⟨old, there, by rw [same]⟩
    · rcases valid with unchanged | accepted
      · intro upper below
        apply shape.tree.above_file newPath ⟨file, stored, unchanged.symm⟩ upper below
      · exact placed accepted
  · exact shape

theorem free_of_available {tables : Tables} {path : Path} {existingId : Nat}
    (available : ensureTargetFilePathAvailable tables path existingId = .ok ()) :
    path ∉ tables.folders := by
  unfold ensureTargetFilePathAvailable at available
  split_ifs at available with conflict found
  intro member
  apply found
  unfold folderExists
  rw [List.contains_iff_mem.mpr member]
  simp

theorem renameFile_keeps {environment : Environment} {tables : Tables} {fileId : Nat}
    {newName : Path} (shape : Shape tables) :
    Shape (renameFile environment tables fileId newName).2 := by
  unfold renameFile
  cases found : getFile tables fileId with
  | none => exact shape
  | some file =>
      have stored := List.mem_of_find?_eq_some found
      simp only
      cases named : normalizeFilename newName with
      | error reason => exact shape
      | ok name =>
          simp only
          cases available : ensureTargetFilePathAvailable tables
              (joinPath (parentFolder file.path) name) file.id with
          | error reason => exact shape
          | ok done =>
              obtain ⟨whole, old_segment, proper⟩ := (shape.normal file stored).joinPath_parent
              have segment := (normalizeFilename_ok named).1
              apply updatePath_keeps shape stored (proper.normal_joinPath segment)
                (free_of_available available)
              intro _ upper below
              apply shape.tree.above_file file.path ⟨file, stored, rfl⟩
              rw [← whole]
              exact (below_joinPath old_segment).mpr ((below_joinPath segment).mp below)

theorem moveFile_keeps {environment : Environment} {tables : Tables} {fileId : Nat}
    {folderPath : Path} (shape : Shape tables)
    (careful : CarefulMoveFile environment tables fileId folderPath) :
    Shape (moveFile environment tables fileId folderPath).2 := by
  unfold moveFile
  cases found : getFile tables fileId with
  | none => exact shape
  | some file =>
      have stored := List.mem_of_find?_eq_some found
      simp only
      cases normalized : normalizeFolderPath folderPath with
      | error reason => exact shape
      | ok folder =>
          simp only
          obtain ⟨way, rest⟩ := careful file folder found normalized
          cases done : ensureFolderHierarchy environment tables folder with
          | error reason => exact shape
          | ok created =>
              obtain ⟨kept_shape, -, complete⟩ := ensureFolderHierarchy_keeps shape done way
              obtain ⟨⟨added, split, -⟩, -⟩ := ensureFolderHierarchy_eq done
              have still : file ∈ created.files := by
                rw [split]
                exact stored
              simp only
              cases available : ensureTargetFilePathAvailable created
                  (joinPath folder (basename file.path)) file.id with
              | error reason => exact kept_shape
              | ok free =>
                  have segment := (shape.normal file stored).joinPath_parent.2.1
                  have proper := (normalizeFolderPath_ok normalized).1
                  apply updatePath_keeps kept_shape still (proper.normal_joinPath segment)
                    (free_of_available available)
                  intro valid
                  exact placed_joinPath segment (complete (rest valid))

theorem deleteFile_keeps {environment : Environment} {tables : Tables} {fileId : Nat}
    (shape : Shape tables) : Shape (deleteFile environment tables fileId).2 := by
  unfold deleteFile
  cases getFile tables fileId with
  | none => exact shape
  | some file =>
      simp only
      split_ifs with gone
      · refine shape.fewerFiles rfl ?_
        intro other member
        exact ⟨other, (List.mem_filter.mp member).1, rfl⟩
      · exact shape

def withoutPattern (tables : Tables) (folder : Path) (binaries : List String) : Tables where
  folders := tables.folders.filter fun path => !(path == folder || inPattern folder path)
  files := tables.files.filter fun file => !inPattern folder file.path
  binaries := binaries

theorem folderSet_withoutPattern (tables : Tables) (folder : Path) (binaries : List String) :
    (withoutPattern tables folder binaries).folderSet =
      tables.folderSet \ {path | path = folder ∨ inPattern folder path = true} := by
  ext path
  constructor
  · intro member
    obtain ⟨stored, kept⟩ := List.mem_filter.mp member
    refine ⟨stored, ?_⟩
    intro gone
    rcases gone with same | matched
    · simp [same] at kept
    · simp [matched] at kept
  · intro member
    obtain ⟨stored, outside⟩ := member
    refine List.mem_filter.mpr ⟨stored, ?_⟩
    rw [Bool.not_eq_true', Bool.or_eq_false_iff, beq_eq_false_iff_ne, ← Bool.not_eq_true]
    exact not_or.mp outside

theorem fileSet_withoutPattern (tables : Tables) (folder : Path) (binaries : List String) :
    (withoutPattern tables folder binaries).fileSet =
      tables.fileSet \ {path | inPattern folder path = true} := by
  ext path
  constructor
  · intro member
    obtain ⟨file, there, same⟩ := member
    obtain ⟨stored, kept⟩ := List.mem_filter.mp there
    refine ⟨⟨file, stored, same⟩, ?_⟩
    intro matched
    rw [same, show inPattern folder path = true from matched] at kept
    cases kept
  · intro member
    obtain ⟨⟨file, stored, same⟩, outside⟩ := member
    refine ⟨file, List.mem_filter.mpr ⟨stored, ?_⟩, same⟩
    rw [Bool.not_eq_true', ← Bool.not_eq_true, same]
    exact outside

theorem withoutPattern_keeps {tables : Tables} {folder : Path} (binaries : List String)
    (shape : Shape tables) (unescaped : '\\' ∉ folder) :
    Shape (withoutPattern tables folder binaries) where
  tree := by
    rw [folderSet_withoutPattern, fileSet_withoutPattern]
    apply shape.tree.remove
    intro upper member path below
    have matched : inPattern folder path = true := by
      rcases member with same | pattern
      · rw [same] at below
        exact inPattern_of_below unescaped below
      · obtain ⟨rest, split⟩ := below.exists_rest
        rw [split]
        apply like_append_text _ _ pattern
        rw [List.mem_append, List.mem_singleton, not_or]
        exact ⟨unescaped, by decide⟩
    exact ⟨Or.inr matched, matched⟩
  normal := fun file member => shape.normal file (List.mem_filter.mp member).1

theorem deleteFolder_keeps {environment : Environment} {tables : Tables} {folderPath : Path}
    (shape : Shape tables) : Shape (deleteFolder environment tables folderPath).2 := by
  unfold deleteFolder
  cases normalized : normalizeFolderPath folderPath with
  | error reason => exact shape
  | ok folder =>
      simp only
      split_ifs
      · exact shape
      · exact shape
      · split
        · exact shape.fewerFiles rfl fun file member => ⟨file, member, rfl⟩
        · rename_i binaries _
          exact withoutPattern_keeps binaries shape (normalizeFolderPath_ok normalized).2

theorem normal_of_moved {source target : Path} {file : StoredFile} (normal : Normal file.path)
    (target_normal : Normal target) : Normal (fileChanged source target file).path := by
  unfold fileChanged
  split_ifs with same
  · exact normal
  · change Normal (replacePrefix file.path source target)
    rcases relocate_cases '/' source file.path with at_source | below | away
    · exact absurd at_source same
    · obtain ⟨rest, split⟩ := below
      have parts := normal.2
      rw [split, List.splitOn_append_cons_self, List.mem_append, not_or] at parts
      rw [split, replacePrefix, relocate_below]
      refine ⟨by simp, ?_⟩
      rw [List.splitOn_append_cons_self, List.mem_append, not_or]
      exact ⟨target_normal.2, parts.2⟩
    · rw [replacePrefix, relocate_outside away.1 away.2]
      exact normal

theorem moveRows_keeps {environment : Environment} {tables moved : Tables}
    {source target : Path} (shape : Shape tables) (unescaped : '\\' ∉ source)
    (outside : target ≠ source ∧ ¬ Below '/' source target) (target_normal : Normal target)
    (no_folder : ∀ path ∈ tables.folders, ¬ Inside target path)
    (no_file : ∀ file ∈ tables.files, ¬ Inside target file.path)
    (placed : ∀ upper, Below '/' upper target → upper ∈ tables.folders)
    (ended : moveRows environment tables source target = some moved) : Shape moved := by
  obtain ⟨added, result, only_target, present⟩ := moveRows_eq unescaped ended
  have tree : FolderTree '/'
      ({path | ∃ folder ∈ tables.folderSet, relocate '/' source target folder = path} ∪ {target})
      {path | ∃ file ∈ tables.fileSet,
        (if file = source then file else relocate '/' source target file) = path} := by
    apply shape.tree.relocate
    · exact fun path member => not_or.mp (no_folder path member)
    · intro path member
      obtain ⟨file, stored, same⟩ := member
      rw [← same]
      exact not_or.mp (no_file file stored)
    · exact placed
    · exact outside
  have folders_set : moved.folderSet =
      {path | ∃ folder ∈ tables.folderSet, relocate '/' source target folder = path} ∪
        {target} := by
    ext path
    constructor
    · intro member
      have listed : path ∈ moved.folders := member
      rw [result] at listed
      rcases List.mem_append.mp listed with old | new
      · obtain ⟨folder, stored, same⟩ := List.mem_map.mp old
        exact Or.inl ⟨folder, stored, same⟩
      · exact Or.inr (only_target path new)
    · intro member
      rcases member with old | new
      · obtain ⟨folder, stored, same⟩ := old
        change path ∈ moved.folders
        rw [result, ← same]
        exact List.mem_append_left _ (List.mem_map_of_mem stored)
      · rw [show path = target from new]
        exact present
  have path_changed : ∀ file : StoredFile, (fileChanged source target file).path =
      if file.path = source then file.path else relocate '/' source target file.path := by
    intro file
    unfold fileChanged
    split_ifs
    · rfl
    · rfl
  have files_set : moved.fileSet = {path | ∃ file ∈ tables.fileSet,
      (if file = source then file else relocate '/' source target file) = path} := by
    ext path
    constructor
    · intro member
      obtain ⟨file, listed, same⟩ := member
      rw [result] at listed
      obtain ⟨old, stored, rfl⟩ := List.mem_map.mp listed
      exact ⟨old.path, ⟨old, stored, rfl⟩, (path_changed old).symm.trans same⟩
    · intro member
      obtain ⟨_, ⟨old, stored, rfl⟩, same⟩ := member
      refine ⟨fileChanged source target old, ?_, (path_changed old).trans same⟩
      rw [result]
      exact List.mem_map_of_mem stored
  constructor
  · rw [folders_set, files_set]
    exact tree
  · intro file listed
    rw [result] at listed
    obtain ⟨old, stored, rfl⟩ := List.mem_map.mp listed
    exact normal_of_moved (shape.normal old stored) target_normal

theorem moveFolder_keeps {environment : Environment} {tables : Tables}
    {sourcePath destination : Path} {newName : Option Path} (shape : Shape tables)
    (careful : CarefulMove environment tables sourcePath destination newName) :
    Shape (moveFolder environment tables sourcePath destination newName).2 := by
  unfold moveFolder
  cases checked : moveChecks tables sourcePath destination newName with
  | error reason => exact shape
  | ok checks =>
      obtain ⟨source, target⟩ := checks
      obtain ⟨way, rest⟩ := careful source target checked
      obtain ⟨-, passes⟩ := passes_of_moveChecks checked
      simp only
      cases done : ensureFolderHierarchy environment tables (parentFolder target) with
      | error reason => exact shape
      | ok created =>
          obtain ⟨kept_shape, -, complete⟩ := ensureFolderHierarchy_keeps shape done way
          obtain ⟨⟨between, split, -⟩, -⟩ := ensureFolderHierarchy_eq done
          have same_files : created.files = tables.files := by rw [split]
          simp only
          cases ended : moveRows environment created source target with
          | none => exact kept_shape
          | some moved =>
              obtain ⟨valid_target, valid_folders, valid_files⟩ :=
                valid_of_moveRows passes.source_plain passes.differs (passes.created done) ended
              have applies : MoveApplies environment tables sourcePath destination newName
                  source target :=
                ⟨checked, ⟨created, done, valid_folders⟩, valid_target, same_files ▸ valid_files⟩
              obtain ⟨folder, name, joined, proper, segment⟩ := passes.parts
              have parent : parentFolder target = folder := by
                rw [joined, proper.parentFolder_joinPath segment]
              have whole := rest applies
              rw [parent] at complete whole
              apply moveRows_keeps kept_shape passes.source_plain
                ⟨passes.differs, passes.outside⟩ passes.target_normal (passes.created done)
                (same_files ▸ passes.no_file) _ ended
              rw [joined]
              exact placed_joinPath segment (complete whole)

theorem renameFolder_keeps {environment : Environment} {tables : Tables}
    {folderPath newName : Path} (shape : Shape tables)
    (careful : CarefulRename environment tables folderPath newName) :
    Shape (renameFolder environment tables folderPath newName).2 := by
  unfold renameFolder
  cases normalized : normalizeFolderPath folderPath with
  | error reason => exact shape
  | ok source =>
      simp only
      split_ifs with empty
      · exact shape
      · cases named : normalizeFilename newName with
        | error reason => exact shape
        | ok name => exact moveFolder_keeps shape (careful source name normalized empty named)

theorem eachWhileOk_keeps {α β : Type} {operation : Tables → α → Except DriveError β × Tables}
    {Careful : Tables → α → Prop}
    (keeps : ∀ tables item, Shape tables → Careful tables item →
      Shape (operation tables item).2)
    {tables : Tables} {items : List α} (shape : Shape tables)
    (careful : CarefulEach operation Careful tables items) :
    Shape (eachWhileOk operation tables items).2 := by
  induction items generalizing tables with
  | nil => exact shape
  | cons item items ih =>
      obtain ⟨here, later⟩ := careful
      have next := keeps tables item shape here
      rw [eachWhileOk]
      revert next later
      generalize operation tables item = result
      intro later next
      obtain ⟨outcome, after⟩ := result
      cases outcome with
      | ok value => exact ih next (later trivial)
      | error reason =>
          cases reason with
          | notFound => exact ih next (later trivial)
          | _ => exact next

/-- A bulk move is careful on its way and in each of its moves. -/
def CarefulBulkMove (environment : Environment) (tables : Tables) (selection : Selection)
    (destination : Path) : Prop :=
  ∀ folder created, normalizeFolderPath destination = .ok folder →
    ensureFolderHierarchy environment tables folder = .ok created →
    WayClear tables folder ∧
    CarefulEach (fun next path => moveFolder environment next path folder none)
      (fun next path => CarefulMove environment next path folder none) created
      (shortestFirst selection.folders) ∧
    ((eachWhileOk (fun next path => moveFolder environment next path folder none) created
        (shortestFirst selection.folders)).1 = .ok () →
      CarefulEach (fun next fileId => moveFile environment next fileId folder)
        (fun next fileId => CarefulMoveFile environment next fileId folder)
        (eachWhileOk (fun next path => moveFolder environment next path folder none) created
          (shortestFirst selection.folders)).2 selection.files)

theorem bulkMove_keeps {environment : Environment} {tables : Tables} {selection : Selection}
    {destination : Path} (shape : Shape tables)
    (careful : CarefulBulkMove environment tables selection destination) :
    Shape (bulkMove environment tables selection destination).2 := by
  unfold bulkMove
  cases normalized : normalizeFolderPath destination with
  | error reason => exact shape
  | ok folder =>
      simp only
      cases done : ensureFolderHierarchy environment tables folder with
      | error reason => exact shape
      | ok created =>
          obtain ⟨clear, careful_folders, careful_files⟩ := careful folder created normalized done
          have kept := (ensureFolderHierarchy_keeps shape done fun _ _ => clear).1
          have moved := eachWhileOk_keeps
            (fun _ _ before here => moveFolder_keeps before here) kept careful_folders
          simp only
          revert moved careful_files
          generalize eachWhileOk (fun next path => moveFolder environment next path folder none)
            created (shortestFirst selection.folders) = result
          intro careful_files moved
          obtain ⟨outcome, next⟩ := result
          cases outcome with
          | error reason => exact moved
          | ok value =>
              exact eachWhileOk_keeps (fun _ _ before here => moveFile_keeps before here) moved
                (careful_files rfl)

theorem eachWhileOk_keeps_always {α β : Type}
    {operation : Tables → α → Except DriveError β × Tables}
    (keeps : ∀ tables item, Shape tables → Shape (operation tables item).2)
    {tables : Tables} (items : List α) (shape : Shape tables) :
    Shape (eachWhileOk operation tables items).2 := by
  have always : ∀ (others : List α) (next : Tables),
      CarefulEach operation (fun _ _ => True) next others := by
    intro others
    induction others with
    | nil => exact fun _ => trivial
    | cons item others ih => exact fun next => ⟨trivial, fun _ => ih _⟩
  exact eachWhileOk_keeps (fun next item before _ => keeps next item before) shape
    (always items tables)

theorem bulkDelete_keeps {environment : Environment} {tables : Tables} {selection : Selection}
    (shape : Shape tables) : Shape (bulkDelete environment tables selection).2 := by
  have kept : Shape (eachWhileOk (deleteFolder environment) tables
      (longestFirst selection.folders)).2 :=
    eachWhileOk_keeps_always (fun _ _ before => deleteFolder_keeps before) _ shape
  unfold bulkDelete
  revert kept
  generalize eachWhileOk (deleteFolder environment) tables
    (longestFirst selection.folders) = result
  intro kept
  obtain ⟨outcome, next⟩ := result
  cases outcome with
  | error reason => exact kept
  | ok value =>
      exact eachWhileOk_keeps_always (fun _ _ before => deleteFile_keeps before) _ kept

inductive Request where
  | createFolder (path : Path)
  | putFileContent (path : Path) (upload : Upload)
  | renameFile (fileId : Nat) (newName : Path)
  | moveFile (fileId : Nat) (folderPath : Path)
  | renameFolder (folderPath newName : Path)
  | moveFolder (sourcePath destination : Path)
  | deleteFile (fileId : Nat)
  | deleteFolder (folderPath : Path)
  | bulkDelete (selection : Selection)
  | bulkMove (selection : Selection) (destination : Path)

structure DriveStep where
  environment : Environment
  request : Request

def perform (tables : Tables) (step : DriveStep) : Tables :=
  match step.request with
  | .createFolder path => (createFolder step.environment tables path).2
  | .putFileContent path upload => (putFileContent step.environment tables path upload).2
  | .renameFile fileId newName => (renameFile step.environment tables fileId newName).2
  | .moveFile fileId folderPath => (moveFile step.environment tables fileId folderPath).2
  | .renameFolder folderPath newName =>
      (renameFolder step.environment tables folderPath newName).2
  | .moveFolder sourcePath destination =>
      (moveFolder step.environment tables sourcePath destination none).2
  | .deleteFile fileId => (deleteFile step.environment tables fileId).2
  | .deleteFolder folderPath => (deleteFolder step.environment tables folderPath).2
  | .bulkDelete selection => (bulkDelete step.environment tables selection).2
  | .bulkMove selection destination =>
      (bulkMove step.environment tables selection destination).2

/-- The folders that a request creates on its way take no file's place and are all that its
rows need, and an upload does not take the place of a folder. -/
def Careful (tables : Tables) (step : DriveStep) : Prop :=
  match step.request with
  | .createFolder path => CarefulCreate step.environment tables path
  | .putFileContent path upload => CarefulPut step.environment tables path upload
  | .moveFile fileId folderPath => CarefulMoveFile step.environment tables fileId folderPath
  | .renameFolder folderPath newName => CarefulRename step.environment tables folderPath newName
  | .moveFolder sourcePath destination =>
      CarefulMove step.environment tables sourcePath destination none
  | .bulkMove selection destination =>
      CarefulBulkMove step.environment tables selection destination
  | .renameFile _ _ | .deleteFile _ | .deleteFolder _ | .bulkDelete _ => True

theorem perform_keeps (tables : Tables) (step : DriveStep) (shape : Shape tables)
    (careful : Careful tables step) : Shape (perform tables step) := by
  obtain ⟨environment, request⟩ := step
  cases request with
  | createFolder path => exact createFolder_keeps shape careful
  | putFileContent path upload => exact putFileContent_keeps shape careful
  | renameFile fileId newName => exact renameFile_keeps shape
  | moveFile fileId folderPath => exact moveFile_keeps shape careful
  | renameFolder folderPath newName => exact renameFolder_keeps shape careful
  | moveFolder sourcePath destination => exact moveFolder_keeps shape careful
  | deleteFile fileId => exact deleteFile_keeps shape
  | deleteFolder folderPath => exact deleteFolder_keeps shape
  | bulkDelete selection => exact bulkDelete_keeps shape
  | bulkMove selection destination => exact bulkMove_keeps shape careful

/-- In a run of careful requests the rows form a tree in every state. -/
theorem drive_is_tree {steps : List DriveStep} (careful : Along perform Careful .empty steps)
    (front back : List DriveStep) (split : steps = front ++ back) :
    IsTree (front.foldl perform .empty) := by
  rw [split] at careful
  exact (careful.prefix_of.invariant perform_keeps shape_empty).isTree

def plainEnvironment : Environment := ⟨fun _ => true, fun _ => true⟩

def folderSteps : List DriveStep :=
  [⟨plainEnvironment, .createFolder "a".toList⟩, ⟨plainEnvironment, .createFolder "a/b".toList⟩,
    ⟨plainEnvironment, .deleteFolder "a".toList⟩]

theorem folderSteps_careful : Along perform Careful .empty folderSteps := by
  refine .cons ?_ (.cons ?_ (.cons trivial (.nil _ _ _)))
  · intro folder folders _ _ upper _ stored
    obtain ⟨file, member, -⟩ := stored
    cases member
  · intro folder folders _ _ upper _ stored
    obtain ⟨file, member, -⟩ := stored
    cases member

theorem drive_is_tree_folderSteps :
    Along perform Careful .empty folderSteps ∧ IsTree (folderSteps.foldl perform .empty) :=
  ⟨folderSteps_careful,
    drive_is_tree folderSteps_careful folderSteps [] (List.append_nil _).symm⟩

def smallUpload (fileId : Nat) (key : String) : Upload :=
  ⟨1, "text/plain", true, some key, fileId, true⟩

/-- After uploads to `a` and to `a/b`, the path `a` is both a file and a folder. -/
theorem file_and_folder :
    [DriveStep.mk plainEnvironment (.putFileContent "a".toList (smallUpload 1 "k1")),
        DriveStep.mk plainEnvironment (.putFileContent "a/b".toList (smallUpload 2 "k2"))].foldl
      perform .empty =
        { folders := ["a".toList]
          files :=
            [⟨1, "a".toList, "k1", "a".toList, "text/plain", 1⟩,
              ⟨2, "a/b".toList, "k2", "b".toList, "text/plain", 1⟩]
          binaries := ["k1", "k2"] } ∧
      ¬ IsTree
        { folders := ["a".toList]
          files :=
            [⟨1, "a".toList, "k1", "a".toList, "text/plain", 1⟩,
              ⟨2, "a/b".toList, "k2", "b".toList, "text/plain", 1⟩]
          binaries := ["k1", "k2"] } := by
  constructor
  · decide
  · intro tree
    apply tree.apart "a".toList
    · exact ⟨_, List.mem_cons_self, rfl⟩
    · exact List.mem_cons_self

end Elektrine.Drive
