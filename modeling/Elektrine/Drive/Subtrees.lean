import Elektrine.Drive.Store

/-!
# Folder operations and their subtree

The rows of a folder are selected by a pattern that is made of its raw path.  For a move the
extra rows are left alone by the replacement of the prefix; a deletion deletes them.  Neither
looks at a file whose path is that of the folder itself.
-/

namespace Elektrine.Drive

open Elektrine.Library

/-- The path is that of the folder or lies below it. -/
def Inside (folder path : Path) : Prop := path = folder ∨ Below '/' folder path

instance (folder path : Path) : Decidable (Inside folder path) :=
  inferInstanceAs (Decidable (_ ∨ _))

structure Tables.Unique (tables : Tables) : Prop where
  folders : tables.folders.Nodup
  files : (tables.files.map StoredFile.path).Nodup

def fileMoved (source target : Path) (file : StoredFile) : StoredFile :=
  { file with path := replacePrefix file.path source target }

/-- After a move, each row of the subtree has the target in place of the source, and the
other rows are as they were; folders may have been added on the way to the target. -/
def MoveTouchesOnly (tables : Tables) (source : Path)
    (result : Except DriveError Path × Tables) : Prop :=
  match result.1 with
  | .ok target =>
      (∃ added, result.2.folders =
        tables.folders.map (fun path => replacePrefix path source target) ++ added) ∧
      result.2.files = tables.files.map (fileMoved source target) ∧
      result.2.binaries = tables.binaries
  | .error _ =>
      (∃ added, result.2.folders = tables.folders ++ added) ∧
      result.2.files = tables.files ∧ result.2.binaries = tables.binaries

/-- The binary belongs to a file of the subtree. -/
def BinaryInside (tables : Tables) (folder : Path) (key : String) : Prop :=
  ∃ file ∈ tables.files, Inside folder file.path ∧ file.storageKey = key

/-- A deletion removes the rows of the subtree and their binaries; one that fails leaves
every row and every other binary. -/
def DeleteTouchesOnly (tables : Tables) (folder : Path)
    (result : Except DriveError Unit × Tables) : Prop :=
  match result.1 with
  | .ok () =>
      result.2.folders = tables.folders.filter (fun path => !decide (Inside folder path)) ∧
      result.2.files = tables.files.filter (fun file => !decide (Inside folder file.path)) ∧
      ∀ key, key ∈ result.2.binaries ↔
        key ∈ tables.binaries ∧ ¬ BinaryInside tables folder key
  | .error _ =>
      result.2.folders = tables.folders ∧ result.2.files = tables.files ∧
      ∀ key, (key ∈ result.2.binaries → key ∈ tables.binaries) ∧
        (key ∈ tables.binaries → ¬ BinaryInside tables folder key →
          key ∈ result.2.binaries)

theorem inPattern_of_below {folder path : Path} (unescaped : '\\' ∉ folder)
    (below : Below '/' folder path) : inPattern folder path = true := by
  obtain ⟨rest, split⟩ := below
  rw [inPattern, ← split]
  apply like_of_prefix
  rw [List.mem_append, List.mem_singleton, not_or]
  exact ⟨unescaped, by decide⟩

theorem not_inPattern_self {folder : Path} (unescaped : '\\' ∉ folder) :
    inPattern folder folder = false :=
  not_like_self (by decide) unescaped

theorem free_of_not_folderExists {tables : Tables} {path : Path} (unescaped : '\\' ∉ path)
    (no_folder : folderExists tables path = false) :
    (∀ folder ∈ tables.folders, ¬ Inside path folder) ∧
      ∀ file ∈ tables.files, ¬ Below '/' path file.path := by
  unfold folderExists at no_folder
  simp only [Bool.or_eq_false_iff, List.any_eq_false] at no_folder
  obtain ⟨⟨⟨-, no_row⟩, no_folder_below⟩, no_file_below⟩ := no_folder
  constructor
  · intro folder member inside
    rcases inside with same | below
    · rw [← same, List.contains_iff_mem.mpr member] at no_row
      cases no_row
    · exact no_folder_below folder member (inPattern_of_below unescaped below)
  · intro file member below
    exact no_file_below file member (inPattern_of_below unescaped below)

structure Passes (tables : Tables) (source target : Path) : Prop where
  source_plain : '\\' ∉ source
  source_normal : Normal source
  differs : target ≠ source
  outside : ¬ Below '/' source target
  parts : ∃ folder name, target = joinPath folder name ∧ FolderPath folder ∧ Segment name
  no_folder : ∀ path ∈ tables.folders, ¬ Inside target path
  no_file : ∀ file ∈ tables.files, ¬ Inside target file.path

theorem passes_of_moveChecks {tables : Tables} {sourcePath destination source target : Path}
    {newName : Option Path}
    (checked : moveChecks tables sourcePath destination newName = .ok (source, target)) :
    normalizeFolderPath sourcePath = .ok source ∧ Passes tables source target := by
  unfold moveChecks at checked
  cases read_source : normalizeFolderPath sourcePath with
  | error reason => simp [read_source, bind, Except.bind] at checked
  | ok source' =>
  cases read_folder : normalizeFolderPath destination with
  | error reason => simp [read_source, read_folder, bind, Except.bind] at checked
  | ok folder =>
  simp only [read_source, read_folder, bind, Except.bind] at checked
  split_ifs at checked with empty
  cases found : ensureFolderExists tables source' with
  | error reason => simp [found] at checked
  | ok done =>
  cases read_name : normalizeFilename (newName.getD (basename source')) with
  | error reason => simp [found, read_name] at checked
  | ok name =>
  cases move_target : validateFolderMoveTarget source' (joinPath folder name) with
  | error reason => simp [found, read_name, move_target] at checked
  | ok done =>
  cases available : ensureTargetFolderPathAvailable tables (joinPath folder name) source' with
  | error reason => simp [found, read_name, move_target, available] at checked
  | ok done =>
  simp only [found, read_name, move_target, available, pure, Except.pure, Except.ok.injEq,
    Prod.mk.injEq] at checked
  obtain ⟨rfl, rfl⟩ := checked
  refine ⟨rfl, ?_⟩
  obtain ⟨source_path, source_plain⟩ := normalizeFolderPath_ok read_source
  obtain ⟨folder_path, folder_plain⟩ := normalizeFolderPath_ok read_folder
  obtain ⟨segment, name_plain⟩ := normalizeFilename_ok read_name
  have target_plain : '\\' ∉ joinPath folder name := by
    unfold joinPath
    split_ifs
    · exact name_plain
    · simp [folder_plain, name_plain]
  unfold validateFolderMoveTarget at move_target
  split_ifs at move_target with same nested
  unfold ensureTargetFolderPathAvailable at available
  split_ifs at available with no_folder no_file
  obtain ⟨free_folder, free_below⟩ :=
    free_of_not_folderExists target_plain (Bool.eq_false_iff.mpr no_folder)
  refine ⟨source_plain, source_path.resolve_left empty, same, ?_,
    ⟨folder, name, rfl, folder_path, segment⟩, free_folder, ?_⟩
  · intro below
    exact nested (List.IsPrefix.trans below (List.prefix_append _ _))
  · intro file member inside
    rcases inside with equal | below
    · apply no_file
      unfold fileExists
      rw [List.any_eq_true]
      exact ⟨file, member, beq_iff_eq.mpr equal⟩
    · exact free_below file member below

theorem insertFolders_eq {environment : Environment} {paths folders result : List Path}
    (ended : paths.foldlM (insertFolder environment) folders = some result) :
    (∃ added, result = folders ++ added ∧ ∀ path ∈ added, path ∈ paths) ∧
      (∀ path ∈ paths, path ∈ result) ∧ (folders.Nodup → result.Nodup) := by
  induction paths generalizing folders with
  | nil =>
      cases ended
      exact ⟨⟨[], (List.append_nil _).symm, fun _ member => member⟩,
        fun _ member => absurd member List.not_mem_nil, id⟩
  | cons path paths ih =>
      rw [List.foldlM_cons, insertFolder] at ended
      split_ifs at ended with valid stored
      · obtain ⟨⟨added, split, listed⟩, present, distinct⟩ := ih ended
        refine ⟨⟨added, split, fun other member => List.mem_cons_of_mem _ (listed other member)⟩,
          ?_, distinct⟩
        intro other member
        rcases List.mem_cons.mp member with here | later
        · rw [here, split]
          exact List.mem_append_left _ (List.contains_iff_mem.mp stored)
        · exact present other later
      · obtain ⟨⟨added, split, listed⟩, present, distinct⟩ := ih ended
        refine ⟨⟨path :: added, by rw [split, List.append_assoc]; rfl, ?_⟩, ?_, ?_⟩
        · intro other member
          rcases List.mem_cons.mp member with here | later
          · rw [here]
            exact List.mem_cons_self
          · exact List.mem_cons_of_mem _ (listed other later)
        · intro other member
          rcases List.mem_cons.mp member with here | later
          · rw [here, split]
            simp
          · exact present other later
        · intro once
          apply distinct
          rw [List.nodup_append]
          refine ⟨once, List.nodup_singleton path, ?_⟩
          intro old member new here
          rw [List.mem_singleton.mp here]
          intro same
          rw [← same] at stored
          exact stored (List.contains_iff_mem.mpr member)
      · cases ended

theorem normalizeFolderPath_length {text folder : Path}
    (normalized : normalizeFolderPath text = .ok folder) : folder.length ≤ text.length := by
  unfold normalizeFolderPath at normalized
  simp only at normalized
  split_ifs at normalized
  · cases normalized
    exact Nat.zero_le _
  · cases normalized
    have cut : (['/'].intercalate
        (pieces '/' (replaceBackslashes (trimSlashes (trimSpaces text))))).length ≤
        (replaceBackslashes (trimSlashes (trimSpaces text))).length :=
      length_intercalate_pieces_le _
    have replaced : (replaceBackslashes (trimSlashes (trimSpaces text))).length =
        (trimSlashes (trimSpaces text)).length := List.length_map _
    have slashes : (trimSlashes (trimSpaces text)).length ≤ (trimSpaces text).length :=
      ((List.rdropWhile_prefix _ _).sublist.trans (List.dropWhile_sublist _)).length_le
    have spaces := (trimSpaces_sublist text).length_le
    exact cut.trans (replaced.le.trans (slashes.trans spaces))

theorem ensureFolderHierarchy_eq {environment : Environment} {tables created : Tables}
    {folder : Path} (done : ensureFolderHierarchy environment tables folder = .ok created) :
    (∃ added, created = { tables with folders := tables.folders ++ added } ∧
        ∀ path ∈ added, path.length ≤ folder.length) ∧
      (tables.Unique → created.Unique) := by
  unfold ensureFolderHierarchy at done
  split_ifs at done with empty
  · cases done
    exact ⟨⟨[], by rw [List.append_nil], fun _ member => absurd member List.not_mem_nil⟩, id⟩
  · cases normalized : normalizeFolderPath folder with
    | error reason =>
        rw [normalized] at done
        cases done
    | ok path =>
        simp only [normalized] at done
        cases inserted : insertHierarchy environment tables.folders path with
        | none =>
            rw [inserted] at done
            cases done
        | some folders =>
            rw [inserted] at done
            cases done
            obtain ⟨⟨added, split, listed⟩, -, distinct⟩ := insertFolders_eq inserted
            refine ⟨⟨added, by rw [split], ?_⟩, fun unique => ⟨distinct unique.folders, unique.files⟩⟩
            intro other member
            have ancestor := listed other member
            have shorter := normalizeFolderPath_length normalized
            rcases (normalizeFolderPath_ok normalized).1 with none_left | normal
            · rw [none_left] at ancestor
              cases ancestor
            · rcases (mem_folderAncestors normal).mp ancestor with same | above
              · rw [same]
                exact shorter
              · exact above.length_lt.le.trans shorter

theorem parentFolder_length {path : Path} (normal : Normal path) :
    (parentFolder path).length < path.length := by
  obtain ⟨whole, segment, -⟩ := normal.joinPath_parent
  have lengths := congrArg List.length whole
  unfold joinPath at lengths
  have filled : 0 < (basename path).length := List.length_pos_iff.mpr segment.1
  split_ifs at lengths with empty
  · rw [empty, ← lengths]
    exact filled
  · rw [List.length_append, List.length_cons] at lengths
    omega

theorem Passes.target_normal {tables : Tables} {source target : Path}
    (passes : Passes tables source target) : Normal target := by
  obtain ⟨folder, name, same, path, segment⟩ := passes.parts
  rw [same]
  exact path.normal_joinPath segment

theorem Passes.created {environment : Environment} {tables created : Tables}
    {source target : Path} (passes : Passes tables source target)
    (done : ensureFolderHierarchy environment tables (parentFolder target) = .ok created) :
    ∀ path ∈ created.folders, ¬ Inside target path := by
  obtain ⟨⟨added, split, short⟩, -⟩ := ensureFolderHierarchy_eq done
  rw [split]
  intro path member inside
  rcases List.mem_append.mp member with old | new
  · exact passes.no_folder path old inside
  · have shorter := short path new
    have parent := parentFolder_length passes.target_normal
    rcases inside with same | below
    · rw [same] at shorter
      omega
    · have longer := below.length_lt
      omega

def fileChanged (source target : Path) (file : StoredFile) : StoredFile :=
  if file.path = source then file else fileMoved source target file

theorem folder_changed {source target : Path} (unescaped : '\\' ∉ source) :
    folderColumn.changed (fun path => path == source || inPattern source path)
        (fun path => replacePrefix path source target) =
      fun path => replacePrefix path source target := by
  funext path
  unfold Column.changed
  split_ifs with chosen
  · rfl
  · rw [Bool.or_eq_true, not_or, beq_iff_eq] at chosen
    symm
    apply relocate_outside chosen.1
    intro below
    exact chosen.2 (inPattern_of_below unescaped below)

theorem file_changed {source target : Path} (unescaped : '\\' ∉ source) :
    fileColumn.changed (fun file => inPattern source file.path)
        (fun path => replacePrefix path source target) = fileChanged source target := by
  funext file
  unfold Column.changed fileChanged
  by_cases same : file.path = source
  · rw [if_pos same, if_neg]
    change ¬ inPattern source file.path = true
    rw [same, not_inPattern_self unescaped]
    exact Bool.false_ne_true
  · rw [if_neg same]
    split_ifs with chosen
    · rfl
    · have kept : replacePrefix file.path source target = file.path := by
        apply relocate_outside same
        intro below
        exact chosen (inPattern_of_below unescaped below)
      unfold fileMoved
      rw [kept]

theorem moveRows_eq {environment : Environment} {tables moved : Tables} {source target : Path}
    (unescaped : '\\' ∉ source)
    (ended : moveRows environment tables source target = some moved) :
    ∃ added, moved =
      { folders := tables.folders.map (fun path => replacePrefix path source target) ++ added
        files := tables.files.map (fileChanged source target)
        binaries := tables.binaries } ∧
      (∀ path ∈ added, path = target) ∧ target ∈ moved.folders := by
  unfold moveRows at ended
  split at ended
  · cases ended
  · rename_i folders changed_folders
    have all_folders := Column.changeEach_eq changed_folders
    rw [folder_changed unescaped, List.nil_append] at all_folders
    split at ended
    · cases ended
    · rename_i files changed_files
      have all_files := Column.changeEach_eq changed_files
      rw [file_changed unescaped, List.nil_append] at all_files
      split_ifs at ended with present valid
      · cases ended
        refine ⟨[], by rw [List.append_nil, ← all_folders, all_files], ?_,
          List.contains_iff_mem.mp present⟩
        intro path member
        cases member
      · cases ended
        refine ⟨[target], by rw [← all_folders, all_files], ?_, by simp⟩
        intro path member
        exact List.mem_singleton.mp member

theorem relocation_ends {ρ : Type} (column : Column ρ Path) {accepted : Path → Bool}
    (selected : ρ → Bool) {source target : Path} {rows : List ρ}
    (unique : (rows.map column.read).Nodup)
    (free : ∀ row ∈ rows, ¬ Inside target (column.read row))
    (valid : ∀ row ∈ rows, selected row = true → Inside source (column.read row) →
      accepted (replacePrefix (column.read row) source target) = true) :
    ∃ result, column.changeEach accepted selected
      (fun path => replacePrefix path source target) [] rows = some result := by
  apply Column.changeEach_isSome
  · intro row member chosen moves
    apply valid row member chosen
    rcases relocate_cases '/' source (column.read row) with same | below | away
    · exact Or.inl same
    · obtain ⟨rest, split⟩ := below
      rw [split]
      exact Or.inr (below_append source rest)
    · exact absurd (relocate_outside away.1 away.2) moves
  · rw [show rows.map (fun row => replacePrefix (column.read row) source target) =
      (rows.map column.read).map fun path => replacePrefix path source target by
        rw [List.map_map]; rfl]
    apply List.Nodup.map_on _ unique
    intro first first_member second second_member same
    obtain ⟨row, stored, rfl⟩ := List.mem_map.mp first_member
    obtain ⟨row', stored', rfl⟩ := List.mem_map.mp second_member
    exact relocate_inj (not_or.mp (free row stored)) (not_or.mp (free row' stored')) same
  · intro row _ _ moves other member same
    rw [List.nil_append] at member
    apply free other member
    rw [same]
    exact at_target_of_moved moves

theorem moveRows_isSome {environment : Environment} {tables : Tables} {source target : Path}
    (unescaped : '\\' ∉ source) (unique : tables.Unique)
    (no_folder : ∀ path ∈ tables.folders, ¬ Inside target path)
    (no_file : ∀ file ∈ tables.files, ¬ Inside target file.path)
    (valid_target : validFolder environment target = true)
    (valid_folders : ∀ path ∈ tables.folders, Below '/' source path →
      validFolder environment (replacePrefix path source target) = true)
    (valid_files : ∀ file ∈ tables.files, Below '/' source file.path →
      validFile environment (replacePrefix file.path source target) = true) :
    ∃ moved, moveRows environment tables source target = some moved := by
  have unique_folders : (tables.folders.map folderColumn.read).Nodup := by
    rw [show folderColumn.read = id from rfl, List.map_id]
    exact unique.folders
  have folders_valid : ∀ path ∈ tables.folders,
      (path == source || inPattern source path) = true → Inside source path →
      validFolder environment (replacePrefix path source target) = true := by
    intro path member _ inside
    rcases inside with same | below
    · rw [same]
      exact (congrArg (validFolder environment) relocate_self).trans valid_target
    · exact valid_folders path member below
  have files_valid : ∀ file ∈ tables.files, inPattern source file.path = true →
      Inside source file.path →
      validFile environment (replacePrefix file.path source target) = true := by
    intro file member chosen inside
    rcases inside with same | below
    · rw [same, not_inPattern_self unescaped] at chosen
      cases chosen
    · exact valid_files file member below
  obtain ⟨folders, changed_folders⟩ :=
    relocation_ends folderColumn _ unique_folders no_folder folders_valid
  obtain ⟨files, changed_files⟩ :=
    relocation_ends fileColumn _ unique.files no_file files_valid
  unfold moveRows
  rw [changed_folders]
  simp only
  rw [changed_files]
  simp only [valid_target]
  split_ifs
  · exact ⟨_, rfl⟩
  · exact ⟨_, rfl⟩

structure MoveApplies (environment : Environment) (tables : Tables)
    (sourcePath destination : Path) (newName : Option Path) (source target : Path) : Prop where
  checks : moveChecks tables sourcePath destination newName = .ok (source, target)
  hierarchy : ∃ created,
    ensureFolderHierarchy environment tables (parentFolder target) = .ok created ∧
    ∀ path ∈ created.folders, Below '/' source path →
      validFolder environment (replacePrefix path source target) = true
  valid_target : validFolder environment target = true
  valid_files : ∀ file ∈ tables.files, Below '/' source file.path →
    validFile environment (replacePrefix file.path source target) = true

theorem moveFolder_of_applies {environment : Environment} {tables : Tables}
    {sourcePath destination source target : Path} {newName : Option Path}
    (unique : tables.Unique)
    (applies : MoveApplies environment tables sourcePath destination newName source target) :
    ∃ added, moveFolder environment tables sourcePath destination newName =
      (.ok target,
        { folders := tables.folders.map (fun path => replacePrefix path source target) ++ added
          files := tables.files.map (fileChanged source target)
          binaries := tables.binaries }) := by
  obtain ⟨-, passes⟩ := passes_of_moveChecks applies.checks
  obtain ⟨created, done, valid_folders⟩ := applies.hierarchy
  obtain ⟨⟨between, split, -⟩, keeps⟩ := ensureFolderHierarchy_eq done
  have same_files : created.files = tables.files := by rw [split]
  obtain ⟨moved, ended⟩ := moveRows_isSome passes.source_plain (keeps unique)
    (passes.created done) (same_files ▸ passes.no_file) applies.valid_target valid_folders
    (same_files ▸ applies.valid_files)
  obtain ⟨added, result, -, -⟩ := moveRows_eq passes.source_plain ended
  refine ⟨between.map (fun path => replacePrefix path source target) ++ added, ?_⟩
  unfold moveFolder
  rw [applies.checks]
  simp only
  rw [done]
  simp only
  rw [ended]
  simp only
  rw [result, split, List.map_append, List.append_assoc]

theorem replacePrefix_ne {source target path : Path} (differs : target ≠ source)
    (inside : Inside source path) : replacePrefix path source target ≠ path := by
  intro same
  rcases inside with equal | below
  · rw [equal] at same
    exact differs (relocate_self.symm.trans same)
  · obtain ⟨rest, split⟩ := below.exists_rest
    rw [split, replacePrefix, relocate_below, List.append_left_inj] at same
    exact differs same

theorem valid_of_moveRows {environment : Environment} {tables moved : Tables}
    {source target : Path} (unescaped : '\\' ∉ source) (differs : target ≠ source)
    (no_folder : ∀ path ∈ tables.folders, ¬ Inside target path)
    (ended : moveRows environment tables source target = some moved) :
    validFolder environment target = true ∧
      (∀ path ∈ tables.folders, Below '/' source path →
        validFolder environment (replacePrefix path source target) = true) ∧
      ∀ file ∈ tables.files, Below '/' source file.path →
        validFile environment (replacePrefix file.path source target) = true := by
  unfold moveRows at ended
  split at ended
  · cases ended
  · rename_i folders changed_folders
    have folder_valid : ∀ path ∈ tables.folders, Inside source path →
        validFolder environment (replacePrefix path source target) = true := by
      intro path member inside
      apply Column.accepted_of_changeEach changed_folders member
      · rw [Bool.or_eq_true, beq_iff_eq]
        rcases inside with same | below
        · exact Or.inl same
        · exact Or.inr (inPattern_of_below unescaped below)
      · exact replacePrefix_ne differs inside
    split at ended
    · cases ended
    · rename_i files changed_files
      refine ⟨?_, fun path member below => folder_valid path member (Or.inr below), ?_⟩
      · split_ifs at ended with present valid
        · have all_folders := Column.changeEach_eq changed_folders
          rw [folder_changed unescaped, List.nil_append] at all_folders
          rw [all_folders, List.contains_iff_mem, List.mem_map] at present
          obtain ⟨path, member, same⟩ := present
          rw [← same]
          apply folder_valid path member
          rcases relocate_cases '/' source path with at_source | below | away
          · exact Or.inl at_source
          · obtain ⟨rest, split⟩ := below
            rw [split]
            exact Or.inr (below_append source rest)
          · rw [replacePrefix, relocate_outside away.1 away.2] at same
            exact absurd (Or.inl same) (no_folder path member)
        · exact valid
      · intro file member below
        apply Column.accepted_of_changeEach changed_files member
        · exact inPattern_of_below unescaped below
        · exact replacePrefix_ne differs (Or.inr below)

theorem moveFolder_cases (environment : Environment) (tables : Tables)
    (sourcePath destination : Path) (newName : Option Path) :
    (∃ reason added, moveFolder environment tables sourcePath destination newName =
        (.error reason, { tables with folders := tables.folders ++ added })) ∨
      ∃ source target,
        MoveApplies environment tables sourcePath destination newName source target := by
  unfold moveFolder
  cases checked : moveChecks tables sourcePath destination newName with
  | error reason => exact Or.inl ⟨reason, [], by rw [List.append_nil]⟩
  | ok checks =>
      obtain ⟨source, target⟩ := checks
      obtain ⟨-, passes⟩ := passes_of_moveChecks checked
      simp only
      cases done : ensureFolderHierarchy environment tables (parentFolder target) with
      | error reason => exact Or.inl ⟨reason, [], by rw [List.append_nil]⟩
      | ok created =>
          obtain ⟨⟨between, split, -⟩, -⟩ := ensureFolderHierarchy_eq done
          simp only
          cases ended : moveRows environment created source target with
          | none => exact Or.inl ⟨.raised, between, by rw [split]⟩
          | some moved =>
              obtain ⟨valid_target, valid_folders, valid_files⟩ :=
                valid_of_moveRows passes.source_plain passes.differs (passes.created done) ended
              have same_files : created.files = tables.files := by rw [split]
              exact Or.inr ⟨source, target, checked, ⟨created, done, valid_folders⟩,
                valid_target, same_files ▸ valid_files⟩

theorem fileChanged_eq_of_no_file {tables : Tables} {source target : Path}
    (no_file : ∀ file ∈ tables.files, file.path ≠ source) :
    tables.files.map (fileChanged source target) = tables.files.map (fileMoved source target) := by
  apply List.map_congr_left
  intro file member
  exact if_neg (no_file file member)

theorem moveFolder_touches_iff {environment : Environment} {tables : Tables}
    (unique : tables.Unique) (sourcePath destination : Path) (newName : Option Path) :
    (∀ folder, normalizeFolderPath sourcePath = .ok folder →
        MoveTouchesOnly tables folder
          (moveFolder environment tables sourcePath destination newName)) ↔
      ∀ source target,
        MoveApplies environment tables sourcePath destination newName source target →
        ∀ file ∈ tables.files, file.path ≠ source := by
  constructor
  · intro touches source target applies file member same
    obtain ⟨normalized, passes⟩ := passes_of_moveChecks applies.checks
    obtain ⟨added, result⟩ := moveFolder_of_applies unique applies
    have touched := touches source normalized
    rw [result] at touched
    have files := List.map_inj_left.mp touched.2.1 file member
    rw [fileChanged, if_pos same] at files
    have paths := congrArg StoredFile.path files
    exact replacePrefix_ne passes.differs (Or.inl same) paths.symm
  · intro sound folder normalized
    rcases moveFolder_cases environment tables sourcePath destination newName with
      failed | applied
    · obtain ⟨reason, added, result⟩ := failed
      rw [result]
      exact ⟨⟨added, rfl⟩, rfl, rfl⟩
    · obtain ⟨source, target, applies⟩ := applied
      obtain ⟨same, -⟩ := passes_of_moveChecks applies.checks
      rw [normalized, Except.ok.injEq] at same
      obtain ⟨added, result⟩ := moveFolder_of_applies unique applies
      rw [result, same]
      exact ⟨⟨added, rfl⟩, fileChanged_eq_of_no_file (sound source target applies), rfl⟩

structure NothingMoves (tables : Tables) (folder source target : Path) : Prop where
  folders : ∀ path ∈ tables.folders,
    ¬ Inside source path ∧ replacePrefix path folder target = path
  files : ∀ file ∈ tables.files,
    ¬ Below '/' source file.path ∧ replacePrefix file.path folder target = file.path

/-- A renaming that applies moves the folder that was named, with no file at its path, or,
where the second normalisation changes the path, finds nothing to move. -/
def RenameSound (environment : Environment) (tables : Tables) (folderPath newName : Path) :
    Prop :=
  ∀ folder name source target, normalizeFolderPath folderPath = .ok folder → folder ≠ [] →
    normalizeFilename newName = .ok name →
    MoveApplies environment tables folder (parentFolder folder) (some name) source target →
    (source = folder ∧ ∀ file ∈ tables.files, file.path ≠ folder) ∨
      (source ≠ folder ∧ NothingMoves tables folder source target)

theorem renameFolder_eq {environment : Environment} {tables : Tables}
    {folderPath newName folder name : Path}
    (normalized : normalizeFolderPath folderPath = .ok folder) (filled : folder ≠ [])
    (named : normalizeFilename newName = .ok name) :
    renameFolder environment tables folderPath newName =
      moveFolder environment tables folder (parentFolder folder) (some name) := by
  unfold renameFolder
  rw [normalized]
  simp only [if_neg filled, named]

theorem nothingMoves_of_same {tables : Tables} {folder source target : Path}
    (different : source ≠ folder) (differs : target ≠ source)
    (folders : ∀ path ∈ tables.folders,
      replacePrefix path source target = replacePrefix path folder target)
    (files : ∀ file ∈ tables.files,
      fileChanged source target file = fileMoved folder target file) :
    NothingMoves tables folder source target := by
  constructor
  · intro path member
    have same := folders path member
    have outside := outside_of_same_relocation different differs same
    refine ⟨not_or.mpr outside, ?_⟩
    rw [← same]
    exact relocate_outside outside.1 outside.2
  · intro file member
    have same := congrArg StoredFile.path (files file member)
    unfold fileChanged at same
    split_ifs at same with at_source
    · refine ⟨?_, same.symm⟩
      rw [at_source]
      exact fun below => below.ne rfl
    · have outside := outside_of_same_relocation different differs same
      refine ⟨outside.2, ?_⟩
      exact same.symm.trans (relocate_outside outside.1 outside.2)

theorem same_of_nothingMoves {tables : Tables} {folder source target : Path}
    (nothing : NothingMoves tables folder source target) :
    tables.folders.map (fun path => replacePrefix path source target) =
        tables.folders.map (fun path => replacePrefix path folder target) ∧
      tables.files.map (fileChanged source target) =
        tables.files.map (fileMoved folder target) := by
  constructor
  · apply List.map_congr_left
    intro path member
    obtain ⟨outside, kept⟩ := nothing.folders path member
    rw [kept]
    exact relocate_outside (not_or.mp outside).1 (not_or.mp outside).2
  · apply List.map_congr_left
    intro file member
    obtain ⟨outside, kept⟩ := nothing.files file member
    have same : fileMoved folder target file = file := by
      unfold fileMoved
      rw [kept]
    rw [same]
    unfold fileChanged
    split_ifs with at_source
    · rfl
    · unfold fileMoved
      rw [replacePrefix, relocate_outside at_source outside]

theorem renameFolder_touches_iff {environment : Environment} {tables : Tables}
    (unique : tables.Unique) (folderPath newName : Path) :
    (∀ folder, normalizeFolderPath folderPath = .ok folder →
        MoveTouchesOnly tables folder (renameFolder environment tables folderPath newName)) ↔
      RenameSound environment tables folderPath newName := by
  constructor
  · intro touches folder name source target normalized filled named applies
    obtain ⟨added, result⟩ := moveFolder_of_applies unique applies
    have touched := touches folder normalized
    rw [renameFolder_eq normalized filled named, result] at touched
    obtain ⟨⟨others, folders⟩, files, -⟩ := touched
    have same_folders := (List.append_inj folders (by simp)).1
    have passes := (passes_of_moveChecks applies.checks).2
    by_cases equal : source = folder
    · left
      refine ⟨equal, ?_⟩
      intro file member same
      have paths := congrArg StoredFile.path (List.map_inj_left.mp files file member)
      rw [fileChanged, if_pos (same.trans equal.symm)] at paths
      rw [← equal] at same paths
      exact replacePrefix_ne passes.differs (Or.inl same) paths.symm
    · right
      exact ⟨equal, nothingMoves_of_same equal passes.differs (List.map_inj_left.mp same_folders)
        (List.map_inj_left.mp files)⟩
  · intro sound folder normalized
    by_cases empty : folder = []
    · have result : renameFolder environment tables folderPath newName =
          (.error .invalidFolderPath, tables) := by
        unfold renameFolder
        rw [normalized]
        simp only [if_pos empty]
      rw [result]
      exact ⟨⟨[], (List.append_nil _).symm⟩, rfl, rfl⟩
    · cases named : normalizeFilename newName with
      | error reason =>
          have result : renameFolder environment tables folderPath newName =
              (.error reason, tables) := by
            unfold renameFolder
            rw [normalized]
            simp only [if_neg empty, named]
          rw [result]
          exact ⟨⟨[], (List.append_nil _).symm⟩, rfl, rfl⟩
      | ok name =>
          rw [renameFolder_eq normalized empty named]
          rcases moveFolder_cases environment tables folder (parentFolder folder) (some name) with
            failed | applied
          · obtain ⟨reason, added, result⟩ := failed
            rw [result]
            exact ⟨⟨added, rfl⟩, rfl, rfl⟩
          · obtain ⟨source, target, applies⟩ := applied
            obtain ⟨added, result⟩ := moveFolder_of_applies unique applies
            rw [result]
            rcases sound folder name source target normalized empty named applies with
              here | nothing
            · obtain ⟨same, no_file⟩ := here
              rw [same]
              exact ⟨⟨added, rfl⟩, fileChanged_eq_of_no_file no_file, rfl⟩
            · obtain ⟨same_folders, same_files⟩ := same_of_nothingMoves nothing.2
              exact ⟨⟨added, by rw [same_folders]⟩, same_files, rfl⟩

theorem deleteFileStorageEntries_spec (environment : Environment) (binaries : List String)
    (files : List StoredFile) :
    let (ended, left) := deleteFileStorageEntries environment binaries files
    ∀ key, (key ∈ left → key ∈ binaries) ∧
      (key ∈ binaries → (∀ file ∈ files, file.storageKey ≠ key) → key ∈ left) ∧
      (ended = true → key ∈ left → ∀ file ∈ files, file.storageKey ≠ key) := by
  induction files generalizing binaries with
  | nil =>
      intro key
      exact ⟨id, fun stored _ => stored, fun _ _ _ member => absurd member List.not_mem_nil⟩
  | cons file rest ih =>
      rw [deleteFileStorageEntries]
      split_ifs with gone
      · have later := ih (binaries.filter (· != file.storageKey))
        revert later
        generalize deleteFileStorageEntries environment
          (binaries.filter (· != file.storageKey)) rest = result
        intro later key
        obtain ⟨subset, kept, away⟩ := later key
        rw [List.mem_filter, bne_iff_ne] at subset kept
        refine ⟨fun stored => (subset stored).1, ?_, ?_⟩
        · intro stored none_has
          apply kept ⟨stored, Ne.symm (none_has file List.mem_cons_self)⟩
          intro other member
          exact none_has other (List.mem_cons_of_mem _ member)
        · intro ended stored other member
          rcases List.mem_cons.mp member with here | tail
          · rw [here]
            exact Ne.symm (subset stored).2
          · exact away ended stored other tail
      · intro key
        refine ⟨id, fun stored _ => stored, ?_⟩
        intro impossible
        cases impossible

/-- No file is at the path of the folder, and the pattern selects nothing outside of it. -/
def DeleteSound (tables : Tables) (folderPath : Path) : Prop :=
  ∀ folder, normalizeFolderPath folderPath = .ok folder → folder ≠ [] →
    folderExists tables folder = true →
    (∀ path ∈ tables.folders, inPattern folder path = true → Inside folder path) ∧
    ∀ file ∈ tables.files, file.path ≠ folder ∧
      (inPattern folder file.path = true → Below '/' folder file.path)

theorem deleteFolder_eq {environment : Environment} {tables : Tables}
    {folderPath folder : Path} (normalized : normalizeFolderPath folderPath = .ok folder)
    (filled : folder ≠ []) (found : folderExists tables folder = true) :
    deleteFolder environment tables folderPath =
      match deleteFileStorageEntries environment tables.binaries
          (tables.files.filter fun file => inPattern folder file.path) with
      | (false, binaries) => (.error .storageFailed, { tables with binaries := binaries })
      | (true, binaries) =>
          (.ok (),
            { folders := tables.folders.filter fun path =>
                !(path == folder || inPattern folder path)
              files := tables.files.filter fun file => !inPattern folder file.path
              binaries := binaries }) := by
  unfold deleteFolder
  rw [normalized]
  simp only [if_neg filled, found]
  rfl

theorem deleteFileStorageEntries_all {environment : Environment}
    (deletes : ∀ key, environment.deletes key = true) (binaries : List String)
    (files : List StoredFile) :
    (deleteFileStorageEntries environment binaries files).1 = true := by
  induction files generalizing binaries with
  | nil => rfl
  | cons file rest ih =>
      rw [deleteFileStorageEntries, if_pos (deletes file.storageKey)]
      exact ih _

theorem deleteTouchesOnly_refused (tables : Tables) (folder : Path) (reason : DriveError) :
    DeleteTouchesOnly tables folder (.error reason, tables) :=
  ⟨rfl, rfl, fun _ => ⟨id, fun stored _ => stored⟩⟩

theorem kept_iff {folder path : Path} (unescaped : '\\' ∉ folder)
    (selects : inPattern folder path = true → Inside folder path) :
    (!(path == folder || inPattern folder path)) = !decide (Inside folder path) := by
  congr 1
  rw [Bool.eq_iff_iff, Bool.or_eq_true, beq_iff_eq, decide_eq_true_eq]
  constructor
  · intro chosen
    rcases chosen with same | matched
    · exact Or.inl same
    · exact selects matched
  · intro inside
    rcases inside with same | below
    · exact Or.inl same
    · exact Or.inr (inPattern_of_below unescaped below)

theorem binaryInside_iff {tables : Tables} {folder : Path} (unescaped : '\\' ∉ folder)
    (files_sound : ∀ file ∈ tables.files, file.path ≠ folder ∧
      (inPattern folder file.path = true → Below '/' folder file.path)) (key : String) :
    ¬ BinaryInside tables folder key ↔
      ∀ file ∈ tables.files.filter (fun file => inPattern folder file.path),
        file.storageKey ≠ key := by
  constructor
  · intro outside file chosen same
    obtain ⟨member, matched⟩ := List.mem_filter.mp chosen
    exact outside ⟨file, member, Or.inr ((files_sound file member).2 matched), same⟩
  · intro none_has some_file
    obtain ⟨file, member, inside, same⟩ := some_file
    have below := inside.resolve_left (files_sound file member).1
    exact none_has file (List.mem_filter.mpr ⟨member, inPattern_of_below unescaped below⟩) same

theorem deleteFolder_touches_of_sound {fitsColumn : Path → Bool} {tables : Tables}
    {folderPath folder : Path} (sound : DeleteSound tables folderPath)
    (deletes : String → Bool) (normalized : normalizeFolderPath folderPath = .ok folder)
    (filled : folder ≠ []) (found : folderExists tables folder = true) :
    DeleteTouchesOnly tables folder (deleteFolder ⟨fitsColumn, deletes⟩ tables folderPath) := by
  have unescaped := (normalizeFolderPath_ok normalized).2
  obtain ⟨folders_sound, files_sound⟩ := sound folder normalized filled found
  have none_iff := binaryInside_iff unescaped files_sound
  rw [deleteFolder_eq normalized filled found]
  have spec := deleteFileStorageEntries_spec ⟨fitsColumn, deletes⟩ tables.binaries
    (tables.files.filter fun file => inPattern folder file.path)
  revert spec
  generalize deleteFileStorageEntries _ tables.binaries
    (tables.files.filter fun file => inPattern folder file.path) = result
  obtain ⟨done, binaries⟩ := result
  intro spec
  cases done with
  | false =>
      refine ⟨rfl, rfl, ?_⟩
      intro key
      obtain ⟨subset, kept, -⟩ := spec key
      refine ⟨subset, ?_⟩
      intro stored outside
      exact kept stored ((none_iff key).mp outside)
  | true =>
      refine ⟨?_, ?_, ?_⟩
      · apply List.filter_congr
        intro path member
        exact kept_iff unescaped (folders_sound path member)
      · apply List.filter_congr
        intro file member
        obtain ⟨differs, selects⟩ := files_sound file member
        have same := kept_iff unescaped (fun matched => Or.inr (selects matched))
        rwa [beq_false_of_ne differs, Bool.false_or] at same
      · intro key
        obtain ⟨subset, kept, away⟩ := spec key
        rw [none_iff]
        constructor
        · intro stored
          exact ⟨subset stored, away rfl stored⟩
        · intro both
          exact kept both.1 both.2

/-- A deletion touches its subtree only, however the store behaves, just when the pattern
selects the subtree and no file is at the path of the folder. -/
theorem deleteFolder_touches_iff (fitsColumn : Path → Bool) (tables : Tables)
    (folderPath : Path) :
    (∀ deletes folder, normalizeFolderPath folderPath = .ok folder →
        DeleteTouchesOnly tables folder
          (deleteFolder ⟨fitsColumn, deletes⟩ tables folderPath)) ↔
      DeleteSound tables folderPath := by
  constructor
  · intro touches folder normalized filled found
    have touched := touches (fun _ => true) folder normalized
    rw [deleteFolder_eq normalized filled found] at touched
    have ended : (deleteFileStorageEntries ⟨fitsColumn, fun _ => true⟩ tables.binaries
        (tables.files.filter fun file => inPattern folder file.path)).1 = true :=
      deleteFileStorageEntries_all (fun _ => rfl) tables.binaries _
    revert touched ended
    generalize deleteFileStorageEntries _ tables.binaries
      (tables.files.filter fun file => inPattern folder file.path) = result
    intro touched ended
    obtain ⟨done, binaries⟩ := result
    cases ended
    obtain ⟨folders, files, -⟩ := touched
    simp only at folders files
    have unescaped := (normalizeFolderPath_ok normalized).2
    constructor
    · intro path member matched
      by_contra outside
      have kept : path ∈ tables.folders.filter fun path => !decide (Inside folder path) :=
        List.mem_filter.mpr ⟨member, by simp [outside]⟩
      rw [← folders, List.mem_filter, matched, Bool.or_true] at kept
      cases kept.2
    · intro file member
      have differs : file.path ≠ folder := by
        intro same
        have kept : file ∈ tables.files.filter fun file => !inPattern folder file.path := by
          rw [List.mem_filter, same, not_inPattern_self unescaped]
          exact ⟨member, rfl⟩
        rw [files, List.mem_filter, same] at kept
        have outside := kept.2
        rw [Bool.not_eq_true', decide_eq_false_iff_not] at outside
        exact outside (Or.inl rfl)
      refine ⟨differs, ?_⟩
      intro matched
      by_contra outside
      have kept : file ∈ tables.files.filter fun file => !decide (Inside folder file.path) :=
        List.mem_filter.mpr ⟨member, by simp [Inside, differs, outside]⟩
      rw [← files, List.mem_filter, matched] at kept
      cases kept.2
  · intro sound deletes folder normalized
    by_cases filled : folder = []
    · have refused : deleteFolder ⟨fitsColumn, deletes⟩ tables folderPath =
          (.error .invalidFolderPath, tables) := by
        unfold deleteFolder
        rw [normalized]
        simp only [if_pos filled]
      rw [refused]
      exact deleteTouchesOnly_refused tables folder _
    · cases found : folderExists tables folder with
      | false =>
          have refused : deleteFolder ⟨fitsColumn, deletes⟩ tables folderPath =
              (.error .notFound, tables) := by
            unfold deleteFolder
            rw [normalized]
            simp only [if_neg filled, found]
            rfl
          rw [refused]
          exact deleteTouchesOnly_refused tables folder _
      | true =>
          exact deleteFolder_touches_of_sound sound deletes normalized filled found

/-- A move that applies finds no file at the path of the folder. -/
def MoveSound (environment : Environment) (tables : Tables) (sourcePath destination : Path)
    (newName : Option Path) : Prop :=
  ∀ source target,
    MoveApplies environment tables sourcePath destination newName source target →
    ∀ file ∈ tables.files, file.path ≠ source

/-- When the operations on the folder that a path names touch its subtree only. -/
theorem folder_operations_touch_iff (environment : Environment) (tables : Tables)
    (unique : tables.Unique) :
    (∀ sourcePath destination newName,
      (∀ folder, normalizeFolderPath sourcePath = .ok folder →
        MoveTouchesOnly tables folder
          (moveFolder environment tables sourcePath destination newName)) ↔
      MoveSound environment tables sourcePath destination newName) ∧
    (∀ folderPath newName,
      (∀ folder, normalizeFolderPath folderPath = .ok folder →
        MoveTouchesOnly tables folder (renameFolder environment tables folderPath newName)) ↔
      RenameSound environment tables folderPath newName) ∧
    ∀ folderPath,
      (∀ deletes folder, normalizeFolderPath folderPath = .ok folder →
        DeleteTouchesOnly tables folder
          (deleteFolder ⟨environment.fitsColumn, deletes⟩ tables folderPath)) ↔
      DeleteSound tables folderPath :=
  ⟨fun sourcePath destination newName => moveFolder_touches_iff unique sourcePath destination newName,
    fun folderPath newName => renameFolder_touches_iff unique folderPath newName,
    fun folderPath => deleteFolder_touches_iff environment.fitsColumn tables folderPath⟩

/-- The folders `a_b` and `axb` with one file in each. -/
def siblings : Tables where
  folders := ["a_b".toList, "axb".toList]
  files :=
    [⟨1, "a_b/f".toList, "k1", "f".toList, "text/plain", 1⟩,
      ⟨2, "axb/g".toList, "k2", "g".toList, "text/plain", 1⟩]
  binaries := ["k1", "k2"]

theorem siblings_unique : siblings.Unique := ⟨by decide, by decide⟩

/-- Nothing of `axb` is at risk when it is `axb` that is deleted. -/
theorem folder_operations_siblings :
    siblings.Unique ∧ ∀ deletes folder, normalizeFolderPath "axb".toList = .ok folder →
      DeleteTouchesOnly siblings folder
        (deleteFolder ⟨fun _ => true, deletes⟩ siblings "axb".toList) := by
  refine ⟨siblings_unique, ?_⟩
  apply ((folder_operations_touch_iff ⟨fun _ => true, fun _ => true⟩ siblings
    siblings_unique).2.2 "axb".toList).mpr
  intro folder normalized _ _
  have same : folder = "axb".toList := by
    have computed : normalizeFolderPath "axb".toList = .ok "axb".toList := by decide
    rw [computed] at normalized
    cases normalized
    rfl
  rw [same]
  decide

/-- Deleting `a_b` deletes what is in `axb`, binary included. -/
theorem deleteFolder_deletes_sibling :
    deleteFolder ⟨fun _ => true, fun _ => true⟩ siblings "a_b".toList =
        (.ok (), ⟨["axb".toList], [], []⟩) ∧
      ¬ DeleteTouchesOnly siblings "a_b".toList
        (deleteFolder ⟨fun _ => true, fun _ => true⟩ siblings "a_b".toList) := by
  have result : deleteFolder ⟨fun _ => true, fun _ => true⟩ siblings "a_b".toList =
      (.ok (), ⟨["axb".toList], [], []⟩) := by decide
  refine ⟨result, ?_⟩
  rw [result]
  intro touched
  have files := touched.2.1
  revert files
  decide

end Elektrine.Drive
