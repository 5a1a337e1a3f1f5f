import Elektrine.Drive.Paths
import Elektrine.Library.LikePattern
import Elektrine.Library.KeyedRows
import Mathlib.Data.List.Sort

/-!
# The tables of the drive and their operations

The folders and files of one user, with the binaries of the files in a store beside them.
Every operation first reads what it needs for its checks; folders on the way are created in
a transaction of their own, and a changeset that is not valid raises, which undoes the
transaction it is in.
-/

namespace Elektrine.Drive

open Elektrine.Library

structure StoredFile where
  id : Nat
  path : Path
  storageKey : String
  originalFilename : Path
  contentType : String
  size : Nat
  deriving DecidableEq, Repr

structure Tables where
  folders : List Path
  files : List StoredFile
  binaries : List String
  deriving DecidableEq, Repr

/-- What an operation finds outside of the tables: the length limits of a path, and whether
the store deletes a binary. -/
structure Environment where
  fitsColumn : Path → Bool
  deletes : String → Bool

def occurs (part path : Path) : Bool := path.tails.any part.isPrefixOf

/-- `StoredFolder.changeset` for a new path. -/
def validFolder (environment : Environment) (path : Path) : Bool :=
  environment.fitsColumn path && !(trimSpaces path).isEmpty && path.head? != some '/' &&
    !(occurs ['.', '.'] path) && !(occurs ['/', '/'] path) && !(path.contains '\\') &&
    !(path.contains '\x00')

/-- `StoredFile.changeset` for a new path: no segment is blank. -/
def validFile (environment : Environment) (path : Path) : Bool :=
  validFolder environment path &&
    (pieces '/' path).all fun segment => !(trimSpaces segment).isEmpty

def folderColumn : Column Path Path where
  read := id
  write := fun _ path => path
  read_write := fun _ _ => rfl
  write_read := fun _ => rfl

def fileColumn : Column StoredFile Path where
  read := StoredFile.path
  write := fun file path => { file with path := path }
  read_write := fun _ _ => rfl
  write_read := fun _ => rfl

/-- The rows that are like `folder <> "/%"`. -/
def inPattern (folder path : Path) : Bool := like (folder ++ ['/'] ++ ['%']) path

def fileExists (tables : Tables) (path : Path) : Bool :=
  tables.files.any fun file => file.path == path

def fileConflict (tables : Tables) (path : Path) (existingId : Nat) : Bool :=
  tables.files.any fun file => file.path == path && file.id != existingId

def folderExists (tables : Tables) (path : Path) : Bool :=
  path.isEmpty || tables.folders.contains path || tables.folders.any (inPattern path) ||
    tables.files.any fun file => inPattern path file.path

def getFile (tables : Tables) (fileId : Nat) : Option StoredFile :=
  tables.files.find? fun file => file.id == fileId

def ensureTargetFilePathAvailable (tables : Tables) (path : Path) (existingId : Nat) :
    Except DriveError Unit :=
  if fileConflict tables path existingId then .error .pathTaken
  else if folderExists tables path then .error .pathTaken
  else .ok ()

def ensureTargetFolderPathAvailable (tables : Tables) (path source : Path) :
    Except DriveError Unit :=
  if path = source then .ok ()
  else if folderExists tables path then .error .pathTaken
  else if fileExists tables path then .error .pathTaken
  else .ok ()

def validateFolderMoveTarget (source target : Path) : Except DriveError Unit :=
  if target = source then .error .pathTaken
  else if source ++ ['/'] <+: target ++ ['/'] then .error .invalidMoveTarget
  else .ok ()

def ensureFolderExists (tables : Tables) (path : Path) : Except DriveError Unit :=
  if folderExists tables path then .ok () else .error .notFound

/-- `Repo.insert!(on_conflict: :nothing)` -/
def insertFolder (environment : Environment) (folders : List Path) (path : Path) :
    Option (List Path) :=
  if validFolder environment path then
    some (if folders.contains path then folders else folders ++ [path])
  else none

/-- `ensure_folder_hierarchy!` -/
def insertHierarchy (environment : Environment) (folders : List Path) (folder : Path) :
    Option (List Path) :=
  (folderAncestors folder).foldlM (insertFolder environment) folders

def ensureFolderHierarchy (environment : Environment) (tables : Tables) (folder : Path) :
    Except DriveError Tables :=
  if folder = [] then .ok tables
  else
    match normalizeFolderPath folder with
    | .error reason => .error reason
    | .ok normalized =>
        match insertHierarchy environment tables.folders normalized with
        | none => .error .raised
        | some folders => .ok { tables with folders := folders }

def createFolder (environment : Environment) (tables : Tables) (path : Path) :
    Except DriveError Path × Tables :=
  match normalizeFolderPath path with
  | .error reason => (.error reason, tables)
  | .ok normalized =>
      if normalized = [] ∨ fileExists tables normalized then
        (.error .invalidFolderPath, tables)
      else
        match insertHierarchy environment tables.folders normalized with
        | none => (.error .raised, tables)
        | some folders => (.ok normalized, { tables with folders := folders })

def moveChecks (tables : Tables) (sourcePath destination : Path) (newName : Option Path) :
    Except DriveError (Path × Path) := do
  let source ← normalizeFolderPath sourcePath
  let folder ← normalizeFolderPath destination
  if source = [] then .error .invalidFolderPath
  else
    ensureFolderExists tables source
    let name ← normalizeFilename (newName.getD (basename source))
    validateFolderMoveTarget source (joinPath folder name)
    ensureTargetFolderPathAvailable tables (joinPath folder name) source
    return (source, joinPath folder name)

def moveRows (environment : Environment) (tables : Tables) (source target : Path) :
    Option Tables :=
  match folderColumn.changeEach (validFolder environment)
      (fun path => path == source || inPattern source path)
      (fun path => replacePrefix path source target) [] tables.folders with
  | none => none
  | some folders =>
      match fileColumn.changeEach (validFile environment)
          (fun file => inPattern source file.path)
          (fun path => replacePrefix path source target) [] tables.files with
      | none => none
      | some files =>
          if folders.contains target then
            some { tables with folders := folders, files := files }
          else if validFolder environment target then
            some { tables with folders := folders ++ [target], files := files }
          else none

def moveFolder (environment : Environment) (tables : Tables) (sourcePath destination : Path)
    (newName : Option Path) : Except DriveError Path × Tables :=
  match moveChecks tables sourcePath destination newName with
  | .error reason => (.error reason, tables)
  | .ok (source, target) =>
      match ensureFolderHierarchy environment tables (parentFolder target) with
      | .error reason => (.error reason, tables)
      | .ok created =>
          match moveRows environment created source target with
          | none => (.error .raised, created)
          | some moved => (.ok target, moved)

def renameFolder (environment : Environment) (tables : Tables) (folderPath newName : Path) :
    Except DriveError Path × Tables :=
  match normalizeFolderPath folderPath with
  | .error reason => (.error reason, tables)
  | .ok source =>
      if source = [] then (.error .invalidFolderPath, tables)
      else
        match normalizeFilename newName with
        | .error reason => (.error reason, tables)
        | .ok name => moveFolder environment tables source (parentFolder source) (some name)

def deleteFileStorageEntries (environment : Environment) (binaries : List String) :
    List StoredFile → Bool × List String
  | [] => (true, binaries)
  | file :: rest =>
      if environment.deletes file.storageKey then
        deleteFileStorageEntries environment (binaries.filter (· != file.storageKey)) rest
      else (false, binaries)

def deleteFolder (environment : Environment) (tables : Tables) (folderPath : Path) :
    Except DriveError Unit × Tables :=
  match normalizeFolderPath folderPath with
  | .error reason => (.error reason, tables)
  | .ok folder =>
      if folder = [] then (.error .invalidFolderPath, tables)
      else if folderExists tables folder = false then (.error .notFound, tables)
      else
        match deleteFileStorageEntries environment tables.binaries
            (tables.files.filter fun file => inPattern folder file.path) with
        | (false, binaries) => (.error .storageFailed, { tables with binaries := binaries })
        | (true, binaries) =>
            (.ok (),
              { folders := tables.folders.filter fun path =>
                  !(path == folder || inPattern folder path)
                files := tables.files.filter fun file => !inPattern folder file.path
                binaries := binaries })

end Elektrine.Drive

/-!
## Operations on files, and on several rows

An upload, the renaming, moving and deleting of a file, and the bulk operations, which run
the others one after the other until one fails with anything but `:not_found`.
-/

namespace Elektrine.Drive

open Elektrine.Library

def maxUploadSize : Nat := 100 * 1024 * 1024

/-- What comes with an upload beside its path: whether the storage limit allows it, the key
under which the store has put the binary, the id of a new row, and whether the changeset
accepts the columns other than the path. -/
structure Upload where
  size : Nat
  contentType : String
  withinLimit : Bool
  storageKey : Option String
  fileId : Nat
  accepted : Bool

def putChecks (path : Path) (upload : Upload) : Except DriveError Path :=
  match normalizeFilePath path with
  | .error reason => .error reason
  | .ok normalized =>
      if upload.size = 0 then .error .emptyFile
      else if maxUploadSize < upload.size then .error .fileTooLarge
      else if upload.withinLimit then .ok normalized
      else .error .storageLimitExceeded

def maybeDeleteStorage (environment : Environment) (binaries : List String) (key : String) :
    List String :=
  if environment.deletes key then binaries.filter (· != key) else binaries

/-- `persist_file`, with the binary already stored under the key. -/
def persistFile (environment : Environment) (tables : Tables) (path : Path) (upload : Upload)
    (key : String) : Except DriveError Path × Tables :=
  let stored := tables.binaries ++ [key]
  match tables.files.find? fun file => file.path == path with
  | none =>
      if upload.accepted && validFile environment path then
        (.ok path,
          { tables with
            files := tables.files ++
              [⟨upload.fileId, path, key, basename path, upload.contentType, upload.size⟩]
            binaries := stored })
      else
        (.error .invalidChange,
          { tables with binaries := maybeDeleteStorage environment stored key })
  | some existing =>
      if upload.accepted then
        (.ok path,
          { tables with
            files := tables.files.map fun file =>
              if file.id = existing.id then
                { file with
                  storageKey := key
                  originalFilename := basename path
                  contentType := upload.contentType
                  size := upload.size }
              else file
            binaries := maybeDeleteStorage environment stored existing.storageKey })
      else
        (.error .invalidChange,
          { tables with binaries := maybeDeleteStorage environment stored key })

def putFileContent (environment : Environment) (tables : Tables) (path : Path)
    (upload : Upload) : Except DriveError Path × Tables :=
  match putChecks path upload with
  | .error reason => (.error reason, tables)
  | .ok normalized =>
      match ensureFolderHierarchy environment tables (parentFolder normalized) with
      | .error reason => (.error reason, tables)
      | .ok created =>
          match upload.storageKey with
          | none => (.error .storageFailed, created)
          | some key => persistFile environment created normalized upload key

/-- `Repo.update` of the path, which is validated if it changes. -/
def updatePath (environment : Environment) (tables : Tables) (file : StoredFile)
    (newPath name : Path) : Except DriveError Path × Tables :=
  if newPath = file.path ∨ validFile environment newPath then
    (.ok newPath,
      { tables with
        files := tables.files.map fun other =>
          if other.id = file.id then { other with path := newPath, originalFilename := name }
          else other })
  else (.error .invalidChange, tables)

def renameFile (environment : Environment) (tables : Tables) (fileId : Nat) (newName : Path) :
    Except DriveError Path × Tables :=
  match getFile tables fileId with
  | none => (.error .notFound, tables)
  | some file =>
      match normalizeFilename newName with
      | .error reason => (.error reason, tables)
      | .ok name =>
          let newPath := joinPath (parentFolder file.path) name
          match ensureTargetFilePathAvailable tables newPath file.id with
          | .error reason => (.error reason, tables)
          | .ok () => updatePath environment tables file newPath name

def moveFile (environment : Environment) (tables : Tables) (fileId : Nat) (folderPath : Path) :
    Except DriveError Path × Tables :=
  match getFile tables fileId with
  | none => (.error .notFound, tables)
  | some file =>
      match normalizeFolderPath folderPath with
      | .error reason => (.error reason, tables)
      | .ok folder =>
          match ensureFolderHierarchy environment tables folder with
          | .error reason => (.error reason, tables)
          | .ok created =>
              let newPath := joinPath folder (basename file.path)
              match ensureTargetFilePathAvailable created newPath file.id with
              | .error reason => (.error reason, created)
              | .ok () => updatePath environment created file newPath file.originalFilename

def deleteFile (environment : Environment) (tables : Tables) (fileId : Nat) :
    Except DriveError Unit × Tables :=
  match getFile tables fileId with
  | none => (.error .notFound, tables)
  | some file =>
      if environment.deletes file.storageKey then
        (.ok (),
          { tables with
            files := tables.files.filter fun other => other.id != file.id
            binaries := tables.binaries.filter (· != file.storageKey) })
      else (.error .storageFailed, tables)

/-- `Enum.reduce_while`: rows that are not found are passed over. -/
def eachWhileOk {α β : Type} (operation : Tables → α → Except DriveError β × Tables) :
    Tables → List α → Except DriveError Unit × Tables
  | tables, [] => (.ok (), tables)
  | tables, item :: rest =>
      match operation tables item with
      | (.ok _, next) => eachWhileOk operation next rest
      | (.error .notFound, next) => eachWhileOk operation next rest
      | (.error reason, next) => (.error reason, next)

structure Selection where
  folders : List Path
  files : List Nat

def longestFirst (folders : List Path) : List Path :=
  folders.mergeSort fun first second => decide (second.length ≤ first.length)

def shortestFirst (folders : List Path) : List Path :=
  folders.mergeSort fun first second => decide (first.length ≤ second.length)

def bulkDelete (environment : Environment) (tables : Tables) (selection : Selection) :
    Except DriveError Unit × Tables :=
  match eachWhileOk (deleteFolder environment) tables (longestFirst selection.folders) with
  | (.error reason, next) => (.error reason, next)
  | (.ok (), next) => eachWhileOk (deleteFile environment) next selection.files

def bulkMove (environment : Environment) (tables : Tables) (selection : Selection)
    (destination : Path) : Except DriveError Unit × Tables :=
  match normalizeFolderPath destination with
  | .error reason => (.error reason, tables)
  | .ok folder =>
      match ensureFolderHierarchy environment tables folder with
      | .error reason => (.error reason, tables)
      | .ok created =>
          match eachWhileOk (fun next path => moveFolder environment next path folder none)
              created (shortestFirst selection.folders) with
          | (.error reason, next) => (.error reason, next)
          | (.ok (), next) =>
              eachWhileOk (fun other fileId => moveFile environment other fileId folder) next
                selection.files

end Elektrine.Drive
