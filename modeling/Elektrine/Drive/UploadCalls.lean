import Elektrine.Drive.Store
import Elektrine.Library.Interleavings

/-!
# Uploads and deletions step by step

The calls of one user as sequences of steps against the rows and the store, in any order
with the steps of other calls, and any step may fail or raise.  An upload stores its binary,
writes the row and then deletes the binary the row had; a deletion deletes the binaries of
the files it has loaded and then the rows.
-/

namespace Elektrine.Drive

open Elektrine.Library

inductive Operation where
  | putFileContent (path : Path) (binary : List UInt8) (contentType : String)
  | deleteFile (fileId : Nat)
  | deleteFolder (folderPath : Path)
  deriving DecidableEq, Repr

inductive Stage where
  | requested
  | putLoaded (path : Path) (existing : Option StoredFile)
  | putPrepared (path : Path) (existing : Option StoredFile)
  | putStored (path : Path) (existing : Option StoredFile)
  | putPersisted (existing : Option StoredFile)
  | putRefused
  | deleteLoaded (file : StoredFile)
  | deleteEmptied (file : StoredFile)
  | folderFound (folder : Path)
  | folderEmptying (folder : Path) (remaining : List StoredFile)
  | finishing
  | returned (result : Except DriveError Unit)
  | raised

/-- A call with the calls that had returned when it started, the keys whose binaries it has
deleted and the keys of the rows it has replaced or deleted. -/
structure Call where
  operation : Operation
  returnedBefore : List Nat
  stage : Stage
  emptied : List String
  removed : List String

def Stage.ended : Stage → Bool
  | .returned _ | .raised => true
  | _ => false

def Call.ended (call : Call) : Bool := call.stage.ended

def Stage.closing : Stage → Bool
  | .finishing | .returned _ | .raised => true
  | _ => false

structure State where
  tables : Tables
  content : String → List UInt8
  nextId : Nat
  calls : List Call

def State.readStorage (state : State) (key : String) : Option (List UInt8) :=
  if key ∈ state.tables.binaries then some (state.content key) else none

inductive StepOutcome where
  | succeeds
  | fails
  | raises
  deriving DecidableEq, Repr

inductive Move where
  | start (operation : Operation)
  | advance (index : Nat) (outcome : StepOutcome)

def State.touched (state : State) (call : Call) : List StoredFile :=
  match call.stage with
  | .putStored _ (some existing) => state.tables.files.filter (·.id == existing.id)
  | .deleteLoaded file => state.tables.files.filter (·.storageKey == file.storageKey)
  | .deleteEmptied file => state.tables.files.filter (·.id == file.id)
  | .folderEmptying _ (file :: _) =>
      state.tables.files.filter (·.storageKey == file.storageKey)
  | .folderEmptying folder [] => state.tables.files.filter fun file => inPattern folder file.path
  | _ => []

/-- `persist_file` of an existing row, on the row in the table. -/
def updateFile (existing new row : StoredFile) : StoredFile :=
  { row with
    storageKey := written row.storageKey existing.storageKey new.storageKey
    originalFilename :=
      written row.originalFilename existing.originalFilename new.originalFilename
    contentType := written row.contentType existing.contentType new.contentType
    size := written row.size existing.size new.size }

def State.set (state : State) (index : Nat) (call : Call) : State :=
  { state with calls := state.calls.set index call }

/-- `delete_storage` of a binary that may be missing. -/
def State.deleteStorage (state : State) (index : Nat) (call : Call) (key : String)
    (stage : Stage) : State :=
  { state with
    tables := { state.tables with binaries := state.tables.binaries.filter (· != key) }
    calls := state.calls.set index
      { call with
        stage := stage
        emptied := if key ∈ state.tables.binaries then key :: call.emptied else call.emptied } }

def State.deleteRows (state : State) (index : Nat) (call : Call) (folders : List Path)
    (gone : StoredFile → Bool) : State :=
  { state with
    tables :=
      { state.tables with
        folders := folders
        files := state.tables.files.filter fun file => !gone file }
    calls := state.calls.set index
      { call with
        stage := .finishing
        removed := (state.tables.files.filter gone).map StoredFile.storageKey } }

section

variable (environment : Environment) (storageKey : Nat → String)

def State.loadExisting (state : State) (path : Path) (size : Nat) : Stage :=
  match normalizeFilePath path with
  | .error reason => .returned (.error reason)
  | .ok normalized =>
      if size = 0 then .returned (.error .emptyFile)
      else if maxUploadSize < size then .returned (.error .fileTooLarge)
      else .putLoaded normalized (state.tables.files.find? (·.path == normalized))

def State.prepareFolders (state : State) (index : Nat) (call : Call) (path : Path)
    (existing : Option StoredFile) : State :=
  match ensureFolderHierarchy environment state.tables (parentFolder path) with
  | .error .raised => state.set index { call with stage := .raised }
  | .error reason => state.set index { call with stage := .returned (.error reason) }
  | .ok tables =>
      { state with
        tables := { state.tables with folders := tables.folders }
        calls := state.calls.set index { call with stage := .putPrepared path existing } }

def State.putStorageBinary (state : State) (index : Nat) (call : Call) (path : Path)
    (existing : Option StoredFile) : State :=
  match call.operation with
  | .putFileContent _ binary _ =>
      { state with
        tables :=
          { state.tables with binaries := state.tables.binaries ++ [storageKey index] }
        content := fun key => if key = storageKey index then binary else state.content key
        calls := state.calls.set index { call with stage := .putStored path existing } }
  | _ => state

def newFile (id : Nat) (path : Path) (key contentType : String) (size : Nat) : StoredFile :=
  ⟨id, path, key, fileNameFromPath path, contentType, size⟩

/-- `persist_file`: a path that is taken and a row that is gone make it fail. -/
def State.persistFile (state : State) (index : Nat) (call : Call) (path : Path)
    (existing : Option StoredFile) : State :=
  match call.operation with
  | .putFileContent _ binary contentType =>
      match existing with
      | none =>
          if validFile environment path && !fileExists state.tables path then
            { state with
              tables :=
                { state.tables with
                  files := state.tables.files ++
                    [newFile state.nextId path (storageKey index) contentType binary.length] }
              nextId := state.nextId + 1
              calls := state.calls.set index { call with stage := .putPersisted none } }
          else state.set index { call with stage := .putRefused }
      | some loaded =>
          if state.tables.files.any (·.id == loaded.id) then
            { state with
              tables :=
                { state.tables with
                  files := state.tables.files.map fun row =>
                    if row.id = loaded.id then
                      updateFile loaded
                        (newFile loaded.id path (storageKey index) contentType binary.length) row
                    else row }
              calls := state.calls.set index
                { call with
                  stage := .putPersisted (some loaded)
                  removed :=
                    (state.tables.files.filter (·.id == loaded.id)).map StoredFile.storageKey } }
          else state.set index { call with stage := .raised }
  | _ => state

def State.loadFile (state : State) (fileId : Nat) : Stage :=
  match getFile state.tables fileId with
  | none => .returned (.error .notFound)
  | some file => .deleteLoaded file

def State.checkFolder (state : State) (folderPath : Path) : Stage :=
  match normalizeFolderPath folderPath with
  | .error reason => .returned (.error reason)
  | .ok folder =>
      if folder = [] then .returned (.error .invalidFolderPath)
      else if folderExists state.tables folder then .folderFound folder
      else .returned (.error .notFound)

def State.begin (state : State) (operation : Operation) : Stage :=
  match operation with
  | .putFileContent path binary _ => state.loadExisting path binary.length
  | .deleteFile fileId => state.loadFile fileId
  | .deleteFolder folderPath => state.checkFolder folderPath

def State.succeed (state : State) (index : Nat) (call : Call) : State :=
  match call.stage with
  | .requested => state.set index { call with stage := state.begin call.operation }
  | .putLoaded path existing => state.prepareFolders environment index call path existing
  | .putPrepared path existing => state.putStorageBinary storageKey index call path existing
  | .putStored path existing => state.persistFile environment storageKey index call path existing
  | .putPersisted none => state.set index { call with stage := .finishing }
  | .putPersisted (some old) => state.deleteStorage index call old.storageKey .finishing
  | .putRefused =>
      { state with
        tables :=
          { state.tables with
            binaries := state.tables.binaries.filter (· != storageKey index) }
        calls := state.calls.set index
          { call with stage := .returned (.error .invalidChange) } }
  | .deleteLoaded file => state.deleteStorage index call file.storageKey (.deleteEmptied file)
  | .deleteEmptied file =>
      if state.tables.files.any (·.id == file.id) then
        state.deleteRows index call state.tables.folders (·.id == file.id)
      else state.set index { call with stage := .raised }
  | .folderFound folder =>
      state.set index
        { call with
          stage := .folderEmptying folder
            (state.tables.files.filter fun file => inPattern folder file.path) }
  | .folderEmptying folder (file :: remaining) =>
      state.deleteStorage index call file.storageKey (.folderEmptying folder remaining)
  | .folderEmptying folder [] =>
      state.deleteRows index call
        (state.tables.folders.filter fun path => !(path == folder || inPattern folder path))
        fun file => inPattern folder file.path
  | .finishing => state.set index { call with stage := .returned (.ok ()) }
  | .returned _ | .raised => state

/-- Where a call goes when its next step fails; the failures of the deletion that follows an
upload and of the counter at the end are ignored. -/
def Call.failed (call : Call) : Stage :=
  match call.stage with
  | .requested =>
      match call.operation with
      | .putFileContent _ _ _ => .returned (.error .storageLimitExceeded)
      | _ => .raised
  | .putLoaded _ _ => .raised
  | .putPrepared _ _ => .returned (.error .storageFailed)
  | .putStored _ _ => .putRefused
  | .putPersisted _ => .finishing
  | .putRefused => .returned (.error .invalidChange)
  | .deleteLoaded _ => .returned (.error .storageFailed)
  | .deleteEmptied _ => .returned (.error .invalidChange)
  | .folderFound _ => .raised
  | .folderEmptying _ (_ :: _) => .returned (.error .storageFailed)
  | .folderEmptying _ [] => .returned (.error .invalidChange)
  | .finishing => .returned (.ok ())
  | .returned result => .returned result
  | .raised => .raised

def State.returned (state : State) : List Nat :=
  (List.range state.calls.length).filter fun index =>
    (state.calls[index]?).any Call.ended

def step (state : State) (move : Move) : State :=
  match move with
  | .start operation =>
      { state with
        calls := state.calls ++ [⟨operation, state.returned, .requested, [], []⟩] }
  | .advance index outcome =>
      match state.calls[index]? with
      | none => state
      | some call =>
          match outcome with
          | .succeeds => state.succeed environment storageKey index call
          | .fails => state.set index { call with stage := call.failed }
          | .raises =>
              if call.ended then state else state.set index { call with stage := .raised }

end

def start : State := ⟨⟨[], [], []⟩, fun _ => [], 0, []⟩

/-- A call that started after the upload had returned has taken its binary or row away. -/
def State.RemovedLater (storageKey : Nat → String) (state : State) (index : Nat) : Prop :=
  ∃ call ∈ state.calls, index ∈ call.returnedBefore ∧
    (storageKey index ∈ call.emptied ∨ storageKey index ∈ call.removed)

/-- The row of an upload with its content. -/
def State.Readable (storageKey : Nat → String) (state : State) (index : Nat) (path : Path)
    (binary : List UInt8) : Prop :=
  ∃ file ∈ state.tables.files, file.path = path ∧ file.storageKey = storageKey index ∧
    state.readStorage (storageKey index) = some binary

/-- The call uploads the binary to the path. -/
def Call.Puts (call : Call) (path : Path) (binary : List UInt8) : Prop :=
  ∃ requested contentType, call.operation = .putFileContent requested binary contentType ∧
    normalizeFilePath requested = .ok path

structure ContentKept (storageKey : Nat → String) (state : State) : Prop where
  stored : (∀ call ∈ state.calls, call.ended = true) →
    ∀ file ∈ state.tables.files, file.storageKey ∈ state.tables.binaries
  readable : ∀ index call path binary, state.calls[index]? = some call →
    call.stage = .returned (.ok ()) → call.Puts path binary →
    state.RemovedLater storageKey index ∨ state.Readable storageKey index path binary
  unchanged : ∀ call ∈ state.calls, ∀ reason, call.stage = .returned (.error reason) →
    call.emptied = [] ∧ call.removed = []

/-- A step takes away or replaces only what was uploaded by a call that had returned before
its own call started; a step fails while its call has deleted no binary, and raises while no
row has a binary that its call has deleted. -/
def CarefulUploads (storageKey : Nat → String) (state : State) (move : Move) : Prop :=
  match move with
  | .start _ => True
  | .advance index outcome =>
      ∀ call, state.calls[index]? = some call →
        match outcome with
        | .succeeds =>
            ∀ file ∈ state.touched call, ∃ other ∈ call.returnedBefore,
              file.storageKey = storageKey other
        | .fails => call.emptied = [] ∨ call.stage.closing = true
        | .raises => ∀ file ∈ state.tables.files, file.storageKey ∉ call.emptied

instance (storageKey : Nat → String) (state : State) (move : Move) :
    Decidable (CarefulUploads storageKey state move) :=
  match move with
  | .start _ => .isTrue trivial
  | .advance index .succeeds =>
      inferInstanceAs (Decidable (∀ call ∈ state.calls[index]?, ∀ file ∈ state.touched call,
        ∃ other ∈ call.returnedBefore, file.storageKey = storageKey other))
  | .advance index .fails =>
      inferInstanceAs (Decidable (∀ call ∈ state.calls[index]?,
        call.emptied = [] ∨ call.stage.closing = true))
  | .advance index .raises =>
      inferInstanceAs (Decidable (∀ call ∈ state.calls[index]?,
        ∀ file ∈ state.tables.files, file.storageKey ∉ call.emptied))

end Elektrine.Drive
