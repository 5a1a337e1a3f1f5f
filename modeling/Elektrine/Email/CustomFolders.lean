import Elektrine.Email.Messages
import Elektrine.Library.ParentLinks
import Mathlib.Data.List.Sort

/-!
# Custom folders

The folders of the users, the messages that are filed in them, and the operations that
write either.  Every reference is a foreign key, so it names an existing row; whose row
it is, the changesets do not look at.
-/

namespace Elektrine.Email.CustomFolders

open Elektrine.Library

structure CustomFolder extends Folder where
  color : Option String
  icon : Option String
  parentId : Option Nat

structure Tables where
  users : List Nat
  mailboxes : List Mailbox
  folders : SerialRows CustomFolder (·.id)
  messages : SerialRows Message Message.id
  collates : String → String → Bool

namespace Tables

variable (tables : Tables)

/-- `get_mailbox_internal`. -/
def getMailbox (id : Nat) : Option Mailbox :=
  tables.mailboxes.find? fun mailbox => mailbox.id == id

def owner (mailboxId : Nat) : Option Nat :=
  (tables.getMailbox mailboxId).bind Mailbox.userId

def ofUser (userId : Nat) : List CustomFolder :=
  tables.folders.rows.filter fun folder => folder.userId == userId

def listFolders (userId : Nat) : List CustomFolder :=
  (tables.ofUser userId).insertionSort fun first second =>
    tables.collates first.name second.name = true

def countFolders (userId : Nat) : Nat := (tables.ofUser userId).length

def findFolder : Int → Option CustomFolder
  | .ofNat id => tables.folders.find id
  | .negSucc _ => none

def getFolder (id : Int) (userId : Nat) : Option CustomFolder :=
  (tables.findFolder id).filter fun folder => folder.userId == userId

/-- `build_tree` to a depth. -/
def buildTree (folders : List CustomFolder) (depth : Nat) (parentId : Option Nat) :
    Option (List (RowTree CustomFolder)) :=
  ParentLinks.grow (fun folder => folder.id) CustomFolder.parentId folders depth parentId

def getFolderTree (userId : Nat) : Option (List (RowTree CustomFolder)) :=
  let folders := tables.listFolders userId
  buildTree folders (folders.length + 1) none

end Tables

/-- What `cast` makes of a field that the attributes may give. -/
inductive Given (α : Type) where
  | invalid
  | absent
  | value (value : Option α)

/-- `empty_values`: texts of white space stand for no value. -/
def isEmptyValue (text : String) : Bool := text.toList.all isWhiteSpace

def castText : Option Json → Given String
  | none => .absent
  | some .null => .value none
  | some (.str text) => .value (if isEmptyValue text then none else some text)
  | some _ => .invalid

def castId : Option Json → Given Int
  | none => .absent
  | some .null => .value none
  | some (.int id) => .value (some id)
  | some (.str text) =>
      if isEmptyValue text then .value none
      else
        match integerParseExact text with
        | some id => .value (some id)
        | none => .invalid
  | some _ => .invalid

def Given.valid {α : Type} : Given α → Bool
  | .invalid => false
  | _ => true

inductive FieldChange (α : Type) where
  | unchanged
  | set (value : Option α)

def Given.change {α : Type} [DecidableEq α] (loaded : Option α) : Given α → FieldChange α
  | .value chosen => if chosen = loaded then .unchanged else .set chosen
  | _ => .unchanged

def FieldChange.apply {α : Type} (current : Option α) : FieldChange α → Option α
  | .unchanged => current
  | .set value => value

/-- `foreign_key_constraint`, or the error of the constraint without it: the change
under the identifier of an existing row. -/
def FieldChange.refer (present : Nat → Bool) : FieldChange Int → Option (FieldChange Nat)
  | .unchanged => some .unchanged
  | .set none => some (.set none)
  | .set (some (.negSucc _)) => none
  | .set (some (.ofNat id)) => if present id then some (.set (some id)) else none

structure FolderAttrs where
  name : Option Json
  color : Option Json
  icon : Option Json
  parentId : Option Json
  userId : Option Json

structure FolderFields where
  name : Option String
  color : Option String
  icon : Option String
  parentId : Option Nat
  userId : Option Nat

structure FolderChanges where
  name : FieldChange String
  color : FieldChange String
  icon : FieldChange String
  parentId : FieldChange Int
  userId : FieldChange Int

def FolderFields.new : FolderFields := ⟨none, none, none, none, none⟩

def CustomFolder.withId (folder : CustomFolder) (id : Nat) : CustomFolder :=
  ⟨⟨id, folder.userId, folder.name⟩, folder.color, folder.icon, folder.parentId⟩

theorem CustomFolder.withId_id (folder : CustomFolder) (id : Nat) :
    (folder.withId id).id = id := rfl

def CustomFolder.fields (folder : CustomFolder) : FolderFields where
  name := some folder.name
  color := folder.color
  icon := folder.icon
  parentId := folder.parentId
  userId := some folder.userId

def validColors : List String :=
  ["#ef4444", "#f97316", "#f59e0b", "#eab308", "#84cc16", "#22c55e", "#10b981",
    "#14b8a6", "#06b6d4", "#0ea5e9", "#3b82f6", "#6366f1", "#8a7cc2", "#9a8dcf",
    "#b79ed6", "#c7796b", "#f43f5e"]

def validIcons : List String :=
  ["folder", "inbox", "archive", "star", "flag", "bookmark", "tag", "briefcase", "file",
    "document", "mail"]

def reservedNames : List String :=
  ["inbox", "sent", "drafts", "trash", "spam", "archive", "stack", "feed", "ledger",
    "boomerang"]

def FieldChange.satisfies {α : Type} (test : α → Bool) : FieldChange α → Bool
  | .set (some value) => test value
  | _ => true

/-- `validate_not_reserved`. -/
def notReserved : Option String → Bool
  | some name => !(reservedNames.contains (downcase name))
  | none => true

/-- `Folder.changeset`: the changes, if it is valid. -/
def changeset (folder : FolderFields) (attrs : FolderAttrs) : Option FolderChanges :=
  let name := castText attrs.name
  let color := castText attrs.color
  let icon := castText attrs.icon
  let parentId := castId attrs.parentId
  let userId := castId attrs.userId
  let changes : FolderChanges :=
    { name := name.change folder.name
      color := color.change folder.color
      icon := icon.change folder.icon
      parentId := parentId.change (folder.parentId.map Int.ofNat)
      userId := userId.change (folder.userId.map Int.ofNat) }
  if name.valid && color.valid && icon.valid && parentId.valid && userId.valid &&
      ((changes.name.apply folder.name).bind present).isSome &&
      (changes.userId.apply (folder.userId.map Int.ofNat)).isSome &&
      changes.name.satisfies (fun name => 1 ≤ name.length && name.length ≤ 50) &&
      changes.color.satisfies validColors.contains &&
      changes.icon.satisfies validIcons.contains &&
      notReserved (changes.name.apply folder.name) then
    some changes
  else none

def maxFoldersPerUser : Nat := 25

namespace Tables

variable (tables : Tables)

def changedFolder (id : Nat) (current : FolderFields) (changes : FolderChanges) :
    Option CustomFolder :=
  match changes.parentId.refer fun parent =>
      -- The constraint is checked when the row itself is there already.
      parent == id || (tables.folders.find parent).isSome,
    changes.userId.refer tables.users.contains with
  | some parentId, some userId =>
      match changes.name.apply current.name, userId.apply current.userId with
      | some name, some userId =>
          some ⟨⟨id, userId, name⟩, changes.color.apply current.color,
            changes.icon.apply current.icon, parentId.apply current.parentId⟩
      | _, _ => none
  | _, _ => none

/-- `unique_constraint([:user_id, :name])`. -/
def nameTaken (folder : CustomFolder) : Bool :=
  tables.folders.rows.any fun other =>
    other.id != folder.id && other.userId == folder.userId && other.name == folder.name

def insertFolder (folder : CustomFolder) : Tables :=
  { tables with
    folders := tables.folders.append folder.withId folder.withId_id }

/-- The folder that `create_folder` inserts, if nothing refuses it.  A count for a user
that is not an integer raises. -/
def folderToInsert (attrs : FolderAttrs) : Option CustomFolder :=
  match attrs.userId with
  | some (.int (.ofNat user)) =>
      if maxFoldersPerUser ≤ tables.countFolders user then none
      else
        ((changeset .new attrs).bind
          (tables.changedFolder tables.folders.next .new)).filter
            fun folder => !(tables.nameTaken folder)
  -- A negative number counts the folders of nobody, and then fails on the user.
  | _ => none

def createFolder (attrs : FolderAttrs) : Option Tables :=
  (tables.folderToInsert attrs).map tables.insertFolder

/-- The row that `update_folder` leaves of a folder that was loaded some time ago. -/
def folderToUpdate (loaded : CustomFolder) (attrs : FolderAttrs) : Option CustomFolder :=
  match changeset loaded.fields attrs, tables.folders.find loaded.id with
  | some changes, some row =>
      (tables.changedFolder row.id row.fields changes).filter
        fun folder => !(tables.nameTaken folder)
  | _, _ => none

def replaceFolder (folder : CustomFolder) : Tables :=
  { tables with
    folders := tables.folders.modify folder.id (fun old => folder.withId old.id)
      fun old => folder.withId_id old.id }

def updateFolder (loaded : CustomFolder) (attrs : FolderAttrs) : Option Tables :=
  (tables.folderToUpdate loaded attrs).map tables.replaceFolder

end Tables

/-- `on_delete: :nilify_all` of the parent. -/
def CustomFolder.leaveParent (parentId : Nat) (folder : CustomFolder) : CustomFolder :=
  if folder.parentId = some parentId then { folder with parentId := none } else folder

theorem CustomFolder.leaveParent_id (parentId : Nat) (folder : CustomFolder) :
    (folder.leaveParent parentId).id = folder.id := by
  unfold leaveParent
  split
  · rfl
  · rfl

def Tables.deleteFolder (tables : Tables) (folder : CustomFolder) : Option Tables :=
  match tables.folders.find folder.id with
  | some _ =>
      some { tables with
        folders := (tables.folders.delete folder.id).modifyAll
          (CustomFolder.leaveParent folder.id) (CustomFolder.leaveParent_id folder.id)
        messages := tables.messages.modifyAll (Message.leaveFolder folder.id)
          (Message.leaveFolder_id folder.id) }
  | none => none

end Elektrine.Email.CustomFolders
