import Elektrine.IMAP.Helpers

/-!
# Folders of the IMAP server

The system folders and the custom folders of a user under their names, and the list of
messages a session loads when it selects one of them.
-/

namespace Elektrine.IMAP

open Elektrine.Email

def systemFolders : List String := ["INBOX", "Sent", "Drafts", "Trash", "Spam"]

/-- `system_folder_name?`. -/
def isSystemFolderName (folderName : String) : Bool :=
  systemFolders.any fun name =>
    upcase name == upcase (canonicalSystemFolderName folderName)

/-- `find_custom_folder_by_name`: the first folder of the user with the name in any
letter case. -/
def findCustomFolderByName (database : Database) (userId : Nat)
    (folderName : String) : Option Folder :=
  (database.listFolders userId).find? fun folder =>
    downcase folder.name == downcase (trim folderName)

def destinationFolderExists (database : Database) (folderName : String)
    (userId : Nat) : Bool :=
  isSystemFolderName folderName ||
    (findCustomFolderByName database userId folderName).isSome

inductive FolderKey where
  | system (folder : ImapFolder)
  | custom (folderId : Nat)
  deriving DecidableEq

/-- The folder that a mailbox name stands for in `load_folder_messages`. -/
def folderOf (database : Database) (mailbox : Mailbox) (folder : String) :
    Option FolderKey :=
  match namedSystemFolder folder with
  | some systemFolder => some (.system systemFolder)
  | none =>
      match mailbox.userId with
      | none => none
      | some userId =>
          (findCustomFolderByName database userId
            (canonicalSystemFolderName folder)).map fun custom => .custom custom.id

def FolderKey.shows (key : FolderKey) (message : Message) : Bool :=
  match key with
  | .system folder => folder.shows message
  | .custom folderId => message.inCustomFolder folderId

def folderMessages (database : Database) (mailbox : Mailbox) (folder : String) :
    List Message :=
  match folderOf database mailbox folder with
  | none => []
  | some key => database.select mailbox.id key.shows

def loadFolderMessages (database : Database) (mailbox : Mailbox) (folder : String) :
    List Listed :=
  match folderOf database mailbox folder with
  | none => []
  | some (.system systemFolder) =>
      database.listMessagesForImap mailbox.id systemFolder
  | some (.custom folderId) =>
      database.listMessagesForImapCustomFolder mailbox.id folderId

theorem loadFolderMessages_eq (database : Database) (mailbox : Mailbox)
    (folder : String) :
    loadFolderMessages database mailbox folder =
      (folderMessages database mailbox folder).map Message.listed := by
  unfold loadFolderMessages folderMessages
  cases folderOf database mailbox folder with
  | none => rfl
  | some key => cases key <;> rfl

theorem mem_folderMessages {database : Database} {mailbox : Mailbox}
    {folder : String} {message : Message} :
    message ∈ folderMessages database mailbox folder ↔
      message ∈ database.messages.rows ∧ message.mailboxId = mailbox.id ∧
        ∃ key, folderOf database mailbox folder = some key ∧ key.shows message := by
  unfold folderMessages
  cases folderOf database mailbox folder with
  | none => simp
  | some key => simp [Database.select]

theorem folderOf_eq_system_iff {database : Database} {mailbox : Mailbox}
    {folder : String} {systemFolder : ImapFolder} :
    folderOf database mailbox folder = some (.system systemFolder) ↔
      namedSystemFolder folder = some systemFolder := by
  unfold folderOf
  cases namedSystemFolder folder with
  | some named => simp
  | none => cases mailbox.userId <;> simp

end Elektrine.IMAP
