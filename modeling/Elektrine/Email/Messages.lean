import Mathlib.Data.List.Basic
import Elektrine.Data.Json
import Elektrine.Data.Text
import Elektrine.Library.SerialRows

/-!
# Rows of the message table

The columns of `email_messages` that the listings, the badges and the JMAP views compare.
A nullable column is an option; a comparison with null selects nothing.
-/

namespace Elektrine.Email

structure MessageRow where
  id : Nat
  mailboxId : Nat
  fromAddress : String
  toAddress : Option String
  status : String
  read : Option Bool
  spam : Option Bool
  archived : Option Bool
  deleted : Bool
  category : Option String
  stackAt : Option Nat
  replyLaterAt : Option Nat
  threadId : Option Nat
  folderId : Option Nat
  deriving DecidableEq

/-- `m.status not in ["sent", "draft"]`. -/
def MessageRow.incoming (row : MessageRow) : Bool :=
  !(["sent", "draft"].contains row.status)

/-- `m.from == m.to`. -/
def MessageRow.selfSent (row : MessageRow) : Bool :=
  row.toAddress == some row.fromAddress

def receivedRow (id : Nat) : MessageRow where
  id := id
  mailboxId := 1
  fromAddress := "ann@example.com"
  toAddress := some "bob@example.com"
  status := "received"
  read := some false
  spam := some false
  archived := some false
  deleted := false
  category := some "inbox"
  stackAt := none
  replyLaterAt := none
  threadId := none
  folderId := none

end Elektrine.Email

/-!
## Stored messages

The `email_messages` table as the mail protocols see it, and the functions of the
email context that list, read, write and delete its rows for one mailbox.
-/

namespace Elektrine.Email

open Elektrine.Library

structure Content where
  cc : Option String
  bcc : Option String
  subject : Option String
  textBody : Option String
  htmlBody : Option String
  metadata : Json
  attachments : Json
  hasAttachments : Bool

structure Message where
  id : Nat
  mailboxId : Nat
  messageId : String
  fromAddress : String
  toAddress : Option String
  content : Content
  status : String
  read : Bool
  flagged : Bool
  answered : Bool
  deleted : Bool
  spam : Bool
  archived : Bool
  replyLaterAt : Option Nat
  folderId : Option Nat
  /-- `MailboxEncryption.valid_payload?` of the stored payload, if there is one. -/
  payloadValid : Bool

structure Folder where
  id : Nat
  userId : Nat
  name : String

structure Mailbox where
  id : Nat
  userId : Option Nat

structure Database where
  messages : SerialRows Message Message.id
  folders : List Folder

structure Listed where
  id : Nat
  read : Bool
  flagged : Bool
  answered : Bool
  deleted : Bool
  spam : Bool
  status : String
  deriving DecidableEq

def Message.listed (message : Message) : Listed where
  id := message.id
  read := message.read
  flagged := message.flagged
  answered := message.answered
  deleted := message.deleted
  spam := message.spam
  status := message.status

def Database.listFolders (database : Database) (userId : Nat) : List Folder :=
  database.folders.filter fun folder => folder.userId == userId

/-- The second argument of `list_messages_for_imap`. -/
inductive ImapFolder where
  | inbox
  | sent
  | drafts
  | trash
  | spam
  | other
  deriving DecidableEq

/-- The status is neither `"sent"` nor `"draft"`. -/
def Message.incoming (message : Message) : Bool :=
  !(["sent", "draft"].contains message.status)

/-- `m.from == m.to`, which is unknown where there is no recipient. -/
def Message.selfSent (message : Message) : Bool :=
  message.toAddress == some message.fromAddress

def ImapFolder.shows (folder : ImapFolder) (message : Message) : Bool :=
  match folder with
  | .inbox =>
      message.replyLaterAt.isNone && (message.incoming || message.selfSent) &&
        !message.spam && !message.deleted && !message.archived
  | .sent =>
      message.replyLaterAt.isNone && message.status == "sent" && !message.deleted
  | .drafts =>
      message.replyLaterAt.isNone && message.status == "draft" && !message.deleted
  -- Trash shows deferred messages, too.
  | .trash => message.deleted
  | .spam =>
      message.replyLaterAt.isNone && (message.spam && message.incoming) &&
        !message.deleted
  | .other =>
      message.replyLaterAt.isNone && (!message.spam && !message.archived) &&
        message.incoming

def Message.inCustomFolder (message : Message) (folderId : Nat) : Bool :=
  message.folderId == some folderId && message.replyLaterAt.isNone &&
    !message.deleted

def Database.select (database : Database) (mailboxId : Nat)
    (shown : Message → Bool) : List Message :=
  database.messages.rows.filter fun message =>
    message.mailboxId == mailboxId && shown message

def Database.listMessagesForImap (database : Database) (mailboxId : Nat)
    (folder : ImapFolder) : List Listed :=
  (database.select mailboxId folder.shows).map Message.listed

def Database.listMessagesForImapCustomFolder (database : Database)
    (mailboxId folderId : Nat) : List Listed :=
  (database.select mailboxId fun message =>
    message.inCustomFolder folderId).map Message.listed

/-- `get_message(id, mailbox_id)`. -/
def Database.getMessage (database : Database) (id mailboxId : Nat) :
    Option Message :=
  (database.messages.find id).filter fun message => message.mailboxId == mailboxId

/-- The changeset of the row is valid: its required fields are there, and so is a
readable payload if there is a payload at all. -/
def Message.valid (message : Message) : Bool :=
  (present message.messageId).isSome && (present message.fromAddress).isSome &&
    (message.status == "draft" || (message.toAddress.bind present).isSome) &&
    message.payloadValid

/-- The fields that `update_message_flags` is given by the mail protocols. -/
structure FlagUpdates where
  read : Bool
  flagged : Bool
  answered : Bool
  deleted : Bool
  spam : Bool
  status : String
  deriving DecidableEq

def Message.withUpdates (updates : FlagUpdates) (message : Message) : Message :=
  { message with
    read := updates.read
    flagged := updates.flagged
    answered := updates.answered
    deleted := updates.deleted
    spam := updates.spam
    status := updates.status }

@[simp] theorem Message.withUpdates_id (updates : FlagUpdates) (message : Message) :
    (message.withUpdates updates).id = message.id := rfl

section
variable (updates : FlagUpdates) (message : Message)

@[simp] theorem Message.withUpdates_read :
    (message.withUpdates updates).listed.read = updates.read := rfl

@[simp] theorem Message.withUpdates_flagged :
    (message.withUpdates updates).listed.flagged = updates.flagged := rfl

@[simp] theorem Message.withUpdates_answered :
    (message.withUpdates updates).listed.answered = updates.answered := rfl

@[simp] theorem Message.withUpdates_deleted :
    (message.withUpdates updates).listed.deleted = updates.deleted := rfl

@[simp] theorem Message.withUpdates_spam :
    (message.withUpdates updates).listed.spam = updates.spam := rfl

@[simp] theorem Message.withUpdates_status :
    (message.withUpdates updates).listed.status = updates.status := rfl

end

/-- `update_message_flags(id, mailbox_id, updates)`: the row as changed, if it is in
the mailbox and its changeset is valid. -/
def Database.updateMessageFlags (database : Database) (id mailboxId : Nat)
    (updates : FlagUpdates) : Database :=
  match database.getMessage id mailboxId with
  | none => database
  | some message =>
      if (message.withUpdates updates).valid then
        { database with
          messages :=
            database.messages.modify id (Message.withUpdates updates)
              (Message.withUpdates_id updates) }
      else database

def Message.markRead (message : Message) : Message := { message with read := true }

theorem Message.markRead_id (message : Message) : message.markRead.id = message.id := rfl

def Database.markAsRead (database : Database) (id mailboxId : Nat) : Database :=
  match database.getMessage id mailboxId with
  | none => database
  | some _ =>
      { database with
        messages :=
          database.messages.modify id Message.markRead Message.markRead_id }

/-- `delete_message(id, mailbox_id)`. -/
def Database.deleteMessage (database : Database) (id mailboxId : Nat) : Database :=
  match database.getMessage id mailboxId with
  | none => database
  | some _ => { database with messages := database.messages.delete id }

def Message.withId (message : Message) (id : Nat) : Message := { message with id }

theorem Message.withId_id (message : Message) (id : Nat) :
    (message.withId id).id = id := rfl

/-- `create_message` under the next id.  What else can refuse the message (the
storage limit, the length limits, the unique message id) is the third argument. -/
def Database.createMessage (database : Database) (message : Message)
    (refused : Bool) : Option (Nat × Database) :=
  if refused || !message.valid then none
  else
    some (database.messages.next,
      { database with
        messages :=
          database.messages.append message.withId message.withId_id })

def Message.leaveFolder (folderId : Nat) (message : Message) : Message :=
  if message.folderId = some folderId then { message with folderId := none }
  else message

theorem Message.leaveFolder_id (folderId : Nat) (message : Message) :
    (message.leaveFolder folderId).id = message.id := by
  unfold leaveFolder
  split
  · rfl
  · rfl

/-- `delete_custom_folder`: the messages of the folder stay, without a folder. -/
def Database.deleteCustomFolder (database : Database) (folderId : Nat) : Database where
  messages :=
    database.messages.modifyAll (Message.leaveFolder folderId)
      (Message.leaveFolder_id folderId)
  folders := database.folders.filter fun folder => folder.id != folderId

end Elektrine.Email
