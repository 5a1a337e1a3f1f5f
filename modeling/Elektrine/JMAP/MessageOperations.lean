import Elektrine.JMAP.EmailChanges
import Elektrine.JMAP.ThreadAssignment

/-!
# Operations on messages

The functions of the message context and of the folders that write messages, each with
the change of an email that it records, if any.  A changeset is the list of the columns in
which it differs from the message that it is made for, which need not be as it is stored.
An operation that fails or raises has no outcome.
-/

namespace Elektrine.JMAP

open Elektrine.Email Elektrine.Library

structure MailTables (Cipher : Type) extends ThreadTables Cipher where
  journals : Nat → Journal

structure ColumnChange (Cipher : Type) where
  assign : MessageRecord Cipher → MessageRecord Cipher
  keepsId : ∀ message, (assign message).id = message.id

abbrev Changes (Cipher : Type) := List (ColumnChange Cipher)

variable {Cipher : Type}

def applyChanges (changes : Changes Cipher) (message : MessageRecord Cipher) :
    MessageRecord Cipher :=
  changes.foldl (fun message change => change.assign message) message

theorem applyChanges_id (changes : Changes Cipher) (message : MessageRecord Cipher) :
    (applyChanges changes message).id = message.id := by
  induction changes generalizing message with
  | nil => rfl
  | cons change changes ih =>
      unfold applyChanges at ih ⊢
      rw [List.foldl_cons, ih, change.keepsId]

/-- `put_change`: what the message has already is no change. -/
def putChange (unchanged : Bool) (change : ColumnChange Cipher) : Changes Cipher :=
  if unchanged then [] else [change]

section Columns

variable (given : MessageRecord Cipher)

def putRead (value : Bool) : Changes Cipher :=
  putChange (given.read == some value)
    ⟨fun message => { message with read := some value }, fun _ => rfl⟩

def putSpam (value : Bool) : Changes Cipher :=
  putChange (given.spam == some value)
    ⟨fun message => { message with spam := some value }, fun _ => rfl⟩

def putArchived (value : Bool) : Changes Cipher :=
  putChange (given.archived == some value)
    ⟨fun message => { message with archived := some value }, fun _ => rfl⟩

def putDeleted (value : Bool) : Changes Cipher :=
  putChange (given.deleted == value)
    ⟨fun message => { message with deleted := value }, fun _ => rfl⟩

def putCategory (value : String) : Changes Cipher :=
  putChange (given.category == some value)
    ⟨fun message => { message with category := some value }, fun _ => rfl⟩

def putStackAt (value : Option Nat) : Changes Cipher :=
  putChange (given.stackAt == value)
    ⟨fun message => { message with stackAt := value }, fun _ => rfl⟩

def putStackReason (value : Option String) : Changes Cipher :=
  putChange (given.stackReason == value)
    ⟨fun message => { message with stackReason := value }, fun _ => rfl⟩

def putReplyLaterAt (value : Option Nat) : Changes Cipher :=
  putChange (given.replyLaterAt == value)
    ⟨fun message => { message with replyLaterAt := value }, fun _ => rfl⟩

def putReplyLaterReminder (value : Bool) : Changes Cipher :=
  putChange (given.replyLaterReminder == value)
    ⟨fun message => { message with replyLaterReminder := value }, fun _ => rfl⟩

def putOpenedAt (value : Option Nat) : Changes Cipher :=
  putChange (given.openedAt == value)
    ⟨fun message => { message with openedAt := value }, fun _ => rfl⟩

def putFirstOpenedAt (value : Option Nat) : Changes Cipher :=
  putChange (given.firstOpenedAt == value)
    ⟨fun message => { message with firstOpenedAt := value }, fun _ => rfl⟩

def putOpenCount (value : Nat) : Changes Cipher :=
  putChange (given.openCount == value)
    ⟨fun message => { message with openCount := value }, fun _ => rfl⟩

def stackChangeset (reason : Option String) (now : Nat) : Changes Cipher :=
  putStackReason given reason ++ putCategory given "stack" ++ putStackAt given (some now)

def unstackChangeset : Changes Cipher :=
  putCategory given "inbox" ++ putStackAt given none ++ putStackReason given none

/-- `reply_later_changeset`; the time is required. -/
def replyLaterChangeset (replyAt : Option Nat) (reminder : Bool) : Option (Changes Cipher) :=
  match replyAt with
  | some time => some (putReplyLaterAt given (some time) ++ putReplyLaterReminder given reminder)
  | none => none

def clearReplyLaterChangeset : Changes Cipher :=
  putReplyLaterAt given none ++ putReplyLaterReminder given false

def trackOpenChangeset (now : Nat) : Changes Cipher :=
  putOpenedAt given (some now) ++ putOpenCount given (given.openCount + 1) ++
    if given.firstOpenedAt.isNone then putFirstOpenedAt given (some now) else []

end Columns

section Tables

variable (tables : MailTables Cipher)

/-- `Repo.update`: without a change there is no query, and a missing row makes it raise. -/
def MailTables.update (id : Nat) (changes : Changes Cipher) : Option (MailTables Cipher) :=
  if changes.isEmpty then some tables
  else if (tables.messages.find id).isSome then
    some { tables with
      messages := tables.messages.modify id (applyChanges changes) (applyChanges_id changes) }
  else none

/-- `record_email_created`, `record_email_updated` and `record_email_destroyed`. -/
def MailTables.record (mailboxId emailId : Nat) (changeType : ChangeType) :
    MailTables Cipher :=
  { tables with
    journals := fun other =>
      if other = mailboxId then (tables.journals other).record emailId changeType
      else tables.journals other }

def MailTables.updateRecorded (given : MessageRecord Cipher) (changes : Changes Cipher) :
    Option (MailTables Cipher) :=
  (tables.update given.id changes).map fun updated =>
    updated.record given.mailboxId given.id .updated

/-- What `create_message` makes of its attributes: the row as the changeset has it, the
threading headers, and whether it is refused (the storage limit, the encryption, the
required fields). -/
structure NewMessage (Cipher : Type) where
  row : MessageRecord Cipher
  headers : ThreadHeaders
  refused : Bool

def maybeAssignThread (subjectHash : String → String) (attrs : NewMessage Cipher) :
    Except Unit (Option Nat × ThreadTables Cipher) :=
  if attrs.row.threadId.any (0 < ·) ∨ attrs.row.mailboxId = 0 then
    .ok (attrs.row.threadId, tables.toThreadTables)
  else
    (assignThread subjectHash tables.toThreadTables attrs.row.mailboxId attrs.headers).map
      fun assigned =>
        (if assigned.1.any (0 < ·) then assigned.1 else attrs.row.threadId, assigned.2)

/-- The insert of `create_message` and what is recorded after it; a message with the same
identifier in the mailbox is taken for the new one. -/
def insertMessage (attrs : NewMessage Cipher) (threadId : Option Nat)
    (threaded : ThreadTables Cipher) : MailTables Cipher :=
  if threaded.messages.rows.any fun message =>
      message.messageId == attrs.row.messageId && message.mailboxId == attrs.row.mailboxId then
    { tables with toThreadTables := threaded }
  else
    let inserted : MailTables Cipher :=
      { tables with
        threads := threaded.threads
        messages := threaded.messages.append
          (fun id => { attrs.row with id := id, threadId := threadId }) fun _ => rfl }
    inserted.record attrs.row.mailboxId threaded.messages.next .created

def createMessage (subjectHash : String → String) (attrs : NewMessage Cipher) :
    Option (MailTables Cipher) :=
  if attrs.refused then none
  else
    match maybeAssignThread tables subjectHash attrs with
    | .error () => none
    | .ok (threadId, threaded) => some (insertMessage tables attrs threadId threaded)

/-- What `Message.changeset` makes of attributes for a message, if they are valid. -/
abbrev Changeset (Cipher : Type) := MessageRecord Cipher → Option (Changes Cipher)

def updateMessage (given : MessageRecord Cipher) (changeset : Changeset Cipher) :
    Option (MailTables Cipher) :=
  match changeset given with
  | some changes => tables.updateRecorded given changes
  | none => none

def onStored (messageId : Nat) (asked : MessageRecord Cipher → Bool)
    (operate : MessageRecord Cipher → Option (MailTables Cipher)) : Option (MailTables Cipher) :=
  match tables.messages.find messageId with
  | some message => if asked message then operate message else none
  | none => none

/-- `update_message_flags`, for a message id. -/
def updateMessageFlags (messageId : Nat) (changeset : Changeset Cipher) :
    Option (MailTables Cipher) :=
  onStored tables messageId (fun _ => true) fun message => updateMessage tables message changeset

/-- `update_message_flags` with the mailbox that the message has to be in. -/
def updateMessageFlagsIn (messageId mailboxId : Nat) (changeset : Changeset Cipher) :
    Option (MailTables Cipher) :=
  onStored tables messageId (fun message => message.mailboxId == mailboxId) fun message =>
    updateMessage tables message changeset

/-- The branch of `save_draft` for an existing draft. -/
def updateDraftMessage (draftId : Nat) (changeset : Changeset Cipher) :
    Option (MailTables Cipher) :=
  onStored tables draftId (fun message => message.status == "draft") fun draft =>
    updateMessage tables draft changeset

/-- `delete_message`: the row and the record in one transaction, which fails where the row
is missing. -/
def deleteMessage (given : MessageRecord Cipher) : Option (MailTables Cipher) :=
  if (tables.messages.find given.id).isSome then
    let deleted : MailTables Cipher :=
      { tables with messages := tables.messages.delete given.id }
    some (deleted.record given.mailboxId given.id .destroyed)
  else none

/-- `delete_message`, for a message id. -/
def deleteMessageById (messageId : Nat) : Option (MailTables Cipher) :=
  onStored tables messageId (fun _ => true) (deleteMessage tables)

/-- `delete_message` with the mailbox that the message has to be in. -/
def deleteMessageIn (messageId mailboxId : Nat) : Option (MailTables Cipher) :=
  onStored tables messageId (fun message => message.mailboxId == mailboxId)
    (deleteMessage tables)

def deleteDraft (draftId mailboxId : Nat) : Option (MailTables Cipher) :=
  onStored tables draftId
    (fun message => message.mailboxId == mailboxId && message.status == "draft")
    (deleteMessage tables)

/-- `move_to_digest` and `move_to_ledger`, with whether the changeset is valid. -/
def moveToCategory (given : MessageRecord Cipher) (category : String) (valid : Bool) :
    Option (MailTables Cipher) :=
  if valid then tables.update given.id (putCategory given category) else none

def replyLaterMessage (given : MessageRecord Cipher) (replyAt : Option Nat) (reminder : Bool) :
    Option (MailTables Cipher) :=
  match replyLaterChangeset given replyAt reminder with
  | some changes => tables.update given.id changes
  | none => none

/-- `assign_thread` by itself. -/
def assignThreadAlone (subjectHash : String → String) (mailboxId : Nat)
    (headers : ThreadHeaders) : Option (MailTables Cipher) :=
  match assignThread subjectHash tables.toThreadTables mailboxId headers with
  | .ok (_, threaded) => some { tables with toThreadTables := threaded }
  | .error () => none

end Tables

inductive MessageOperation (Cipher : Type) where
  | createMessage (attrs : NewMessage Cipher)
  | updateMessage (given : MessageRecord Cipher) (changeset : Changeset Cipher)
  | updateMessageFlags (messageId : Nat) (changeset : Changeset Cipher)
  | updateMessageFlagsIn (messageId mailboxId : Nat) (changeset : Changeset Cipher)
  | saveNewDraft (attrs : NewMessage Cipher)
  | saveDraft (draftId : Nat) (changeset : Changeset Cipher)
  | deleteDraft (draftId mailboxId : Nat)
  | markAsRead (given : MessageRecord Cipher)
  | markAsUnread (given : MessageRecord Cipher)
  | markAsSpam (given : MessageRecord Cipher)
  | markAsNotSpam (given : MessageRecord Cipher)
  | archiveMessage (given : MessageRecord Cipher)
  | unarchiveMessage (given : MessageRecord Cipher)
  | trashMessage (given : MessageRecord Cipher)
  | untrashMessage (given : MessageRecord Cipher)
  | deleteMessage (given : MessageRecord Cipher)
  | deleteMessageById (messageId : Nat)
  | deleteMessageIn (messageId mailboxId : Nat)
  | trackMessageOpen (given : MessageRecord Cipher) (now : Nat)
  | stackMessage (given : MessageRecord Cipher) (reason : Option String) (now : Nat)
  | unstackMessage (given : MessageRecord Cipher)
  | moveToDigest (given : MessageRecord Cipher) (valid : Bool)
  | moveToLedger (given : MessageRecord Cipher) (valid : Bool)
  | replyLaterMessage (given : MessageRecord Cipher) (replyAt : Option Nat) (reminder : Bool)
  | clearReplyLater (given : MessageRecord Cipher)
  | assignThread (mailboxId : Nat) (headers : ThreadHeaders)

def performOperation (subjectHash : String → String) (tables : MailTables Cipher) :
    MessageOperation Cipher → Option (MailTables Cipher)
  | .createMessage attrs => createMessage tables subjectHash attrs
  | .updateMessage given changeset => updateMessage tables given changeset
  | .updateMessageFlags messageId changeset => updateMessageFlags tables messageId changeset
  | .updateMessageFlagsIn messageId mailboxId changeset =>
      updateMessageFlagsIn tables messageId mailboxId changeset
  | .saveNewDraft attrs =>
      createMessage tables subjectHash { attrs with row.status := "draft" }
  | .saveDraft draftId changeset => updateDraftMessage tables draftId changeset
  | .deleteDraft draftId mailboxId => deleteDraft tables draftId mailboxId
  | .markAsRead given => tables.updateRecorded given (putRead given true)
  | .markAsUnread given => tables.updateRecorded given (putRead given false)
  | .markAsSpam given => tables.updateRecorded given (putSpam given true)
  | .markAsNotSpam given => tables.updateRecorded given (putSpam given false)
  | .archiveMessage given => tables.updateRecorded given (putArchived given true)
  | .unarchiveMessage given => tables.updateRecorded given (putArchived given false)
  | .trashMessage given => tables.updateRecorded given (putDeleted given true)
  | .untrashMessage given => tables.updateRecorded given (putDeleted given false)
  | .deleteMessage given => deleteMessage tables given
  | .deleteMessageById messageId => deleteMessageById tables messageId
  | .deleteMessageIn messageId mailboxId => deleteMessageIn tables messageId mailboxId
  -- The operations from here on record nothing.
  | .trackMessageOpen given now => tables.update given.id (trackOpenChangeset given now)
  | .stackMessage given reason now => tables.update given.id (stackChangeset given reason now)
  | .unstackMessage given => tables.update given.id (unstackChangeset given)
  | .moveToDigest given valid => moveToCategory tables given "feed" valid
  | .moveToLedger given valid => moveToCategory tables given "ledger" valid
  | .replyLaterMessage given replyAt reminder => replyLaterMessage tables given replyAt reminder
  | .clearReplyLater given => tables.update given.id (clearReplyLaterChangeset given)
  | .assignThread mailboxId headers => assignThreadAlone tables subjectHash mailboxId headers

end Elektrine.JMAP
