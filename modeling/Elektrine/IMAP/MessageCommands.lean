import Elektrine.IMAP.Folders
import Elektrine.IMAP.Response

/-!
# Commands on the selected folder

The handlers of the message commands: from the database and the selected folder of a
session to both of them afterwards and the responses that were sent.  `RECENT` lines
are left out.
-/

namespace Elektrine.IMAP

open Elektrine.Email

structure Account where
  mailbox : Mailbox
  userId : Nat

/-- `selected_folder` and `messages` of a session in the selected state. -/
structure Selected where
  folder : String
  messages : List Listed
  ascending : messages.Pairwise (·.id < ·.id)

inductive Status where
  | ok
  | no
  | bad
  deriving DecidableEq

inductive Response where
  | messagesExist (count : Nat)
  | expunged (number : Nat)
  | fetched (number : Nat) (uid : Option Nat) (flags : Option (List String))
  /-- A completion, with the pairs of its `COPYUID` code. -/
  | completed (status : Status) (copied : List (Nat × Nat)) (text : String)
  deriving DecidableEq

structure Outcome where
  database : Database
  selected : Selected
  responses : List Response

/-- What the creation of copies meets: the clock, and the messages whose copy is
refused for a reason that is not in the model. -/
structure Copying where
  now : Nat
  refused : Nat → Bool

def Selected.ids (selected : Selected) : List Nat :=
  selected.messages.map Listed.id

def Selected.reload (selected : Selected) (account : Account) (database : Database) :
    Selected where
  folder := selected.folder
  messages := loadFolderMessages database account.mailbox selected.folder
  ascending := by
    rw [loadFolderMessages_eq]
    apply List.pairwise_map.mpr
    unfold folderMessages
    cases folderOf database account.mailbox selected.folder with
    | none => exact List.Pairwise.nil
    | some key => exact database.messages.ascending.sublist List.filter_sublist

def Selected.retain (selected : Selected) (keep : Listed → Bool) : Selected where
  folder := selected.folder
  messages := selected.messages.filter keep
  ascending := selected.ascending.sublist List.filter_sublist

def mergeUpdates (message : Listed) (updates : FlagUpdates) : Listed where
  id := message.id
  read := updates.read
  flagged := updates.flagged
  answered := updates.answered
  deleted := updates.deleted
  spam := updates.spam
  status := updates.status

def updateFrom (updatesById : List (Nat × FlagUpdates)) (message : Listed) :
    Listed :=
  match updatesById.lookup message.id with
  | none => message
  | some updates => mergeUpdates message updates

@[simp] theorem updateFrom_id (updatesById : List (Nat × FlagUpdates))
    (message : Listed) : (updateFrom updatesById message).id = message.id := by
  unfold updateFrom
  cases updatesById.lookup message.id <;> rfl

/-- `apply_message_updates`. -/
def Selected.applyUpdates (selected : Selected)
    (updatesById : List (Nat × FlagUpdates)) : Selected where
  folder := selected.folder
  messages := selected.messages.map (updateFrom updatesById)
  ascending := by
    apply List.pairwise_map.mpr
    apply selected.ascending.imp
    intro first second below
    rw [updateFrom_id, updateFrom_id]
    exact below

/-- `<first.count>`, as it may stand behind a body section. -/
def isPartial (text : List Char) : Bool :=
  match text with
  | [] => true
  | '<' :: rest =>
      match rest.span Char.isDigit with
      | (_ :: _, '.' :: counted) =>
          match counted.span Char.isDigit with
          | (_ :: _, ['>']) => true
          | _ => false
      | _ => false
  | _ => false

/-- `body_fetch_item_without_peek?`. -/
def isBodyFetchItem (itemUpper : String) : Bool :=
  let characters := itemUpper.toList
  "BODY[".toList.isPrefixOf characters &&
    (match (characters.drop 5).span (· != ']') with
      | (_, _ :: rest) => isPartial rest
      | (_, []) => false) &&
    !characters.tails.any (".PEEK[".toList.isPrefixOf ·)

def shouldMarkAsRead (items : List String) : Bool :=
  items.any fun item =>
    isBodyFetchItem (upcase (trim item)) || upcase (trim item) == "RFC822" ||
      upcase (trim item) == "RFC822.TEXT"

/-- The response to `FETCH` for one message: its id, and its flags if they are among
the items. -/
def buildFetchResponse (entry : Numbered) (items : List String)
    (currentFolder : String) : Response :=
  .fetched entry.2 (some entry.1.id)
    (if items.any fun item => upcase (trim item) == "FLAGS" then
      some (getMessageFlags entry.1 currentFolder)
    else none)

def fetchMessage (account : Account) (items : List String) (database : Database)
    (entry : Numbered) : Database :=
  if shouldMarkAsRead items && !entry.1.read then
    database.markAsRead entry.1.id account.mailbox.id
  else database

/-- `handle_fetch` and `handle_uid_fetch` on the addressed messages. -/
def fetchAll (account : Account) (items : List String) (text : String)
    (database : Database) (selected : Selected) (messages : List Numbered) : Outcome where
  database := messages.foldl (fetchMessage account items) database
  selected := selected
  responses :=
    messages.map (fun entry => buildFetchResponse entry items selected.folder) ++
      [.completed .ok [] text]

/-- `handle_fetch`, after `parse_fetch_args`. -/
def handleFetch (account : Account) (args : Option (String × List String))
    (database : Database) (selected : Selected) : Outcome :=
  match args with
  | none => ⟨database, selected, [.completed .bad [] "Invalid FETCH arguments"]⟩
  | some (sequenceSet, items) =>
      fetchAll account items "FETCH completed" database selected
        (getMessagesBySequence selected.messages sequenceSet)

/-- `handle_uid_fetch`, after `parse_fetch_args`. -/
def handleUidFetch (account : Account) (args : Option (String × List String))
    (database : Database) (selected : Selected) : Outcome :=
  match args with
  | none => ⟨database, selected, [.completed .bad [] "Invalid UID FETCH arguments"]⟩
  | some (uidSet, items) =>
      fetchAll account items "UID FETCH completed" database selected
        (getMessagesByUid selected.messages uidSet)

structure Destination where
  status : String
  spam : Bool
  deleted : Bool
  archived : Bool
  folderId : Option Nat
  deriving DecidableEq

def resolveDestinationFolder (database : Database) (destFolder : String)
    (mailboxUserId : Option Nat) (fullMessage : Message) : Option Destination :=
  match namedSystemFolder destFolder with
  | some .inbox => some ⟨"received", false, false, false, none⟩
  | some .sent => some ⟨"sent", false, false, false, none⟩
  | some .drafts => some ⟨"draft", false, false, false, none⟩
  | some .trash => some ⟨fullMessage.status, false, true, false, none⟩
  | some .spam => some ⟨fullMessage.status, true, false, false, none⟩
  | _ =>
      (mailboxUserId.bind fun userId =>
        findCustomFolderByName database userId destFolder).map fun folder =>
          ⟨fullMessage.status, fullMessage.spam, false, fullMessage.archived,
            some folder.id⟩

def copyOf (now : Nat) (mailbox : Mailbox) (destination : Destination)
    (fullMessage : Message) : Message where
  id := 0
  mailboxId := mailbox.id
  messageId := "copy-" ++ toString now ++ "-" ++ fullMessage.messageId
  fromAddress := fullMessage.fromAddress
  toAddress := fullMessage.toAddress
  content := fullMessage.content
  status := destination.status
  read := fullMessage.read
  flagged := fullMessage.flagged
  answered := false
  deleted := destination.deleted
  spam := destination.spam
  archived := destination.archived
  replyLaterAt := none
  folderId := destination.folderId
  payloadValid := true

def copyMessageToFolder (copying : Copying) (mailbox : Mailbox) (destFolder : String)
    (database : Database) (id : Nat) : Option (Nat × Database) :=
  match database.getMessage id mailbox.id with
  | none => none
  | some fullMessage =>
      match resolveDestinationFolder database destFolder mailbox.userId fullMessage with
      | none => none
      | some destination =>
          database.createMessage (copyOf copying.now mailbox destination fullMessage)
            (copying.refused id)

/-- `copy_uid_pairs`: the pairs of old and new identifiers. -/
def copyUidPairs (copying : Copying) (mailbox : Mailbox) (destFolder : String) :
    Database → List Numbered → List (Nat × Nat) × Database
  | database, [] => ([], database)
  | database, entry :: entries =>
      match copyMessageToFolder copying mailbox destFolder database entry.1.id with
      | none => copyUidPairs copying mailbox destFolder database entries
      | some (newId, database) =>
          let (pairs, database) :=
            copyUidPairs copying mailbox destFolder database entries
          ((entry.1.id, newId) :: pairs, database)

def destinationMissing : Response :=
  .completed .no [] "[TRYCREATE] Destination folder not found"

/-- `handle_copy` and `handle_uid_copy` on the messages that `addressed` finds. -/
def copyAll (account : Account) (copying : Copying) (name : String)
    (addressed : List Listed → String → List Numbered) (args : Option String)
    (database : Database) (selected : Selected) : Outcome :=
  match parseCopyArgs args with
  | none => ⟨database, selected, [.completed .bad [] ("Invalid " ++ name ++ " arguments")]⟩
  | some (set, destFolder) =>
      if destinationFolderExists database destFolder account.userId then
        let (pairs, database) :=
          copyUidPairs copying account.mailbox destFolder database
            (addressed selected.messages set)
        ⟨database, selected, [.completed .ok pairs (name ++ " completed")]⟩
      else ⟨database, selected, [destinationMissing]⟩

def handleCopy (account : Account) (copying : Copying) (args : Option String)
    (database : Database) (selected : Selected) : Outcome :=
  copyAll account copying "COPY" getMessagesBySequence args database selected

def handleUidCopy (account : Account) (copying : Copying) (args : Option String)
    (database : Database) (selected : Selected) : Outcome :=
  copyAll account copying "UID COPY" getMessagesByUid args database selected

/-- `update_message_flags` of the message commands. -/
def updateFlags (account : Account) (database : Database) (message : Listed)
    (flags : List String) : Database :=
  database.updateMessageFlags message.id account.mailbox.id
    (messageUpdatesFromFlags message flags)

def movedFlags (currentFolder : String) (message : Listed) : List String :=
  ("\\Deleted" :: getMessageFlags message currentFolder).eraseDups

def markMoved (account : Account) (currentFolder : String) (database : Database)
    (entry : Numbered) : Database :=
  updateFlags account database entry.1 (movedFlags currentFolder entry.1)

/-- The part that `handle_move` and `handle_uid_move` share: the copies, which Trash
does not need, and the marks on the originals. -/
def moveAll (account : Account) (copying : Copying) (destFolder : String)
    (database : Database) (selected : Selected) (messages : List Numbered) :
    List (Nat × Nat) × Database :=
  let (pairs, database) :=
    if upcase destFolder = "TRASH" then ([], database)
    else copyUidPairs copying account.mailbox destFolder database messages
  (pairs, messages.foldl (markMoved account selected.folder) database)

def handleMove (account : Account) (copying : Copying) (args : Option String)
    (database : Database) (selected : Selected) : Outcome :=
  match parseCopyArgs args with
  | none => ⟨database, selected, [.completed .bad [] "Invalid MOVE arguments"]⟩
  | some (sequenceSet, destFolder) =>
      if destinationFolderExists database destFolder account.userId then
        let messages := getMessagesBySequence selected.messages sequenceSet
        let (pairs, database) := moveAll account copying destFolder database selected messages
        ⟨database, selected, [.completed .ok pairs "MOVE completed"]⟩
      else ⟨database, selected, [destinationMissing]⟩

/-- The `EXPUNGE` lines for the messages, the last one first. -/
def expungeLines (messages : List Numbered) : List Response :=
  messages.reverse.map fun entry => .expunged entry.2

def handleUidMove (account : Account) (copying : Copying) (args : Option String)
    (database : Database) (selected : Selected) : Outcome :=
  match parseCopyArgs args with
  | none => ⟨database, selected, [.completed .bad [] "Invalid UID MOVE arguments"]⟩
  | some (uidSet, destFolder) =>
      if destinationFolderExists database destFolder account.userId then
        let messages := getMessagesByUid selected.messages uidSet
        let (pairs, database) := moveAll account copying destFolder database selected messages
        ⟨database, selected.reload account database,
          expungeLines messages ++ [.completed .ok pairs "UID MOVE completed"]⟩
      else ⟨database, selected, [destinationMissing]⟩

/-- What a `STORE` makes of a message. -/
def newFlags (currentFolder operation : String) (flags : List String)
    (message : Listed) : List String :=
  applyFlagOperation message operation flags currentFolder

def storeMessage (account : Account) (currentFolder operation : String)
    (flags : List String) (database : Database) (entry : Numbered) : Database :=
  updateFlags account database entry.1 (newFlags currentFolder operation flags entry.1)

/-- The `FETCH` line for a stored message, if the operation is not a silent one. -/
def storeLine (currentFolder operation : String) (flags : List String)
    (uid : Listed → Option Nat) (entry : Numbered) : Option Response :=
  if isSilentStoreOperation operation then none
  else
    some (.fetched entry.2 (uid entry.1)
      (some (newFlags currentFolder operation flags entry.1)))

def storeUpdates (currentFolder operation : String) (flags : List String)
    (messages : List Numbered) : List (Nat × FlagUpdates) :=
  messages.map fun entry =>
    (entry.1.id,
      messageUpdatesFromFlags entry.1 (newFlags currentFolder operation flags entry.1))

def handleStore (account : Account) (args : Option String) (database : Database)
    (selected : Selected) : Outcome :=
  match parseStoreArgs args with
  | none => ⟨database, selected, [.completed .bad [] "Invalid STORE arguments"]⟩
  | some (sequenceSet, operation, flags) =>
      let messages := getMessagesBySequence selected.messages sequenceSet
      ⟨messages.foldl (storeMessage account selected.folder operation flags) database,
        selected.applyUpdates (storeUpdates selected.folder operation flags messages),
        messages.filterMap (storeLine selected.folder operation flags fun _ => none) ++
          [.completed .ok [] "STORE completed"]⟩

def spamChanged (flags : List String) : Bool :=
  flags.contains "Junk" || flags.contains "$Junk" || flags.contains "NonJunk" ||
    flags.contains "$NonJunk"

def handleUidStore (account : Account) (args : Option String) (database : Database)
    (selected : Selected) : Outcome :=
  match parseStoreArgs args with
  | none => ⟨database, selected, [.completed .bad [] "Invalid UID STORE arguments"]⟩
  | some (uidSet, operation, flags) =>
      let messages := getMessagesByUid selected.messages uidSet
      let stored :=
        messages.foldl (storeMessage account selected.folder operation flags) database
      let lines :=
        messages.filterMap
          (storeLine selected.folder operation flags fun message => some message.id)
      if spamChanged flags then
        ⟨stored, selected.reload account stored,
          lines ++ expungeLines messages ++
            [.completed .ok [] "UID STORE completed"]⟩
      else
        ⟨stored,
          selected.applyUpdates (storeUpdates selected.folder operation flags messages),
          lines ++ [.completed .ok [] "UID STORE completed"]⟩

def deleteEntry (account : Account) (database : Database) (entry : Numbered) :
    Database :=
  database.deleteMessage entry.1.id account.mailbox.id

/-- The messages with a set `deleted` field, with their sequence numbers. -/
def deletedEntries (messages : List Listed) : List Numbered :=
  (numbered messages).filter fun entry => entry.1.deleted

/-- `expunge_deleted_messages` on the database. -/
def expungeDeletedMessages (account : Account) (database : Database)
    (selected : Selected) : Database :=
  (deletedEntries selected.messages).foldl (deleteEntry account) database

/-- The sequence numbers of the deleted messages, each one lowered by the number of
messages removed before it. -/
def expungeSequenceNumbers (entries : List Numbered) : List Nat :=
  entries.zipIdx.map fun indexed => indexed.1.2 - indexed.2

def handleExpunge (account : Account) (database : Database) (selected : Selected) :
    Outcome where
  database := expungeDeletedMessages account database selected
  selected := selected.retain fun message => !message.deleted
  responses :=
    (expungeSequenceNumbers (deletedEntries selected.messages)).map Response.expunged ++
      [.completed .ok [] "EXPUNGE completed"]

def uidExpungeEntries (messages : List Listed) (uidSet : String) : List Numbered :=
  (numbered messages).filter fun entry =>
    matchesUidInSet entry.1.id uidSet && entry.1.deleted

def handleUidExpunge (account : Account) (args : Option String) (database : Database)
    (selected : Selected) : Outcome :=
  let entries := uidExpungeEntries selected.messages (trim (args.getD ""))
  let removed := entries.map fun entry => entry.1.id
  ⟨entries.foldl (deleteEntry account) database,
    selected.retain fun message => !removed.contains message.id,
    expungeLines entries ++ [.completed .ok [] "UID EXPUNGE completed"]⟩

/-- The refresh of `CHECK`, `NOOP` and of a notification while idle. -/
def refresh (account : Account) (database : Database) (selected : Selected) :
    Selected × List Response :=
  let fresh := selected.reload account database
  (fresh,
    if fresh.messages.length ≠ selected.messages.length then
      [.messagesExist fresh.messages.length]
    else [])

def handleCheck (account : Account) (database : Database) (selected : Selected) :
    Outcome :=
  let (fresh, lines) := refresh account database selected
  ⟨database, fresh, lines ++ [.completed .ok [] "CHECK completed"]⟩

def handleNoop (account : Account) (database : Database) (selected : Selected) :
    Outcome :=
  let (fresh, lines) := refresh account database selected
  ⟨database, fresh, lines ++ [.completed .ok [] "NOOP completed"]⟩

def shouldNotifyIdleFolderUpdate (message : Message) (selectedFolder : String) : Bool :=
  if isSystemFolderName selectedFolder then
    messageInCurrentFolder message selectedFolder
  else true

/-- A `:new_email` notification in the loop of `IDLE`. -/
def handleNewEmail (account : Account) (message : Message) (database : Database)
    (selected : Selected) : Outcome :=
  if shouldNotifyIdleFolderUpdate message selected.folder then
    let (fresh, lines) := refresh account database selected
    ⟨database, fresh, lines⟩
  else ⟨database, selected, []⟩

end Elektrine.IMAP
