import Elektrine.Email.Listings
import Elektrine.IMAP.Copies
import Elektrine.IMAP.FolderListings

/-!
# Moved messages

What `MOVE` and `UID MOVE` leave of each message they address: its row, the copies of
it, and the folders that list them.
-/

namespace Elektrine.IMAP

open Elektrine.Email

def listedIn (database : Database) (mailbox : Mailbox) (folder : String)
    (message : Message) : Bool :=
  (folderOf database mailbox folder).any fun key => key.shows message

/-- One of the rows is listed in the folder, and none is listed in another one. -/
def OnlyIn (database : Database) (mailbox : Mailbox) (folder : String)
    (messages : List Message) : Prop :=
  messages.countP (listedIn database mailbox folder) = 1 ∧
  ∀ message ∈ messages, ∀ other, listedIn database mailbox other message = true →
    folderOf database mailbox other = folderOf database mailbox folder

/-- The pairs of the `COPYUID` code of a completion. -/
def Response.copied : Response → List (Nat × Nat)
  | .completed _ pairs _ => pairs
  | _ => []

def Response.isOk : Response → Bool
  | .completed .ok _ _ => true
  | _ => false

def Outcome.copied (outcome : Outcome) : List (Nat × Nat) :=
  outcome.responses.flatMap Response.copied

def Outcome.okayed (outcome : Outcome) : Bool :=
  outcome.responses.any Response.isOk

def rowsOf (account : Account) (outcome : Outcome) (id : Nat) : List Message :=
  (id :: copiesOf outcome.copied id).filterMap fun row =>
    outcome.database.getMessage row account.mailbox.id

def Placed (account : Account) (destFolder : String) (outcome : Outcome) (id : Nat) :
    Prop :=
  OnlyIn outcome.database account.mailbox destFolder (rowsOf account outcome id)

def Kept (account : Account) (database : Database) (outcome : Outcome) (id : Nat) :
    Prop :=
  copiesOf outcome.copied id = [] ∧
    outcome.database.getMessage id account.mailbox.id =
      database.getMessage id account.mailbox.id

/-- Each message is placed or kept, and all are placed if the response is `OK`. -/
def MovesCleanly (account : Account) (database : Database) (destFolder : String)
    (entries : List Numbered) (outcome : Outcome) : Prop :=
  (∀ entry ∈ entries, Placed account destFolder outcome entry.1.id ∨
    Kept account database outcome entry.1.id) ∧
  (outcome.okayed = true →
    ∀ entry ∈ entries, Placed account destFolder outcome entry.1.id)

/-- The identifiers of the session were given out by the table. -/
def Issued (selected : Selected) (database : Database) : Prop :=
  ∀ message ∈ selected.messages, message.id < database.messages.next

/-- The copy that `MOVE` makes: none for the folder name `TRASH`. -/
def moveCopy (account : Account) (copying : Copying) (destFolder : String)
    (database : Database) (id : Nat) : Option Message :=
  if upcase destFolder = "TRASH" then none
  else copyFor copying account.mailbox destFolder database id

def moveUpdates (currentFolder : String) (session : Listed) : FlagUpdates :=
  messageUpdatesFromFlags session (movedFlags currentFolder session)

theorem moveUpdates_deleted (currentFolder : String) (session : Listed) :
    (moveUpdates currentFolder session).deleted = true :=
  List.contains_iff_mem.mpr (List.mem_eraseDups.mpr List.mem_cons_self)

/-- The changeset accepts the mark on the original. -/
def AcceptsMark (currentFolder : String) (session : Listed) (row : Message) : Prop :=
  (row.withUpdates (moveUpdates currentFolder session)).valid = true

/-- The condition under which a message ends in the destination only: its row can be
marked, no copy of it is made, and the destination is Trash; or its row cannot be
marked, and is then, with its copy, where it should be. -/
def MoveSafe (account : Account) (copying : Copying) (database : Database)
    (currentFolder destFolder : String) (session : Listed) : Prop :=
  ∃ row, database.getMessage session.id account.mailbox.id = some row ∧
    (AcceptsMark currentFolder session row →
      namedSystemFolder destFolder = some .trash ∧
        moveCopy account copying destFolder database session.id = none) ∧
    (¬AcceptsMark currentFolder session row →
      OnlyIn database account.mailbox destFolder
        (row :: (moveCopy account copying destFolder database session.id).toList))

theorem issued_reload (selected : Selected) (account : Account) (database : Database) :
    Issued (selected.reload account database) database := by
  intro message member
  have listed : message ∈ loadFolderMessages database account.mailbox selected.folder :=
    member
  rw [loadFolderMessages_eq] at listed
  obtain ⟨row, rowMember, rfl⟩ := List.mem_map.mp listed
  exact database.messages.fresh row (mem_folderMessages.mp rowMember).1

theorem folderOf_congr {first second : Database}
    (same : first.folders = second.folders) (mailbox : Mailbox) (folder : String) :
    folderOf first mailbox folder = folderOf second mailbox folder := by
  unfold folderOf findCustomFolderByName Database.listFolders
  rw [same]

theorem onlyIn_congr {first second : Database} (same : first.folders = second.folders)
    (mailbox : Mailbox) (folder : String) (messages : List Message) :
    OnlyIn first mailbox folder messages ↔ OnlyIn second mailbox folder messages := by
  have folders : folderOf first mailbox = folderOf second mailbox :=
    funext (folderOf_congr same mailbox)
  unfold OnlyIn listedIn
  rw [folders]

theorem folderOf_trash (database : Database) (mailbox : Mailbox) :
    folderOf database mailbox "Trash" = some (.system .trash) :=
  folderOf_eq_system_iff.mpr (by decide +kernel)

theorem listedIn_iff_of_deleted {database : Database} {mailbox : Mailbox}
    {folder : String} {message : Message} (deleted : message.deleted = true) :
    listedIn database mailbox folder message = true ↔
      folderOf database mailbox folder = some (.system .trash) := by
  unfold listedIn
  constructor
  · intro listed
    cases selected : folderOf database mailbox folder with
    | none =>
        rw [selected] at listed
        cases listed
    | some key =>
        rw [selected] at listed
        cases key with
        | custom folderId =>
            have kept := Message.not_deleted_of_inCustomFolder listed
            rw [deleted] at kept
            cases kept
        | system systemFolder =>
            by_cases trash : systemFolder = .trash
            · rw [trash]
            · have named : systemFolder ≠ .other := fun other =>
                folderOf_ne_other selected (congrArg FolderKey.system other)
              have kept := ImapFolder.not_deleted listed trash named
              rw [deleted] at kept
              cases kept
  · intro trash
    rw [trash]
    exact deleted

theorem listedIn_withId (database : Database) (mailbox : Mailbox) (folder : String)
    (message : Message) (id : Nat) :
    listedIn database mailbox folder (message.withId id) =
      listedIn database mailbox folder message := by
  have same : ∀ key : FolderKey, key.shows (message.withId id) = key.shows message := by
    intro key
    cases key with
    | custom folderId => rfl
    | system systemFolder => cases systemFolder <;> rfl
  unfold listedIn
  simp only [same]

theorem copyFor_deleted {copying : Copying} {mailbox : Mailbox} {destFolder : String}
    {database : Database} {id : Nat} {copy : Message}
    (trash : namedSystemFolder destFolder = some .trash)
    (made : copyFor copying mailbox destFolder database id = some copy) :
    copy.deleted = true := by
  unfold copyFor at made
  cases found : database.getMessage id mailbox.id with
  | none =>
      rw [found] at made
      cases made
  | some fullMessage =>
      have resolved : resolveDestinationFolder database destFolder mailbox.userId
          fullMessage = some ⟨fullMessage.status, false, true, false, none⟩ := by
        unfold resolveDestinationFolder
        rw [trash]
      rw [found] at made
      dsimp only at made
      rw [resolved] at made
      dsimp only at made
      split at made
      · cases made
      · cases made
        rfl

theorem onlyIn_marked_iff {account : Account} {copying : Copying} {database : Database}
    {destFolder : String} {id : Nat} {marked : Message} (deleted : marked.deleted = true) :
    OnlyIn database account.mailbox destFolder
        (marked :: (moveCopy account copying destFolder database id).toList) ↔
      namedSystemFolder destFolder = some .trash ∧
        moveCopy account copying destFolder database id = none := by
  constructor
  · intro only
    have inTrash : listedIn database account.mailbox "Trash" marked = true :=
      (listedIn_iff_of_deleted deleted).mpr (folderOf_trash _ _)
    have here := only.2 marked List.mem_cons_self "Trash" inTrash
    rw [folderOf_trash] at here
    have named := folderOf_eq_system_iff.mp here.symm
    refine ⟨named, ?_⟩
    cases made : moveCopy account copying destFolder database id with
    | none => rfl
    | some copy =>
        have copied : copyFor copying account.mailbox destFolder database id =
            some copy := by
          unfold moveCopy at made
          split at made
          · cases made
          · exact made
        have count := only.1
        have first : listedIn database account.mailbox destFolder marked = true :=
          (listedIn_iff_of_deleted deleted).mpr here.symm
        have second : listedIn database account.mailbox destFolder copy = true :=
          (listedIn_iff_of_deleted (copyFor_deleted named copied)).mpr here.symm
        rw [made] at count
        simp [first, second] at count
  · intro trash
    obtain ⟨named, unmade⟩ := trash
    have here : folderOf database account.mailbox destFolder = some (.system .trash) :=
      folderOf_eq_system_iff.mpr named
    have first : listedIn database account.mailbox destFolder marked = true :=
      (listedIn_iff_of_deleted deleted).mpr here
    rw [unmade]
    refine ⟨by simp [first], ?_⟩
    intro message member other listed
    rw [List.mem_singleton.mp member, listedIn_iff_of_deleted deleted] at listed
    rw [listed, here]

theorem onlyIn_withId {database : Database} {mailbox : Mailbox} {folder : String}
    {row copy : Message} {id : Nat} :
    OnlyIn database mailbox folder [row, copy.withId id] ↔
      OnlyIn database mailbox folder [row, copy] := by
  unfold OnlyIn
  simp only [List.countP_cons, List.countP_nil, List.mem_cons, List.not_mem_nil,
    or_false, forall_eq_or_imp, forall_eq, listedIn_withId]

section
variable {account : Account} {copying : Copying} {database : Database}
  {selected : Selected} {destFolder : String} {entries : List Numbered}

theorem foldl_markMoved (database : Database) (currentFolder : String) :
    entries.foldl (markMoved account currentFolder) database =
      updateEach account.mailbox.id (moveUpdates currentFolder) database entries := rfl

def moveCopies (account : Account) (copying : Copying) (destFolder : String)
    (database : Database) (entries : List Numbered) : List (Nat × Nat) × Database :=
  if upcase destFolder = "TRASH" then ([], database)
  else copyUidPairs copying account.mailbox destFolder database entries

theorem moveAll_eq :
    moveAll account copying destFolder database selected entries =
      ((moveCopies account copying destFolder database entries).1,
        updateEach account.mailbox.id (moveUpdates selected.folder)
          (moveCopies account copying destFolder database entries).2 entries) := by
  rw [← foldl_markMoved]
  rfl

theorem grows_moveCopies :
    Grows database (moveCopies account copying destFolder database entries).2 := by
  unfold moveCopies
  split
  · exact Grows.refl database
  · exact grows_copyUidPairs entries database

theorem copiesOf_moveCopies
    (once : (entries.map fun entry => entry.1.id).Nodup)
    (issued : ∀ entry ∈ entries, entry.1.id < database.messages.next)
    {entry : Numbered} (member : entry ∈ entries) :
    (moveCopy account copying destFolder database entry.1.id = none ∧
      copiesOf (moveCopies account copying destFolder database entries).1
        entry.1.id = []) ∨
    ∃ copy id, moveCopy account copying destFolder database entry.1.id = some copy ∧
      copiesOf (moveCopies account copying destFolder database entries).1
        entry.1.id = [id] ∧
      database.messages.next ≤ id ∧
      (moveCopies account copying destFolder database entries).2.messages.find id =
        some (copy.withId id) := by
  unfold moveCopies moveCopy
  by_cases trash : upcase destFolder = "TRASH"
  · simp only [if_pos trash]
    exact Or.inl ⟨trivial, rfl⟩
  · simp only [if_neg trash]
    exact copiesOf_copyUidPairs once issued member

theorem copyFor_mailboxId {mailbox : Mailbox} {id : Nat} {copy : Message}
    (made : copyFor copying mailbox destFolder database id = some copy) :
    copy.mailboxId = mailbox.id := by
  unfold copyFor at made
  cases found : database.getMessage id mailbox.id with
  | none =>
      rw [found] at made
      cases made
  | some fullMessage =>
      rw [found] at made
      dsimp only at made
      cases resolved : resolveDestinationFolder database destFolder mailbox.userId
          fullMessage with
      | none =>
          rw [resolved] at made
          cases made
      | some destination =>
          rw [resolved] at made
          dsimp only at made
          split at made
          · cases made
          · cases made
            rfl

theorem moveCopy_eq_some {id : Nat} {copy : Message}
    (made : moveCopy account copying destFolder database id = some copy) :
    copyFor copying account.mailbox destFolder database id = some copy := by
  unfold moveCopy at made
  split at made
  · cases made
  · exact made

theorem moveCopy_eq_none {id : Nat}
    (missing : database.getMessage id account.mailbox.id = none) :
    moveCopy account copying destFolder database id = none := by
  unfold moveCopy copyFor
  rw [missing]
  split
  · rfl
  · rfl

def markedRow (currentFolder : String) (session : Listed) (row : Message) : Message :=
  row.storeUpdates (moveUpdates currentFolder session)

section
variable {messages : List Listed} (addressed : Addressed messages entries)
  (issued : ∀ entry ∈ entries, entry.1.id < database.messages.next)
  {outcome : Outcome}
  (stored : outcome.database =
    (moveAll account copying destFolder database selected entries).2)
  (copied : outcome.copied =
    (moveAll account copying destFolder database selected entries).1)
  {entry : Numbered} (member : entry ∈ entries)
include addressed issued stored member

theorem getMessage_moved :
    outcome.database.getMessage entry.1.id account.mailbox.id =
      (database.getMessage entry.1.id account.mailbox.id).map
        (markedRow selected.folder entry.1) := by
  have older : (moveCopies account copying destFolder database entries).2.getMessage
      entry.1.id account.mailbox.id =
        database.getMessage entry.1.id account.mailbox.id :=
    grows_moveCopies.getMessage (issued entry member) _
  have marked := @getMessage_updateEach messages account.mailbox.id
    (moveUpdates selected.folder)
    (moveCopies account copying destFolder database entries).2 entries addressed entry
    member
  rw [stored, moveAll_eq, ← older]
  exact marked

include copied

theorem rowsOf_moved :
    (database.getMessage entry.1.id account.mailbox.id = none ∧
      rowsOf account outcome entry.1.id = []) ∨
    ∃ row, database.getMessage entry.1.id account.mailbox.id = some row ∧
      ((moveCopy account copying destFolder database entry.1.id = none ∧
        rowsOf account outcome entry.1.id =
          [markedRow selected.folder entry.1 row]) ∨
      ∃ copy id, moveCopy account copying destFolder database entry.1.id = some copy ∧
        rowsOf account outcome entry.1.id =
          [markedRow selected.folder entry.1 row, copy.withId id]) := by
  have own := getMessage_moved addressed issued stored member
  have pairs : outcome.copied =
      (moveCopies account copying destFolder database entries).1 := by
    rw [copied, moveAll_eq]
  have copies := @copiesOf_moveCopies account copying database destFolder entries
    addressed.once issued entry member
  rw [← pairs] at copies
  unfold rowsOf
  cases found : database.getMessage entry.1.id account.mailbox.id with
  | none =>
      rw [found] at own
      rcases copies with unmade | made
      · rw [unmade.2]
        exact Or.inl ⟨rfl, by simp [own]⟩
      · obtain ⟨copy, id, made, -⟩ := made
        rw [moveCopy_eq_none found] at made
        cases made
  | some row =>
      rw [found] at own
      refine Or.inr ⟨row, rfl, ?_⟩
      rcases copies with unmade | made
      · rw [unmade.2]
        exact Or.inl ⟨unmade.1, by simp [own]⟩
      · obtain ⟨copy, id, made, ids, above, copyFound⟩ := made
        have others : ∀ other ∈ entries, other.1.id ≠ id := by
          intro other otherMember same
          have below := issued other otherMember
          omega
        have kept : outcome.database.getMessage id account.mailbox.id =
            some (copy.withId id) := by
          rw [stored, moveAll_eq]
          rw [getMessage_updateEach_other others, Database.getMessage, copyFound,
            Option.filter_some]
          have own_mailbox : copy.mailboxId = account.mailbox.id :=
            copyFor_mailboxId (moveCopy_eq_some made)
          have mailbox : ((copy.withId id).mailboxId == account.mailbox.id) = true :=
            beq_iff_eq.mpr own_mailbox
          rw [mailbox]
          rfl
        rw [ids]
        exact Or.inr ⟨copy, id, made, by simp [own, kept]⟩

theorem placed_iff :
    Placed account destFolder outcome entry.1.id ↔
      MoveSafe account copying database selected.folder destFolder entry.1 := by
  have folders : outcome.database.folders = database.folders := by
    rw [stored, moveAll_eq]
    exact (folders_updateEach _ _ _ _).trans grows_moveCopies.folders
  unfold Placed
  rw [onlyIn_congr folders]
  rcases rowsOf_moved addressed issued stored copied member with missing | found
  · obtain ⟨missing, none_left⟩ := missing
    rw [none_left]
    constructor
    · intro only
      cases only.1
    · intro safe
      obtain ⟨row, found, -⟩ := safe
      rw [missing] at found
      cases found
  · obtain ⟨row, found, rows⟩ := found
    have left : OnlyIn database account.mailbox destFolder
          (rowsOf account outcome entry.1.id) ↔
        OnlyIn database account.mailbox destFolder
          (markedRow selected.folder entry.1 row ::
            (moveCopy account copying destFolder database entry.1.id).toList) := by
      rcases rows with alone | pair
      · rw [alone.1, alone.2]
        exact Iff.rfl
      · obtain ⟨copy, id, made, rows⟩ := pair
        rw [made, rows]
        exact onlyIn_withId
    rw [left]
    have only_row : MoveSafe account copying database selected.folder destFolder entry.1 ↔
        (AcceptsMark selected.folder entry.1 row →
          namedSystemFolder destFolder = some .trash ∧
            moveCopy account copying destFolder database entry.1.id = none) ∧
        (¬AcceptsMark selected.folder entry.1 row →
          OnlyIn database account.mailbox destFolder
            (row :: (moveCopy account copying destFolder database
              entry.1.id).toList)) := by
      constructor
      · intro safe
        obtain ⟨other, otherFound, safe⟩ := safe
        rw [found] at otherFound
        cases otherFound
        exact safe
      · intro safe
        exact ⟨row, found, safe⟩
    rw [only_row]
    by_cases accepted : AcceptsMark selected.folder entry.1 row
    · have marked : markedRow selected.folder entry.1 row =
          row.withUpdates (moveUpdates selected.folder entry.1) := if_pos accepted
      rw [marked, onlyIn_marked_iff (moveUpdates_deleted selected.folder entry.1)]
      constructor
      · intro trash
        exact ⟨fun _ => trash, fun rejected => absurd accepted rejected⟩
      · intro safe
        exact safe.1 accepted
    · have unmarked : markedRow selected.folder entry.1 row = row := if_neg accepted
      rw [unmarked]
      constructor
      · intro only
        exact ⟨fun accepts => absurd accepts accepted, fun _ => only⟩
      · intro safe
        exact safe.2 accepted

end

end

theorem movesCleanly_iff {account : Account} {copying : Copying} {database : Database}
    {selected : Selected} {destFolder : String} {entries : List Numbered}
    (addressed : Addressed selected.messages entries)
    (issued : Issued selected database) {outcome : Outcome}
    (missing : destinationFolderExists database destFolder account.userId = false →
      outcome = ⟨database, selected, [destinationMissing]⟩)
    (stored : destinationFolderExists database destFolder account.userId = true →
      outcome.database =
          (moveAll account copying destFolder database selected entries).2 ∧
        outcome.copied =
          (moveAll account copying destFolder database selected entries).1 ∧
        outcome.okayed = true) :
    MovesCleanly account database destFolder entries outcome ↔
      destinationFolderExists database destFolder account.userId = false ∨
        ∀ entry ∈ entries,
          MoveSafe account copying database selected.folder destFolder entry.1 := by
  cases exists_folder : destinationFolderExists database destFolder account.userId with
  | false =>
      rw [missing exists_folder]
      refine iff_of_true ⟨?_, ?_⟩ (Or.inl rfl)
      · intro entry _
        exact Or.inr ⟨rfl, rfl⟩
      · intro okayed
        cases okayed
  | true =>
      obtain ⟨changed, copied, okayed⟩ := stored exists_folder
      have known : ∀ entry ∈ entries, entry.1.id < database.messages.next :=
        fun entry member =>
          issued entry.1 (mem_of_mem_numbered (addressed.numbered entry member))
      have each : (∀ entry ∈ entries, Placed account destFolder outcome entry.1.id) ↔
          ∀ entry ∈ entries,
            MoveSafe account copying database selected.folder destFolder entry.1 := by
        apply forall₂_congr
        intro entry member
        exact placed_iff addressed known changed copied member
      rw [← each]
      constructor
      · intro clean
        exact Or.inr (clean.2 okayed)
      · intro placed
        have all := placed.resolve_left Bool.noConfusion
        exact ⟨fun entry member => Or.inl (all entry member), fun _ => all⟩

/-- `MOVE` and `UID MOVE` neither lose nor duplicate a message exactly where the move of
each message is safe. -/
theorem move_commands_iff (account : Account) (copying : Copying) (database : Database)
    (selected : Selected) (args : Option String) (set destFolder : String)
    (parsed : parseCopyArgs args = some (set, destFolder))
    (issued : Issued selected database) :
    (MovesCleanly account database destFolder
        (getMessagesBySequence selected.messages set)
        (handleMove account copying args database selected) ↔
      destinationFolderExists database destFolder account.userId = false ∨
        ∀ entry ∈ getMessagesBySequence selected.messages set,
          MoveSafe account copying database selected.folder destFolder entry.1) ∧
    (MovesCleanly account database destFolder
        (getMessagesByUid selected.messages set)
        (handleUidMove account copying args database selected) ↔
      destinationFolderExists database destFolder account.userId = false ∨
        ∀ entry ∈ getMessagesByUid selected.messages set,
          MoveSafe account copying database selected.folder destFolder entry.1) := by
  have no_copies : ∀ (entries : List Numbered) (pairs : List (Nat × Nat)) (text : String),
      (expungeLines entries ++ [Response.completed .ok pairs text]).flatMap
        Response.copied = pairs := by
    intro entries pairs text
    have lines : (expungeLines entries).flatMap Response.copied = [] := by
      rw [List.flatMap_eq_nil_iff]
      intro response member
      obtain ⟨entry, -, rfl⟩ := List.mem_map.mp member
      rfl
    rw [List.flatMap_append, lines]
    simp [Response.copied]
  constructor
  · apply movesCleanly_iff (addressed_bySequence selected.ascending set) issued
    · intro unknown
      unfold handleMove
      rw [parsed]
      dsimp only
      rw [unknown]
      rfl
    · intro known
      unfold handleMove
      rw [parsed]
      dsimp only
      rw [if_pos known]
      exact ⟨rfl, List.append_nil _, rfl⟩
  · apply movesCleanly_iff (addressed_byUid selected.messages set) issued
    · intro unknown
      unfold handleUidMove
      rw [parsed]
      dsimp only
      rw [unknown]
      rfl
    · intro known
      unfold handleUidMove
      rw [parsed]
      dsimp only
      rw [if_pos known]
      refine ⟨rfl, no_copies _ _ _, ?_⟩
      unfold Outcome.okayed
      rw [List.any_append]
      exact Bool.or_true _

def movedMessage : Message where
  id := 1
  mailboxId := 1
  messageId := "moved@z.example"
  fromAddress := "you@z.example"
  toAddress := some "me@z.example"
  content := ⟨none, none, some "moved", none, none, .obj [], .obj [], false⟩
  status := "received"
  read := true
  flagged := false
  answered := false
  deleted := false
  spam := false
  archived := false
  replyLaterAt := none
  folderId := none
  payloadValid := true

def movedDatabase : Database where
  messages :=
    (Library.SerialRows.empty Message Message.id).append movedMessage.withId
      movedMessage.withId_id
  folders := []

def movedAccount : Account := ⟨⟨1, some 1⟩, 1⟩

def movedCopying : Copying := ⟨0, fun _ => false⟩

def inboxSelected : Selected where
  folder := "INBOX"
  messages := [movedMessage.listed]
  ascending := List.pairwise_singleton _ _

def moveCommand : Option String := some "1 \"Spam\""

theorem moveCommand_parsed : parseCopyArgs moveCommand = some ("1", "Spam") := by
  decide

theorem move_commands_moved :
    (MovesCleanly movedAccount movedDatabase "Spam"
        (getMessagesBySequence [movedMessage.listed] "1")
        (handleMove movedAccount movedCopying moveCommand movedDatabase inboxSelected) ↔
      destinationFolderExists movedDatabase "Spam" 1 = false ∨
        ∀ entry ∈ getMessagesBySequence [movedMessage.listed] "1",
          MoveSafe movedAccount movedCopying movedDatabase "INBOX" "Spam" entry.1) ∧
    (MovesCleanly movedAccount movedDatabase "Spam"
        (getMessagesByUid [movedMessage.listed] "1")
        (handleUidMove movedAccount movedCopying moveCommand movedDatabase
          inboxSelected) ↔
      destinationFolderExists movedDatabase "Spam" 1 = false ∨
        ∀ entry ∈ getMessagesByUid [movedMessage.listed] "1",
          MoveSafe movedAccount movedCopying movedDatabase "INBOX" "Spam" entry.1) :=
  move_commands_iff movedAccount movedCopying movedDatabase inboxSelected moveCommand "1"
    "Spam" moveCommand_parsed (by
      intro message member
      rw [List.mem_singleton.mp member]
      decide)

/-- A message that is moved to Spam is in Trash, too. -/
theorem not_movesCleanly_moved :
    ¬MovesCleanly movedAccount movedDatabase "Spam"
      (getMessagesBySequence [movedMessage.listed] "1")
      (handleMove movedAccount movedCopying moveCommand movedDatabase
        inboxSelected) := by
  intro clean
  have placed : Placed movedAccount "Spam" (handleMove movedAccount movedCopying
      moveCommand movedDatabase inboxSelected) 1 :=
    clean.2 (by decide) (movedMessage.listed, 1) (by decide)
  have deleted : ((handleMove movedAccount movedCopying moveCommand movedDatabase
      inboxSelected).database.getMessage 1 1).map Message.deleted = some true := by
    decide +kernel
  obtain ⟨row, found, marked⟩ := Option.map_eq_some_iff.mp deleted
  have member : row ∈ rowsOf movedAccount (handleMove movedAccount movedCopying
      moveCommand movedDatabase inboxSelected) 1 :=
    List.mem_filterMap.mpr ⟨1, List.mem_cons_self, found⟩
  have here := placed.2 row member "Trash"
    ((listedIn_iff_of_deleted marked).mpr (folderOf_trash _ _))
  have spam : ∀ database, folderOf database movedAccount.mailbox "Spam" =
      some (.system .spam) :=
    fun database => folderOf_eq_system_iff.mpr (by decide +kernel)
  rw [folderOf_trash, spam] at here
  cases here

end Elektrine.IMAP
