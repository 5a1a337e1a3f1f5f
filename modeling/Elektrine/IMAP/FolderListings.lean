import Elektrine.Email.Listings
import Elektrine.IMAP.Folders

/-!
# Which folders list a message

The listings of the selectable folders against each other, and against the test that
notifications use for the selected folder.
-/

namespace Elektrine.IMAP

open Elektrine.Email

/-- Every message of the mailbox is in one folder: no message is listed in two
selectable folders, a message assigned to a custom folder is listed there and not in
the inbox, and the test for the selected folder agrees with the listing. -/
structure EachInOneFolder (database : Database) (mailbox : Mailbox) : Prop where
  once : ∀ message first second,
    message ∈ folderMessages database mailbox first →
    message ∈ folderMessages database mailbox second →
    folderOf database mailbox first = folderOf database mailbox second
  assigned : ∀ message ∈ database.messages.rows, message.mailboxId = mailbox.id →
    ∀ folder folderId, folderOf database mailbox folder = some (.custom folderId) →
      message.folderId = some folderId →
        message ∈ folderMessages database mailbox folder ∧
          message ∉ folderMessages database mailbox "INBOX"
  agrees : ∀ message ∈ database.messages.rows, message.mailboxId = mailbox.id →
    ∀ folder, messageInCurrentFolder message folder ↔
      message ∈ folderMessages database mailbox folder

theorem namedSystemFolder_ne_other (folder : String) :
    namedSystemFolder folder ≠ some .other := by
  intro named
  unfold namedSystemFolder at named
  simp only [List.lookup_cons, List.lookup_nil] at named
  repeat' split at named
  all_goals cases named

/-- The second folder lists a message of the first one, too: the inbox shares with
Sent and Drafts what its author sent to himself, and a custom folder shares its
messages with system folders other than Trash. -/
def FolderKey.Shares (first second : FolderKey) (message : Message) : Prop :=
  match first, second with
  | .system .inbox, .system folder => folder.SharesInbox message
  | .custom folderId, .system folder =>
      message.folderId = some folderId ∧ folder ≠ .trash
  | _, _ => False

theorem inCustomFolder_iff {message : Message} {folderId : Nat} :
    message.inCustomFolder folderId ↔
      message.folderId = some folderId ∧ message.deleted = false ∧
        message.replyLaterAt = none := by
  simp only [Message.inCustomFolder, Bool.and_eq_true, beq_iff_eq, Bool.not_eq_true',
    Option.isNone_iff_eq_none]
  constructor
  · intro filed
    exact ⟨filed.1.1, filed.2, filed.1.2⟩
  · intro filed
    exact ⟨⟨filed.1, filed.2.2⟩, filed.2.1⟩

theorem FolderKey.shared {first second : FolderKey} {message : Message}
    (firstShown : first.shows message) (secondShown : second.shows message)
    (different : first ≠ second) (first_named : first ≠ .system .other)
    (second_named : second ≠ .system .other) :
    first.Shares second message ∨ second.Shares first message := by
  cases first with
  | custom firstId =>
      have filed := inCustomFolder_iff.mp firstShown
      cases second with
      | custom secondId =>
          have also := inCustomFolder_iff.mp secondShown
          have same : firstId = secondId :=
            Option.some.inj (filed.1.symm.trans also.1)
          exact absurd (congrArg FolderKey.custom same) different
      | system folder =>
          refine Or.inl ⟨filed.1, ?_⟩
          intro trash
          subst trash
          have gone : message.deleted = true := secondShown
          rw [filed.2.1] at gone
          cases gone
  | system folder =>
      cases second with
      | custom secondId =>
          have filed := inCustomFolder_iff.mp secondShown
          refine Or.inr ⟨filed.1, ?_⟩
          intro trash
          subst trash
          have gone : message.deleted = true := firstShown
          rw [filed.2.1] at gone
          cases gone
      | system second =>
          have apart : folder ≠ second := fun same =>
            different (congrArg FolderKey.system same)
          have folder_named : folder ≠ .other := fun same =>
            first_named (congrArg FolderKey.system same)
          have other_named : second ≠ .other := fun same =>
            second_named (congrArg FolderKey.system same)
          rcases ImapFolder.shared firstShown secondShown apart folder_named other_named
            with inbox | inbox
          · obtain ⟨rfl, shares⟩ := inbox
            exact Or.inl shares
          · obtain ⟨rfl, shares⟩ := inbox
            exact Or.inr shares

theorem folderOf_ne_other {database : Database} {mailbox : Mailbox} {folder : String}
    {key : FolderKey} (selected : folderOf database mailbox folder = some key) :
    key ≠ .system .other := by
  intro other
  rw [other, folderOf_eq_system_iff] at selected
  exact namedSystemFolder_ne_other folder selected

/-- The notification test leaves out what is deferred and what an author sent to
himself; without these it is the condition of the listing. -/
theorem messageInCurrentFolder_iff_shows {message : Message} {folder : String}
    {systemFolder : ImapFolder} (named : namedSystemFolder folder = some systemFolder)
    (present : systemFolder = .trash ∨ message.replyLaterAt = none)
    (foreign : systemFolder = .inbox → message.incoming ∨ ¬message.selfSent) :
    messageInCurrentFolder message folder ↔ systemFolder.shows message := by
  unfold messageInCurrentFolder
  rw [named]
  cases systemFolder with
  | other => exact absurd named (namedSystemFolder_ne_other folder)
  | trash => exact Iff.rfl
  | inbox =>
      have now := present.resolve_left (by decide)
      have origin : (message.incoming || message.selfSent) = message.incoming := by
        rcases foreign rfl with incoming | others
        · rw [incoming, Bool.true_or]
        · rw [Bool.not_eq_true _ |>.mp others, Bool.or_false]
      simp only [ImapFolder.shows, now, Option.isNone_none, Bool.true_and, origin]
  | sent =>
      have now := present.resolve_left (by decide)
      simp only [ImapFolder.shows, now, Option.isNone_none, Bool.true_and]
  | drafts =>
      have now := present.resolve_left (by decide)
      simp only [ImapFolder.shows, now, Option.isNone_none, Bool.true_and]
  | spam =>
      have now := present.resolve_left (by decide)
      simp only [ImapFolder.shows, now, Option.isNone_none, Bool.true_and]

/-- Which folders list a message of the mailbox. -/
theorem listed_folders {database : Database} {mailbox : Mailbox} {message : Message}
    (member : message ∈ database.messages.rows) (own : message.mailboxId = mailbox.id) :
    (∀ first second firstKey secondKey,
      folderOf database mailbox first = some firstKey →
      folderOf database mailbox second = some secondKey → firstKey ≠ secondKey →
      message ∈ folderMessages database mailbox first →
      message ∈ folderMessages database mailbox second →
        firstKey.Shares secondKey message ∨ secondKey.Shares firstKey message) ∧
    (∀ folder folderId,
      folderOf database mailbox folder = some (.custom folderId) →
        (message ∈ folderMessages database mailbox folder ↔
          message.folderId = some folderId ∧ message.deleted = false ∧
            message.replyLaterAt = none)) ∧
    (∀ folder systemFolder, namedSystemFolder folder = some systemFolder →
      (systemFolder = .trash ∨ message.replyLaterAt = none) →
      (systemFolder = .inbox → message.incoming ∨ ¬message.selfSent) →
        (messageInCurrentFolder message folder ↔
          message ∈ folderMessages database mailbox folder)) ∧
    (∀ folder, namedSystemFolder folder = none →
      messageInCurrentFolder message folder = false) := by
  refine ⟨?_, ?_, ?_, ?_⟩
  · intro first second firstKey secondKey firstSelected secondSelected different
      inFirst inSecond
    obtain ⟨-, -, key, selected, firstShown⟩ := mem_folderMessages.mp inFirst
    cases firstSelected.symm.trans selected
    obtain ⟨-, -, key, selected, secondShown⟩ := mem_folderMessages.mp inSecond
    cases secondSelected.symm.trans selected
    exact FolderKey.shared firstShown secondShown different
      (folderOf_ne_other firstSelected) (folderOf_ne_other secondSelected)
  · intro folder folderId selected
    rw [mem_folderMessages, ← inCustomFolder_iff]
    constructor
    · intro listed
      obtain ⟨-, -, key, keyed, shown⟩ := listed
      cases selected.symm.trans keyed
      exact shown
    · intro filed
      exact ⟨member, own, .custom folderId, selected, filed⟩
  · intro folder systemFolder named present foreign
    rw [messageInCurrentFolder_iff_shows named present foreign, mem_folderMessages]
    have selected : folderOf database mailbox folder = some (.system systemFolder) :=
      folderOf_eq_system_iff.mpr named
    constructor
    · intro shown
      exact ⟨member, own, .system systemFolder, selected, shown⟩
    · intro listed
      obtain ⟨-, -, key, keyed, shown⟩ := listed
      cases selected.symm.trans keyed
      exact shown
  · intro folder unnamed
    unfold messageInCurrentFolder
    rw [unnamed]

def noteToSelf : Message where
  id := 1
  mailboxId := 1
  messageId := "note@z.example"
  fromAddress := "me@z.example"
  toAddress := some "me@z.example"
  content := ⟨none, none, some "note", none, none, .obj [], .obj [], false⟩
  status := "sent"
  read := true
  flagged := false
  answered := false
  deleted := false
  spam := false
  archived := false
  replyLaterAt := none
  folderId := none
  payloadValid := true

def noteMailbox : Mailbox := ⟨1, some 1⟩

def noteDatabase : Database where
  messages :=
    (Library.SerialRows.empty Message Message.id).append
      (fun id => { noteToSelf with id }) fun _ => rfl
  folders := []

theorem note_member : noteToSelf ∈ noteDatabase.messages.rows :=
  List.mem_singleton.mpr rfl

theorem note_in_inbox :
    noteToSelf ∈ folderMessages noteDatabase noteMailbox "INBOX" :=
  mem_folderMessages.mpr ⟨note_member, rfl, .system .inbox,
    folderOf_eq_system_iff.mpr (by decide +kernel), by decide⟩

theorem note_in_sent :
    noteToSelf ∈ folderMessages noteDatabase noteMailbox "Sent" :=
  mem_folderMessages.mpr ⟨note_member, rfl, .system .sent,
    folderOf_eq_system_iff.mpr (by decide +kernel), by decide⟩

theorem listed_folders_note :
    FolderKey.Shares (.system .inbox) (.system .sent) noteToSelf ∨
      FolderKey.Shares (.system .sent) (.system .inbox) noteToSelf :=
  (listed_folders note_member rfl).1 "INBOX" "Sent" (.system .inbox) (.system .sent)
    (folderOf_eq_system_iff.mpr (by decide +kernel))
    (folderOf_eq_system_iff.mpr (by decide +kernel)) (by decide) note_in_inbox
    note_in_sent

/-- A note to oneself is listed in the inbox and in Sent. -/
theorem not_eachInOneFolder_note : ¬EachInOneFolder noteDatabase noteMailbox := by
  intro one
  have same := one.once noteToSelf "INBOX" "Sent" note_in_inbox note_in_sent
  have inbox : folderOf noteDatabase noteMailbox "INBOX" = some (.system .inbox) :=
    folderOf_eq_system_iff.mpr (by decide +kernel)
  have sent : folderOf noteDatabase noteMailbox "Sent" = some (.system .sent) :=
    folderOf_eq_system_iff.mpr (by decide +kernel)
  rw [inbox, sent] at same
  exact absurd same (by decide)

end Elektrine.IMAP
