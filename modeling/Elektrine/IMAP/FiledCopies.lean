import Elektrine.IMAP.Moves

/-!
# Where copies are filed

`COPY` and `MOVE` file a message in no folder or in a folder of the user who owns the
mailbox, and leave every other message where it is filed.
-/

namespace Elektrine.IMAP

open Elektrine.Email

/-- A relation between the mailbox and the folder of a message, for every row. -/
def Throughout (Filed : Nat → Option Nat → Prop) (database : Database) : Prop :=
  ∀ message ∈ database.messages.rows, Filed message.mailboxId message.folderId

structure FilesInto (Filed : Nat → Option Nat → Prop) (mailbox : Mailbox)
    (folders : List Folder) : Prop where
  unfiled : Filed mailbox.id none
  own : ∀ userId, mailbox.userId = some userId → ∀ folder ∈ folders,
    folder.userId = userId → Filed mailbox.id (some folder.id)

variable {Filed : Nat → Option Nat → Prop} {database : Database}

theorem throughout_updateMessageFlags (everywhere : Throughout Filed database)
    (id mailboxId : Nat) (updates : FlagUpdates) :
    Throughout Filed (database.updateMessageFlags id mailboxId updates) := by
  unfold Database.updateMessageFlags
  cases database.getMessage id mailboxId with
  | none => exact everywhere
  | some message =>
      dsimp only
      split
      · intro row member
        obtain ⟨old, oldMember, rfl⟩ := List.mem_map.mp member
        have filed := everywhere old oldMember
        split
        · exact filed
        · exact filed
      · exact everywhere

theorem throughout_updateEach (everywhere : Throughout Filed database) (mailboxId : Nat)
    (updates : Listed → FlagUpdates) (entries : List Numbered) :
    Throughout Filed (updateEach mailboxId updates database entries) := by
  induction entries generalizing database with
  | nil => exact everywhere
  | cons entry entries ih =>
      apply ih
      exact throughout_updateMessageFlags everywhere _ _ _

theorem filed_resolveDestinationFolder {mailbox : Mailbox}
    (into : FilesInto Filed mailbox database.folders) {destFolder : String}
    {fullMessage : Message} {destination : Destination}
    (resolved : resolveDestinationFolder database destFolder mailbox.userId fullMessage =
      some destination) :
    Filed mailbox.id destination.folderId := by
  unfold resolveDestinationFolder at resolved
  split at resolved
  iterate 5
    cases resolved
    exact into.unfiled
  · obtain ⟨folder, found, rfl⟩ := Option.map_eq_some_iff.mp resolved
    obtain ⟨userId, owned, located⟩ := Option.bind_eq_some_iff.mp found
    have listed := List.mem_of_find?_eq_some located
    obtain ⟨member, own⟩ := List.mem_filter.mp listed
    exact into.own userId owned folder member (beq_iff_eq.mp own)

theorem filed_copyFor {copying : Copying} {mailbox : Mailbox} {destFolder : String}
    (into : FilesInto Filed mailbox database.folders) {id : Nat} {copy : Message}
    (made : copyFor copying mailbox destFolder database id = some copy) :
    Filed copy.mailboxId copy.folderId := by
  unfold copyFor at made
  cases found : database.getMessage id mailbox.id with
  | none =>
      rw [found] at made
      cases made
  | some fullMessage =>
      rw [found] at made
      dsimp only at made
      cases resolved : resolveDestinationFolder database destFolder mailbox.userId
          fullMessage with
      | none =>
          rw [resolved] at made
          cases made
      | some destination =>
          rw [resolved] at made
          dsimp only at made
          split at made
          · cases made
          · cases made
            exact filed_resolveDestinationFolder into resolved

theorem throughout_copyUidPairs {mailbox : Mailbox}
    (into : FilesInto Filed mailbox database.folders)
    (everywhere : Throughout Filed database) (copying : Copying) (destFolder : String)
    (entries : List Numbered) :
    Throughout Filed (copyUidPairs copying mailbox destFolder database entries).2 := by
  induction entries generalizing database with
  | nil => exact everywhere
  | cons entry entries ih =>
      cases made : copyFor copying mailbox destFolder database entry.1.id with
      | none =>
          rw [copyUidPairs_cons_none made]
          exact ih into everywhere
      | some copy =>
          rw [copyUidPairs_cons_some made]
          have grown : FilesInto Filed mailbox (appendMessage database copy).folders := into
          have filed : Filed copy.mailboxId copy.folderId := filed_copyFor into made
          apply ih grown
          intro row member
          rcases List.mem_append.mp member with old | last
          · exact everywhere row old
          · rw [List.mem_singleton.mp last]
            exact filed

section Commands

variable {account : Account} (into : FilesInto Filed account.mailbox database.folders)
  (everywhere : Throughout Filed database) (copying : Copying) (args : Option String)
  (selected : Selected)

include into everywhere

theorem throughout_copyAll (name : String)
    (addressed : List Listed → String → List Numbered) :
    Throughout Filed
      (copyAll account copying name addressed args database selected).database := by
  unfold copyAll
  cases parseCopyArgs args with
  | none => exact everywhere
  | some parsed =>
      dsimp only
      split
      · exact throughout_copyUidPairs into everywhere copying _ _
      · exact everywhere

theorem throughout_moveAll (destFolder : String) (entries : List Numbered) :
    Throughout Filed
      (moveAll account copying destFolder database selected entries).2 := by
  rw [moveAll_eq]
  apply throughout_updateEach
  unfold moveCopies
  split
  · exact everywhere
  · exact throughout_copyUidPairs into everywhere copying _ _

theorem throughout_handleMove :
    Throughout Filed (handleMove account copying args database selected).database := by
  unfold handleMove
  cases parseCopyArgs args with
  | none => exact everywhere
  | some parsed =>
      dsimp only
      split
      · exact throughout_moveAll into everywhere copying selected _ _
      · exact everywhere

theorem throughout_handleUidMove :
    Throughout Filed (handleUidMove account copying args database selected).database := by
  unfold handleUidMove
  cases parseCopyArgs args with
  | none => exact everywhere
  | some parsed =>
      dsimp only
      split
      · exact throughout_moveAll into everywhere copying selected _ _
      · exact everywhere

end Commands

end Elektrine.IMAP
