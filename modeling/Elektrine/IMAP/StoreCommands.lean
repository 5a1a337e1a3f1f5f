import Elektrine.IMAP.FlagStores

/-!
# The STORE commands

`STORE` and `UID STORE` on all messages they address: each one is changed and reported
as asked exactly when the condition on its row holds.
-/

namespace Elektrine.IMAP

open Elektrine.Email

def Response.flagsOf (number : Nat) : Response → Option (List String)
  | .fetched other _ flags => if other = number then flags else none
  | _ => none

def reportOf (responses : List Response) (number : Nat) : Option (List String) :=
  responses.findSome? (Response.flagsOf number)

/-- Each of the messages is changed and reported as the command asks. -/
def StoresAsAsked (account : Account) (database : Database) (currentFolder : String)
    (operation : FlagOperation) (flags : List String) (entries : List Numbered)
    (outcome : Outcome) : Prop :=
  ∀ entry ∈ entries, ∃ before after,
    database.getMessage entry.1.id account.mailbox.id = some before ∧
      outcome.database.getMessage entry.1.id account.mailbox.id = some after ∧
        StoresNamedFlags currentFolder operation flags before after
          (reportOf outcome.responses entry.2)

/-- Each of the messages is still in the mailbox, and a change of its row is safe. -/
def AllSafe (account : Account) (database : Database) (currentFolder : String)
    (operation : FlagOperation) (silent : Bool) (flags : List String)
    (entries : List Numbered) : Prop :=
  ∀ entry ∈ entries, ∃ row,
    database.getMessage entry.1.id account.mailbox.id = some row ∧
      StoreSafe currentFolder operation silent flags entry.1 row

section
variable {account : Account} {database : Database} {currentFolder operation : String}
  {flags : List String} {messages : List Listed} {entries : List Numbered}

theorem foldl_storeMessage (account : Account) (database : Database)
    (currentFolder operation : String) (flags : List String)
    (entries : List Numbered) :
    entries.foldl (storeMessage account currentFolder operation flags) database =
      updateEach account.mailbox.id (storedUpdates currentFolder operation flags)
        database entries := rfl

theorem reportOf_storeLines (uid : Listed → Option Nat) (rest : List Response)
    (silent_rest : ∀ number, reportOf rest number = none)
    (known : ∀ entry ∈ entries, entry ∈ numbered messages) {entry : Numbered}
    (member : entry ∈ entries) :
    reportOf (entries.filterMap (storeLine currentFolder operation flags uid) ++ rest)
        entry.2 =
      if isSilentStoreOperation operation then none
      else some (newFlags currentFolder operation flags entry.1) := by
  cases silent : isSilentStoreOperation operation with
  | true =>
      have empty :
          entries.filterMap (storeLine currentFolder operation flags uid) = [] := by
        apply List.filterMap_eq_nil_iff.mpr
        intro other _
        rw [storeLine, silent]
        rfl
      rw [empty, List.nil_append, silent_rest]
      rfl
  | false =>
      induction entries with
      | nil => cases member
      | cons head entries ih =>
          have line : storeLine currentFolder operation flags uid head =
              some (.fetched head.2 (uid head.1)
                (some (newFlags currentFolder operation flags head.1))) := by
            rw [storeLine, silent]
            rfl
          rw [List.filterMap_cons_some line, List.cons_append, reportOf,
            List.findSome?_cons]
          by_cases same : head.2 = entry.2
          · have headAt := (mem_numbered.mp (known head List.mem_cons_self)).2
            have entryAt := (mem_numbered.mp (known entry member)).2
            rw [same] at headAt
            have equal : head.1 = entry.1 := Option.some.inj (headAt.symm.trans entryAt)
            simp [Response.flagsOf, same, equal]
          · have later : entry ∈ entries := by
              rcases List.mem_cons.mp member with rfl | later
              · exact absurd rfl same
              · exact later
            have result := ih (fun other otherMember =>
              known other (List.mem_cons_of_mem _ otherMember)) later
            rw [reportOf] at result
            simpa [Response.flagsOf, same] using result

theorem storesAsAsked_iff (known : flagOperation operation ≠ .unknown)
    (addressed : Addressed messages entries) {outcome : Outcome}
    (stored : outcome.database =
      entries.foldl (storeMessage account currentFolder operation flags) database)
    (uid : Listed → Option Nat) {rest : List Response}
    (responses : outcome.responses =
      entries.filterMap (storeLine currentFolder operation flags uid) ++ rest)
    (silent_rest : ∀ number, reportOf rest number = none) :
    StoresAsAsked account database currentFolder (flagOperation operation) flags entries
        outcome ↔
      AllSafe account database currentFolder (flagOperation operation)
        (isSilentStoreOperation operation) flags entries := by
  have changed : ∀ entry ∈ entries,
      outcome.database.getMessage entry.1.id account.mailbox.id =
        (database.getMessage entry.1.id account.mailbox.id).map
          (Message.storeUpdates (storedUpdates currentFolder operation flags entry.1)) := by
    intro entry member
    rw [stored, foldl_storeMessage]
    exact getMessage_updateEach addressed member
  have reported : ∀ entry ∈ entries, reportOf outcome.responses entry.2 =
      if isSilentStoreOperation operation then none
      else some (newFlags currentFolder operation flags entry.1) := by
    intro entry member
    rw [responses]
    exact reportOf_storeLines uid rest silent_rest addressed.numbered member
  apply forall₂_congr
  intro entry member
  rw [changed entry member, reported entry member]
  constructor
  · intro stores
    obtain ⟨before, after, found, kept, stores⟩ := stores
    rw [found, Option.map_some, Option.some.injEq] at kept
    rw [← kept] at stores
    exact ⟨before, found, (storesNamedFlags_iff known _).mp stores⟩
  · intro safe
    obtain ⟨row, found, safe⟩ := safe
    refine ⟨row, _, found, ?_, (storesNamedFlags_iff known _).mpr safe⟩
    rw [found, Option.map_some]

end

/-- `STORE` and `UID STORE` do what they ask for exactly where it is safe. -/
theorem store_commands_iff (account : Account) (database : Database)
    (selected : Selected) (args : Option String) (set operation : String)
    (flags : List String) (parsed : parseStoreArgs args = some (set, operation, flags))
    (known : flagOperation operation ≠ .unknown) :
    (StoresAsAsked account database selected.folder (flagOperation operation) flags
        (getMessagesBySequence selected.messages set)
        (handleStore account args database selected) ↔
      AllSafe account database selected.folder (flagOperation operation)
        (isSilentStoreOperation operation) flags
        (getMessagesBySequence selected.messages set)) ∧
    (StoresAsAsked account database selected.folder (flagOperation operation) flags
        (getMessagesByUid selected.messages set)
        (handleUidStore account args database selected) ↔
      AllSafe account database selected.folder (flagOperation operation)
        (isSilentStoreOperation operation) flags
        (getMessagesByUid selected.messages set)) := by
  have silent_expunges : ∀ (entries : List Numbered) (text : String) (number : Nat),
      reportOf (expungeLines entries ++ [.completed .ok [] text]) number = none := by
    intro entries text number
    apply List.findSome?_eq_none_iff.mpr
    intro response member
    rcases List.mem_append.mp member with line | last
    · obtain ⟨entry, -, rfl⟩ := List.mem_map.mp line
      rfl
    · rw [List.mem_singleton.mp last]
      rfl
  constructor
  · have stored : (handleStore account args database selected).database =
        (getMessagesBySequence selected.messages set).foldl
          (storeMessage account selected.folder operation flags) database := by
      unfold handleStore
      rw [parsed]
    have responses : (handleStore account args database selected).responses =
        (getMessagesBySequence selected.messages set).filterMap
            (storeLine selected.folder operation flags fun _ => none) ++
          [.completed .ok [] "STORE completed"] := by
      unfold handleStore
      rw [parsed]
    exact storesAsAsked_iff known (addressed_bySequence selected.ascending set) stored _
      responses fun _ => rfl
  · have addressed := addressed_byUid selected.messages set
    have stored : (handleUidStore account args database selected).database =
        (getMessagesByUid selected.messages set).foldl
          (storeMessage account selected.folder operation flags) database := by
      unfold handleUidStore
      rw [parsed]
      dsimp only
      split
      · rfl
      · rfl
    by_cases spam : spamChanged flags = true
    · have responses : (handleUidStore account args database selected).responses =
          (getMessagesByUid selected.messages set).filterMap
              (storeLine selected.folder operation flags fun message =>
                some message.id) ++
            (expungeLines (getMessagesByUid selected.messages set) ++
              [.completed .ok [] "UID STORE completed"]) := by
        unfold handleUidStore
        rw [parsed, ← List.append_assoc]
        simp only [spam, ↓reduceIte]
      exact storesAsAsked_iff known addressed stored _ responses
        (silent_expunges _ _)
    · have responses : (handleUidStore account args database selected).responses =
          (getMessagesByUid selected.messages set).filterMap
              (storeLine selected.folder operation flags fun message =>
                some message.id) ++
            [.completed .ok [] "UID STORE completed"] := by
        unfold handleUidStore
        rw [parsed]
        simp only [spam, Bool.false_eq_true, ↓reduceIte]
      exact storesAsAsked_iff known addressed stored _ responses fun _ => rfl

def binnedMessage : Message where
  id := 1
  mailboxId := 1
  messageId := "binned@z.example"
  fromAddress := "me@z.example"
  toAddress := some "you@z.example"
  content := ⟨none, none, some "binned", none, none, .obj [], .obj [], false⟩
  status := "received"
  read := true
  flagged := false
  answered := false
  deleted := true
  spam := false
  archived := false
  replyLaterAt := none
  folderId := none
  payloadValid := true

def binnedDatabase : Database where
  messages :=
    (Library.SerialRows.empty Message Message.id).append binnedMessage.withId
      binnedMessage.withId_id
  folders := []

def binnedAccount : Account := ⟨⟨1, some 1⟩, 1⟩

def trashSelected : Selected where
  folder := "Trash"
  messages := [binnedMessage.listed]
  ascending := List.pairwise_singleton _ _

def flagCommand : Option String := some "1 +FLAGS (\\Flagged)"

theorem flagCommand_parsed :
    parseStoreArgs flagCommand = some ("1", "+FLAGS", ["\\Flagged"]) := by
  decide

theorem store_commands_binned :
    (StoresAsAsked binnedAccount binnedDatabase "Trash" (flagOperation "+FLAGS")
        ["\\Flagged"] (getMessagesBySequence [binnedMessage.listed] "1")
        (handleStore binnedAccount flagCommand binnedDatabase trashSelected) ↔
      AllSafe binnedAccount binnedDatabase "Trash" (flagOperation "+FLAGS")
        (isSilentStoreOperation "+FLAGS") ["\\Flagged"]
        (getMessagesBySequence [binnedMessage.listed] "1")) ∧
    (StoresAsAsked binnedAccount binnedDatabase "Trash" (flagOperation "+FLAGS")
        ["\\Flagged"] (getMessagesByUid [binnedMessage.listed] "1")
        (handleUidStore binnedAccount flagCommand binnedDatabase trashSelected) ↔
      AllSafe binnedAccount binnedDatabase "Trash" (flagOperation "+FLAGS")
        (isSilentStoreOperation "+FLAGS") ["\\Flagged"]
        (getMessagesByUid [binnedMessage.listed] "1")) :=
  store_commands_iff binnedAccount binnedDatabase trashSelected flagCommand "1" "+FLAGS"
    ["\\Flagged"] flagCommand_parsed (by decide +kernel)

/-- To flag a message in Trash takes it out of Trash. -/
theorem not_storesAsAsked_binned :
    ¬StoresAsAsked binnedAccount binnedDatabase "Trash" (flagOperation "+FLAGS")
      ["\\Flagged"] (getMessagesBySequence [binnedMessage.listed] "1")
      (handleStore binnedAccount flagCommand binnedDatabase trashSelected) := by
  intro asked
  obtain ⟨before, after, found, kept, stores⟩ :=
    asked (binnedMessage.listed, 1) (by decide)
  have was : (binnedDatabase.getMessage 1 1).map Message.deleted = some true := by
    decide
  have is : ((handleStore binnedAccount flagCommand binnedDatabase
      trashSelected).database.getMessage 1 1).map Message.deleted = some false := by
    decide +kernel
  have shown : getMessageFlags before.listed "Trash" = ["NonJunk", "\\Seen"] := by
    have flags : (binnedDatabase.getMessage 1 1).map (fun message =>
        getMessageFlags message.listed "Trash") = some ["NonJunk", "\\Seen"] := by
      decide +kernel
    rw [show binnedDatabase.getMessage 1 1 = some before from found] at flags
    exact Option.some.inj flags
  rw [show binnedDatabase.getMessage 1 1 = some before from found] at was
  rw [show (handleStore binnedAccount flagCommand binnedDatabase
    trashSelected).database.getMessage 1 1 = some after from kept] at is
  have unplaced : ¬(flagOperation "+FLAGS").NamesPlace ["\\Flagged"]
      (getMessageFlags before.listed "Trash") := by
    rw [shown, show flagOperation "+FLAGS" = .add by decide +kernel]
    intro names
    obtain ⟨flag, place, named | dropped⟩ := names
    · rw [List.mem_singleton.mp named] at place
      exact absurd place (by decide)
    · cases dropped.1
  have same : after.deleted = before.deleted :=
    stores.placed unplaced (.system .trash)
  rw [Option.some.inj was, Option.some.inj is] at same
  cases same

end Elektrine.IMAP
