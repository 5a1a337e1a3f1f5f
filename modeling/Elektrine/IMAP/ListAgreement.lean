import Elektrine.IMAP.SelectedState
import Elektrine.IMAP.StoreCommands
import Elektrine.Library.Runs

/-!
# Client and server keep the same message list

The list that the client derives is the one of the session as long as a refresh only
finds new messages behind the known ones, and a command that announces removals and then
refreshes finds just these messages gone.
-/

namespace Elektrine.IMAP

open Elektrine.Email Elektrine.Library

def shownIds (account : Account) (database : Database) (selected : Selected) :
    List Nat :=
  (folderMessages database account.mailbox selected.folder).map Message.id

/-- No message of the session has left the folder, and what has come in stands behind
the messages of the session. -/
structure Extended (account : Account) (database : Database) (selected : Selected) :
    Prop where
  kept : ∀ id ∈ selected.ids, id ∈ shownIds account database selected
  behind : ∀ id ∈ shownIds account database selected, id ∉ selected.ids →
    ∀ other ∈ selected.ids, other < id

/-- The addressed messages stand in the order of their numbers, the others are those of
the folder, and an addressed row is not in the folder with the updates it accepts. -/
structure Departing (account : Account) (database : Database) (selected : Selected)
    (entries : List Numbered) (updates : Listed → FlagUpdates) : Prop where
  ascending : entries.Pairwise fun first second => first.2 < second.2
  others : ∀ id, (∀ entry ∈ entries, entry.1.id ≠ id) →
    (id ∈ selected.ids ↔ id ∈ shownIds account database selected)
  gone : ∀ entry ∈ entries, ∀ row,
    database.getMessage entry.1.id account.mailbox.id = some row →
      listedIn database account.mailbox selected.folder
        (row.storeUpdates (updates entry.1)) = false

/-- The messages that `UID MOVE` addresses depart, and none of their copies is for the
folder they are in. -/
structure MovingOut (account : Account) (copying : Copying) (database : Database)
    (selected : Selected) (destFolder : String) (entries : List Numbered) : Prop where
  departing : Departing account database selected entries (moveUpdates selected.folder)
  copies : ∀ entry ∈ entries, ∀ copy,
    moveCopy account copying destFolder database entry.1.id = some copy →
      listedIn database account.mailbox selected.folder copy = false

def MessageCommand.Settled (account : Account) (database : Database)
    (selected : Selected) : MessageCommand → Prop
  | .check => Extended account database selected
  | .noop => Extended account database selected
  | .uidStore args =>
      ∀ uidSet operation flags, parseStoreArgs args = some (uidSet, operation, flags) →
        spamChanged flags = true →
          Departing account database selected
            (getMessagesByUid selected.messages uidSet)
            (storedUpdates selected.folder operation flags)
  | .uidMove copying args =>
      ∀ uidSet destFolder, parseCopyArgs args = some (uidSet, destFolder) →
        destinationFolderExists database destFolder account.userId = true →
          MovingOut account copying database selected destFolder
            (getMessagesByUid selected.messages uidSet)
  | _ => True

/-- What an event relies on: a session that idles takes no commands, and no other one
hears notifications. -/
def Watched.Settled (account : Account) (watched : Watched) : SelectedEvent → Prop
  | .command command =>
      watched.state.idling = false →
        command.Settled account watched.state.database watched.state.selected
  | .newEmail message =>
      watched.state.idling = true →
        shouldNotifyIdleFolderUpdate message watched.state.selected.folder = true →
          Extended account watched.state.database watched.state.selected
  | _ => True

section
variable {account : Account} {database : Database} {selected : Selected}

theorem listedIn_iff {folder : String} {row : Message} :
    listedIn database account.mailbox folder row = true ↔
      ∃ key, folderOf database account.mailbox folder = some key ∧ key.shows row := by
  unfold listedIn
  cases folderOf database account.mailbox folder with
  | none => simp
  | some key => simp

theorem mem_shownIds {id : Nat} :
    id ∈ shownIds account database selected ↔
      ∃ row, database.getMessage id account.mailbox.id = some row ∧
        listedIn database account.mailbox selected.folder row = true := by
  rw [shownIds, List.mem_map]
  constructor
  · intro shown
    obtain ⟨row, member, rfl⟩ := shown
    obtain ⟨stored, owned, key, named, shows⟩ := mem_folderMessages.mp member
    exact ⟨row, Database.getMessage_eq_some_iff.mpr ⟨stored, rfl, owned⟩,
      listedIn_iff.mpr ⟨key, named, shows⟩⟩
  · intro shown
    obtain ⟨row, found, listed⟩ := shown
    obtain ⟨stored, keyed, owned⟩ := Database.getMessage_eq_some_iff.mp found
    obtain ⟨key, named, shows⟩ := listedIn_iff.mp listed
    exact ⟨row, mem_folderMessages.mpr ⟨stored, owned, key, named, shows⟩, keyed⟩

theorem ids_ascend (selected : Selected) : selected.ids.Pairwise (· < ·) :=
  List.pairwise_map.mpr selected.ascending

theorem ids_reload :
    (selected.reload account database).ids = shownIds account database selected := by
  have messages : (selected.reload account database).messages =
      (folderMessages database account.mailbox selected.folder).map Message.listed :=
    loadFolderMessages_eq _ _ _
  rw [Selected.ids, messages, List.map_map]
  rfl

theorem shownIds_ascend : (shownIds account database selected).Pairwise (· < ·) := by
  rw [← ids_reload]
  exact ids_ascend _

theorem ids_openFolder (folder : String) :
    (openFolder account database folder).ids =
      (folderMessages database account.mailbox folder).map Message.id := by
  have messages : (openFolder account database folder).messages =
      (folderMessages database account.mailbox folder).map Message.listed :=
    loadFolderMessages_eq _ _ _
  rw [Selected.ids, messages, List.map_map]
  rfl

theorem followEach_refresh (extended : Extended account database selected) :
    followEach (refresh account database selected).1.ids
        (refresh account database selected).2 selected.ids =
      some (refresh account database selected).1.ids := by
  have fresh : (refresh account database selected).1.ids =
      shownIds account database selected := ids_reload
  have longer : (refresh account database selected).1.messages.length =
      (shownIds account database selected).length := by
    rw [← fresh]
    exact (List.length_map _).symm
  obtain ⟨new, appended⟩ := prefix_of_ascending (ids_ascend selected) shownIds_ascend
    extended.kept extended.behind
  have count : (shownIds account database selected).length =
      selected.ids.length + new.length := by
    rw [← appended, List.length_append]
  have known : selected.messages.length = selected.ids.length :=
    (List.length_map _).symm
  rw [fresh]
  unfold refresh at longer ⊢
  dsimp only at longer ⊢
  rw [longer, known]
  split
  · rw [followEach, Response.follow, if_pos (by omega), List.take_length, ← appended,
      List.drop_left]
    rfl
  · have nothing : new = [] := List.eq_nil_of_length_eq_zero (by omega)
    rw [nothing, List.append_nil] at appended
    rw [appended]
    rfl

theorem listedIn_congr {first second : Database} (same : first.folders = second.folders)
    (mailbox : Mailbox) (folder : String) (message : Message) :
    listedIn first mailbox folder message = listedIn second mailbox folder message := by
  unfold listedIn
  rw [folderOf_congr same]

theorem shownIds_departed {entries : List Numbered} {updates : Listed → FlagUpdates}
    (departing : Departing account database selected entries updates)
    {after : Database} (folders : after.folders = database.folders)
    (changed : ∀ entry ∈ entries,
      after.getMessage entry.1.id account.mailbox.id =
        (database.getMessage entry.1.id account.mailbox.id).map
          (Message.storeUpdates (updates entry.1)))
    (rest : ∀ id, (∀ entry ∈ entries, entry.1.id ≠ id) →
      (id ∈ shownIds account after selected ↔ id ∈ shownIds account database selected)) :
    shownIds account after selected =
      (selected.messages.filter fun message => !(entries.map fun entry =>
        entry.1.id).contains message.id).map Listed.id := by
  apply eq_of_pairwise (fun (first second : Nat) (below : first < second) =>
    lt_asymm below) shownIds_ascend
    (List.pairwise_map.mpr (selected.ascending.filter _))
  intro id
  have left : id ∈ (selected.messages.filter fun message => !(entries.map fun entry =>
      entry.1.id).contains message.id).map Listed.id ↔
        id ∈ selected.ids ∧ ∀ entry ∈ entries, entry.1.id ≠ id := by
    simp only [Selected.ids, List.mem_map, List.mem_filter, Bool.not_eq_true',
      List.contains_eq_mem, decide_eq_false_iff_not, not_exists, not_and]
    constructor
    · intro found
      obtain ⟨message, ⟨member, apart⟩, rfl⟩ := found
      exact ⟨⟨message, member, rfl⟩, apart⟩
    · intro found
      obtain ⟨⟨message, member, rfl⟩, apart⟩ := found
      exact ⟨message, ⟨member, apart⟩, rfl⟩
  rw [left]
  by_cases addressed : ∃ entry ∈ entries, entry.1.id = id
  · obtain ⟨entry, member, rfl⟩ := addressed
    apply iff_of_false
    · intro shown
      obtain ⟨row, found, listed⟩ := mem_shownIds.mp shown
      rw [changed entry member] at found
      obtain ⟨old, oldFound, rfl⟩ := Option.map_eq_some_iff.mp found
      rw [listedIn_congr folders, departing.gone entry member old oldFound] at listed
      cases listed
    · intro remaining
      exact remaining.2 entry member rfl
  · have apart : ∀ entry ∈ entries, entry.1.id ≠ id := fun entry member same =>
      addressed ⟨entry, member, same⟩
    rw [rest id apart, ← departing.others id apart]
    exact ⟨fun member => ⟨member, apart⟩, And.left⟩

theorem followEach_departed {entries : List Numbered} {updates : Listed → FlagUpdates}
    (departing : Departing account database selected entries updates)
    (known : ∀ entry ∈ entries, entry ∈ numbered selected.messages)
    {after : Database} (folders : after.folders = database.folders)
    (changed : ∀ entry ∈ entries,
      after.getMessage entry.1.id account.mailbox.id =
        (database.getMessage entry.1.id account.mailbox.id).map
          (Message.storeUpdates (updates entry.1)))
    (rest : ∀ id, (∀ entry ∈ entries, entry.1.id ≠ id) →
      (id ∈ shownIds account after selected ↔ id ∈ shownIds account database selected)) :
    followEach (selected.reload account after).ids (expungeLines entries) selected.ids =
      some (selected.reload account after).ids := by
  rw [ids_reload, shownIds_departed departing folders changed rest]
  exact followEach_expungeLines selected.ascending known departing.ascending

end

section
variable {account : Account} {copying : Copying} {database : Database}
  {destFolder : String} {entries : List Numbered}

theorem copy_of_find_copyUidPairs {mailbox : Mailbox}
    (issued : ∀ entry ∈ entries, entry.1.id < database.messages.next) {id : Nat}
    (above : database.messages.next ≤ id) {row : Message}
    (found : (copyUidPairs copying mailbox destFolder database entries).2.messages.find
      id = some row) :
    ∃ entry ∈ entries, ∃ copy,
      copyFor copying mailbox destFolder database entry.1.id = some copy ∧
        row = copy.withId id := by
  induction entries generalizing database with
  | nil =>
      have below : id < database.messages.next := SerialRows.find_lt found
      omega
  | cons head entries ih =>
      have issued_rest : ∀ entry ∈ entries, entry.1.id < database.messages.next :=
        fun entry member => issued entry (List.mem_cons_of_mem _ member)
      cases made : copyFor copying mailbox destFolder database head.1.id with
      | none =>
          rw [copyUidPairs_cons_none made] at found
          obtain ⟨entry, member, copied⟩ := ih issued_rest above found
          exact ⟨entry, List.mem_cons_of_mem _ member, copied⟩
      | some copy =>
          rw [copyUidPairs_cons_some made] at found
          have grown := grows_appendMessage database copy
          have next : (appendMessage database copy).messages.next =
              database.messages.next + 1 := rfl
          by_cases first : id = database.messages.next
          · rw [first, (grows_copyUidPairs entries _).older _ (Nat.lt_succ_self _),
              find_appendMessage] at found
            cases found
            exact ⟨head, List.mem_cons_self, copy, made, by rw [first]⟩
          · have issued_later : ∀ entry ∈ entries,
                entry.1.id < (appendMessage database copy).messages.next :=
              fun entry member =>
                Nat.lt_of_lt_of_le (issued_rest entry member) grown.next
            obtain ⟨entry, member, other, otherMade, rfl⟩ :=
              ih issued_later (by omega) found
            rw [grown.copyFor copying mailbox destFolder (issued_rest entry member)]
              at otherMade
            exact ⟨entry, List.mem_cons_of_mem _ member, other, otherMade, rfl⟩

theorem copy_of_find_moveCopies
    (issued : ∀ entry ∈ entries, entry.1.id < database.messages.next) {id : Nat}
    (above : database.messages.next ≤ id) {row : Message}
    (found : (moveCopies account copying destFolder database entries).2.messages.find
      id = some row) :
    ∃ entry ∈ entries, ∃ copy,
      moveCopy account copying destFolder database entry.1.id = some copy ∧
        row = copy.withId id := by
  unfold moveCopies at found
  unfold moveCopy
  split at found
  · have below : id < database.messages.next := SerialRows.find_lt found
    omega
  · rename_i other
    simp only [if_neg other]
    exact copy_of_find_copyUidPairs issued above found

end

structure InStep (database : Database) (selected : Selected) (outcome : Outcome) :
    Prop where
  next : database.messages.next ≤ outcome.database.messages.next
  issued : Issued outcome.selected outcome.database
  followed : followEach outcome.selected.ids outcome.responses selected.ids =
    some outcome.selected.ids

section
variable {account : Account} {database : Database} {selected : Selected}

theorem issued_iff :
    Issued selected database ↔ ∀ id ∈ selected.ids, id < database.messages.next := by
  simp [Issued, Selected.ids]

theorem Issued.later (issued : Issued selected database) {after : Database}
    (next : database.messages.next ≤ after.messages.next) {other : Selected}
    (ids : ∀ id ∈ other.ids, id ∈ selected.ids) : Issued other after := by
  rw [issued_iff] at issued ⊢
  intro id member
  exact Nat.lt_of_lt_of_le (issued id (ids id member)) next

theorem inStep_of_quiet (issued : Issued selected database) {outcome : Outcome}
    (next : database.messages.next ≤ outcome.database.messages.next)
    (ids : outcome.selected.ids = selected.ids)
    (quiet : ∀ response ∈ outcome.responses, response.changesList = false) :
    InStep database selected outcome where
  next := next
  issued := issued.later next fun id member => ids ▸ member
  followed := by
    rw [followEach_of_quiet quiet, ids]

theorem inStep_refused (issued : Issued selected database) (status : Status)
    (text : String) :
    InStep database selected ⟨database, selected, [.completed status [] text]⟩ :=
  inStep_of_quiet issued (Nat.le_refl _) rfl (quiet_completed _ _ _)

theorem next_fetchAll (items : List String) (text : String) (entries : List Numbered) :
    (fetchAll account items text database selected entries).database.messages.next =
      database.messages.next := by
  unfold fetchAll
  dsimp only
  induction entries generalizing database with
  | nil => rfl
  | cons entry entries ih =>
      rw [List.foldl_cons]
      apply ih.trans
      unfold fetchMessage
      split
      · exact Database.next_markAsRead _ _ _
      · rfl

theorem inStep_fetchAll (issued : Issued selected database) (items : List String)
    (text : String) (entries : List Numbered) :
    InStep database selected
      (fetchAll account items text database selected entries) := by
  apply inStep_of_quiet issued
  · exact Nat.le_of_eq (next_fetchAll _ _ _).symm
  · rfl
  · intro response member
    rcases List.mem_append.mp member with line | completed
    · obtain ⟨entry, -, rfl⟩ := List.mem_map.mp line
      rfl
    · exact quiet_completed _ _ _ response completed

theorem ids_applyUpdates (updatesById : List (Nat × FlagUpdates)) :
    (selected.applyUpdates updatesById).ids = selected.ids := by
  unfold Selected.ids Selected.applyUpdates
  rw [List.map_map]
  apply List.map_congr_left
  intro message _
  exact updateFrom_id _ _

theorem quiet_storeLines (currentFolder operation : String) (flags : List String)
    (uid : Listed → Option Nat) (entries : List Numbered) :
    ∀ response ∈ entries.filterMap (storeLine currentFolder operation flags uid),
      response.changesList = false := by
  intro response member
  obtain ⟨entry, -, line⟩ := List.mem_filterMap.mp member
  unfold storeLine at line
  split at line
  · cases line
  · cases line
    rfl

theorem inStep_stored (issued : Issued selected database) (currentFolder : String)
    (operation text : String) (flags : List String) (uid : Listed → Option Nat)
    (entries : List Numbered) (updatesById : List (Nat × FlagUpdates)) :
    InStep database selected
      ⟨entries.foldl (storeMessage account currentFolder operation flags) database,
        selected.applyUpdates updatesById,
        entries.filterMap (storeLine currentFolder operation flags uid) ++
          [.completed .ok [] text]⟩ := by
  apply inStep_of_quiet issued
  · rw [foldl_storeMessage]
    exact Nat.le_of_eq (next_updateEach _ _ _ _).symm
  · exact ids_applyUpdates updatesById
  · intro response member
    rcases List.mem_append.mp member with line | completed
    · exact quiet_storeLines _ _ _ _ _ response line
    · exact quiet_completed _ _ _ response completed

theorem inStep_copyAll (issued : Issued selected database) (copying : Copying)
    (name : String) (addressed : List Listed → String → List Numbered)
    (args : Option String) :
    InStep database selected
      (copyAll account copying name addressed args database selected) := by
  unfold copyAll
  split
  · exact inStep_refused issued _ _
  · split
    · apply inStep_of_quiet issued
      · exact (grows_copyUidPairs _ _).next
      · rfl
      · exact quiet_completed _ _ _
    · exact inStep_refused issued _ _

theorem next_moveAll (copying : Copying) (destFolder : String)
    (entries : List Numbered) :
    database.messages.next ≤
      (moveAll account copying destFolder database selected entries).2.messages.next := by
  rw [moveAll_eq, next_updateEach]
  exact grows_moveCopies.next

theorem inStep_handleMove (issued : Issued selected database) (copying : Copying)
    (args : Option String) :
    InStep database selected (handleMove account copying args database selected) := by
  unfold handleMove
  split
  · exact inStep_refused issued _ _
  · split
    · apply inStep_of_quiet issued
      · exact next_moveAll copying _ _
      · rfl
      · exact quiet_completed _ _ _
    · exact inStep_refused issued _ _

theorem next_deleteEntries (entries : List Numbered) :
    (entries.foldl (deleteEntry account) database).messages.next =
      database.messages.next := by
  induction entries generalizing database with
  | nil => rfl
  | cons entry entries ih =>
      exact ih.trans (Database.next_deleteMessage _ _ _)

theorem inStep_handleExpunge (issued : Issued selected database) :
    InStep database selected (handleExpunge account database selected) where
  next := Nat.le_of_eq (next_deleteEntries _).symm
  issued := by
    apply issued.later (Nat.le_of_eq (next_deleteEntries _).symm)
    intro id member
    exact (List.filter_sublist.map _).subset member
  followed := by
    have lines : followEach (handleExpunge account database selected).selected.ids
        (handleExpunge account database selected).responses selected.ids =
      followEach (handleExpunge account database selected).selected.ids
        ((expungeSequenceNumbers (deletedEntries selected.messages)).map
          Response.expunged) selected.ids := by
      have between := @followEach_between
        (handleExpunge account database selected).selected.ids selected.ids
        ((expungeSequenceNumbers (deletedEntries selected.messages)).map
          Response.expunged) []
        [.completed .ok [] "EXPUNGE completed"] (by simp) (quiet_completed _ _ _)
      exact between
    rw [lines]
    exact followEach_expungeSequenceNumbers

theorem inStep_handleUidExpunge (issued : Issued selected database)
    (args : Option String) :
    InStep database selected (handleUidExpunge account args database selected) where
  next := Nat.le_of_eq (next_deleteEntries _).symm
  issued := by
    apply issued.later (Nat.le_of_eq (next_deleteEntries _).symm)
    intro id member
    exact (List.filter_sublist.map _).subset member
  followed := by
    unfold handleUidExpunge
    dsimp only
    rw [← List.nil_append (expungeLines _),
      followEach_between (by simp) (quiet_completed _ _ _)]
    apply followEach_expungeLines selected.ascending
    · intro entry member
      exact List.mem_of_mem_filter member
    · exact (numbers_ascend _).filter _

theorem inStep_handleUidStore (issued : Issued selected database) (args : Option String)
    (settled : (MessageCommand.uidStore args).Settled account database selected) :
    InStep database selected (handleUidStore account args database selected) := by
  unfold handleUidStore
  cases parsed : parseStoreArgs args with
  | none => exact inStep_refused issued _ _
  | some values =>
      obtain ⟨uidSet, operation, flags⟩ := values
      dsimp only
      have addressed := addressed_byUid selected.messages uidSet
      split
      · rename_i spam
        have departing := settled uidSet operation flags parsed spam
        rw [foldl_storeMessage]
        refine ⟨Nat.le_of_eq (next_updateEach _ _ _ _).symm, issued_reload _ _ _, ?_⟩
        rw [followEach_between (quiet_storeLines _ _ _ _ _) (quiet_completed _ _ _)]
        apply followEach_departed departing addressed.numbered
        · exact folders_updateEach _ _ _ _
        · intro entry member
          exact getMessage_updateEach addressed member
        · intro id apart
          rw [mem_shownIds, mem_shownIds, getMessage_updateEach_other apart]
          simp only [listedIn_congr (folders_updateEach _ _ _ _)]
      · exact inStep_stored issued _ _ _ _ _ _ _

theorem inStep_handleUidMove (issued : Issued selected database) (copying : Copying)
    (args : Option String)
    (settled : (MessageCommand.uidMove copying args).Settled account database selected) :
    InStep database selected (handleUidMove account copying args database selected) := by
  unfold handleUidMove
  cases parsed : parseCopyArgs args with
  | none => exact inStep_refused issued _ _
  | some values =>
      obtain ⟨uidSet, destFolder⟩ := values
      dsimp only
      split
      · rename_i known
        have moving := settled uidSet destFolder parsed known
        have addressed := addressed_byUid selected.messages uidSet
        have given : ∀ entry ∈ getMessagesByUid selected.messages uidSet,
            entry.1.id < database.messages.next := fun entry member =>
          issued entry.1 (mem_of_mem_numbered (addressed.numbered entry member))
        have grown : Grows database (moveCopies account copying destFolder database
            (getMessagesByUid selected.messages uidSet)).2 := grows_moveCopies
        have folders : (moveAll account copying destFolder database selected
            (getMessagesByUid selected.messages uidSet)).2.folders =
              database.folders := by
          rw [moveAll_eq]
          exact (folders_updateEach _ _ _ _).trans grown.folders
        refine ⟨next_moveAll copying _ _, issued_reload _ _ _, ?_⟩
        dsimp only
        rw [← List.nil_append (expungeLines _),
          followEach_between (by simp) (quiet_completed _ _ _)]
        apply followEach_departed moving.departing addressed.numbered folders
        · intro entry member
          rw [moveAll_eq]
          apply (getMessage_updateEach addressed member).trans
          rw [grown.getMessage (given entry member)]
        · intro id apart
          have found : (moveAll account copying destFolder database selected
              (getMessagesByUid selected.messages uidSet)).2.getMessage id
                account.mailbox.id =
              (moveCopies account copying destFolder database
                (getMessagesByUid selected.messages uidSet)).2.getMessage id
                  account.mailbox.id := by
            rw [moveAll_eq]
            exact getMessage_updateEach_other apart
          rw [mem_shownIds, mem_shownIds, found]
          simp only [listedIn_congr folders]
          by_cases older : id < database.messages.next
          · rw [grown.getMessage older]
          · apply iff_of_false
            · intro shown
              obtain ⟨row, made, listed⟩ := shown
              obtain ⟨stored, -⟩ := Option.filter_eq_some_iff.mp made
              obtain ⟨entry, member, copy, copied, rfl⟩ :=
                copy_of_find_moveCopies given (Nat.le_of_not_lt older) stored
              rw [listedIn_withId, moving.copies entry member copy copied] at listed
              cases listed
            · intro shown
              obtain ⟨row, made, -⟩ := shown
              obtain ⟨stored, -⟩ := Option.filter_eq_some_iff.mp made
              exact older (SerialRows.find_lt stored)
      · exact inStep_refused issued _ _

theorem inStep_refresh (extended : Extended account database selected)
    (rest : List Response)
    (quiet : ∀ response ∈ rest, response.changesList = false) :
    InStep database selected
      ⟨database, (refresh account database selected).1,
        (refresh account database selected).2 ++ rest⟩ where
  next := Nat.le_refl _
  issued := issued_reload _ _ _
  followed := by
    have followed := followEach_refresh extended
    dsimp only
    rw [← List.nil_append (refresh account database selected).2,
      followEach_between (by simp) quiet]
    exact followed

theorem inStep_handleNewEmail (issued : Issued selected database) (message : Message)
    (settled : shouldNotifyIdleFolderUpdate message selected.folder = true →
      Extended account database selected) :
    InStep database selected (handleNewEmail account message database selected) := by
  unfold handleNewEmail
  split
  · rename_i heard
    have inStep := inStep_refresh (settled heard) [] (List.forall_mem_nil _)
    rw [List.append_nil] at inStep
    exact inStep
  · exact inStep_of_quiet issued (Nat.le_refl _) rfl (List.forall_mem_nil _)

theorem next_stored (currentFolder operation : String) (flags : List String)
    (entries : List Numbered) :
    (entries.foldl (storeMessage account currentFolder operation flags)
      database).messages.next = database.messages.next := by
  rw [foldl_storeMessage]
  exact next_updateEach _ _ _ _

theorem next_copyAll (copying : Copying) (name : String)
    (addressed : List Listed → String → List Numbered) (args : Option String) :
    database.messages.next ≤
      (copyAll account copying name addressed args database
        selected).database.messages.next := by
  unfold copyAll
  split
  · exact Nat.le_refl _
  · split
    · exact (grows_copyUidPairs _ _).next
    · exact Nat.le_refl _

theorem next_perform (command : MessageCommand) :
    database.messages.next ≤
      (command.perform account database selected).database.messages.next := by
  cases command with
  | fetch args =>
      cases args with
      | none => exact Nat.le_refl _
      | some values => exact Nat.le_of_eq (next_fetchAll _ _ _).symm
  | uidFetch args =>
      cases args with
      | none => exact Nat.le_refl _
      | some values => exact Nat.le_of_eq (next_fetchAll _ _ _).symm
  | store args =>
      unfold MessageCommand.perform
      dsimp only
      unfold handleStore
      split
      · exact Nat.le_refl _
      · exact Nat.le_of_eq (next_stored _ _ _ _).symm
  | uidStore args =>
      unfold MessageCommand.perform
      dsimp only
      unfold handleUidStore
      split
      · exact Nat.le_refl _
      · dsimp only
        split
        · exact Nat.le_of_eq (next_stored _ _ _ _).symm
        · exact Nat.le_of_eq (next_stored _ _ _ _).symm
  | expunge => exact Nat.le_of_eq (next_deleteEntries _).symm
  | uidExpunge args => exact Nat.le_of_eq (next_deleteEntries _).symm
  | copy copying args => exact next_copyAll copying _ _ _
  | uidCopy copying args => exact next_copyAll copying _ _ _
  | move copying args =>
      unfold MessageCommand.perform
      dsimp only
      unfold handleMove
      split
      · exact Nat.le_refl _
      · split
        · exact next_moveAll copying _ _
        · exact Nat.le_refl _
  | uidMove copying args =>
      unfold MessageCommand.perform
      dsimp only
      unfold handleUidMove
      split
      · exact Nat.le_refl _
      · split
        · exact next_moveAll copying _ _
        · exact Nat.le_refl _
  | check => exact Nat.le_refl _
  | noop => exact Nat.le_refl _

theorem inStep_perform (issued : Issued selected database) (command : MessageCommand)
    (settled : command.Settled account database selected) :
    InStep database selected (command.perform account database selected) := by
  cases command with
  | fetch args =>
      cases args with
      | none => exact inStep_refused issued _ _
      | some values => exact inStep_fetchAll issued _ _ _
  | uidFetch args =>
      cases args with
      | none => exact inStep_refused issued _ _
      | some values => exact inStep_fetchAll issued _ _ _
  | store args =>
      unfold MessageCommand.perform
      dsimp only
      unfold handleStore
      split
      · exact inStep_refused issued _ _
      · exact inStep_stored issued _ _ _ _ _ _ _
  | uidStore args => exact inStep_handleUidStore issued args settled
  | expunge => exact inStep_handleExpunge issued
  | uidExpunge args => exact inStep_handleUidExpunge issued args
  | copy copying args => exact inStep_copyAll issued _ _ _ _
  | uidCopy copying args => exact inStep_copyAll issued _ _ _ _
  | move copying args => exact inStep_handleMove issued copying args
  | uidMove copying args => exact inStep_handleUidMove issued copying args settled
  | check => exact inStep_refresh settled _ (quiet_completed _ _ _)
  | noop => exact inStep_refresh settled _ (quiet_completed _ _ _)

end

structure Watched.Agrees (watched : Watched) : Prop where
  view : watched.view = some watched.state.selected.ids
  issued : Issued watched.state.selected watched.state.database

section
variable {account : Account} {watched : Watched}

theorem agrees_opened (account : Account) (database : Database) (folder : String) :
    (Watched.opened account database folder).Agrees where
  view := by
    have count : (openFolder account database folder).messages.length =
        (openFolder account database folder).ids.length := (List.length_map _).symm
    unfold Watched.opened
    dsimp only
    rw [followEach, Response.follow, count, if_pos ⟨Nat.zero_le _, Nat.le_refl _⟩,
      List.take_length]
    rfl
  issued := by
    rw [issued_iff]
    intro id member
    have listed : id ∈ (openFolder account database folder).ids := member
    rw [ids_openFolder] at listed
    obtain ⟨row, rowMember, rfl⟩ := List.mem_map.mp listed
    exact database.messages.fresh row (mem_folderMessages.mp rowMember).1

theorem agrees_outcome (agrees : watched.Agrees) {outcome : Outcome}
    (inStep : InStep watched.state.database watched.state.selected outcome)
    {event : SelectedEvent}
    (handled : watched.state.handle account event = watched.state.outcome outcome) :
    (watched.step account event).Agrees := by
  unfold Watched.step
  rw [handled, agrees.view]
  exact ⟨inStep.followed, inStep.issued⟩

theorem agrees_unchanged (agrees : watched.Agrees) {event : SelectedEvent}
    {state : SelectedState} {responses : List Response}
    (handled : watched.state.handle account event = (state, responses))
    (selected : state.selected = watched.state.selected)
    (database : state.database = watched.state.database)
    (quiet : ∀ response ∈ responses, response.changesList = false) :
    (watched.step account event).Agrees := by
  unfold Watched.step
  rw [handled, agrees.view]
  have issued := agrees.issued
  rw [← selected, ← database] at issued
  refine ⟨?_, issued⟩
  dsimp only
  rw [← selected]
  exact followEach_of_quiet quiet

theorem agrees_step (agrees : watched.Agrees) (event : SelectedEvent)
    (settled : watched.Settled account event) :
    (watched.step account event).Agrees := by
  cases event with
  | command command =>
      by_cases idling : watched.state.idling = true
      · exact agrees_unchanged agrees (if_pos idling) rfl rfl (List.forall_mem_nil _)
      · have inStep := inStep_perform agrees.issued command
          (settled (Bool.eq_false_of_not_eq_true idling))
        exact agrees_outcome agrees inStep (if_neg idling)
  | idle idleCount maxIdlePerIp =>
      by_cases idling : watched.state.idling = true
      · exact agrees_unchanged agrees (if_pos idling) rfl rfl (List.forall_mem_nil _)
      · by_cases full : maxIdlePerIp ≤ idleCount
        · exact agrees_unchanged agrees ((if_neg idling).trans (if_pos full)) rfl rfl
            (quiet_completed _ _ _)
        · exact agrees_unchanged agrees ((if_neg idling).trans (if_neg full)) rfl rfl
            (List.forall_mem_nil _)
  | idleLine data =>
      by_cases done : (watched.state.idling && upcase (trim data) == "DONE") = true
      · exact agrees_unchanged agrees (if_pos done) rfl rfl (quiet_completed _ _ _)
      · exact agrees_unchanged agrees (if_neg done) rfl rfl (List.forall_mem_nil _)
  | idleTimeout =>
      by_cases idling : watched.state.idling = true
      · exact agrees_unchanged agrees (if_pos idling) rfl rfl (quiet_completed _ _ _)
      · exact agrees_unchanged agrees (if_neg idling) rfl rfl (List.forall_mem_nil _)
  | newEmail message =>
      by_cases idling : watched.state.idling = true
      · have inStep := inStep_handleNewEmail agrees.issued message (settled idling)
        exact agrees_outcome agrees inStep (if_pos idling)
      · exact agrees_unchanged agrees (if_neg idling) rfl rfl (List.forall_mem_nil _)
  | elsewhere database =>
      by_cases later : watched.state.database.messages.next ≤ database.messages.next
      · have handled : watched.state.handle account (.elsewhere database) =
            (⟨database, watched.state.selected, watched.state.idling⟩, []) :=
          if_pos later
        unfold Watched.step
        rw [handled, agrees.view]
        exact ⟨rfl, agrees.issued.later later fun id member => member⟩
      · exact agrees_unchanged agrees (if_neg later) rfl rfl (List.forall_mem_nil _)

end

/-- In a run in which every refresh meets its condition the list of the client is the
list of the session, in every state that is reached. -/
theorem message_lists_agree (account : Account) (database : Database) (folder : String)
    (events : List SelectedEvent)
    (settled : Along (Watched.step account) (Watched.Settled account)
      (Watched.opened account database folder) events) :
    (events.foldl (Watched.step account) (Watched.opened account database folder)).view =
      some (events.foldl (Watched.step account)
        (Watched.opened account database folder)).state.selected.ids := by
  have agrees : (events.foldl (Watched.step account)
      (Watched.opened account database folder)).Agrees :=
    settled.invariant
      (fun _ event agrees settled => agrees_step agrees event settled)
      (agrees_opened account database folder)
  exact agrees.view

def arrivedDatabase : Database where
  messages :=
    movedDatabase.messages.append movedMessage.withId movedMessage.withId_id
  folders := []

/-- A message comes in, and `NOOP` announces it. -/
def arrival : List SelectedEvent := [.elsewhere arrivedDatabase, .command .noop]

theorem message_lists_agree_arrival :
    (arrival.foldl (Watched.step movedAccount)
        (Watched.opened movedAccount movedDatabase "INBOX")).view =
      some (arrival.foldl (Watched.step movedAccount)
        (Watched.opened movedAccount movedDatabase "INBOX")).state.selected.ids :=
  message_lists_agree movedAccount movedDatabase "INBOX" arrival
    (.cons trivial (.cons (fun _ => ⟨by decide +kernel, by decide +kernel⟩)
      (Along.nil _ _ _)))

/-- A message is marked as deleted and then dropped from the list by `NOOP`. -/
def dropping : List SelectedEvent :=
  [.command (.store (some "1 +FLAGS (\\Deleted)")), .command .noop]

theorem not_message_lists_agree_dropping :
    ¬∀ (account : Account) (database : Database) (folder : String)
      (events : List SelectedEvent),
      (events.foldl (Watched.step account) (Watched.opened account database folder)).view =
        some (events.foldl (Watched.step account)
          (Watched.opened account database folder)).state.selected.ids := by
  intro agree
  have lost : (dropping.foldl (Watched.step movedAccount)
      (Watched.opened movedAccount movedDatabase "INBOX")).view = none := by
    decide +kernel
  have kept := agree movedAccount movedDatabase "INBOX" dropping
  rw [lost] at kept
  cases kept

end Elektrine.IMAP
