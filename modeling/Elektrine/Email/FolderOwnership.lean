import Elektrine.Email.Filters
import Elektrine.IMAP.FiledCopies
import Elektrine.Library.Runs

/-!
# Who owns the folders

A message should lie in no folder or in a folder of the user who owns its mailbox, and the
folders of a user should hang below each other.  The move to a folder and the commands of
the mail protocol check the owner.  The generic changesets and the filters do not, so the
runs in which they only name folders of the right user are those that keep the order.
-/

namespace Elektrine.Email.CustomFolders

open Elektrine.IMAP Elektrine.Library

def Tables.database (tables : Tables) : Database where
  messages := tables.messages
  folders := (tables.folders.rows.insertionSort fun first second =>
    tables.collates first.name second.name = true).map CustomFolder.toFolder

/-- The folder that `APPEND` files a message in, if it is not an unknown one. -/
def appendFolder (database : Database) (mailbox : Mailbox) (folder : String) :
    Option (Option Nat) :=
  let folderClean := canonicalSystemFolderName folder
  if ["inbox", "sent", "drafts", "trash", "spam"].contains (downcase folderClean) then
    some none
  else
    (mailbox.userId.bind fun userId =>
      findCustomFolderByName database userId folderClean).map fun custom => some custom.id

inductive FilingCommand where
  | copy (copying : Copying) (args : Option String) (selected : Selected)
  | uidCopy (copying : Copying) (args : Option String) (selected : Selected)
  | move (copying : Copying) (args : Option String) (selected : Selected)
  | uidMove (copying : Copying) (args : Option String) (selected : Selected)
  | append (folder : String) (message : Message)

def FilingCommand.handle (command : FilingCommand) (account : Account)
    (database : Database) : Database :=
  match command with
  | .copy copying args selected =>
      (handleCopy account copying args database selected).database
  | .uidCopy copying args selected =>
      (handleUidCopy account copying args database selected).database
  | .move copying args selected =>
      (handleMove account copying args database selected).database
  | .uidMove copying args selected =>
      (handleUidMove account copying args database selected).database
  | .append folder message =>
      match appendFolder database account.mailbox folder with
      | some folderId =>
          appendMessage database { message with mailboxId := account.mailbox.id, folderId }
      | none => database

inductive Operation where
  | createFolder (attrs : FolderAttrs)
  | updateFolder (loaded : CustomFolder) (attrs : FolderAttrs)
  | deleteFolder (folder : CustomFolder)
  | createMessage (attrs : MessageAttrs) (refused : Bool)
  | updateMessage (loaded : Message) (attrs : MessageAttrs)
  | updateMessageFlags (id : Nat) (updates : MessageAttrs)
  | updateOwnMessageFlags (id mailboxId : Nat) (updates : MessageAttrs)
  | moveMessageToFolder (message : Message) (folderId : Json)
  | deleteMessage (id : Nat)
  | applyFilters (message : Message) (matched : Filter → Bool) (filters : List Filter)
  | imap (mailboxId userId : Nat) (command : FilingCommand)

def Tables.perform (tables : Tables) : Operation → Option Tables
  | .createFolder attrs => tables.createFolder attrs
  | .updateFolder loaded attrs => tables.updateFolder loaded attrs
  | .deleteFolder folder => tables.deleteFolder folder
  | .createMessage attrs refused => tables.createMessage attrs refused
  | .updateMessage loaded attrs => (tables.updateMessage loaded attrs).map Prod.fst
  | .updateMessageFlags id updates => tables.updateMessageFlags id updates
  | .updateOwnMessageFlags id mailboxId updates =>
      tables.updateOwnMessageFlags id mailboxId updates
  | .moveMessageToFolder message folderId => tables.moveMessageToFolder message folderId
  | .deleteMessage id => tables.deleteMessage id
  | .applyFilters message matched filters =>
      some (tables.executeActions message (CustomFolders.applyFilters matched filters))
  | .imap mailboxId userId command =>
      (tables.getMailbox mailboxId).map fun mailbox =>
        { tables with
          messages := (command.handle ⟨mailbox, userId⟩ tables.database).messages }

def step (tables : Tables) (operation : Operation) : Tables :=
  (tables.perform operation).getD tables

/-- Where a message of a mailbox may lie. -/
def Tables.Filed (tables : Tables) (mailboxId : Nat) (folderId : Option Nat) : Prop :=
  ∀ id, folderId = some id → ∃ folder, tables.folders.find id = some folder ∧
    tables.owner mailboxId = some folder.userId

/-- The folder and its parents are folders of one user, and lead to one without a parent. -/
def Tables.Rooted (tables : Tables) (folder : CustomFolder) : Prop :=
  ParentLinks.Rooted (fun folder => folder.id) CustomFolder.parentId
    (tables.listFolders folder.userId) folder

structure Owned (tables : Tables) : Prop where
  filed : ∀ message ∈ tables.messages.rows,
    tables.Filed message.mailboxId message.folderId
  rooted : ∀ folder ∈ tables.folders.rows, tables.Rooted folder

/-- `get_folder_tree` returns, and holds every folder of the user exactly once. -/
def Tables.TreeComplete (tables : Tables) : Prop :=
  ∀ userId, ∃ trees, tables.getFolderTree userId = some trees ∧
    (RowTree.forestNodes trees).Perm (tables.listFolders userId)

/-- A message that is written lies in a folder of its mailbox's owner. -/
def UpdateCareful (tables : Tables) (loaded : Message) (attrs : MessageAttrs) : Prop :=
  ∀ changes row, tables.messageChanges loaded attrs = some changes →
    tables.messages.find loaded.id = some row →
    tables.Filed (changes.apply row).mailboxId (changes.apply row).folderId

def ActionsCareful (tables : Tables) (message : Message) : List (String × Json) → Prop
  | [] => True
  | (action, value) :: actions =>
      (∀ attrs, actionWrite action value = some (.update attrs) →
        UpdateCareful tables message attrs) ∧
      ∀ next, tables.executeAction message action value = some next →
        ActionsCareful next.1 next.2 actions

/-- The parent of a folder is a folder of the same user that was there before, and the
folder is not one of the parents above it. -/
def ParentCareful (tables : Tables) (folder : CustomFolder) : Prop :=
  ∀ parentId, folder.parentId = some parentId →
    ∃ parent line, parent.id = parentId ∧
      ParentLinks.Lineage (fun folder => folder.id) CustomFolder.parentId
        (tables.listFolders folder.userId) (parent :: line) ∧
      ∀ above ∈ parent :: line, above.id ≠ folder.id

/-- No folder and no message lies in the folder. -/
def Empty (tables : Tables) (id : Nat) : Prop :=
  (∀ folder ∈ tables.folders.rows, folder.parentId ≠ some id) ∧
    ∀ message ∈ tables.messages.rows, message.folderId ≠ some id

def Careful (tables : Tables) : Operation → Prop
  | .createFolder attrs =>
      ∀ folder, tables.folderToInsert attrs = some folder → ParentCareful tables folder
  | .updateFolder loaded attrs =>
      ∀ row folder, tables.folders.find loaded.id = some row →
        tables.folderToUpdate loaded attrs = some folder →
        ParentCareful tables folder ∧ (folder.userId = row.userId ∨ Empty tables row.id)
  | .createMessage attrs refused =>
      ∀ message, tables.messageToInsert attrs refused = some message →
        tables.Filed message.mailboxId message.folderId
  | .updateMessage loaded attrs => UpdateCareful tables loaded attrs
  | .updateMessageFlags id updates =>
      ∀ row, tables.messages.find id = some row → UpdateCareful tables row updates
  | .updateOwnMessageFlags id mailboxId updates =>
      ∀ row, tables.messages.find id = some row → row.mailboxId = mailboxId →
        UpdateCareful tables row updates
  | .applyFilters message matched filters =>
      ActionsCareful tables message (CustomFolders.applyFilters matched filters)
  -- These check the owner themselves.
  | .deleteFolder _ | .moveMessageToFolder _ _ | .deleteMessage _ | .imap _ _ _ => True

variable {tables after : Tables}

@[simp] theorem mem_listFolders {userId : Nat} {folder : CustomFolder} :
    folder ∈ tables.listFolders userId ↔
      folder ∈ tables.folders.rows ∧ folder.userId = userId := by
  simp [Tables.listFolders, Tables.ofUser, List.mem_insertionSort]

theorem distinct_listFolders (userId : Nat) :
    ((tables.listFolders userId).map fun folder => folder.id).Nodup := by
  have sorted : (tables.listFolders userId).Perm (tables.ofUser userId) :=
    List.perm_insertionSort _ _
  apply (sorted.map _).nodup_iff.mpr
  have ascending : (tables.ofUser userId).Pairwise fun first second => first.id < second.id :=
    tables.folders.ascending.sublist List.filter_sublist
  exact List.pairwise_map.mpr (ascending.imp Nat.ne_of_lt)

theorem treeComplete_of_owned (owned : Owned tables) : tables.TreeComplete := by
  intro userId
  apply ParentLinks.forest_perm (distinct_listFolders userId)
  intro folder member
  obtain ⟨present, own⟩ := mem_listFolders.mp member
  have rooted := owned.rooted folder present
  rw [Tables.Rooted, own] at rooted
  exact rooted

theorem id_changedFolder {id : Nat} {current : FolderFields} {changes : FolderChanges}
    {folder : CustomFolder} (written : tables.changedFolder id current changes = some folder) :
    folder.id = id := by
  unfold Tables.changedFolder at written
  split at written
  · split at written
    · cases written
      rfl
    · cases written
  · cases written

theorem id_folderToInsert {attrs : FolderAttrs} {folder : CustomFolder}
    (planned : tables.folderToInsert attrs = some folder) :
    folder.id = tables.folders.next := by
  unfold Tables.folderToInsert at planned
  split at planned
  · split at planned
    · cases planned
    · obtain ⟨written, -⟩ := Option.filter_eq_some_iff.mp planned
      obtain ⟨changes, -, written⟩ := Option.bind_eq_some_iff.mp written
      exact id_changedFolder written
  · cases planned

theorem id_folderToUpdate {loaded folder : CustomFolder} {attrs : FolderAttrs}
    (planned : tables.folderToUpdate loaded attrs = some folder) :
    ∃ row, tables.folders.find loaded.id = some row ∧ folder.id = row.id := by
  unfold Tables.folderToUpdate at planned
  split at planned
  · rename_i changes row valid found
    obtain ⟨written, -⟩ := Option.filter_eq_some_iff.mp planned
    exact ⟨row, found, id_changedFolder written⟩
  · cases planned

theorem CustomFolder.withId_self {folder : CustomFolder} {id : Nat} (same : folder.id = id) :
    folder.withId id = folder := by
  subst same
  rfl

theorem rooted_of_parent {table : List CustomFolder} {folder : CustomFolder}
    (member : folder ∈ table)
    (parents : ∀ parentId, folder.parentId = some parentId →
      ∃ parent line, parent.id = parentId ∧
        ParentLinks.Lineage (fun folder => folder.id) CustomFolder.parentId table
          (parent :: line)) :
    ParentLinks.Rooted (fun folder => folder.id) CustomFolder.parentId table folder := by
  cases link : folder.parentId with
  | none => exact ⟨[], .cons member link .nil⟩
  | some parentId =>
      obtain ⟨parent, line, same, lineage⟩ := parents parentId link
      refine ⟨parent :: line, .cons member ?_ lineage⟩
      rw [link, ← same]
      rfl

theorem owned_insertFolder (owned : Owned tables) {folder : CustomFolder}
    (fresh : folder.id = tables.folders.next) (careful : ParentCareful tables folder) :
    Owned (tables.insertFolder folder) := by
  have listed : ∀ userId other, other ∈ (tables.insertFolder folder).listFolders userId ↔
      (other ∈ tables.folders.rows ∨ other = folder) ∧ other.userId = userId := by
    intro userId other
    rw [mem_listFolders]
    unfold Tables.insertFolder
    rw [SerialRows.mem_append, CustomFolder.withId_self fresh]
  constructor
  · intro message member id lies
    obtain ⟨home, found, own⟩ := owned.filed message member id lies
    refine ⟨home, ?_, own⟩
    unfold Tables.insertFolder
    rw [SerialRows.find_append, if_neg (Nat.ne_of_lt (SerialRows.find_lt found))]
    exact found
  · intro other member
    have present := (listed other.userId other).mp (mem_listFolders.mpr ⟨member, rfl⟩)
    rcases present.1 with old | rfl
    · have rooted := owned.rooted other old
      apply ParentLinks.Rooted.inherit id (fun _ => False) (fun _ => rfl) _ rooted
      · exact id
      · intro node inTable _
        obtain ⟨present, own⟩ := mem_listFolders.mp inTable
        exact Or.inr ⟨(listed _ _).mpr ⟨Or.inl present, own⟩, rfl, fun _ _ _ gone => gone⟩
    · apply rooted_of_parent ((listed _ _).mpr ⟨Or.inr rfl, rfl⟩)
      intro parentId link
      obtain ⟨parent, line, same, lineage, -⟩ := careful parentId link
      refine ⟨parent, line, same, lineage.transport ?_⟩
      intro node onLine
      obtain ⟨present, own⟩ := mem_listFolders.mp (lineage.mem onLine)
      exact (listed _ _).mpr ⟨Or.inl present, own⟩

section Replace

variable {row folder : CustomFolder}

def heir (folder other : CustomFolder) : CustomFolder :=
  if other.id = folder.id then folder else other

theorem heir_other {other : CustomFolder} (apart : other.id ≠ folder.id) :
    heir folder other = other := if_neg apart

theorem heir_row {other : CustomFolder} (chosen : other.id = folder.id) :
    heir folder other = folder := if_pos chosen

theorem heir_id (other : CustomFolder) : (heir folder other).id = other.id := by
  by_cases chosen : other.id = folder.id
  · rw [heir_row chosen, chosen]
  · rw [heir_other chosen]

theorem rows_replaceFolder :
    (tables.replaceFolder folder).folders.rows = tables.folders.rows.map (heir folder) := by
  unfold Tables.replaceFolder SerialRows.modify
  apply List.map_congr_left
  intro other _
  dsimp only [heir]
  split
  · rename_i chosen
    exact CustomFolder.withId_self chosen.symm
  · rfl

theorem remains_replaceFolder {other : CustomFolder} (member : other ∈ tables.folders.rows)
    (apart : other.id ≠ folder.id) :
    other ∈ (tables.replaceFolder folder).listFolders other.userId := by
  apply mem_listFolders.mpr
  rw [rows_replaceFolder]
  exact ⟨List.mem_map.mpr ⟨other, member, heir_other apart⟩, rfl⟩

variable (stored : row ∈ tables.folders.rows) (same : folder.id = row.id)

include stored same

theorem mem_replaceFolder :
    folder ∈ (tables.replaceFolder folder).listFolders folder.userId := by
  apply mem_listFolders.mpr
  rw [rows_replaceFolder]
  exact ⟨List.mem_map.mpr ⟨row, stored, heir_row same.symm⟩, rfl⟩

theorem rooted_replaceFolder (careful : ParentCareful tables folder) :
    (tables.replaceFolder folder).Rooted folder := by
  apply rooted_of_parent (mem_replaceFolder stored same)
  intro parentId link
  obtain ⟨parent, line, keyed, lineage, apart⟩ := careful parentId link
  refine ⟨parent, line, keyed, lineage.transport ?_⟩
  intro node onLine
  obtain ⟨present, own⟩ := mem_listFolders.mp (lineage.mem onLine)
  rw [← own]
  exact remains_replaceFolder present (apart node onLine)

variable (kept : folder.userId = row.userId ∨ Empty tables row.id)

include kept

theorem inherits_replaceFolder (careful : ParentCareful tables folder)
    {node : CustomFolder} {userId : Nat} (inTable : node ∈ tables.listFolders userId)
    (stays : ¬ (node.id = folder.id ∧ folder.userId ≠ userId)) :
    ParentLinks.Rooted (fun folder => folder.id) CustomFolder.parentId
        ((tables.replaceFolder folder).listFolders userId) (heir folder node) ∨
      heir folder node ∈ (tables.replaceFolder folder).listFolders userId ∧
        (heir folder node).parentId = node.parentId ∧
        ∀ above ∈ tables.listFolders userId, node.parentId = some above.id →
          ¬ (above.id = folder.id ∧ folder.userId ≠ userId) := by
  obtain ⟨nodePresent, own⟩ := mem_listFolders.mp inTable
  by_cases keyed : node.id = folder.id
  · left
    have sameUser : folder.userId = userId := by
      by_contra different
      exact stays ⟨keyed, different⟩
    have rooted := rooted_replaceFolder stored same careful
    rw [Tables.Rooted, sameUser] at rooted
    rw [heir_row keyed]
    exact rooted
  · right
    rw [heir_other keyed]
    refine ⟨own ▸ remains_replaceFolder nodePresent keyed, rfl, ?_⟩
    intro above aboveTable link gone
    obtain ⟨abovePresent, aboveOwn⟩ := mem_listFolders.mp aboveTable
    have aboveRow : above = row :=
      SerialRows.eq_of_key_eq abovePresent stored (gone.1.trans same)
    rcases kept with sameUser | empty
    · exact gone.2 (by rw [sameUser, ← aboveRow, aboveOwn])
    · exact empty.1 node nodePresent (by rw [link, aboveRow])

theorem filed_replaceFolder {mailboxId : Nat} {folderId : Option Nat}
    (filed : tables.Filed mailboxId folderId)
    (used : folderId = some row.id → ¬ Empty tables row.id) :
    (tables.replaceFolder folder).Filed mailboxId folderId := by
  intro id lies
  obtain ⟨home, found, own⟩ := filed id lies
  obtain ⟨present, keyed⟩ := SerialRows.find_eq_some_iff.mp found
  by_cases chosen : home.id = folder.id
  · refine ⟨folder, ?_, ?_⟩
    · apply SerialRows.find_eq_some_iff.mpr
      exact ⟨(mem_listFolders.mp (mem_replaceFolder stored same)).1, chosen.symm.trans keyed⟩
    · have homeRow : home = row :=
        SerialRows.eq_of_key_eq present stored (chosen.trans same)
      rcases kept with sameUser | empty
      · rw [sameUser, ← homeRow]
        exact own
      · rw [← keyed, homeRow] at lies
        exact absurd empty (used lies)
  · refine ⟨home, ?_, own⟩
    apply SerialRows.find_eq_some_iff.mpr
    exact ⟨(mem_listFolders.mp (remains_replaceFolder present chosen)).1, keyed⟩

theorem owned_replaceFolder (owned : Owned tables) (careful : ParentCareful tables folder) :
    Owned (tables.replaceFolder folder) := by
  constructor
  · intro message member
    apply filed_replaceFolder stored same kept (owned.filed message member)
    intro lies empty
    exact empty.2 message member lies
  · intro other member
    rw [rows_replaceFolder] at member
    obtain ⟨old, present, rfl⟩ := List.mem_map.mp member
    by_cases chosen : old.id = folder.id
    · rw [heir_row chosen]
      exact rooted_replaceFolder stored same careful
    · have inherited := ParentLinks.Rooted.inherit (heir folder)
        (fun node => node.id = folder.id ∧ folder.userId ≠ old.userId) heir_id
        (fun _ => inherits_replaceFolder stored same kept careful)
        (owned.rooted old present) (fun gone => chosen gone.1)
      rw [heir_other chosen] at inherited ⊢
      exact inherited

end Replace

section Delete

variable {deleted : Nat}

theorem leaveParent_of_ne {folder : CustomFolder} (apart : folder.parentId ≠ some deleted) :
    folder.leaveParent deleted = folder := if_neg apart

theorem userId_leaveParent (folder : CustomFolder) :
    (folder.leaveParent deleted).userId = folder.userId := by
  unfold CustomFolder.leaveParent
  split
  · rfl
  · rfl

theorem deleteFolder_eq_some {folder : CustomFolder}
    (gone : tables.deleteFolder folder = some after) :
    after = { tables with
      folders := (tables.folders.delete folder.id).modifyAll
        (CustomFolder.leaveParent folder.id) (CustomFolder.leaveParent_id folder.id)
      messages := tables.messages.modifyAll (Message.leaveFolder folder.id)
        (Message.leaveFolder_id folder.id) } := by
  unfold Tables.deleteFolder at gone
  split at gone
  · cases gone
    rfl
  · cases gone

theorem owned_deleteFolder (owned : Owned tables) {folder : CustomFolder}
    (gone : tables.deleteFolder folder = some after) : Owned after := by
  rw [deleteFolder_eq_some gone]
  constructor
  · intro message member id lies
    obtain ⟨old, present, rfl⟩ := List.mem_map.mp member
    unfold Message.leaveFolder at lies ⊢
    by_cases inside : old.folderId = some folder.id
    · rw [if_pos inside] at lies
      cases lies
    · rw [if_neg inside] at lies ⊢
      obtain ⟨home, found, own⟩ := owned.filed old present id lies
      refine ⟨home.leaveParent folder.id, ?_, ?_⟩
      · have apart : id ≠ folder.id := by
          intro same
          exact inside (by rw [lies, same])
        rw [SerialRows.find_modifyAll, SerialRows.find_delete, if_neg apart, found]
        rfl
      · rw [userId_leaveParent]
        exact own
  · intro other member
    obtain ⟨old, oldMember, rfl⟩ := List.mem_map.mp member
    obtain ⟨present, apart⟩ := SerialRows.mem_delete.mp oldMember
    rw [Tables.Rooted, userId_leaveParent]
    apply ParentLinks.Rooted.inherit (CustomFolder.leaveParent folder.id)
      (fun node => node.id = folder.id) (CustomFolder.leaveParent_id folder.id) ?_
      (owned.rooted old present) apart
    intro node inTable stays
    obtain ⟨nodePresent, own⟩ := mem_listFolders.mp inTable
    have remains : node.leaveParent folder.id ∈ Tables.listFolders { tables with
          folders := (tables.folders.delete folder.id).modifyAll
            (CustomFolder.leaveParent folder.id) (CustomFolder.leaveParent_id folder.id)
          messages := tables.messages.modifyAll (Message.leaveFolder folder.id)
            (Message.leaveFolder_id folder.id) } old.userId := by
      apply mem_listFolders.mpr
      refine ⟨List.mem_map.mpr ⟨node, SerialRows.mem_delete.mpr ⟨nodePresent, stays⟩, rfl⟩, ?_⟩
      rw [userId_leaveParent]
      exact own
    by_cases child : node.parentId = some folder.id
    · left
      apply rooted_of_parent remains
      intro parentId link
      unfold CustomFolder.leaveParent at link
      rw [if_pos child] at link
      cases link
    · right
      rw [leaveParent_of_ne child] at remains ⊢
      refine ⟨remains, rfl, ?_⟩
      intro above _ link same
      exact child (by rw [link, same])

end Delete

theorem owned_of_filed (owned : Owned tables) {messages : SerialRows Message Message.id}
    (filed : ∀ message ∈ messages.rows, tables.Filed message.mailboxId message.folderId) :
    Owned { tables with messages } := ⟨filed, owned.rooted⟩

theorem owned_writeMessage (owned : Owned tables) {loaded : Message}
    {changes : MessageChanges} {next : Tables × Message}
    (written : tables.writeMessage loaded changes = some next)
    (careful : ∀ row, tables.messages.find loaded.id = some row →
      tables.Filed (changes.apply row).mailboxId (changes.apply row).folderId) :
    Owned next.1 := by
  unfold Tables.writeMessage at written
  split at written
  · cases written
    apply owned_of_filed owned
    intro message member
    obtain ⟨old, present, rfl⟩ := List.mem_map.mp member
    split
    · rename_i chosen
      exact careful old (SerialRows.find_eq_some_iff.mpr ⟨present, chosen⟩)
    · exact owned.filed old present
  · cases written

theorem owned_updateMessage (owned : Owned tables) {loaded : Message} {attrs : MessageAttrs}
    {next : Tables × Message} (updated : tables.updateMessage loaded attrs = some next)
    (careful : UpdateCareful tables loaded attrs) : Owned next.1 := by
  obtain ⟨changes, valid, written⟩ := Option.bind_eq_some_iff.mp updated
  apply owned_writeMessage owned written
  intro row found
  exact careful changes row valid found

theorem owned_executeAction (owned : Owned tables) {message : Message} {action : String}
    {value : Json} {next : Tables × Message}
    (done : tables.executeAction message action value = some next)
    (careful : ∀ attrs, actionWrite action value = some (.update attrs) →
      UpdateCareful tables message attrs) : Owned next.1 := by
  unfold Tables.executeAction at done
  cases write : actionWrite action value with
  | none =>
      rw [write] at done
      cases done
      exact owned
  | some kind =>
      rw [write] at done
      cases kind with
      | update attrs => exact owned_updateMessage owned done (careful attrs write)
      | column others =>
          apply owned_writeMessage owned done
          intro row found
          exact owned.filed row (SerialRows.find_eq_some_iff.mp found).1

theorem owned_executeActions (owned : Owned tables) {message : Message}
    {actions : List (String × Json)} (careful : ActionsCareful tables message actions) :
    Owned (tables.executeActions message actions) := by
  induction actions generalizing tables message with
  | nil => exact owned
  | cons entry actions ih =>
      obtain ⟨action, value⟩ := entry
      obtain ⟨first, rest⟩ := careful
      rw [Tables.executeActions]
      cases done : tables.executeAction message action value with
      | none => exact owned
      | some next => exact ih (owned_executeAction owned done first) (rest next done)

theorem messageChanges_eq_some {loaded : Message} {attrs : MessageAttrs}
    {changes : MessageChanges} (valid : tables.messageChanges loaded attrs = some changes) :
    ∃ folderId, ((castId attrs.folderId).change (loaded.folderId.map Int.ofNat)).refer
        tables.hasFolder = some folderId ∧
      changes = ⟨folderId, attrs.mailboxId.join.filter (· != loaded.mailboxId),
        attrs.others⟩ := by
  unfold Tables.messageChanges at valid
  dsimp only at valid
  split at valid
  · obtain ⟨folderId, referred, same⟩ := Option.map_eq_some_iff.mp valid
    exact ⟨folderId, referred, same.symm⟩
  · cases valid

theorem refer_change {given : Given Int} {loaded : Option Int} {present : Nat → Bool}
    {change : FieldChange Nat} (referred : (given.change loaded).refer present = some change) :
    change = .unchanged ∨ change = .set none ∨
      ∃ id : Nat, given = .value (some (Int.ofNat id)) ∧ change = .set (some id) := by
  unfold Given.change at referred
  split at referred
  · rename_i chosen
    split at referred
    · cases referred
      exact Or.inl rfl
    · unfold FieldChange.refer at referred
      split at referred
      · cases referred
        exact Or.inl rfl
      · cases referred
        exact Or.inr (Or.inl rfl)
      · cases referred
      · rename_i id same
        cases same
        split at referred
        · cases referred
          exact Or.inr (Or.inr ⟨id, rfl, rfl⟩)
        · cases referred
  · cases referred
    exact Or.inl rfl

theorem filed_of_validated {message : Message} {folderId : Json} {id : Nat}
    (validated : tables.validateFolderForMessageOwner message folderId = true)
    (given : castId (some folderId) = .value (some (Int.ofNat id))) :
    tables.Filed message.mailboxId (some id) := by
  intro other same
  cases same
  unfold Tables.validateFolderForMessageOwner at validated
  split at validated
  · cases given
  · cases given
    split at validated
    · rename_i userId owned
      obtain ⟨folder, located⟩ := Option.isSome_iff_exists.mp validated
      obtain ⟨found, own⟩ := Option.filter_eq_some_iff.mp located
      exact ⟨folder, found, owned.trans (congrArg some (beq_iff_eq.mp own).symm)⟩
    · cases validated
  · cases validated

theorem owned_moveMessageToFolder (owned : Owned tables) {message : Message}
    {folderId : Json} (moved : tables.moveMessageToFolder message folderId = some after) :
    Owned after := by
  unfold Tables.moveMessageToFolder at moved
  split at moved
  · rename_i validated
    obtain ⟨row, located, updated⟩ := Option.bind_eq_some_iff.mp moved
    obtain ⟨found, own⟩ := Option.filter_eq_some_iff.mp located
    obtain ⟨next, written, rfl⟩ := Option.map_eq_some_iff.mp updated
    apply owned_updateMessage owned written
    intro changes stored valid again
    obtain ⟨present, keyed⟩ := SerialRows.find_eq_some_iff.mp found
    rw [keyed, found] at again
    cases again
    obtain ⟨change, referred, rfl⟩ := messageChanges_eq_some valid
    rcases refer_change referred with rfl | rfl | ⟨id, given, rfl⟩
    · exact owned.filed row present
    · intro id lies
      cases lies
    · have filed := filed_of_validated validated given
      rw [← beq_iff_eq.mp own] at filed
      exact filed
  · cases moved

section Imap

variable {mailboxId : Nat} {mailbox : Mailbox}
  (located : tables.getMailbox mailboxId = some mailbox)

include located

theorem owner_eq : tables.owner mailbox.id = mailbox.userId := by
  have same : mailbox.id = mailboxId := by
    have tested := List.find?_some located
    exact beq_iff_eq.mp tested
  rw [Tables.owner, same, located]
  rfl

theorem filesInto_database : FilesInto tables.Filed mailbox tables.database.folders where
  unfiled id lies := by
    cases lies
  own userId owned folder member own id lies := by
    cases lies
    obtain ⟨custom, listed, rfl⟩ := List.mem_map.mp member
    have present := (List.mem_insertionSort _).mp listed
    refine ⟨custom, SerialRows.find_eq_some_iff.mpr ⟨present, rfl⟩, ?_⟩
    rw [owner_eq located, owned, own]

theorem filed_appendFolder {folder : String} {folderId : Option Nat}
    (chosen : appendFolder tables.database mailbox folder = some folderId) :
    tables.Filed mailbox.id folderId := by
  have into := filesInto_database located
  unfold appendFolder at chosen
  dsimp only at chosen
  split at chosen
  · cases chosen
    exact into.unfiled
  · obtain ⟨custom, found, rfl⟩ := Option.map_eq_some_iff.mp chosen
    obtain ⟨userId, owned, first⟩ := Option.bind_eq_some_iff.mp found
    obtain ⟨member, own⟩ := List.mem_filter.mp (List.mem_of_find?_eq_some first)
    exact into.own userId owned custom member (beq_iff_eq.mp own)

theorem throughout_handle (owned : Owned tables) (command : FilingCommand) (userId : Nat) :
    Throughout tables.Filed (command.handle ⟨mailbox, userId⟩ tables.database) := by
  have everywhere : Throughout tables.Filed tables.database := owned.filed
  have into : FilesInto tables.Filed (Account.mk mailbox userId).mailbox
      tables.database.folders := filesInto_database located
  cases command with
  | copy copying args selected =>
      exact throughout_copyAll into everywhere copying args selected _ _
  | uidCopy copying args selected =>
      exact throughout_copyAll into everywhere copying args selected _ _
  | move copying args selected =>
      exact throughout_handleMove into everywhere copying args selected
  | uidMove copying args selected =>
      exact throughout_handleUidMove into everywhere copying args selected
  | append folder message =>
      unfold FilingCommand.handle
      dsimp only
      split
      · rename_i folderId chosen
        intro row member
        rcases List.mem_append.mp member with old | last
        · exact everywhere row old
        · rw [List.mem_singleton.mp last]
          exact filed_appendFolder located chosen
      · exact everywhere

end Imap

theorem owned_step (owned : Owned tables) {operation : Operation}
    (careful : Careful tables operation) : Owned (step tables operation) := by
  unfold step
  cases performed : tables.perform operation with
  | none => exact owned
  | some next =>
      rw [Option.getD_some]
      cases operation with
      | createFolder attrs =>
          obtain ⟨folder, planned, rfl⟩ := Option.map_eq_some_iff.mp performed
          exact owned_insertFolder owned (id_folderToInsert planned) (careful folder planned)
      | updateFolder loaded attrs =>
          obtain ⟨folder, planned, rfl⟩ := Option.map_eq_some_iff.mp performed
          obtain ⟨row, found, same⟩ := id_folderToUpdate planned
          obtain ⟨parents, kept⟩ := careful row folder found planned
          have stored := (SerialRows.find_eq_some_iff.mp found).1
          exact owned_replaceFolder stored same kept owned parents
      | deleteFolder folder => exact owned_deleteFolder owned performed
      | createMessage attrs refused =>
          obtain ⟨message, planned, rfl⟩ := Option.map_eq_some_iff.mp performed
          apply owned_of_filed owned
          intro row member
          rcases SerialRows.mem_append.mp member with old | rfl
          · exact owned.filed row old
          · exact careful message planned
      | updateMessage loaded attrs =>
          obtain ⟨written, updated, rfl⟩ := Option.map_eq_some_iff.mp performed
          exact owned_updateMessage owned updated careful
      | updateMessageFlags id updates =>
          obtain ⟨row, found, updated⟩ := Option.bind_eq_some_iff.mp performed
          obtain ⟨written, made, rfl⟩ := Option.map_eq_some_iff.mp updated
          exact owned_updateMessage owned made (careful row found)
      | updateOwnMessageFlags id mailboxId updates =>
          obtain ⟨row, own, updated⟩ := Option.bind_eq_some_iff.mp performed
          obtain ⟨found, same⟩ := Option.filter_eq_some_iff.mp own
          obtain ⟨written, made, rfl⟩ := Option.map_eq_some_iff.mp updated
          exact owned_updateMessage owned made (careful row found (beq_iff_eq.mp same))
      | moveMessageToFolder message folderId =>
          exact owned_moveMessageToFolder owned performed
      | deleteMessage id =>
          cases performed
          apply owned_of_filed owned
          intro message member
          exact owned.filed message (SerialRows.mem_delete.mp member).1
      | applyFilters message matched filters =>
          cases performed
          exact owned_executeActions owned careful
      | imap mailboxId userId command =>
          obtain ⟨mailbox, located, rfl⟩ := Option.map_eq_some_iff.mp performed
          exact owned_of_filed owned (throughout_handle located owned command userId)

/-- In a run whose operations only name folders of the right user, every message lies in no
folder or in one of its mailbox's owner, and every folder of a user is exactly once in the
tree of the folders. -/
theorem owned_of_careful {start : Tables} (owned : Owned start)
    {operations : List Operation} (along : Along step Careful start operations) :
    ∀ front back, operations = front ++ back →
      Owned (front.foldl step start) ∧ (front.foldl step start).TreeComplete := by
  have preserved : ∀ tables operation, Owned tables → Careful tables operation →
      Owned (step tables operation) := fun _ _ owned careful => owned_step owned careful
  intro front back split
  rw [split] at along
  have always := along.prefix_of.invariant preserved owned
  exact ⟨always, treeComplete_of_owned always⟩

instance (mailboxId : Nat) (folderId : Option Nat) :
    Decidable (tables.Filed mailboxId folderId) :=
  match folderId with
  | none => isTrue fun _ lies => nomatch lies
  | some id =>
      match found : tables.folders.find id with
      | none => isFalse fun filed => by
          obtain ⟨folder, present, -⟩ := filed id rfl
          rw [found] at present
          cases present
      | some folder =>
          decidable_of_iff (tables.owner mailboxId = some folder.userId) <| by
            constructor
            · intro own other same
              cases same
              exact ⟨folder, found, own⟩
            · intro filed
              obtain ⟨home, present, own⟩ := filed id rfl
              rw [found] at present
              cases present
              exact own

instance (loaded : Message) (attrs : MessageAttrs) :
    Decidable (UpdateCareful tables loaded attrs) :=
  match planned : tables.messageChanges loaded attrs, found : tables.messages.find loaded.id with
  | some changes, some row =>
      decidable_of_iff
        (tables.Filed (changes.apply row).mailboxId (changes.apply row).folderId) <| by
          constructor
          · intro filed other stored same present
            rw [planned] at same
            rw [found] at present
            cases same
            cases present
            exact filed
          · intro careful
            exact careful changes row planned found
  | none, _ => isTrue fun _ _ same _ => by
      rw [planned] at same
      cases same
  | some _, none => isTrue fun _ _ _ present => by
      rw [found] at present
      cases present

def filedThroughout (tables : Tables) : Bool :=
  tables.messages.rows.all fun message =>
    decide (tables.Filed message.mailboxId message.folderId)

theorem Owned.filedThroughout (owned : Owned tables) : filedThroughout tables = true := by
  apply List.all_eq_true.mpr
  intro message member
  exact decide_eq_true (owned.filed message member)

def twoUsers : Tables where
  users := [1, 2]
  mailboxes := [⟨1, some 1⟩, ⟨2, some 2⟩]
  folders := SerialRows.empty _ _
  messages := SerialRows.empty _ _
  collates first second := decide (first ≤ second)

theorem owned_twoUsers : Owned twoUsers :=
  ⟨List.forall_mem_nil _, List.forall_mem_nil _⟩

def folderFor (userId : Int) (name : String) (parentId : Option Json) : FolderAttrs :=
  ⟨some (.str name), none, none, parentId, some (.int userId)⟩

def arrival : MessageAttrs where
  folderId := none
  mailboxId := some (some 1)
  others :=
    { write := fun message =>
        { message with
          messageId := "a@example.com"
          fromAddress := "ann@example.com"
          toAddress := some "bob@example.com" }
      id := fun _ => rfl
      mailboxId := fun _ => rfl
      folderId := fun _ => rfl }

def movingFilter : Filter where
  enabled := true
  stopProcessing := false
  actions := [("move_to_folder", .int 1)]
  accepted := by decide

def arrived : Message := (arrival.others.write newMessage).withId 1

def filteredRun (userId : Int) : List Operation :=
  [.createFolder (folderFor userId "Clients" none), .createMessage arrival false,
    .applyFilters { arrived with mailboxId := 1 } (fun _ => true) [movingFilter]]

theorem careful_filteredRun : Along step Careful twoUsers (filteredRun 1) := by
  apply Along.cons
  · intro folder planned parentId link
    have root : (twoUsers.folderToInsert (folderFor 1 "Clients" none)).bind
        CustomFolder.parentId = none := by decide
    rw [planned, Option.bind_some, link] at root
    cases root
  · apply Along.cons
    · intro message planned
      have unfiled : ((step twoUsers (.createFolder (folderFor 1 "Clients" none))).messageToInsert
          arrival false).bind Message.folderId = none := by decide
      rw [planned, Option.bind_some] at unfiled
      rw [unfiled]
      intro id lies
      cases lies
    · apply Along.cons
      · constructor
        · intro attrs written
          cases written
          decide
        · intro next _
          trivial
      · exact Along.nil _ _ _

theorem owned_filteredRun : Owned ((filteredRun 1).foldl step twoUsers) :=
  (owned_of_careful owned_twoUsers careful_filteredRun _ [] (List.append_nil _).symm).1

/-- A filter files a message in the folder of another user. -/
theorem not_owned_filtered :
    ¬ ∀ operations : List Operation, Owned (operations.foldl step twoUsers) := by
  intro always
  have filed := (always (filteredRun 2)).filedThroughout
  exact absurd filed (by decide)

/-- A parent is not looked at either: a folder can be created below itself, and the tree
does not hold it. -/
example :
    let tables := step twoUsers (.createFolder (folderFor 1 "Clients" (some (.int 1))))
    (tables.folders.rows.length,
      (tables.getFolderTree 1).map fun trees => (RowTree.forestNodes trees).length) =
      (1, some 0) := by
  decide

end Elektrine.Email.CustomFolders
