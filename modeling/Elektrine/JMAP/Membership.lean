import Elektrine.Data.Text
import Elektrine.Email.Messages

/-!
# Virtual mailboxes

The mailboxes that JMAP clients see, with their counts, the mailbox filter of `Email/query`
and the mailboxes that an email is shown in.  Each of the three has its own conditions.
-/

namespace Elektrine.JMAP

open Elektrine.Email

inductive VirtualFolder where
  | inbox
  | feed
  | ledger
  | stack
  | sent
  | drafts
  | trash
  | spam
  | archive
  deriving DecidableEq

def VirtualFolder.name : VirtualFolder → String
  | .inbox => "inbox"
  | .feed => "feed"
  | .ledger => "ledger"
  | .stack => "stack"
  | .sent => "sent"
  | .drafts => "drafts"
  | .trash => "trash"
  | .spam => "spam"
  | .archive => "archive"

def mailboxJmapId (mailboxId : Nat) (name : String) : String :=
  "mb-" ++ mailboxId.repr ++ "-" ++ name

def baseFolderQuery (mailboxId : Nat) (folder : VirtualFolder) (row : MessageRow) : Bool :=
  row.mailboxId == mailboxId &&
    match folder with
    | .inbox =>
        row.category == some "inbox" && row.deleted == false && row.spam == some false &&
          row.archived == some false && row.status == "received"
    | .feed => row.category == some "feed" && row.deleted == false && row.spam == some false
    | .ledger =>
        row.category == some "ledger" && row.deleted == false && row.spam == some false
    | .stack => row.category == some "stack" && row.deleted == false && row.spam == some false
    | .sent => row.status == "sent" && row.deleted == false
    | .drafts => row.status == "draft" && row.deleted == false
    | .trash => row.deleted == true
    | .spam => row.spam == some true && row.deleted == false
    | .archive =>
        row.archived == some true && row.deleted == false && row.spam == some false

/-- The messages that `count_messages` counts. -/
def counted (rows : List MessageRow) (mailboxId : Nat) (folder : VirtualFolder) :
    List MessageRow :=
  rows.filter (baseFolderQuery mailboxId folder)

def endsWith (text suffix : String) : Bool :=
  suffix.toList.isSuffixOf text.toList

inductive FilterError where
  | unsupportedFilter (name : String)
  deriving DecidableEq

def mailboxFilterDynamic (jmapMailboxId : String) : Except FilterError (MessageRow → Bool) :=
  if endsWith jmapMailboxId "-inbox" then
    .ok fun row =>
      row.category == some "inbox" && row.deleted == false && row.spam == some false &&
        row.archived == some false && row.status == "received"
  else if endsWith jmapMailboxId "-feed" then
    .ok fun row =>
      row.category == some "feed" && row.deleted == false && row.spam == some false
  else if endsWith jmapMailboxId "-ledger" then
    .ok fun row =>
      row.category == some "ledger" && row.deleted == false && row.spam == some false
  else if endsWith jmapMailboxId "-stack" then
    .ok fun row =>
      row.category == some "stack" && row.deleted == false && row.spam == some false
  else if endsWith jmapMailboxId "-sent" then
    .ok fun row => row.status == "sent" && row.deleted == false
  else if endsWith jmapMailboxId "-drafts" then
    .ok fun row => row.status == "draft" && row.deleted == false
  else if endsWith jmapMailboxId "-trash" then
    .ok fun row => row.deleted == true
  else if endsWith jmapMailboxId "-spam" then
    .ok fun row => row.spam == some true && row.deleted == false
  else if endsWith jmapMailboxId "-archive" then
    .ok fun row =>
      row.archived == some true && row.deleted == false && row.spam == some false
  else .error (.unsupportedFilter "inMailbox")

/-- `query_emails` with the filter `inMailbox`, before sorting and paging. -/
def queryEmailsInMailbox (rows : List MessageRow) (mailboxId : Nat)
    (jmapMailboxId : String) : Except FilterError (List MessageRow) :=
  (mailboxFilterDynamic jmapMailboxId).map fun filter =>
    rows.filter fun row => row.mailboxId == mailboxId && filter row

/-- The name in the only key of `mailboxIds`. -/
def shownFolder (row : MessageRow) : String :=
  if row.deleted then "trash"
  else if row.spam = some true then "spam"
  else if row.status = "sent" then "sent"
  else if row.status = "draft" then "drafts"
  else if row.archived = some true then "archive"
  else row.category.getD "inbox"

def buildMailboxIds (row : MessageRow) : List String :=
  [mailboxJmapId row.mailboxId (shownFolder row)]

end Elektrine.JMAP

/-!
## Membership in a virtual mailbox

An email is shown in one mailbox, the filter and the counts select it by conditions that
do not exclude each other.  The three agree for the emails that meet the conditions of the
mailbox that shows them and of no other.
-/

namespace Elektrine.JMAP

open Elektrine.Email

theorem dash_not_mem_repr (number : Nat) : '-' ∉ number.repr.toList := by
  intro member
  exact absurd (isDigit_of_mem_repr member) (by decide)

theorem toList_mailboxJmapId (mailboxId : Nat) (name : String) :
    (mailboxJmapId mailboxId name).toList =
      'm' :: 'b' :: '-' :: (mailboxId.repr.toList ++ '-' :: name.toList) := by
  simp [mailboxJmapId]

theorem mailboxJmapId_inj {first second : Nat} {name name' : String} :
    mailboxJmapId first name = mailboxJmapId second name' ↔ first = second ∧ name = name' := by
  constructor
  · intro same
    have characters := congrArg String.toList same
    rw [toList_mailboxJmapId, toList_mailboxJmapId] at characters
    injection characters with _ characters
    injection characters with _ characters
    injection characters with _ characters
    have cut := List.append_eq_append_iff.mp characters
    rcases cut with ⟨more, longer, ends⟩ | ⟨more, longer, ends⟩
    · cases more with
      | nil =>
          rw [List.append_nil] at longer
          injection ends with _ names
          exact ⟨repr_inj (String.toList_inj.mp longer.symm), String.toList_inj.mp names⟩
      | cons head more =>
          injection ends with head_eq
          rw [← head_eq] at longer
          exact absurd (longer ▸ List.mem_append_right _ List.mem_cons_self)
            (dash_not_mem_repr second)
    · cases more with
      | nil =>
          rw [List.append_nil] at longer
          injection ends with _ names
          exact ⟨repr_inj (String.toList_inj.mp longer), String.toList_inj.mp names.symm⟩
      | cons head more =>
          injection ends with head_eq
          rw [← head_eq] at longer
          exact absurd (longer ▸ List.mem_append_right _ List.mem_cons_self)
            (dash_not_mem_repr first)
  · intro both
    rw [both.1, both.2]

theorem endsWith_mailboxJmapId (mailboxId : Nat) (folder : VirtualFolder)
    (other : VirtualFolder) :
    endsWith (mailboxJmapId mailboxId folder.name) ("-" ++ other.name) =
      decide (folder = other) := by
  rw [Bool.eq_iff_iff, decide_eq_true_eq, endsWith, List.isSuffixOf_iff_suffix,
    toList_mailboxJmapId]
  constructor
  · intro suffix
    have whole : ("-" ++ folder.name).toList <:+
        'm' :: 'b' :: '-' :: (mailboxId.repr.toList ++ '-' :: folder.name.toList) := by
      refine ⟨'m' :: 'b' :: '-' :: mailboxId.repr.toList, ?_⟩
      simp
    rcases List.suffix_or_suffix_of_suffix suffix whole with inside | inside
    · revert inside
      cases folder <;> cases other <;> decide
    · revert inside
      cases folder <;> cases other <;> decide
  · intro same
    rw [same]
    refine ⟨'m' :: 'b' :: '-' :: mailboxId.repr.toList, ?_⟩
    simp

def VirtualFolder.selects (folder : VirtualFolder) (row : MessageRow) : Bool :=
  baseFolderQuery row.mailboxId folder row

theorem baseFolderQuery_eq (mailboxId : Nat) (folder : VirtualFolder) (row : MessageRow) :
    baseFolderQuery mailboxId folder row = (row.mailboxId == mailboxId && folder.selects row) := by
  simp [VirtualFolder.selects, baseFolderQuery]

theorem mailboxFilterDynamic_id (mailboxId : Nat) (folder : VirtualFolder) :
    mailboxFilterDynamic (mailboxJmapId mailboxId folder.name) = .ok folder.selects := by
  have ends := endsWith_mailboxJmapId mailboxId folder
  have inbox := ends .inbox
  have feed := ends .feed
  have ledger := ends .ledger
  have stack := ends .stack
  have sent := ends .sent
  have drafts := ends .drafts
  have trash := ends .trash
  have spam := ends .spam
  have archive := ends .archive
  simp only [VirtualFolder.name] at inbox feed ledger stack sent drafts trash spam archive
  unfold mailboxFilterDynamic
  cases folder <;>
    simp_all [VirtualFolder.name, VirtualFolder.selects, baseFolderQuery, funext_iff]

structure Agrees (rows : List MessageRow) (row : MessageRow) (mailboxId : Nat)
    (folder : VirtualFolder) : Prop where
  query : mailboxJmapId mailboxId folder.name ∈ buildMailboxIds row ↔
    ∃ selected, queryEmailsInMailbox rows mailboxId (mailboxJmapId mailboxId folder.name) =
      .ok selected ∧ row ∈ selected
  total : mailboxJmapId mailboxId folder.name ∈ buildMailboxIds row ↔
    row ∈ counted rows mailboxId folder

def OneNotion (rows : List MessageRow) : Prop :=
  ∀ row ∈ rows, ∀ mailboxId folder, Agrees rows row mailboxId folder

theorem mem_buildMailboxIds_iff {row : MessageRow} {mailboxId : Nat} {folder : VirtualFolder} :
    mailboxJmapId mailboxId folder.name ∈ buildMailboxIds row ↔
      row.mailboxId = mailboxId ∧ shownFolder row = folder.name := by
  rw [buildMailboxIds, List.mem_singleton, mailboxJmapId_inj]
  constructor
  · intro both
    exact ⟨both.1.symm, both.2.symm⟩
  · intro both
    exact ⟨both.1.symm, both.2.symm⟩

theorem mem_counted_iff {rows : List MessageRow} {row : MessageRow} {mailboxId : Nat}
    {folder : VirtualFolder} (member : row ∈ rows) :
    row ∈ counted rows mailboxId folder ↔
      row.mailboxId = mailboxId ∧ folder.selects row = true := by
  rw [counted, List.mem_filter, baseFolderQuery_eq, Bool.and_eq_true, beq_iff_eq]
  exact and_iff_right member

theorem mem_query_iff {rows : List MessageRow} {row : MessageRow} {mailboxId : Nat}
    {folder : VirtualFolder} :
    (∃ selected, queryEmailsInMailbox rows mailboxId (mailboxJmapId mailboxId folder.name) =
        .ok selected ∧ row ∈ selected) ↔ row ∈ counted rows mailboxId folder := by
  have same : queryEmailsInMailbox rows mailboxId (mailboxJmapId mailboxId folder.name) =
      .ok (counted rows mailboxId folder) := by
    rw [queryEmailsInMailbox, mailboxFilterDynamic_id, counted]
    apply congrArg Except.ok
    apply List.filter_congr
    intro row _
    exact (baseFolderQuery_eq mailboxId folder row).symm
  rw [same]
  constructor
  · intro found
    obtain ⟨selected, same, member⟩ := found
    injection same with same
    rw [same]
    exact member
  · intro member
    exact ⟨_, rfl, member⟩

theorem agrees_iff {rows : List MessageRow} {row : MessageRow} (member : row ∈ rows) :
    (∀ mailboxId folder, Agrees rows row mailboxId folder) ↔
      ∀ folder : VirtualFolder, shownFolder row = folder.name ↔ folder.selects row = true := by
  constructor
  · intro agrees folder
    have total := (agrees row.mailboxId folder).total
    rw [mem_buildMailboxIds_iff, mem_counted_iff member] at total
    simpa using total
  · intro same mailboxId folder
    have total : mailboxJmapId mailboxId folder.name ∈ buildMailboxIds row ↔
        row ∈ counted rows mailboxId folder := by
      rw [mem_buildMailboxIds_iff, mem_counted_iff member, same folder]
    exact ⟨total.trans mem_query_iff.symm, total⟩

/-- The message was sent or is a draft. -/
def Outgoing (row : MessageRow) : Prop :=
  row.status = "sent" ∨ row.status = "draft"

/-- The category has a mailbox that does not look at the status. -/
def Bundled (row : MessageRow) : Prop :=
  row.category = some "feed" ∨ row.category = some "ledger" ∨ row.category = some "stack"

/-- The category is none of the names of the mailboxes. -/
def Unnamed (row : MessageRow) : Prop :=
  ∃ name, row.category = some name ∧ ∀ folder : VirtualFolder, name ≠ folder.name

/-- An email that is not spam belongs to one mailbox only. -/
def Placed (row : MessageRow) : Prop :=
  (Outgoing row ∧ row.archived ≠ some true ∧ ¬ Bundled row) ∨
    (¬ Outgoing row ∧ row.archived = some true ∧ ¬ Bundled row) ∨
    (¬ Outgoing row ∧ row.archived ≠ some true ∧ (Bundled row ∨ Unnamed row ∨
      row.category = some "inbox" ∧ row.archived = some false ∧ row.status = "received"))

/-- The message meets the conditions of the mailbox that shows it and of no other. -/
def Settled (row : MessageRow) : Prop :=
  row.deleted = true ∨
    (row.spam = some true ∧ ¬ Outgoing row) ∨
    (row.spam = some false ∧ Placed row) ∨
    (row.spam = none ∧ (Outgoing row ∨ row.archived ≠ some true ∧ Unnamed row))

theorem VirtualFolder.forall_iff {holds : VirtualFolder → Prop} :
    (∀ folder, holds folder) ↔
      holds .inbox ∧ holds .feed ∧ holds .ledger ∧ holds .stack ∧ holds .sent ∧
        holds .drafts ∧ holds .trash ∧ holds .spam ∧ holds .archive := by
  constructor
  · intro all
    exact ⟨all _, all _, all _, all _, all _, all _, all _, all _, all _⟩
  · intro all folder
    obtain ⟨inbox, feed, ledger, stack, sent, drafts, trash, spam, archive⟩ := all
    cases folder <;> assumption

theorem settled_iff (row : MessageRow) :
    (∀ folder : VirtualFolder, shownFolder row = folder.name ↔ folder.selects row = true) ↔
      Settled row := by
  obtain ⟨id, mailboxId, fromAddress, toAddress, status, read, spam, archived, deleted, category,
    stackAt, replyLaterAt, threadId, folderId⟩ := row
  rw [VirtualFolder.forall_iff]
  simp only [Settled, Placed, Unnamed, VirtualFolder.forall_iff, Outgoing, Bundled,
    shownFolder, VirtualFolder.selects, baseFolderQuery, VirtualFolder.name]
  cases deleted with
  | true => simp
  | false =>
      by_cases sent : status = "sent"
      · subst sent
        rcases spam with _ | _ | _ <;> rcases archived with _ | _ | _ <;> simp
      by_cases draft : status = "draft"
      · subst draft
        rcases spam with _ | _ | _ <;> rcases archived with _ | _ | _ <;> simp
      rcases spam with _ | _ | _
      · rcases archived with _ | _ | _ <;> rcases category with _ | name <;> simp [sent, draft]
      · -- Only here the name of the category decides.
        rcases archived with _ | _ | _ <;> rcases category with _ | name <;>
          simp [sent, draft] <;> grind
      · simp [sent, draft]

/-- Membership is one notion for the messages that are settled, and for no others. -/
theorem oneNotion_iff (rows : List MessageRow) :
    OneNotion rows ↔ ∀ row ∈ rows, Settled row := by
  constructor
  · intro one row member
    exact (settled_iff row).mp ((agrees_iff member).mp (one row member))
  · intro settled row member
    exact (agrees_iff member).mpr ((settled_iff row).mpr (settled row member))

def archivedNewsletter : MessageRow :=
  { receivedRow 1 with category := some "feed", archived := some true }

/-- The newsletter is shown in the archive only, and the feed selects and counts it. -/
theorem not_oneNotion_archived : ¬ OneNotion [archivedNewsletter] := by
  intro one
  have same := (agrees_iff List.mem_cons_self).mp (one _ List.mem_cons_self) .feed
  exact absurd (same.mpr (by decide)) (by decide)

end Elektrine.JMAP
