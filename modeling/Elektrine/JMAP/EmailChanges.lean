import Elektrine.Data.Text
import Mathlib.Data.List.Dedup
import Mathlib.Data.List.Sort
import Elektrine.Email.SavedBodies
import Elektrine.JMAP.Membership
import Elektrine.JMAP.ThreadIds

/-!
# Email changes of a mailbox

Every recorded change of an email raises the state counter of its mailbox and carries
the new value.  A client that knows a state asks for the changes since; the answer is
made in three reads of the tables, between which further changes may be recorded.
-/

namespace Elektrine.JMAP

inductive ChangeType where
  | created
  | updated
  | destroyed
  deriving DecidableEq, Repr

structure EmailChange where
  emailId : Nat
  changeType : ChangeType
  stateCounter : Nat
  deriving DecidableEq, Repr

/-- The changes of a mailbox and its counter: every change has a counter of its own, in
the order of the table. -/
structure Journal where
  changes : List EmailChange
  stateCounter : Nat
  ascending : changes.Pairwise (·.stateCounter < ·.stateCounter)
  bounded : ∀ change ∈ changes, change.stateCounter ≤ stateCounter

namespace Journal

theorem bounded_nil : ∀ change ∈ ([] : List EmailChange), change.stateCounter ≤ 0 :=
  List.forall_mem_nil _

def empty : Journal where
  changes := []
  stateCounter := 0
  ascending := .nil
  bounded := bounded_nil

/-- `EmailChange.record`: the counter is incremented and the change inserted in one
transaction. -/
def record (journal : Journal) (emailId : Nat) (changeType : ChangeType) : Journal where
  changes := journal.changes ++ [⟨emailId, changeType, journal.stateCounter + 1⟩]
  stateCounter := journal.stateCounter + 1
  ascending := by
    apply List.pairwise_append.mpr
    refine ⟨journal.ascending, List.pairwise_singleton _ _, ?_⟩
    intro change member last lastMember
    rw [List.mem_singleton.mp lastMember]
    exact Nat.lt_succ_of_le (journal.bounded change member)
  bounded change member := by
    rcases List.mem_append.mp member with old | last
    · exact Nat.le_succ_of_le (journal.bounded change old)
    · rw [List.mem_singleton.mp last]

def recordAll (journal : Journal) (changes : List (Nat × ChangeType)) : Journal :=
  changes.foldl (fun journal change => journal.record change.1 change.2) journal

def listSince (journal : Journal) (since : Int) (current : Nat) : List EmailChange :=
  journal.changes.filter fun change =>
    decide (since < (change.stateCounter : Int)) && decide (change.stateCounter ≤ current)

def getState (journal : Journal) : String := toString journal.stateCounter

end Journal

/-- `parse_email_state_counter`: what stands before the first colon. -/
def parseEmailStateCounter (state : String) : Option Int :=
  integerParseExact (String.ofList (state.toList.takeWhile (· != ':')))

inductive Listing where
  | omitted
  | created
  | updated
  | destroyed
  deriving DecidableEq, Repr

/-- The branches of `fold_email_changes` for the changes of one email. -/
def listing (types : List ChangeType) : Listing :=
  if types.contains .created && types.getLast? == some .destroyed then .omitted
  else if types.contains .created then .created
  else if types.getLast? == some .destroyed then .destroyed
  else .updated

/-- `Enum.group_by(& &1.email_id)`. -/
def groupByEmail (changes : List EmailChange) : List (Nat × List EmailChange) :=
  (changes.map (·.emailId)).dedup.map fun emailId =>
    (emailId, changes.filter (·.emailId == emailId))

/-- One group in `fold_email_changes`: the created, the updated and the destroyed. -/
def foldGroup (lists : List Nat × List Nat × List Nat)
    (group : Nat × List EmailChange) : List Nat × List Nat × List Nat :=
  match listing (group.2.map (·.changeType)) with
  | .omitted => lists
  | .created => (group.1 :: lists.1, lists.2.1, lists.2.2)
  | .updated => (lists.1, group.1 :: lists.2.1, lists.2.2)
  | .destroyed => (lists.1, lists.2.1, group.1 :: lists.2.2)

def foldEmailChanges (changes : List EmailChange) : List Nat × List Nat × List Nat :=
  let lists := (groupByEmail changes).foldl foldGroup ([], [], [])
  (lists.1.insertionSort (· ≤ ·), lists.2.1.insertionSort (· ≤ ·),
    lists.2.2.insertionSort (· ≤ ·))

structure ChangesResponse where
  oldState : String
  newState : String
  hasMoreChanges : Bool
  created : List String
  updated : List String
  destroyed : List String
  deriving DecidableEq, Repr

/-- `email_changes_since`, by the journal at its reads of the counter, of the changes and
of the new state. -/
def emailChangesSince (sinceState : String) (atCounter atList atState : Journal) :
    Option ChangesResponse :=
  match parseEmailStateCounter sinceState with
  | none => none
  | some since =>
      if since ≤ (atCounter.stateCounter : Int) then
        let folded := foldEmailChanges (atList.listSince since atCounter.stateCounter)
        some
          { oldState := sinceState
            newState := atState.getState
            hasMoreChanges := false
            created := folded.1.map toString
            updated := folded.2.1.map toString
            destroyed := folded.2.2.map toString }
      else none

end Elektrine.JMAP

/-!
## Emails as they are shown

The rows of the message table with the columns that the properties of an email are made
of, and these properties: the thread, the mailboxes, the keywords, the addresses and the
bodies.
-/

namespace Elektrine.JMAP

open Elektrine.Email Elektrine.Library

structure MessageRecord (Cipher : Type) extends MessageRow where
  messageId : String
  cc : Option String
  bcc : Option String
  subject : Option String
  textBody : Option String
  htmlBody : Option String
  encryptedTextBody : Option Cipher
  encryptedHtmlBody : Option Cipher
  flagged : Bool
  answered : Bool
  stackReason : Option String
  replyLaterReminder : Bool
  openedAt : Option Nat
  firstOpenedAt : Option Nat
  openCount : Nat
  insertedAt : Nat

structure Address where
  name : Option String
  email : String
  deriving DecidableEq

/-- What the views take from elsewhere: the user of a mailbox, the keys of the users, and
the regular expression of `parse_address` with the name and the email that it captures. -/
structure Views (Cipher : Type) where
  owner : Nat → Option Nat
  encryption : Encryption Cipher
  nameAndEmail : String → Option (String × String)

structure JmapEmail where
  id : String
  threadId : String
  mailboxIds : List String
  keywords : List String
  fromAddresses : Option (List Address)
  toAddresses : Option (Option (List Address))
  ccAddresses : Option (Option (List Address))
  bccAddresses : Option (Option (List Address))
  textBody : List String
  htmlBody : List String
  deriving DecidableEq

variable {Cipher : Type}

def buildKeywords (message : MessageRecord Cipher) : List String :=
  (if message.read = some true then ["$seen"] else []) ++
    (if message.flagged then ["$flagged"] else []) ++
    (if message.answered then ["$answered"] else []) ++
    (if message.status = "draft" then ["$draft"] else [])

section

variable (views : Views Cipher)

def parseAddress (address : String) : Option (List Address) :=
  if address = "" then none
  else
    match views.nameAndEmail address with
    | some (name, email) => some [⟨some (trim name), email⟩]
    | none => some [⟨none, address⟩]

/-- `none` where an empty address among others makes `flat_map` raise. -/
def parseAddresses : Option String → Option (Option (List Address))
  | none | some "" => some none
  | some addresses =>
      let pieces := (addresses.toList.splitOn ',').map fun piece => trim (String.ofList piece)
      (pieces.mapM (parseAddress views)).map fun lists => some lists.flatten

/-- A body as `decrypt_messages_for_mailbox` leaves it. -/
def shownBody (mailboxId : Nat) (body : Option String) (encrypted : Option Cipher) :
    List String :=
  match views.owner mailboxId with
  | some userId => (decryptBody views.encryption userId body encrypted).toList
  | none => body.toList

def messageToJmapEmail (message : MessageRecord Cipher) : JmapEmail where
  id := message.id.repr
  threadId := shownThreadId message.toMessageRow
  mailboxIds := buildMailboxIds message.toMessageRow
  keywords := buildKeywords message
  fromAddresses := parseAddress views message.fromAddress
  toAddresses := parseAddresses views message.toAddress
  ccAddresses := parseAddresses views message.cc
  bccAddresses := parseAddresses views message.bcc
  textBody := shownBody views message.mailboxId message.textBody message.encryptedTextBody
  htmlBody := shownBody views message.mailboxId message.htmlBody message.encryptedHtmlBody

end

theorem messageToJmapEmail_category {views : Views Cipher} {message : MessageRecord Cipher}
    {category : Option String} :
    messageToJmapEmail views { message with category } = messageToJmapEmail views message ↔
      shownFolder { message.toMessageRow with category } = shownFolder message.toMessageRow := by
  constructor
  · intro same
    have lists : [mailboxJmapId message.mailboxId
        (shownFolder { message.toMessageRow with category })] =
          [mailboxJmapId message.mailboxId (shownFolder message.toMessageRow)] :=
      congrArg JmapEmail.mailboxIds same
    injection lists with ids
    exact (mailboxJmapId_inj.mp ids).2
  · intro same
    have lists : buildMailboxIds { message.toMessageRow with category } =
        buildMailboxIds message.toMessageRow := by
      unfold buildMailboxIds
      rw [same]
    have shown : messageToJmapEmail views { message with category } =
        { messageToJmapEmail views message with
          mailboxIds := buildMailboxIds { message.toMessageRow with category } } := rfl
    rw [shown, lists]
    rfl

theorem messageToJmapEmail_threadId {views : Views Cipher} {message : MessageRecord Cipher}
    (loose : message.threadId = none) {threadId : Nat} :
    messageToJmapEmail views { message with threadId := some threadId } =
        messageToJmapEmail views message ↔ threadId = message.id := by
  have before : (messageToJmapEmail views message).threadId = message.id.repr := by
    have shown : (messageToJmapEmail views message).threadId =
        (message.threadId.getD message.id).repr := rfl
    rw [shown, loose]
    rfl
  constructor
  · intro same
    have texts : threadId.repr = (messageToJmapEmail views message).threadId :=
      congrArg JmapEmail.threadId same
    exact repr_inj (texts.trans before)
  · intro same
    have shown : messageToJmapEmail views { message with threadId := some threadId } =
        { messageToJmapEmail views message with threadId := threadId.repr } := rfl
    rw [shown, same, ← before]

end Elektrine.JMAP
