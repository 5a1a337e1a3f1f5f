import Elektrine.Email.Messages
import Elektrine.Library.Tallies

/-!
# Unread badges

The unread counts of a mailbox beside the listings they stand at.  A listing also shows
messages that the user has sent to the own address, and two of the conditions of the
listings are missing in the counts.
-/

namespace Elektrine.Email

open Elektrine.Library

structure CategoryFilters where
  digestFilterEnabled : Option Bool
  ledgerFilterEnabled : Option Bool

/-- `enabled_category_filter_categories` of a mailbox, if there is one. -/
def enabledCategoryFilterCategories : Option CategoryFilters → List String
  | some filters =>
      (if filters.digestFilterEnabled ≠ some false then ["feed"] else []) ++
        (if filters.ledgerFilterEnabled ≠ some false then ["ledger"] else [])
  | none => ["feed", "ledger"]

def inboxExcludedCategories (filters : Option CategoryFilters) : List String :=
  enabledCategoryFilterCategories filters ++ ["stack"]

def categoryFilterEnabled (filters : Option CategoryFilters) (category : String) : Bool :=
  (enabledCategoryFilterCategories filters).contains category

/-- `not m.spam and not m.archived and not m.deleted`. -/
def MessageRow.inPlace (row : MessageRow) : Bool :=
  row.spam == some false && row.archived == some false && row.deleted == false

/-- `is_nil(m.category) or m.category not in ^excluded_categories`. -/
def MessageRow.outside (row : MessageRow) (excludedCategories : List String) : Bool :=
  match row.category with
  | none => true
  | some category => !(excludedCategories.contains category)

def MessageRow.unread (row : MessageRow) : Bool :=
  row.read == some false

section

variable (rows : List MessageRow) (mailboxId : Nat) (filters : Option CategoryFilters)

def unreadCount : Nat :=
  (rows.filter fun row =>
    row.mailboxId == mailboxId && row.unread && row.inPlace &&
      (row.incoming || row.selfSent) && row.outside (inboxExcludedCategories filters) &&
      row.replyLaterAt.isNone).length

def unreadInboxCount : Nat :=
  (rows.filter fun row =>
    row.mailboxId == mailboxId && row.unread && row.inPlace &&
      (row.incoming || row.selfSent) && row.outside (inboxExcludedCategories filters) &&
      row.replyLaterAt.isNone && row.folderId.isNone).length

def unreadCategoryCount (category : String) : Nat :=
  (rows.filter fun row =>
    row.mailboxId == mailboxId && row.unread && row.inPlace && row.incoming &&
      row.category == some category).length

def unreadFeedCount : Nat :=
  if categoryFilterEnabled filters "feed" then unreadCategoryCount rows mailboxId "feed" else 0

def unreadLedgerCount : Nat :=
  if categoryFilterEnabled filters "ledger" then unreadCategoryCount rows mailboxId "ledger"
  else 0

def unreadStackCount : Nat :=
  (rows.filter fun row =>
    row.mailboxId == mailboxId && row.unread && row.inPlace && row.incoming &&
      row.category == some "stack").length

def unreadReplyLaterCount : Nat :=
  (rows.filter fun row =>
    row.mailboxId == mailboxId && row.unread && row.inPlace && row.incoming &&
      row.replyLaterAt.isSome).length

def inboxFamilyScope : List MessageRow :=
  rows.filter fun row =>
    row.mailboxId == mailboxId && row.inPlace && (row.incoming || row.selfSent) &&
      row.outside (inboxExcludedCategories filters) && row.replyLaterAt.isNone &&
      row.folderId.isNone

/-- `list_feed_messages` and `list_ledger_messages`, all pages. -/
def listCategoryMessages (category : String) : List MessageRow :=
  rows.filter fun row =>
    row.mailboxId == mailboxId && row.category == some category && row.inPlace &&
      (row.incoming || row.selfSent)

def listFeedMessages : List MessageRow :=
  listCategoryMessages rows mailboxId "feed"

def listLedgerMessages : List MessageRow :=
  listCategoryMessages rows mailboxId "ledger"

def listStackMessages : List MessageRow :=
  rows.filter fun row =>
    row.mailboxId == mailboxId && row.category == some "stack" && row.stackAt.isSome &&
      row.inPlace && (row.incoming || row.selfSent)

def listReplyLaterMessages : List MessageRow :=
  rows.filter fun row =>
    row.mailboxId == mailboxId && row.replyLaterAt.isSome && row.inPlace &&
      (row.incoming || row.selfSent)

def unreadIn (listing : List MessageRow) : Nat :=
  (listing.filter MessageRow.unread).length

structure BadgesMatch : Prop where
  unread : unreadCount rows mailboxId filters =
    unreadIn (inboxFamilyScope rows mailboxId filters)
  inbox : unreadInboxCount rows mailboxId filters =
    unreadIn (inboxFamilyScope rows mailboxId filters)
  feed : categoryFilterEnabled filters "feed" → unreadFeedCount rows mailboxId filters =
    unreadIn (listFeedMessages rows mailboxId)
  ledger : categoryFilterEnabled filters "ledger" → unreadLedgerCount rows mailboxId filters =
    unreadIn (listLedgerMessages rows mailboxId)
  stack : unreadStackCount rows mailboxId = unreadIn (listStackMessages rows mailboxId)
  replyLater : unreadReplyLaterCount rows mailboxId =
    unreadIn (listReplyLaterMessages rows mailboxId)

end

/-- An unread message of the mailbox that is neither spam nor archived nor deleted. -/
def Pending (mailboxId : Nat) (row : MessageRow) : Prop :=
  row.mailboxId = mailboxId ∧ row.unread ∧ row.inPlace

instance (mailboxId : Nat) (row : MessageRow) : Decidable (Pending mailboxId row) :=
  inferInstanceAs (Decidable (_ ∧ _ ∧ _))

/-- A sent message or a draft to the own address. -/
def MessageRow.toSelf (row : MessageRow) : Prop :=
  row.incoming = false ∧ row.selfSent

instance (row : MessageRow) : Decidable row.toSelf :=
  inferInstanceAs (Decidable (_ ∧ _))

/-- The message belongs to the inbox, whatever folder it is in. -/
def InInbox (filters : Option CategoryFilters) (row : MessageRow) : Prop :=
  (row.incoming ∨ row.selfSent) ∧ row.outside (inboxExcludedCategories filters) ∧
    row.replyLaterAt = none

/-- No unread message of the inbox is in a custom folder, none to the own address is in the
feed, the ledger or put off, and in the stack those without a time are as many as those to
the own address with one. -/
structure Unmixed (rows : List MessageRow) (mailboxId : Nat)
    (filters : Option CategoryFilters) : Prop where
  unfiled : ∀ row ∈ rows, Pending mailboxId row → InInbox filters row → row.folderId = none
  feed : categoryFilterEnabled filters "feed" → ∀ row ∈ rows, Pending mailboxId row →
    row.category = some "feed" → ¬ row.toSelf
  ledger : categoryFilterEnabled filters "ledger" → ∀ row ∈ rows, Pending mailboxId row →
    row.category = some "ledger" → ¬ row.toSelf
  stack : (rows.filter fun row => Pending mailboxId row ∧ row.category = some "stack" ∧
      row.incoming ∧ row.stackAt = none).length =
    (rows.filter fun row => Pending mailboxId row ∧ row.category = some "stack" ∧
      row.toSelf ∧ row.stackAt ≠ none).length
  replyLater : ∀ row ∈ rows, Pending mailboxId row → row.replyLaterAt ≠ none → ¬ row.toSelf

section

variable {rows : List MessageRow} {mailboxId : Nat} {filters : Option CategoryFilters}

theorem unreadIn_filter (shown : MessageRow → Bool) :
    unreadIn (rows.filter shown) =
      (rows.filter fun row => row.unread && shown row).length := by
  rw [unreadIn, List.filter_filter]

theorem unreadInboxCount_eq :
    unreadInboxCount rows mailboxId filters =
      unreadIn (inboxFamilyScope rows mailboxId filters) := by
  rw [unreadInboxCount, inboxFamilyScope, unreadIn_filter]
  apply congrArg List.length
  apply List.filter_congr
  intro row _
  rw [Bool.eq_iff_iff]
  simp only [Bool.and_eq_true]
  tauto

theorem unreadCount_eq_iff :
    unreadCount rows mailboxId filters = unreadIn (inboxFamilyScope rows mailboxId filters) ↔
      ∀ row ∈ rows, Pending mailboxId row → InInbox filters row → row.folderId = none := by
  rw [unreadCount, inboxFamilyScope, unreadIn_filter, length_filter_eq_iff_of_imp]
  · simp only [Bool.and_eq_true, Pending, InInbox, beq_iff_eq, Bool.or_eq_true,
      Option.isNone_iff_eq_none]
    constructor
    · intro whole row member pending inInbox
      have shown := whole row member
      tauto
    · intro unfiled row member counted
      have filed := unfiled row member
      tauto
  · intro row _ shown
    simp only [Bool.and_eq_true] at shown ⊢
    tauto

theorem unreadCategoryCount_eq_iff (category : String) :
    unreadCategoryCount rows mailboxId category =
        unreadIn (listCategoryMessages rows mailboxId category) ↔
      ∀ row ∈ rows, Pending mailboxId row → row.category = some category → ¬ row.toSelf := by
  rw [unreadCategoryCount, listCategoryMessages, unreadIn_filter, eq_comm,
    length_filter_eq_iff_of_imp]
  · simp only [Bool.and_eq_true, Pending, MessageRow.toSelf, beq_iff_eq, Bool.or_eq_true,
      ← Bool.not_eq_true]
    constructor
    · intro whole row member pending inCategory toSelf
      have counted := whole row member
      tauto
    · intro others row member shown
      have other := others row member
      tauto
  · intro row _ counted
    simp only [Bool.and_eq_true, Bool.or_eq_true] at counted ⊢
    tauto

theorem unreadReplyLaterCount_eq_iff :
    unreadReplyLaterCount rows mailboxId = unreadIn (listReplyLaterMessages rows mailboxId) ↔
      ∀ row ∈ rows, Pending mailboxId row → row.replyLaterAt ≠ none → ¬ row.toSelf := by
  rw [unreadReplyLaterCount, listReplyLaterMessages, unreadIn_filter, eq_comm,
    length_filter_eq_iff_of_imp]
  · simp only [Bool.and_eq_true, Pending, MessageRow.toSelf, beq_iff_eq, Bool.or_eq_true,
      ← Bool.not_eq_true, ← Option.isSome_iff_ne_none]
    constructor
    · intro whole row member pending putOff toSelf
      have counted := whole row member
      tauto
    · intro others row member shown
      have other := others row member
      tauto
  · intro row _ counted
    simp only [Bool.and_eq_true, Bool.or_eq_true] at counted ⊢
    tauto

theorem unreadStackCount_eq_iff :
    unreadStackCount rows mailboxId = unreadIn (listStackMessages rows mailboxId) ↔
      (rows.filter fun row => Pending mailboxId row ∧ row.category = some "stack" ∧
          row.incoming ∧ row.stackAt = none).length =
        (rows.filter fun row => Pending mailboxId row ∧ row.category = some "stack" ∧
          row.toSelf ∧ row.stackAt ≠ none).length := by
  have onlyCounted : ∀ row : MessageRow,
      ((row.mailboxId == mailboxId && row.unread && row.inPlace && row.incoming &&
          row.category == some "stack") &&
        !(row.unread && (row.mailboxId == mailboxId && row.category == some "stack" &&
          row.stackAt.isSome && row.inPlace && (row.incoming || row.selfSent)))) =
      decide (Pending mailboxId row ∧ row.category = some "stack" ∧ row.incoming ∧
        row.stackAt = none) := by
    intro row
    rw [Bool.eq_iff_iff]
    simp only [Pending, Bool.and_eq_true, Bool.or_eq_true, Bool.not_eq_true', beq_iff_eq,
      decide_eq_true_eq, ← Bool.not_eq_true, ← Option.not_isSome_iff_eq_none]
    tauto
  have onlyShown : ∀ row : MessageRow,
      ((row.unread && (row.mailboxId == mailboxId && row.category == some "stack" &&
          row.stackAt.isSome && row.inPlace && (row.incoming || row.selfSent))) &&
        !(row.mailboxId == mailboxId && row.unread && row.inPlace && row.incoming &&
          row.category == some "stack")) =
      decide (Pending mailboxId row ∧ row.category = some "stack" ∧ row.toSelf ∧
        row.stackAt ≠ none) := by
    intro row
    rw [Bool.eq_iff_iff]
    simp only [Pending, MessageRow.toSelf, Bool.and_eq_true, Bool.or_eq_true,
      Bool.not_eq_true', beq_iff_eq, decide_eq_true_eq, ← Bool.not_eq_true,
      ← Option.isSome_iff_ne_none]
    tauto
  rw [unreadStackCount, listStackMessages, unreadIn_filter, length_filter_eq_iff]
  simp only [onlyCounted, onlyShown]

end

/-- The badges are what is listed exactly in the unmixed states. -/
theorem badgesMatch_iff (rows : List MessageRow) (mailboxId : Nat)
    (filters : Option CategoryFilters) :
    BadgesMatch rows mailboxId filters ↔ Unmixed rows mailboxId filters := by
  have feedCount : categoryFilterEnabled filters "feed" →
      unreadFeedCount rows mailboxId filters = unreadCategoryCount rows mailboxId "feed" :=
    fun enabled => if_pos enabled
  have ledgerCount : categoryFilterEnabled filters "ledger" →
      unreadLedgerCount rows mailboxId filters = unreadCategoryCount rows mailboxId "ledger" :=
    fun enabled => if_pos enabled
  constructor
  · intro matching
    refine ⟨unreadCount_eq_iff.mp matching.unread, ?_, ?_,
      unreadStackCount_eq_iff.mp matching.stack,
      unreadReplyLaterCount_eq_iff.mp matching.replyLater⟩
    · intro enabled
      apply (unreadCategoryCount_eq_iff "feed").mp
      rw [← feedCount enabled]
      exact matching.feed enabled
    · intro enabled
      apply (unreadCategoryCount_eq_iff "ledger").mp
      rw [← ledgerCount enabled]
      exact matching.ledger enabled
  · intro unmixed
    refine ⟨unreadCount_eq_iff.mpr unmixed.unfiled, unreadInboxCount_eq, ?_, ?_,
      unreadStackCount_eq_iff.mpr unmixed.stack,
      unreadReplyLaterCount_eq_iff.mpr unmixed.replyLater⟩
    · intro enabled
      rw [feedCount enabled]
      exact (unreadCategoryCount_eq_iff "feed").mpr (unmixed.feed enabled)
    · intro enabled
      rw [ledgerCount enabled]
      exact (unreadCategoryCount_eq_iff "ledger").mpr (unmixed.ledger enabled)

def ownNewsletter : MessageRow :=
  { receivedRow 1 with
    toAddress := some "ann@example.com", status := "sent", category := some "feed" }

/-- The feed lists the message as unread, and the badge does not count it. -/
theorem not_badgesMatch_toSelf : ¬ BadgesMatch [ownNewsletter] 1 none := by
  intro matching
  have same := matching.feed (by decide)
  exact absurd same (by decide)

end Elektrine.Email
