import Elektrine.Email.UnreadBadges
import Elektrine.Library.CacheAside
import Elektrine.Library.Runs

/-!
# The mail cache

The cached listings and counts of the mailboxes, the keys that an operation deletes after
its write, and the operations that delete none.  A write is an arbitrary change of the
stored rows, and a query an arbitrary function of them.
-/

namespace Elektrine.Email.MailCache

open Elektrine.Library Elektrine.Library.CacheAside

inductive Category where
  | all
  | inbox
  | unread
  | read
  | feed
  | ledger
  | stack
  | replyLater
  | sent
  | drafts
  | spam
  | trash
  | archive
  | folder (folderId : Nat)
  deriving DecidableEq

inductive Key where
  /-- The count under `mailbox:<id>:<name>`. -/
  | mailboxCounts (mailboxId : Nat) (name : String)
  | userCounts (userId : Nat) (name : String)
  | messages (mailboxId : Nat) (category : Category) (page perPage : Nat)
  | search (userId : Nat) (query : String) (mailboxId page perPage : Nat)
  deriving DecidableEq

/-- The patterns of `clear_by_pattern`; without a category, `:_` stands for it. -/
inductive Pattern where
  | messages (mailboxId : Nat) (category : Option Category)
  | search (userId : Nat)

def matchesPattern : Pattern → Key → Bool
  | .messages mailboxId category, .messages keyMailbox keyCategory _ _ =>
      decide (keyMailbox = mailboxId) && (category.all fun chosen => chosen = keyCategory)
  | .search userId, .search keyUser _ _ _ _ => decide (keyUser = userId)
  | _, _ => false

/-- The further counts of a mailbox that `invalidate_message_caches` deletes. -/
def mailboxCountNames : List String :=
  ["feed", "digest", "ledger", "unread_feed", "unread_digest", "unread_ledger", "unread_inbox",
    "unread_stack", "unread_reply_later", "all_unread_counts"]

def invalidateMessages (mailboxId : Nat) (category : Category) : Chore Key Pattern :=
  .scan (.messages mailboxId (if category = .all then none else some category))

def invalidateMessageCaches (mailboxId userId : Nat) (categories : List Category) :
    List (Chore Key Pattern) :=
  [.delete (.mailboxCounts mailboxId "unread"), .delete (.userCounts userId "unread")] ++
    mailboxCountNames.map (fun name => .delete (.mailboxCounts mailboxId name)) ++
    (if categories = [.all] then [invalidateMessages mailboxId .all]
    else categories.map (invalidateMessages mailboxId)) ++
    [.scan (.search userId)]

inductive MailOperation where
  | createMessage
  | updateMessage
  | updateMessageAttachments
  | saveDraft
  | deleteDraft
  | markAsRead
  | markAsUnread
  | markAsSpam
  | markAsNotSpam
  | archiveMessage
  | unarchiveMessage
  | trashMessage
  | untrashMessage
  | deleteMessage
  | trackMessageOpen
  | updateMessageFlags
  | moveMessageToFolder
  | stackMessage
  | unstackMessage
  | moveToDigest
  | moveToLedger
  | replyLaterMessage
  | clearReplyLater
  deriving DecidableEq

/-- Whether the operation ends in `with_cache_invalidation`. -/
def MailOperation.invalidates : MailOperation → Bool
  | .deleteDraft | .trackMessageOpen => false
  | _ => true

section

variable (owner : Nat → Option Nat)

/-- What an operation on a message of a mailbox does with the cache after its write: the
hook does nothing for a mailbox without a user. -/
def MailOperation.chores (operation : MailOperation) (mailboxId : Nat) :
    List (Chore Key Pattern) :=
  if operation.invalidates then
    match owner mailboxId with
    | some userId => invalidateMessageCaches mailboxId userId [.all]
    | none => []
  else []

/-- The moves of operations and cached reads; `work` deletes the next key or looks for the
next keys, and a read goes through `hit`, or `dispatch`, `query` and `commit`. -/
inductive MailMove (Rows : Type) where
  | operate (operation : MailOperation) (mailboxId : Nat) (effect : Rows → Rows)
  | work (index : Nat)
  | hit (key : Key)
  | dispatch (key : Key)
  | query (key : Key)
  | commit (key : Key)
  | expire (key : Key)

variable {Rows Value : Type}

def MailMove.move : MailMove Rows → Move Key Pattern Rows
  | .operate operation mailboxId effect => .write effect (operation.chores owner mailboxId)
  | .work index => .work index
  | .hit key => .hit key
  | .dispatch key => .dispatch key
  | .query key => .query key
  | .commit key => .commit key
  | .expire key => .expire key

variable [DecidableEq Value] (query : Rows → Key → Value)

def step (state : State Key Pattern Rows Value) (move : MailMove Rows) :
    State Key Pattern Rows Value :=
  CacheAside.step matchesPattern query state (move.move owner)

/-- Every answer that a reader has been given reflects the operations that had returned
when the reader came, and that change what it asked for. -/
def ServesNoPast (state : State Key Pattern Rows Value) : Prop :=
  ∀ answer ∈ state.answers, answer.Fresh state.writes

end

/-- The condition on a move and the state before it.  An operation that changes a cached
listing or count deletes its key; and a result is stored only if every write since its
query that has changed it has still to delete the key. -/
def Careful {Rows Value : Type} (owner : Nat → Option Nat) (query : Rows → Key → Value)
    (state : State Key Pattern Rows Value) : MailMove Rows → Prop
  | .operate operation mailboxId effect =>
      ∀ entry ∈ state.cache, query state.store entry.key ≠ query (effect state.store) entry.key →
        Awaited matchesPattern (operation.chores owner mailboxId) entry.key
  | .commit key =>
      ∀ fetch ∈ state.fetches, fetch.key = key → ∀ value seen,
        fetch.result = some (value, seen) →
        ∀ index write, state.writes[index]? = some write → write.changes key = true →
          index < seen ∨ Awaited matchesPattern write.chores key
  | _ => True

variable {Rows Value : Type} {owner : Nat → Option Nat} {query : Rows → Key → Value}
  {state : State Key Pattern Rows Value}

theorem careful_move_iff {move : MailMove Rows} :
    CacheAside.Careful matchesPattern query state (move.move owner) ↔
      Careful owner query state move := by
  cases move with
  | operate operation mailboxId effect => exact Iff.rfl
  | commit key => exact Iff.rfl
  | work index => exact Iff.rfl
  | hit key => exact Iff.rfl
  | dispatch key => exact Iff.rfl
  | query key => exact Iff.rfl
  | expire key => exact Iff.rfl

/-- In an interleaving of careful moves, no reader is given what lies before an operation
that had returned. -/
theorem servesNoPast_of_careful [DecidableEq Value] {rows : Rows}
    {moves : List (MailMove Rows)}
    (along : Along (step owner query) (Careful owner query) (start rows) moves) :
    ServesNoPast (moves.foldl (step owner query) (start rows)) := by
  have mapped : Along (CacheAside.step matchesPattern query)
      (CacheAside.Careful matchesPattern query) (start rows)
      (moves.map (MailMove.move owner)) :=
    Along.map (MailMove.move owner)
      (along.mono fun _ _ careful => careful_move_iff.mpr careful)
  have same : moves.foldl (step owner query) (start rows) =
      (moves.map (MailMove.move owner)).foldl (CacheAside.step matchesPattern query)
        (start rows) := by
    rw [List.foldl_map]
    rfl
  rw [same]
  intro answer given
  exact fresh_of_careful mapped given

/-- What the cached reads of the runs below are: a count, or a page of a listing and the
number of all its messages. -/
inductive Reading where
  | count (unread : Nat)
  | page (ids : List Nat) (totalCount : Nat)
  | other
  deriving DecidableEq

/-- `list_drafts_messages_paginated`, for rows with the last changed one in front. -/
def listDraftsMessages (rows : List MessageRow) (mailboxId page perPage : Nat) : Reading :=
  let drafts := rows.filter fun row =>
    row.mailboxId == mailboxId && row.status == "draft" && row.deleted == false &&
      row.folderId.isNone
  .page (((drafts.drop ((max page 1 - 1) * perPage)).take perPage).map MessageRow.id)
    drafts.length

def readRows (rows : List MessageRow) : Key → Reading
  | .mailboxCounts mailboxId name =>
      if name = "unread" then .count (unreadCount rows mailboxId none) else .other
  | .messages mailboxId category page perPage =>
      if category = .drafts then listDraftsMessages rows mailboxId page perPage else .other
  | _ => .other

def mailboxOwner (mailboxId : Nat) : Option Nat :=
  if mailboxId = 1 then some 5 else none

def draftRow : MessageRow :=
  { receivedRow 1 with status := "draft", toAddress := none }

def draftsKey : Key := .messages 1 .drafts 1 20

def deletedDraftMoves : List (MailMove (List MessageRow)) :=
  [.dispatch draftsKey, .query draftsKey, .commit draftsKey,
    .operate .deleteDraft 1 (fun rows => rows.filter fun row => row.id != 1),
    .hit draftsKey]

/-- The deleted draft is still listed. -/
theorem not_servesNoPast_deleteDraft :
    ¬ ServesNoPast (deletedDraftMoves.foldl (step mailboxOwner readRows) (start [draftRow])) := by
  intro fresh
  have outdated : ∃ answer ∈ (deletedDraftMoves.foldl (step mailboxOwner readRows)
      (start [draftRow])).answers, missed (deletedDraftMoves.foldl (step mailboxOwner readRows)
        (start [draftRow])).writes answer = true := List.any_eq_true.mp (by decide)
  obtain ⟨answer, given, misses⟩ := outdated
  rw [(fresh answer given).not_missed] at misses
  cases misses

def unreadKey : Key := .mailboxCounts 1 "unread"

def readAll (rows : List MessageRow) : List MessageRow :=
  rows.map fun row => { row with read := some true }

-- The count from before the change is stored after the invalidation.
def recountedMoves : List (MailMove (List MessageRow)) :=
  [.dispatch unreadKey, .query unreadKey, .commit unreadKey, .operate .markAsRead 1 readAll] ++
    List.replicate 14 (.work 0) ++ [.dispatch unreadKey, .query unreadKey, .commit unreadKey]

theorem servesNoPast_recounted :
    ServesNoPast (recountedMoves.foldl (step mailboxOwner readRows) (start [receivedRow 1])) := by
  have checked : checkAlong (step mailboxOwner readRows)
      (fun state move => checkCareful matchesPattern readRows state (move.move mailboxOwner))
      (start [receivedRow 1]) recountedMoves = true := by decide
  have along := (along_of_check checked).mono fun _ _ passes =>
    careful_move_iff.mp (careful_of_check passes)
  exact servesNoPast_of_careful along

end Elektrine.Email.MailCache
