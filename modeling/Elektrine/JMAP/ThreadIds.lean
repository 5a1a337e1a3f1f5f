import Elektrine.Data.Text
import Elektrine.Email.Messages
import Elektrine.JMAP.Membership
import Elektrine.Library.SerialRows

/-!
# Thread ids

An email without a thread row shows its own id as thread id.  The messages of a thread id
are looked up among both kinds, by `Thread/get` only where no thread row has the id and by
the filter `inThread` never.
-/

namespace Elektrine.JMAP

open Elektrine.Email Elektrine.Library

abbrev MessageTable :=
  SerialRows MessageRow MessageRow.id

/-- `message.thread_id || message.id`. -/
def shownThreadId (row : MessageRow) : String :=
  (row.threadId.getD row.id).repr

/-- `parse_entity_id` of a text. -/
def parseEntityId (id : String) : Option Int :=
  integerParseExact id

/-- `get_thread_message_ids` of a mailbox, in the order of the table. -/
def getThreadMessageIds (table : MessageTable) (threadId : Int) (mailboxId : Nat) : List Nat :=
  let threadIds := (table.rows.filter fun row =>
    row.mailboxId == mailboxId && row.threadId.map Int.ofNat == some threadId).map
      MessageRow.id
  if threadIds = [] then
    (table.rows.filter fun row =>
      row.mailboxId == mailboxId && Int.ofNat row.id == threadId && row.threadId.isNone).map
        MessageRow.id
  else threadIds

/-- The emails of a thread in `Thread/get`; the id is not found where there are none. -/
def threadEmailIds (table : MessageTable) (mailboxId : Nat) (id : String) : List Nat :=
  match parseEntityId id with
  | some threadId => getThreadMessageIds table threadId mailboxId
  | none => []

def inThreadFilter (threadId : String) : Except FilterError (MessageRow → Bool) :=
  match parseEntityId threadId with
  | none => .error (.unsupportedFilter "inThread")
  | some id => .ok fun row => row.threadId.map Int.ofNat == some id

/-- `query_emails` with the filter `inThread`, before sorting and paging. -/
def queryEmailsInThread (table : MessageTable) (mailboxId : Nat) (threadId : String) :
    Except FilterError (List Nat) :=
  (inThreadFilter threadId).map fun filter =>
    (table.rows.filter fun row => row.mailboxId == mailboxId && filter row).map MessageRow.id

/-- An email of the mailbox with this thread id. -/
def ShownIn (table : MessageTable) (mailboxId : Nat) (threadId : String) (id : Nat) : Prop :=
  ∃ row ∈ table.rows, row.mailboxId = mailboxId ∧ row.id = id ∧ shownThreadId row = threadId

/-- The emails that show a thread id are those that it is resolved to, and emails of
different threads show different ones. -/
structure ThreadsAgree (table : MessageTable) (mailboxId : Nat) : Prop where
  fetched : ∀ thread id : Nat, ShownIn table mailboxId thread.repr id ↔
    id ∈ threadEmailIds table mailboxId thread.repr
  filtered : ∀ thread id : Nat, ShownIn table mailboxId thread.repr id ↔
    ∃ ids, queryEmailsInThread table mailboxId thread.repr = .ok ids ∧ id ∈ ids
  apart : ∀ row ∈ table.rows, ∀ other ∈ table.rows, row.mailboxId = mailboxId →
    other.mailboxId = mailboxId → row.id ≠ other.id →
    (¬ ∃ thread, row.threadId = some thread ∧ other.threadId = some thread) →
      shownThreadId row ≠ shownThreadId other

/-- Every message of the mailbox has a thread row. -/
def Threaded (table : MessageTable) (mailboxId : Nat) : Prop :=
  ∀ row ∈ table.rows, row.mailboxId = mailboxId → row.threadId ≠ none

section

variable {table : MessageTable} {mailboxId thread id : Nat} {row : MessageRow}

theorem shownThreadId_eq_iff :
    shownThreadId row = thread.repr ↔
      row.threadId = some thread ∨ row.threadId = none ∧ row.id = thread := by
  rw [shownThreadId]
  constructor
  · intro same
    have value := repr_inj same
    cases found : row.threadId with
    | some other =>
        rw [found] at value
        exact Or.inl (congrArg some value)
    | none =>
        rw [found] at value
        exact Or.inr ⟨rfl, value⟩
  · intro either
    rcases either with found | ⟨missing, same⟩
    · rw [found, Option.getD_some]
    · rw [missing, Option.getD_none, same]

/-- The messages with the thread row. -/
def InThread (table : MessageTable) (mailboxId thread id : Nat) : Prop :=
  ∃ row ∈ table.rows, row.mailboxId = mailboxId ∧ row.id = id ∧ row.threadId = some thread

theorem mem_queryEmailsInThread_iff :
    (∃ ids, queryEmailsInThread table mailboxId thread.repr = .ok ids ∧ id ∈ ids) ↔
      InThread table mailboxId thread id := by
  rw [queryEmailsInThread, inThreadFilter, parseEntityId, integerParseExact_repr]
  constructor
  · intro found
    obtain ⟨ids, same, member⟩ := found
    injection same with same
    rw [← same] at member
    obtain ⟨row, kept, row_id⟩ := List.mem_map.mp member
    obtain ⟨inside, selected⟩ := List.mem_filter.mp kept
    rw [Bool.and_eq_true, beq_iff_eq, beq_iff_eq] at selected
    obtain ⟨other, found, value⟩ := Option.map_eq_some_iff.mp selected.2
    rw [Int.ofNat.inj value] at found
    exact ⟨row, inside, selected.1, row_id, found⟩
  · intro inThread
    obtain ⟨row, inside, mailbox, row_id, found⟩ := inThread
    refine ⟨_, rfl, List.mem_map.mpr ⟨row, List.mem_filter.mpr ⟨inside, ?_⟩, row_id⟩⟩
    simp [mailbox, found]

theorem shownIn_iff (threaded : Threaded table mailboxId) :
    ShownIn table mailboxId thread.repr id ↔ InThread table mailboxId thread id := by
  constructor
  · intro shown
    obtain ⟨row, inside, mailbox, row_id, same⟩ := shown
    rcases shownThreadId_eq_iff.mp same with found | ⟨missing, -⟩
    · exact ⟨row, inside, mailbox, row_id, found⟩
    · exact absurd missing (threaded row inside mailbox)
  · intro inThread
    obtain ⟨row, inside, mailbox, row_id, found⟩ := inThread
    exact ⟨row, inside, mailbox, row_id, shownThreadId_eq_iff.mpr (Or.inl found)⟩

theorem mem_threadEmailIds_iff (threaded : Threaded table mailboxId) :
    id ∈ threadEmailIds table mailboxId thread.repr ↔ InThread table mailboxId thread id := by
  have singletons : (table.rows.filter fun row =>
      row.mailboxId == mailboxId && Int.ofNat row.id == (thread : Int) &&
        row.threadId.isNone) = [] := by
    apply List.filter_eq_nil_iff.mpr
    intro row inside selected
    simp only [Bool.and_eq_true, beq_iff_eq, Option.isNone_iff_eq_none] at selected
    exact threaded row inside selected.1.1 selected.2
  have selected : ∀ row : MessageRow,
      (row.mailboxId == mailboxId && row.threadId.map Int.ofNat == some (thread : Int)) = true ↔
        row.mailboxId = mailboxId ∧ row.threadId = some thread := by
    intro row
    cases found : row.threadId with
    | none => simp
    | some other => simp [Int.ofNat_inj]
  rw [threadEmailIds, parseEntityId, integerParseExact_repr]
  dsimp only
  rw [getThreadMessageIds]
  split
  · rename_i nothing
    rw [singletons]
    constructor
    · intro member
      cases member
    · intro inThread
      obtain ⟨row, inside, mailbox, row_id, found⟩ := inThread
      have none_found := List.filter_eq_nil_iff.mp (List.map_eq_nil_iff.mp nothing) row inside
      exact absurd ((selected row).mpr ⟨mailbox, found⟩) none_found
  · constructor
    · intro member
      obtain ⟨row, kept, row_id⟩ := List.mem_map.mp member
      obtain ⟨inside, chosen⟩ := List.mem_filter.mp kept
      have both := (selected row).mp chosen
      exact ⟨row, inside, both.1, row_id, both.2⟩
    · intro inThread
      obtain ⟨row, inside, mailbox, row_id, found⟩ := inThread
      exact List.mem_map.mpr
        ⟨row, List.mem_filter.mpr ⟨inside, (selected row).mpr ⟨mailbox, found⟩⟩, row_id⟩

end

/-- Thread ids identify the threads of a mailbox exactly when all its messages have thread
rows. -/
theorem threadsAgree_iff (table : MessageTable) (mailboxId : Nat) :
    ThreadsAgree table mailboxId ↔ Threaded table mailboxId := by
  constructor
  · intro agree row inside mailbox missing
    have shown : ShownIn table mailboxId row.id.repr row.id :=
      ⟨row, inside, mailbox, rfl, shownThreadId_eq_iff.mpr (Or.inr ⟨missing, rfl⟩)⟩
    have selected := (agree.filtered row.id row.id).mp shown
    obtain ⟨other, inside', -, same, found⟩ := mem_queryEmailsInThread_iff.mp selected
    rw [SerialRows.eq_of_key_eq inside' inside same, missing] at found
    cases found
  · intro threaded
    refine ⟨fun thread id => (shownIn_iff threaded).trans (mem_threadEmailIds_iff threaded).symm,
      fun thread id => (shownIn_iff threaded).trans mem_queryEmailsInThread_iff.symm, ?_⟩
    intro row inside other inside' mailbox mailbox' _ unshared same
    obtain ⟨thread, found⟩ := Option.ne_none_iff_exists'.mp (threaded row inside mailbox)
    obtain ⟨thread', found'⟩ := Option.ne_none_iff_exists'.mp (threaded other inside' mailbox')
    have equal : row.threadId = some thread' := by
      have value := same
      rw [shownThreadId, shownThreadId, found, found', Option.getD_some, Option.getD_some]
        at value
      rw [found, repr_inj value]
    exact unshared ⟨thread', equal, found'⟩

def rootOnly : MessageTable :=
  (SerialRows.empty MessageRow MessageRow.id).append receivedRow fun _ => rfl

/-- The message shows its own id as thread id, and the filter does not find it there. -/
theorem not_threadsAgree_root : ¬ ThreadsAgree rootOnly 1 := by
  intro agree
  have shown : ShownIn rootOnly 1 (1 : Nat).repr 1 :=
    ⟨receivedRow 1, List.mem_singleton.mpr rfl, rfl, rfl, rfl⟩
  have selected := (agree.filtered 1 1).mp shown
  obtain ⟨row, inside, -, -, found⟩ := mem_queryEmailsInThread_iff.mp selected
  rw [List.mem_singleton.mp inside] at found
  cases found

end Elektrine.JMAP
