import Elektrine.JMAP.EmailChanges
import Mathlib.Data.List.Sort

/-!
# Threads of new messages

`assign_thread` looks for a parent by the reply header and then by the references.  A
parent that is in no thread yet is put into the thread of its subject, together with the
new message.
-/

namespace Elektrine.JMAP

open Elektrine.Email Elektrine.Library

structure ThreadRow where
  id : Nat
  mailboxId : Nat
  subjectHash : String
  deriving DecidableEq

/-- The tables that `assign_thread` reads and writes. -/
structure ThreadTables (Cipher : Type) where
  messages : SerialRows (MessageRecord Cipher) fun message => message.id
  threads : SerialRows ThreadRow ThreadRow.id

structure ThreadHeaders where
  inReplyTo : Option String
  references : List String
  subject : String

inductive Parent where
  | threaded (threadId : Nat)
  | loose (parentId : Nat) (subject : String)

variable {Cipher : Type}

/-- `parse_message_id`: an angle bracket at each end is taken off. -/
def parseMessageId (messageId : String) : Option String :=
  let characters := (trim messageId).toList
  let opened := if characters.head? = some '<' then characters.tail else characters
  let bare := if opened.getLast? = some '>' then opened.dropLast else opened
  if bare = [] then none else some (String.ofList bare)

def messageIdCandidates (messageId : String) : List String :=
  match parseMessageId messageId with
  | some id => [id, "<" ++ id ++ ">"]
  | none => []

def parseReferenceIds (references : List String) : List String :=
  (references.filterMap parseMessageId).eraseDups

def MessageRecord.parent (message : MessageRecord Cipher) : Parent :=
  match message.threadId with
  | some threadId => .threaded threadId
  | none => .loose message.id (message.subject.getD "")

def parentMessages (messages : List (MessageRecord Cipher)) (mailboxId : Nat)
    (candidates : List String) : List (MessageRecord Cipher) :=
  messages.filter fun message =>
    message.mailboxId == mailboxId && candidates.contains message.messageId

/-- The lookup of `find_thread_by_in_reply_to`; more than one row makes it raise. -/
def findParentByInReplyTo (messages : List (MessageRecord Cipher)) (mailboxId : Nat) :
    Option String → Except Unit (Option Parent)
  | none | some "" => .ok none
  | some inReplyTo =>
      match parentMessages messages mailboxId
          (((parseMessageId inReplyTo).map messageIdCandidates).getD []) with
      | [] => .ok none
      | [message] => .ok (some message.parent)
      | _ => .error ()

/-- The lookup of `find_thread_by_references`: the newest message with a thread comes
first, then the newest one. -/
def findParentByReferences (messages : List (MessageRecord Cipher)) (mailboxId : Nat)
    (references : List String) : Option Parent :=
  let candidates := ((parseReferenceIds references).flatMap messageIdCandidates).eraseDups
  let found := (parentMessages messages mailboxId candidates).insertionSort
    fun first second => first.insertedAt ≥ second.insertedAt
  match found.find? fun message => message.threadId.isSome with
  | some message => some message.parent
  | none => found.head?.map MessageRecord.parent

/-- The parent that `assign_thread` finds. -/
def findParent (messages : List (MessageRecord Cipher)) (mailboxId : Nat)
    (headers : ThreadHeaders) : Except Unit (Option Parent) :=
  match findParentByInReplyTo messages mailboxId (headers.inReplyTo.bind parseMessageId) with
  | .error () => .error ()
  | .ok (some parent) => .ok (some parent)
  | .ok none =>
      .ok (findParentByReferences messages mailboxId (parseReferenceIds headers.references))

section

variable (subjectHash : String → String)

/-- `find_or_create_thread_by_subject`, with `normalize_subject` as a parameter. -/
def findOrCreateThreadBySubject (threads : SerialRows ThreadRow ThreadRow.id)
    (subject : String) (mailboxId : Nat) : Nat × SerialRows ThreadRow ThreadRow.id :=
  match threads.rows.find? fun thread =>
      thread.mailboxId == mailboxId && thread.subjectHash == subjectHash subject with
  | some thread => (thread.id, threads)
  | none =>
      (threads.next, threads.append (fun id => ⟨id, mailboxId, subjectHash subject⟩) fun _ => rfl)

def joinThread (threadId : Nat) (message : MessageRecord Cipher) : MessageRecord Cipher :=
  if message.threadId = none then { message with threadId := some threadId } else message

theorem joinThread_id (threadId : Nat) (message : MessageRecord Cipher) :
    (joinThread threadId message).id = message.id := by
  unfold joinThread
  split
  · rfl
  · rfl

def attachParentToThread (tables : ThreadTables Cipher) (parentId threadId : Nat) :
    ThreadTables Cipher :=
  { tables with
    messages := tables.messages.modify parentId (joinThread threadId) (joinThread_id threadId) }

def threadOfParent (tables : ThreadTables Cipher) (mailboxId : Nat) :
    Parent → Nat × ThreadTables Cipher
  | .threaded threadId => (threadId, tables)
  | .loose parentId subject =>
      let found := findOrCreateThreadBySubject subjectHash tables.threads subject mailboxId
      (found.1, attachParentToThread { tables with threads := found.2 } parentId found.1)

def assignThread (tables : ThreadTables Cipher) (mailboxId : Nat) (headers : ThreadHeaders) :
    Except Unit (Option Nat × ThreadTables Cipher) :=
  match findParent tables.messages.rows mailboxId headers with
  | .error () => .error ()
  | .ok (some parent) =>
      let found := threadOfParent subjectHash tables mailboxId parent
      .ok (some found.1, found.2)
  | .ok none =>
      if (headers.inReplyTo.bind parseMessageId).isSome ∨
          parseReferenceIds headers.references ≠ [] then
        let found :=
          findOrCreateThreadBySubject subjectHash tables.threads headers.subject mailboxId
        .ok (some found.1, { tables with threads := found.2 })
      else .ok (none, tables)

end

theorem mem_parentMessages {messages : List (MessageRecord Cipher)} {mailboxId : Nat}
    {candidates : List String} {message : MessageRecord Cipher}
    (found : message ∈ parentMessages messages mailboxId candidates) : message ∈ messages :=
  (List.mem_filter.mp found).1

theorem MessageRecord.parent_eq_loose {message : MessageRecord Cipher} {parentId : Nat}
    {subject : String} (loose : message.parent = .loose parentId subject) :
    message.id = parentId ∧ message.threadId = none := by
  unfold MessageRecord.parent at loose
  split at loose
  · cases loose
  · rename_i outside
    injection loose with ids
    exact ⟨ids, outside⟩

theorem mem_of_findParent {messages : List (MessageRecord Cipher)} {mailboxId : Nat}
    {headers : ThreadHeaders} {parentId : Nat} {subject : String}
    (found : findParent messages mailboxId headers = .ok (some (.loose parentId subject))) :
    ∃ message ∈ messages, message.id = parentId ∧ message.threadId = none := by
  unfold findParent at found
  split at found
  · cases found
  · rename_i parent replied
    injection found with found
    injection found with found
    subst found
    unfold findParentByInReplyTo at replied
    split at replied
    · cases replied
    · cases replied
    · split at replied
      · cases replied
      · rename_i message only
        injection replied with same
        injection same with same
        have member : message ∈ messages := by
          apply mem_parentMessages
          rw [only]
          exact List.mem_singleton_self message
        exact ⟨message, member, MessageRecord.parent_eq_loose same⟩
      · cases replied
  · injection found with referenced
    unfold findParentByReferences at referenced
    dsimp only at referenced
    split at referenced
    · rename_i message threaded
      injection referenced with same
      have outside := (MessageRecord.parent_eq_loose same).2
      have inside := List.find?_some threaded
      rw [outside] at inside
      cases inside
    · obtain ⟨message, first, same⟩ := Option.map_eq_some_iff.mp referenced
      have member := (List.mem_insertionSort _).mp (List.mem_of_head? first)
      exact ⟨message, mem_parentMessages member, MessageRecord.parent_eq_loose same⟩

end Elektrine.JMAP
