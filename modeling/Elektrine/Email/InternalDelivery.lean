import Elektrine.Email.ExternalDelivery
import Elektrine.Library.SerialRows
import Elektrine.Library.Runs

/-!
# Internal delivery records

One row of the internal delivery table with the functions that mark it, and the creation
of the mailbox message from its parameters.  A message whose identification is already
in the mailbox is not stored again: the unique index refuses it, and the one that is
there is looked up instead.
-/

namespace Elektrine.Email.InternalDelivery

open Elektrine.Library

inductive Status where
  | pending
  | delivering
  | delivered
  | failed
  deriving DecidableEq, Repr

structure Params where
  messageId : String
  mailboxId : Nat
  deriving DecidableEq, Repr

structure Delivery where
  status : Status
  attempts : Nat
  error : Option String
  deliveredMessageId : Option Nat
  params : Params
  deriving DecidableEq, Repr

/-- The row after an update that turns the loaded copy into `changed`. -/
def Delivery.update (row copy changed : Delivery) : Delivery where
  status := written row.status copy.status changed.status
  attempts := written row.attempts copy.attempts changed.attempts
  error := written row.error copy.error changed.error
  deliveredMessageId :=
    written row.deliveredMessageId copy.deliveredMessageId changed.deliveredMessageId
  params := row.params

section
variable (row copy changed : Delivery)

@[simp] theorem params_update : (row.update copy changed).params = row.params := rfl

end

def markDelivering (delivery : Delivery) : Delivery :=
  { delivery with
    status := .delivering, attempts := delivery.attempts + 1, error := none }

def markDelivered (delivery : Delivery) (messageId : Nat) : Delivery :=
  { delivery with
    status := .delivered, deliveredMessageId := some messageId, error := none }

def markFailed (delivery : Delivery) (reason : String) : Delivery :=
  { delivery with status := .failed, error := ExternalDelivery.errorText reason }

/-- The update of `requeue`, which refuses a delivered copy before. -/
def requeue (delivery : Delivery) : Delivery :=
  { delivery with status := .pending, error := none }

/-- `String.replace(text, ~r/^<|>$/, "")`. -/
def unbracketed (characters : List Char) : List Char :=
  let inner := if characters.head? = some '<' then characters.tail else characters
  if inner.getLast? = some '>' then inner.dropLast else inner

def normalizeMessageId (messageId : String) : Option String :=
  match unbracketed (trim messageId).toList with
  | [] => none
  | normalized => some (String.ofList normalized)

example : normalizeMessageId " <one@a.example>" = some "one@a.example" := by decide

def messageIdLookupCandidates (messageId : String) : List String :=
  match normalizeMessageId messageId with
  | none => []
  | some normalized => [normalized, "<" ++ normalized ++ ">"]

/-- The identification that `normalize_threading_fields` leaves in the attributes. -/
def Params.storedMessageId (params : Params) : String :=
  match normalizeMessageId params.messageId with
  | none => params.messageId
  | some normalized => if trim normalized = "" then params.messageId else normalized

structure MailboxMessage where
  id : Nat
  messageId : String
  mailboxId : Nat
  deriving DecidableEq, Repr

def MailboxMessage.Named (message : MailboxMessage) (messageId : String)
    (mailboxId : Nat) : Prop :=
  message.messageId = messageId ∧ message.mailboxId = mailboxId

instance (message : MailboxMessage) (messageId : String) (mailboxId : Nat) :
    Decidable (message.Named messageId mailboxId) :=
  inferInstanceAs (Decidable (_ ∧ _))

structure MailboxMessages where
  table : SerialRows MailboxMessage MailboxMessage.id
  unique : ∀ messageId mailboxId, ∀ first ∈ table.rows, ∀ second ∈ table.rows,
    first.Named messageId mailboxId → second.Named messageId mailboxId → first = second

namespace MailboxMessages

def taken (messages : MailboxMessages) (messageId : String) (mailboxId : Nat) : Bool :=
  messages.table.rows.any fun message => message.Named messageId mailboxId

theorem taken_iff {messages : MailboxMessages} {messageId : String} {mailboxId : Nat} :
    messages.taken messageId mailboxId ↔
      ∃ message ∈ messages.table.rows, message.Named messageId mailboxId := by
  rw [taken, List.any_eq_true]
  simp only [decide_eq_true_eq]

theorem unique_append {messages : MailboxMessages} {messageId : String} {mailboxId : Nat}
    (free : ¬ messages.taken messageId mailboxId) (other : String) (mailbox : Nat) :
    ∀ first ∈ (messages.table.append (MailboxMessage.mk · messageId mailboxId)
        fun _ => rfl).rows,
      ∀ second ∈ (messages.table.append (MailboxMessage.mk · messageId mailboxId)
          fun _ => rfl).rows,
        first.Named other mailbox → second.Named other mailbox → first = second := by
  have apart : ∀ message ∈ messages.table.rows, message.Named other mailbox →
      ¬ (MailboxMessage.mk messages.table.next messageId mailboxId).Named other mailbox := by
    intro message member named new
    apply free
    apply taken_iff.mpr
    exact ⟨message, member, named.1.trans new.1.symm, named.2.trans new.2.symm⟩
  intro first member second member' named named'
  rcases SerialRows.mem_append.mp member with old | new
  · rcases SerialRows.mem_append.mp member' with old' | new'
    · exact messages.unique other mailbox first old second old' named named'
    · rw [new'] at named'
      exact absurd named' (apart first old named)
  · rcases SerialRows.mem_append.mp member' with old' | new'
    · rw [new] at named
      exact absurd named (apart second old' named')
    · rw [new, new']

/-- `Repo.insert`, which the unique index may refuse. -/
def insert (messages : MailboxMessages) (messageId : String) (mailboxId : Nat) :
    Option (MailboxMessages × MailboxMessage) :=
  if free : ¬ messages.taken messageId mailboxId then
    some
      ({ table := messages.table.append (MailboxMessage.mk · messageId mailboxId)
          fun _ => rfl
         unique := unique_append free },
        ⟨messages.table.next, messageId, mailboxId⟩)
  else none

/-- The rows that `get_message_by_id` asks for. -/
def getMessageById (messages : MailboxMessages) (messageId : String) (mailboxId : Nat) :
    List MailboxMessage :=
  messages.table.rows.filter fun message =>
    message.mailboxId = mailboxId &&
      (messageIdLookupCandidates messageId).contains message.messageId

end MailboxMessages

/-- How `create_message` ends. -/
inductive Creation where
  | created (message : MailboxMessage)
  | existing (message : MailboxMessage)
  | refused (reason : String)
  /-- `Repo.one` has found more than one message. -/
  | raised

/-- `create_message`.  The refusal is what comes before the insert: the storage limit,
the encryption, or another field of the changeset; `inspected` is the text of a refused
changeset. -/
def createMessage (params : Params) (refusal : Option String) (inspected : String)
    (messages : MailboxMessages) : Creation × MailboxMessages :=
  let messageId := params.storedMessageId
  match refusal with
  | some reason => (.refused reason, messages)
  | none =>
      if trim messageId = "" then (.refused inspected, messages)
      else
        match messages.insert messageId params.mailboxId with
        | some (messages, message) => (.created message, messages)
        | none =>
            match messages.getMessageById messageId params.mailboxId with
            | [] => (.refused inspected, messages)
            | [message] => (.existing message, messages)
            | _ => (.raised, messages)

end Elektrine.Email.InternalDelivery

/-!
## Jobs, attempts and requeues on one internal delivery

A job of the queue is performed by a process that loads the row and works on its copy;
so does the sender, who delivers without a job.  An attempt that fails or dies leaves its
job to the next attempt while there is one.  A requeue loads the row, marks it, and then
asks for a new job, which the queue does not take while it knows a recent one.
-/

namespace Elektrine.Email.InternalDelivery

open Elektrine.Library

def maxAttempts : Nat := 5

/-- `available` stands for scheduled and retryable jobs, too. -/
inductive JobState where
  | available
  | executing
  | completed
  | discarded
  deriving DecidableEq, Repr

structure Job where
  attempt : Nat
  state : JobState
  deriving DecidableEq, Repr

def Job.start (job : Job) : Job := ⟨job.attempt + 1, .executing⟩

def Job.complete (job : Job) : Job := { job with state := .completed }

def Job.fail (job : Job) : Job :=
  { job with state := if job.attempt < maxAttempts then .available else .discarded }

/-- The row, its mailbox messages and its jobs; `created` counts the messages that were
created for the row. -/
structure Internal where
  row : Delivery
  messages : MailboxMessages
  jobs : List Job
  created : Nat

inductive Process where
  | idle
  /-- The row is loaded, and `deliver_now` starts. -/
  | attempt (job : Option Nat) (delivery : Delivery)
  /-- The copy that is marked as delivering is `markDelivering delivery`. -/
  | marked (job : Option Nat) (delivery : Delivery)
  | answered (job : Option Nat) (delivery : Delivery) (answer : Except String Nat)
  | requeueing (delivery : Delivery)
  | requeued

def Process.job : Process → Option Nat
  | .attempt job _ | .marked job _ | .answered job _ _ => job
  | _ => none

def Process.isIdle : Process → Bool
  | .idle => true
  | _ => false

inductive Action where
  | perform (job : Nat)
  | deliverNow
  | markDelivering
  | create (refusal : Option String) (inspected : String)
  | finish
  | crash
  | findRequeue
  | requeue
  | enqueue (recent : Nat → Bool)

def Internal.changeJob (internal : Internal) (job : Option Nat) (change : Job → Job) :
    Internal :=
  match job with
  | none => internal
  | some job => { internal with jobs := internal.jobs.modify job change }

def Internal.write (internal : Internal) (copy changed : Delivery) : Internal :=
  { internal with row := internal.row.update copy changed }

def conflicts (jobs : List Job) (recent : Nat → Bool) : Bool :=
  jobs.zipIdx.any fun entry => recent entry.2 && entry.1.state != .discarded

/-- `create_message` in `deliver_now`. -/
def Internal.create (internal : Internal) (job : Option Nat) (delivery : Delivery)
    (refusal : Option String) (inspected : String) : Internal × Process :=
  let (creation, messages) :=
    createMessage delivery.params refusal inspected internal.messages
  match creation with
  | .created message =>
      ({ internal with messages, created := internal.created + 1 },
        .answered job delivery (.ok message.id))
  | .existing message => (internal, .answered job delivery (.ok message.id))
  | .refused reason => (internal, .answered job delivery (.error reason))
  | .raised => (internal.changeJob job Job.fail, .idle)

/-- `perform` on a job that the queue hands out. -/
def Internal.perform (internal : Internal) (job : Nat) : Option (Internal × Process) :=
  match (internal.jobs[job]?).map Job.state with
  | some .available =>
      if internal.row.status = .delivered then
        some (internal.changeJob (some job) (Job.complete ∘ Job.start), .idle)
      else
        some (internal.changeJob (some job) Job.start, .attempt (some job) internal.row)
  | _ => none

def react (internal : Internal) (action : Action) (process : Process) :
    Option (Internal × Process) :=
  match action, process with
  | .perform job, .idle => internal.perform job
  | .deliverNow, .idle =>
      if internal.row.status = .delivered then none
      else some (internal, .attempt none internal.row)
  | .markDelivering, .attempt job delivery =>
      some (internal.write delivery (markDelivering delivery), .marked job delivery)
  | .create refusal inspected, .marked job delivery =>
      some (internal.create job delivery refusal inspected)
  | .finish, .answered job delivery (.ok messageId) =>
      some
        ((internal.write (markDelivering delivery)
          (markDelivered (markDelivering delivery) messageId)).changeJob job Job.complete,
          .idle)
  -- `mark_failed` goes through the copy that was loaded first.
  | .finish, .answered job delivery (.error reason) =>
      some
        ((internal.write delivery (markFailed delivery reason)).changeJob job Job.fail,
          .idle)
  | .crash, process => some (internal.changeJob process.job Job.fail, .idle)
  | .findRequeue, .idle =>
      if internal.row.status = .delivered then none
      else some (internal, .requeueing internal.row)
  | .requeue, .requeueing delivery =>
      some (internal.write delivery (InternalDelivery.requeue delivery), .requeued)
  | .enqueue recent, .requeued =>
      if conflicts internal.jobs recent then some (internal, .idle)
      else some ({ internal with jobs := internal.jobs ++ [⟨0, .available⟩] }, .idle)
  | _, _ => none

abbrev System := Interleaving Internal Process

def step (system : System) (label : Nat × Action) : System :=
  system.act react label

/-- A row that `create_or_get` has inserted, before any work on it. -/
def inserted (row : Delivery) (messages : MailboxMessages) : System where
  shared := ⟨row, messages, [], 0⟩
  process := fun _ => .idle

end Elektrine.Email.InternalDelivery
