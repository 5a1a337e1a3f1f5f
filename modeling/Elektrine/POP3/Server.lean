import Elektrine.Email.Messages
import Elektrine.IMAP.Helpers
import Elektrine.Library.SerialRows
import Elektrine.SMTP.Commands
import Mathlib.Data.List.Sort

/-!
# The POP3 session

One connection of the POP3 server and the message table it works on.  What a command
meets outside of the session (the account tables, the limits, the rendering of a message
with a freshly drawn boundary) is handed in with the command; other sessions change the
table between any two steps.
-/

namespace Elektrine.POP3

open Elektrine.Email Elektrine.Library
open Elektrine.IMAP (splitAll)
open Elektrine.SMTP (splitCommand)

/-- A row with what else `list_messages_for_pop3` reads of it. -/
structure StoredMessage where
  row : MessageRow
  insertedAt : Nat
  /-- The size of the decrypted message, as `estimate_message_size` computes it. -/
  size : Nat
  deriving DecidableEq

def StoredMessage.id (message : StoredMessage) : Nat := message.row.id

abbrev Table := SerialRows StoredMessage StoredMessage.id

def StoredMessage.withId (message : StoredMessage) (id : Nat) : StoredMessage :=
  { message with row := { message.row with id } }

theorem StoredMessage.withId_id (message : StoredMessage) (id : Nat) :
    (message.withId id).id = id := rfl

structure Message where
  id : Nat
  size : Nat
  deriving DecidableEq, Repr

/-- The `where` clauses of `list_messages_for_pop3`. -/
def StoredMessage.offered (mailboxId : Nat) (message : StoredMessage) : Bool :=
  message.row.mailboxId == mailboxId &&
    message.row.spam == some false && message.row.archived == some false &&
    message.row.status != "sent" && message.row.replyLaterAt.isNone

def listMessagesForPop3 (table : Table) (mailboxId : Nat) : List Message :=
  ((table.rows.filter (·.offered mailboxId)).insertionSort
    (·.insertedAt ≤ ·.insertedAt)).map fun message => ⟨message.id, message.size⟩

inductive Change where
  | added (message : StoredMessage)
  | changed (id : Nat) (message : StoredMessage)
  | deleted (id : Nat)
  deriving DecidableEq

def change (table : Table) : Change → Table
  | .added message => table.append message.withId message.withId_id
  | .changed id message =>
      table.modify id (fun row => message.withId row.id) fun row =>
        message.withId_id row.id
  | .deleted id => table.delete id

inductive TransactionState where
  | authorization
  | transaction
  deriving DecidableEq, Repr

/-- The state of a connection; `deletedMessages` are the marked message numbers. -/
structure State where
  authenticated : Bool
  user : Option String
  mailbox : Option Nat
  messages : List Message
  messageSizeCache : List (Nat × Nat)
  deletedMessages : List Nat
  transactionState : TransactionState
  secure : Bool
  tlsAvailable : Bool
  allowInsecureAuth : Bool
  deriving DecidableEq, Repr

def State.greet (secure tlsAvailable allowInsecureAuth : Bool) : State where
  authenticated := false
  user := none
  mailbox := none
  messages := []
  messageSizeCache := []
  deletedMessages := []
  transactionState := .authorization
  secure := secure
  tlsAvailable := tlsAvailable
  allowInsecureAuth := allowInsecureAuth

inductive RateLimit where
  | ok
  | ipRateLimited
  | ipBlocked
  | accountRateLimited
  | accountBlocked
  deriving DecidableEq, Repr

structure Surroundings where
  /-- `authenticated_account_inactive?`. -/
  accountInactive : Bool
  rateLimit : RateLimit
  /-- `authenticate_user`: the mailbox of the user. -/
  authenticate : String → String → Option Nat
  /-- The handshake after `STLS` succeeds. -/
  handshake : Bool
  /-- `format_message_for_pop3`. -/
  content : Message → String
  /-- `format_message_top`. -/
  top : Message → Int → String

inductive Next where
  | going (state : State)
  | quit
  /-- `commit_deleted_messages` is called. -/
  | commit
  deriving DecidableEq, Repr

structure Reaction where
  replies : List String
  next : Next
  deriving DecidableEq, Repr

def State.reply (state : State) (text : String) : Reaction :=
  ⟨[text], .going state⟩

def closing (text : String) : Reaction :=
  ⟨[text], .quit⟩

def starttlsAvailable (state : State) : Bool :=
  !state.secure && state.tlsAvailable

def authAllowed (state : State) : Bool :=
  state.secure || state.allowInsecureAuth

def State.resetAfterStls (state : State) : State :=
  State.greet true state.tlsAvailable state.allowInsecureAuth

def buildSizeCache (messages : List Message) : List (Nat × Nat) :=
  (messages.zipIdx 1).map fun entry => (entry.2, entry.1.size)

def handlePass (table : Table) (around : Surroundings) (user password : String)
    (state : State) : Reaction :=
  if authAllowed state then
    match around.rateLimit with
    | .ok =>
        match around.authenticate user password with
        | some mailbox =>
            let messages := listMessagesForPop3 table mailbox
            ⟨["+OK Logged in"], .going { state with
              authenticated := true
              mailbox := some mailbox
              messages := messages
              messageSizeCache := buildSizeCache messages
              transactionState := .transaction }⟩
        | none => { state with user := none }.reply "-ERR Authentication failed"
    | .ipRateLimited | .accountRateLimited =>
        closing "-ERR Too many failed attempts. Try again later."
    | .ipBlocked =>
        closing "-ERR IP temporarily blocked due to excessive failures"
    | .accountBlocked =>
        closing "-ERR Account temporarily blocked due to excessive failures"
  else
    { state with user := none }.reply "-ERR STLS required before authentication"

def handleStls (around : Surroundings) (state : State) : Reaction :=
  if starttlsAvailable state then
    if around.handshake then state.resetAfterStls.reply "+OK Begin TLS negotiation"
    else closing "+OK Begin TLS negotiation"
  else state.reply "-ERR TLS not available"

def handleAuthCommand (table : Table) (around : Surroundings) (name : String)
    (args : Option String) (state : State) : Reaction :=
  match name, args with
  | "USER", none => state.reply "-ERR Username required"
  | "USER", some username =>
      if authAllowed state then { state with user := some username }.reply "+OK User accepted"
      else state.reply "-ERR STLS required before authentication"
  | "PASS", none => state.reply "-ERR Password required"
  | "PASS", some password =>
      match state.user with
      | some user => handlePass table around user password state
      | none => state.reply "-ERR Send USER first"
  | "QUIT", _ => closing "+OK Goodbye"
  | "CAPA", _ =>
      ⟨["+OK Capability list follows"] ++
          (if authAllowed state || starttlsAvailable state then ["USER"] else []) ++
          (if starttlsAvailable state then ["STLS"] else []) ++ ["UIDL", "TOP", "."],
        .going state⟩
  | "STLS", _ => handleStls around state
  | _, _ => state.reply "-ERR Command not recognized"

/-- `Integer.parse` with the guard of the message commands. -/
def State.messageNumber (state : State) (text : String) : Option Nat :=
  match integerParseExact text with
  | some number =>
      if 0 < number ∧ number ≤ state.messages.length then some number.toNat else none
  | none => none

def State.active (state : State) : List (Message × Nat) :=
  (state.messages.zipIdx 1).filter fun entry => !(state.deletedMessages.contains entry.2)

def State.messageSize (state : State) (number : Nat) : Nat :=
  match state.messageSizeCache.lookup number with
  | some size => size
  | none =>
      match state.messages[number - 1]? with
      | some message => message.size
      | none => 0

/-- `STAT`. -/
def State.stats (state : State) : Nat × Nat :=
  (state.active.length, (state.active.map fun entry => state.messageSize entry.2).foldl (· + ·) 0)

def State.onMessage (state : State) (text : String)
    (found : Nat → Message → Reaction) : Reaction :=
  match state.messageNumber text with
  | some number =>
      if state.deletedMessages.contains number then state.reply "-ERR Message deleted"
      else
        match state.messages[number - 1]? with
        | some message => found number message
        | none => state.reply "-ERR Invalid message number"
  | none => state.reply "-ERR Invalid message number"

def handleRetr (around : Surroundings) (text : String) (state : State) : Reaction :=
  state.onMessage text fun number message =>
    let size := (around.content message).utf8ByteSize
    ⟨["+OK " ++ toString size ++ " octets", around.content message, "."],
      .going { state with messageSizeCache := (number, size) :: state.messageSizeCache }⟩

def handleDele (text : String) (state : State) : Reaction :=
  match state.messageNumber text with
  | some number =>
      if state.deletedMessages.contains number then
        state.reply "-ERR Message already deleted"
      else
        { state with deletedMessages := number :: state.deletedMessages }.reply
          "+OK Message deleted"
  | none => state.reply "-ERR Invalid message number"

/-- `parse_top_args`. -/
def State.topArgs (state : State) (text : String) : Option (Nat × Int) :=
  match splitAll ' ' text with
  | [number, lines] =>
      match state.messageNumber number, integerParseExact lines with
      | some number, some count => some (number, count)
      | _, _ => none
  | _ => none

def handleTop (around : Surroundings) (text : String) (state : State) : Reaction :=
  match state.topArgs text with
  | some (number, count) =>
      if state.deletedMessages.contains number then state.reply "-ERR Message deleted"
      else
        match state.messages[number - 1]? with
        | some message => ⟨["+OK", around.top message count, "."], .going state⟩
        | none => state.reply "-ERR Invalid arguments"
  | none => state.reply "-ERR Invalid arguments"

def handleTransactionCommand (around : Surroundings) (name : String)
    (args : Option String) (state : State) : Reaction :=
  match name, args with
  | "STAT", _ =>
      state.reply ("+OK " ++ toString state.stats.1 ++ " " ++ toString state.stats.2)
  | "LIST", none =>
      ⟨"+OK Message list follows" ::
          state.active.map (fun entry =>
            toString entry.2 ++ " " ++ toString (state.messageSize entry.2)) ++ ["."],
        .going state⟩
  | "LIST", some text =>
      state.onMessage text fun number _ =>
        state.reply ("+OK " ++ toString number ++ " " ++ toString (state.messageSize number))
  | "RETR", none => state.reply "-ERR Message number required"
  | "RETR", some text => handleRetr around text state
  | "DELE", none => state.reply "-ERR Message number required"
  | "DELE", some text => handleDele text state
  | "NOOP", _ => state.reply "+OK"
  | "RSET", _ => { state with deletedMessages := [] }.reply "+OK"
  | "TOP", args => handleTop around (args.getD "") state
  | "UIDL", none =>
      ⟨"+OK Unique-ID listing follows" ::
          state.active.map (fun entry => toString entry.2 ++ " " ++ toString entry.1.id) ++
          ["."],
        .going state⟩
  | "UIDL", some text =>
      state.onMessage text fun number message =>
        state.reply ("+OK " ++ toString number ++ " " ++ toString message.id)
  | "QUIT", _ => ⟨[], .commit⟩
  | "CAPA", _ => ⟨["+OK Capability list follows", "UIDL", "TOP", "."], .going state⟩
  | _, _ => state.reply "-ERR Command not recognized"

def readCommand (line : String) : String × Option String :=
  let command := splitCommand (trim line)
  (upcase command.1, command.2)

def handleCommand (table : Table) (around : Surroundings) (line : String)
    (state : State) : Reaction :=
  let command := readCommand line
  match state.transactionState with
  | .authorization => handleAuthCommand table around command.1 command.2 state
  | .transaction =>
      if around.accountInactive && command.1 != "QUIT" then
        closing "-ERR Account inactive"
      else handleTransactionCommand around command.1 command.2 state

inductive Connection where
  | reading (state : State)
  /-- `commit_deleted_messages`, with the numbers it has still to go through. -/
  | committing (state : State) (remaining : List Nat)
  | deleting (state : State) (number id : Nat) (remaining : List Nat)
  | closed (state : State)
  | committed (state : State)
  deriving DecidableEq, Repr

def Next.connection (state : State) : Next → Connection
  | .going next => .reading next
  | .quit => .closed state
  | .commit => .committing state (state.deletedMessages.insertionSort (· ≤ ·))

structure System where
  table : Table
  connection : Connection
  sent : List String
  removed : List Nat

def System.accept (table : Table) (secure tlsAvailable allowInsecureAuth : Bool) :
    System where
  table := table
  connection := .reading (State.greet secure tlsAvailable allowInsecureAuth)
  sent := ["+OK Elektrine POP3 server ready"]
  removed := []

inductive Event where
  | received (line : String) (around : Surroundings)
  /-- `recv` fails, or the process dies of an exception. -/
  | lost (timeout : Bool)
  /-- The next step of the commit.  `recorded` is whether the transaction of a deletion
  goes through. -/
  | commit (recorded : Bool)
  | elsewhere (done : Change)

def System.onLine (system : System) (state : State) (line : String)
    (around : Surroundings) : System :=
  let reaction := handleCommand system.table around line state
  { system with
    sent := system.sent ++ reaction.replies
    connection := reaction.next.connection state }

def System.finish (system : System) (state : State) (replies : List String) : System :=
  { system with connection := .committed state, sent := system.sent ++ replies }

/-- `Enum.at` and `Repo.get` in `delete_message(id)`. -/
def System.fetch (system : System) (state : State) : List Nat → System
  | [] => system.finish state ["+OK Goodbye"]
  | number :: remaining =>
      match state.messages[number - 1]? with
      | none => system.finish state ["-ERR Failed to update mailbox"]
      | some message =>
          match system.table.find message.id with
          | none => system.finish state ["-ERR Failed to update mailbox"]
          | some _ =>
              { system with connection := .deleting state number message.id remaining }

/-- The transaction of `delete_message(message)`: a row that is gone raises. -/
def System.deleteMessage (system : System) (state : State) (id : Nat)
    (remaining : List Nat) (recorded : Bool) : System :=
  match system.table.find id with
  | none => system.finish state []
  | some _ =>
      if recorded then
        { system with
          table := system.table.delete id
          connection := .committing state remaining
          removed := system.removed ++ [id] }
      else system.finish state ["-ERR Failed to update mailbox"]

def System.step (system : System) : Event → System
  | .received line around =>
      match system.connection with
      | .reading state => system.onLine state line around
      | _ => system
  | .lost timeout =>
      match system.connection with
      | .reading state =>
          { system with
            connection := .closed state
            sent := system.sent ++ if timeout then ["-ERR Connection timeout"] else [] }
      | _ => system
  | .commit recorded =>
      match system.connection with
      | .committing state remaining => system.fetch state remaining
      | .deleting state _ id remaining =>
          system.deleteMessage state id remaining recorded
      | _ => system
  | .elsewhere done => { system with table := change system.table done }

end Elektrine.POP3
