import Elektrine.Data.Bytes
import Elektrine.Library.FirstMatch
import Elektrine.SMTP.Commands
import Elektrine.Library.Runs
import Elektrine.SMTP.Submissions

/-!
# Message data

The receive loop behind `DATA`.  The connection is what `recv` returns one call after
the other; when there is nothing left the peer has closed it.  The loop collects whole
chunks until the terminator shows in what it has collected.
-/

namespace Elektrine.SMTP

open Elektrine.Library

/-- A result of `recv`; a chunk is never empty. -/
inductive Receipt where
  | chunk (first : UInt8) (rest : Bytes)
  | timeout
  deriving DecidableEq, Repr

def Receipt.bytes : Receipt → Bytes
  | .chunk first rest => first :: rest
  | .timeout => []

def sentBytes (receipts : List Receipt) : Bytes :=
  receipts.flatMap Receipt.bytes

/-- `"\r\n.\r\n"`. -/
def terminator : Bytes :=
  [13, 10, 46, 13, 10]

/-- `String.replace`: the matches of the pattern from left to right; `skip` counts the
bytes of a match that are still to be passed over. -/
def replaceFrom (pattern replacement : Bytes) : Nat → Bytes → Bytes
  | _, [] => []
  | skip + 1, _ :: rest => replaceFrom pattern replacement skip rest
  | 0, byte :: rest =>
      if pattern.isPrefixOf (byte :: rest) then
        replacement ++ replaceFrom pattern replacement (pattern.length - 1) rest
      else byte :: replaceFrom pattern replacement 0 rest

/-- `String.replace(data, ~r/\r\n\.\./m, "\r\n.")`. -/
def cleanData (data : Bytes) : Bytes :=
  replaceFrom [13, 10, 46, 46] [13, 10, 46] 0 data

inductive DataError where
  | messageTooLarge
  | closed
  | timeout
  deriving DecidableEq, Repr

/-- `collect_data_binary`: the message or the error, and what is left to be read.  What
follows the terminator in its chunk is dropped. -/
def collectDataBinary (maxDataSize : Nat) (acc : Bytes) (sizeSoFar : Nat) :
    List Receipt → Except DataError Bytes × List Receipt
  | [] => (.error (if sizeSoFar > maxDataSize then .messageTooLarge else .closed), [])
  | receipt :: receipts =>
      if sizeSoFar > maxDataSize then (.error .messageTooLarge, receipt :: receipts)
      else
        match receipt with
        | .timeout => (.error .timeout, receipts)
        | .chunk first rest =>
            match (acc ++ first :: rest).dropInfix? terminator with
            | some (data, _) => (.ok (cleanData data), receipts)
            | none =>
                collectDataBinary maxDataSize (acc ++ first :: rest)
                  (sizeSoFar + (first :: rest).length) receipts

/-- `collect_data_binary(socket)`. -/
def collectData (maxDataSize : Nat) (receipts : List Receipt) :
    Except DataError Bytes × List Receipt :=
  collectDataBinary maxDataSize [] 0 receipts

end Elektrine.SMTP

/-!
## The SMTP session

One connection of the submission server: the state between two commands, and what each
command does to it.  What a command meets outside of the session (further lines of the
client, the account tables, the limits, the sender) is handed in with the command, so
that it may be anything at any time.
-/

namespace Elektrine.SMTP

inductive Phase where
  | greeting
  | ready
  | authenticated
  | mail
  | rcpt
  deriving DecidableEq, Repr

/-- The state of a connection; `recipients` is the source's `to`, the newest first. -/
structure State where
  authenticated : Bool
  userId : Option UserId
  fromAddress : Option String
  recipients : List String
  phase : Phase
  secure : Bool
  tlsAvailable : Bool
  allowInsecureAuth : Bool
  deriving DecidableEq, Repr

def State.greet (secure tlsAvailable allowInsecureAuth : Bool) : State where
  authenticated := false
  userId := none
  fromAddress := none
  recipients := []
  phase := .greeting
  secure := secure
  tlsAvailable := tlsAvailable
  allowInsecureAuth := allowInsecureAuth

inductive RateLimit where
  | ok
  | ipRateLimited
  | ipBlocked
  | accountRateLimited
  | accountBlocked
  deriving DecidableEq, Repr

structure Surroundings where
  hostname : String
  accountInactive : Bool
  /-- What `recv` gives in an authentication dialogue; `none` is an error. -/
  lines : List (Option String)
  rateLimit : Bytes → RateLimit
  authenticate : Bytes → Bytes → Option UserId
  /-- `Elektrine.Email.verify_email_ownership`. -/
  ownsAddress : String → UserId → Bool
  handshake : Bool
  invalidBlocked : Bool
  receipts : List Receipt
  now : Nat
  sendAllowed : Bool
  table : List Remembered
  sender : Submission → Except SendError Unit

inductive Effect where
  | authenticated (user : UserId)
  /-- A `MAIL` command has checked that the address belongs to the user. -/
  | verified (address : String) (user : UserId)
  /-- A `RCPT` command has answered 250 to the address. -/
  | accepted (address : String)
  | reset
  | secured
  | handed (submission : Submission)
  deriving DecidableEq, Repr

inductive Next where
  | going (state : State)
  | quit
  | raised
  deriving DecidableEq, Repr

structure Reaction where
  replies : List String
  effects : List Effect
  next : Next
  deriving DecidableEq, Repr

def State.reply (state : State) (text : String) : Reaction :=
  ⟨[text], [], .going state⟩

def closing (text : String) : Reaction :=
  ⟨[text], [], .quit⟩

def smtpMaxRecipients : Nat := 20

def startTlsAvailable (state : State) : Bool :=
  !state.secure && state.tlsAvailable

def authAllowed (state : State) : Bool :=
  state.secure || state.allowInsecureAuth

def handleEhlo (around : Surroundings) (state : State) : Reaction :=
  ⟨["250-" ++ around.hostname, "250-SIZE " ++ toString smtpMaxDataSize, "250-8BITMIME"] ++
      (if startTlsAvailable state then ["250-STARTTLS"] else []) ++
      (if authAllowed state then ["250-AUTH PLAIN LOGIN"] else []) ++ ["250 HELP"],
    [], .going { state with phase := .ready }⟩

def handleHelo (around : Surroundings) (state : State) : Reaction :=
  ⟨["250 " ++ around.hostname], [], .going { state with phase := .ready }⟩

def authenticateUser (around : Surroundings) (username password : Bytes)
    (state : State) : Reaction :=
  match around.rateLimit username with
  | .ok =>
      match around.authenticate username password with
      | some user =>
          ⟨["235 Authentication successful"], [.authenticated user],
            .going { state with
              authenticated := true, userId := some user, phase := .authenticated }⟩
      | none => state.reply "535 Authentication failed"
  | .ipRateLimited | .accountRateLimited => closing "421 Too many failed attempts"
  | .ipBlocked => closing "421 IP temporarily blocked"
  | .accountBlocked => closing "421 Account temporarily blocked"

def authenticatePlain (around : Surroundings) (credentials : String) (state : State) :
    Reaction :=
  if credentials = "*" then state.reply "501 Authentication cancelled"
  else
    match decodeAuthPlain credentials with
    | some (username, password) => authenticateUser around username password state
    | none => state.reply "535 Authentication failed"

def Reaction.after (reaction : Reaction) (text : String) : Reaction :=
  { reaction with replies := text :: reaction.replies }

def handleAuthPlain (around : Surroundings) (credentials : Option String)
    (state : State) : Reaction :=
  match credentials with
  | some credentials => authenticatePlain around credentials state
  | none =>
      match around.lines.head?.join with
      | some line => (authenticatePlain around (trim line) state).after "334"
      | none => (state.reply "535 Authentication failed").after "334"

/-- `handle_auth_login_password`, on what `recv` gives. -/
def handleAuthLoginPassword (around : Surroundings) (username : Bytes)
    (line : Option String) (state : State) : Reaction :=
  match line.map decodeBase64Line with
  | some .cancelled => state.reply "501 Authentication cancelled"
  | some (.decoded password) => authenticateUser around username password state
  | some .invalid | none => state.reply "535 Authentication failed"

def handleAuthLoginUsername (around : Surroundings) (username : Credential)
    (password : Option String) (state : State) : Reaction :=
  match username with
  | .cancelled => state.reply "501 Authentication cancelled"
  | .decoded username =>
      (handleAuthLoginPassword around username password state).after "334 UGFzc3dvcmQ6"
  | .invalid => state.reply "535 Authentication failed"

def handleAuth (around : Surroundings) (args : Option String) (state : State) :
    Reaction :=
  if authAllowed state then
    match parseAuth args with
    | some (.plain credentials) => handleAuthPlain around credentials state
    | some (.login (some username)) =>
        handleAuthLoginUsername around (decodeBase64Line username)
          around.lines.head?.join state
    | some (.login none) =>
        (match around.lines.head?.join with
          | some line =>
              handleAuthLoginUsername around (decodeBase64Line line)
                around.lines.tail.head?.join state
          | none => state.reply "535 Authentication failed").after "334 VXNlcm5hbWU6"
    | none => state.reply "535 Authentication failed"
  else state.reply "538 Encryption required for requested authentication mechanism"

def handleMail (around : Surroundings) (args : Option String) (state : State) :
    Reaction :=
  if state.authenticated then
    match parseMailFrom args with
    | .ok address =>
        match state.userId.filter fun user => around.ownsAddress address user with
        | some user =>
            ⟨["250 OK"], [.verified address user],
              .going { state with
                fromAddress := some address, recipients := [], phase := .mail }⟩
        | none => state.reply "550 Not authorized to send from this address"
    | .error .messageTooLarge =>
        state.reply "552 Declared message size exceeds maximum"
    | .error .unsupportedParameter =>
        state.reply "555 MAIL FROM parameter not recognized"
    | .error .invalidFormat => state.reply "501 Syntax error in parameters"
  else state.reply "530 Authentication required"

/-- `handle_rcpt`; `parse_rcpt_to` has no clause for a missing argument. -/
def handleRcpt (args : Option String) (state : State) : Reaction :=
  if state.phase = .mail ∨ state.phase = .rcpt then
    if state.recipients.length ≥ smtpMaxRecipients then
      state.reply "452 Too many recipients"
    else
      match args with
      | none => ⟨[], [], .raised⟩
      | some args =>
          match parseRcptTo args with
          | some address =>
              ⟨["250 OK"], [.accepted address],
                .going { state with
                  recipients := addUniqueRecipient state.recipients address,
                  phase := .rcpt }⟩
          | none => state.reply "501 Syntax error in parameters"
  else state.reply "503 Bad sequence of commands"

def State.cleared (state : State) : State :=
  { state with fromAddress := none, recipients := [], phase := .authenticated }

def sendReply : Except SendError Unit → String
  | .ok () => "250 OK: Message accepted"
  | .error .rateLimitExceeded => "450 Rate limit exceeded - try again later"
  | .error .recipientLimitExceeded =>
      "450 Too many unique recipients today - try again tomorrow"
  | .error .ipRateLimited => "450 Too many emails from this IP - try again later"
  | .error .other => "550 Message rejected"

/-- `Enum.reverse(state.to) |> Enum.join(", ")`. -/
def joinRecipients : List String → String
  | [] => ""
  | [oldest] => oldest
  | newest :: older => joinRecipients older ++ ", " ++ newest

/-- The message that `send_email` hands over. -/
def State.submission (state : State) (user : UserId) (data : Bytes) : Submission where
  user := user
  fromAddress := state.fromAddress
  toText := joinRecipients state.recipients
  rawEmail := data

/-- `handle_data`; `lookup_submission_idempotency` has no clause for a missing user. -/
def handleData (around : Surroundings) (state : State) : Reaction :=
  if state.phase = .rcpt ∧ state.recipients ≠ [] then
    match (collectData smtpMaxDataSize around.receipts).1 with
    | .ok data =>
        match state.userId with
        | none => ⟨["354 End data with <CR><LF>.<CR><LF>"], [], .raised⟩
        | some user =>
            let sent := sendEmail around.now around.sendAllowed around.sender
              around.table (state.submission user data)
            ⟨["354 End data with <CR><LF>.<CR><LF>", sendReply sent.result],
              sent.handed.toList.map .handed, .going state.cleared⟩
    | .error .messageTooLarge =>
        ⟨["354 End data with <CR><LF>.<CR><LF>", "552 Message exceeds maximum size"],
          [], .going state.cleared⟩
    | .error _ =>
        (state.reply "451 Error processing message").after
          "354 End data with <CR><LF>.<CR><LF>"
  else state.reply "503 Bad sequence of commands"

def handleRset (state : State) : Reaction :=
  ⟨["250 OK"], [.reset], .going state.cleared⟩

def resetAfterStarttls (state : State) : State :=
  State.greet true state.tlsAvailable state.allowInsecureAuth

def handleStarttls (around : Surroundings) (state : State) : Reaction :=
  if state.secure then state.reply "454 TLS already active"
  else if !startTlsAvailable state then
    state.reply "454 TLS not available due to temporary reason"
  else if around.handshake then
    ⟨["220 Ready to start TLS"], [.secured], .going (resetAfterStarttls state)⟩
  else closing "220 Ready to start TLS"

def handleUnknown (around : Surroundings) (command : String) (state : State) :
    Reaction :=
  if around.invalidBlocked then
    closing "421 Too many invalid commands - connection closing"
  else state.reply ("500 Command not recognized: " ++ command)

def authenticatedAccountInactive (around : Surroundings) (state : State) : Bool :=
  state.authenticated && state.userId.isSome && around.accountInactive

/-- `handle_command` with the command name in upper case. -/
def dispatch (around : Surroundings) (name : String) (args : Option String)
    (state : State) : Reaction :=
  if authenticatedAccountInactive around state ∧ name ≠ "QUIT" then
    closing "421 Account inactive"
  else if name = "EHLO" then handleEhlo around state
  else if name = "HELO" then handleHelo around state
  else if name = "STARTTLS" then handleStarttls around state
  else if name = "AUTH" then handleAuth around args state
  else if name = "MAIL" then handleMail around args state
  else if name = "RCPT" then handleRcpt args state
  else if name = "DATA" then handleData around state
  else if name = "RSET" then handleRset state
  else if name = "NOOP" then state.reply "250 OK"
  else if name = "QUIT" then closing "221 Bye"
  else handleUnknown around name state

/-- One turn of `client_loop` on a received line. -/
def handleCommand (around : Surroundings) (line : String) (state : State) : Reaction :=
  let (name, args) := splitCommand (trim line)
  dispatch around (upcase name) args state

end Elektrine.SMTP
