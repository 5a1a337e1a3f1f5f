import Elektrine.Data.Bytes
import Elektrine.SMTP.Commands

/-!
# Duplicate submissions

The table of recent submissions, under the user and the Message-ID of the message, that
all connections share.  A submission whose key is in the table is answered as sent.
-/

namespace Elektrine.SMTP

abbrev UserId := Nat

def isSpaceByte (byte : UInt8) : Bool :=
  byte == 32 || (9 ≤ byte && byte ≤ 13)

/-- The encodings of the code points that `String.trim` takes away. -/
def whiteSpaceEncodings : List Bytes :=
  [[9], [10], [11], [12], [13], [32], [0xC2, 0x85], [0xC2, 0xA0], [0xE1, 0x9A, 0x80],
    [0xE2, 0x80, 0xA8], [0xE2, 0x80, 0xA9], [0xE2, 0x80, 0xAF], [0xE2, 0x81, 0x9F],
    [0xE3, 0x80, 0x80]] ++
    [0x80, 0x81, 0x82, 0x83, 0x84, 0x85, 0x86, 0x87, 0x88, 0x89, 0x8A].map fun last =>
      [0xE2, 0x80, last]

def stripFront (encodings : List Bytes) : Nat → Bytes → Bytes
  | 0, text => text
  | fuel + 1, text =>
      match encodings.findSome? fun encoding => text.dropPrefix? encoding with
      | some rest => stripFront encodings fuel rest
      | none => text

/-- `String.trim` of a binary. -/
def trimBinary (text : Bytes) : Bytes :=
  let front := stripFront whiteSpaceEncodings text.length text
  (stripFront (whiteSpaceEncodings.map List.reverse) front.length front.reverse).reverse

/-- What follows `\r?\n`. -/
def afterNewline : Bytes → Option Bytes
  | 13 :: 10 :: rest => some rest
  | 10 :: rest => some rest
  | _ => none

/-- `\r?\n(?!\s)|\r?\n\r?\n` at the head. -/
def endsField (text : Bytes) : Bool :=
  match afterNewline text with
  | none => false
  | some rest =>
      !(rest.head?.any isSpaceByte) || (afterNewline rest).isSome

/-- `(.+?)` up to the end of the field. -/
def captureLazily : Bytes → Option Bytes
  | [] => none
  | byte :: rest =>
      if endsField rest then some [byte]
      else (captureLazily rest).map (byte :: ·)

/-- `\s*(.+?)` up to the end of the field; spaces are given back one by one when the
field does not end. -/
def captureField : Bytes → Option Bytes
  | [] => none
  | byte :: rest =>
      if isSpaceByte byte then
        match captureField rest with
        | some field => some field
        | none => captureLazily (byte :: rest)
      else captureLazily (byte :: rest)

def afterName : Bytes → Bytes → Option Bytes
  | [], text => some text
  | _ :: _, [] => none
  | first :: name, byte :: text =>
      if downcaseBytes [first] = downcaseBytes [byte] then afterName name text else none

def findField (name : Bytes) (lineStart : Bool) : Bytes → Option Bytes
  | [] => none
  | byte :: rest =>
      match if lineStart then (afterName name (byte :: rest)).bind captureField
          else none with
      | some field => some field
      | none => findField name (byte == 10) rest

/-- `\r?\n\s+` matches at the head. -/
def folds (text : Bytes) : Bool :=
  (afterNewline text).any fun rest => rest.head?.any isSpaceByte

/-- `String.replace(text, ~r/\r?\n\s+/, " ")`; `folding` says that the spaces of a match
are being passed over. -/
def unfoldLines (folding : Bool) : Bytes → Bytes
  | [] => []
  | byte :: rest =>
      if folding && isSpaceByte byte then unfoldLines true rest
      else if folds (byte :: rest) then 32 :: unfoldLines true rest
      else byte :: unfoldLines false rest

def normalizeMessageId (messageId : Bytes) : Option Bytes :=
  let trimmed := trimBinary (unfoldLines false messageId)
  let opened := if trimmed.head? = some 60 then trimmed.tail else trimmed
  let closed := if opened.getLast? = some 62 then opened.dropLast else opened
  if closed = [] then none else some closed

def extractMessageId (data : Bytes) : Option Bytes :=
  (findField (utf8 "Message-ID:") true data).bind normalizeMessageId

def submissionIdempotencyKey (userId : UserId) (data : Bytes) : Option (UserId × Bytes) :=
  (extractMessageId data).map fun messageId => (userId, messageId)

example : extractMessageId (utf8 "From: a\r\nmessage-id:\r\n <1@a>\r\n\r\nHi") =
    some (utf8 "1@a") := by decide

/-- A row of `:smtp_submission_idempotency`; the stored response is not looked at. -/
structure Remembered where
  key : UserId × Bytes
  insertedAt : Nat
  deriving DecidableEq, Repr

def submissionIdempotencyTtlSeconds : Nat := 10 * 60

/-- `cleanup_submission_idempotency`. -/
def cleanup (now : Nat) (table : List Remembered) : List Remembered :=
  table.filter fun row => now ≤ row.insertedAt + submissionIdempotencyTtlSeconds

/-- `lookup_submission_idempotency`: the key is in the cleaned table. -/
def isDuplicate (now : Nat) (table : List Remembered) (userId : UserId) (data : Bytes) :
    Bool :=
  match submissionIdempotencyKey userId data with
  | none => false
  | some key => (cleanup now table).any fun row => row.key = key

/-- `store_submission_idempotency` of a success. -/
def storeSubmission (now : Nat) (table : List Remembered) (userId : UserId)
    (data : Bytes) : List Remembered :=
  match submissionIdempotencyKey userId data with
  | none => cleanup now table
  | some key => ⟨key, now⟩ :: (cleanup now table).filter fun row => row.key ≠ key

structure Submission where
  user : UserId
  fromAddress : Option String
  toText : String
  rawEmail : Bytes
  deriving DecidableEq, Repr

inductive SendError where
  | rateLimitExceeded
  | recipientLimitExceeded
  | ipRateLimited
  | other
  deriving DecidableEq, Repr

/-- What `send_email` does: its result, whether it called the sender, and the table. -/
structure Sent where
  result : Except SendError Unit
  handed : Option Submission
  table : List Remembered

/-- `send_email`; `allowed` is the answer of the send limit of the client's address and
`sender` stands for `Elektrine.Email.Sender.send_email`. -/
def sendEmail (now : Nat) (allowed : Bool)
    (sender : Submission → Except SendError Unit) (table : List Remembered)
    (submission : Submission) : Sent :=
  if isDuplicate now table submission.user submission.rawEmail then
    ⟨.ok (), none, cleanup now table⟩
  else if allowed then
    match sender submission with
    | .ok () =>
        ⟨.ok (), some submission,
          storeSubmission now table submission.user submission.rawEmail⟩
    | .error reason => ⟨.error reason, some submission, cleanup now table⟩
  else ⟨.error .ipRateLimited, none, cleanup now table⟩

end Elektrine.SMTP
