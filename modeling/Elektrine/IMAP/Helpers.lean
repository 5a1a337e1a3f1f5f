import Elektrine.Data.Enum
import Elektrine.Email.Messages

/-!
# Helpers of the IMAP server

Folder names, the argument strings of the message commands, and the sets of sequence
numbers and of unique identifiers in them.
-/

namespace Elektrine.IMAP

open Elektrine.Email

def folderAliases : List (String × String) :=
  [("inbox", "INBOX"), ("sent", "Sent"), ("sent mail", "Sent"),
    ("sent items", "Sent"), ("drafts", "Drafts"), ("draft", "Drafts"),
    ("trash", "Trash"), ("deleted messages", "Trash"), ("deleted items", "Trash"),
    ("spam", "Spam"), ("junk", "Spam"), ("junk mail", "Spam")]

def canonicalSystemFolderName (folderName : String) : String :=
  (folderAliases.lookup (downcase (trim folderName))).getD (trim folderName)

/-- `String.split(text, separator)` at one character. -/
def splitAll (separator : Char) (text : String) : List String :=
  (text.toList.splitOn separator).map String.ofList

/-- `String.split(text, " ", parts: 2)` where there are two parts. -/
def splitFirst (text : String) : Option (String × String) :=
  match text.toList.span (· != ' ') with
  | (_, []) => none
  | (front, _ :: back) => some (String.ofList front, String.ofList back)

/-- `String.trim(text, character)`. -/
def trimCharacter (character : Char) (text : String) : String :=
  let front := text.toList.dropWhile (· == character)
  String.ofList (front.reverse.dropWhile (· == character)).reverse

def parseCopyArgs (args : Option String) : Option (String × String) :=
  match args.bind splitFirst with
  | none => none
  | some (set, folder) => some (set, trimCharacter '"' folder)

/-- The characters of `\s` in a regular expression. -/
def isSpace (character : Char) : Bool :=
  [' ', '\t', '\n', '\x0b', '\x0c', '\r'].contains character

/-- The list of flags of a `STORE` command. -/
def parseFlags (text : String) : List String :=
  let opened := (trim text).toList.dropWhile (· == '(')
  let closed := (opened.reverse.dropWhile (· == ')')).reverse
  ((closed.splitOnP isSpace).filter fun word => !word.isEmpty).map String.ofList

def parseStoreArgs (args : Option String) :
    Option (String × String × List String) :=
  match args.bind splitFirst with
  | none => none
  | some (set, rest) =>
      match splitFirst rest with
      | none => none
      | some (operation, flags) => some (set, operation, parseFlags flags)

example :
    parseStoreArgs (some "1:2 +FLAGS.SILENT (\\Seen  Junk)") =
      some ("1:2", "+FLAGS.SILENT", ["\\Seen", "Junk"]) := by
  decide

def parseSequenceNumber (text : String) (largest : Nat) : Option Nat :=
  if text = "*" then
    if 0 < largest then some largest else none
  else
    match integerParseExact text with
    | some (.ofNat (number + 1)) => some (number + 1)
    | _ => none

/-- `expand_sequence_part`: the numbers of the part that exist. -/
def expandSequencePart (part : String) (largest : Nat) : List Nat :=
  let numbers :=
    match splitAll ':' (trim part) with
    | [first, last] =>
        match parseSequenceNumber first largest, parseSequenceNumber last largest with
        | some first, some last =>
            List.range' (min first last) (max first last + 1 - min first last)
        | _, _ => []
    | [single] => (parseSequenceNumber single largest).toList
    | _ => []
  numbers.filter fun number => 1 ≤ number && number ≤ largest

abbrev Numbered := Listed × Nat

/-- `Enum.with_index(messages, 1)`. -/
def numbered (messages : List Listed) : List Numbered :=
  messages.zipIdx 1

def getMessagesBySequence (messages : List Listed) (sequenceSet : String) :
    List Numbered :=
  let parts := (splitAll ',' sequenceSet).filter fun part => part != ""
  let numbers := (parts.flatMap fun part => expandSequencePart part messages.length)
  (numbers.eraseDups.insertionSort (· ≤ ·)).filterMap fun number =>
    (messages[number - 1]?).map fun message => (message, number)

def largestUid (messages : List Listed) : Nat :=
  messages.foldl (fun largest message => max largest message.id) 0

def parseUidNumber (text : String) (messages : List Listed) : Int :=
  if text = "*" then largestUid messages
  else (integerParseExact text).getD 0

def expandUidPart (messages : List Listed) (part : String) : List Numbered :=
  if trim part = "*" then numbered messages
  else
    match splitAll ':' (trim part) with
    | [first, last] =>
        (numbered messages).filter fun entry =>
          parseUidNumber first messages ≤ entry.1.id &&
            (entry.1.id : Int) ≤ parseUidNumber last messages
    | [single] =>
        match integerParseExact single with
        | some uid => (numbered messages).filter fun entry => (entry.1.id : Int) = uid
        | none => []
    | _ => []

/-- `Enum.uniq_by` the identifier. -/
def uniqueById : List Numbered → List Nat → List Numbered
  | [], _ => []
  | entry :: entries, seen =>
      if entry.1.id ∈ seen then uniqueById entries seen
      else entry :: uniqueById entries (entry.1.id :: seen)

def getMessagesByUid (messages : List Listed) (uidSet : String) : List Numbered :=
  uniqueById ((splitAll ',' uidSet).flatMap (expandUidPart messages)) []

def matchesUidInSet (uid : Nat) (uidSet : String) : Bool :=
  (splitAll ',' uidSet).any fun part =>
    match splitAll ':' (trim part) with
    | [first, last] =>
        match integerParseExact first, integerParseExact last with
        | some first, some last => first ≤ (uid : Int) && (uid : Int) ≤ last
        | _, _ => false
    | [single] => integerParseExact single == some (uid : Int)
    | _ => false

@[irreducible] def namedSystemFolder (folder : String) : Option ImapFolder :=
  [("INBOX", ImapFolder.inbox), ("SENT", .sent), ("DRAFTS", .drafts),
    ("TRASH", .trash), ("SPAM", .spam)].lookup
      (upcase (canonicalSystemFolderName folder))

def messageInCurrentFolder (message : Message) (folder : String) : Bool :=
  match namedSystemFolder folder with
  | some .inbox =>
      message.incoming && !message.spam && !message.deleted && !message.archived
  | some .sent => message.status == "sent" && !message.deleted
  | some .drafts => message.status == "draft" && !message.deleted
  | some .trash => message.deleted
  | some .spam => message.spam && message.incoming && !message.deleted
  | _ => false

example : namedSystemFolder " Deleted Items" = some .trash := by decide +kernel

end Elektrine.IMAP
