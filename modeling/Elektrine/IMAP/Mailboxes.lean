import Elektrine.IMAP.MessageCommands

/-!
# SELECT and EXAMINE

The name in the argument string of the mailbox commands, and the session after a folder
was selected.  `EXAMINE` answers that the folder is read-only, and leaves the same
session as `SELECT`.
-/

namespace Elektrine.IMAP

open Elektrine.Email

def quotedBody : List Char → Option (List Char)
  | [] => none
  | '"' :: _ => some []
  | '\\' :: '\n' :: _ => none
  | '\\' :: character :: rest =>
      (quotedBody rest).map fun body => '\\' :: character :: body
  | ['\\'] => none
  | character :: rest => (quotedBody rest).map (character :: ·)

/-- `String.replace` of a backslash and a character by the character. -/
def unescape (escaped : Char) : List Char → List Char
  | [] => []
  | [character] => [character]
  | first :: second :: rest =>
      if first = '\\' ∧ second = escaped then escaped :: unescape escaped rest
      else first :: unescape escaped (second :: rest)

def parseMailboxArg (args : Option String) : Option String :=
  match args.map fun text => (trim text).toList with
  | none => none
  | some [] => none
  | some ('"' :: rest) =>
      match quotedBody rest with
      | some quoted => some (String.ofList (unescape '\\' (unescape '"' quoted)))
      | none =>
          some (trimCharacter '"'
            (String.ofList (('"' :: rest).takeWhile fun character => !isSpace character)))
  | some text =>
      match text.takeWhile fun character => !isSpace character with
      | [] => none
      | atom => some (trimCharacter '"' (String.ofList atom))

example : parseMailboxArg (some " \"My \\\"old\\\" mail\" (CONDSTORE)") =
    some "My \"old\" mail" := by
  decide

theorem ascending_loadFolderMessages (database : Database) (mailbox : Mailbox)
    (folder : String) :
    (loadFolderMessages database mailbox folder).Pairwise (·.id < ·.id) := by
  rw [loadFolderMessages_eq]
  apply List.pairwise_map.mpr
  unfold folderMessages
  cases folderOf database mailbox folder with
  | none => exact List.Pairwise.nil
  | some key => exact database.messages.ascending.sublist List.filter_sublist

def openFolder (account : Account) (database : Database) (folder : String) :
    Selected where
  folder := canonicalSystemFolderName folder
  messages := loadFolderMessages database account.mailbox folder
  ascending := ascending_loadFolderMessages database account.mailbox folder

/-- A session after `SELECT` or `EXAMINE`: the new selection, or the old one where the
name is missing. -/
def selectFolder (text : String) (account : Account) (args : Option String)
    (database : Database) (selection : Option Selected) :
    Option Selected × List Response :=
  match parseMailboxArg args with
  | none => (selection, [.completed .bad [] "Missing mailbox name"])
  | some folder =>
      let selected := openFolder account database folder
      (some selected,
        [.messagesExist selected.messages.length, .completed .ok [] text])

def handleSelect (account : Account) (args : Option String) (database : Database)
    (selection : Option Selected) : Option Selected × List Response :=
  selectFolder "[READ-WRITE] SELECT completed" account args database selection

def handleExamine (account : Account) (args : Option String) (database : Database)
    (selection : Option Selected) : Option Selected × List Response :=
  selectFolder "[READ-ONLY] EXAMINE completed" account args database selection

end Elektrine.IMAP
