import Elektrine.IMAP.SelectedState

/-!
# Sessions

The commands of a session that is logged in, with or without a selected folder.  A
session does not remember whether its folder was opened by `SELECT` or by `EXAMINE`.
-/

namespace Elektrine.IMAP

open Elektrine.Email Elektrine.Library

def firstQuoted : List Char → Option (List Char)
  | [] => none
  | character :: rest =>
      let (quoted, behind) := rest.span (· != '"')
      if character = '"' && !quoted.isEmpty && !behind.isEmpty then some quoted
      else firstQuoted rest

def parseFolderNameArgument (args : Option String) : Option String :=
  let trimmed := trim (args.getD "")
  if trimmed = "" then none
  else
    match firstQuoted trimmed.toList with
    | some quoted => some (trim (String.ofList quoted))
    | none => some (trim (trimCharacter '"' trimmed))

example : parseFolderNameArgument (some "(x) \" old mail \"") = some "old mail" := by
  decide

/-- The folder that `DELETE` is about: no system folder, and one that exists. -/
def folderToDelete (account : Account) (args : Option String) (database : Database) :
    Option Folder :=
  match parseFolderNameArgument args with
  | none => none
  | some folderName =>
      if isSystemFolderName folderName then none
      else findCustomFolderByName database account.userId folderName

/-- `handle_delete` on the database. -/
def handleDelete (account : Account) (args : Option String) (database : Database) :
    Database :=
  match folderToDelete account args database with
  | none => database
  | some folder => database.deleteCustomFolder folder.id

/-- What `store_append_message` comes to: a message with the same identification may be
there already. -/
inductive Stored where
  | refused
  | existing
  | created (message : Message)

/-- `handle_append` from the received message on. -/
def handleAppend (account : Account) (folder : String) (stored : Stored)
    (database : Database) (selection : Option Selected) :
    Database × Option Selected × List Response :=
  let database :=
    match stored with
    | .created message =>
        { database with
          messages := database.messages.append message.withId message.withId_id }
    | _ => database
  match stored, selection with
  | .refused, _ => (database, selection, [.completed .no [] "APPEND failed"])
  | _, none => (database, none, [.completed .ok [] "APPEND completed"])
  | _, some selected =>
      if upcase folder = upcase selected.folder then
        let fresh := selected.reload account database
        (database, some fresh,
          [.messagesExist fresh.messages.length, .completed .ok [] "APPEND completed"])
      else (database, some selected, [.completed .ok [] "APPEND completed"])

/-- `handle_close` on the database. -/
def handleClose (account : Account) (database : Database) (selected : Selected) :
    Database :=
  expungeDeletedMessages account database selected

structure Session where
  database : Database
  selection : Option Selected
  idling : Bool

/-- What reaches a session.  `folders` stands for `CREATE` and `RENAME`, which leave
another table of folders; the commands that only read have no event. -/
inductive SessionEvent where
  | selected (event : SelectedEvent)
  | select (args : Option String)
  | examine (args : Option String)
  | close
  | unselect
  | append (folder : String) (stored : Stored)
  | delete (args : Option String)
  | folders (folders : List Folder)
  | elsewhere (database : Database)

/-- One event.  What the client sends while the session idles is for the loop of `IDLE`,
and commands on messages are not recognized without a folder. -/
def Session.handle (account : Account) (session : Session) :
    SessionEvent → Session × List Response
  | .selected event =>
      match session.selection with
      | none => (session, [])
      | some selected =>
          let (state, responses) :=
            SelectedState.handle account ⟨session.database, selected, session.idling⟩ event
          (⟨state.database, some state.selected, state.idling⟩, responses)
  | .select args =>
      if session.idling then (session, [])
      else
        let (selection, responses) :=
          handleSelect account args session.database session.selection
        ({ session with selection := selection }, responses)
  | .examine args =>
      if session.idling then (session, [])
      else
        let (selection, responses) :=
          handleExamine account args session.database session.selection
        ({ session with selection := selection }, responses)
  | .close =>
      match session.selection, session.idling with
      | some selected, false =>
          (⟨handleClose account session.database selected, none, false⟩,
            [.completed .ok [] "CLOSE completed"])
      | _, _ => (session, [])
  | .unselect =>
      match session.selection, session.idling with
      | some _, false =>
          ({ session with selection := none }, [.completed .ok [] "UNSELECT completed"])
      | _, _ => (session, [])
  | .append folder stored =>
      if session.idling then (session, [])
      else
        let (database, selection, responses) :=
          handleAppend account folder stored session.database session.selection
        (⟨database, selection, session.idling⟩, responses)
  | .delete args =>
      if session.idling then (session, [])
      else ({ session with database := handleDelete account args session.database }, [])
  | .folders folders =>
      if session.idling then (session, [])
      else ({ session with database := { session.database with folders } }, [])
  | .elsewhere database =>
      if session.database.messages.next ≤ database.messages.next then
        ({ session with database := database }, [])
      else (session, [])

end Elektrine.IMAP
