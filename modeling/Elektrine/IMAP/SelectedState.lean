import Elektrine.Library.Places
import Elektrine.IMAP.Mailboxes
import Elektrine.IMAP.Moves

/-!
# The selected state

The message commands in a session with a selected folder, the loop of `IDLE`, and the
list of messages that a client derives from the untagged `EXISTS` and `EXPUNGE`
responses.  Continuation lines are left out.
-/

namespace Elektrine.IMAP

open Elektrine.Email Elektrine.Library

inductive MessageCommand where
  | fetch (args : Option (String × List String))
  | uidFetch (args : Option (String × List String))
  | store (args : Option String)
  | uidStore (args : Option String)
  | expunge
  | uidExpunge (args : Option String)
  | copy (copying : Copying) (args : Option String)
  | uidCopy (copying : Copying) (args : Option String)
  | move (copying : Copying) (args : Option String)
  | uidMove (copying : Copying) (args : Option String)
  | check
  | noop

def MessageCommand.perform (account : Account) (database : Database)
    (selected : Selected) : MessageCommand → Outcome
  | .fetch args => handleFetch account args database selected
  | .uidFetch args => handleUidFetch account args database selected
  | .store args => handleStore account args database selected
  | .uidStore args => handleUidStore account args database selected
  | .expunge => handleExpunge account database selected
  | .uidExpunge args => handleUidExpunge account args database selected
  | .copy copying args => handleCopy account copying args database selected
  | .uidCopy copying args => handleUidCopy account copying args database selected
  | .move copying args => handleMove account copying args database selected
  | .uidMove copying args => handleUidMove account copying args database selected
  | .check => handleCheck account database selected
  | .noop => handleNoop account database selected

structure SelectedState where
  database : Database
  selected : Selected
  idling : Bool

/-- What reaches a session in the selected state.  Everybody else who works on the
database is one event: the database is another one, which has not taken back an
identifier. -/
inductive SelectedEvent where
  | command (command : MessageCommand)
  | idle (idleCount maxIdlePerIp : Nat)
  /-- A line of the client in the loop of `IDLE`. -/
  | idleLine (data : String)
  | idleTimeout
  | newEmail (message : Message)
  | elsewhere (database : Database)

def SelectedState.outcome (state : SelectedState) (outcome : Outcome) :
    SelectedState × List Response :=
  (⟨outcome.database, outcome.selected, state.idling⟩, outcome.responses)

/-- One event, with the responses to it.  A line that comes while the session idles is
no command, and a notification is heard only then. -/
def SelectedState.handle (account : Account) (state : SelectedState) :
    SelectedEvent → SelectedState × List Response
  | .command command =>
      if state.idling then (state, [])
      else state.outcome (command.perform account state.database state.selected)
  | .idle idleCount maxIdlePerIp =>
      if state.idling then (state, [])
      else if maxIdlePerIp ≤ idleCount then
        (state, [.completed .no [] "Too many IDLE connections from your IP"])
      else ({ state with idling := true }, [])
  | .idleLine data =>
      if state.idling && upcase (trim data) == "DONE" then
        ({ state with idling := false }, [.completed .ok [] "IDLE terminated"])
      else (state, [])
  | .idleTimeout =>
      if state.idling then
        ({ state with idling := false }, [.completed .ok [] "IDLE terminated (timeout)"])
      else (state, [])
  | .newEmail message =>
      if state.idling then
        state.outcome (handleNewEmail account message state.database state.selected)
      else (state, [])
  | .elsewhere database =>
      if state.database.messages.next ≤ database.messages.next then
        ({ state with database := database }, [])
      else (state, [])

/-- The list of a client after a response: `EXPUNGE` takes the message with the number
out, and `EXISTS` adds those that the server has at the new numbers.  There is no such
list where a response names a number that does not exist, or lowers the count. -/
def Response.follow (ids view : List Nat) : Response → Option (List Nat)
  | .messagesExist count =>
      if view.length ≤ count ∧ count ≤ ids.length then
        some (view ++ (ids.take count).drop view.length)
      else none
  | .expunged number => eraseAt view number
  | .fetched _ _ _ => some view
  | .completed _ _ _ => some view

/-- The list of a client after the responses; the server has the messages `ids`. -/
def followEach (ids : List Nat) : List Response → List Nat → Option (List Nat)
  | [], view => some view
  | response :: responses, view =>
      (response.follow ids view).bind (followEach ids responses)

structure Watched where
  state : SelectedState
  view : Option (List Nat)

def Watched.step (account : Account) (watched : Watched) (event : SelectedEvent) :
    Watched :=
  let (state, responses) := watched.state.handle account event
  ⟨state, watched.view.bind (followEach state.selected.ids responses)⟩

def Watched.opened (account : Account) (database : Database) (folder : String) :
    Watched :=
  let selected := openFolder account database folder
  ⟨⟨database, selected, false⟩,
    followEach selected.ids [.messagesExist selected.messages.length] []⟩

end Elektrine.IMAP

/-!
## Lists of messages by numbers

What the untagged responses make of the list of a client: nothing in most cases, the
removal of the announced messages for the `EXPUNGE` lines in either of their two
orders, and the new list after a refresh that only adds at the end.
-/

namespace Elektrine.IMAP

open Elektrine.Email Elektrine.Library

/-- The response is an `EXISTS` or an `EXPUNGE`. -/
def Response.changesList : Response → Bool
  | .messagesExist _ => true
  | .expunged _ => true
  | .fetched _ _ _ => false
  | .completed _ _ _ => false

section
variable {ids view : List Nat} {responses : List Response}

theorem followEach_append (front back : List Response) :
    followEach ids (front ++ back) view =
      (followEach ids front view).bind (followEach ids back) := by
  induction front generalizing view with
  | nil => rfl
  | cons response front ih =>
      rw [List.cons_append, followEach, followEach, Option.bind_assoc]
      congr 1
      funext next
      exact ih

theorem followEach_of_quiet
    (quiet : ∀ response ∈ responses, response.changesList = false) :
    followEach ids responses view = some view := by
  induction responses with
  | nil => rfl
  | cons response responses ih =>
      have here := quiet response List.mem_cons_self
      have first : response.follow ids view = some view := by
        cases response with
        | messagesExist count => cases here
        | expunged number => cases here
        | fetched number uid flags => rfl
        | completed status copied text => rfl
      rw [followEach, first]
      exact ih fun other member => quiet other (List.mem_cons_of_mem _ member)

theorem followEach_between {front back : List Response}
    (quietFront : ∀ response ∈ front, response.changesList = false)
    (quietBack : ∀ response ∈ back, response.changesList = false) :
    followEach ids (front ++ responses ++ back) view = followEach ids responses view := by
  rw [followEach_append, followEach_append, followEach_of_quiet quietFront,
    Option.bind_some]
  cases followEach ids responses view with
  | none => rfl
  | some left => exact followEach_of_quiet quietBack

theorem followEach_expunged (positions : List Nat) :
    followEach ids (positions.map Response.expunged) view = eraseEach positions view := by
  induction positions generalizing view with
  | nil => rfl
  | cons position positions ih =>
      rw [List.map_cons, followEach, eraseEach]
      congr 1
      funext next
      exact ih

end

theorem quiet_completed (status : Status) (copied : List (Nat × Nat)) (text : String) :
    ∀ response ∈ [Response.completed status copied text],
      response.changesList = false := by
  intro response member
  rw [List.mem_singleton.mp member]
  rfl

section
variable {messages : List Listed} {entries : List Numbered}

theorem numbers_ascend (messages : List Listed) :
    (numbered messages).Pairwise fun first second => first.2 < second.2 := by
  have numbers : ((numbered messages).map Prod.snd).Pairwise (· < ·) := by
    rw [numbered, List.zipIdx_map_snd]
    exact List.pairwise_lt_range'
  exact List.pairwise_map.mp numbers

theorem eq_filter_numbered (known : ∀ entry ∈ entries, entry ∈ numbered messages)
    (ascending : entries.Pairwise fun first second => first.2 < second.2) :
    entries = (numbered messages).filter fun entry => entry ∈ entries := by
  apply eq_of_pairwise (fun (first second : Numbered) (below : first.2 < second.2) =>
    lt_asymm below) ascending ((numbers_ascend messages).filter _)
  intro entry
  rw [List.mem_filter, decide_eq_true_iff]
  exact ⟨fun member => ⟨known entry member, member⟩, And.right⟩

theorem unpicked_numbered (pick : Listed → Bool) :
    unpicked (fun entry => pick entry.1) messages 1 =
      messages.filter fun message => !pick message := by
  have apart : (numbered messages).filter (fun entry => !pick entry.1) =
      (numbered messages).filter ((fun message => !pick message) ∘ Prod.fst) := rfl
  rw [unpicked, ← numbered, apart, ← List.filter_map, numbered, List.zipIdx_map_fst]

theorem unpicked_entries (ascending : messages.Pairwise (·.id < ·.id))
    (known : ∀ entry ∈ entries, entry ∈ numbered messages) :
    unpicked (fun entry => decide (entry ∈ entries)) messages 1 =
      messages.filter fun message => !(entries.map fun entry => entry.1.id).contains
        message.id := by
  rw [← unpicked_numbered fun message =>
    (entries.map fun entry => entry.1.id).contains message.id]
  unfold unpicked
  congr 1
  apply List.filter_congr
  intro entry member
  congr 1
  rw [Bool.eq_iff_iff, decide_eq_true_iff, List.contains_iff_mem, List.mem_map]
  constructor
  · intro selected
    exact ⟨entry, selected, rfl⟩
  · intro selected
    obtain ⟨other, otherMember, same⟩ := selected
    rw [← eq_of_id_eq ascending (known other otherMember) member same]
    exact otherMember

theorem expungeLines_eq (entries : List Numbered) :
    expungeLines entries = (entries.map Prod.snd).reverse.map Response.expunged := by
  rw [expungeLines, List.map_reverse, List.map_reverse, List.map_map]
  rfl

theorem followEach_expungeLines {ids : List Nat}
    (ascending : messages.Pairwise (·.id < ·.id))
    (known : ∀ entry ∈ entries, entry ∈ numbered messages)
    (numbers : entries.Pairwise fun first second => first.2 < second.2) :
    followEach ids (expungeLines entries) (messages.map Listed.id) =
      some ((messages.filter fun message => !(entries.map fun entry =>
        entry.1.id).contains message.id).map Listed.id) := by
  have lines : expungeLines entries =
      (picked (fun entry => decide (entry ∈ entries)) messages 1).reverse.map
        Response.expunged := by
    rw [picked, ← numbered, ← eq_filter_numbered known numbers, expungeLines_eq]
  rw [lines, followEach_expunged, ← unpicked_entries ascending known]
  exact eraseEach_map Listed.id (eraseEach_reverse_picked messages)

theorem expungeSequenceNumbers_eq (messages : List Listed) :
    expungeSequenceNumbers (deletedEntries messages) =
      lowered (picked (fun entry => entry.1.deleted) messages 1) 0 := by
  rw [expungeSequenceNumbers, lowered, picked, ← numbered, List.zipIdx_map, List.map_map]
  rfl

theorem followEach_expungeSequenceNumbers {ids : List Nat} :
    followEach ids
        ((expungeSequenceNumbers (deletedEntries messages)).map Response.expunged)
        (messages.map Listed.id) =
      some ((messages.filter fun message => !message.deleted).map Listed.id) := by
  rw [followEach_expunged, expungeSequenceNumbers_eq, ← unpicked_numbered Listed.deleted]
  exact eraseEach_map Listed.id (eraseEach_lowered_picked messages)

end

/-- The numbers of the untagged `EXPUNGE` responses, in the order they are sent. -/
def announcedNumbers (responses : List Response) : List Nat :=
  responses.filterMap fun response =>
    match response with
    | .expunged number => some number
    | _ => none

theorem announcedNumbers_expunged (numbers : List Nat) (status : Status)
    (copied : List (Nat × Nat)) (text : String) :
    announcedNumbers (numbers.map Response.expunged ++ [.completed status copied text]) =
      numbers := by
  induction numbers with
  | nil => rfl
  | cons number numbers ih =>
      rw [List.map_cons, List.cons_append, announcedNumbers, List.filterMap_cons]
      exact congrArg (number :: ·) ih

section
variable {account : Account} {database : Database} {selected : Selected}

theorem eraseEach_handleExpunge :
    eraseEach (announcedNumbers (handleExpunge account database selected).responses)
        selected.messages =
      some (selected.messages.filter fun message => !message.deleted) := by
  rw [handleExpunge, announcedNumbers_expunged, expungeSequenceNumbers_eq,
    ← unpicked_numbered Listed.deleted]
  exact eraseEach_lowered_picked selected.messages

theorem eraseEach_handleUidExpunge (args : Option String) :
    eraseEach
        (announcedNumbers (handleUidExpunge account args database selected).responses)
        selected.messages =
      some (selected.messages.filter fun message =>
        !(matchesUidInSet message.id (trim (args.getD "")) && message.deleted)) := by
  unfold handleUidExpunge
  dsimp only
  rw [expungeLines_eq, announcedNumbers_expunged, ← unpicked_numbered fun message =>
    matchesUidInSet message.id (trim (args.getD "")) && message.deleted]
  exact eraseEach_reverse_picked selected.messages

theorem exists_number {messages : List Listed} {message : Listed} (member : message ∈ messages) :
    ∃ number, (message, number) ∈ numbered messages := by
  rw [← List.zipIdx_map_fst 1 messages] at member
  obtain ⟨entry, listed, same⟩ := List.mem_map.mp member
  refine ⟨entry.2, ?_⟩
  rw [← same]
  exact listed

theorem contains_uidExpungeEntries {messages : List Listed}
    (ascending : messages.Pairwise (·.id < ·.id)) (uidSet : String) {message : Listed}
    (member : message ∈ messages) :
    ((uidExpungeEntries messages uidSet).map fun entry => entry.1.id).contains message.id =
      (matchesUidInSet message.id uidSet && message.deleted) := by
  obtain ⟨number, listed⟩ := exists_number member
  rw [Bool.eq_iff_iff, List.contains_iff_mem, List.mem_map]
  constructor
  · intro removed
    obtain ⟨entry, chosen, same⟩ := removed
    obtain ⟨known, picked⟩ := List.mem_filter.mp chosen
    rw [eq_of_id_eq ascending known listed same] at picked
    exact picked
  · intro picked
    exact ⟨(message, number), List.mem_filter.mpr ⟨listed, picked⟩, rfl⟩

theorem messages_handleUidExpunge (args : Option String) :
    (handleUidExpunge account args database selected).selected.messages =
      selected.messages.filter fun message =>
        !(matchesUidInSet message.id (trim (args.getD "")) && message.deleted) := by
  unfold handleUidExpunge Selected.retain
  apply List.filter_congr
  intro message member
  rw [contains_uidExpungeEntries selected.ascending _ member]

/-- The client that removes what is announced, one after the other, is left with the
messages of the session, and these are the ones that were not to be deleted. -/
theorem announced_numbers_leave_the_rest (account : Account) (database : Database)
    (selected : Selected) (args : Option String) :
    (eraseEach (announcedNumbers (handleExpunge account database selected).responses)
          selected.messages =
        some (handleExpunge account database selected).selected.messages ∧
      (handleExpunge account database selected).selected.messages =
        selected.messages.filter fun message => !message.deleted) ∧
    (eraseEach
          (announcedNumbers (handleUidExpunge account args database selected).responses)
          selected.messages =
        some (handleUidExpunge account args database selected).selected.messages ∧
      (handleUidExpunge account args database selected).selected.messages =
        selected.messages.filter fun message =>
          !(matchesUidInSet message.id (trim (args.getD "")) && message.deleted)) := by
  refine ⟨⟨eraseEach_handleExpunge, rfl⟩, ?_, messages_handleUidExpunge args⟩
  rw [messages_handleUidExpunge]
  exact eraseEach_handleUidExpunge args

end

end Elektrine.IMAP
