import Elektrine.IMAP.ListAgreement
import Elektrine.IMAP.Session
import Elektrine.IMAP.SetAgreement

/-!
# Announced identifiers

The next identifier of a folder as `SELECT`, `EXAMINE` and `STATUS` announce it, against
the messages that the folder shows over a run.  It is computed from the messages that are
in the folder, while identifiers are given out by the table of all messages.
-/

namespace Elektrine.IMAP

open Elektrine.Email Elektrine.Library

def getNextUid (messages : List Listed) : Nat :=
  if messages = [] then 1 else largestUid messages + 1

/-- The codes `UIDVALIDITY` and `UIDNEXT` of a response. -/
structure Announcement where
  uidValidity : Nat
  uidNext : Nat
  deriving DecidableEq

/-- What reaches the mailbox: an event of a session, or the status of a folder, which
also stands for the announcements in other sessions. -/
inductive MailboxEvent where
  | session (event : SessionEvent)
  | status (folder : String)

def Session.announcedName (session : Session) : MailboxEvent → Option String
  | .session (.select args) => if session.idling then none else parseMailboxArg args
  | .session (.examine args) => if session.idling then none else parseMailboxArg args
  | .session _ => none
  | .status folder => some folder

def Session.announcement (account : Account) (key : FolderKey) (session : Session)
    (event : MailboxEvent) : Option Announcement :=
  match session.announcedName event with
  | none => none
  | some folder =>
      if folderOf session.database account.mailbox folder = some key then
        some
          { uidValidity := account.mailbox.id
            uidNext :=
              getNextUid (loadFolderMessages session.database account.mailbox folder) }
      else none

def shownIn (account : Account) (key : FolderKey) (database : Database) : List Nat :=
  (database.select account.mailbox.id key.shows).map Message.id

/-- A session, the announcements about a folder so far, and the messages that the folder
showed when they were made. -/
structure Announced where
  session : Session
  announced : List Announcement
  shown : List Nat

def Announced.step (account : Account) (key : FolderKey) (state : Announced)
    (event : MailboxEvent) : Announced where
  session :=
    match event with
    | .session event => (state.session.handle account event).1
    | .status _ => state.session
  announced :=
    state.announced ++ (state.session.announcement account key event).toList
  shown :=
    if (state.session.announcement account key event).isSome then
      state.shown ++ shownIn account key state.session.database
    else state.shown

def Announced.loggedIn (database : Database) : Announced where
  session := ⟨database, none, false⟩
  announced := []
  shown := []

/-- The event keeps what was announced under the same validity: it announces no smaller
identifier, and what it brings into the folder has none. -/
structure PromiseKept (account : Account) (key : FolderKey) (before : Announced)
    (event : MailboxEvent) : Prop where
  next : ∀ later ∈ before.session.announcement account key event,
    ∀ earlier ∈ before.announced, earlier.uidValidity = later.uidValidity →
      earlier.uidNext ≤ later.uidNext
  appearing : ∀ id ∈ shownIn account key (before.step account key event).session.database,
    id ∉ shownIn account key before.session.database →
      ∀ earlier ∈ before.announced, earlier.uidValidity = account.mailbox.id →
        earlier.uidNext ≤ id

/-- What the promise needs: a folder is announced only while it shows, for each message
that it showed before, this or a later one; and a row of the table gets into the folder
only if it is later than all that the folder showed. -/
structure PromiseSafe (account : Account) (key : FolderKey) (before : Announced)
    (event : MailboxEvent) : Prop where
  stays : (before.session.announcement account key event).isSome →
    ∀ seen ∈ before.shown, ∃ id ∈ shownIn account key before.session.database, seen ≤ id
  later : ∀ id ∈ shownIn account key (before.step account key event).session.database,
    id ∉ shownIn account key before.session.database →
      id < before.session.database.messages.next → 0 < id ∧ ∀ seen ∈ before.shown, seen < id

theorem map_id_loadFolderMessages {account : Account} {key : FolderKey}
    {database : Database} {folder : String}
    (named : folderOf database account.mailbox folder = some key) :
    (loadFolderMessages database account.mailbox folder).map Listed.id =
      shownIn account key database := by
  rw [loadFolderMessages_eq, folderMessages, named, List.map_map]
  rfl

theorem Session.announcement_spec {account : Account} {key : FolderKey}
    {session : Session} {event : MailboxEvent} {announcement : Announcement}
    (made : session.announcement account key event = some announcement) :
    announcement.uidValidity = account.mailbox.id ∧
      (∀ id ∈ shownIn account key session.database, id < announcement.uidNext) ∧
      (announcement.uidNext = 1 ∨
        ∃ id ∈ shownIn account key session.database, announcement.uidNext = id + 1) := by
  unfold Session.announcement at made
  split at made
  · cases made
  · rename_i folder name
    split at made
    · rename_i named
      cases made
      rw [← map_id_loadFolderMessages named]
      refine ⟨rfl, ?_, ?_⟩
      · intro id shown
        obtain ⟨message, member, rfl⟩ := List.mem_map.mp shown
        rw [getNextUid, if_neg (List.ne_nil_of_mem member)]
        exact Nat.lt_succ_of_le (id_le_largestUid member)
      · rw [getNextUid]
        split
        · exact Or.inl rfl
        · rename_i nonempty
          obtain ⟨message, member, largest⟩ := largestUid_mem nonempty
          right
          refine ⟨message.id, List.mem_map_of_mem member, ?_⟩
          rw [largest]
    · cases made

theorem next_handleAppend {account : Account} (folder : String) (stored : Stored)
    (database : Database) (selection : Option Selected) :
    database.messages.next ≤
      (handleAppend account folder stored database selection).1.messages.next := by
  cases stored with
  | refused => exact Nat.le_refl _
  | existing =>
      cases selection with
      | none => exact Nat.le_refl _
      | some selected =>
          unfold handleAppend
          dsimp only
          split
          · exact Nat.le_refl _
          · exact Nat.le_refl _
  | created message =>
      cases selection with
      | none => exact Nat.le_succ _
      | some selected =>
          unfold handleAppend
          dsimp only
          split
          · exact Nat.le_succ _
          · exact Nat.le_succ _

theorem next_selectedHandle {account : Account} (state : SelectedState)
    (event : SelectedEvent) :
    state.database.messages.next ≤
      (state.handle account event).1.database.messages.next := by
  cases event with
  | command command =>
      unfold SelectedState.handle
      dsimp only
      split
      · exact Nat.le_refl _
      · exact next_perform command
  | idle idleCount maxIdlePerIp =>
      unfold SelectedState.handle
      dsimp only
      split
      · exact Nat.le_refl _
      · split
        · exact Nat.le_refl _
        · exact Nat.le_refl _
  | idleLine data =>
      unfold SelectedState.handle
      dsimp only
      split
      · exact Nat.le_refl _
      · exact Nat.le_refl _
  | idleTimeout =>
      unfold SelectedState.handle
      dsimp only
      split
      · exact Nat.le_refl _
      · exact Nat.le_refl _
  | newEmail message =>
      unfold SelectedState.handle
      dsimp only
      split
      · unfold SelectedState.outcome handleNewEmail
        split
        · exact Nat.le_refl _
        · exact Nat.le_refl _
      · exact Nat.le_refl _
  | elsewhere database =>
      unfold SelectedState.handle
      dsimp only
      split
      · rename_i next
        exact next
      · exact Nat.le_refl _

theorem next_handle {account : Account} (session : Session) (event : SessionEvent) :
    session.database.messages.next ≤
      (session.handle account event).1.database.messages.next := by
  obtain ⟨database, selection, idling⟩ := session
  cases event with
  | selected event =>
      cases selection with
      | none => exact Nat.le_refl _
      | some selected =>
          exact next_selectedHandle ⟨database, selected, idling⟩ event
  | select args => cases idling <;> exact Nat.le_refl _
  | examine args => cases idling <;> exact Nat.le_refl _
  | close =>
      cases selection with
      | none => exact Nat.le_refl _
      | some selected =>
          cases idling with
          | true => exact Nat.le_refl _
          | false => exact Nat.le_of_eq (next_deleteEntries _).symm
  | unselect =>
      cases selection with
      | none => exact Nat.le_refl _
      | some selected => cases idling <;> exact Nat.le_refl _
  | append folder stored =>
      cases idling with
      | true => exact Nat.le_refl _
      | false => exact next_handleAppend folder stored database selection
  | delete args =>
      cases idling with
      | true => exact Nat.le_refl _
      | false =>
          unfold Session.handle
          dsimp only
          unfold handleDelete
          cases folderToDelete account args database with
          | none => exact Nat.le_refl _
          | some folder => exact Nat.le_refl _
  | folders folders => cases idling <;> exact Nat.le_refl _
  | elsewhere after =>
      unfold Session.handle
      dsimp only
      split
      · rename_i next
        exact next
      · exact Nat.le_refl _

/-- Each announcement is one more than a message that was shown, and the table gives out
identifiers above all of them. -/
structure Announced.Grounded (state : Announced) : Prop where
  counted : ∀ announcement ∈ state.announced, announcement.uidNext = 1 ∨
    ∃ id ∈ state.shown, announcement.uidNext = id + 1
  given : ∀ id ∈ state.shown, id < state.session.database.messages.next
  begun : 0 < state.session.database.messages.next

section
variable {account : Account} {key : FolderKey} {state : Announced}

theorem lt_next_of_mem_shownIn {database : Database} {id : Nat}
    (shown : id ∈ shownIn account key database) : id < database.messages.next := by
  obtain ⟨message, member, rfl⟩ := List.mem_map.mp shown
  exact database.messages.fresh message (List.mem_of_mem_filter member)

theorem next_step (event : MailboxEvent) :
    state.session.database.messages.next ≤
      (state.step account key event).session.database.messages.next := by
  cases event with
  | session event => exact next_handle state.session event
  | status folder => exact Nat.le_refl _

theorem grounded_step (grounded : state.Grounded) (event : MailboxEvent) :
    (state.step account key event).Grounded where
  begun := grounded.begun.trans_le (next_step event)
  given := by
    intro id member
    apply Nat.lt_of_lt_of_le _ (next_step event)
    unfold Announced.step at member
    dsimp only at member
    split at member
    · rcases List.mem_append.mp member with before | now
      · exact grounded.given id before
      · exact lt_next_of_mem_shownIn now
    · exact grounded.given id member
  counted := by
    intro announcement member
    unfold Announced.step at member ⊢
    dsimp only at member ⊢
    rcases List.mem_append.mp member with before | now
    · rcases grounded.counted announcement before with first | found
      · exact Or.inl first
      · obtain ⟨id, seen, counted⟩ := found
        refine Or.inr ⟨id, ?_, counted⟩
        split
        · exact List.mem_append_left _ seen
        · exact seen
    · rw [Option.mem_toList] at now
      rw [now, Option.isSome_some, if_pos rfl]
      rcases (Session.announcement_spec now).2.2 with first | found
      · exact Or.inl first
      · obtain ⟨id, here, counted⟩ := found
        exact Or.inr ⟨id, List.mem_append_right _ here, counted⟩

theorem promiseKept_of_safe (grounded : state.Grounded) {event : MailboxEvent}
    (safe : PromiseSafe account key state event) :
    PromiseKept account key state event where
  next := by
    intro later made earlier member _
    obtain ⟨-, above, counted⟩ := Session.announcement_spec made
    have positive : 1 ≤ later.uidNext := by
      rcases counted with first | found
      · exact first.ge
      · obtain ⟨id, -, next⟩ := found
        omega
    rcases grounded.counted earlier member with first | found
    · rw [first]
      exact positive
    · obtain ⟨seen, there, next⟩ := found
      have announced : (state.session.announcement account key event).isSome := by
        rw [made]
        rfl
      obtain ⟨id, here, most⟩ := safe.stays announced seen there
      have := above id here
      omega
  appearing := by
    intro id after before earlier member _
    by_cases old : id < state.session.database.messages.next
    · obtain ⟨positive, newest⟩ := safe.later id after before old
      rcases grounded.counted earlier member with first | found
      · omega
      · obtain ⟨seen, there, next⟩ := found
        have := newest seen there
        omega
    · -- A new row has an identifier that the table had not given out.
      have begun := grounded.begun
      rcases grounded.counted earlier member with first | found
      · omega
      · obtain ⟨seen, there, next⟩ := found
        have := grounded.given seen there
        omega

end

/-- In a run whose events are all safe every announcement is kept. -/
theorem uid_promise (account : Account) (key : FolderKey) (database : Database)
    (begun : 0 < database.messages.next) (events : List MailboxEvent)
    (safe : Along (Announced.step account key) (PromiseSafe account key)
      (Announced.loggedIn database) events) :
    Along (Announced.step account key) (PromiseKept account key)
      (Announced.loggedIn database) events := by
  have initially : (Announced.loggedIn database).Grounded :=
    ⟨fun _ member => absurd member List.not_mem_nil,
      fun _ member => absurd member List.not_mem_nil, begun⟩
  have preserved : ∀ (before : Announced) (event : MailboxEvent), before.Grounded →
      PromiseSafe account key before event → (before.step account key event).Grounded :=
    fun _ event grounded _ => grounded_step grounded event
  exact safe.with_invariant preserved initially fun _ _ grounded here =>
    promiseKept_of_safe grounded here

def arrivalRun : List MailboxEvent :=
  [.session (.select (some "INBOX")), .session (.append "INBOX" (.created movedMessage)),
    .session (.select (some "inbox"))]

theorem uid_promise_arrival :
    Along (Announced.step movedAccount (.system .inbox))
      (PromiseKept movedAccount (.system .inbox)) (Announced.loggedIn movedDatabase)
        arrivalRun :=
  uid_promise movedAccount (.system .inbox) movedDatabase (by decide) arrivalRun
    (.cons ⟨fun _ _ member => absurd member List.not_mem_nil, by decide⟩
      (.cons ⟨by decide, by decide⟩
        (.cons ⟨by decide +kernel, by decide +kernel⟩ (Along.nil _ _ _))))

def trashedRun : List MailboxEvent :=
  [.session (.select (some "INBOX")),
    .session (.selected (.command (.store (some "1 +FLAGS (\\Deleted)"))))]

/-- The inbox is announced with the next identifier 2, and then with 1. -/
theorem not_uid_promise_trashed :
    ¬∀ (account : Account) (key : FolderKey) (database : Database),
      0 < database.messages.next → ∀ events,
        Along (Announced.step account key) (PromiseKept account key)
          (Announced.loggedIn database) events := by
  intro promise
  have kept := promise movedAccount (.system .inbox) movedDatabase (by decide)
    (trashedRun ++ [.session (.select (some "INBOX"))]) trashedRun _ [] rfl
  have before : (trashedRun.foldl (Announced.step movedAccount (.system .inbox))
      (Announced.loggedIn movedDatabase)).announced = [⟨1, 2⟩] := by decide +kernel
  have after : (trashedRun.foldl (Announced.step movedAccount (.system .inbox))
      (Announced.loggedIn movedDatabase)).session.announcement movedAccount
        (.system .inbox) (.session (.select (some "INBOX"))) = some ⟨1, 1⟩ := by
    decide +kernel
  have least := kept.next ⟨1, 1⟩ after ⟨1, 2⟩ (by rw [before]; exact List.mem_cons_self) rfl
  exact absurd least (by decide)

end Elektrine.IMAP
