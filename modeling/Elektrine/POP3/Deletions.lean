import Elektrine.Library.Runs
import Elektrine.POP3.Commands

/-!
# What a POP3 session deletes

What the client has asked to delete is read off its commands: the messages named by
`DELE` since the last `RSET`.  The marks of the session are these messages in every
state, and what a commit deletes is among them.  A commit stops at the first deletion
that does not go through; it has done what was asked just when nothing was left to do
there.
-/

namespace Elektrine.POP3

open Elektrine.Email Elektrine.Library

abbrev Step := Transition System Event

def Connection.state : Connection → State
  | .reading state => state
  | .committing state _ => state
  | .deleting state _ _ _ => state
  | .closed state => state
  | .committed state => state

def System.state (system : System) : State := system.connection.state

/-- The session calls the message by the number. -/
def State.Numbers (state : State) (number id : Nat) : Prop :=
  (state.messages[number - 1]?).map Message.id = some id

/-- The step is a command that the session carries out in the transaction state. -/
def Obeys (step : Step) (state : State) (command : String × Option String) : Prop :=
  step.before.connection = .reading state ∧ state.transactionState = .transaction ∧
    ∃ line around, step.action = .received line around ∧ readCommand line = command ∧
      (around.accountInactive = true → command.1 = "QUIT")

/-- A `DELE` command that names the message. -/
def Marks (id : Nat) (step : Step) : Prop :=
  ∃ state text number, Obeys step state ("DELE", some text) ∧
    state.messageNumber text = some number ∧ state.Numbers number id

def Resets (step : Step) : Prop :=
  ∃ state args, Obeys step state ("RSET", args)

/-- A `QUIT` command in the transaction state. -/
def Quits (step : Step) : Prop :=
  ∃ state args, Obeys step state ("QUIT", args)

/-- The message was marked by `DELE` since the last `RSET`. -/
def Asked (id : Nat) (history : List Step) : Prop :=
  Since (Marks id) Resets history

structure DeletesWhatWasAsked (start : System) (events : List Event) : Prop where
  /-- Without `QUIT` in the transaction state nothing is deleted. -/
  onlyAfterQuit :
    (∀ step ∈ transitions System.step start events, ¬ Quits step) →
      (events.foldl System.step start).removed = []
  onlyAsked :
    ∀ id ∈ (events.foldl System.step start).removed,
      Asked id (transitions System.step start events)
  allAsked :
    ∀ state, (events.foldl System.step start).connection = .committed state →
      ∀ id, Asked id (transitions System.step start events) →
        (events.foldl System.step start).table.find id = none

section Obeying

variable {before after : System} {state : State} {line : String}
  {around : Surroundings}

theorem not_obeys {step : Step} (silent : ∀ state command, ¬ Obeys step state command)
    (id : Nat) : ¬ Marks id step ∧ ¬ Resets step ∧ ¬ Quits step := by
  refine ⟨?_, ?_, ?_⟩
  · intro marks
    obtain ⟨state, text, _, obeys, -⟩ := marks
    exact silent state _ obeys
  · intro resets
    obtain ⟨state, args, obeys⟩ := resets
    exact silent state _ obeys
  · intro quits
    obtain ⟨state, args, obeys⟩ := quits
    exact silent state _ obeys

theorem obeys_received {other : State} {command : String × Option String}
    (reading : before.connection = .reading state)
    (obeys : Obeys ⟨before, .received line around, after⟩ other command) :
    other = state ∧ readCommand line = command := by
  obtain ⟨same, -, _, _, received, read, -⟩ := obeys
  cases received
  have states : Connection.reading state = .reading other := reading.symm.trans same
  cases states
  exact ⟨rfl, read⟩

theorem asked_of_silent {step : Step}
    (silent : ∀ state command, ¬ Obeys step state command) (id : Nat)
    (history : List Step) : Asked id (history ++ [step]) ↔ Asked id history := by
  obtain ⟨unmarked, unreset, -⟩ := not_obeys silent id
  rw [Asked, since_concat]
  constructor
  · intro decided
    rcases decided with marks | kept
    · exact absurd marks unmarked
    · exact kept.1
  · intro asked
    exact Or.inr ⟨asked, unreset⟩

end Obeying

/-- The session has not begun to commit. -/
def Connection.Idle (connection : Connection) : Prop :=
  ∃ state, connection = .reading state ∨ connection = .closed state

def Connection.Pending : Connection → Prop
  | .committing state remaining => ∀ number ∈ remaining, number ∈ state.deletedMessages
  | .deleting state number id remaining =>
      number ∈ state.deletedMessages ∧ state.Numbers number id ∧
        ∀ other ∈ remaining, other ∈ state.deletedMessages
  | _ => True

/-- The state has the message among its marks. -/
def State.Marked (state : State) (id : Nat) : Prop :=
  ∃ number ∈ state.deletedMessages, state.Numbers number id

structure Follows (history : List Step) (system : System) : Prop where
  asked : ∀ id, Asked id history ↔ system.state.Marked id
  loaded : ∀ message ∈ system.state.messages, message.id < system.table.next
  unmarked : system.state.transactionState = .authorization →
    system.state.deletedMessages = []
  removed : ∀ id ∈ system.removed, system.state.Marked id
  pending : system.connection.Pending
  idle : system.connection.Idle → system.removed = []
  unquit : (∀ step ∈ history, ¬ Quits step) → system.connection.Idle

theorem State.Numbers.mem {state : State} {number id : Nat}
    (numbers : state.Numbers number id) : ∃ message ∈ state.messages, message.id = id := by
  obtain ⟨message, found, same⟩ := Option.map_eq_some_iff.mp numbers
  exact ⟨message, List.mem_of_getElem? found, same⟩

theorem State.Marked.of_keeps {state next : State} (keeps : Keeps state next) (id : Nat) :
    next.Marked id ↔ state.Marked id := by
  simp only [Marked, Numbers, keeps.messages, keeps.deletedMessages]

theorem State.Marked.cons {state : State} {number id : Nat} :
    State.Marked { state with deletedMessages := number :: state.deletedMessages } id ↔
      state.Numbers number id ∨ state.Marked id := by
  simp [Marked, Numbers]

theorem next_le_change (table : Table) (done : Change) :
    table.next ≤ (change table done).next := by
  cases done with
  | added message => exact Nat.le_succ _
  | changed id message => exact le_refl _
  | deleted id => exact le_refl _

theorem find_change_of_none {table : Table} {id : Nat} (known : id < table.next)
    (gone : table.find id = none) (done : Change) : (change table done).find id = none := by
  cases done with
  | added message =>
      rw [change, SerialRows.find_append, if_neg (Nat.ne_of_lt known)]
      exact gone
  | changed other message =>
      rw [change, SerialRows.find_modify]
      split
      · rename_i same
        rw [← same, gone]
        rfl
      · exact gone
  | deleted other =>
      rw [change, SerialRows.find_delete]
      split
      · rfl
      · exact gone

section Steps

variable {history : List Step} {system : System}

theorem Follows.silent (follows : Follows history system) {step : Step} {after : System}
    (silent : ∀ state command, ¬ Obeys step state command)
    (same : after.state = system.state) (later : system.table.next ≤ after.table.next)
    (removed : ∀ id ∈ after.removed, system.state.Marked id)
    (pending : after.connection.Pending)
    (idle : after.connection.Idle → after.removed = [])
    (stays : system.connection.Idle → after.connection.Idle) :
    Follows (history ++ [step]) after where
  asked id := by
    rw [asked_of_silent silent, same]
    exact follows.asked id
  loaded message member := by
    rw [same] at member
    exact Nat.lt_of_lt_of_le (follows.loaded message member) later
  unmarked := by
    rw [same]
    exact follows.unmarked
  removed := by
    rw [same]
    exact removed
  pending := pending
  idle := idle
  unquit noQuit := stays <| follows.unquit fun earlier member =>
    noQuit earlier (List.mem_append_left _ member)

theorem not_obeys_of_event {after : System} {event : Event}
    (other : ∀ line around, event ≠ .received line around) (state : State)
    (command : String × Option String) : ¬ Obeys ⟨system, event, after⟩ state command := by
  intro obeys
  obtain ⟨-, -, line, around, received, -⟩ := obeys
  exact other line around received

theorem not_idle_committing {state : State} {remaining : List Nat} :
    ¬ (Connection.committing state remaining).Idle := by
  intro idle
  obtain ⟨other, same | same⟩ := idle <;> cases same

theorem not_idle_deleting {state : State} {number id : Nat} {remaining : List Nat} :
    ¬ (Connection.deleting state number id remaining).Idle := by
  intro idle
  obtain ⟨other, same | same⟩ := idle <;> cases same

theorem not_idle_committed {state : State} : ¬ (Connection.committed state).Idle := by
  intro idle
  obtain ⟨other, same | same⟩ := idle <;> cases same

theorem idle_reading (state : State) : (Connection.reading state).Idle :=
  ⟨state, Or.inl rfl⟩

theorem idle_closed (state : State) : (Connection.closed state).Idle :=
  ⟨state, Or.inr rfl⟩

theorem follows_elsewhere (follows : Follows history system) (done : Change) :
    Follows (history ++ [⟨system, .elsewhere done, system.step (.elsewhere done)⟩])
      (system.step (.elsewhere done)) :=
  follows.silent (not_obeys_of_event fun _ _ => Event.noConfusion) rfl
    (next_le_change system.table done) follows.removed follows.pending follows.idle id

inductive Commits (system : System) (recorded : Bool) : System → Prop where
  | still (idle : ∀ state remaining number id,
      system.connection ≠ .committing state remaining ∧
        system.connection ≠ .deleting state number id remaining) :
      Commits system recorded system
  | done {state : State} (at_end : system.connection = .committing state []) :
      Commits system recorded (system.finish state ["+OK Goodbye"])
  | missing {state : State} {number : Nat} {remaining : List Nat}
      (here : system.connection = .committing state (number :: remaining))
      (gone : ∀ id, state.Numbers number id → system.table.find id = none) :
      Commits system recorded
        (system.finish state ["-ERR Failed to update mailbox"])
  | fetched {state : State} {number id : Nat} {remaining : List Nat}
      (here : system.connection = .committing state (number :: remaining))
      (numbers : state.Numbers number id) :
      Commits system recorded
        { system with connection := .deleting state number id remaining }
  | failed {state : State} {number id : Nat} {remaining : List Nat}
      {replies : List String}
      (here : system.connection = .deleting state number id remaining)
      (stops : system.table.find id = none ∨ recorded = false) :
      Commits system recorded (system.finish state replies)
  | deleted {state : State} {number id : Nat} {remaining : List Nat}
      (here : system.connection = .deleting state number id remaining)
      (goes : recorded = true) :
      Commits system recorded
        { system with
          table := system.table.delete id
          connection := .committing state remaining
          removed := system.removed ++ [id] }

theorem commits_fetch {state : State} {remaining : List Nat} (recorded : Bool)
    (here : system.connection = .committing state remaining) :
    Commits system recorded (system.fetch state remaining) := by
  cases remaining with
  | nil => exact .done here
  | cons number remaining =>
      cases found : state.messages[number - 1]? with
      | none =>
          simp only [System.fetch, found]
          apply Commits.missing here
          intro id numbers
          rw [State.Numbers, found] at numbers
          cases numbers
      | some message =>
          have numbers : state.Numbers number message.id := by
            rw [State.Numbers, found, Option.map_some]
          cases stored : system.table.find message.id with
          | none =>
              simp only [System.fetch, found, stored]
              apply Commits.missing here
              intro id other
              have same : some message.id = some id := numbers.symm.trans other
              cases same
              exact stored
          | some row =>
              simp only [System.fetch, found, stored]
              exact .fetched here numbers

theorem commits_deleteMessage {state : State} {number id : Nat} {remaining : List Nat}
    (recorded : Bool) (here : system.connection = .deleting state number id remaining) :
    Commits system recorded (system.deleteMessage state id remaining recorded) := by
  unfold System.deleteMessage
  cases stored : system.table.find id with
  | none => exact .failed here (Or.inl stored)
  | some row =>
      cases recorded with
      | false => exact .failed here (Or.inr rfl)
      | true => exact .deleted here rfl

theorem commits_step (system : System) (recorded : Bool) :
    Commits system recorded (system.step (.commit recorded)) := by
  unfold System.step
  cases here : system.connection with
  | committing state remaining => exact commits_fetch recorded here
  | deleting state number id remaining => exact commits_deleteMessage recorded here
  | reading state => exact .still (by simp [here])
  | closed state => exact .still (by simp [here])
  | committed state => exact .still (by simp [here])

theorem Follows.goes_on (follows : Follows history system) {step : Step} {after : System}
    (silent : ∀ state command, ¬ Obeys step state command)
    (same : after.state = system.state) (later : system.table.next ≤ after.table.next)
    (removed : ∀ id ∈ after.removed, system.state.Marked id)
    (pending : after.connection.Pending) (begun : ¬ system.connection.Idle)
    (still : ¬ after.connection.Idle) : Follows (history ++ [step]) after :=
  follows.silent silent same later removed pending (fun idle => absurd idle still)
    fun idle => absurd idle begun

theorem Follows.finished (follows : Follows history system) {step : Step} {state : State}
    {replies : List String} (silent : ∀ state command, ¬ Obeys step state command)
    (same : system.state = state) (begun : ¬ system.connection.Idle) :
    Follows (history ++ [step]) (system.finish state replies) := by
  apply follows.goes_on silent
  · exact same.symm
  · exact le_refl _
  · exact follows.removed
  · exact trivial
  · exact begun
  · exact not_idle_committed

theorem follows_commit (follows : Follows history system) (recorded : Bool) :
    Follows (history ++ [⟨system, .commit recorded, system.step (.commit recorded)⟩])
      (system.step (.commit recorded)) := by
  have silent : ∀ after state command,
      ¬ Obeys ⟨system, .commit recorded, after⟩ state command :=
    fun _ => not_obeys_of_event fun _ _ => Event.noConfusion
  have commits := commits_step system recorded
  have pending := follows.pending
  have state_of : ∀ {connection}, system.connection = connection →
      system.state = connection.state := congrArg Connection.state
  generalize system.step (.commit recorded) = after at commits
  cases commits with
  | still idle =>
      exact follows.silent (silent _) rfl (le_refl _) follows.removed pending follows.idle id
  | done here =>
      exact follows.finished (silent _) (state_of here) (here ▸ not_idle_committing)
  | missing here gone =>
      exact follows.finished (silent _) (state_of here) (here ▸ not_idle_committing)
  | fetched here numbers =>
      rw [here] at pending
      apply follows.goes_on (silent _)
      · exact (state_of here).symm
      · exact le_refl _
      · exact follows.removed
      · exact ⟨pending _ List.mem_cons_self, numbers,
          fun other member => pending other (List.mem_cons_of_mem _ member)⟩
      · exact here ▸ not_idle_committing
      · exact not_idle_deleting
  | failed here stops =>
      exact follows.finished (silent _) (state_of here) (here ▸ not_idle_deleting)
  | @deleted state number id remaining here goes =>
      rw [here] at pending
      obtain ⟨marked, numbers, rest⟩ := pending
      apply follows.goes_on (silent _)
      · exact (state_of here).symm
      · exact le_refl _
      · intro other member
        rcases List.mem_append.mp member with old | last
        · exact follows.removed other old
        · rw [List.mem_singleton.mp last, state_of here]
          exact ⟨number, marked, numbers⟩
      · exact rest
      · exact here ▸ not_idle_deleting
      · exact not_idle_committing

theorem follows_lost (follows : Follows history system) (timeout : Bool) :
    Follows (history ++ [⟨system, .lost timeout, system.step (.lost timeout)⟩])
      (system.step (.lost timeout)) := by
  have silent : ∀ after state command,
      ¬ Obeys ⟨system, .lost timeout, after⟩ state command :=
    fun _ => not_obeys_of_event fun _ _ => Event.noConfusion
  have still : Follows (history ++ [⟨system, .lost timeout, system⟩]) system :=
    follows.silent (silent _) rfl (le_refl _) follows.removed follows.pending follows.idle id
  unfold System.step
  cases here : system.connection with
  | reading state =>
      have nothing := follows.idle (here ▸ idle_reading state)
      apply follows.silent (silent _)
      · rw [System.state, System.state, here]
        rfl
      · exact le_refl _
      · exact follows.removed
      · exact trivial
      · intro _
        exact nothing
      · intro _
        exact idle_closed state
  | committing state remaining => exact still
  | deleting state number id remaining => exact still
  | closed state => exact still
  | committed state => exact still

theorem follows_authCommand (follows : Follows history system) {state : State}
    {line : String} {around : Surroundings} (here : system.connection = .reading state)
    (before : state.transactionState = .authorization) (after : System)
    (turned : after = system.onLine state line around) :
    Follows (history ++ [⟨system, .received line around, after⟩]) after := by
  have own : system.state = state := congrArg Connection.state here
  have silent : ∀ other command,
      ¬ Obeys ⟨system, .received line around, after⟩ other command := by
    intro other command obeys
    have inside := obeys.2.1
    rw [(obeys_received here obeys).1, before] at inside
    cases inside
  have nothing := follows.idle (here ▸ idle_reading state)
  have unmarked := follows.unmarked (own ▸ before)
  rw [own] at unmarked
  have admitted : Admitted system.table state
      (handleCommand system.table around line state).next := by
    simp only [handleCommand, before]
    exact admitted_authCommand _ _
  unfold System.onLine at turned
  generalize handleCommand system.table around line state = reaction at turned admitted
  obtain ⟨replies, next⟩ := reaction
  subst turned
  cases admitted with
  | quit =>
      apply follows.silent silent
      · exact own.symm
      · exact le_refl _
      · exact follows.removed
      · exact trivial
      · intro _
        exact nothing
      · intro _
        exact idle_closed state
  | @going next marks loaded =>
      rw [unmarked] at marks
      have clean : next.deletedMessages = [] := List.eq_nil_iff_forall_not_mem.mpr
        fun number member => List.not_mem_nil (marks number member)
      constructor
      · intro id
        rw [asked_of_silent silent, follows.asked, own]
        simp [State.Marked, System.state, Next.connection, Connection.state, unmarked, clean]
      · intro message member
        rcases loaded message member with old | ⟨stored, inTable, same⟩
        · exact follows.loaded message (own ▸ old)
        · rw [← same]
          exact system.table.fresh stored inTable
      · intro _
        exact clean
      · intro id member
        rw [show system.removed = [] from nothing] at member
        cases member
      · exact trivial
      · intro _
        exact nothing
      · intro _
        exact idle_reading next

section Obeyed

variable {state : State} {line : String} {around : Surroundings} {after : System}

theorem obeys_named {name : String}
    (obeys : Obeys ⟨system, .received line around, after⟩ state (readCommand line))
    (named : (readCommand line).1 = name) :
    Obeys ⟨system, .received line around, after⟩ state (name, (readCommand line).2) := by
  rw [← named, Prod.mk.eta]
  exact obeys

theorem marks_iff (here : system.connection = .reading state)
    (obeys : Obeys ⟨system, .received line around, after⟩ state (readCommand line))
    (id : Nat) :
    Marks id ⟨system, .received line around, after⟩ ↔
      ∃ text number, readCommand line = ("DELE", some text) ∧
        state.messageNumber text = some number ∧ state.Numbers number id := by
  constructor
  · intro marks
    obtain ⟨other, text, number, obeyed, numbered, numbers⟩ := marks
    obtain ⟨same, read⟩ := obeys_received here obeyed
    cases same
    exact ⟨text, number, read, numbered, numbers⟩
  · intro named
    obtain ⟨text, number, read, numbered, numbers⟩ := named
    rw [read] at obeys
    exact ⟨state, text, number, obeys, numbered, numbers⟩

theorem resets_iff (here : system.connection = .reading state)
    (obeys : Obeys ⟨system, .received line around, after⟩ state (readCommand line)) :
    Resets ⟨system, .received line around, after⟩ ↔ (readCommand line).1 = "RSET" := by
  constructor
  · intro resets
    obtain ⟨other, args, obeyed⟩ := resets
    rw [(obeys_received here obeyed).2]
  · intro named
    exact ⟨state, (readCommand line).2, obeys_named obeys named⟩

theorem quits_of_name
    (obeys : Obeys ⟨system, .received line around, after⟩ state (readCommand line))
    (named : (readCommand line).1 = "QUIT") :
    Quits ⟨system, .received line around, after⟩ :=
  ⟨state, (readCommand line).2, obeys_named obeys named⟩

end Obeyed

theorem follows_carried (follows : Follows history system) {state : State}
    {line : String} {around : Surroundings} (here : system.connection = .reading state)
    {after : System} {next : Next}
    (obeys : Obeys ⟨system, .received line around, after⟩ state (readCommand line))
    (carried : Carried state (readCommand line).1 (readCommand line).2 next)
    (table : after.table = system.table) (removed : after.removed = system.removed)
    (connection : after.connection = next.connection state) :
    Follows (history ++ [⟨system, .received line around, after⟩]) after := by
  have own : system.state = state := congrArg Connection.state here
  have nothing : after.removed = [] :=
    removed.trans (follows.idle (here ▸ idle_reading state))
  have inside := obeys.2.1
  have asked_iff : ∀ id, Asked id (history ++ [⟨system, .received line around, after⟩]) ↔
      (∃ text number, readCommand line = ("DELE", some text) ∧
        state.messageNumber text = some number ∧ state.Numbers number id) ∨
      (state.Marked id ∧ (readCommand line).1 ≠ "RSET") := by
    intro id
    rw [Asked, since_concat, marks_iff here obeys, resets_iff here obeys, ← own,
      ← follows.asked]
    rfl
  have loaded : ∀ message ∈ state.messages, message.id < after.table.next := by
    rw [table, ← own]
    exact follows.loaded
  cases carried with
  | @kept next keeps marked notReset notQuit =>
      have state_after : after.state = next := congrArg Connection.state connection
      constructor
      · intro id
        rw [asked_iff, state_after, State.Marked.of_keeps keeps]
        constructor
        · intro decided
          rcases decided with ⟨text, number, read, numbered, numbers⟩ | kept
          · rw [read] at marked
            exact ⟨number, marked text number rfl rfl numbered, numbers⟩
          · exact kept.1
        · intro was
          exact Or.inr ⟨was, notReset⟩
      · rw [state_after, keeps.messages]
        exact loaded
      · rw [state_after, keeps.transactionState, inside]
        intro impossible
        cases impossible
      · rw [nothing]
        exact List.forall_mem_nil _
      · rw [connection]
        exact trivial
      · intro _
        exact nothing
      · intro _
        rw [connection]
        exact idle_reading next
  | @marked text number named argument numbered =>
      have state_after : after.state = _ := congrArg Connection.state connection
      have read : readCommand line = ("DELE", some text) := Prod.ext named argument
      constructor
      · intro id
        rw [asked_iff, state_after]
        refine Iff.trans ?_ State.Marked.cons.symm
        constructor
        · intro decided
          rcases decided with ⟨other, position, same, at_other, numbers⟩ | kept
          · rw [read] at same
            cases same
            rw [numbered] at at_other
            cases at_other
            exact Or.inl numbers
          · exact Or.inr kept.1
        · intro decided
          rcases decided with numbers | was
          · exact Or.inl ⟨text, number, read, numbered, numbers⟩
          · exact Or.inr ⟨was, by rw [named]; decide⟩
      · rw [state_after]
        exact loaded
      · rw [state_after]
        intro impossible
        have authorized : state.transactionState = .authorization := impossible
        rw [inside] at authorized
        cases authorized
      · rw [nothing]
        exact List.forall_mem_nil _
      · rw [connection]
        exact trivial
      · intro _
        exact nothing
      · intro _
        rw [connection]
        exact idle_reading _
  | reset named =>
      have state_after : after.state = _ := congrArg Connection.state connection
      constructor
      · intro id
        rw [asked_iff, state_after]
        constructor
        · intro decided
          rcases decided with ⟨text, number, read, -⟩ | kept
          · rw [read] at named
            dsimp only at named
            exact absurd named (by decide)
          · exact absurd named kept.2
        · intro marked
          obtain ⟨number, member, -⟩ := marked
          cases member
      · rw [state_after]
        exact loaded
      · rw [state_after]
        intro _
        rfl
      · rw [nothing]
        exact List.forall_mem_nil _
      · rw [connection]
        exact trivial
      · intro _
        exact nothing
      · intro _
        rw [connection]
        exact idle_reading _
  | quit named =>
      have state_after : after.state = state := congrArg Connection.state connection
      constructor
      · intro id
        rw [asked_iff, state_after]
        constructor
        · intro decided
          rcases decided with ⟨text, number, read, -⟩ | kept
          · rw [read] at named
            dsimp only at named
            exact absurd named (by decide)
          · exact kept.1
        · intro was
          exact Or.inr ⟨was, by rw [named]; decide⟩
      · rw [state_after]
        exact loaded
      · rw [state_after, inside]
        intro impossible
        cases impossible
      · rw [nothing]
        exact List.forall_mem_nil _
      · rw [connection]
        intro number member
        exact (List.mem_insertionSort _).mp member
      · intro _
        exact nothing
      · intro noQuit
        exact absurd (quits_of_name obeys named)
          (noQuit _ (List.mem_append_right _ List.mem_cons_self))

theorem follows_received (follows : Follows history system) (line : String)
    (around : Surroundings) :
    Follows (history ++
      [⟨system, .received line around, system.step (.received line around)⟩])
      (system.step (.received line around)) := by
  by_cases reads : ∃ state, system.connection = .reading state
  · obtain ⟨state, here⟩ := reads
    have turned : system.step (.received line around) =
        system.onLine state line around := by
      unfold System.step
      rw [here]
    cases phase : state.transactionState with
    | authorization => exact follows_authCommand follows here phase _ turned
    | transaction =>
        generalize system.step (.received line around) = after at turned
        by_cases obeyed : around.accountInactive = true → (readCommand line).1 = "QUIT"
        · have obeys : Obeys ⟨system, .received line around, after⟩ state
              (readCommand line) := ⟨here, phase, line, around, rfl, rfl, obeyed⟩
          have active : (around.accountInactive && (readCommand line).1 != "QUIT") = false := by
            cases inactive : around.accountInactive with
            | false => rfl
            | true => simp [obeyed inactive]
          have handled : handleCommand system.table around line state =
              handleTransactionCommand around (readCommand line).1 (readCommand line).2
                state := by
            simp only [handleCommand, phase, active, Bool.false_eq_true, if_false]
          have carried := carried_transactionCommand around (readCommand line).1
            (readCommand line).2 state
          unfold System.onLine at turned
          rw [handled] at turned
          apply follows_carried follows here obeys carried
          · rw [turned]
          · rw [turned]
          · rw [turned]
        · obtain ⟨inactive, other⟩ := Classical.not_imp.mp obeyed
          have handled : handleCommand system.table around line state =
              closing "-ERR Account inactive" := by
            simp only [handleCommand, phase]
            rw [if_pos (by simp [inactive, other])]
          unfold System.onLine at turned
          rw [handled] at turned
          subst turned
          apply follows.silent
          · intro seen command obeys
            obtain ⟨-, -, _, _, received, read, still⟩ := obeys
            cases received
            rw [← read] at still
            exact obeyed still
          · exact (congrArg Connection.state here).symm
          · exact le_refl _
          · exact follows.removed
          · exact trivial
          · intro _
            exact follows.idle (here ▸ idle_reading state)
          · intro _
            exact idle_closed state
  · have still : system.step (.received line around) = system := by
      unfold System.step
      cases here : system.connection with
      | reading state => exact absurd ⟨state, here⟩ reads
      | committing state remaining => rfl
      | deleting state number id remaining => rfl
      | closed state => rfl
      | committed state => rfl
    rw [still]
    apply follows.silent _ rfl (le_refl _) follows.removed follows.pending follows.idle id
    intro state command obeys
    exact reads ⟨state, obeys.1⟩

theorem follows_step (follows : Follows history system) (event : Event) :
    Follows (history ++ [⟨system, event, system.step event⟩]) (system.step event) := by
  cases event with
  | received line around => exact follows_received follows line around
  | lost timeout => exact follows_lost follows timeout
  | commit recorded => exact follows_commit follows recorded
  | elsewhere done => exact follows_elsewhere follows done

end Steps

theorem follows_accept (table : Table) (secure tlsAvailable allowInsecureAuth : Bool) :
    Follows [] (System.accept table secure tlsAvailable allowInsecureAuth) where
  asked id := by
    constructor
    · intro asked
      exact absurd asked not_since_nil
    · intro marked
      obtain ⟨number, member, -⟩ := marked
      cases member
  loaded := List.forall_mem_nil _
  unmarked _ := rfl
  removed := List.forall_mem_nil _
  pending := trivial
  idle _ := rfl
  unquit _ := idle_reading _

def System.settled (system : System) (state : State) (numbers : List Nat) : Bool :=
  numbers.all fun number =>
    match state.messages[number - 1]? with
    | some message => (system.table.find message.id).isNone
    | none => true

/-- A deletion that does not go through leaves nothing to delete: the message is gone,
and so are those that the commit has not come to. -/
def System.proceeds (system : System) : Event → Bool
  | .commit recorded =>
      match system.connection with
      | .committing state (number :: remaining) =>
          !system.settled state [number] || system.settled state remaining
      | .deleting state number id remaining =>
          ((system.table.find id).isSome && recorded) ||
            system.settled state (number :: remaining)
      | _ => true
  | _ => true

/-- What is marked is still to come or gone. -/
def System.Clears (system : System) : Prop :=
  match system.connection with
  | .committing state remaining =>
      ∀ number ∈ state.deletedMessages, number ∈ remaining ∨
        ∀ id, state.Numbers number id → system.table.find id = none
  | .deleting state number _ remaining =>
      ∀ other ∈ state.deletedMessages, other = number ∨ other ∈ remaining ∨
        ∀ id, state.Numbers other id → system.table.find id = none
  | .committed state =>
      ∀ number ∈ state.deletedMessages,
        ∀ id, state.Numbers number id → system.table.find id = none
  | _ => True

theorem settled_iff {system : System} {state : State} {numbers : List Nat} :
    system.settled state numbers = true ↔
      ∀ number ∈ numbers, ∀ id, state.Numbers number id → system.table.find id = none := by
  rw [System.settled, List.all_eq_true]
  apply forall₂_congr
  intro number _
  simp only [State.Numbers]
  cases state.messages[number - 1]? with
  | none => simp
  | some message => simp

theorem clears_step {history : List Step} {system : System} {event : Event}
    (follows : Follows history system) (clears : system.Clears)
    (proceeds : system.proceeds event = true) : (system.step event).Clears := by
  cases event with
  | received line around =>
      unfold System.step
      cases here : system.connection with
      | reading state =>
          dsimp only [System.onLine]
          cases (handleCommand system.table around line state).next with
          | going next => exact trivial
          | quit => exact trivial
          | commit =>
              intro number marked
              exact Or.inl ((List.mem_insertionSort _).mpr marked)
      | committing state remaining => simpa only [System.Clears, here] using clears
      | deleting state number id remaining => simpa only [System.Clears, here] using clears
      | closed state => simp only [System.Clears, here]
      | committed state => simpa only [System.Clears, here] using clears
  | lost timeout =>
      unfold System.step
      cases here : system.connection with
      | reading state => exact trivial
      | committing state remaining => simpa only [System.Clears, here] using clears
      | deleting state number id remaining => simpa only [System.Clears, here] using clears
      | closed state => simp only [System.Clears, here]
      | committed state => simpa only [System.Clears, here] using clears
  | commit recorded =>
      have commits := commits_step system recorded
      generalize system.step (.commit recorded) = after at commits
      cases commits with
      | still idle => exact clears
      | @done state here =>
          simp only [System.Clears, here] at clears
          intro number marked
          rcases clears number marked with left | gone
          · cases left
          · exact gone
      | @missing state number remaining here gone =>
          simp only [System.Clears, here] at clears
          simp only [System.proceeds, here, Bool.or_eq_true, Bool.not_eq_true'] at proceeds
          have first : system.settled state [number] = true := by
            rw [settled_iff]
            intro other member
            rw [List.mem_singleton.mp member]
            exact gone
          have rest := proceeds.resolve_left (by rw [first]; decide)
          intro other marked
          rcases clears other marked with left | gone_before
          · rcases List.mem_cons.mp left with same | later
            · rw [same]
              exact gone
            · exact settled_iff.mp rest other later
          · exact gone_before
      | @fetched state number id remaining here numbers =>
          simp only [System.Clears, here] at clears
          intro other marked
          rcases clears other marked with left | gone
          · rcases List.mem_cons.mp left with same | later
            · exact Or.inl same
            · exact Or.inr (Or.inl later)
          · exact Or.inr (Or.inr gone)
      | @failed state number id remaining replies here stops =>
          simp only [System.Clears, here] at clears
          simp only [System.proceeds, here, Bool.or_eq_true, Bool.and_eq_true] at proceeds
          have rest : system.settled state (number :: remaining) = true := by
            rcases proceeds with ⟨stored, recorded⟩ | settled
            · rcases stops with gone | unrecorded
              · rw [gone] at stored
                cases stored
              · rw [unrecorded] at recorded
                cases recorded
            · exact settled
          intro other marked
          rcases clears other marked with same | later | gone
          · exact settled_iff.mp rest other (same ▸ List.mem_cons_self)
          · exact settled_iff.mp rest other (List.mem_cons_of_mem _ later)
          · exact gone
      | @deleted state number id remaining here goes =>
          have numbers : state.Numbers number id := by
            have pending := follows.pending
            rw [here] at pending
            exact pending.2.1
          simp only [System.Clears, here] at clears
          intro other marked
          rcases clears other marked with same | later | gone
          · right
            intro named same_number
            rw [same] at same_number
            have equal : some id = some named := numbers.symm.trans same_number
            cases equal
            exact (SerialRows.find_delete id).trans (if_pos rfl)
          · exact Or.inl later
          · right
            intro named same_number
            rw [SerialRows.find_delete]
            split
            · rfl
            · exact gone named same_number
  | elsewhere done =>
      have kept : ∀ number id, system.state.Numbers number id →
          system.table.find id = none → (change system.table done).find id = none := by
        intro number id numbers gone
        obtain ⟨message, member, same⟩ := numbers.mem
        exact find_change_of_none (same ▸ follows.loaded message member) gone done
      unfold System.step System.Clears
      unfold System.Clears at clears
      rw [System.state] at kept
      cases here : system.connection with
      | reading state => exact trivial
      | closed state => exact trivial
      | committing state remaining =>
          rw [here] at clears kept
          intro number marked
          rcases clears number marked with left | gone
          · exact Or.inl left
          · exact Or.inr fun id numbers => kept number id numbers (gone id numbers)
      | deleting state number id remaining =>
          rw [here] at clears kept
          intro other marked
          rcases clears other marked with same | later | gone
          · exact Or.inl same
          · exact Or.inr (Or.inl later)
          · exact Or.inr (Or.inr fun named numbers =>
              kept other named numbers (gone named numbers))
      | committed state =>
          rw [here] at clears kept
          intro number marked id numbers
          exact kept number id numbers (clears number marked id numbers)

theorem follows_run (table : Table) (secure tlsAvailable allowInsecureAuth : Bool)
    (events : List Event) :
    Follows (transitions System.step
        (System.accept table secure tlsAvailable allowInsecureAuth) events)
      (events.foldl System.step
        (System.accept table secure tlsAvailable allowInsecureAuth)) := by
  have along : Along System.step (fun _ _ => True)
      (System.accept table secure tlsAvailable allowInsecureAuth) events :=
    fun _ _ _ _ => trivial
  apply along.history_invariant
  · intro history before event follows _
    exact follows_step follows event
  · exact follows_accept table secure tlsAvailable allowInsecureAuth

theorem deletesWhatWasAsked_of_proceeds (table : Table)
    (secure tlsAvailable allowInsecureAuth : Bool) (events : List Event)
    (proceeds : Along System.step (fun before event => before.proceeds event = true)
      (System.accept table secure tlsAvailable allowInsecureAuth) events) :
    DeletesWhatWasAsked (System.accept table secure tlsAvailable allowInsecureAuth)
      events := by
  have follows := follows_run table secure tlsAvailable allowInsecureAuth events
  have both : ∀ history before event, (Follows history before ∧ before.Clears) →
      before.proceeds event = true →
      Follows (history ++ [⟨before, event, before.step event⟩]) (before.step event) ∧
        (before.step event).Clears := by
    intro history before event invariant goes
    exact ⟨follows_step invariant.1 event, clears_step invariant.1 invariant.2 goes⟩
  have clears := (proceeds.history_invariant both
    ⟨follows_accept table secure tlsAvailable allowInsecureAuth, trivial⟩).2
  constructor
  · intro noQuit
    exact follows.idle (follows.unquit noQuit)
  · intro id member
    exact (follows.asked id).mpr (follows.removed id member)
  · intro state ended id asked
    obtain ⟨number, marked, numbers⟩ := (follows.asked id).mp asked
    rw [System.state, ended] at marked numbers
    unfold System.Clears at clears
    rw [ended] at clears
    exact clears number marked id numbers

def pair : Table :=
  (SerialRows.append (.append (.empty _ _) (StoredMessage.withId ⟨receivedRow 0, 1, 100⟩)
    (StoredMessage.withId_id _)) (StoredMessage.withId ⟨receivedRow 0, 2, 100⟩)
    (StoredMessage.withId_id _))

def plain : Surroundings where
  accountInactive := false
  rateLimit := .ok
  authenticate _ _ := some 1
  handshake := true
  content _ := ""
  top _ _ := ""

def markBoth : List Event :=
  [.received "USER a" plain, .received "PASS b" plain, .received "DELE 1" plain,
    .received "DELE 2" plain]

def overtaken : List Event :=
  markBoth ++ [.elsewhere (.deleted 1), .received "QUIT" plain, .commit true]

theorem deletesWhatWasAsked_both :
    DeletesWhatWasAsked (System.accept pair true false false)
      (markBoth ++ [.received "QUIT" plain, .commit true, .commit true, .commit true,
        .commit true, .commit true]) :=
  deletesWhatWasAsked_of_proceeds pair true false false _
    (along_of_check (by decide))

/-- The second message was asked for and is left in the table. -/
theorem not_deletesWhatWasAsked_overtaken :
    ¬ DeletesWhatWasAsked (System.accept pair true false false) overtaken := by
  intro exactly
  have follows := follows_run pair true false false overtaken
  have ended : (overtaken.foldl System.step
        (System.accept pair true false false)).connection =
      .committed (overtaken.foldl System.step
        (System.accept pair true false false)).connection.state := by
    decide
  have marked : (overtaken.foldl System.step
      (System.accept pair true false false)).state.Marked 2 := by
    refine ⟨2, ?_, ?_⟩
    · decide
    · unfold State.Numbers
      decide
  have gone := exactly.allAsked _ ended 2 ((follows.asked 2).mpr marked)
  have left : (overtaken.foldl System.step
      (System.accept pair true false false)).table.find 2 ≠ none := by
    decide
  exact left gone

end Elektrine.POP3
