import Elektrine.POP3.Server

/-!
# What a POP3 command does to the marks

The messages of a session are loaded once, by the login; afterwards only `DELE` and
`RSET` change the marks, and only `QUIT` leads to the commit.
-/

namespace Elektrine.POP3

open Elektrine.Email Elektrine.Library

structure Keeps (state next : State) : Prop where
  messages : next.messages = state.messages
  deletedMessages : next.deletedMessages = state.deletedMessages
  transactionState : next.transactionState = state.transactionState

theorem Keeps.refl (state : State) : Keeps state state := ⟨rfl, rfl, rfl⟩

/-- The reaction goes on, and its state keeps the messages and the marks. -/
def Reaction.Marking (state : State) (reaction : Reaction) : Prop :=
  ∃ next, reaction.next = .going next ∧ Keeps state next

theorem marking_reply (state : State) (text : String) :
    (state.reply text).Marking state := ⟨state, rfl, .refl state⟩

theorem marking_replies (state : State) (replies : List String) :
    (Reaction.mk replies (.going state)).Marking state := ⟨state, rfl, .refl state⟩

variable {state : State} {around : Surroundings}

theorem marking_onMessage {text : String} {found : Nat → Message → Reaction}
    (answers : ∀ number message, (found number message).Marking state) :
    (state.onMessage text found).Marking state := by
  unfold State.onMessage
  split
  · split
    · exact marking_reply state _
    · split
      · exact answers _ _
      · exact marking_reply state _
  · exact marking_reply state _

theorem marking_handleRetr (text : String) :
    (handleRetr around text state).Marking state := by
  apply marking_onMessage
  intro number message
  exact ⟨_, rfl, rfl, rfl, rfl⟩

theorem marking_handleTop (text : String) :
    (handleTop around text state).Marking state := by
  unfold handleTop
  split
  · split
    · exact marking_reply state _
    · split
      · exact marking_replies state _
      · exact marking_reply state _
  · exact marking_reply state _

theorem handleDele_cases (text : String) (state : State) :
    ((handleDele text state).Marking state ∧
      ∀ number, state.messageNumber text = some number → number ∈ state.deletedMessages) ∨
    ∃ number, state.messageNumber text = some number ∧
      (handleDele text state).next =
        .going { state with deletedMessages := number :: state.deletedMessages } := by
  unfold handleDele
  cases named : state.messageNumber text with
  | none =>
      left
      refine ⟨marking_reply state _, ?_⟩
      intro number other
      cases other
  | some number =>
      by_cases marked : state.deletedMessages.contains number = true
      · left
        simp only [marked, if_true]
        refine ⟨marking_reply state _, ?_⟩
        intro other same
        cases same
        exact List.contains_iff_mem.mp marked
      · right
        simp only [marked]
        exact ⟨number, rfl, rfl⟩

inductive Carried (state : State) (name : String) (args : Option String) :
    Next → Prop where
  | kept {next : State} (keeps : Keeps state next)
      (marked : ∀ text number, name = "DELE" → args = some text →
        state.messageNumber text = some number → number ∈ state.deletedMessages)
      (notReset : name ≠ "RSET") (notQuit : name ≠ "QUIT") :
      Carried state name args (.going next)
  | marked {text : String} {number : Nat} (named : name = "DELE")
      (argument : args = some text)
      (numbered : state.messageNumber text = some number) :
      Carried state name args
        (.going { state with deletedMessages := number :: state.deletedMessages })
  | reset (named : name = "RSET") :
      Carried state name args (.going { state with deletedMessages := [] })
  | quit (named : name = "QUIT") : Carried state name args .commit

theorem Reaction.Marking.carried {reaction : Reaction} {name : String}
    {args : Option String} (marking : reaction.Marking state) (notDele : name ≠ "DELE")
    (notReset : name ≠ "RSET") (notQuit : name ≠ "QUIT") :
    Carried state name args reaction.next := by
  obtain ⟨next, goes, keeps⟩ := marking
  rw [goes]
  exact .kept keeps (fun _ _ named => absurd named notDele) notReset notQuit

theorem carried_transactionCommand (around : Surroundings) (name : String)
    (args : Option String) (state : State) :
    Carried state name args (handleTransactionCommand around name args state).next := by
  unfold handleTransactionCommand
  split
  · exact (marking_reply state _).carried (by decide) (by decide) (by decide)
  · exact (marking_replies state _).carried (by decide) (by decide) (by decide)
  · apply Reaction.Marking.carried (marking_onMessage _) (by decide) (by decide) (by decide)
    intro number message
    exact marking_reply state _
  · exact (marking_reply state _).carried (by decide) (by decide) (by decide)
  · exact (marking_handleRetr _).carried (by decide) (by decide) (by decide)
  · apply Carried.kept (.refl state) _ (by decide) (by decide)
    intro text number _ missing
    cases missing
  · rename_i text
    rcases handleDele_cases text state with ⟨⟨next, goes, keeps⟩, marked⟩ | ⟨number, numbered, goes⟩
    · rw [goes]
      apply Carried.kept keeps _ (by decide) (by decide)
      intro other number _ same
      cases same
      exact marked number
    · rw [goes]
      exact .marked rfl rfl numbered
  · exact (marking_reply state _).carried (by decide) (by decide) (by decide)
  · exact .reset rfl
  · exact (marking_handleTop _).carried (by decide) (by decide) (by decide)
  · exact (marking_replies state _).carried (by decide) (by decide) (by decide)
  · apply Reaction.Marking.carried (marking_onMessage _) (by decide) (by decide) (by decide)
    intro number message
    exact marking_reply state _
  · exact .quit rfl
  · exact (marking_replies state _).carried (by decide) (by decide) (by decide)
  · rename_i notReset _ notQuit _ _ _ _ _ noArgument noText _ _
    have notDele : name ≠ "DELE" := by
      intro named
      cases shape : args with
      | none => exact noArgument named shape
      | some text => exact noText text named shape
    exact (marking_reply state _).carried notDele notReset notQuit

inductive Admitted (table : Table) (state : State) : Next → Prop where
  | quit : Admitted table state .quit
  | going {next : State}
      (marks : ∀ number ∈ next.deletedMessages, number ∈ state.deletedMessages)
      (loaded : ∀ message ∈ next.messages, message ∈ state.messages ∨
        ∃ stored ∈ table.rows, stored.id = message.id) :
      Admitted table state (.going next)

variable {table : Table}

theorem admitted_same {next : State} (messages : next.messages = state.messages)
    (marks : next.deletedMessages = state.deletedMessages) :
    Admitted table state (.going next) := by
  apply Admitted.going
  · intro number member
    rwa [marks] at member
  · intro message member
    left
    rwa [messages] at member

theorem stored_of_mem_list {mailboxId : Nat} {message : Message}
    (member : message ∈ listMessagesForPop3 table mailboxId) :
    ∃ stored ∈ table.rows, stored.id = message.id := by
  obtain ⟨stored, listed, same⟩ := List.mem_map.mp member
  have chosen := (List.mem_insertionSort _).mp listed
  exact ⟨stored, List.mem_of_mem_filter chosen, by rw [← same]⟩

theorem admitted_handlePass (user password : String) :
    Admitted table state (handlePass table around user password state).next := by
  unfold handlePass
  split
  · split
    · split
      · apply Admitted.going
        · intro number member
          exact member
        · intro message member
          exact Or.inr (stored_of_mem_list member)
      · exact admitted_same rfl rfl
    · exact .quit
    · exact .quit
    · exact .quit
    · exact .quit
  · exact admitted_same rfl rfl

theorem admitted_handleStls :
    Admitted table state (handleStls around state).next := by
  unfold handleStls
  split
  · split
    · apply Admitted.going
      · intro number member
        cases member
      · intro message member
        cases member
    · exact .quit
  · exact admitted_same rfl rfl

theorem admitted_authCommand (name : String) (args : Option String) :
    Admitted table state (handleAuthCommand table around name args state).next := by
  unfold handleAuthCommand
  split
  · exact admitted_same rfl rfl
  · split
    · exact admitted_same rfl rfl
    · exact admitted_same rfl rfl
  · exact admitted_same rfl rfl
  · split
    · exact admitted_handlePass _ _
    · exact admitted_same rfl rfl
  · exact .quit
  · exact admitted_same rfl rfl
  · exact admitted_handleStls
  · exact admitted_same rfl rfl

end Elektrine.POP3
