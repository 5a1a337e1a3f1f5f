import Elektrine.Email.Messages

/-!
# What a write leaves behind

Each function that writes messages, by the row it finds under an identifier and by the
row that is found there afterwards.
-/

namespace Elektrine.Email

open Elektrine.Library

/-- The row after `update_message_flags`: a change that the changeset rejects is not
made. -/
def Message.storeUpdates (updates : FlagUpdates) (message : Message) : Message :=
  if (message.withUpdates updates).valid then message.withUpdates updates else message

namespace Database

variable {database : Database} {id other mailboxId : Nat}

theorem getMessage_eq_some_iff {message : Message} :
    database.getMessage id mailboxId = some message ↔
      message ∈ database.messages.rows ∧ message.id = id ∧
        message.mailboxId = mailboxId := by
  rw [getMessage, Option.filter_eq_some_iff, SerialRows.find_eq_some_iff, beq_iff_eq,
    and_assoc]

theorem getMessage_congr {first second : Database}
    (same : first.messages.find id = second.messages.find id) :
    first.getMessage id mailboxId = second.getMessage id mailboxId := by
  rw [getMessage, getMessage, same]

theorem folders_updateMessageFlags (database : Database) (id mailboxId : Nat)
    (updates : FlagUpdates) :
    (database.updateMessageFlags id mailboxId updates).folders = database.folders := by
  unfold updateMessageFlags
  cases database.getMessage id mailboxId with
  | none => rfl
  | some message =>
      dsimp only
      split
      · rfl
      · rfl

theorem next_updateMessageFlags (database : Database) (id mailboxId : Nat)
    (updates : FlagUpdates) :
    (database.updateMessageFlags id mailboxId updates).messages.next =
      database.messages.next := by
  unfold updateMessageFlags
  cases database.getMessage id mailboxId with
  | none => rfl
  | some message =>
      dsimp only
      split
      · rfl
      · rfl

theorem next_markAsRead (database : Database) (id mailboxId : Nat) :
    (database.markAsRead id mailboxId).messages.next = database.messages.next := by
  unfold markAsRead
  cases database.getMessage id mailboxId with
  | none => rfl
  | some message => rfl

theorem next_deleteMessage (database : Database) (id mailboxId : Nat) :
    (database.deleteMessage id mailboxId).messages.next = database.messages.next := by
  unfold deleteMessage
  cases database.getMessage id mailboxId with
  | none => rfl
  | some message => rfl

theorem getMessage_updateMessageFlags (updates : FlagUpdates) :
    (database.updateMessageFlags id mailboxId updates).getMessage other mailboxId =
      if other = id then
        (database.getMessage id mailboxId).map (Message.storeUpdates updates)
      else database.getMessage other mailboxId := by
  unfold updateMessageFlags
  cases found : database.getMessage id mailboxId with
  | none =>
      dsimp only
      split
      · rename_i same
        rw [same, found]
        rfl
      · rfl
  | some message =>
      obtain ⟨row, keyed⟩ := Option.filter_eq_some_iff.mp found
      dsimp only
      rw [Option.map_some, Message.storeUpdates]
      by_cases accepted : (message.withUpdates updates).valid = true
      · rw [if_pos accepted, if_pos accepted]
        rw [getMessage, SerialRows.find_modify]
        split
        · rw [row, Option.map_some, Option.filter_some]
          have own : ((message.withUpdates updates).mailboxId == mailboxId) = true :=
            keyed
          rw [own]
          rfl
        · rfl
      · rw [if_neg accepted, if_neg accepted]
        split
        · rename_i same
          rw [same, found]
        · rfl

end Database

end Elektrine.Email
