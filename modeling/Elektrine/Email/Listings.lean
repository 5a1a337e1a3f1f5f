import Elektrine.Email.Messages

/-!
# What the listings have in common

Which system folders can list one message, from the conditions of their listings.
-/

namespace Elektrine.Email

theorem not_incoming_of_sent {message : Message} (sent : message.status = "sent") :
    message.incoming = false := by
  simp [Message.incoming, sent]

theorem not_incoming_of_draft {message : Message} (draft : message.status = "draft") :
    message.incoming = false := by
  simp [Message.incoming, draft]

theorem Message.not_deleted_of_inCustomFolder {message : Message} {folderId : Nat}
    (filed : message.inCustomFolder folderId) : message.deleted = false := by
  simp only [Message.inCustomFolder, Bool.and_eq_true, Bool.not_eq_true'] at filed
  exact filed.2

namespace ImapFolder

theorem not_deleted {folder : ImapFolder} {message : Message}
    (shown : folder.shows message) (not_trash : folder ≠ .trash)
    (not_other : folder ≠ .other) : message.deleted = false := by
  cases folder with
  | trash => exact absurd rfl not_trash
  | other => exact absurd rfl not_other
  | inbox => simp only [shows, Bool.and_eq_true, Bool.not_eq_true'] at shown; exact shown.1.2
  | sent => simp only [shows, Bool.and_eq_true, Bool.not_eq_true'] at shown; exact shown.2
  | drafts => simp only [shows, Bool.and_eq_true, Bool.not_eq_true'] at shown; exact shown.2
  | spam => simp only [shows, Bool.and_eq_true, Bool.not_eq_true'] at shown; exact shown.2

/-- Beside the folder, the inbox lists mail that its author sent to himself. -/
def SharesInbox (folder : ImapFolder) (message : Message) : Prop :=
  message.selfSent ∧
    (folder = .sent ∧ message.status = "sent" ∨
      folder = .drafts ∧ message.status = "draft")

theorem shares_of_inbox {folder : ImapFolder} {message : Message}
    (inInbox : ImapFolder.inbox.shows message) (shown : folder.shows message)
    (different : folder ≠ .inbox) (not_other : folder ≠ .other) :
    folder.SharesInbox message := by
  have kept : message.deleted = false :=
    not_deleted inInbox (by decide) (by decide)
  simp only [shows, Bool.and_eq_true, Bool.or_eq_true, Bool.not_eq_true'] at inInbox
  obtain ⟨⟨⟨⟨-, from_him⟩, clean⟩, -⟩, -⟩ := inInbox
  cases folder with
  | inbox => exact absurd rfl different
  | other => exact absurd rfl not_other
  | trash =>
      have gone : message.deleted = true := shown
      rw [kept] at gone
      cases gone
  | spam =>
      simp only [shows, Bool.and_eq_true] at shown
      rw [clean] at shown
      cases shown.1.2.1
  | sent =>
      simp only [shows, Bool.and_eq_true, beq_iff_eq] at shown
      have sent := shown.1.2
      rw [not_incoming_of_sent sent] at from_him
      exact ⟨from_him.resolve_left Bool.false_ne_true, Or.inl ⟨rfl, sent⟩⟩
  | drafts =>
      simp only [shows, Bool.and_eq_true, beq_iff_eq] at shown
      have draft := shown.1.2
      rw [not_incoming_of_draft draft] at from_him
      exact ⟨from_him.resolve_left Bool.false_ne_true, Or.inr ⟨rfl, draft⟩⟩

theorem status_of_shows {folder : ImapFolder} {message : Message}
    (shown : folder.shows message) :
    (folder = .sent → message.status = "sent") ∧
      (folder = .drafts → message.status = "draft") ∧
      (folder = .spam → message.incoming = true) := by
  refine ⟨?_, ?_, ?_⟩
  · intro same
    subst same
    simp only [shows, Bool.and_eq_true, beq_iff_eq] at shown
    exact shown.1.2
  · intro same
    subst same
    simp only [shows, Bool.and_eq_true, beq_iff_eq] at shown
    exact shown.1.2
  · intro same
    subst same
    simp only [shows, Bool.and_eq_true] at shown
    exact shown.1.2.2

theorem eq_of_status {first second : ImapFolder} {message : Message}
    (firstShown : first.shows message) (secondShown : second.shows message)
    (firstOne : first = .sent ∨ first = .drafts ∨ first = .spam)
    (secondOne : second = .sent ∨ second = .drafts ∨ second = .spam) :
    first = second := by
  obtain ⟨firstSent, firstDraft, firstSpam⟩ := status_of_shows firstShown
  obtain ⟨secondSent, secondDraft, secondSpam⟩ := status_of_shows secondShown
  rcases firstOne with rfl | rfl | rfl
  · have sent := firstSent rfl
    rcases secondOne with rfl | rfl | rfl
    · rfl
    · have draft := secondDraft rfl
      rw [sent] at draft
      exact absurd draft (by decide)
    · have incoming := secondSpam rfl
      rw [not_incoming_of_sent sent] at incoming
      cases incoming
  · have draft := firstDraft rfl
    rcases secondOne with rfl | rfl | rfl
    · have sent := secondSent rfl
      rw [draft] at sent
      exact absurd sent (by decide)
    · rfl
    · have incoming := secondSpam rfl
      rw [not_incoming_of_draft draft] at incoming
      cases incoming
  · have incoming := firstSpam rfl
    rcases secondOne with rfl | rfl | rfl
    · rw [not_incoming_of_sent (secondSent rfl)] at incoming
      cases incoming
    · rw [not_incoming_of_draft (secondDraft rfl)] at incoming
      cases incoming
    · rfl

theorem shared {first second : ImapFolder} {message : Message}
    (firstShown : first.shows message) (secondShown : second.shows message)
    (different : first ≠ second) (first_named : first ≠ .other)
    (second_named : second ≠ .other) :
    first = .inbox ∧ second.SharesInbox message ∨
      second = .inbox ∧ first.SharesInbox message := by
  by_cases firstInbox : first = .inbox
  · subst firstInbox
    exact Or.inl ⟨rfl, shares_of_inbox firstShown secondShown (Ne.symm different)
      second_named⟩
  · by_cases secondInbox : second = .inbox
    · subst secondInbox
      exact Or.inr ⟨rfl, shares_of_inbox secondShown firstShown different first_named⟩
    · exfalso
      by_cases firstTrash : first = .trash
      · subst firstTrash
        have gone : message.deleted = true := firstShown
        rw [not_deleted secondShown (Ne.symm different) second_named] at gone
        cases gone
      · by_cases secondTrash : second = .trash
        · subst secondTrash
          have gone : message.deleted = true := secondShown
          rw [not_deleted firstShown different first_named] at gone
          cases gone
        · apply different
          apply eq_of_status firstShown secondShown
          · cases first <;> simp_all
          · cases second <;> simp_all

end ImapFolder

end Elektrine.Email
