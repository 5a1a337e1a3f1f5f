import Elektrine.Email.Writes
import Elektrine.IMAP.MessageCommands

/-!
# Addressed messages

What a set of sequence numbers or of identifiers selects from the messages of a session,
and what a change of each selected message leaves in the database.
-/

namespace Elektrine.IMAP

open Elektrine.Email

theorem mem_numbered {messages : List Listed} {message : Listed} {number : Nat} :
    (message, number) ∈ numbered messages ↔
      1 ≤ number ∧ messages[number - 1]? = some message :=
  List.mk_mem_zipIdx_iff_le_and_getElem?_sub

theorem mem_of_mem_numbered {messages : List Listed} {entry : Numbered}
    (member : entry ∈ numbered messages) : entry.1 ∈ messages :=
  List.mem_of_getElem? (mem_numbered.mp member).2

structure Addressed (messages : List Listed) (entries : List Numbered) : Prop where
  numbered : ∀ entry ∈ entries, entry ∈ numbered messages
  once : (entries.map fun entry => entry.1.id).Nodup

theorem id_lt_of_number_lt {messages : List Listed}
    (ascending : messages.Pairwise (·.id < ·.id)) {first second : Numbered}
    (firstMember : first ∈ numbered messages) (secondMember : second ∈ numbered messages)
    (below : first.2 < second.2) : first.1.id < second.1.id := by
  obtain ⟨firstPositive, firstAt⟩ := mem_numbered.mp firstMember
  obtain ⟨-, secondAt⟩ := mem_numbered.mp secondMember
  obtain ⟨firstLength, firstEq⟩ := List.getElem?_eq_some_iff.mp firstAt
  obtain ⟨secondLength, secondEq⟩ := List.getElem?_eq_some_iff.mp secondAt
  rw [← firstEq, ← secondEq]
  apply List.pairwise_iff_getElem.mp ascending
  omega

theorem eq_of_id_eq {messages : List Listed}
    (ascending : messages.Pairwise (·.id < ·.id)) {first second : Numbered}
    (firstMember : first ∈ numbered messages) (secondMember : second ∈ numbered messages)
    (same : first.1.id = second.1.id) : first = second := by
  rcases Nat.lt_trichotomy first.2 second.2 with below | equal | above
  · have := id_lt_of_number_lt ascending firstMember secondMember below
    omega
  · have firstAt := (mem_numbered.mp firstMember).2
    have secondAt := (mem_numbered.mp secondMember).2
    rw [equal] at firstAt
    exact Prod.ext (Option.some.inj (firstAt.symm.trans secondAt)) equal
  · have := id_lt_of_number_lt ascending secondMember firstMember above
    omega

theorem one_le_of_mem_expandSequencePart {part : String} {largest number : Nat}
    (member : number ∈ expandSequencePart part largest) : 1 ≤ number := by
  have within := (List.mem_filter.mp member).2
  rw [Bool.and_eq_true, decide_eq_true_eq] at within
  exact within.1

theorem mem_filterMap_at {messages : List Listed} {numbers : List Nat}
    {entry : Numbered} :
    (entry ∈ numbers.filterMap fun number =>
      (messages[number - 1]?).map fun message => (message, number)) ↔
      entry.2 ∈ numbers ∧ messages[entry.2 - 1]? = some entry.1 := by
  rw [List.mem_filterMap]
  constructor
  · intro found
    obtain ⟨number, member, selected⟩ := found
    obtain ⟨message, at_number, rfl⟩ := Option.map_eq_some_iff.mp selected
    exact ⟨member, at_number⟩
  · intro found
    obtain ⟨member, selected⟩ := found
    exact ⟨entry.2, member, by rw [selected]; rfl⟩

theorem mem_getMessagesBySequence {messages : List Listed} {sequenceSet : String}
    {entry : Numbered} (member : entry ∈ getMessagesBySequence messages sequenceSet) :
    entry ∈ numbered messages := by
  obtain ⟨chosen, selected⟩ := mem_filterMap_at.mp member
  rw [List.mem_insertionSort, List.mem_eraseDups, List.mem_flatMap] at chosen
  obtain ⟨part, -, expanded⟩ := chosen
  exact mem_numbered.mpr ⟨one_le_of_mem_expandSequencePart expanded, selected⟩

theorem sequence_numbers_ascend (messages : List Listed) (sequenceSet : String) :
    (getMessagesBySequence messages sequenceSet).Pairwise fun first second =>
      first.2 < second.2 := by
  unfold getMessagesBySequence
  apply List.Pairwise.filterMap
    (R := fun first second : Nat => first < second)
  · intro first second below firstEntry firstSelected secondEntry secondSelected
    obtain ⟨firstMessage, -, rfl⟩ := Option.map_eq_some_iff.mp firstSelected
    obtain ⟨secondMessage, -, rfl⟩ := Option.map_eq_some_iff.mp secondSelected
    exact below
  · apply List.Pairwise.imp₂ (R := (· ≤ ·)) (S := (· ≠ ·))
    · intro first second le ne
      exact Nat.lt_of_le_of_ne le ne
    · exact List.pairwise_insertionSort _ _
    · exact (List.perm_insertionSort _ _).nodup_iff.mpr (nodup_eraseDups _)

theorem addressed_bySequence {messages : List Listed}
    (ascending : messages.Pairwise (·.id < ·.id)) (sequenceSet : String) :
    Addressed messages (getMessagesBySequence messages sequenceSet) where
  numbered _ member := mem_getMessagesBySequence member
  once := by
    apply List.pairwise_map.mpr
    apply (sequence_numbers_ascend messages sequenceSet).imp_of_mem
    intro first second firstMember secondMember below
    exact Nat.ne_of_lt (id_lt_of_number_lt ascending
      (mem_getMessagesBySequence firstMember) (mem_getMessagesBySequence secondMember)
      below)

theorem mem_expandUidPart {messages : List Listed} {part : String} {entry : Numbered}
    (member : entry ∈ expandUidPart messages part) : entry ∈ numbered messages := by
  unfold expandUidPart at member
  split at member
  · exact member
  · split at member
    · exact List.mem_of_mem_filter member
    · split at member
      · exact List.mem_of_mem_filter member
      · cases member
    · cases member

theorem uniqueById_sublist (entries : List Numbered) (seen : List Nat) :
    (uniqueById entries seen).Sublist entries := by
  induction entries generalizing seen with
  | nil => exact List.Sublist.refl _
  | cons entry entries ih =>
      rw [uniqueById]
      split
      · exact (ih seen).cons _
      · exact (ih _).cons_cons _

theorem not_seen_of_mem_uniqueById {entries : List Numbered} {seen : List Nat}
    {entry : Numbered} (member : entry ∈ uniqueById entries seen) :
    entry.1.id ∉ seen := by
  induction entries generalizing seen with
  | nil => cases member
  | cons head entries ih =>
      rw [uniqueById] at member
      split at member
      · exact ih member
      · rename_i fresh
        rcases List.mem_cons.mp member with rfl | later
        · exact fresh
        · intro known
          exact ih later (List.mem_cons_of_mem _ known)

theorem nodup_uniqueById (entries : List Numbered) (seen : List Nat) :
    ((uniqueById entries seen).map fun entry => entry.1.id).Nodup := by
  induction entries generalizing seen with
  | nil => exact List.nodup_nil
  | cons entry entries ih =>
      rw [uniqueById]
      split
      · exact ih seen
      · rw [List.map_cons, List.nodup_cons]
        refine ⟨?_, ih _⟩
        intro again
        obtain ⟨other, member, same⟩ := List.mem_map.mp again
        apply not_seen_of_mem_uniqueById member
        rw [same]
        exact List.mem_cons_self

theorem addressed_byUid (messages : List Listed) (uidSet : String) :
    Addressed messages (getMessagesByUid messages uidSet) where
  numbered entry member := by
    obtain ⟨part, -, expanded⟩ :=
      List.mem_flatMap.mp ((uniqueById_sublist _ _).subset member)
    exact mem_expandUidPart expanded
  once := nodup_uniqueById _ _

/-- `update_message_flags` for each of the messages. -/
def updateEach (mailboxId : Nat) (updates : Listed → FlagUpdates) (database : Database)
    (entries : List Numbered) : Database :=
  entries.foldl (fun database entry =>
    database.updateMessageFlags entry.1.id mailboxId (updates entry.1)) database

theorem folders_updateEach (mailboxId : Nat) (updates : Listed → FlagUpdates)
    (database : Database) (entries : List Numbered) :
    (updateEach mailboxId updates database entries).folders = database.folders := by
  induction entries generalizing database with
  | nil => rfl
  | cons entry entries ih =>
      exact (ih _).trans (Database.folders_updateMessageFlags _ _ _ _)

theorem next_updateEach (mailboxId : Nat) (updates : Listed → FlagUpdates)
    (database : Database) (entries : List Numbered) :
    (updateEach mailboxId updates database entries).messages.next =
      database.messages.next := by
  induction entries generalizing database with
  | nil => rfl
  | cons entry entries ih =>
      exact (ih _).trans (Database.next_updateMessageFlags _ _ _ _)

theorem getMessage_updateEach_other {mailboxId id : Nat}
    {updates : Listed → FlagUpdates} {database : Database} {entries : List Numbered}
    (others : ∀ entry ∈ entries, entry.1.id ≠ id) :
    (updateEach mailboxId updates database entries).getMessage id mailboxId =
      database.getMessage id mailboxId := by
  induction entries generalizing database with
  | nil => rfl
  | cons entry entries ih =>
      have here := others entry List.mem_cons_self
      apply (ih fun other member => others other (List.mem_cons_of_mem _ member)).trans
      rw [Database.getMessage_updateMessageFlags, if_neg (Ne.symm here)]

theorem getMessage_updateEach {messages : List Listed} {mailboxId : Nat}
    {updates : Listed → FlagUpdates} {database : Database} {entries : List Numbered}
    (addressed : Addressed messages entries) {entry : Numbered} (member : entry ∈ entries) :
    (updateEach mailboxId updates database entries).getMessage entry.1.id mailboxId =
      (database.getMessage entry.1.id mailboxId).map
        (Message.storeUpdates (updates entry.1)) := by
  have once := addressed.once
  clear addressed
  induction entries generalizing database with
  | nil => cases member
  | cons head entries ih =>
      rw [List.map_cons, List.nodup_cons] at once
      obtain ⟨first, once⟩ := once
      rcases List.mem_cons.mp member with rfl | later
      · have rest : ∀ other ∈ entries, other.1.id ≠ entry.1.id := by
          intro other otherMember same
          exact first (List.mem_map.mpr ⟨other, otherMember, same⟩)
        apply (getMessage_updateEach_other rest).trans
        rw [Database.getMessage_updateMessageFlags, if_pos rfl]
      · have apart : entry.1.id ≠ head.1.id := by
          intro same
          exact first (List.mem_map.mpr ⟨entry, later, same⟩)
        apply (ih later once).trans
        rw [Database.getMessage_updateMessageFlags, if_neg apart]

end Elektrine.IMAP
