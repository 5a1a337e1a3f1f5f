import Elektrine.IMAP.Addressed

/-!
# Copies of messages

Which copies `copy_uid_pairs` makes, under which identifiers, and that it changes
nothing that was there before.
-/

namespace Elektrine.IMAP

open Elektrine.Email

structure Grows (before after : Database) : Prop where
  folders : after.folders = before.folders
  next : before.messages.next ≤ after.messages.next
  older : ∀ id, id < before.messages.next →
    after.messages.find id = before.messages.find id

namespace Grows

theorem refl (database : Database) : Grows database database :=
  ⟨rfl, Nat.le_refl _, fun _ _ => rfl⟩

theorem trans {first second third : Database} (early : Grows first second)
    (late : Grows second third) : Grows first third where
  folders := late.folders.trans early.folders
  next := early.next.trans late.next
  older id below :=
    (late.older id (Nat.lt_of_lt_of_le below early.next)).trans (early.older id below)

theorem getMessage {before after : Database} (grows : Grows before after) {id : Nat}
    (below : id < before.messages.next) (mailboxId : Nat) :
    after.getMessage id mailboxId = before.getMessage id mailboxId :=
  Database.getMessage_congr (grows.older id below)

end Grows

def copyFor (copying : Copying) (mailbox : Mailbox) (destFolder : String)
    (database : Database) (id : Nat) : Option Message :=
  match database.getMessage id mailbox.id with
  | none => none
  | some fullMessage =>
      match resolveDestinationFolder database destFolder mailbox.userId fullMessage with
      | none => none
      | some destination =>
          let copy := copyOf copying.now mailbox destination fullMessage
          if copying.refused id || !copy.valid then none else some copy

def appendMessage (database : Database) (message : Message) : Database :=
  { database with
    messages := database.messages.append message.withId message.withId_id }

theorem copyMessageToFolder_eq (copying : Copying) (mailbox : Mailbox)
    (destFolder : String) (database : Database) (id : Nat) :
    copyMessageToFolder copying mailbox destFolder database id =
      (copyFor copying mailbox destFolder database id).map fun copy =>
        (database.messages.next, appendMessage database copy) := by
  unfold copyMessageToFolder copyFor
  cases database.getMessage id mailbox.id with
  | none => rfl
  | some fullMessage =>
      dsimp only
      cases resolveDestinationFolder database destFolder mailbox.userId fullMessage with
      | none => rfl
      | some destination =>
          dsimp only
          unfold Database.createMessage
          split
          · rfl
          · rfl

theorem resolveDestinationFolder_congr {first second : Database}
    (same : first.folders = second.folders) (destFolder : String)
    (userId : Option Nat) (fullMessage : Message) :
    resolveDestinationFolder first destFolder userId fullMessage =
      resolveDestinationFolder second destFolder userId fullMessage := by
  unfold resolveDestinationFolder findCustomFolderByName Database.listFolders
  rw [same]

theorem Grows.copyFor {before after : Database} (grows : Grows before after)
    (copying : Copying) (mailbox : Mailbox) (destFolder : String) {id : Nat}
    (below : id < before.messages.next) :
    copyFor copying mailbox destFolder after id =
      copyFor copying mailbox destFolder before id := by
  unfold IMAP.copyFor
  rw [grows.getMessage below]
  cases before.getMessage id mailbox.id with
  | none => rfl
  | some fullMessage =>
      dsimp only
      rw [resolveDestinationFolder_congr grows.folders]

theorem grows_appendMessage (database : Database) (message : Message) :
    Grows database (appendMessage database message) where
  folders := rfl
  next := Nat.le_succ _
  older id below := by
    unfold appendMessage
    rw [Library.SerialRows.find_append, if_neg (Nat.ne_of_lt below)]

theorem find_appendMessage (database : Database) (message : Message) :
    (appendMessage database message).messages.find database.messages.next =
      some (message.withId database.messages.next) := by
  unfold appendMessage
  rw [Library.SerialRows.find_append, if_pos rfl]

def copiesOf (pairs : List (Nat × Nat)) (id : Nat) : List Nat :=
  (pairs.filter fun pair => pair.1 == id).map Prod.snd

section
variable {copying : Copying} {mailbox : Mailbox} {destFolder : String}

theorem copyUidPairs_cons_none {database : Database} {entry : Numbered}
    {entries : List Numbered}
    (skipped : copyFor copying mailbox destFolder database entry.1.id = none) :
    copyUidPairs copying mailbox destFolder database (entry :: entries) =
      copyUidPairs copying mailbox destFolder database entries := by
  rw [copyUidPairs, copyMessageToFolder_eq, skipped]
  rfl

theorem copyUidPairs_cons_some {database : Database} {entry : Numbered}
    {entries : List Numbered} {copy : Message}
    (made : copyFor copying mailbox destFolder database entry.1.id = some copy) :
    copyUidPairs copying mailbox destFolder database (entry :: entries) =
      ((entry.1.id, database.messages.next) ::
          (copyUidPairs copying mailbox destFolder (appendMessage database copy)
            entries).1,
        (copyUidPairs copying mailbox destFolder (appendMessage database copy)
          entries).2) := by
  rw [copyUidPairs, copyMessageToFolder_eq, made]
  rfl

theorem grows_copyUidPairs (entries : List Numbered) (database : Database) :
    Grows database (copyUidPairs copying mailbox destFolder database entries).2 := by
  induction entries generalizing database with
  | nil => exact Grows.refl database
  | cons entry entries ih =>
      cases made : copyFor copying mailbox destFolder database entry.1.id with
      | none =>
          rw [copyUidPairs_cons_none made]
          exact ih database
      | some copy =>
          rw [copyUidPairs_cons_some made]
          exact (grows_appendMessage database copy).trans (ih _)

theorem copied_of_mem_copyUidPairs {entries : List Numbered} {database : Database}
    {pair : Nat × Nat}
    (member : pair ∈ (copyUidPairs copying mailbox destFolder database entries).1) :
    (∃ entry ∈ entries, entry.1.id = pair.1) ∧ database.messages.next ≤ pair.2 := by
  induction entries generalizing database with
  | nil => cases member
  | cons entry entries ih =>
      cases made : copyFor copying mailbox destFolder database entry.1.id with
      | none =>
          rw [copyUidPairs_cons_none made] at member
          obtain ⟨⟨other, otherMember, same⟩, above⟩ := ih member
          exact ⟨⟨other, List.mem_cons_of_mem _ otherMember, same⟩, above⟩
      | some copy =>
          rw [copyUidPairs_cons_some made] at member
          rcases List.mem_cons.mp member with rfl | later
          · exact ⟨⟨entry, List.mem_cons_self, rfl⟩, Nat.le_refl _⟩
          · obtain ⟨⟨other, otherMember, same⟩, above⟩ := ih later
            have grown : database.messages.next ≤
                (appendMessage database copy).messages.next := Nat.le_succ _
            exact ⟨⟨other, List.mem_cons_of_mem _ otherMember, same⟩, grown.trans above⟩

theorem copiesOf_eq_nil {entries : List Numbered} {database : Database} {id : Nat}
    (others : ∀ entry ∈ entries, entry.1.id ≠ id) :
    copiesOf (copyUidPairs copying mailbox destFolder database entries).1 id = [] := by
  unfold copiesOf
  rw [List.map_eq_nil_iff, List.filter_eq_nil_iff]
  intro pair member same
  obtain ⟨⟨entry, entryMember, keyed⟩, -⟩ := copied_of_mem_copyUidPairs member
  exact others entry entryMember (keyed.trans (beq_iff_eq.mp same))

theorem copiesOf_copyUidPairs {entries : List Numbered} {database : Database}
    (once : (entries.map fun entry => entry.1.id).Nodup)
    (issued : ∀ entry ∈ entries, entry.1.id < database.messages.next)
    {entry : Numbered} (member : entry ∈ entries) :
    (copyFor copying mailbox destFolder database entry.1.id = none ∧
      copiesOf (copyUidPairs copying mailbox destFolder database entries).1
        entry.1.id = []) ∨
    ∃ copy id, copyFor copying mailbox destFolder database entry.1.id = some copy ∧
      copiesOf (copyUidPairs copying mailbox destFolder database entries).1
        entry.1.id = [id] ∧
      database.messages.next ≤ id ∧
      (copyUidPairs copying mailbox destFolder database entries).2.messages.find id =
        some (copy.withId id) := by
  induction entries generalizing database with
  | nil => cases member
  | cons head entries ih =>
      rw [List.map_cons, List.nodup_cons] at once
      obtain ⟨first, once⟩ := once
      have apart : ∀ other ∈ entries, other.1.id ≠ head.1.id := by
        intro other otherMember same
        exact first (List.mem_map.mpr ⟨other, otherMember, same⟩)
      have issued_rest : ∀ other ∈ entries, other.1.id < database.messages.next :=
        fun other otherMember => issued other (List.mem_cons_of_mem _ otherMember)
      cases made : copyFor copying mailbox destFolder database head.1.id with
      | none =>
          rw [copyUidPairs_cons_none made]
          rcases List.mem_cons.mp member with rfl | later
          · exact Or.inl ⟨made, copiesOf_eq_nil apart⟩
          · exact ih once issued_rest later
      | some copy =>
          rw [copyUidPairs_cons_some made]
          have grown := grows_appendMessage database copy
          rcases List.mem_cons.mp member with rfl | later
          · refine Or.inr ⟨copy, database.messages.next, made, ?_, Nat.le_refl _, ?_⟩
            · have none_later : copiesOf (copyUidPairs copying mailbox destFolder
                  (appendMessage database copy) entries).1 entry.1.id = [] :=
                copiesOf_eq_nil apart
              unfold copiesOf at none_later ⊢
              rw [List.filter_cons_of_pos (by simp), List.map_cons, none_later]
            · rw [(grows_copyUidPairs entries (appendMessage database copy)).older _
                (Nat.lt_succ_self _)]
              exact find_appendMessage database copy
          · have others : ((head.1.id, database.messages.next).1 == entry.1.id) = false :=
              beq_eq_false_iff_ne.mpr (Ne.symm (apart entry later))
            have issued_later : ∀ other ∈ entries,
                other.1.id < (appendMessage database copy).messages.next :=
              fun other otherMember =>
                Nat.lt_of_lt_of_le (issued_rest other otherMember) grown.next
            have result := ih once issued_later later
            rw [grown.copyFor copying mailbox destFolder (issued_rest entry later)]
              at result
            have skipped : ∀ pairs, copiesOf
                ((head.1.id, database.messages.next) :: pairs) entry.1.id =
                  copiesOf pairs entry.1.id := by
              intro pairs
              unfold copiesOf
              rw [List.filter_cons_of_neg (by rw [others]; decide)]
            rw [skipped]
            rcases result with unmade | copied
            · exact Or.inl unmade
            · obtain ⟨itsCopy, id, itsMade, copied, above, found⟩ := copied
              exact Or.inr ⟨itsCopy, id, itsMade, copied, grown.next.trans above, found⟩

end

end Elektrine.IMAP
