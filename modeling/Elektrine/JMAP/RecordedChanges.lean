import Elektrine.JMAP.MessageOperations

/-!
# Which changes are recorded

A client hears of an email only through the recorded changes.  The moves between the
categories and the thread that a parent is put into are shown and not recorded.
-/

namespace Elektrine.JMAP

open Elektrine.Email Elektrine.Library

variable {Cipher : Type}

def ThreadTables.shown (tables : ThreadTables Cipher) (views : Views Cipher) (id : Nat) :
    Option JmapEmail :=
  (tables.messages.find id).map (messageToJmapEmail views)

/-- A change of the email stands in a journal under a counter that the journal had not
reached. -/
def Recorded (before after : MailTables Cipher) (id : Nat) : Prop :=
  ∃ mailboxId, ∃ change ∈ (after.journals mailboxId).changes,
    change.emailId = id ∧ (before.journals mailboxId).stateCounter < change.stateCounter

/-- Every email that is shown in another way than before has a recorded change. -/
def EveryChangeRecorded (views : Views Cipher) (before after : MailTables Cipher) : Prop :=
  ∀ id, after.shown views id ≠ before.shown views id → Recorded before after id

section Condition

variable (subjectHash : String → String) (tables : MailTables Cipher)

/-- The stored message keeps its folder when it gets the category that the given one has
not. -/
def StaysInFolder (given : MessageRecord Cipher) (category : String) : Prop :=
  given.category = some category ∨ ∀ message, tables.messages.find given.id = some message →
    shownFolder { message.toMessageRow with category := some category } =
      shownFolder message.toMessageRow

/-- A parent without a thread gets the thread that it has shown. -/
def ParentKeepsThread (tables : ThreadTables Cipher) (mailboxId : Nat)
    (headers : ThreadHeaders) : Prop :=
  ∀ parentId subject,
    findParent tables.messages.rows mailboxId headers = .ok (some (.loose parentId subject)) →
    (findOrCreateThreadBySubject subjectHash tables.threads subject mailboxId).1 = parentId

def CreationKeepsThreads (attrs : NewMessage Cipher) : Prop :=
  attrs.refused = true ∨ (attrs.row.threadId.any (0 < ·) = true ∨ attrs.row.mailboxId = 0) ∨
    ParentKeepsThread subjectHash tables.toThreadTables attrs.row.mailboxId attrs.headers

def NothingUnseen : MessageOperation Cipher → Prop
  | .stackMessage given _ _ => StaysInFolder tables given "stack"
  | .unstackMessage given => StaysInFolder tables given "inbox"
  | .moveToDigest given valid => valid = true → StaysInFolder tables given "feed"
  | .moveToLedger given valid => valid = true → StaysInFolder tables given "ledger"
  | .createMessage attrs | .saveNewDraft attrs => CreationKeepsThreads subjectHash tables attrs
  | .assignThread mailboxId headers =>
      ParentKeepsThread subjectHash tables.toThreadTables mailboxId headers
  | _ => True

end Condition

theorem recorded_record {before updated : MailTables Cipher}
    (same : updated.journals = before.journals) (mailboxId id : Nat)
    (changeType : ChangeType) : Recorded before (updated.record mailboxId id changeType) id := by
  refine ⟨mailboxId, ⟨id, changeType, (before.journals mailboxId).stateCounter + 1⟩, ?_, rfl,
    Nat.lt_succ_self _⟩
  have journal : (updated.record mailboxId id changeType).journals mailboxId =
      (before.journals mailboxId).record id changeType := by
    unfold MailTables.record
    dsimp only
    rw [if_pos rfl, same]
  rw [journal]
  exact List.mem_append_right _ (List.mem_singleton_self _)

theorem not_recorded {before after : MailTables Cipher} (same : after.journals = before.journals)
    (id : Nat) : ¬ Recorded before after id := by
  intro recorded
  obtain ⟨mailboxId, change, member, -, newer⟩ := recorded
  rw [same] at member
  exact Nat.not_le.mpr newer ((before.journals mailboxId).bounded change member)

theorem not_recorded_record {before updated : MailTables Cipher}
    (same : updated.journals = before.journals) {mailboxId recordedId id : Nat}
    {changeType : ChangeType} (apart : id ≠ recordedId) :
    ¬ Recorded before (updated.record mailboxId recordedId changeType) id := by
  intro recorded
  obtain ⟨other, change, member, named, newer⟩ := recorded
  have older : change ∈ (before.journals other).changes := by
    unfold MailTables.record at member
    dsimp only at member
    rw [same] at member
    split at member
    · rcases List.mem_append.mp member with old | last
      · exact old
      · rw [List.mem_singleton.mp last] at named
        exact absurd named.symm apart
    · exact member
  exact Nat.not_le.mpr newer ((before.journals other).bounded change older)

section Updates

variable {views : Views Cipher} {tables after : MailTables Cipher} {id : Nat}
  {changes : Changes Cipher}

theorem update_journals (done : tables.update id changes = some after) :
    after.journals = tables.journals := by
  unfold MailTables.update at done
  split at done
  · cases done
    rfl
  · split at done
    · cases done
      rfl
    · cases done

theorem find_update (done : tables.update id changes = some after) (other : Nat) :
    after.messages.find other =
      if other = id then (tables.messages.find id).map (applyChanges changes)
      else tables.messages.find other := by
  unfold MailTables.update at done
  split at done
  · rename_i empty
    rw [List.isEmpty_iff.mp empty]
    cases done
    split
    · rename_i chosen
      rw [chosen]
      cases tables.messages.find id with
      | none => rfl
      | some message => rfl
    · rfl
  · split at done
    · cases done
      rw [SerialRows.find_modify]
    · cases done

theorem exists_update {message : MessageRecord Cipher}
    (stored : tables.messages.find id = some message) :
    ∃ after, tables.update id changes = some after := by
  unfold MailTables.update
  split
  · exact ⟨_, rfl⟩
  · rw [stored]
    exact ⟨_, rfl⟩

theorem shown_update_of_ne (done : tables.update id changes = some after) {other : Nat}
    (apart : other ≠ id) : after.shown views other = tables.shown views other := by
  unfold ThreadTables.shown
  rw [find_update done, if_neg apart]

theorem everyChangeRecorded_updateRecorded {given : MessageRecord Cipher}
    (done : tables.updateRecorded given changes = some after) :
    EveryChangeRecorded views tables after := by
  obtain ⟨updated, before, rfl⟩ := Option.map_eq_some_iff.mp done
  intro other differs
  by_cases same : other = given.id
  · rw [same]
    exact recorded_record (update_journals before) _ _ _
  · exact absurd (shown_update_of_ne before same) differs

theorem everyChangeRecorded_update_iff :
    (∀ after, tables.update id changes = some after → EveryChangeRecorded views tables after) ↔
      ∀ message, tables.messages.find id = some message →
        messageToJmapEmail views (applyChanges changes message) =
          messageToJmapEmail views message := by
  constructor
  · intro every message stored
    obtain ⟨after, done⟩ := exists_update stored
    by_contra differs
    apply not_recorded (update_journals done) id
    apply every after done id
    unfold ThreadTables.shown
    rw [find_update done, if_pos rfl, stored]
    intro same
    exact differs (Option.some.inj same)
  · intro unseen after done other differs
    by_cases same : other = id
    · subst same
      apply absurd _ differs
      unfold ThreadTables.shown
      rw [find_update done, if_pos rfl]
      cases stored : tables.messages.find other with
      | none => rfl
      | some message => exact congrArg some (unseen message stored)
    · exact absurd (shown_update_of_ne done same) differs

end Updates

section Columns

variable {views : Views Cipher} {given message : MessageRecord Cipher}

theorem applyChanges_append (front back : Changes Cipher) (message : MessageRecord Cipher) :
    applyChanges (front ++ back) message = applyChanges back (applyChanges front message) :=
  List.foldl_append

theorem applyChanges_putChange (unchanged : Bool) (change : ColumnChange Cipher)
    (message : MessageRecord Cipher) :
    applyChanges (putChange unchanged change) message =
      if unchanged then message else change.assign message := by
  unfold putChange
  split
  · rfl
  · rfl

theorem shown_putCategory_iff {category : String} :
    messageToJmapEmail views (applyChanges (putCategory given category) message) =
        messageToJmapEmail views message ↔
      given.category = some category ∨
        shownFolder { message.toMessageRow with category := some category } =
          shownFolder message.toMessageRow := by
  unfold putCategory
  rw [applyChanges_putChange]
  by_cases has : given.category = some category
  · rw [if_pos (beq_iff_eq.mpr has)]
    exact ⟨fun _ => Or.inl has, fun _ => rfl⟩
  · rw [if_neg fun same => has (beq_iff_eq.mp same)]
    constructor
    · intro same
      exact Or.inr (messageToJmapEmail_category.mp same)
    · intro either
      rcases either with same | same
      · exact absurd same has
      · exact messageToJmapEmail_category.mpr same

theorem shown_stackChangeset (reason : Option String) (now : Nat) :
    messageToJmapEmail views (applyChanges (stackChangeset given reason now) message) =
      messageToJmapEmail views (applyChanges (putCategory given "stack") message) := by
  unfold stackChangeset putStackReason putCategory putStackAt
  rw [applyChanges_append, applyChanges_append, applyChanges_putChange, applyChanges_putChange,
    applyChanges_putChange, applyChanges_putChange]
  split <;> split <;> split <;> rfl

theorem shown_unstackChangeset :
    messageToJmapEmail views (applyChanges (unstackChangeset given) message) =
      messageToJmapEmail views (applyChanges (putCategory given "inbox") message) := by
  unfold unstackChangeset putStackReason putCategory putStackAt
  rw [applyChanges_append, applyChanges_append, applyChanges_putChange, applyChanges_putChange,
    applyChanges_putChange]
  split <;> split <;> split <;> rfl

theorem shown_clearReplyLaterChangeset :
    messageToJmapEmail views (applyChanges (clearReplyLaterChangeset given) message) =
      messageToJmapEmail views message := by
  unfold clearReplyLaterChangeset putReplyLaterAt putReplyLaterReminder
  rw [applyChanges_append, applyChanges_putChange, applyChanges_putChange]
  split <;> split <;> rfl

theorem shown_replyLaterChangeset {replyAt : Option Nat} {reminder : Bool}
    {changes : Changes Cipher}
    (accepted : replyLaterChangeset given replyAt reminder = some changes) :
    messageToJmapEmail views (applyChanges changes message) =
      messageToJmapEmail views message := by
  cases replyAt with
  | none => cases accepted
  | some time =>
      cases accepted
      unfold putReplyLaterAt putReplyLaterReminder
      rw [applyChanges_append, applyChanges_putChange, applyChanges_putChange]
      split <;> split <;> rfl

theorem shown_trackOpenChangeset (now : Nat) :
    messageToJmapEmail views (applyChanges (trackOpenChangeset given now) message) =
      messageToJmapEmail views message := by
  unfold trackOpenChangeset putOpenedAt putOpenCount putFirstOpenedAt
  rw [applyChanges_append, applyChanges_append, applyChanges_putChange, applyChanges_putChange]
  split
  · rw [applyChanges_putChange]
    split <;> split <;> split <;> rfl
  · split <;> split <;> rfl

end Columns

section Threads

variable {subjectHash : String → String} {views : Views Cipher} {mailboxId : Nat}
  {headers : ThreadHeaders}

theorem messages_assignThread {tables threaded : ThreadTables Cipher} {threadId : Option Nat}
    (done : assignThread subjectHash tables mailboxId headers = .ok (threadId, threaded)) :
    (∃ parentId subject,
      findParent tables.messages.rows mailboxId headers = .ok (some (.loose parentId subject)) ∧
      threaded.messages = tables.messages.modify parentId
        (joinThread (findOrCreateThreadBySubject subjectHash tables.threads subject mailboxId).1)
        (joinThread_id _)) ∨
    (threaded.messages = tables.messages ∧
      ParentKeepsThread subjectHash tables mailboxId headers) := by
  unfold assignThread at done
  split at done
  · cases done
  · rename_i parent found
    cases parent with
    | threaded parentThread =>
        cases done
        right
        refine ⟨rfl, ?_⟩
        intro parentId subject loose
        rw [found] at loose
        cases loose
    | loose parentId subject =>
        cases done
        exact Or.inl ⟨parentId, subject, found, rfl⟩
  · rename_i found
    right
    have kept : ParentKeepsThread subjectHash tables mailboxId headers := by
      intro parentId subject loose
      rw [found] at loose
      cases loose
    split at done
    · cases done
      exact ⟨rfl, kept⟩
    · cases done
      exact ⟨rfl, kept⟩

theorem parentKeepsThread_of_error {tables : ThreadTables Cipher}
    (raised : assignThread subjectHash tables mailboxId headers = .error ()) :
    ParentKeepsThread subjectHash tables mailboxId headers := by
  intro parentId subject found
  unfold assignThread at raised
  rw [found] at raised
  cases raised

theorem next_assignThread {tables threaded : ThreadTables Cipher} {threadId : Option Nat}
    (done : assignThread subjectHash tables mailboxId headers = .ok (threadId, threaded)) :
    threaded.messages.next = tables.messages.next := by
  rcases messages_assignThread done with ⟨parentId, subject, -, same⟩ | ⟨same, -⟩
  · rw [same, SerialRows.next_modify]
  · rw [same]

theorem shown_assignThread_iff {tables threaded : ThreadTables Cipher} {threadId : Option Nat}
    (done : assignThread subjectHash tables mailboxId headers = .ok (threadId, threaded)) :
    (∀ id, threaded.shown views id = tables.shown views id) ↔
      ParentKeepsThread subjectHash tables mailboxId headers := by
  rcases messages_assignThread done with ⟨parentId, subject, found, same⟩ | ⟨same, kept⟩
  · obtain ⟨message, member, itsId, loose⟩ := mem_of_findParent found
    have stored := SerialRows.find_eq_some_iff.mpr ⟨member, itsId⟩
    have joined : ∀ thread, joinThread thread message =
        { message with threadId := some thread } := fun thread => if_pos loose
    constructor
    · intro unseen otherId otherSubject otherFound
      rw [found] at otherFound
      cases otherFound
      have shown := unseen parentId
      unfold ThreadTables.shown at shown
      rw [same, SerialRows.find_modify, if_pos rfl, stored, Option.map_some, Option.map_some,
        Option.map_some, joined] at shown
      exact ((messageToJmapEmail_threadId loose).mp (Option.some.inj shown)).trans itsId
    · intro kept id
      unfold ThreadTables.shown
      rw [same, SerialRows.find_modify]
      split
      · rename_i chosen
        rw [chosen, stored, Option.map_some, Option.map_some, Option.map_some, joined]
        exact congrArg some ((messageToJmapEmail_threadId loose).mpr
          ((kept parentId subject found).trans itsId.symm))
      · rfl
  · refine ⟨fun _ => kept, ?_⟩
    intro _ id
    unfold ThreadTables.shown
    rw [same]

theorem everyChangeRecorded_threaded_iff {tables : MailTables Cipher}
    {threaded : ThreadTables Cipher} :
    EveryChangeRecorded views tables { tables with toThreadTables := threaded } ↔
      ∀ id, threaded.shown views id = tables.shown views id := by
  constructor
  · intro every id
    by_contra differs
    exact not_recorded rfl id (every id differs)
  · intro unseen id differs
    exact absurd (unseen id) differs

theorem everyChangeRecorded_insertMessage_iff {tables : MailTables Cipher}
    {threaded : ThreadTables Cipher} {attrs : NewMessage Cipher} {threadId : Option Nat}
    (same : threaded.messages.next = tables.messages.next) :
    EveryChangeRecorded views tables (insertMessage tables attrs threadId threaded) ↔
      ∀ id, threaded.shown views id = tables.shown views id := by
  unfold insertMessage
  split
  · exact everyChangeRecorded_threaded_iff
  · have others : ∀ id, id ≠ threaded.messages.next →
        ((threaded.messages.append
          (fun id => { attrs.row with id := id, threadId := threadId }) fun _ => rfl).find id).map
            (messageToJmapEmail views) = threaded.shown views id := by
      intro id apart
      rw [SerialRows.find_append, if_neg apart]
      rfl
    constructor
    · intro every id
      by_cases new : id = threaded.messages.next
      · have missing : threaded.messages.find id = none := by
          cases found : threaded.messages.find id with
          | none => rfl
          | some message => exact absurd (SerialRows.find_lt found) (by omega)
        have absent : tables.messages.find id = none := by
          cases found : tables.messages.find id with
          | none => rfl
          | some message => exact absurd (SerialRows.find_lt found) (by omega)
        unfold ThreadTables.shown
        rw [missing, absent]
      · by_contra differs
        refine not_recorded_record (by rfl) new (every id ?_)
        intro shown
        exact differs ((others id new).symm.trans shown)
    · intro unseen id differs
      by_cases new : id = threaded.messages.next
      · rw [new]
        exact recorded_record (by rfl) _ _ _
      · exact absurd ((others id new).trans (unseen id)) differs

theorem everyChangeRecorded_createMessage_iff {tables : MailTables Cipher}
    {attrs : NewMessage Cipher} :
    (∀ after, createMessage tables subjectHash attrs = some after →
      EveryChangeRecorded views tables after) ↔
      CreationKeepsThreads subjectHash tables attrs := by
  unfold createMessage CreationKeepsThreads
  cases refused : attrs.refused with
  | true => simp
  | false =>
      unfold maybeAssignThread
      by_cases chosen : attrs.row.threadId.any (0 < ·) = true ∨ attrs.row.mailboxId = 0
      · rw [if_pos chosen]
        refine ⟨fun _ => Or.inr (Or.inl chosen), ?_⟩
        intro _ after done
        cases done
        exact (everyChangeRecorded_insertMessage_iff rfl).mpr fun _ => rfl
      · rw [if_neg chosen]
        cases assigned : assignThread subjectHash tables.toThreadTables attrs.row.mailboxId
            attrs.headers with
        | error =>
            refine ⟨fun _ => Or.inr (Or.inr ?_), ?_⟩
            · exact parentKeepsThread_of_error assigned
            · intro _ after done
              cases done
        | ok outcome =>
            obtain ⟨threadId, threaded⟩ := outcome
            have decided : ∀ thread,
                EveryChangeRecorded views tables (insertMessage tables attrs thread threaded) ↔
                  ParentKeepsThread subjectHash tables.toThreadTables attrs.row.mailboxId
                    attrs.headers := fun _ =>
              (everyChangeRecorded_insertMessage_iff (next_assignThread assigned)).trans
                (shown_assignThread_iff assigned)
            constructor
            · intro every
              exact Or.inr (Or.inr ((decided _).mp (every _ rfl)))
            · intro kept after done
              cases done
              rcases kept with impossible | direct | kept
              · cases impossible
              · exact absurd direct chosen
              · exact (decided _).mpr kept

theorem everyChangeRecorded_assignThreadAlone_iff {tables : MailTables Cipher} :
    (∀ after, assignThreadAlone tables subjectHash mailboxId headers = some after →
      EveryChangeRecorded views tables after) ↔
      ParentKeepsThread subjectHash tables.toThreadTables mailboxId headers := by
  unfold assignThreadAlone
  cases assigned : assignThread subjectHash tables.toThreadTables mailboxId headers with
  | error =>
      apply iff_of_true
      · intro after done
        cases done
      · exact parentKeepsThread_of_error assigned
  | ok outcome =>
      obtain ⟨threadId, threaded⟩ := outcome
      rw [← shown_assignThread_iff assigned, ← everyChangeRecorded_threaded_iff]
      constructor
      · intro every
        exact every _ rfl
      · intro every after done
        cases done
        exact every

end Threads

section Operations

variable {views : Views Cipher} {tables after : MailTables Cipher}
  {given : MessageRecord Cipher}

theorem everyChangeRecorded_updateMessage {changeset : Changeset Cipher}
    (done : updateMessage tables given changeset = some after) :
    EveryChangeRecorded views tables after := by
  unfold updateMessage at done
  split at done
  · exact everyChangeRecorded_updateRecorded done
  · cases done

theorem everyChangeRecorded_deleteMessage (done : deleteMessage tables given = some after) :
    EveryChangeRecorded views tables after := by
  unfold deleteMessage at done
  split at done
  · cases done
    intro id differs
    by_cases same : id = given.id
    · rw [same]
      exact recorded_record (by rfl) _ _ _
    · apply absurd _ differs
      have others : (tables.messages.delete given.id).find id = tables.messages.find id := by
        rw [SerialRows.find_delete, if_neg same]
      exact congrArg (Option.map (messageToJmapEmail views)) others
  · cases done

theorem everyChangeRecorded_onStored {messageId : Nat} {asked : MessageRecord Cipher → Bool}
    {operate : MessageRecord Cipher → Option (MailTables Cipher)}
    (records : ∀ message, operate message = some after → EveryChangeRecorded views tables after)
    (done : onStored tables messageId asked operate = some after) :
    EveryChangeRecorded views tables after := by
  unfold onStored at done
  split at done
  · split at done
    · exact records _ done
    · cases done
  · cases done

theorem everyChangeRecorded_category_iff {changes : Changes Cipher} {category : String}
    (shown : ∀ message, messageToJmapEmail views (applyChanges changes message) =
      messageToJmapEmail views (applyChanges (putCategory given category) message)) :
    (∀ after, tables.update given.id changes = some after →
      EveryChangeRecorded views tables after) ↔ StaysInFolder tables given category := by
  rw [everyChangeRecorded_update_iff]
  unfold StaysInFolder
  constructor
  · intro unseen
    by_cases has : given.category = some category
    · exact Or.inl has
    · right
      intro message stored
      have folder := shown_putCategory_iff.mp ((shown message).symm.trans (unseen message stored))
      exact folder.resolve_left has
  · intro stays message stored
    rw [shown, shown_putCategory_iff]
    exact stays.imp_right fun same => same message stored

theorem everyChangeRecorded_moveToCategory_iff {category : String} {valid : Bool} :
    (∀ after, moveToCategory tables given category valid = some after →
      EveryChangeRecorded views tables after) ↔
      (valid = true → StaysInFolder tables given category) := by
  cases valid with
  | true =>
      have moved : (∀ after, tables.update given.id (putCategory given category) = some after →
          EveryChangeRecorded views tables after) ↔ StaysInFolder tables given category :=
        everyChangeRecorded_category_iff fun _ => rfl
      exact moved.trans ⟨fun stays _ => stays, fun stays => stays rfl⟩
  | false => simp [moveToCategory]

theorem everyChangeRecorded_replyLaterMessage {replyAt : Option Nat} {reminder : Bool} :
    ∀ after, replyLaterMessage tables given replyAt reminder = some after →
      EveryChangeRecorded views tables after := by
  unfold replyLaterMessage
  cases accepted : replyLaterChangeset given replyAt reminder with
  | none =>
      intro after done
      cases done
  | some changes =>
      apply everyChangeRecorded_update_iff.mpr
      intro message _
      exact shown_replyLaterChangeset accepted

end Operations

/-- The operations that record every change they make are those that make none in the
category or the thread without recording it. -/
theorem everyChangeRecorded_iff (subjectHash : String → String) (views : Views Cipher)
    (tables : MailTables Cipher) (operation : MessageOperation Cipher) :
    (∀ after, performOperation subjectHash tables operation = some after →
      EveryChangeRecorded views tables after) ↔
      NothingUnseen subjectHash tables operation := by
  cases operation with
  | createMessage attrs => exact everyChangeRecorded_createMessage_iff
  | saveNewDraft attrs => exact everyChangeRecorded_createMessage_iff
  | updateMessage given changeset =>
      apply iff_of_true _ trivial
      intro after done
      exact everyChangeRecorded_updateMessage done
  | updateMessageFlags messageId changeset =>
      apply iff_of_true _ trivial
      intro after
      exact everyChangeRecorded_onStored fun _ => everyChangeRecorded_updateMessage
  | updateMessageFlagsIn messageId mailboxId changeset =>
      apply iff_of_true _ trivial
      intro after
      exact everyChangeRecorded_onStored fun _ => everyChangeRecorded_updateMessage
  | saveDraft draftId changeset =>
      apply iff_of_true _ trivial
      intro after
      exact everyChangeRecorded_onStored fun _ => everyChangeRecorded_updateMessage
  | deleteDraft draftId mailboxId =>
      apply iff_of_true _ trivial
      intro after
      exact everyChangeRecorded_onStored fun _ => everyChangeRecorded_deleteMessage
  | markAsRead given => exact iff_of_true (fun _ => everyChangeRecorded_updateRecorded) trivial
  | markAsUnread given => exact iff_of_true (fun _ => everyChangeRecorded_updateRecorded) trivial
  | markAsSpam given => exact iff_of_true (fun _ => everyChangeRecorded_updateRecorded) trivial
  | markAsNotSpam given =>
      exact iff_of_true (fun _ => everyChangeRecorded_updateRecorded) trivial
  | archiveMessage given =>
      exact iff_of_true (fun _ => everyChangeRecorded_updateRecorded) trivial
  | unarchiveMessage given =>
      exact iff_of_true (fun _ => everyChangeRecorded_updateRecorded) trivial
  | trashMessage given => exact iff_of_true (fun _ => everyChangeRecorded_updateRecorded) trivial
  | untrashMessage given =>
      exact iff_of_true (fun _ => everyChangeRecorded_updateRecorded) trivial
  | deleteMessage given => exact iff_of_true (fun _ => everyChangeRecorded_deleteMessage) trivial
  | deleteMessageById messageId =>
      apply iff_of_true _ trivial
      intro after
      exact everyChangeRecorded_onStored fun _ => everyChangeRecorded_deleteMessage
  | deleteMessageIn messageId mailboxId =>
      apply iff_of_true _ trivial
      intro after
      exact everyChangeRecorded_onStored fun _ => everyChangeRecorded_deleteMessage
  | trackMessageOpen given now =>
      apply iff_of_true _ trivial
      apply everyChangeRecorded_update_iff.mpr
      intro message _
      exact shown_trackOpenChangeset now
  | stackMessage given reason now =>
      exact everyChangeRecorded_category_iff fun _ => shown_stackChangeset reason now
  | unstackMessage given => exact everyChangeRecorded_category_iff fun _ => shown_unstackChangeset
  | moveToDigest given valid => exact everyChangeRecorded_moveToCategory_iff
  | moveToLedger given valid => exact everyChangeRecorded_moveToCategory_iff
  | replyLaterMessage given replyAt reminder =>
      exact iff_of_true everyChangeRecorded_replyLaterMessage trivial
  | clearReplyLater given =>
      apply iff_of_true _ trivial
      apply everyChangeRecorded_update_iff.mpr
      intro message _
      exact shown_clearReplyLaterChangeset
  | assignThread mailboxId headers => exact everyChangeRecorded_assignThreadAlone_iff

def plainViews : Views String where
  owner _ := none
  encryption :=
    { encrypt := fun _ text _ => text
      decrypt := fun cipher _ => some cipher
      indexContent := fun text _ => [text]
      undoes := fun _ _ _ => rfl }
  nameAndEmail _ := none

def receivedMessage (messageId : String) : MessageRecord String where
  toMessageRow := receivedRow 1
  messageId := messageId
  cc := none
  bcc := none
  subject := some "Lunch"
  textBody := some "At noon?"
  htmlBody := none
  encryptedTextBody := none
  encryptedHtmlBody := none
  flagged := false
  answered := false
  stackReason := none
  replyLaterReminder := false
  openedAt := none
  firstOpenedAt := none
  openCount := 0
  insertedAt := 0

def oneMessage : MailTables String where
  messages := (SerialRows.empty _ _).append
    (fun id => { receivedMessage "lunch@example.com" with id := id }) fun _ => rfl
  threads := { SerialRows.empty ThreadRow ThreadRow.id with
    next := 2
    fresh := List.forall_mem_nil _ }
  journals _ := Journal.empty

/-- The message goes from the inbox to the feed, and no client hears of it. -/
theorem not_everyChangeRecorded_moveToDigest :
    ¬ ∀ after, performOperation (fun subject => subject) oneMessage
        (.moveToDigest (receivedMessage "lunch@example.com") true) = some after →
      EveryChangeRecorded plainViews oneMessage after := by
  intro every
  have stays := (everyChangeRecorded_moveToCategory_iff.mp every) rfl
  rcases stays with has | folder
  · exact absurd has (by decide)
  · exact absurd (folder (receivedMessage "lunch@example.com") rfl) (by decide)

def reply : NewMessage String where
  row := { receivedMessage "yes@example.com" with id := 0 }
  headers := ⟨some "<lunch@example.com>", ["lunch@example.com"], "Re: Lunch"⟩
  refused := false

-- A reply to the message puts it into a thread; only the reply is recorded.
example : (createMessage oneMessage (fun subject => subject) reply).map (fun after =>
    ((after.shown plainViews 1).map JmapEmail.threadId,
      (after.journals 1).changes.map EmailChange.emailId)) = some (some "2", [2]) := by decide

end Elektrine.JMAP
