import Elektrine.Email.CustomFolders

/-!
# Filing messages

The operations that write the folder of a message: the generic changeset of the message
context, the move to a folder, and the actions of the users' filters.
-/

namespace Elektrine.Email.CustomFolders

open Elektrine.Library

structure OtherColumns where
  write : Message → Message
  id : ∀ message, (write message).id = message.id
  mailboxId : ∀ message, (write message).mailboxId = message.mailboxId
  folderId : ∀ message, (write message).folderId = message.folderId

def OtherColumns.silent : OtherColumns := ⟨fun message => message, fun _ => rfl, fun _ => rfl,
  fun _ => rfl⟩

structure MessageAttrs where
  folderId : Option Json
  mailboxId : Option (Option Nat)
  others : OtherColumns

/-- `%Message{}`. -/
def newMessage : Message where
  id := 0
  mailboxId := 0
  messageId := ""
  fromAddress := ""
  toAddress := none
  content := ⟨none, none, none, none, none, .obj [], .obj [], false⟩
  status := "received"
  read := false
  flagged := false
  answered := false
  deleted := false
  spam := false
  archived := false
  replyLaterAt := none
  folderId := none
  payloadValid := true

structure MessageChanges where
  folderId : FieldChange Nat
  mailboxId : Option Nat
  others : OtherColumns

def MessageChanges.apply (changes : MessageChanges) (message : Message) : Message :=
  { changes.others.write message with
    mailboxId := changes.mailboxId.getD message.mailboxId
    folderId := changes.folderId.apply message.folderId }

theorem MessageChanges.apply_id (changes : MessageChanges) (message : Message) :
    (changes.apply message).id = message.id := changes.others.id message

namespace Tables

variable (tables : Tables)

def hasFolder (id : Nat) : Bool := (tables.folders.find id).isSome

/-- `Message.changeset` and the foreign key of the folder. -/
def messageChanges (loaded : Message) (attrs : MessageAttrs) : Option MessageChanges :=
  let folderId := castId attrs.folderId
  if folderId.valid && attrs.mailboxId != some none && (attrs.others.write loaded).valid then
    ((folderId.change (loaded.folderId.map Int.ofNat)).refer tables.hasFolder).map
      fun folderId =>
        ⟨folderId, attrs.mailboxId.join.filter (· != loaded.mailboxId), attrs.others⟩
  else none

/-- The message that `create_message` inserts.  What else can refuse it is the last
argument. -/
def messageToInsert (attrs : MessageAttrs) (refused : Bool) : Option Message :=
  match attrs.mailboxId, tables.messageChanges newMessage attrs with
  | some (some _), some changes => if refused then none else some (changes.apply newMessage)
  | _, _ => none

def createMessage (attrs : MessageAttrs) (refused : Bool) : Option Tables :=
  (tables.messageToInsert attrs refused).map fun message =>
    { tables with messages := tables.messages.append message.withId message.withId_id }

def writeMessage (loaded : Message) (changes : MessageChanges) : Option (Tables × Message) :=
  match tables.messages.find loaded.id with
  | some _ =>
      some ({ tables with
        messages := tables.messages.modify loaded.id changes.apply changes.apply_id },
        changes.apply loaded)
  | none => none

/-- `update_message` of a message that was loaded some time ago. -/
def updateMessage (loaded : Message) (attrs : MessageAttrs) : Option (Tables × Message) :=
  (tables.messageChanges loaded attrs).bind (tables.writeMessage loaded)

/-- `update_message_flags(id, updates)`. -/
def updateMessageFlags (id : Nat) (updates : MessageAttrs) : Option Tables :=
  (tables.messages.find id).bind fun message =>
    (tables.updateMessage message updates).map Prod.fst

/-- `update_message_flags(id, mailbox_id, updates)`. -/
def updateOwnMessageFlags (id mailboxId : Nat) (updates : MessageAttrs) : Option Tables :=
  ((tables.messages.find id).filter fun message => message.mailboxId == mailboxId).bind
    fun message => (tables.updateMessage message updates).map Prod.fst

def validateFolderForMessageOwner (message : Message) : Json → Bool
  | .null => true
  | .int folderId =>
      match tables.owner message.mailboxId with
      | some userId => (tables.getFolder folderId userId).isSome
      | none => false
  | _ => false

/-- `move_message_to_folder` of a message that was loaded some time ago. -/
def moveMessageToFolder (message : Message) (folderId : Json) : Option Tables :=
  if tables.validateFolderForMessageOwner message folderId then
    tables.updateOwnMessageFlags message.id message.mailboxId
      ⟨some folderId, none, .silent⟩
  else none

/-- `delete_message` and `delete_draft`. -/
def deleteMessage (id : Nat) : Option Tables :=
  some { tables with messages := tables.messages.delete id }

end Tables

def validActionNames : List String :=
  ["move_to_digest", "move_to_ledger", "move_to_folder", "add_label", "remove_label",
    "mark_as_read", "mark_as_unread", "mark_as_spam", "archive", "delete", "star",
    "unstar", "set_priority", "forward_to"]

def validPriorities : List String := ["high", "normal", "low"]

def validActionValue (action : String) (value : Json) : Bool :=
  if action = "set_priority" then
    match value with
    | .str priority => validPriorities.contains priority
    | _ => false
  else if action = "forward_to" then
    match value with
    | .str address => address.toList.contains '@'
    | _ => false
  else if action = "move_to_folder" ∨ action = "add_label" ∨ action = "remove_label" then
    match value with
    | .int _ | .str _ => true
    | _ => false
  else
    match value with
    | .bool _ => true
    | _ => false

def validActions (actions : List (String × Json)) : Bool :=
  actions.all fun entry =>
    validActionNames.contains entry.1 && validActionValue entry.1 entry.2

structure Filter where
  enabled : Bool
  stopProcessing : Bool
  actions : List (String × Json)
  accepted : validActions actions = true

/-- `Map.merge`. -/
def mergeActions (actions later : List (String × Json)) : List (String × Json) :=
  (actions.filter fun entry => !(later.any fun other => other.1 == entry.1)) ++ later

/-- The filters of `list_enabled_filters` from the first one on, and the actions that have
been collected. -/
def collectActions (matched : Filter → Bool) :
    List Filter → List (String × Json) → List (String × Json)
  | [], actions => actions
  | filter :: filters, actions =>
      if matched filter then
        if filter.stopProcessing then mergeActions actions filter.actions
        else collectActions matched filters (mergeActions actions filter.actions)
      else collectActions matched filters actions

def applyFilters (matched : Filter → Bool) (filters : List Filter) : List (String × Json) :=
  collectActions matched (filters.filter Filter.enabled) []

def readColumn (read : Bool) : OtherColumns :=
  ⟨fun message => { message with read }, fun _ => rfl, fun _ => rfl, fun _ => rfl⟩

def spamColumn (spam : Bool) : OtherColumns :=
  ⟨fun message => { message with spam }, fun _ => rfl, fun _ => rfl, fun _ => rfl⟩

def archivedColumn (archived : Bool) : OtherColumns :=
  ⟨fun message => { message with archived }, fun _ => rfl, fun _ => rfl, fun _ => rfl⟩

def deletedColumn (deleted : Bool) : OtherColumns :=
  ⟨fun message => { message with deleted }, fun _ => rfl, fun _ => rfl, fun _ => rfl⟩

def flaggedColumn (flagged : Bool) : OtherColumns :=
  ⟨fun message => { message with flagged }, fun _ => rfl, fun _ => rfl, fun _ => rfl⟩

inductive ActionWrite where
  | column (others : OtherColumns)
  | update (attrs : MessageAttrs)

/-- The clauses of `execute_action`; the rest of the actions leave the message as it is. -/
def actionWrite (action : String) (value : Json) : Option ActionWrite :=
  if action = "move_to_folder" then some (.update ⟨some value, none, .silent⟩)
  else
    match value with
    | .bool true =>
        if action = "mark_as_read" then some (.column (readColumn true))
        else if action = "mark_as_unread" then some (.column (readColumn false))
        else if action = "mark_as_spam" then some (.column (spamColumn true))
        else if action = "archive" then some (.column (archivedColumn true))
        else if action = "delete" then some (.column (deletedColumn true))
        else if action = "star" then some (.update ⟨none, none, flaggedColumn true⟩)
        else if action = "unstar" then some (.update ⟨none, none, flaggedColumn false⟩)
        -- The category is not a column of the model.
        else if action = "move_to_digest" ∨ action = "move_to_ledger" then
          some (.update ⟨none, none, .silent⟩)
        else none
    | .str priority =>
        if action = "set_priority" ∧ validPriorities.contains priority then
          some (.update ⟨none, none, .silent⟩)
        else none
    | _ => none

namespace Tables

def executeAction (tables : Tables) (message : Message) (action : String) (value : Json) :
    Option (Tables × Message) :=
  match actionWrite action value with
  | none => some (tables, message)
  | some (.column others) => tables.writeMessage message ⟨.unchanged, none, others⟩
  | some (.update attrs) => tables.updateMessage message attrs

/-- `execute_actions`: an action that fails ends them. -/
def executeActions (tables : Tables) (message : Message) : List (String × Json) → Tables
  | [] => tables
  | (action, value) :: actions =>
      match tables.executeAction message action value with
      | some (tables, message) => tables.executeActions message actions
      | none => tables

end Tables

/-! ## What the filters do together -/

theorem validActions_mergeActions {actions later : List (String × Json)}
    (first : validActions actions = true) (second : validActions later = true) :
    validActions (mergeActions actions later) = true := by
  unfold validActions mergeActions at *
  rw [List.all_append, second, Bool.and_true]
  apply List.all_eq_true.mpr
  intro entry member
  exact List.all_eq_true.mp first entry (List.mem_of_mem_filter member)

theorem validActions_collectActions (matched : Filter → Bool) (filters : List Filter)
    {actions : List (String × Json)} (accepted : validActions actions = true) :
    validActions (collectActions matched filters actions) = true := by
  induction filters generalizing actions with
  | nil => exact accepted
  | cons filter filters ih =>
      have merged := validActions_mergeActions accepted filter.accepted
      rw [collectActions]
      split
      · split
        · exact merged
        · exact ih merged
      · exact ih accepted

/-- The filters whose actions are merged: the matching ones, down to the first of them that
stops the processing. -/
def processed (matched : Filter → Bool) : List Filter → List Filter
  | [] => []
  | filter :: filters =>
      if matched filter then
        filter :: if filter.stopProcessing then [] else processed matched filters
      else processed matched filters

theorem any_eq_isSome_lookup (actions : List (String × Json)) (key : String) :
    (actions.any fun entry => entry.1 == key) = (actions.lookup key).isSome := by
  induction actions with
  | nil => rfl
  | cons entry actions ih =>
      rw [List.any_cons, ih, List.lookup_cons, BEq.comm]
      cases key == entry.1 <;> rfl

theorem lookup_mergeActions (actions later : List (String × Json)) (key : String) :
    (mergeActions actions later).lookup key = (later.lookup key).or (actions.lookup key) := by
  induction actions with
  | nil => exact (Option.or_none).symm
  | cons entry actions ih =>
      obtain ⟨name, value⟩ := entry
      unfold mergeActions at ih ⊢
      rw [List.filter_cons, any_eq_isSome_lookup, List.lookup_cons]
      by_cases same : key = name
      · rw [same] at ih ⊢
        cases found : later.lookup name with
        | some last =>
            rw [found, Option.some_or] at ih
            rw [Option.some_or]
            exact ih
        | none =>
            rw [Option.none_or, beq_self_eq_true]
            exact List.lookup_cons_self
      · have other : (key == name) = false := beq_eq_false_iff_ne.mpr same
        rw [other]
        cases found : later.lookup name with
        | some last => exact ih
        | none =>
            change ((name, value) :: _).lookup key = _
            rw [List.lookup_cons, other]
            exact ih

theorem lookup_collectActions (matched : Filter → Bool) (filters : List Filter)
    (actions : List (String × Json)) (key : String) :
    (collectActions matched filters actions).lookup key =
      ((processed matched filters).reverse.findSome? fun filter =>
        filter.actions.lookup key).or (actions.lookup key) := by
  induction filters generalizing actions with
  | nil => exact (Option.none_or).symm
  | cons filter filters ih =>
      rw [collectActions, processed]
      split_ifs with applies stops
      · rw [lookup_mergeActions]
        simp
      · rw [ih, lookup_mergeActions, List.reverse_cons, List.findSome?_append, Option.or_assoc]
        simp
      · exact ih actions

/-- What is done with a message is what the last processed filter with that action says, and
would be accepted as the actions of one filter. -/
theorem applied_filters (matched : Filter → Bool) (filters : List Filter) :
    validActions (applyFilters matched filters) = true ∧
      ∀ action, (applyFilters matched filters).lookup action =
        (processed matched (filters.filter Filter.enabled)).reverse.findSome? fun filter =>
          filter.actions.lookup action := by
  constructor
  · exact validActions_collectActions matched _ rfl
  · intro action
    rw [applyFilters, lookup_collectActions]
    exact Option.or_none

end Elektrine.Email.CustomFolders
