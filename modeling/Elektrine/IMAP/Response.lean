import Elektrine.IMAP.Helpers

/-!
# Flags of a message

The flags a session shows for a message, the result of a `STORE` operation on them, and
the fields that are written back for a list of flags.
-/

namespace Elektrine.IMAP

open Elektrine.Email

/-- The folder names for which `\Deleted` is not shown. -/
@[irreducible] def isTrashName (currentFolder : String) : Bool :=
  upcase currentFolder == "TRASH"

def getMessageFlags (message : Listed) (currentFolder : String) : List String :=
  (if message.spam then ["Junk"] else ["NonJunk"]) ++
    (if message.deleted && !isTrashName currentFolder then ["\\Deleted"] else []) ++
    (if message.status == "draft" then ["\\Draft"] else []) ++
    (if message.answered then ["\\Answered"] else []) ++
    (if message.flagged then ["\\Flagged"] else []) ++
    (if message.read then ["\\Seen"] else [])

/-- `String.replace_suffix(text, suffix, "")`. -/
def dropSuffix (text suffix : String) : String :=
  if suffix.toList.isSuffixOf text.toList then
    String.ofList (text.toList.take (text.length - suffix.length))
  else text

/-- The operations of a `STORE` command. -/
inductive FlagOperation where
  | replace
  | add
  | remove
  | unknown
  deriving DecidableEq

/-- The normalised operation of `apply_flag_operation`. -/
@[irreducible] def flagOperation (operation : String) : FlagOperation :=
  (([("FLAGS", .replace), ("+FLAGS", .add), ("-FLAGS", .remove)] :
    List (String × FlagOperation)).lookup
      (dropSuffix (upcase operation) ".SILENT")).getD .unknown

/-- `silent_store_operation?`. -/
def isSilentStoreOperation (operation : String) : Bool :=
  ".SILENT".toList.isSuffixOf (upcase (trim operation)).toList

def applyFlagOperation (message : Listed) (operation : String) (flags : List String)
    (currentFolder : String) : List String :=
  let currentFlags := getMessageFlags message currentFolder
  match flagOperation operation with
  | .replace => flags
  | .add => (currentFlags ++ flags).eraseDups
  | .remove => currentFlags.diff flags
  | .unknown => currentFlags

def messageUpdatesFromFlags (message : Listed) (flags : List String) : FlagUpdates where
  read := flags.contains "\\Seen"
  flagged := flags.contains "\\Flagged"
  answered := flags.contains "\\Answered"
  deleted := flags.contains "\\Deleted"
  spam :=
    if flags.contains "Junk" || flags.contains "$Junk" then true
    else if flags.contains "NonJunk" || flags.contains "$NonJunk" then false
    else message.spam
  status :=
    if flags.contains "\\Draft" then "draft"
    else if message.status == "draft" then "received"
    else message.status

example : flagOperation "-Flags.Silent" = .remove := by decide +kernel

theorem mem_ite_singleton {condition : Prop} [Decidable condition]
    {flag item : String} :
    flag ∈ (if condition then [item] else []) ↔ condition ∧ flag = item := by
  split <;> simp_all

theorem mem_getMessageFlags {message : Listed} {currentFolder flag : String} :
    flag ∈ getMessageFlags message currentFolder ↔
      (message.spam = true ∧ flag = "Junk" ∨ message.spam = false ∧ flag = "NonJunk") ∨
        (message.deleted = true ∧ isTrashName currentFolder = false) ∧
          flag = "\\Deleted" ∨
        message.status = "draft" ∧ flag = "\\Draft" ∨
        message.answered = true ∧ flag = "\\Answered" ∨
        message.flagged = true ∧ flag = "\\Flagged" ∨
        message.read = true ∧ flag = "\\Seen" := by
  have junk : flag ∈ (if message.spam then ["Junk"] else ["NonJunk"]) ↔
      message.spam = true ∧ flag = "Junk" ∨ message.spam = false ∧ flag = "NonJunk" := by
    cases message.spam <;> simp
  unfold getMessageFlags
  simp only [List.mem_append, mem_ite_singleton, junk, Bool.and_eq_true, Bool.not_eq_true',
    beq_iff_eq, or_assoc]

section
variable {message : Listed} {currentFolder : String}

theorem seen_mem_getMessageFlags :
    "\\Seen" ∈ getMessageFlags message currentFolder ↔ message.read = true := by
  simp [mem_getMessageFlags]

theorem flagged_mem_getMessageFlags :
    "\\Flagged" ∈ getMessageFlags message currentFolder ↔ message.flagged = true := by
  simp [mem_getMessageFlags]

theorem answered_mem_getMessageFlags :
    "\\Answered" ∈ getMessageFlags message currentFolder ↔ message.answered = true := by
  simp [mem_getMessageFlags]

theorem draft_mem_getMessageFlags :
    "\\Draft" ∈ getMessageFlags message currentFolder ↔ message.status = "draft" := by
  simp [mem_getMessageFlags]

theorem deleted_mem_getMessageFlags :
    "\\Deleted" ∈ getMessageFlags message currentFolder ↔
      message.deleted = true ∧ isTrashName currentFolder = false := by
  simp [mem_getMessageFlags]

theorem junk_mem_getMessageFlags :
    "Junk" ∈ getMessageFlags message currentFolder ↔ message.spam = true := by
  simp [mem_getMessageFlags]

theorem nonJunk_mem_getMessageFlags :
    "NonJunk" ∈ getMessageFlags message currentFolder ↔ message.spam = false := by
  simp [mem_getMessageFlags]

def shownFlags : List String :=
  ["Junk", "NonJunk", "\\Deleted", "\\Draft", "\\Answered", "\\Flagged", "\\Seen"]

theorem shown_of_mem_getMessageFlags {flag : String}
    (member : flag ∈ getMessageFlags message currentFolder) : flag ∈ shownFlags := by
  rw [mem_getMessageFlags] at member
  rcases member with (⟨-, rfl⟩ | ⟨-, rfl⟩) | ⟨-, rfl⟩ | ⟨-, rfl⟩ | ⟨-, rfl⟩ | ⟨-, rfl⟩ | ⟨-, rfl⟩
  all_goals decide

theorem nodup_getMessageFlags : (getMessageFlags message currentFolder).Nodup := by
  unfold getMessageFlags
  cases message.spam <;> cases message.deleted && !isTrashName currentFolder <;>
    cases message.status == "draft" <;> cases message.answered <;>
    cases message.flagged <;> cases message.read <;> decide

end

end Elektrine.IMAP
