import Elektrine.IMAP.Addressed

/-!
# Stored flags

What `STORE` asks for, and when the row it leaves behind shows exactly that.
-/

namespace Elektrine.IMAP

open Elektrine.Email

def supportedFlags : List String :=
  ["\\Seen", "\\Answered", "\\Flagged", "\\Deleted", "\\Draft", "$Forwarded",
    "$MDNSent", "Junk", "NonJunk"]

/-- The flag is in the set that the operation asks for. -/
def FlagOperation.Asks (operation : FlagOperation) (flags old : List String)
    (flag : String) : Prop :=
  match operation with
  | .replace => flag ∈ flags
  | .add => flag ∈ old ∨ flag ∈ flags
  | .remove => flag ∈ old ∧ flag ∉ flags
  | .unknown => flag ∈ old

def placingFlags : List String := ["\\Deleted", "Junk", "NonJunk", "\\Draft"]

/-- One of these flags is named, or dropped by a plain `FLAGS`. -/
def FlagOperation.NamesPlace (operation : FlagOperation) (flags old : List String) :
    Prop :=
  ∃ flag ∈ placingFlags,
    flag ∈ flags ∨ operation = .replace ∧ flag ∈ old ∧ flag ∉ flags

/-- A row changed as a `STORE` asks for: the flag set, what was reported of it, and the
folders that list the message. -/
structure StoresNamedFlags (currentFolder : String) (operation : FlagOperation)
    (flags : List String) (before after : Message) (report : Option (List String)) :
    Prop where
  stored : ∀ flag ∈ supportedFlags,
    flag ∈ getMessageFlags after.listed currentFolder ↔
      operation.Asks flags (getMessageFlags before.listed currentFolder) flag
  reported : ∀ shown, report = some shown →
    ∀ flag, flag ∈ shown ↔ flag ∈ getMessageFlags after.listed currentFolder
  placed : ¬operation.NamesPlace flags (getMessageFlags before.listed currentFolder) →
    ∀ key : FolderKey, key.shows after = key.shows before

/-- The flags that are named neither by the session nor by the command keep their value:
the session has it from the store. -/
def UnnamedAgree (operation : FlagOperation) (flags shown old : List String) : Prop :=
  operation = .replace ∨
    ∀ flag ∈ ["\\Seen", "\\Flagged", "\\Answered", "\\Draft", "\\Deleted"],
      flag ∉ flags → (flag ∈ shown ↔ flag ∈ old)

/-- The operation leaves one of `Junk` and `NonJunk`, and the field says which. -/
def JunkSettled (operation : FlagOperation) (flags : List String)
    (session stored : Bool) : Prop :=
  match operation with
  | .replace =>
      ("Junk" ∈ flags ↔ "NonJunk" ∉ flags) ∧ ("NonJunk" ∈ flags → "$Junk" ∉ flags)
  | .add =>
      (session = true ∨ "Junk" ∈ flags ∨ "$Junk" ∈ flags ↔ stored = true) ∧
        (stored = true → "NonJunk" ∉ flags)
  | .remove =>
      session = stored ∧ (stored = true → "Junk" ∉ flags) ∧
        (stored = false → "NonJunk" ∉ flags)
  | .unknown => True

def ReportShown (operation : FlagOperation) (flags : List String) (session : Bool) :
    Prop :=
  operation = .remove ∨
    (∀ flag ∈ flags, flag ∈ shownFlags) ∧
      (operation = .add → session = false → "Junk" ∉ flags)

/-- The changeset accepts the row with the status that the operation asks for. -/
def AcceptsStore (operation : FlagOperation) (flags : List String)
    (currentFolder : String) (session : Listed) (row : Message) : Prop :=
  (present row.messageId).isSome ∧ (present row.fromAddress).isSome ∧
    row.payloadValid = true ∧
      (operation.Asks flags (getMessageFlags session currentFolder) "\\Draft" ∨
        (row.toAddress.bind present).isSome)

/-- The condition under which `STORE` does what it asks for to a row, given the message
as the session has it. -/
structure StoreSafe (currentFolder : String) (operation : FlagOperation)
    (silent : Bool) (flags : List String) (session : Listed) (row : Message) : Prop where
  accepted : AcceptsStore operation flags currentFolder session row →
    UnnamedAgree operation flags (getMessageFlags session currentFolder)
        (getMessageFlags row.listed currentFolder) ∧
      (isTrashName currentFolder = true → operation ≠ .remove →
        "\\Deleted" ∉ flags) ∧
      (operation ≠ .remove → "$Forwarded" ∉ flags ∧ "$MDNSent" ∉ flags) ∧
      JunkSettled operation flags session.spam row.spam ∧
      (silent = false → ReportShown operation flags session.spam) ∧
      (¬operation.NamesPlace flags (getMessageFlags row.listed currentFolder) →
        ∀ key : FolderKey,
          key.shows { row with
            status := session.status
            deleted := session.deleted && !isTrashName currentFolder } = key.shows row)
  rejected : ¬AcceptsStore operation flags currentFolder session row →
    (∀ flag ∈ supportedFlags,
      operation.Asks flags (getMessageFlags row.listed currentFolder) flag ↔
        flag ∈ getMessageFlags row.listed currentFolder) ∧
      (silent = false → ∀ flag,
        operation.Asks flags (getMessageFlags session currentFolder) flag ↔
          flag ∈ getMessageFlags row.listed currentFolder)

theorem mem_newFlags {currentFolder operation flag : String} {flags : List String}
    {message : Listed} :
    flag ∈ newFlags currentFolder operation flags message ↔
      (flagOperation operation).Asks flags (getMessageFlags message currentFolder)
        flag := by
  unfold newFlags applyFlagOperation FlagOperation.Asks
  cases flagOperation operation with
  | replace => exact Iff.rfl
  | add => simp only [List.mem_eraseDups, List.mem_append]
  | remove => exact nodup_getMessageFlags.mem_sdiff_iff
  | unknown => exact Iff.rfl

section
variable {message : Listed} {flags : List String}

theorem updates_read (message : Listed) (flags : List String) :
    (messageUpdatesFromFlags message flags).read = true ↔ "\\Seen" ∈ flags :=
  List.contains_iff_mem

theorem updates_flagged (message : Listed) (flags : List String) :
    (messageUpdatesFromFlags message flags).flagged = true ↔ "\\Flagged" ∈ flags :=
  List.contains_iff_mem

theorem updates_answered (message : Listed) (flags : List String) :
    (messageUpdatesFromFlags message flags).answered = true ↔ "\\Answered" ∈ flags :=
  List.contains_iff_mem

theorem updates_deleted (message : Listed) (flags : List String) :
    (messageUpdatesFromFlags message flags).deleted = true ↔ "\\Deleted" ∈ flags :=
  List.contains_iff_mem

theorem updates_status (message : Listed) (flags : List String) :
    (messageUpdatesFromFlags message flags).status = "draft" ↔ "\\Draft" ∈ flags := by
  unfold messageUpdatesFromFlags
  simp only [List.contains_iff_mem, beq_iff_eq]
  by_cases draft : "\\Draft" ∈ flags
  · simp [draft]
  · by_cases was : message.status = "draft"
    · simp [draft, was]
    · simp [draft, was]

theorem updates_status_kept (kept : "\\Draft" ∈ flags ↔ message.status = "draft") :
    (messageUpdatesFromFlags message flags).status = message.status := by
  unfold messageUpdatesFromFlags
  simp only [List.contains_iff_mem, beq_iff_eq]
  by_cases draft : message.status = "draft"
  · rw [if_pos (kept.mpr draft), draft]
  · rw [if_neg fun named => draft (kept.mp named), if_neg draft]

theorem updates_spam :
    (messageUpdatesFromFlags message flags).spam = true ↔
      ("Junk" ∈ flags ∨ "$Junk" ∈ flags) ∨
        ¬("NonJunk" ∈ flags ∨ "$NonJunk" ∈ flags) ∧ message.spam = true := by
  unfold messageUpdatesFromFlags
  simp only [Bool.or_eq_true, List.contains_iff_mem]
  by_cases junk : "Junk" ∈ flags ∨ "$Junk" ∈ flags
  · simp [junk]
  · by_cases clean : "NonJunk" ∈ flags ∨ "$NonJunk" ∈ flags
    · simp [junk, clean]
    · simp [junk, clean]

end

section
variable {currentFolder operation : String} {flags : List String} {session : Listed}
  {row : Message}

/-- The updates of a `STORE` on a message. -/
def storedUpdates (currentFolder operation : String) (flags : List String)
    (session : Listed) : FlagUpdates :=
  messageUpdatesFromFlags session (newFlags currentFolder operation flags session)

variable (currentFolder flags session) in
theorem storedUpdates_spam_add (add : flagOperation operation = .add) :
    (storedUpdates currentFolder operation flags session).spam = true ↔
      session.spam = true ∨ "Junk" ∈ flags ∨ "$Junk" ∈ flags := by
  unfold storedUpdates
  rw [updates_spam]
  simp only [mem_newFlags, add, FlagOperation.Asks, junk_mem_getMessageFlags,
    nonJunk_mem_getMessageFlags]
  have absent : "$Junk" ∉ getMessageFlags session currentFolder := fun member =>
    absurd (shown_of_mem_getMessageFlags member) (by decide)
  cases session.spam <;> simp [absent]

variable (currentFolder flags session) in
theorem storedUpdates_spam_remove (remove : flagOperation operation = .remove) :
    (storedUpdates currentFolder operation flags session).spam = session.spam := by
  have absent : "$Junk" ∉ getMessageFlags session currentFolder := fun member =>
    absurd (shown_of_mem_getMessageFlags member) (by decide)
  have absentNon : "$NonJunk" ∉ getMessageFlags session currentFolder := fun member =>
    absurd (shown_of_mem_getMessageFlags member) (by decide)
  rw [Bool.eq_iff_iff]
  unfold storedUpdates
  rw [updates_spam]
  simp only [mem_newFlags, remove, FlagOperation.Asks, junk_mem_getMessageFlags,
    nonJunk_mem_getMessageFlags]
  cases session.spam <;> simp [absent, absentNon]

variable (currentFolder flags session) in
theorem storedUpdates_spam_replace (replace : flagOperation operation = .replace) :
    (storedUpdates currentFolder operation flags session).spam = true ↔
      ("Junk" ∈ flags ∨ "$Junk" ∈ flags) ∨
        ¬("NonJunk" ∈ flags ∨ "$NonJunk" ∈ flags) ∧ session.spam = true := by
  unfold storedUpdates
  rw [updates_spam]
  simp only [mem_newFlags, replace, FlagOperation.Asks]

variable (currentFolder) in
theorem junkSettled_iff (known : flagOperation operation ≠ .unknown) :
    (((storedUpdates currentFolder operation flags session).spam = true ↔
        (flagOperation operation).Asks flags
          (getMessageFlags row.listed currentFolder) "Junk") ∧
      ((storedUpdates currentFolder operation flags session).spam = false ↔
        (flagOperation operation).Asks flags
          (getMessageFlags row.listed currentFolder) "NonJunk")) ↔
      JunkSettled (flagOperation operation) flags session.spam row.spam := by
  have stored : row.listed.spam = row.spam := rfl
  cases named : flagOperation operation with
  | unknown => exact absurd named known
  | replace =>
      have spam := storedUpdates_spam_replace currentFolder flags session named
      simp only [JunkSettled, FlagOperation.Asks]
      rw [← Bool.not_eq_true, spam]
      generalize ("Junk" ∈ flags) = junk
      generalize ("$Junk" ∈ flags) = otherJunk
      generalize ("NonJunk" ∈ flags) = clean
      grind
  | add =>
      have spam := storedUpdates_spam_add currentFolder flags session named
      simp only [JunkSettled, FlagOperation.Asks]
      rw [junk_mem_getMessageFlags, nonJunk_mem_getMessageFlags, stored,
        ← Bool.not_eq_true, spam]
      generalize ("Junk" ∈ flags) = junk
      generalize ("$Junk" ∈ flags) = otherJunk
      generalize ("NonJunk" ∈ flags) = clean
      grind
  | remove =>
      have spam := storedUpdates_spam_remove currentFolder flags session named
      simp only [JunkSettled, FlagOperation.Asks]
      rw [junk_mem_getMessageFlags, nonJunk_mem_getMessageFlags, stored, spam]
      generalize ("Junk" ∈ flags) = junk
      generalize ("NonJunk" ∈ flags) = clean
      grind

theorem shown_withUpdates_iff {flag : String}
    (own : flag ∈ ["\\Seen", "\\Flagged", "\\Answered", "\\Draft"]) :
    flag ∈ getMessageFlags
        (row.withUpdates (storedUpdates currentFolder operation flags session)).listed
        currentFolder ↔
      (flagOperation operation).Asks flags (getMessageFlags session currentFolder)
        flag := by
  rw [← mem_newFlags]
  simp only [List.mem_cons, List.not_mem_nil, or_false] at own
  rcases own with rfl | rfl | rfl | rfl
  · rw [seen_mem_getMessageFlags, Message.withUpdates_read]
    exact updates_read session _
  · rw [flagged_mem_getMessageFlags, Message.withUpdates_flagged]
    exact updates_flagged session _
  · rw [answered_mem_getMessageFlags, Message.withUpdates_answered]
    exact updates_answered session _
  · rw [draft_mem_getMessageFlags, Message.withUpdates_status]
    exact updates_status session _

theorem deleted_withUpdates_iff :
    "\\Deleted" ∈ getMessageFlags
        (row.withUpdates (storedUpdates currentFolder operation flags session)).listed
        currentFolder ↔
      (flagOperation operation).Asks flags (getMessageFlags session currentFolder)
          "\\Deleted" ∧
        isTrashName currentFolder = false := by
  rw [← mem_newFlags, deleted_mem_getMessageFlags, Message.withUpdates_deleted]
  exact and_congr_left' (updates_deleted session _)

theorem junk_withUpdates_iff {updates : FlagUpdates} :
    "Junk" ∈ getMessageFlags (row.withUpdates updates).listed currentFolder ↔
      updates.spam = true := by
  rw [junk_mem_getMessageFlags, Message.withUpdates_spam]

theorem nonJunk_withUpdates_iff {updates : FlagUpdates} :
    "NonJunk" ∈ getMessageFlags (row.withUpdates updates).listed currentFolder ↔
      updates.spam = false := by
  rw [nonJunk_mem_getMessageFlags, Message.withUpdates_spam]

theorem not_shown_of_not_mem {message : Listed} {flag : String}
    (outside : flag ∉ shownFlags) : flag ∉ getMessageFlags message currentFolder :=
  fun member => outside (shown_of_mem_getMessageFlags member)

theorem asks_agree {known : FlagOperation} (named : known ≠ .unknown)
    {shown old : List String} {flag : String} :
    (known.Asks flags shown flag ↔ known.Asks flags old flag) ↔
      (known = .replace ∨ (flag ∉ flags → (flag ∈ shown ↔ flag ∈ old))) := by
  cases known with
  | unknown => exact absurd rfl named
  | replace => simp [FlagOperation.Asks]
  | add =>
      simp only [FlagOperation.Asks, reduceCtorEq, false_or]
      generalize (flag ∈ flags) = named
      generalize (flag ∈ shown) = first
      generalize (flag ∈ old) = second
      tauto
  | remove =>
      simp only [FlagOperation.Asks, reduceCtorEq, false_or]
      generalize (flag ∈ flags) = named
      generalize (flag ∈ shown) = first
      generalize (flag ∈ old) = second
      tauto

theorem asks_absent {known : FlagOperation} (named : known ≠ .unknown)
    {old : List String} {flag : String} (absent : flag ∉ old) :
    known.Asks flags old flag ↔ known ≠ .remove ∧ flag ∈ flags := by
  cases known with
  | unknown => exact absurd rfl named
  | replace => simp [FlagOperation.Asks]
  | add => simp [FlagOperation.Asks, absent]
  | remove => simp [FlagOperation.Asks, absent]

theorem deleted_settled (known : flagOperation operation ≠ .unknown) :
    ("\\Deleted" ∈ getMessageFlags
        (row.withUpdates (storedUpdates currentFolder operation flags session)).listed
        currentFolder ↔
      (flagOperation operation).Asks flags (getMessageFlags row.listed currentFolder)
        "\\Deleted") ↔
      (flagOperation operation = .replace ∨
        ("\\Deleted" ∉ flags →
          ("\\Deleted" ∈ getMessageFlags session currentFolder ↔
            "\\Deleted" ∈ getMessageFlags row.listed currentFolder))) ∧
      (isTrashName currentFolder = true → flagOperation operation ≠ .remove →
        "\\Deleted" ∉ flags) := by
  rw [deleted_withUpdates_iff]
  cases trash : isTrashName currentFolder with
  | false =>
      rw [← asks_agree known]
      simp
  | true =>
      have absent : ∀ message : Listed,
          "\\Deleted" ∉ getMessageFlags message currentFolder := by
        intro message member
        rw [deleted_mem_getMessageFlags, trash] at member
        cases member.2
      rw [asks_absent known (absent row.listed)]
      simp [absent]

theorem keyword_settled (known : flagOperation operation ≠ .unknown) {flag : String}
    (outside : flag ∉ shownFlags) :
    (flag ∈ getMessageFlags
        (row.withUpdates (storedUpdates currentFolder operation flags session)).listed
        currentFolder ↔
      (flagOperation operation).Asks flags (getMessageFlags row.listed currentFolder)
        flag) ↔
      (flagOperation operation ≠ .remove → flag ∉ flags) := by
  rw [asks_absent known (not_shown_of_not_mem outside)]
  simp [not_shown_of_not_mem outside]

theorem forall_supportedFlags {Holds : String → Prop} :
    (∀ flag ∈ supportedFlags, Holds flag) ↔
      (∀ flag ∈ ["\\Seen", "\\Flagged", "\\Answered", "\\Draft"], Holds flag) ∧
        Holds "\\Deleted" ∧ (Holds "$Forwarded" ∧ Holds "$MDNSent") ∧
          (Holds "Junk" ∧ Holds "NonJunk") := by
  simp only [supportedFlags, List.forall_mem_cons, List.not_mem_nil, false_implies,
    implies_true, and_true]
  constructor
  · intro holds
    obtain ⟨seen, answered, flagged, deleted, draft, forwarded, sent, junk, clean⟩ := holds
    exact ⟨⟨seen, flagged, answered, draft⟩, deleted, ⟨forwarded, sent⟩, junk, clean⟩
  · intro holds
    obtain ⟨⟨seen, flagged, answered, draft⟩, deleted, ⟨forwarded, sent⟩, junk, clean⟩ := holds
    exact ⟨seen, answered, flagged, deleted, draft, forwarded, sent, junk, clean⟩

theorem unnamedAgree_iff {known : FlagOperation} {shown old : List String} :
    UnnamedAgree known flags shown old ↔
      (∀ flag ∈ ["\\Seen", "\\Flagged", "\\Answered", "\\Draft"],
        known = .replace ∨ (flag ∉ flags → (flag ∈ shown ↔ flag ∈ old))) ∧
      (known = .replace ∨
        ("\\Deleted" ∉ flags → ("\\Deleted" ∈ shown ↔ "\\Deleted" ∈ old))) := by
  unfold UnnamedAgree
  by_cases replace : known = .replace
  · simp [replace]
  · simp only [replace, false_or, List.forall_mem_cons, List.not_mem_nil, false_implies,
      implies_true, and_true, and_assoc]

theorem stored_iff (known : flagOperation operation ≠ .unknown) :
    (∀ flag ∈ supportedFlags,
      flag ∈ getMessageFlags
          (row.withUpdates (storedUpdates currentFolder operation flags session)).listed
          currentFolder ↔
        (flagOperation operation).Asks flags
          (getMessageFlags row.listed currentFolder) flag) ↔
      UnnamedAgree (flagOperation operation) flags
          (getMessageFlags session currentFolder)
          (getMessageFlags row.listed currentFolder) ∧
        (isTrashName currentFolder = true → flagOperation operation ≠ .remove →
          "\\Deleted" ∉ flags) ∧
        (flagOperation operation ≠ .remove →
          "$Forwarded" ∉ flags ∧ "$MDNSent" ∉ flags) ∧
        JunkSettled (flagOperation operation) flags session.spam row.spam := by
  rw [forall_supportedFlags, deleted_settled known, keyword_settled known (by decide),
    keyword_settled known (by decide), ← junkSettled_iff currentFolder known,
    unnamedAgree_iff]
  have fields : (∀ flag ∈ ["\\Seen", "\\Flagged", "\\Answered", "\\Draft"],
      flag ∈ getMessageFlags
          (row.withUpdates (storedUpdates currentFolder operation flags session)).listed
          currentFolder ↔
        (flagOperation operation).Asks flags
          (getMessageFlags row.listed currentFolder) flag) ↔
      ∀ flag ∈ ["\\Seen", "\\Flagged", "\\Answered", "\\Draft"],
        flagOperation operation = .replace ∨
          (flag ∉ flags → (flag ∈ getMessageFlags session currentFolder ↔
            flag ∈ getMessageFlags row.listed currentFolder)) := by
    apply forall₂_congr
    intro flag own
    rw [shown_withUpdates_iff own, asks_agree known]
  rw [fields, junk_withUpdates_iff, nonJunk_withUpdates_iff]
  constructor
  · intro settled
    obtain ⟨own, ⟨deleted, trash⟩, ⟨forwarded, sent⟩, junk⟩ := settled
    refine ⟨⟨own, deleted⟩, trash, fun named => ⟨forwarded named, sent named⟩, ?_⟩
    exact junk
  · intro settled
    obtain ⟨⟨own, deleted⟩, trash, keywords, junk⟩ := settled
    exact ⟨own, ⟨deleted, trash⟩, ⟨fun named => (keywords named).1,
      fun named => (keywords named).2⟩, junk⟩

variable (currentFolder) in
/-- Where `Junk` and `NonJunk` are settled, they are also reported, unless junk is added
to what the session does not have as junk. -/
theorem junk_reported (known : flagOperation operation ≠ .unknown)
    (junk : JunkSettled (flagOperation operation) flags session.spam row.spam) :
    (("Junk" ∈ newFlags currentFolder operation flags session ↔
        (storedUpdates currentFolder operation flags session).spam = true) ∧
      ("NonJunk" ∈ newFlags currentFolder operation flags session ↔
        (storedUpdates currentFolder operation flags session).spam = false)) ↔
      (flagOperation operation = .add → session.spam = false →
        "Junk" ∉ flags ∧ "$Junk" ∉ flags) := by
  rw [mem_newFlags, mem_newFlags, ← Bool.not_eq_true]
  cases named : flagOperation operation with
  | unknown => exact absurd named known
  | replace =>
      have spam := storedUpdates_spam_replace currentFolder flags session named
      rw [named] at junk
      simp only [JunkSettled] at junk
      simp only [FlagOperation.Asks, spam, reduceCtorEq, false_implies, iff_true]
      generalize ("Junk" ∈ flags) = junkNamed at *
      generalize ("$Junk" ∈ flags) = otherNamed at *
      generalize ("NonJunk" ∈ flags) = cleanNamed at *
      grind
  | add =>
      have spam := storedUpdates_spam_add currentFolder flags session named
      rw [named] at junk
      simp only [JunkSettled] at junk
      simp only [FlagOperation.Asks, spam, junk_mem_getMessageFlags,
        nonJunk_mem_getMessageFlags]
      generalize ("Junk" ∈ flags) = junkNamed at *
      generalize ("$Junk" ∈ flags) = otherNamed at *
      generalize ("NonJunk" ∈ flags) = cleanNamed at *
      grind
  | remove =>
      have spam := storedUpdates_spam_remove currentFolder flags session named
      rw [named] at junk
      simp only [JunkSettled] at junk
      simp only [FlagOperation.Asks, spam, junk_mem_getMessageFlags,
        nonJunk_mem_getMessageFlags, reduceCtorEq, false_implies, iff_true]
      generalize ("Junk" ∈ flags) = junkNamed at *
      generalize ("NonJunk" ∈ flags) = cleanNamed at *
      grind

theorem reported_iff (known : flagOperation operation ≠ .unknown)
    (trash : isTrashName currentFolder = true → flagOperation operation ≠ .remove →
      "\\Deleted" ∉ flags)
    (junk : JunkSettled (flagOperation operation) flags session.spam row.spam) :
    (∀ flag, flag ∈ newFlags currentFolder operation flags session ↔
      flag ∈ getMessageFlags
        (row.withUpdates (storedUpdates currentFolder operation flags session)).listed
        currentFolder) ↔
      ReportShown (flagOperation operation) flags session.spam := by
  have own : ∀ flag ∈ ["\\Seen", "\\Flagged", "\\Answered", "\\Draft"],
      flag ∈ newFlags currentFolder operation flags session ↔
        flag ∈ getMessageFlags
          (row.withUpdates (storedUpdates currentFolder operation flags session)).listed
          currentFolder := by
    intro flag member
    rw [shown_withUpdates_iff member, mem_newFlags]
  have deleted : "\\Deleted" ∈ newFlags currentFolder operation flags session ↔
      "\\Deleted" ∈ getMessageFlags
        (row.withUpdates (storedUpdates currentFolder operation flags session)).listed
        currentFolder := by
    rw [deleted_withUpdates_iff, mem_newFlags]
    cases name : isTrashName currentFolder with
    | false => simp
    | true =>
        have absent : "\\Deleted" ∉ getMessageFlags session currentFolder := by
          intro member
          rw [deleted_mem_getMessageFlags, name] at member
          cases member.2
        rw [asks_absent known absent]
        constructor
        · intro named
          exact absurd named.2 (trash name named.1)
        · intro named
          cases named.2
  have others : (∀ flag, flag ∉ shownFlags →
      flag ∉ newFlags currentFolder operation flags session) ↔
      flagOperation operation = .remove ∨ ∀ flag ∈ flags, flag ∈ shownFlags := by
    constructor
    · intro absent
      by_cases remove : flagOperation operation = .remove
      · exact Or.inl remove
      · refine Or.inr fun flag member => ?_
        by_contra outside
        apply absent flag outside
        rw [mem_newFlags, asks_absent known (not_shown_of_not_mem outside)]
        exact ⟨remove, member⟩
    · intro named flag outside member
      rw [mem_newFlags, asks_absent known (not_shown_of_not_mem outside)] at member
      rcases named with remove | named
      · exact member.1 remove
      · exact outside (named flag member.2)
  have spam := junk_reported currentFolder known junk
  constructor
  · intro shown
    have named := others.mp fun flag outside member =>
      outside (shown_of_mem_getMessageFlags ((shown flag).mp member))
    rcases named with remove | named
    · exact Or.inl remove
    · refine Or.inr ⟨named, fun add clean => ?_⟩
      have both := spam.mp
        ⟨(shown "Junk").trans junk_withUpdates_iff,
          (shown "NonJunk").trans nonJunk_withUpdates_iff⟩
      exact (both add clean).1
  · intro report flag
    have both := spam.mpr fun add clean => by
      rcases report with remove | report
      · rw [add] at remove
        cases remove
      · refine ⟨report.2 add clean, fun member => ?_⟩
        exact absurd (report.1 "$Junk" member) (by decide)
    by_cases outside : flag ∈ shownFlags
    · simp only [shownFlags, List.mem_cons, List.not_mem_nil, or_false] at outside
      rcases outside with rfl | rfl | rfl | rfl | rfl | rfl | rfl
      · exact both.1.trans junk_withUpdates_iff.symm
      · exact both.2.trans nonJunk_withUpdates_iff.symm
      · exact deleted
      · exact own "\\Draft" (by decide)
      · exact own "\\Answered" (by decide)
      · exact own "\\Flagged" (by decide)
      · exact own "\\Seen" (by decide)
    · constructor
      · intro member
        have absent := others.mpr (report.imp_right And.left) flag outside
        exact absurd member absent
      · intro member
        exact absurd (shown_of_mem_getMessageFlags member) outside

theorem acceptsStore_iff :
    (row.withUpdates (storedUpdates currentFolder operation flags session)).valid = true ↔
      AcceptsStore (flagOperation operation) flags currentFolder session row := by
  have status := updates_status session (newFlags currentFolder operation flags session)
  rw [mem_newFlags] at status
  unfold Message.valid AcceptsStore
  rw [← status]
  simp only [Message.withUpdates, Bool.and_eq_true, Bool.or_eq_true, beq_iff_eq]
  constructor
  · intro valid
    exact ⟨valid.1.1.1, valid.1.1.2, valid.2, valid.1.2⟩
  · intro accepts
    exact ⟨⟨⟨accepts.1, accepts.2.1⟩, accepts.2.2.2⟩, accepts.2.2.1⟩

theorem FolderKey.shows_withUpdates (key : FolderKey) {updates : FlagUpdates}
    {status : String} {deleted : Bool} (sameStatus : updates.status = status)
    (sameDeleted : updates.deleted = deleted) (sameSpam : updates.spam = row.spam) :
    key.shows (row.withUpdates updates) =
      key.shows { row with status := status, deleted := deleted } := by
  subst sameStatus
  subst sameDeleted
  cases key with
  | custom folderId => rfl
  | system folder =>
      cases folder with
      | sent => rfl
      | drafts => rfl
      | trash => rfl
      | inbox => simp only [FolderKey.shows, ImapFolder.shows, Message.withUpdates,
          Message.incoming, Message.selfSent, sameSpam]
      | spam => simp only [FolderKey.shows, ImapFolder.shows, Message.withUpdates,
          Message.incoming, sameSpam]
      | other => simp only [FolderKey.shows, ImapFolder.shows, Message.withUpdates,
          Message.incoming, sameSpam]

theorem placed_eq (known : flagOperation operation ≠ .unknown)
    (junk : JunkSettled (flagOperation operation) flags session.spam row.spam)
    (unplaced : ¬(flagOperation operation).NamesPlace flags
      (getMessageFlags row.listed currentFolder)) (key : FolderKey) :
    key.shows
        (row.withUpdates (storedUpdates currentFolder operation flags session)) =
      key.shows { row with
        status := session.status
        deleted := session.deleted && !isTrashName currentFolder } := by
  have unnamed : ∀ flag ∈ placingFlags, flag ∉ flags := fun flag place named =>
    unplaced ⟨flag, place, Or.inl named⟩
  have draft := unnamed "\\Draft" (by decide)
  have deleted := unnamed "\\Deleted" (by decide)
  have spam : (storedUpdates currentFolder operation flags session).spam = row.spam := by
    cases named : flagOperation operation with
    | unknown => exact absurd named known
    | replace =>
        rw [named] at junk
        have one := junk.1.mpr (unnamed "NonJunk" (by decide))
        exact absurd one (unnamed "Junk" (by decide))
    | add =>
        rw [named] at junk
        exact Bool.eq_iff_iff.mpr
          ((storedUpdates_spam_add currentFolder flags session named).trans junk.1)
    | remove =>
        rw [named] at junk
        exact (storedUpdates_spam_remove currentFolder flags session named).trans junk.1
  have kept : ∀ flag, flag ∉ flags → flagOperation operation ≠ .replace →
      (flag ∈ newFlags currentFolder operation flags session ↔
        flag ∈ getMessageFlags session currentFolder) := by
    intro flag absent other
    rw [mem_newFlags]
    cases named : flagOperation operation with
    | unknown => exact absurd named known
    | replace => exact absurd named other
    | add => simp [FlagOperation.Asks, absent]
    | remove => simp [FlagOperation.Asks, absent]
  have changing : flagOperation operation ≠ .replace := by
    intro replace
    rw [replace] at junk
    have one := junk.1.mpr (unnamed "NonJunk" (by decide))
    exact absurd one (unnamed "Junk" (by decide))
  apply FolderKey.shows_withUpdates key _ _ spam
  · apply updates_status_kept
    rw [kept _ draft changing, draft_mem_getMessageFlags]
  · rw [Bool.eq_iff_iff, Bool.and_eq_true, Bool.not_eq_true']
    exact (updates_deleted session _).trans
      ((kept _ deleted changing).trans deleted_mem_getMessageFlags)

theorem report_iff {silent : Bool} {report : List String} {shown : List String} :
    (∀ listed, (if silent then none else some report) = some listed →
        ∀ flag, flag ∈ listed ↔ flag ∈ shown) ↔
      (silent = false → ∀ flag, flag ∈ report ↔ flag ∈ shown) := by
  cases silent with
  | true => simp
  | false => simp

theorem storesNamedFlags_of_accepted (known : flagOperation operation ≠ .unknown)
    {silent : Bool}
    (accepted : AcceptsStore (flagOperation operation) flags currentFolder session row) :
    StoresNamedFlags currentFolder (flagOperation operation) flags row
        (row.withUpdates (storedUpdates currentFolder operation flags session))
        (if silent then none
          else some (newFlags currentFolder operation flags session)) ↔
      StoreSafe currentFolder (flagOperation operation) silent flags session row := by
  constructor
  · intro stores
    obtain ⟨stored, reported, placed⟩ := stores
    obtain ⟨unnamed, trash, keywords, junk⟩ := (stored_iff known).mp stored
    have said := report_iff.mp reported
    refine ⟨fun _ => ⟨unnamed, trash, keywords, junk, ?_, ?_⟩,
      fun rejected => absurd accepted rejected⟩
    · intro spoken
      exact (reported_iff known trash junk).mp (said spoken)
    · intro unplaced key
      have moved := placed_eq known junk unplaced key
      exact moved.symm.trans (placed unplaced key)
  · intro safe
    obtain ⟨unnamed, trash, keywords, junk, report, place⟩ := safe.accepted accepted
    refine ⟨(stored_iff known).mpr ⟨unnamed, trash, keywords, junk⟩, ?_, ?_⟩
    · apply report_iff.mpr
      intro spoken
      exact (reported_iff known trash junk).mpr (report spoken)
    · intro unplaced key
      have moved := placed_eq known junk unplaced key
      exact moved.trans (place unplaced key)

theorem storesNamedFlags_of_rejected {silent : Bool}
    (rejected : ¬AcceptsStore (flagOperation operation) flags currentFolder session row) :
    StoresNamedFlags currentFolder (flagOperation operation) flags row row
        (if silent then none
          else some (newFlags currentFolder operation flags session)) ↔
      StoreSafe currentFolder (flagOperation operation) silent flags session row := by
  constructor
  · intro stores
    have said := report_iff.mp stores.reported
    refine ⟨fun accepts => absurd accepts rejected, fun _ => ⟨?_, ?_⟩⟩
    · intro flag supported
      exact (stores.stored flag supported).symm
    · intro spoken flag
      rw [← mem_newFlags]
      exact said spoken flag
  · intro safe
    obtain ⟨stored, reported⟩ := safe.rejected rejected
    refine ⟨fun flag supported => (stored flag supported).symm, ?_, fun _ _ => rfl⟩
    apply report_iff.mpr
    intro spoken flag
    rw [mem_newFlags]
    exact reported spoken flag

theorem storesNamedFlags_iff (known : flagOperation operation ≠ .unknown)
    (silent : Bool) :
    StoresNamedFlags currentFolder (flagOperation operation) flags row
        (row.storeUpdates (storedUpdates currentFolder operation flags session))
        (if silent then none
          else some (newFlags currentFolder operation flags session)) ↔
      StoreSafe currentFolder (flagOperation operation) silent flags session row := by
  unfold Message.storeUpdates
  by_cases accepted : AcceptsStore (flagOperation operation) flags currentFolder session row
  · rw [if_pos (acceptsStore_iff.mpr accepted)]
    exact storesNamedFlags_of_accepted known accepted
  · rw [if_neg fun valid => accepted (acceptsStore_iff.mp valid)]
    exact storesNamedFlags_of_rejected accepted

end

end Elektrine.IMAP
