import Elektrine.JMAP.EmailChanges

/-!
# What a client makes of the changes

The emails that are valid at a state are those of the replayed changes.  A client that
applies an answer has the emails of the new state when the answer tells the fate of each
email: the listing is made from the changes up to the first read of the counter, and the
new state is read later, so further changes must not matter.
-/

namespace Elektrine.JMAP

def replay (held : Bool) (types : List ChangeType) : Bool :=
  types.foldl (fun valid type =>
    match type with
    | .created => true
    | .updated => valid
    | .destroyed => false) held

def typesOf (emailId : Nat) (changes : List EmailChange) : List ChangeType :=
  (changes.filter (·.emailId == emailId)).map (·.changeType)

/-- Whether the email is valid at the counter; `initial` is the mailbox before its first
change. -/
def validAt (initial : Nat → Bool) (journal : Journal) (counter emailId : Nat) : Bool :=
  replay (initial emailId)
    (typesOf emailId (journal.changes.filter fun change =>
      decide (change.stateCounter ≤ counter)))

def ChangesResponse.applied (response : ChangesResponse) (held : Nat → Bool)
    (emailId : Nat) : Bool :=
  (held emailId || response.created.contains (toString emailId)) &&
    !(response.destroyed.contains (toString emailId))

structure Synchronises (initial : Nat → Bool) (journal : Journal) (since current : Nat)
    (response : ChangesResponse) : Prop where
  newState : response.newState = toString current
  valid : ∀ emailId,
    response.applied (validAt initial journal since) emailId =
      validAt initial journal current emailId
  listed : ∀ emailId, validAt initial journal current emailId = true →
    typesOf emailId (journal.listSince since current) ≠ [] →
    toString emailId ∈ response.created ∨ toString emailId ∈ response.updated

/-- The call gives an answer with which the client is in step: `during` is recorded
between the reads of the counter and of the changes, `later` before the new state is
read. -/
def InStep (initial : Nat → Bool) (journal : Journal) (since : Nat)
    (during later : List (Nat × ChangeType)) : Prop :=
  ∃ response,
    emailChangesSince (toString since) journal (journal.recordAll during)
      ((journal.recordAll during).recordAll later) = some response ∧
    Synchronises initial ((journal.recordAll during).recordAll later) since
      ((journal.recordAll during).recordAll later).stateCounter response

def lastMove (types : List ChangeType) : Option ChangeType :=
  (types.filter (· != .updated)).getLast?

/-- The changes up to the read of the counter tell the fate of the email, whatever is
recorded afterwards. -/
def Told (held : Bool) (early late : List ChangeType) : Prop :=
  if early = [] then
    late = [] ∨ (held = false ∧ lastMove late ≠ some .created)
  else if .created ∈ early then
    if early.getLast? = some .destroyed then
      held = false ∧ lastMove late ≠ some .created
    else lastMove (early ++ late) = some .created
  else if early.getLast? = some .destroyed then lastMove late ≠ some .created
  else lastMove (early ++ late) ≠ some (if held then .destroyed else .created)

theorem replay_concat (held : Bool) (types : List ChangeType) (last : ChangeType) :
    replay held (types ++ [last]) =
      match last with
      | .created => true
      | .updated => replay held types
      | .destroyed => false :=
  List.foldl_concat ..

theorem lastMove_append (front back : List ChangeType) :
    lastMove (front ++ back) = (lastMove back).or (lastMove front) := by
  simp [lastMove, List.filter_append, List.getLast?_append]

theorem lastMove_ne_updated (types : List ChangeType) : lastMove types ≠ some .updated := by
  intro same
  have member := List.mem_of_getLast? same
  simp at member

theorem replay_eq (held : Bool) (types : List ChangeType) :
    replay held types = ((lastMove types).map (· == .created)).getD held := by
  induction types using List.reverseRecOn with
  | nil => rfl
  | append_singleton types last ih =>
      rw [replay_concat, lastMove_append]
      cases last with
      | created => rfl
      | destroyed => rfl
      | updated => exact ih

theorem lastMove_of_getLast {types : List ChangeType}
    (last : types.getLast? = some .destroyed) : lastMove types = some .destroyed := by
  obtain ⟨front, rfl⟩ := List.getLast?_eq_some_iff.mp last
  rw [lastMove_append]
  rfl

theorem lastMove_ne_none {types : List ChangeType} (member : .created ∈ types) :
    lastMove types ≠ none := by
  intro missing
  have chosen : ChangeType.created ∈ types.filter (· != .updated) :=
    List.mem_filter.mpr ⟨member, rfl⟩
  rw [List.getLast?_eq_none_iff.mp missing] at chosen
  cases chosen

def kindOf (types : List ChangeType) : Listing :=
  if types = [] then .omitted else listing types

def Listing.applied (held : Bool) : Listing → Bool
  | .omitted => held
  | .created => true
  | .updated => held
  | .destroyed => false

/-- The client is right about an email, and sees it if it is valid and has changed. -/
def RightAbout (held : Bool) (kind : Listing) (types : List ChangeType) : Prop :=
  kind.applied held = replay held types ∧
    (replay held types = true → types ≠ [] → kind = .created ∨ kind = .updated)

theorem rightAbout_omitted_iff {held : Bool} {types : List ChangeType} :
    RightAbout held .omitted types ↔
      types = [] ∨ (held = false ∧ lastMove types ≠ some .created) := by
  rw [RightAbout, replay_eq]
  cases types with
  | nil => simp [lastMove, Listing.applied]
  | cons first rest =>
      cases held with
      | false => cases lastMove (first :: rest) <;> simp [Listing.applied]
      | true =>
          cases lastMove (first :: rest) with
          | none => simp [Listing.applied]
          | some type => cases type <;> simp [Listing.applied]

theorem rightAbout_created_iff {held : Bool} {types : List ChangeType}
    (moved : lastMove types ≠ none) :
    RightAbout held .created types ↔ lastMove types = some .created := by
  rw [RightAbout, replay_eq]
  cases last : lastMove types with
  | none => exact absurd last moved
  | some type => cases type <;> simp [Listing.applied]

theorem rightAbout_destroyed_iff {held : Bool} {types : List ChangeType}
    (moved : lastMove types ≠ none) :
    RightAbout held .destroyed types ↔ lastMove types ≠ some .created := by
  rw [RightAbout, replay_eq]
  cases last : lastMove types with
  | none => exact absurd last moved
  | some type => cases type <;> simp [Listing.applied]

theorem rightAbout_updated_iff {held : Bool} {types : List ChangeType} :
    RightAbout held .updated types ↔
      lastMove types ≠ some (if held then .destroyed else .created) := by
  have settled := lastMove_ne_updated types
  rw [RightAbout, replay_eq]
  cases last : lastMove types with
  | none => simp [Listing.applied]
  | some type =>
      rw [last] at settled
      cases type with
      | created => cases held <;> simp [Listing.applied]
      | updated => exact absurd rfl settled
      | destroyed => cases held <;> simp [Listing.applied]

theorem lastMove_after_destroy {early : List ChangeType} (late : List ChangeType)
    (last : early.getLast? = some .destroyed) :
    lastMove (early ++ late) ≠ none ∧
      (lastMove (early ++ late) ≠ some .created ↔ lastMove late ≠ some .created) := by
  rw [lastMove_append, lastMove_of_getLast last]
  cases lastMove late <;> simp

theorem told_iff (held : Bool) (early late : List ChangeType) :
    Told held early late ↔ RightAbout held (kindOf early) (early ++ late) := by
  unfold Told kindOf listing
  by_cases nothing : early = []
  · rw [if_pos nothing, if_pos nothing, nothing, List.nil_append]
    exact rightAbout_omitted_iff.symm
  · rw [if_neg nothing, if_neg nothing]
    by_cases made : ChangeType.created ∈ early
    · have seen : early.contains .created = true := List.contains_iff_mem.mpr made
      rw [if_pos made, seen, Bool.true_and]
      by_cases ended : early.getLast? = some .destroyed
      · have same : (early.getLast? == some .destroyed) = true := beq_iff_eq.mpr ended
        rw [if_pos ended, same, if_pos rfl, rightAbout_omitted_iff,
          (lastMove_after_destroy late ended).2]
        simp [nothing]
      · have other : (early.getLast? == some .destroyed) = false := beq_false_of_ne ended
        rw [if_neg ended, other, if_neg Bool.false_ne_true, if_pos rfl]
        exact (rightAbout_created_iff
          (lastMove_ne_none (List.mem_append_left _ made))).symm
    · have unseen : early.contains .created = false := by
        rw [Bool.eq_false_iff]
        intro seen
        exact made (List.contains_iff_mem.mp seen)
      rw [if_neg made, unseen, Bool.false_and, if_neg Bool.false_ne_true,
        if_neg Bool.false_ne_true]
      by_cases ended : early.getLast? = some .destroyed
      · have same : (early.getLast? == some .destroyed) = true := beq_iff_eq.mpr ended
        obtain ⟨moved, decided⟩ := lastMove_after_destroy late ended
        rw [if_pos ended, same, if_pos rfl, rightAbout_destroyed_iff moved, decided]
      · have other : (early.getLast? == some .destroyed) = false := beq_false_of_ne ended
        rw [if_neg ended, other, if_neg Bool.false_ne_true]
        exact rightAbout_updated_iff.symm

def pick (kind : Listing) (lists : List Nat × List Nat × List Nat) : List Nat :=
  match kind with
  | .omitted => []
  | .created => lists.1
  | .updated => lists.2.1
  | .destroyed => lists.2.2

theorem mem_pick_foldGroup {kind : Listing} (listed : kind ≠ .omitted)
    (lists : List Nat × List Nat × List Nat) (group : Nat × List EmailChange)
    (emailId : Nat) :
    emailId ∈ pick kind (foldGroup lists group) ↔
      emailId ∈ pick kind lists ∨
        (group.1 = emailId ∧ listing (group.2.map (·.changeType)) = kind) := by
  unfold foldGroup
  cases listing (group.2.map (·.changeType)) with
  | omitted => cases kind <;> simp [pick] at listed ⊢
  | created => cases kind <;> simp [pick, or_comm, eq_comm] at listed ⊢
  | updated => cases kind <;> simp [pick, or_comm, eq_comm] at listed ⊢
  | destroyed => cases kind <;> simp [pick, or_comm, eq_comm] at listed ⊢

theorem mem_pick_foldl {kind : Listing} (listed : kind ≠ .omitted)
    (groups : List (Nat × List EmailChange)) (lists : List Nat × List Nat × List Nat)
    (emailId : Nat) :
    emailId ∈ pick kind (groups.foldl foldGroup lists) ↔
      emailId ∈ pick kind lists ∨ ∃ group ∈ groups, group.1 = emailId ∧
        listing (group.2.map (·.changeType)) = kind := by
  induction groups generalizing lists with
  | nil => simp
  | cons group groups ih =>
      rw [List.foldl_cons, ih, mem_pick_foldGroup listed, or_assoc]
      simp only [List.mem_cons, exists_eq_or_imp]

theorem typesOf_eq_nil_iff {emailId : Nat} {changes : List EmailChange} :
    typesOf emailId changes = [] ↔ emailId ∉ changes.map (·.emailId) := by
  simp [typesOf, List.filter_eq_nil_iff]

theorem mem_pick_iff {kind : Listing} (listed : kind ≠ .omitted)
    (changes : List EmailChange) (emailId : Nat) :
    emailId ∈ pick kind (foldEmailChanges changes) ↔
      kindOf (typesOf emailId changes) = kind := by
  have unsorted : emailId ∈ pick kind (foldEmailChanges changes) ↔
      emailId ∈ pick kind ((groupByEmail changes).foldl foldGroup ([], [], [])) := by
    cases kind <;> simp [pick, foldEmailChanges, List.mem_insertionSort]
  have nowhere : emailId ∉ pick kind ([], [], []) := by
    cases kind <;> exact List.not_mem_nil
  rw [unsorted, mem_pick_foldl listed, kindOf]
  constructor
  · intro member
    obtain ⟨group, grouped, same, kinds⟩ := member.resolve_left nowhere
    obtain ⟨id, changed, whole⟩ := List.mem_map.mp grouped
    rw [← whole] at same kinds
    have same : id = emailId := same
    rw [same] at changed kinds
    have some_change : typesOf emailId changes ≠ [] := by
      intro nothing
      exact typesOf_eq_nil_iff.mp nothing (List.mem_dedup.mp changed)
    rw [if_neg some_change]
    exact kinds
  · intro kinds
    right
    by_cases nothing : typesOf emailId changes = []
    · rw [if_pos nothing] at kinds
      exact absurd kinds.symm listed
    · rw [if_neg nothing] at kinds
      have changed : emailId ∈ changes.map (·.emailId) := by
        by_contra missing
        exact nothing (typesOf_eq_nil_iff.mpr missing)
      refine ⟨_, List.mem_map.mpr ⟨emailId, List.mem_dedup.mpr changed, rfl⟩, rfl, kinds⟩

def typesIn (emailId : Nat) (records : List (Nat × ChangeType)) : List ChangeType :=
  (records.filter (·.1 == emailId)).map (·.2)

theorem typesOf_append (emailId : Nat) (front back : List EmailChange) :
    typesOf emailId (front ++ back) = typesOf emailId front ++ typesOf emailId back := by
  simp [typesOf]

theorem recordAll_changes (journal : Journal) (records : List (Nat × ChangeType)) :
    ∃ added, (journal.recordAll records).changes = journal.changes ++ added ∧
      (∀ change ∈ added, journal.stateCounter < change.stateCounter) ∧
      ∀ emailId, typesOf emailId added = typesIn emailId records := by
  induction records generalizing journal with
  | nil => exact ⟨[], (List.append_nil _).symm, List.forall_mem_nil _, fun _ => rfl⟩
  | cons first rest ih =>
      obtain ⟨added, appended, above, types⟩ := ih (journal.record first.1 first.2)
      refine ⟨⟨first.1, first.2, journal.stateCounter + 1⟩ :: added, ?_, ?_, ?_⟩
      · rw [Journal.recordAll, List.foldl_cons]
        refine appended.trans ?_
        rw [Journal.record, List.append_assoc, List.singleton_append]
      · intro change member
        rcases List.mem_cons.mp member with new | later
        · rw [new]
          exact Nat.lt_succ_self _
        · exact Nat.lt_of_succ_lt (above change later)
      · intro emailId
        have tail := types emailId
        simp only [typesOf, typesIn, List.filter_cons] at tail ⊢
        by_cases same : (first.1 == emailId) = true
        · simp [same, tail]
        · simp [same, tail]

theorem recordAll_append (journal : Journal) (front back : List (Nat × ChangeType)) :
    (journal.recordAll front).recordAll back = journal.recordAll (front ++ back) :=
  (List.foldl_append ..).symm

theorem split_at_counter {changes : List EmailChange}
    (ascending : changes.Pairwise (·.stateCounter < ·.stateCounter)) (counter : Nat) :
    changes = changes.filter (fun change => decide (change.stateCounter ≤ counter)) ++
      changes.filter fun change => decide (counter < change.stateCounter) := by
  induction changes with
  | nil => rfl
  | cons first rest ih =>
      obtain ⟨below, ascending⟩ := List.pairwise_cons.mp ascending
      by_cases up_to : first.stateCounter ≤ counter
      · have not_after : ¬ counter < first.stateCounter := Nat.not_lt.mpr up_to
        rw [List.filter_cons_of_pos (by simpa using up_to),
          List.filter_cons_of_neg (by simpa using up_to), List.cons_append, ← ih ascending]
      · have after : counter < first.stateCounter := Nat.lt_of_not_le up_to
        have none_up_to : rest.filter (fun change =>
            decide (change.stateCounter ≤ counter)) = [] := by
          apply List.filter_eq_nil_iff.mpr
          intro change member
          have later := below change member
          simp only [decide_eq_true_eq]
          omega
        have all_after : rest.filter (fun change =>
            decide (counter < change.stateCounter)) = rest := by
          apply List.filter_eq_self.mpr
          intro change member
          exact decide_eq_true (after.trans (below change member))
        rw [List.filter_cons_of_neg (by simpa using after),
          List.filter_cons_of_pos (by simpa using after), none_up_to, all_after]
        rfl

theorem listSince_eq (journal : Journal) (since current : Nat) :
    journal.listSince (since : Int) current =
      journal.changes.filter fun change =>
        decide (since < change.stateCounter) && decide (change.stateCounter ≤ current) := by
  simp [Journal.listSince]

theorem listSince_own (journal : Journal) (since : Nat) :
    journal.listSince (since : Int) journal.stateCounter =
      journal.changes.filter fun change => decide (since < change.stateCounter) := by
  rw [listSince_eq]
  apply List.filter_congr
  intro change member
  simp [journal.bounded change member]

section Later

variable (journal : Journal) {since : Nat} (records : List (Nat × ChangeType))

theorem listSince_recordAll (since : Nat) :
    (journal.recordAll records).listSince (since : Int) journal.stateCounter =
      journal.listSince (since : Int) journal.stateCounter := by
  obtain ⟨added, appended, above, -⟩ := recordAll_changes journal records
  have excluded : added.filter (fun change =>
      decide (since < change.stateCounter) &&
        decide (change.stateCounter ≤ journal.stateCounter)) = [] := by
    apply List.filter_eq_nil_iff.mpr
    intro change member
    have later := above change member
    simp only [Bool.and_eq_true, decide_eq_true_eq]
    omega
  rw [listSince_eq, listSince_eq, appended, List.filter_append, excluded, List.append_nil]

theorem validAt_recordAll (initial : Nat → Bool) (known : since ≤ journal.stateCounter)
    (emailId : Nat) :
    validAt initial (journal.recordAll records) since emailId =
      validAt initial journal since emailId := by
  obtain ⟨added, appended, above, -⟩ := recordAll_changes journal records
  have excluded : added.filter (fun change => decide (change.stateCounter ≤ since)) = [] := by
    apply List.filter_eq_nil_iff.mpr
    intro change member
    have later := above change member
    simp only [decide_eq_true_eq]
    omega
  rw [validAt, validAt, appended, List.filter_append, excluded, List.append_nil]

theorem typesOf_since (known : since ≤ journal.stateCounter) (emailId : Nat) :
    typesOf emailId ((journal.recordAll records).listSince (since : Int)
        (journal.recordAll records).stateCounter) =
      typesOf emailId (journal.listSince (since : Int) journal.stateCounter) ++
        typesIn emailId records := by
  obtain ⟨added, appended, above, types⟩ := recordAll_changes journal records
  have included : added.filter (fun change => decide (since < change.stateCounter)) =
      added := by
    apply List.filter_eq_self.mpr
    intro change member
    exact decide_eq_true (Nat.lt_of_le_of_lt known (above change member))
  rw [listSince_own, listSince_own, appended, List.filter_append, included, typesOf_append,
    types]

theorem validAt_own (initial : Nat → Bool) (since emailId : Nat) :
    validAt initial journal journal.stateCounter emailId =
      replay (validAt initial journal since emailId)
        (typesOf emailId (journal.listSince (since : Int) journal.stateCounter)) := by
  have all : journal.changes.filter (fun change =>
      decide (change.stateCounter ≤ journal.stateCounter)) = journal.changes := by
    apply List.filter_eq_self.mpr
    intro change member
    exact decide_eq_true (journal.bounded change member)
  rw [validAt, all, listSince_own, validAt, replay, replay, replay, ← List.foldl_append,
    ← typesOf_append, ← split_at_counter journal.ascending]

end Later

theorem parseEmailStateCounter_toString (counter : Nat) :
    parseEmailStateCounter (toString counter) = some (counter : Int) := by
  have whole : counter.repr.toList.takeWhile (· != ':') = counter.repr.toList := by
    apply List.takeWhile_eq_self_iff.mpr
    intro character member
    apply bne_iff_ne.mpr
    intro colon
    have digit := isDigit_of_mem_repr member
    rw [colon] at digit
    exact absurd digit (by decide)
  rw [parseEmailStateCounter, show toString counter = counter.repr from rfl, whole,
    String.ofList_toList, integerParseExact_repr]

theorem toString_mem_map_iff {emailId : Nat} {emails : List Nat} :
    toString emailId ∈ emails.map toString ↔ emailId ∈ emails := by
  constructor
  · intro member
    obtain ⟨other, listed, same⟩ := List.mem_map.mp member
    rw [← repr_inj same]
    exact listed
  · exact List.mem_map_of_mem

def answered (oldState newState : String) (changes : List EmailChange) :
    ChangesResponse where
  oldState := oldState
  newState := newState
  hasMoreChanges := false
  created := (foldEmailChanges changes).1.map toString
  updated := (foldEmailChanges changes).2.1.map toString
  destroyed := (foldEmailChanges changes).2.2.map toString

section Answered

variable (oldState newState : String) (changes : List EmailChange) (emailId : Nat)

theorem mem_created_iff :
    toString emailId ∈ (answered oldState newState changes).created ↔
      kindOf (typesOf emailId changes) = .created :=
  toString_mem_map_iff.trans (@mem_pick_iff .created (by decide) changes emailId)

theorem mem_updated_iff :
    toString emailId ∈ (answered oldState newState changes).updated ↔
      kindOf (typesOf emailId changes) = .updated :=
  toString_mem_map_iff.trans (@mem_pick_iff .updated (by decide) changes emailId)

theorem mem_destroyed_iff :
    toString emailId ∈ (answered oldState newState changes).destroyed ↔
      kindOf (typesOf emailId changes) = .destroyed :=
  toString_mem_map_iff.trans (@mem_pick_iff .destroyed (by decide) changes emailId)

theorem applied_answered (held : Nat → Bool) :
    (answered oldState newState changes).applied held emailId =
      (kindOf (typesOf emailId changes)).applied (held emailId) := by
  have created : (answered oldState newState changes).created.contains (toString emailId) =
      (kindOf (typesOf emailId changes) == .created) := by
    rw [Bool.eq_iff_iff, List.contains_iff_mem, mem_created_iff, beq_iff_eq]
  have destroyed : (answered oldState newState changes).destroyed.contains
      (toString emailId) = (kindOf (typesOf emailId changes) == .destroyed) := by
    rw [Bool.eq_iff_iff, List.contains_iff_mem, mem_destroyed_iff, beq_iff_eq]
  rw [ChangesResponse.applied, created, destroyed]
  cases kindOf (typesOf emailId changes) with
  | omitted => cases held emailId <;> rfl
  | created => cases held emailId <;> rfl
  | updated => cases held emailId <;> rfl
  | destroyed => cases held emailId <;> rfl

end Answered

/-- The client is in step just when the changes up to the read of the counter tell the
fate of every email. -/
theorem inStep_iff (initial : Nat → Bool) (journal : Journal) (since : Nat)
    (known : since ≤ journal.stateCounter) (during later : List (Nat × ChangeType)) :
    InStep initial journal since during later ↔
      ∀ emailId, Told (validAt initial journal since emailId)
        (typesOf emailId (journal.listSince since journal.stateCounter))
        (typesIn emailId (during ++ later)) := by
  have answer : emailChangesSince (toString since) journal (journal.recordAll during)
      ((journal.recordAll during).recordAll later) =
        some (answered (toString since)
          (toString ((journal.recordAll during).recordAll later).stateCounter)
          (journal.listSince since journal.stateCounter)) := by
    have accepted : (since : Int) ≤ (journal.stateCounter : Int) := Int.ofNat_le.mpr known
    rw [emailChangesSince, parseEmailStateCounter_toString]
    dsimp only
    rw [if_pos accepted, listSince_recordAll]
    rfl
  rw [InStep, answer, recordAll_append]
  have valid_iff : ∀ emailId,
      validAt initial (journal.recordAll (during ++ later))
          (journal.recordAll (during ++ later)).stateCounter emailId =
        replay (validAt initial journal since emailId)
          (typesOf emailId (journal.listSince since journal.stateCounter) ++
            typesIn emailId (during ++ later)) := by
    intro emailId
    rw [validAt_own _ initial since, validAt_recordAll journal _ initial known,
      typesOf_since journal _ known]
  constructor
  · intro answered
    obtain ⟨response, same, synchronises⟩ := answered
    cases same
    intro emailId
    rw [told_iff, RightAbout, ← valid_iff]
    constructor
    · rw [← synchronises.valid emailId, applied_answered,
        validAt_recordAll journal _ initial known]
    · intro valid changed
      rw [← mem_created_iff, ← mem_updated_iff]
      apply synchronises.listed emailId valid
      rw [typesOf_since journal _ known]
      exact changed
  · intro told
    refine ⟨_, rfl, rfl, ?_, ?_⟩
    · intro emailId
      have agrees := (told_iff _ _ _).mp (told emailId)
      rw [applied_answered, validAt_recordAll journal _ initial known, valid_iff]
      exact agrees.1
    · intro emailId valid changed
      have agrees := (told_iff _ _ _).mp (told emailId)
      rw [valid_iff] at valid
      rw [typesOf_since journal _ known] at changed
      rw [mem_created_iff, mem_updated_iff]
      exact agrees.2 valid changed

/-- An email was created before the call, and nothing is recorded during it. -/
theorem inStep_quiet :
    InStep (fun _ => false) (Journal.empty.record 7 .created) 0 [] [] := by
  apply (inStep_iff (fun _ => false) (Journal.empty.record 7 .created) 0 (by decide)
    [] []).mpr
  intro emailId
  have listed : (Journal.empty.record 7 .created).listSince (0 : Nat)
      (Journal.empty.record 7 .created).stateCounter = [⟨7, .created, 1⟩] := by
    decide
  rw [listed]
  by_cases same : 7 = emailId
  · simp [Told, typesOf, typesIn, lastMove, same]
  · simp [Told, typesOf, typesIn, same]

/-- An email that is created between the reads of the counter and of the new state is
lost to the client. -/
theorem not_inStep_overlapping :
    ¬ InStep (fun _ => false) Journal.empty 0 [(7, .created)] [] := by
  intro inStep
  obtain ⟨response, answer, synchronises⟩ := inStep
  have silent : emailChangesSince (toString 0) Journal.empty
      (Journal.empty.recordAll [(7, .created)])
      ((Journal.empty.recordAll [(7, .created)]).recordAll []) =
        some ⟨"0", "1", false, [], [], []⟩ := by
    decide
  rw [silent] at answer
  cases answer
  have valid := synchronises.valid 7
  exact absurd valid (by decide)

end Elektrine.JMAP
