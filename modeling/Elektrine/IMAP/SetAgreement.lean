import Elektrine.IMAP.SequenceSets

/-!
# Where the readings of a set agree

What each of the selections and predicates makes of the text of a set, and for which sets
all of them mean the numbers that the set denotes.
-/

namespace Elektrine.IMAP

open Elektrine.Email Elektrine.Library

variable {messages : List Listed} {set : SequenceSet}

theorem mem_expandSequencePart_text {part : SetPart} {largest number : Nat} :
    number ∈ expandSequencePart part.text largest ↔
      (1 ≤ number ∧ number ≤ largest) ∧ part.denotes largest number := by
  rw [expandSequencePart, List.mem_filter, Bool.and_eq_true, decide_eq_true_eq,
    decide_eq_true_eq, and_comm]
  apply and_congr_right
  intro bounds
  have used : 0 < largest := by omega
  rw [part.trim_text]
  cases part with
  | single bound =>
      rw [SetPart.text, bound.splitAll_text]
      dsimp only
      rw [parseSequenceNumber_text bound used, Option.toList_some, List.mem_singleton,
        SetPart.denotes, decide_eq_true_eq]
  | range first last =>
      rw [SetPart.splitAll_range]
      dsimp only
      rw [parseSequenceNumber_text first used, parseSequenceNumber_text last used]
      dsimp only
      rw [List.mem_range'_1, SetPart.denotes, Bool.and_eq_true, decide_eq_true_eq,
        decide_eq_true_eq]
      omega

theorem SequenceSet.parts_filled (set : SequenceSet) :
    ((splitAll ',' set.text).filter fun part => part != "") =
      set.parts.map SetPart.text := by
  rw [set.splitAll_text, List.filter_eq_self]
  intro text member
  obtain ⟨part, -, rfl⟩ := List.mem_map.mp member
  exact bne_iff_ne.mpr part.text_ne_empty

theorem mem_getMessagesBySequence_text {entry : Numbered} :
    entry ∈ getMessagesBySequence messages set.text ↔
      entry ∈ numbered messages ∧ set.denotes messages.length entry.2 := by
  rw [getMessagesBySequence, set.parts_filled]
  apply mem_filterMap_at.trans
  rw [List.mem_insertionSort, List.mem_eraseDups, List.mem_flatMap, mem_numbered,
    SequenceSet.denotes, List.any_eq_true]
  constructor
  · intro found
    obtain ⟨⟨text, member, expanded⟩, there⟩ := found
    obtain ⟨part, inside, rfl⟩ := List.mem_map.mp member
    obtain ⟨bounds, denoted⟩ := mem_expandSequencePart_text.mp expanded
    exact ⟨⟨bounds.1, there⟩, part, inside, denoted⟩
  · intro found
    obtain ⟨⟨positive, there⟩, part, inside, denoted⟩ := found
    have within := (List.getElem?_eq_some_iff.mp there).1
    refine ⟨⟨part.text, List.mem_map_of_mem inside, ?_⟩, there⟩
    exact mem_expandSequencePart_text.mpr ⟨⟨positive, by omega⟩, denoted⟩

theorem numbered_ascend (messages : List Listed) :
    (numbered messages).Pairwise fun first second => first.2 < second.2 := by
  have numbers : ((numbered messages).map Prod.snd).Pairwise (· < ·) := by
    rw [numbered, List.zipIdx_map_snd]
    exact List.pairwise_lt_range'
  exact List.pairwise_map.mp numbers

theorem eq_of_ascending {first second : List Numbered}
    (firstAscends : first.Pairwise fun one other => one.2 < other.2)
    (secondAscends : second.Pairwise fun one other => one.2 < other.2)
    (same : ∀ entry, entry ∈ first ↔ entry ∈ second) : first = second := by
  apply List.Perm.eq_of_pairwise _ firstAscends secondAscends
  · apply (List.perm_ext_iff_of_nodup _ _).mpr same
    · exact firstAscends.imp fun below equal => by rw [equal] at below; omega
    · exact secondAscends.imp fun below equal => by rw [equal] at below; omega
  · intro one other _ _ below above
    omega

theorem getMessagesBySequence_text (messages : List Listed) (set : SequenceSet) :
    getMessagesBySequence messages set.text =
      (numbered messages).filter fun entry => set.denotes messages.length entry.2 := by
  apply eq_of_ascending (sequence_numbers_ascend _ _) ((numbered_ascend messages).filter _)
  intro entry
  rw [mem_getMessagesBySequence_text, List.mem_filter]

theorem matchesSequenceSetPart_text (part : SetPart) {number largest : Nat}
    (used : 0 < largest) :
    matchesSequenceSetPart number largest part.text = part.denotes largest number := by
  cases part with
  | single bound =>
      rw [SetPart.text, matchesSequenceSetPart, bound.splitAll_text]
      dsimp only
      rw [parseSequenceNumber_text bound used, SetPart.denotes, Bool.eq_iff_iff, beq_iff_eq,
        decide_eq_true_eq, Option.some_inj, eq_comm]
  | range first last =>
      rw [matchesSequenceSetPart, SetPart.splitAll_range]
      dsimp only
      rw [parseSequenceNumber_text first used, parseSequenceNumber_text last used]
      rfl

theorem matchesSequenceSet_text (set : SequenceSet) {number largest : Nat}
    (used : 0 < largest) :
    matchesSequenceSet (some number) (some largest) set.text =
      set.denotes largest number := by
  dsimp only [matchesSequenceSet]
  rw [set.parts_filled, List.any_map, SequenceSet.denotes]
  apply List.any_congr rfl
  intro part
  rw [Function.comp_apply, part.trim_text, matchesSequenceSetPart_text part used]

/-- What `get_messages_by_uid` makes of a part. -/
def SetPart.listed (largest id : Nat) : SetPart → Bool
  | .single .star => true
  | .single (.number value _) => id = value
  | .range first last => first.value largest ≤ id && id ≤ last.value largest

/-- What `matches_uid_in_set?` makes of a part. -/
def SetPart.exact (id : Nat) : SetPart → Bool
  | .single (.number value _) => id = value
  | .range (.number first _) (.number last _) => first ≤ id && id ≤ last
  | _ => false

/-- What `matches_uid_range?` makes of a set of one part. -/
def SetPart.searched (id : Nat) : SetPart → Bool
  | .single .star => true
  | .single (.number value _) => id = value
  | .range .star .star => false
  | .range (.number first _) .star => first ≤ id
  | .range .star (.number last _) => id ≤ last
  | .range (.number first _) (.number last _) => min first last ≤ id && id ≤ max first last

theorem mem_expandUidPart_text {part : SetPart} {entry : Numbered} :
    entry ∈ expandUidPart messages part.text ↔
      entry ∈ numbered messages ∧ part.listed (largestUid messages) entry.1.id := by
  rw [expandUidPart, part.trim_text]
  cases part with
  | single bound =>
      cases bound with
      | number value positive =>
          rw [if_neg, SetPart.text, Bound.splitAll_text]
          · dsimp only
            rw [integerParseExact_number]
            dsimp only
            rw [List.mem_filter, SetPart.listed, decide_eq_true_eq, decide_eq_true_eq,
              Int.natCast_inj]
          · rw [SetPart.text, Bound.eq_star_iff]
            exact Bound.noConfusion
      | star =>
          rw [if_pos (show (SetPart.single .star).text = "*" from rfl), SetPart.listed]
          exact (and_iff_left rfl).symm
  | range first last =>
      have no_star : (SetPart.range first last).text ≠ "*" := by
        intro same
        have split := SetPart.splitAll_range first last
        rw [same, show splitAll ':' "*" = ["*"] by decide] at split
        exact List.cons_ne_nil _ _ (List.cons.inj split).2.symm
      rw [if_neg no_star, SetPart.splitAll_range]
      dsimp only
      rw [parseUidNumber_text, parseUidNumber_text, List.mem_filter, SetPart.listed]
      simp only [Bool.and_eq_true, decide_eq_true_eq, Int.ofNat_le]

theorem matchesUidInSet_text (set : SequenceSet) (id : Nat) :
    matchesUidInSet id set.text = set.parts.any (SetPart.exact id) := by
  rw [matchesUidInSet, set.splitAll_text, List.any_map]
  apply List.any_congr rfl
  intro part
  rw [Function.comp_apply, part.trim_text]
  cases part with
  | single bound =>
      rw [SetPart.text, bound.splitAll_text]
      dsimp only
      cases bound with
      | number value positive =>
          rw [integerParseExact_number, SetPart.exact, Bool.eq_iff_iff, beq_iff_eq,
            decide_eq_true_eq, Option.some_inj, Int.natCast_inj, eq_comm]
      | star => rfl
  | range first last =>
      rw [SetPart.splitAll_range]
      dsimp only
      cases first with
      | star => rfl
      | number first positive =>
          rw [integerParseExact_number]
          cases last with
          | star => rfl
          | number last positive' =>
              rw [integerParseExact_number]
              dsimp only [SetPart.exact]
              simp only [Int.ofNat_le]

theorem parseUidBound_eq_none {text : String} (comma : ',' ∈ text.toList) :
    parseUidBound text = none := by
  cases parsed : parseUidBound text with
  | none => rfl
  | some value =>
      have kept : ',' ∈ (trim text).toList := mem_trim_of_visible comma (by decide)
      rcases isDigit_of_integerParseExact parsed kept with digit | minus | plus
      · cases digit
      · cases minus
      · cases plus

theorem matchesUidRange_eq_false {range : String} (comma : ',' ∈ range.toList)
    (id : Nat) : matchesUidRange id range = false := by
  have kept : ',' ∈ (trim range).toList := mem_trim_of_visible comma (by decide)
  have inside : ∃ piece ∈ splitAll ':' (trim range), ',' ∈ piece.toList := by
    have joined : [':'].intercalate ((trim range).toList.splitOn ':') =
        (trim range).toList := List.intercalate_splitOn ':'
    rw [← joined] at kept
    rcases mem_intercalate kept with colon | found
    · exact absurd (List.mem_singleton.mp colon) (by decide)
    · obtain ⟨piece, there, here⟩ := found
      refine ⟨String.ofList piece, List.mem_map_of_mem there, ?_⟩
      rwa [String.toList_ofList]
  have star : ∀ text : String, ',' ∈ text.toList → text ≠ "*" := by
    intro text here same
    rw [same] at here
    exact absurd here (by decide)
  unfold matchesUidRange
  obtain ⟨piece, there, here⟩ := inside
  split
  · rename_i first last shape
    rw [shape] at there
    rcases List.mem_cons.mp there with front | back
    · rw [front] at here
      rw [parseUidBound_eq_none here, if_neg (star first here), ite_self]
    · rw [List.mem_singleton.mp back] at here
      rw [parseUidBound_eq_none here, if_neg (star last here)]
      split_ifs
      · rfl
      · cases parseUidBound first <;> rfl
  · rename_i single shape
    rw [shape] at there
    rw [List.mem_singleton.mp there] at here
    rw [parseUidBound_eq_none here, Bool.or_eq_false_iff]
    exact ⟨decide_eq_false (star single here), rfl⟩
  · rfl

theorem matchesUidRange_text (part : SetPart) (id : Nat) :
    matchesUidRange id part.text = part.searched id := by
  rw [matchesUidRange, part.trim_text]
  cases part with
  | single bound =>
      rw [SetPart.text, bound.splitAll_text]
      dsimp only
      rw [parseUidBound_text]
      cases bound with
      | number value positive =>
          rw [integerParseExact_number, decide_eq_false, Bool.false_or, SetPart.searched,
            Bool.eq_iff_iff, beq_iff_eq, decide_eq_true_eq, Option.some_inj,
            Int.natCast_inj, eq_comm]
          rw [Bound.eq_star_iff]
          exact Bound.noConfusion
      | star => rfl
  | range first last =>
      rw [SetPart.splitAll_range]
      dsimp only
      rw [parseUidBound_text, parseUidBound_text]
      simp only [Bound.eq_star_iff]
      cases first with
      | star =>
          cases last with
          | star => rfl
          | number last positive =>
              rw [integerParseExact_number, if_neg Bound.noConfusion, if_pos rfl]
              dsimp only [SetPart.searched]
              simp only [Int.ofNat_le]
      | number first positive =>
          rw [integerParseExact_number]
          cases last with
          | star =>
              rw [if_pos rfl]
              dsimp only [SetPart.searched]
              simp only [Int.ofNat_le]
          | number last positive' =>
              rw [integerParseExact_number, if_neg Bound.noConfusion,
                if_neg Bound.noConfusion]
              dsimp only [SetPart.searched]
              rw [Bool.eq_iff_iff]
              simp only [Bool.and_eq_true, decide_eq_true_eq]
              omega

structure SequenceSet.AgreedIn (set : SequenceSet) (messages : List Listed) : Prop where
  bySequence : getMessagesBySequence messages set.text =
    (numbered messages).filter fun entry => set.denotes messages.length entry.2
  byUid : (getMessagesByUid messages set.text).Perm
    ((numbered messages).filter fun entry =>
      set.denotes (largestUid messages) entry.1.id)
  uidExpunge : ∀ message ∈ messages,
    matchesUidInSet message.id set.text = set.denotes (largestUid messages) message.id
  searchSequence : ∀ entry ∈ numbered messages,
    matchesSequenceSet (some entry.2) (some messages.length) set.text =
      set.denotes messages.length entry.2
  searchUid : ∀ message ∈ messages,
    matchesUidRange message.id set.text = set.denotes (largestUid messages) message.id

def SetPart.ascending : SetPart → Bool
  | .single (.number _ _) => true
  | .range (.number first _) (.number last _) => first ≤ last
  | _ => false

def SequenceSet.plain (set : SequenceSet) : Bool :=
  match set.parts with
  | [part] => part.ascending
  | _ => false

theorem mem_uniqueById {entries : List Numbered} {seen : List Nat} {entry : Numbered}
    (determined : ∀ first ∈ entries, ∀ second ∈ entries,
      first.1.id = second.1.id → first = second) :
    entry ∈ uniqueById entries seen ↔ entry ∈ entries ∧ entry.1.id ∉ seen := by
  constructor
  · intro member
    exact ⟨(uniqueById_sublist entries seen).subset member,
      not_seen_of_mem_uniqueById member⟩
  · induction entries generalizing seen with
    | nil =>
        intro both
        cases both.1
    | cons head entries ih =>
        intro both
        have rest := fun seen => @ih seen fun first member second member' =>
          determined first (List.mem_cons_of_mem _ member) second
            (List.mem_cons_of_mem _ member')
        rw [uniqueById]
        rcases List.mem_cons.mp both.1 with rfl | member
        · rw [if_neg both.2]
          exact List.mem_cons_self
        · split
          · exact rest seen ⟨member, both.2⟩
          · by_cases same : head.1.id = entry.1.id
            · rw [determined head List.mem_cons_self entry both.1 same]
              exact List.mem_cons_self
            · apply List.mem_cons_of_mem
              apply rest
              refine ⟨member, ?_⟩
              intro again
              rcases List.mem_cons.mp again with here | known
              · exact same here.symm
              · exact both.2 known

theorem numbered_determined (distinct : (messages.map Listed.id).Nodup) :
    ∀ first ∈ numbered messages, ∀ second ∈ numbered messages,
      first.1.id = second.1.id → first = second := by
  intro first member second member' same
  obtain ⟨firstPositive, firstAt⟩ := mem_numbered.mp member
  obtain ⟨secondPositive, secondAt⟩ := mem_numbered.mp member'
  obtain ⟨firstLength, firstEq⟩ := List.getElem?_eq_some_iff.mp firstAt
  obtain ⟨secondLength, secondEq⟩ := List.getElem?_eq_some_iff.mp secondAt
  have position : first.2 - 1 = second.2 - 1 := by
    have firstBound : first.2 - 1 < (messages.map Listed.id).length := by
      rwa [List.length_map]
    have secondBound : second.2 - 1 < (messages.map Listed.id).length := by
      rwa [List.length_map]
    have sameId : (messages.map Listed.id)[first.2 - 1] =
        (messages.map Listed.id)[second.2 - 1] := by
      rw [List.getElem_map, List.getElem_map, firstEq, secondEq, same]
    exact distinct.getElem_inj_iff.mp sameId
  apply Prod.ext
  · rw [← firstEq, ← secondEq]
    congr 1
  · omega

theorem getMessagesByUid_text (distinct : (messages.map Listed.id).Nodup) :
    (getMessagesByUid messages set.text).Perm
      ((numbered messages).filter fun entry =>
        set.parts.any (SetPart.listed (largestUid messages) entry.1.id)) := by
  have determined := numbered_determined distinct
  have entry_iff : ∀ entry, entry ∈ (splitAll ',' set.text).flatMap
      (expandUidPart messages) ↔ entry ∈ numbered messages ∧
        set.parts.any (SetPart.listed (largestUid messages) entry.1.id) := by
    intro entry
    rw [set.splitAll_text, List.mem_flatMap, List.any_eq_true]
    constructor
    · intro found
      obtain ⟨text, member, expanded⟩ := found
      obtain ⟨part, inside, rfl⟩ := List.mem_map.mp member
      obtain ⟨there, listed⟩ := mem_expandUidPart_text.mp expanded
      exact ⟨there, part, inside, listed⟩
    · intro found
      obtain ⟨there, part, inside, listed⟩ := found
      exact ⟨part.text, List.mem_map_of_mem inside,
        mem_expandUidPart_text.mpr ⟨there, listed⟩⟩
  apply (List.perm_ext_iff_of_nodup _ _).mpr
  · intro entry
    rw [getMessagesByUid, mem_uniqueById, entry_iff, List.mem_filter]
    · exact and_iff_left List.not_mem_nil
    · intro first member second member'
      exact determined first ((entry_iff first).mp member).1 second
        ((entry_iff second).mp member').1
  · exact (nodup_uniqueById _ _).of_map _
  · exact ((numbered_ascend messages).filter _).imp fun below equal => by
      rw [equal] at below
      omega

theorem foldl_max_id (messages : List Listed) (bound : Nat) :
    messages.foldl (fun largest message => max largest message.id) bound = bound ∨
      ∃ message ∈ messages, message.id =
        messages.foldl (fun largest message => max largest message.id) bound := by
  induction messages generalizing bound with
  | nil => exact Or.inl rfl
  | cons head rest ih =>
      rw [List.foldl_cons]
      rcases ih (max bound head.id) with kept | found
      · rw [kept]
        rcases Nat.le_total head.id bound with below | above
        · exact Or.inl (Nat.max_eq_left below)
        · rw [Nat.max_eq_right above]
          exact Or.inr ⟨head, List.mem_cons_self, rfl⟩
      · obtain ⟨message, member, largest⟩ := found
        exact Or.inr ⟨message, List.mem_cons_of_mem _ member, largest⟩

theorem le_foldl_max_id (messages : List Listed) (bound : Nat) :
    bound ≤ messages.foldl (fun largest message => max largest message.id) bound := by
  induction messages generalizing bound with
  | nil => exact Nat.le_refl _
  | cons head rest ih => exact (Nat.le_max_left _ _).trans (ih _)

theorem id_le_largestUid {message : Listed} (member : message ∈ messages) :
    message.id ≤ largestUid messages := by
  rw [largestUid]
  generalize 0 = bound
  induction messages generalizing bound with
  | nil => cases member
  | cons head rest ih =>
      rw [List.foldl_cons]
      rcases List.mem_cons.mp member with rfl | later
      · exact (Nat.le_max_right _ _).trans (le_foldl_max_id _ _)
      · exact ih later _

theorem largestUid_mem (some_message : messages ≠ []) :
    ∃ message ∈ messages, message.id = largestUid messages := by
  cases messages with
  | nil => exact absurd rfl some_message
  | cons head rest =>
      rw [largestUid, List.foldl_cons, Nat.zero_max]
      rcases foldl_max_id rest head.id with kept | found
      · rw [kept]
        exact ⟨head, List.mem_cons_self, rfl⟩
      · obtain ⟨message, member, largest⟩ := found
        exact ⟨message, List.mem_cons_of_mem _ member, largest⟩

theorem SetPart.listed_range {first last : Bound} {largest id : Nat} :
    (SetPart.range first last).listed largest id ↔
      first.value largest ≤ id ∧ id ≤ last.value largest := by
  rw [SetPart.listed, Bool.and_eq_true, decide_eq_true_eq, decide_eq_true_eq]

theorem SetPart.denotes_range {first last : Bound} {largest id : Nat} :
    (SetPart.range first last).denotes largest id ↔
      min (first.value largest) (last.value largest) ≤ id ∧
        id ≤ max (first.value largest) (last.value largest) := by
  rw [SetPart.denotes, Bool.and_eq_true, decide_eq_true_eq, decide_eq_true_eq]

theorem SetPart.readings_of_ascending {part : SetPart} (ascends : part.ascending)
    (largest id : Nat) :
    part.listed largest id = part.denotes largest id ∧
      part.exact id = part.denotes largest id ∧
      part.searched id = part.denotes largest id := by
  cases part with
  | single bound =>
      cases bound with
      | number value positive => exact ⟨rfl, rfl, rfl⟩
      | star => cases ascends
  | range first last =>
      cases first with
      | star => cases ascends
      | number first positive =>
          cases last with
          | star => cases ascends
          | number last positive' =>
              have order : first ≤ last := of_decide_eq_true ascends
              have within : ∀ {reading : Bool}, (reading ↔ first ≤ id ∧ id ≤ last) →
                  reading = (SetPart.range (.number first positive)
                    (.number last positive')).denotes largest id := by
                intro reading means
                rw [Bool.eq_iff_iff, means, SetPart.denotes_range]
                dsimp only [Bound.value]
                rw [Nat.min_eq_left order, Nat.max_eq_right order]
              refine ⟨within SetPart.listed_range, within ?_, within ?_⟩
              · rw [SetPart.exact, Bool.and_eq_true, decide_eq_true_eq, decide_eq_true_eq]
              · rw [SetPart.searched, Bool.and_eq_true, decide_eq_true_eq,
                  decide_eq_true_eq, Nat.min_eq_left order, Nat.max_eq_right order]

theorem SetPart.ascending_of_exact {part : SetPart} {id : Nat} (exact : part.exact id) :
    part.ascending := by
  cases part with
  | single bound =>
      cases bound with
      | number value positive => rfl
      | star => cases exact
  | range first last =>
      cases first with
      | star => cases exact
      | number first positive =>
          cases last with
          | star => cases exact
          | number last positive' =>
              rw [SetPart.exact, Bool.and_eq_true, decide_eq_true_eq,
                decide_eq_true_eq] at exact
              exact decide_eq_true (exact.1.trans exact.2)

theorem SetPart.denotes_of_read {part : SetPart} {largest id : Nat}
    (read : part.listed largest id ∨ part.exact id ∨ part.searched id) :
    part.denotes largest id ∨ part.denotes largest largest := by
  cases part with
  | single bound =>
      cases bound with
      | number value positive =>
          left
          rcases read with listed | exact | searched
          · exact listed
          · exact exact
          · exact searched
      | star =>
          right
          exact decide_eq_true rfl
  | range first last =>
      rw [SetPart.denotes_range, SetPart.denotes_range]
      cases first with
      | star =>
          right
          dsimp only [Bound.value]
          omega
      | number first positive =>
          cases last with
          | star =>
              right
              dsimp only [Bound.value]
              omega
          | number last positive' =>
              left
              rw [SetPart.listed_range, SetPart.exact, SetPart.searched] at read
              simp only [Bool.and_eq_true, decide_eq_true_eq] at read
              dsimp only [Bound.value] at read ⊢
              omega

theorem SequenceSet.single_or_comma (set : SequenceSet) :
    (∃ part, set.parts = [part] ∧ set.text = part.text) ∨ ',' ∈ set.text.toList := by
  have nonempty := set.nonempty
  cases parts : set.parts with
  | nil => exact absurd parts nonempty
  | cons first rest =>
      cases rest with
      | nil =>
          left
          refine ⟨first, rfl, ?_⟩
          rw [SequenceSet.text, parts, List.map_singleton, String.intercalate_singleton]
      | cons second rest =>
          right
          rw [SequenceSet.text, parts, String.toList_intercalate, List.map_cons, List.map_cons,
            List.map_cons, List.map_cons, List.intercalate_cons_cons]
          apply List.mem_append_left
          apply List.mem_append_right
          exact List.mem_singleton.mpr rfl

theorem SequenceSet.uidReadings (set : SequenceSet) {id : Nat}
    (read : matchesUidRange id set.text = true) :
    ∃ part, set.parts = [part] ∧ part.searched id := by
  rcases set.single_or_comma with single | comma
  · obtain ⟨part, parts, text⟩ := single
    rw [text, matchesUidRange_text] at read
    exact ⟨part, parts, read⟩
  · rw [matchesUidRange_eq_false comma] at read
    cases read

theorem SequenceSet.readings_of_plain (set : SequenceSet) (plain : set.plain)
    (largest id : Nat) :
    set.parts.any (SetPart.listed largest id) = set.denotes largest id ∧
      set.parts.any (SetPart.exact id) = set.denotes largest id ∧
      matchesUidRange id set.text = set.denotes largest id := by
  rw [SequenceSet.plain] at plain
  split at plain
  · rename_i part parts
    obtain ⟨listed, exact, searched⟩ := SetPart.readings_of_ascending plain largest id
    have text : set.text = part.text := by
      rw [SequenceSet.text, parts, List.map_singleton, String.intercalate_singleton]
    have alone : ∀ reading : SetPart → Bool, set.parts.any reading = reading part := by
      intro reading
      rw [parts, List.any_cons, List.any_nil, Bool.or_false]
    rw [SequenceSet.denotes, alone, alone, alone, text, matchesUidRange_text]
    exact ⟨listed, exact, searched⟩
  · cases plain

theorem SequenceSet.readings_of_none (set : SequenceSet)
    (none_denoted : ∀ message ∈ messages,
      set.denotes (largestUid messages) message.id = false)
    {message : Listed} (member : message ∈ messages) :
    set.parts.any (SetPart.listed (largestUid messages) message.id) =
        set.denotes (largestUid messages) message.id ∧
      set.parts.any (SetPart.exact message.id) =
        set.denotes (largestUid messages) message.id ∧
      matchesUidRange message.id set.text =
        set.denotes (largestUid messages) message.id := by
  obtain ⟨last, there, largest⟩ := largestUid_mem (List.ne_nil_of_mem member)
  have unread : ∀ part ∈ set.parts,
      ¬ (part.listed (largestUid messages) message.id ∨ part.exact message.id ∨
        part.searched message.id) := by
    intro part inside read
    have denoted : ∀ number, part.denotes (largestUid messages) number →
        set.denotes (largestUid messages) number = true :=
      fun number here => List.any_eq_true.mpr ⟨part, inside, here⟩
    rcases SetPart.denotes_of_read read with here | top
    · exact absurd (denoted _ here) (by rw [none_denoted message member]; decide)
    · rw [← largest] at top
      have := none_denoted last there
      rw [← largest] at this denoted
      rw [denoted _ top] at this
      cases this
  rw [none_denoted message member]
  refine ⟨?_, ?_, ?_⟩
  · rw [List.any_eq_false]
    intro part inside listed
    exact unread part inside (Or.inl listed)
  · rw [List.any_eq_false]
    intro part inside exact
    exact unread part inside (Or.inr (Or.inl exact))
  · rw [Bool.eq_false_iff]
    intro read
    obtain ⟨part, parts, searched⟩ := set.uidReadings read
    apply unread part _ (Or.inr (Or.inr searched))
    rw [parts]
    exact List.mem_cons_self

/-- The readings of a set of identifiers agree among messages with distinct identifiers
just when the set is a number or an ascending range of numbers, or denotes none of the
messages. -/
theorem sets_agree_iff (distinct : (messages.map Listed.id).Nodup) (set : SequenceSet) :
    set.AgreedIn messages ↔
      set.plain ∨ ∀ message ∈ messages,
        set.denotes (largestUid messages) message.id = false := by
  constructor
  · intro agreed
    by_contra neither
    rw [not_or] at neither
    obtain ⟨not_plain, denoted⟩ := neither
    apply denoted
    intro message member
    rw [Bool.eq_false_iff]
    intro here
    have searched := agreed.searchUid message member
    rw [here] at searched
    obtain ⟨part, parts, -⟩ := set.uidReadings searched
    have expunged := agreed.uidExpunge message member
    rw [here, matchesUidInSet_text, parts, List.any_cons, List.any_nil,
      Bool.or_false] at expunged
    apply not_plain
    rw [SequenceSet.plain, parts]
    exact SetPart.ascending_of_exact expunged
  · intro condition
    have readings : ∀ message ∈ messages,
        set.parts.any (SetPart.listed (largestUid messages) message.id) =
            set.denotes (largestUid messages) message.id ∧
          set.parts.any (SetPart.exact message.id) =
            set.denotes (largestUid messages) message.id ∧
          matchesUidRange message.id set.text =
            set.denotes (largestUid messages) message.id := by
      rcases condition with plain | none_denoted
      · exact fun message _ => set.readings_of_plain plain _ _
      · exact fun message member => set.readings_of_none none_denoted member
    exact ⟨getMessagesBySequence_text messages set,
      (getMessagesByUid_text distinct).trans (.of_eq (List.filter_congr fun entry member =>
        (readings _ (mem_of_mem_numbered member)).1)),
      fun message member => (matchesUidInSet_text set _).trans (readings message member).2.1,
      fun entry member => matchesSequenceSet_text set (by
        have := (List.getElem?_eq_some_iff.mp (mem_numbered.mp member).2).1
        omega),
      fun message member => (readings message member).2.2⟩

def twoListed : List Listed :=
  [⟨4, false, false, false, false, false, "received"⟩,
    ⟨9, false, false, false, false, false, "received"⟩]

theorem four_positive : 0 < 4 := by decide

theorem seven_positive : 0 < 7 := by decide

def fourToSeven : SequenceSet where
  parts := [.range (.number 4 four_positive) (.number 7 seven_positive)]
  nonempty := List.cons_ne_nil _ _

theorem fourToSeven_agreedIn : fourToSeven.AgreedIn twoListed :=
  (sets_agree_iff (by decide) fourToSeven).mpr (Or.inl (by decide))

def starSet : SequenceSet where
  parts := [.single .star]
  nonempty := List.cons_ne_nil _ _

/-- The star denotes the message 9 alone, `UID FETCH *` selects both messages and
`UID EXPUNGE *` none. -/
theorem not_starSet_agreedIn :
    ¬ starSet.AgreedIn twoListed ∧
      (getMessagesByUid twoListed starSet.text).map (·.1.id) = [4, 9] ∧
      ∀ message ∈ twoListed, matchesUidInSet message.id starSet.text = false := by
  have all : (getMessagesByUid twoListed starSet.text).map (·.1.id) = [4, 9] := by
    decide
  refine ⟨?_, all, by decide⟩
  intro agreed
  have selected := (agreed.byUid.map fun entry => entry.1.id).length_eq
  rw [all] at selected
  exact absurd selected (by decide)

end Elektrine.IMAP
