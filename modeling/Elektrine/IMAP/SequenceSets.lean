import Elektrine.Data.Text
import Elektrine.IMAP.Addressed
import Elektrine.Library.Separated

/-!
# Sequence sets

The sets of numbers in the arguments of the commands: comma lists of numbers and of ranges
with their ends in any order, where `*` is the largest number in use.  Besides the two
selections of messages, the searches have a predicate of their own for sequence numbers
and one for identifiers.
-/

namespace Elektrine.IMAP

open Elektrine.Email Elektrine.Library

def parseUidBound (text : String) : Option Int :=
  integerParseExact (trim text)

def matchesUidRange (id : Nat) (range : String) : Bool :=
  match splitAll ':' (trim range) with
  | [first, last] =>
      if last = "*" then
        match parseUidBound first with
        | some first => first ≤ (id : Int)
        | none => false
      else if first = "*" then
        match parseUidBound last with
        | some last => (id : Int) ≤ last
        | none => false
      else
        match parseUidBound first, parseUidBound last with
        | some first, some last =>
            min first last ≤ (id : Int) && (id : Int) ≤ max first last
        | _, _ => false
  | [single] => single = "*" || parseUidBound single == some (id : Int)
  | _ => false

def matchesSequenceSetPart (number largest : Nat) (part : String) : Bool :=
  match splitAll ':' part with
  | [first, last] =>
      match parseSequenceNumber first largest, parseSequenceNumber last largest with
      | some first, some last => min first last ≤ number && number ≤ max first last
      | _, _ => false
  | [single] => parseSequenceNumber single largest == some number
  | _ => false

def matchesSequenceSet (number largest : Option Nat) (set : String) : Bool :=
  match number, largest with
  | some number, some largest =>
      ((splitAll ',' set).filter (· != "")).any fun part =>
        matchesSequenceSetPart number largest (trim part)
  | _, _ => false

inductive Bound where
  | number (value : Nat) (positive : 0 < value)
  | star
  deriving DecidableEq

inductive SetPart where
  | single (bound : Bound)
  | range (first last : Bound)
  deriving DecidableEq

structure SequenceSet where
  parts : List SetPart
  nonempty : parts ≠ []

def Bound.text : Bound → String
  | .number value _ => value.repr
  | .star => "*"

def SetPart.text : SetPart → String
  | .single bound => bound.text
  | .range first last => ":".intercalate [first.text, last.text]

def SequenceSet.text (set : SequenceSet) : String :=
  ",".intercalate (set.parts.map SetPart.text)

def Bound.value (largest : Nat) : Bound → Nat
  | .number value _ => value
  | .star => largest

def SetPart.denotes (largest number : Nat) : SetPart → Bool
  | .single bound => number = bound.value largest
  | .range first last =>
      min (first.value largest) (last.value largest) ≤ number &&
        number ≤ max (first.value largest) (last.value largest)

/-- The set denotes the number where `largest` is the largest number in use. -/
def SequenceSet.denotes (set : SequenceSet) (largest number : Nat) : Bool :=
  set.parts.any (SetPart.denotes largest number)

/-- A digit or the star. -/
def Numeric (character : Char) : Prop :=
  character.isDigit ∨ character = '*'

theorem Numeric.ne {character other : Char} (numeric : Numeric character)
    (foreign : other.isDigit = false ∧ other ≠ '*') : character ≠ other := by
  intro same
  rw [same] at numeric
  rcases numeric with digit | star
  · rw [foreign.1] at digit
    cases digit
  · exact foreign.2 star

theorem Numeric.visible {character : Char} (numeric : Numeric character) :
    isWhiteSpace character = false := by
  rcases numeric with digit | star
  · exact isWhiteSpace_of_isDigit digit
  · rw [star]
    decide

theorem Bound.numeric {bound : Bound} {character : Char}
    (member : character ∈ bound.text.toList) : Numeric character := by
  cases bound with
  | number value positive => exact Or.inl (isDigit_of_mem_repr member)
  | star => exact Or.inr (List.mem_singleton.mp member)

theorem Bound.foreign {bound : Bound} {other : Char}
    (foreign : other.isDigit = false ∧ other ≠ '*') : other ∉ bound.text.toList := by
  intro member
  exact (bound.numeric member).ne foreign rfl

theorem Bound.trim_text (bound : Bound) : trim bound.text = bound.text :=
  trim_of_visible fun _ member => (bound.numeric member).visible

theorem toList_intercalate_character {separator : String} {character : Char}
    (single : separator.toList = [character]) (texts : List String) :
    (separator.intercalate texts).toList =
      [character].intercalate (texts.map String.toList) := by
  rw [String.toList_intercalate, single]

theorem splitAll_intercalate {separator : String} {character : Char}
    (single : separator.toList = [character]) {texts : List String} (some_text : texts ≠ [])
    (foreign : ∀ text ∈ texts, character ∉ text.toList) :
    splitAll character (separator.intercalate texts) = texts := by
  rw [splitAll, toList_intercalate_character single, List.splitOn_intercalate]
  · rw [List.map_map]
    exact (List.map_congr_left fun text _ => String.ofList_toList).trans (List.map_id' _)
  · intro characters member
    obtain ⟨text, there, rfl⟩ := List.mem_map.mp member
    exact foreign text there
  · simpa using some_text

theorem SetPart.characters {part : SetPart} {character : Char}
    (member : character ∈ part.text.toList) : Numeric character ∨ character = ':' := by
  cases part with
  | single bound => exact Or.inl (bound.numeric member)
  | range first last =>
      rw [SetPart.text, String.toList_intercalate] at member
      rcases mem_intercalate member with colon | found
      · exact Or.inr (List.mem_singleton.mp colon)
      · obtain ⟨text, there, inside⟩ := found
        rw [List.map_cons, List.map_cons, List.map_nil] at there
        rcases List.mem_cons.mp there with rfl | later
        · exact Or.inl (first.numeric inside)
        · rw [List.mem_singleton.mp later] at inside
          exact Or.inl (last.numeric inside)

theorem SetPart.trim_text (part : SetPart) : trim part.text = part.text := by
  apply trim_of_visible
  intro character member
  rcases part.characters member with numeric | colon
  · exact numeric.visible
  · rw [colon]
    decide

theorem SetPart.comma_not_mem (part : SetPart) : ',' ∉ part.text.toList := by
  intro member
  rcases part.characters member with numeric | colon
  · exact numeric.ne (by decide) rfl
  · exact absurd colon (by decide)

theorem SetPart.splitAll_range (first last : Bound) :
    splitAll ':' (SetPart.range first last).text = [first.text, last.text] := by
  apply splitAll_intercalate rfl (List.cons_ne_nil _ _)
  intro text member
  rcases List.mem_cons.mp member with rfl | later
  · exact Bound.foreign (by decide)
  · rw [List.mem_singleton.mp later]
    exact Bound.foreign (by decide)

theorem SetPart.text_ne_empty (part : SetPart) : part.text ≠ "" := by
  intro empty
  have split : splitAll ':' part.text = [""] := by
    rw [empty]
    decide
  have bound_ne : ∀ bound : Bound, bound.text ≠ "" := by
    intro bound blank
    have none_left := congrArg String.toList blank
    cases bound with
    | number value positive =>
        rw [Bound.text, Nat.toList_repr] at none_left
        exact Nat.toDigits_ne_nil none_left
    | star => cases none_left
  cases part with
  | single bound => exact bound_ne bound empty
  | range first last =>
      rw [SetPart.splitAll_range] at split
      exact List.cons_ne_nil _ _ (List.cons.inj split).2

theorem SequenceSet.splitAll_text (set : SequenceSet) :
    splitAll ',' set.text = set.parts.map SetPart.text := by
  apply splitAll_intercalate rfl
  · simpa using set.nonempty
  · intro text member
    obtain ⟨part, -, rfl⟩ := List.mem_map.mp member
    exact part.comma_not_mem

theorem Bound.splitAll_text (bound : Bound) : splitAll ':' bound.text = [bound.text] := by
  have split := @splitAll_intercalate ":" ':' rfl [bound.text] (List.cons_ne_nil _ _)
    (by
      intro text member
      rw [List.mem_singleton.mp member]
      exact Bound.foreign (by decide))
  rwa [String.intercalate_singleton] at split

theorem Bound.eq_star_iff (bound : Bound) : bound.text = "*" ↔ bound = .star := by
  cases bound with
  | number value positive =>
      constructor
      · intro same
        have star : '*' ∈ value.repr.toList := by
          rw [show value.repr = "*" from same]
          exact List.mem_singleton.mpr rfl
        exact absurd (isDigit_of_mem_repr star) (by decide)
      · intro same
        cases same
  | star => exact ⟨fun _ => rfl, fun _ => rfl⟩

theorem integerParseExact_number (value : Nat) (positive : 0 < value) :
    integerParseExact (Bound.number value positive).text = some (value : Int) :=
  integerParseExact_repr value

theorem parseUidBound_text (bound : Bound) :
    parseUidBound bound.text = integerParseExact bound.text := by
  rw [parseUidBound, bound.trim_text]

theorem parseUidNumber_text (bound : Bound) (messages : List Listed) :
    parseUidNumber bound.text messages = bound.value (largestUid messages) := by
  cases bound with
  | number value positive =>
      rw [parseUidNumber, if_neg, integerParseExact_number]
      · rfl
      · rw [Bound.eq_star_iff]
        exact Bound.noConfusion
  | star => rfl

theorem parseSequenceNumber_text (bound : Bound) {largest : Nat} (used : 0 < largest) :
    parseSequenceNumber bound.text largest = some (bound.value largest) := by
  cases bound with
  | number value positive =>
      rw [parseSequenceNumber, if_neg, integerParseExact_number]
      · cases value with
        | zero => exact absurd positive (Nat.lt_irrefl 0)
        | succ value => rfl
      · rw [Bound.eq_star_iff]
        exact Bound.noConfusion
  | star =>
      rw [parseSequenceNumber, if_pos ((Bound.eq_star_iff _).mpr rfl), if_pos used]
      rfl

end Elektrine.IMAP
