import Mathlib.Data.List.DropRight

/-!
# Text functions of the source language

`Integer.parse` and the `Elektrine.Strings` helpers, over the characters of a
string.  Case folding is the ASCII one: the texts it is used on are domain names.
-/

namespace Elektrine

def leadingDigits : List Char → Nat → Nat × Nat
  | [], value => (value, 0)
  | character :: rest, value =>
      if character.isDigit then
        let (parsed, count) :=
          leadingDigits rest (value * 10 + (character.toNat - '0'.toNat))
        (parsed, count + 1)
      else
        (value, 0)

/-- `Integer.parse`: an optional sign and at least one digit; what follows the
digits is ignored by every caller. -/
def integerParse (text : String) : Option Int :=
  let unsigned (characters : List Char) : Option Nat :=
    match leadingDigits characters 0 with
    | (_, 0) => none
    | (value, _ + 1) => some value
  match text.toList with
  | '-' :: rest => (unsigned rest).map fun value => -(value : Int)
  | '+' :: rest => (unsigned rest).map fun value => (value : Int)
  | characters => (unsigned characters).map fun value => (value : Int)

example : integerParse "42nd" = some 42 := by decide

example : integerParse "-7" = some (-7) := by decide

/-- `Integer.parse` of a text that is an integer to its end. -/
def integerParseExact (text : String) : Option Int :=
  let digits :=
    match text.toList with
    | '-' :: rest | '+' :: rest => rest
    | characters => characters
  if digits.all Char.isDigit then integerParse text else none

/-- The code points with the Unicode property `White_Space`. -/
def isWhiteSpace (character : Char) : Bool :=
  let code := character.toNat
  (0x09 ≤ code && code ≤ 0x0D) || code == 0x20 || code == 0x85 ||
    code == 0xA0 || code == 0x1680 || (0x2000 ≤ code && code ≤ 0x200A) ||
    code == 0x2028 || code == 0x2029 || code == 0x202F || code == 0x205F ||
    code == 0x3000

def trim (text : String) : String :=
  let front := text.toList.dropWhile isWhiteSpace
  String.ofList (front.reverse.dropWhile isWhiteSpace).reverse

def present (text : String) : Option String :=
  match trim text with
  | "" => none
  | trimmed => some trimmed

def downcase (text : String) : String :=
  String.ofList (text.toList.map Char.toLower)

def upcase (text : String) : String :=
  String.ofList (text.toList.map Char.toUpper)

theorem toNat_toLower (character : Char) :
    character.toLower.toNat =
      if 65 ≤ character.toNat ∧ character.toNat ≤ 90 then character.toNat + 32
      else character.toNat := by
  unfold Char.toLower
  by_cases upper : character.val ≥ 'A'.val ∧ character.val ≤ 'Z'.val
  · have low : 65 ≤ character.toNat := UInt32.le_iff_toNat_le.mp upper.1
    have high : character.toNat ≤ 90 := UInt32.le_iff_toNat_le.mp upper.2
    rw [dif_pos upper, if_pos ⟨low, high⟩]
    change (character.val + 32).toNat = character.val.toNat + 32
    have high' : character.val.toNat ≤ 90 := high
    rw [UInt32.toNat_add]
    exact Nat.mod_eq_of_lt (by simp; omega)
  · rw [dif_neg upper, if_neg]
    intro bounds
    exact upper ⟨UInt32.le_iff_toNat_le.mpr bounds.1,
      UInt32.le_iff_toNat_le.mpr bounds.2⟩

theorem toLower_toLower (character : Char) :
    character.toLower.toLower = character.toLower := by
  apply Char.toNat_inj.mp
  rw [toNat_toLower, toNat_toLower]
  split_ifs <;> omega

theorem isWhiteSpace_toLower (character : Char) :
    isWhiteSpace character.toLower = isWhiteSpace character := by
  have number := toNat_toLower character
  unfold isWhiteSpace
  split_ifs at number with upper
  · rw [Bool.eq_iff_iff]
    simp [number]
    omega
  · rw [number]

theorem toList_downcase (text : String) :
    (downcase text).toList = text.toList.map Char.toLower :=
  String.toList_ofList

theorem downcase_downcase (text : String) :
    downcase (downcase text) = downcase text := by
  apply String.toList_inj.mp
  simp only [toList_downcase, List.map_map]
  exact List.map_congr_left fun character _ => toLower_toLower character

theorem toNat_toUpper (character : Char) :
    character.toUpper.toNat =
      if 97 ≤ character.toNat ∧ character.toNat ≤ 122 then character.toNat - 32
      else character.toNat := by
  unfold Char.toUpper
  by_cases lower : character.val ≥ 'a'.val ∧ character.val ≤ 'z'.val
  · have low : 97 ≤ character.toNat := UInt32.le_iff_toNat_le.mp lower.1
    have high : character.toNat ≤ 122 := UInt32.le_iff_toNat_le.mp lower.2
    rw [dif_pos lower, if_pos ⟨low, high⟩]
    change (character.val + 4294967264).toNat = character.val.toNat - 32
    have low' : 97 ≤ character.val.toNat := low
    have high' : character.val.toNat ≤ 122 := high
    rw [UInt32.toNat_add]
    simp
    omega
  · rw [dif_neg lower, if_neg]
    intro bounds
    exact lower ⟨UInt32.le_iff_toNat_le.mpr bounds.1,
      UInt32.le_iff_toNat_le.mpr bounds.2⟩

theorem toUpper_toLower (character : Char) :
    character.toLower.toUpper = character.toUpper := by
  apply Char.toNat_inj.mp
  rw [toNat_toUpper, toNat_toUpper, toNat_toLower]
  split_ifs <;> omega

theorem upcase_downcase (text : String) : upcase (downcase text) = upcase text := by
  rw [upcase, upcase, toList_downcase, List.map_map]
  exact congrArg String.ofList
    (List.map_congr_left fun character _ => toUpper_toLower character)

structure Solid (characters : List Char) : Prop where
  nonempty : characters ≠ []
  front : characters.dropWhile isWhiteSpace = characters
  back : characters.rdropWhile isWhiteSpace = characters

theorem toList_trim (text : String) :
    (trim text).toList =
      (text.toList.dropWhile isWhiteSpace).rdropWhile isWhiteSpace :=
  String.toList_ofList

theorem toList_trim_sublist (text : String) :
    (trim text).toList.Sublist text.toList := by
  rw [toList_trim]
  exact (List.rdropWhile_prefix _ _).sublist.trans (List.dropWhile_sublist _)

theorem newline_not_mem_downcase {text : String} (single : '\n' ∉ text.toList) :
    '\n' ∉ (downcase text).toList := by
  rw [toList_downcase]
  intro newline
  obtain ⟨character, member, lower⟩ := List.mem_map.mp newline
  have number := congrArg Char.toNat lower
  rw [toNat_toLower] at number
  have same : character.toNat = '\n'.toNat := by
    split_ifs at number with upper
    · have code : '\n'.toNat = 10 := rfl
      omega
    · exact number
  exact single (Char.toNat_inj.mp same ▸ member)

theorem newline_not_mem_upcase {text : String} (single : '\n' ∉ text.toList) :
    '\n' ∉ (upcase text).toList := by
  rw [upcase, String.toList_ofList]
  intro newline
  obtain ⟨character, member, upper⟩ := List.mem_map.mp newline
  have number := congrArg Char.toNat upper
  rw [toNat_toUpper] at number
  have same : character.toNat = '\n'.toNat := by
    split_ifs at number with lower
    · have code : '\n'.toNat = 10 := rfl
      omega
    · exact number
  exact single (Char.toNat_inj.mp same ▸ member)

theorem dropWhile_map_toLower (characters : List Char) :
    (characters.map Char.toLower).dropWhile isWhiteSpace =
      (characters.dropWhile isWhiteSpace).map Char.toLower := by
  rw [List.dropWhile_map]
  exact congrArg (fun blank => (characters.dropWhile blank).map Char.toLower)
    (funext isWhiteSpace_toLower)

theorem rdropWhile_map_toLower (characters : List Char) :
    (characters.map Char.toLower).rdropWhile isWhiteSpace =
      (characters.rdropWhile isWhiteSpace).map Char.toLower := by
  simp only [List.rdropWhile, ← List.map_reverse, dropWhile_map_toLower]

theorem trim_downcase (text : String) :
    trim (downcase text) = downcase (trim text) := by
  apply String.toList_inj.mp
  simp only [toList_trim, toList_downcase, dropWhile_map_toLower,
    rdropWhile_map_toLower]

theorem present_eq_some_iff {text trimmed : String} :
    present text = some trimmed ↔ trim text = trimmed ∧ trimmed ≠ "" := by
  unfold present
  split
  · rename_i blank
    rw [blank]
    constructor
    · intro impossible
      cases impossible
    · intro both
      exact absurd both.1.symm both.2
  · rename_i something
    constructor
    · intro same
      cases same
      exact ⟨rfl, something⟩
    · intro both
      rw [both.1]

theorem present_downcase (text : String) :
    present (downcase text) = (present text).map downcase := by
  have empty : ∀ value : String, downcase value = "" ↔ value = "" := by
    intro value
    simp only [← String.toList_inj, toList_downcase]
    simp
  apply Option.ext
  intro trimmed
  simp only [Option.map_eq_some_iff, present_eq_some_iff, trim_downcase]
  constructor
  · intro both
    refine ⟨trim text, ⟨rfl, ?_⟩, both.1⟩
    intro blank
    exact both.2 (both.1 ▸ (empty _).mpr blank)
  · intro both
    obtain ⟨value, ⟨same, filled⟩, lower⟩ := both
    rw [same, lower]
    exact ⟨rfl, fun blank => filled ((empty value).mp (lower.trans blank))⟩

theorem solid_of_present {text trimmed : String}
    (found : present text = some trimmed) : Solid trimmed.toList := by
  obtain ⟨same, filled⟩ := present_eq_some_iff.mp found
  subst same
  have nonempty : (trim text).toList ≠ [] := by simpa using filled
  rw [toList_trim] at nonempty ⊢
  have solid := List.head?_dropWhile_not isWhiteSpace text.toList
  generalize text.toList.dropWhile isWhiteSpace = kept at nonempty solid ⊢
  refine ⟨nonempty, ?_, List.rdropWhile_idempotent _ _⟩
  obtain ⟨rest, split⟩ := List.rdropWhile_prefix isWhiteSpace kept
  cases front : kept.rdropWhile isWhiteSpace with
  | nil => exact absurd front nonempty
  | cons first others =>
      rw [front, List.cons_append] at split
      rw [← split] at solid
      rw [List.dropWhile_cons_of_neg (by simpa using solid)]

theorem Solid.downcase {text : String} (solid : Solid text.toList) :
    Solid (downcase text).toList := by
  rw [toList_downcase]
  refine ⟨by simpa using solid.nonempty, ?_, ?_⟩
  · rw [dropWhile_map_toLower, solid.front]
  · rw [rdropWhile_map_toLower, solid.back]

theorem Solid.cons {first : Char} {characters : List Char}
    (solid : Solid characters) (visible : isWhiteSpace first = false) :
    Solid (first :: characters) := by
  refine ⟨List.cons_ne_nil _ _, ?_, ?_⟩
  · exact List.dropWhile_cons_of_neg (by simp [visible])
  · rw [List.rdropWhile_eq_self_iff]
    intro nonempty
    rw [List.getLast_cons solid.nonempty]
    exact (List.rdropWhile_eq_self_iff.mp solid.back) solid.nonempty

theorem toList_trim_append {text : String} {front back : List Char}
    (split : text.toList = front ++ back) (solid : Solid back) :
    (trim text).toList = front.dropWhile isWhiteSpace ++ back := by
  have cut : (front ++ back).dropWhile isWhiteSpace =
      front.dropWhile isWhiteSpace ++ back := by
    rw [List.dropWhile_append]
    split_ifs with blank
    · rw [List.isEmpty_iff.mp blank, List.nil_append, solid.front]
    · rfl
  rw [toList_trim, split, cut, List.rdropWhile_eq_self_iff]
  intro nonempty
  rw [List.getLast_append_of_ne_nil _ solid.nonempty]
  exact (List.rdropWhile_eq_self_iff.mp solid.back) solid.nonempty

theorem present_of_solid {text : String} (solid : Solid text.toList) :
    present text = some text := by
  apply present_eq_some_iff.mpr
  constructor
  · apply String.toList_inj.mp
    have trimmed : (trim text).toList =
        [].dropWhile isWhiteSpace ++ text.toList := toList_trim_append rfl solid
    exact trimmed
  · intro blank
    exact solid.nonempty (by simp [blank])

theorem trim_trim (text : String) : trim (trim text) = trim text := by
  by_cases blank : trim text = ""
  · rw [blank]
    decide
  · have solid := solid_of_present (present_eq_some_iff.mpr ⟨rfl, blank⟩)
    exact (present_eq_some_iff.mp (present_of_solid solid)).1

end Elektrine

/-!
## Decimal numerals

The digits of a number are read back as the number, and trimming does not change a text
without white space.
-/

namespace Elektrine

theorem leadingDigits_of_isDigit {characters : List Char}
    (digits : ∀ character ∈ characters, character.isDigit) (value : Nat) :
    leadingDigits characters value =
      (Nat.ofDigitChars 10 characters value, characters.length) := by
  induction characters generalizing value with
  | nil => rw [leadingDigits, Nat.ofDigitChars_nil, List.length_nil]
  | cons first rest ih =>
      have rest_digits := ih fun character member =>
        digits character (List.mem_cons_of_mem _ member)
      rw [leadingDigits, if_pos (digits first List.mem_cons_self), rest_digits,
        Nat.ofDigitChars_cons, List.length_cons, Nat.mul_comm value 10]

theorem isDigit_of_mem_repr {number : Nat} {character : Char}
    (member : character ∈ number.repr.toList) : character.isDigit := by
  rw [Nat.toList_repr] at member
  exact Nat.isDigit_of_mem_toDigits (by decide) (by decide) member

theorem isWhiteSpace_of_isDigit {character : Char} (digit : character.isDigit) :
    isWhiteSpace character = false := by
  have bounds : 48 ≤ character.toNat ∧ character.toNat ≤ 57 := by
    rw [Char.isDigit, Bool.and_eq_true, decide_eq_true_eq, decide_eq_true_eq] at digit
    exact ⟨UInt32.le_iff_toNat_le.mp digit.1, UInt32.le_iff_toNat_le.mp digit.2⟩
  simp only [isWhiteSpace, Bool.or_eq_false_iff, Bool.and_eq_false_iff,
    decide_eq_false_iff_not, beq_eq_false_iff_ne]
  omega

theorem integerParseExact_repr (number : Nat) :
    integerParseExact number.repr = some (number : Int) := by
  have digits : ∀ character ∈ number.repr.toList, character.isDigit :=
    fun _ member => isDigit_of_mem_repr member
  have counted := leadingDigits_of_isDigit digits 0
  rw [Nat.toList_repr] at counted
  rw [Nat.ofDigitChars_ten_toDigits] at counted
  unfold integerParseExact integerParse
  rw [Nat.toList_repr] at digits ⊢
  cases text : Nat.toDigits 10 number with
  | nil => exact absurd text Nat.toDigits_ne_nil
  | cons first rest =>
      rw [text] at digits counted
      have head := digits first List.mem_cons_self
      have minus : first ≠ '-' := fun same => by rw [same] at head; cases head
      have plus : first ≠ '+' := fun same => by rw [same] at head; cases head
      simp [minus, plus, counted]
      simpa using digits

theorem repr_inj {first second : Nat} (same : first.repr = second.repr) : first = second := by
  have values := congrArg integerParseExact same
  rw [integerParseExact_repr, integerParseExact_repr] at values
  exact Int.ofNat.inj (Option.some.inj values)

theorem isDigit_of_integerParseExact {text : String} {value : Int}
    (parsed : integerParseExact text = some value) {character : Char}
    (member : character ∈ text.toList) :
    character.isDigit ∨ character = '-' ∨ character = '+' := by
  dsimp only [integerParseExact] at parsed
  split_ifs at parsed with digits
  rw [List.all_eq_true] at digits
  split at digits
  all_goals rename_i shape
  · rw [shape] at member
    rcases List.mem_cons.mp member with sign | rest
    · exact Or.inr (Or.inl sign)
    · exact Or.inl (digits character rest)
  · rw [shape] at member
    rcases List.mem_cons.mp member with sign | rest
    · exact Or.inr (Or.inr sign)
    · exact Or.inl (digits character rest)
  · exact Or.inl (digits character member)

theorem trim_of_visible {text : String}
    (visible : ∀ character ∈ text.toList, isWhiteSpace character = false) :
    trim text = text := by
  apply String.toList_inj.mp
  rw [toList_trim]
  have front : text.toList.dropWhile isWhiteSpace = text.toList := by
    cases characters : text.toList with
    | nil => rfl
    | cons first rest =>
        apply List.dropWhile_cons_of_neg
        rw [visible first (by rw [characters]; exact List.mem_cons_self)]
        exact Bool.false_ne_true
  rw [front, List.rdropWhile_eq_self_iff]
  intro nonempty
  rw [visible _ (List.getLast_mem nonempty)]
  exact Bool.false_ne_true

theorem mem_dropWhile_of_visible {characters : List Char} {character : Char}
    (member : character ∈ characters) (visible : isWhiteSpace character = false) :
    character ∈ characters.dropWhile isWhiteSpace := by
  rw [← @List.takeWhile_append_dropWhile _ isWhiteSpace characters] at member
  rcases List.mem_append.mp member with blank | kept
  · have white := List.mem_takeWhile_imp blank
    rw [visible] at white
    cases white
  · exact kept

theorem mem_trim_of_visible {text : String} {character : Char}
    (member : character ∈ text.toList) (visible : isWhiteSpace character = false) :
    character ∈ (trim text).toList := by
  rw [trim, String.toList_ofList, List.mem_reverse]
  apply mem_dropWhile_of_visible _ visible
  rw [List.mem_reverse]
  exact mem_dropWhile_of_visible member visible

end Elektrine
