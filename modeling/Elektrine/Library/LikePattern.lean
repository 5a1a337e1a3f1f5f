import Mathlib.Data.List.Infix

/-!
# Patterns of the `LIKE` operator

`%` stands for any text, `_` for any character, and `\` takes the special meaning of the
character behind it away.  A text taken as a pattern matches itself if it contains no `\`,
and it matches nothing else if it is free of all three.
-/

namespace Elektrine.Library

inductive Wildcard where
  | anyText
  | anyCharacter
  | exactly (character : Char)
  deriving DecidableEq, Repr

def wildcard (character : Char) : Wildcard :=
  if character = '%' then .anyText
  else if character = '_' then .anyCharacter
  else .exactly character

def wildcards : List Char → List Wildcard
  | [] => []
  | first :: second :: rest =>
      if first = '\\' then .exactly second :: wildcards rest
      else wildcard first :: wildcards (second :: rest)
  | [last] => [wildcard last]

def fits : List Wildcard → List Char → Bool
  | [], text => text.isEmpty
  | .anyText :: parts, text => text.tails.any (fits parts)
  | .anyCharacter :: parts, _ :: rest => fits parts rest
  | .anyCharacter :: _, [] => false
  | .exactly character :: parts, first :: rest => first == character && fits parts rest
  | .exactly _ :: _, [] => false

def like (pattern text : List Char) : Bool := fits (wildcards pattern) text

theorem wildcards_cons {first : Char} (unescaped : first ≠ '\\') (rest : List Char) :
    wildcards (first :: rest) = wildcard first :: wildcards rest := by
  cases rest with
  | nil => rfl
  | cons second rest => simp [wildcards, unescaped]

theorem wildcards_append {front : List Char} (unescaped : '\\' ∉ front) (back : List Char) :
    wildcards (front ++ back) = front.map wildcard ++ wildcards back := by
  induction front with
  | nil => rfl
  | cons first front ih =>
      rw [List.mem_cons, not_or] at unescaped
      rw [List.cons_append, wildcards_cons (Ne.symm unescaped.1), ih unescaped.2]
      rfl

theorem fits_anyText {parts : List Wildcard} {text : List Char} :
    fits (.anyText :: parts) text = true ↔
      ∃ front back, text = front ++ back ∧ fits parts back = true := by
  rw [fits, List.any_eq_true]
  constructor
  · intro found
    obtain ⟨back, tail, matched⟩ := found
    obtain ⟨front, split⟩ := (List.mem_tails _ _).mp tail
    exact ⟨front, back, split.symm, matched⟩
  · intro found
    obtain ⟨front, back, split, matched⟩ := found
    exact ⟨back, (List.mem_tails _ _).mpr ⟨front, split.symm⟩, matched⟩

theorem fits_map_wildcard_append (front : List Char) {parts : List Wildcard} {rest : List Char}
    (matched : fits parts rest = true) :
    fits (front.map wildcard ++ parts) (front ++ rest) = true := by
  induction front with
  | nil => exact matched
  | cons first front ih =>
      rw [List.map_cons, List.cons_append, List.cons_append, wildcard]
      split_ifs
      · rw [fits_anyText]
        exact ⟨[first], front ++ rest, rfl, ih⟩
      · exact ih
      · rw [fits, ih, Bool.and_true, beq_self_eq_true]

theorem fits_append_text {parts : List Wildcard} {text : List Char} (back : List Char)
    (matched : fits (parts ++ [.anyText]) text = true) :
    fits (parts ++ [.anyText]) (text ++ back) = true := by
  induction parts generalizing text with
  | nil =>
      rw [List.nil_append, fits_anyText]
      exact ⟨text ++ back, [], (List.append_nil _).symm, rfl⟩
  | cons part parts ih =>
      rw [List.cons_append] at matched ⊢
      cases part with
      | anyText =>
          rw [fits_anyText] at matched ⊢
          obtain ⟨front, rest, split, matched⟩ := matched
          exact ⟨front, rest ++ back, by rw [split, List.append_assoc], ih matched⟩
      | anyCharacter =>
          cases text with
          | nil => cases matched
          | cons first rest => exact ih matched
      | exactly character =>
          cases text with
          | nil => cases matched
          | cons first rest =>
              rw [fits, Bool.and_eq_true] at matched
              rw [List.cons_append, fits, Bool.and_eq_true]
              exact ⟨matched.1, ih matched.2⟩

/-- A character without a special meaning. -/
def Plain (character : Char) : Prop :=
  character ≠ '%' ∧ character ≠ '_' ∧ character ≠ '\\'

instance (character : Char) : Decidable (Plain character) :=
  inferInstanceAs (Decidable (_ ∧ _ ∧ _))

theorem count_le_of_fits {parts : List Wildcard} {text : List Char}
    (matched : fits parts text = true) (character : Char) :
    parts.count (.exactly character) ≤ text.count character := by
  induction parts generalizing text with
  | nil => exact Nat.zero_le _
  | cons part parts ih =>
      cases part with
      | anyText =>
          rw [fits_anyText] at matched
          obtain ⟨front, back, split, matched⟩ := matched
          rw [List.count_cons_of_ne (by simp), split, List.count_append]
          exact Nat.le_trans (ih matched) (Nat.le_add_left _ _)
      | anyCharacter =>
          cases text with
          | nil => cases matched
          | cons first rest =>
              rw [List.count_cons_of_ne (by simp)]
              exact Nat.le_trans (ih matched) List.count_le_count_cons
      | exactly here =>
          cases text with
          | nil => cases matched
          | cons first rest =>
              rw [fits, Bool.and_eq_true, beq_iff_eq] at matched
              rw [List.count_cons, List.count_cons, matched.1]
              have below := ih matched.2
              by_cases same : here = character
              · simp [same, below]
              · simp [same, below]

theorem wildcards_append_percent {front : List Char} (unescaped : '\\' ∉ front) :
    wildcards (front ++ ['%']) = front.map wildcard ++ [.anyText] :=
  wildcards_append unescaped _

theorem like_of_prefix {front : List Char} (unescaped : '\\' ∉ front) (rest : List Char) :
    like (front ++ ['%']) (front ++ rest) = true := by
  rw [like, wildcards_append_percent unescaped]
  apply fits_map_wildcard_append
  rw [fits_anyText]
  exact ⟨rest, [], (List.append_nil _).symm, rfl⟩

theorem like_append_text {front text : List Char} (unescaped : '\\' ∉ front) (back : List Char)
    (matched : like (front ++ ['%']) text = true) :
    like (front ++ ['%']) (text ++ back) = true := by
  rw [like, wildcards_append_percent unescaped] at matched ⊢
  exact fits_append_text back matched

theorem not_like_self {front : List Char} {separator : Char} (plain : Plain separator)
    (unescaped : '\\' ∉ front) : like (front ++ [separator] ++ ['%']) front = false := by
  rw [← Bool.not_eq_true]
  intro matched
  have unescaped' : '\\' ∉ front ++ [separator] := by
    rw [List.mem_append, List.mem_singleton, not_or]
    exact ⟨unescaped, Ne.symm plain.2.2⟩
  rw [like, wildcards_append_percent unescaped'] at matched
  have counted := count_le_of_fits matched separator
  have exact_part : wildcard separator = .exactly separator := by
    rw [wildcard, if_neg plain.1, if_neg plain.2.1]
  have at_least : front.count separator ≤
      (front.map wildcard).count (.exactly separator) := by
    rw [← exact_part]
    exact List.count_le_count_map
  rw [List.map_append, List.map_singleton, exact_part, List.count_append, List.count_append,
    List.count_singleton_self] at counted
  omega

end Elektrine.Library
