import Mathlib.Data.List.DropRight

/-!
# Words of a text

A text is cut at every separating character, and the empty parts are dropped.  The characters
of the words are those of the text that do not separate, and words joined by a separator are
found again.
-/

namespace Elektrine.Library

universe u

variable {α : Type u} {separates : α → Bool}

def wordsBy (separates : α → Bool) (text : List α) : List (List α) :=
  (text.splitOnP separates).filter fun word => !word.isEmpty

/-- A word has characters, and none of them separates. -/
def IsWord (separates : α → Bool) (word : List α) : Prop :=
  word ≠ [] ∧ ∀ character ∈ word, separates character = false

theorem not_separates_of_mem_splitOnP {text part : List α}
    (member : part ∈ text.splitOnP separates) :
    ∀ character ∈ part, separates character = false := by
  induction text generalizing part with
  | nil =>
      rw [List.splitOnP_nil, List.mem_singleton] at member
      subst member
      intro character inside
      exact absurd inside List.not_mem_nil
  | cons first text ih =>
      rw [List.splitOnP_cons_eq_if_modifyHead] at member
      by_cases between : separates first
      · rw [if_pos between] at member
        rcases List.mem_cons.mp member with empty | later
        · subst empty
          intro character inside
          exact absurd inside List.not_mem_nil
        · exact ih later
      · rw [if_neg between] at member
        cases parts : text.splitOnP separates with
        | nil => exact absurd parts (List.splitOnP_ne_nil separates text)
        | cons front parts' =>
            rw [parts] at member
            rcases List.mem_cons.mp member with here | later
            · subst here
              intro character inside
              rcases List.mem_cons.mp inside with same | behind
              · subst same
                exact eq_false_of_ne_true between
              · exact ih (parts ▸ List.mem_cons_self) character behind
            · exact ih (parts ▸ List.mem_cons_of_mem front later)

theorem isWord_of_mem_wordsBy {text word : List α} (member : word ∈ wordsBy separates text) :
    IsWord separates word := by
  obtain ⟨part, nonempty⟩ := List.mem_filter.mp member
  refine ⟨?_, not_separates_of_mem_splitOnP part⟩
  intro empty
  subst empty
  cases nonempty

theorem flatten_splitOnP (text : List α) :
    (text.splitOnP separates).flatten = text.filter fun character => !separates character := by
  induction text with
  | nil => rfl
  | cons first text ih =>
      rw [List.splitOnP_cons_eq_if_modifyHead]
      by_cases between : separates first
      · rw [if_pos between, List.flatten_cons, List.nil_append, ih,
          List.filter_cons_of_neg (by simp [between])]
      · rw [if_neg between, List.filter_cons_of_pos (by simp [between]), ← ih]
        cases parts : text.splitOnP separates with
        | nil => exact absurd parts (List.splitOnP_ne_nil separates text)
        | cons front parts' => rfl

theorem flatten_wordsBy (text : List α) :
    (wordsBy separates text).flatten = text.filter fun character => !separates character := by
  rw [wordsBy, List.flatten_filter_not_isEmpty, flatten_splitOnP]

theorem wordsBy_of_isWord {word : List α} (proper : IsWord separates word) :
    wordsBy separates word = [word] := by
  rw [wordsBy, List.splitOnP_eq_singleton proper.2]
  simp [proper.1]

theorem wordsBy_append_cons (front back : List α) {separator : α}
    (between : separates separator = true) :
    wordsBy separates (front ++ separator :: back) =
      wordsBy separates front ++ wordsBy separates back := by
  rw [wordsBy, List.splitOnP_append_cons front back between, List.filter_append]
  rfl

theorem wordsBy_intercalate {separator : α} (between : separates separator = true)
    {words : List (List α)} (proper : ∀ word ∈ words, IsWord separates word) :
    wordsBy separates ([separator].intercalate words) = words := by
  induction words with
  | nil => rfl
  | cons word words ih =>
      have here := wordsBy_of_isWord (proper word List.mem_cons_self)
      cases words with
      | nil =>
          rw [List.intercalate_singleton]
          exact here
      | cons next words =>
          have later := ih fun other member => proper other (List.mem_cons_of_mem word member)
          rw [List.intercalate_cons_of_ne_nil (List.cons_ne_nil _ _), List.append_assoc,
            List.singleton_append, wordsBy_append_cons _ _ between, here, later]
          rfl

theorem filter_intercalate {keep : α → Bool} {separator : α} (dropped : keep separator = false)
    (parts : List (List α)) :
    ([separator].intercalate parts).filter keep = parts.flatten.filter keep := by
  induction parts with
  | nil => rfl
  | cons part parts ih =>
      cases parts with
      | nil => rw [List.intercalate_singleton, List.flatten_singleton]
      | cons next parts =>
          rw [List.intercalate_cons_of_ne_nil (List.cons_ne_nil _ _), List.flatten_cons,
            List.filter_append, List.filter_append, List.filter_append, ih,
            List.filter_cons_of_neg (by simp [dropped]), List.filter_nil, List.append_nil]

end Elektrine.Library
