import Mathlib.Data.List.Basic
import Mathlib.Data.Nat.Find

/-!
# The first occurrence of a pattern

`List.dropInfix?` cuts a list at the first occurrence of a pattern.  What has been found
in a part of a list stays the first occurrence when the list grows at its end, which is
what a search through a stream that arrives in pieces rests on.
-/

namespace Elektrine.Library

variable {α : Type*} [BEq α] [LawfulBEq α] {list pattern front back : List α}

theorem dropInfix?_eq_some_iff :
    list.dropInfix? pattern = some (front, back) ↔
      list = front ++ pattern ++ back ∧
        ∀ front' back', list = front' ++ pattern ++ back' →
          front.length ≤ front'.length := by
  rw [List.dropInfix?_eq_some_iff]
  constructor
  · intro found
    obtain ⟨⟨same, split, equal⟩, first⟩ := found
    rw [eq_of_beq equal] at split
    refine ⟨split, ?_⟩
    intro front' back' other
    exact first front' pattern back' other (beq_self_eq_true pattern)
  · intro found
    obtain ⟨split, first⟩ := found
    refine ⟨⟨pattern, split, beq_self_eq_true pattern⟩, ?_⟩
    intro front' same back' other equal
    rw [eq_of_beq equal] at other
    exact first front' back' other

theorem exists_dropInfix? (occurs : pattern <:+: list) :
    ∃ front back, list.dropInfix? pattern = some (front, back) := by
  obtain ⟨before, after, split⟩ := occurs
  have occurrence : ∃ length, ∃ front back : List α,
      front.length = length ∧ list = front ++ pattern ++ back :=
    ⟨before.length, before, after, rfl, split.symm⟩
  classical
  obtain ⟨front, back, length, split⟩ := Nat.find_spec occurrence
  refine ⟨front, back, dropInfix?_eq_some_iff.mpr ⟨split, ?_⟩⟩
  intro front' back' other
  rw [length]
  exact Nat.find_min' occurrence ⟨front', back', rfl, other⟩

theorem dropInfix?_eq_none_iff : list.dropInfix? pattern = none ↔ ¬ pattern <:+: list := by
  constructor
  · intro missing occurs
    obtain ⟨front, back, found⟩ := exists_dropInfix? occurs
    rw [missing] at found
    cases found
  · intro missing
    cases found : list.dropInfix? pattern with
    | none => rfl
    | some cut =>
        obtain ⟨split, -⟩ := dropInfix?_eq_some_iff.mp found
        exact absurd ⟨cut.1, cut.2, split.symm⟩ missing

theorem dropInfix?_append {more : List α}
    (found : list.dropInfix? pattern = some (front, back)) :
    (list ++ more).dropInfix? pattern = some (front, back ++ more) := by
  obtain ⟨split, first⟩ := dropInfix?_eq_some_iff.mp found
  rw [dropInfix?_eq_some_iff]
  refine ⟨by rw [split]; simp, ?_⟩
  intro front' back' other
  by_contra earlier
  have shorter : front'.length < front.length := by omega
  have within : (front' ++ pattern).length ≤ list.length := by
    rw [split]
    simp only [List.length_append]
    omega
  have begins : front' ++ pattern <+: list := by
    apply List.prefix_of_prefix_length_le _ (List.prefix_append list more) within
    rw [other]
    exact List.prefix_append ..
  obtain ⟨rest, again⟩ := begins
  have earliest := first front' rest again.symm
  omega

end Elektrine.Library
