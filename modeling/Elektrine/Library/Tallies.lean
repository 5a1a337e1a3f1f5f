import Mathlib.Data.List.Basic

/-!
# Tallies

Two selections of a list have the same size exactly when as many entries are only in the
first as are only in the second.
-/

namespace Elektrine.Library

variable {Entry : Type} {entries : List Entry}

theorem length_filter_eq_add (first second : Entry → Bool) :
    (entries.filter first).length =
      (entries.filter fun entry => first entry && second entry).length +
        (entries.filter fun entry => first entry && !second entry).length := by
  induction entries with
  | nil => rfl
  | cons entry entries ih =>
      cases inFirst : first entry <;> cases inSecond : second entry <;>
        simp [inFirst, inSecond] <;> omega

theorem length_filter_eq_iff (first second : Entry → Bool) :
    (entries.filter first).length = (entries.filter second).length ↔
      (entries.filter fun entry => first entry && !second entry).length =
        (entries.filter fun entry => second entry && !first entry).length := by
  have left := @length_filter_eq_add _ entries first second
  have right := @length_filter_eq_add _ entries second first
  have both : (entries.filter fun entry => second entry && first entry) =
      entries.filter fun entry => first entry && second entry := by
    apply List.filter_congr
    intro entry _
    exact Bool.and_comm _ _
  rw [both] at right
  omega

theorem length_filter_eq_iff_of_imp {first second : Entry → Bool}
    (part : ∀ entry ∈ entries, second entry → first entry) :
    (entries.filter first).length = (entries.filter second).length ↔
      ∀ entry ∈ entries, first entry → second entry := by
  have none_else : (entries.filter fun entry => second entry && !first entry) = [] := by
    apply List.filter_eq_nil_iff.mpr
    intro entry member both
    rw [Bool.and_eq_true, Bool.not_eq_true'] at both
    have inFirst := part entry member both.1
    rw [both.2] at inFirst
    cases inFirst
  rw [length_filter_eq_iff, none_else, List.length_nil, List.length_eq_zero_iff,
    List.filter_eq_nil_iff]
  constructor
  · intro nothing entry member inFirst
    by_contra outside
    exact nothing entry member (by simp [inFirst, outside])
  · intro whole entry member both
    rw [Bool.and_eq_true, Bool.not_eq_true'] at both
    have inside := whole entry member both.1
    rw [both.2] at inside
    cases inside

end Elektrine.Library
