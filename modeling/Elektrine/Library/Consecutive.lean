import Mathlib.Data.List.Pairwise
import Mathlib.Data.List.Basic

/-!
# Gapless integer sequences

`Continues last numbers` says that `numbers` goes on from `last` in steps of one.
It is the shape of any log whose consumer accepts only its next number.
-/

namespace Elektrine.Library

/-- Every number is one more than the number before it, starting at `last`. -/
def Continues : Int → List Int → Prop
  | _, [] => True
  | last, number :: rest => number = last + 1 ∧ Continues number rest

namespace Continues

@[simp] theorem nil (last : Int) : Continues last [] := trivial

@[simp] theorem cons_iff {last number : Int} {rest : List Int} :
    Continues last (number :: rest) ↔
      number = last + 1 ∧ Continues number rest :=
  Iff.rfl

def final (last : Int) (numbers : List Int) : Int :=
  numbers.getLast?.getD last

@[simp] theorem final_nil (last : Int) : final last [] = last := rfl

@[simp] theorem final_cons (last number : Int) (rest : List Int) :
    final last (number :: rest) = final number rest := by
  simp [final, List.getLast?_cons]

theorem final_eq
    {last : Int} {numbers : List Int} (continues : Continues last numbers) :
    final last numbers = last + numbers.length := by
  induction numbers generalizing last with
  | nil => simp
  | cons number rest ih =>
      obtain ⟨rfl, continues⟩ := continues
      rw [final_cons, ih continues, List.length_cons]
      push_cast
      omega

end Continues

end Elektrine.Library
