import Mathlib.Data.List.Basic

/-!
# Pages

A list that is shown in pages of one size.
-/

namespace Elektrine.Library

variable {α : Type}

/-- `limit` and `offset` for the page with this number, counted from zero. -/
def page (size number : Nat) (items : List α) : List α :=
  (items.drop (number * size)).take size

def pageCount (size total : Nat) : Nat :=
  (total + size - 1) / size

theorem flatMap_page (size count : Nat) (items : List α) :
    (List.range count).flatMap (fun number => page size number items) =
      items.take (count * size) := by
  induction count with
  | zero => simp
  | succ count ih =>
      rw [List.range_succ, List.flatMap_append, ih, Nat.succ_mul, List.take_add]
      simp [page]

theorem le_pageCount_mul {size : Nat} (positive : 0 < size) (total : Nat) :
    total ≤ pageCount size total * size := by
  have divided := Nat.div_add_mod (total + size - 1) size
  have rest := Nat.mod_lt (total + size - 1) positive
  rw [Nat.mul_comm] at divided
  unfold pageCount
  omega

theorem flatMap_pages {size : Nat} (positive : 0 < size) (items : List α) :
    (List.range (pageCount size items.length)).flatMap
      (fun number => page size number items) = items := by
  rw [flatMap_page]
  exact List.take_of_length_le (le_pageCount_mul positive items.length)

end Elektrine.Library
