import Mathlib.Data.List.Dedup
import Mathlib.Data.List.Sort

/-!
# List functions of the source language

`Enum.uniq` is `List.eraseDups` and `Enum.sort` is `List.insertionSort`; here are
their facts about duplicates and about lists with the same elements, and
`Enum.chunk_every`.
-/

namespace Elektrine

variable {α : Type}

theorem nodup_eraseDups [DecidableEq α] :
    (items : List α) → items.eraseDups.Nodup
  | [] => List.nodup_nil
  | item :: items => by
      rw [List.eraseDups_cons]
      refine List.nodup_cons.mpr ⟨?_, nodup_eraseDups _⟩
      simp [List.mem_eraseDups]
termination_by items => items.length
decreasing_by exact Nat.lt_succ_of_le (List.length_filter_le _ _)

theorem eraseDups_of_nodup [DecidableEq α] {items : List α}
    (nodup : items.Nodup) : items.eraseDups = items := by
  induction items with
  | nil => rfl
  | cons item items ih =>
      obtain ⟨fresh, nodup⟩ := List.nodup_cons.mp nodup
      have kept : (items.filter fun other => !other == item) = items := by
        apply List.filter_eq_self.mpr
        intro other member
        have different : other ≠ item := fun same => fresh (same ▸ member)
        simp [different]
      rw [List.eraseDups_cons, kept, ih nodup]

theorem insertionSort_eq_insertionSort_iff [LinearOrder α]
    {left right : List α} :
    left.insertionSort (· ≤ ·) = right.insertionSort (· ≤ ·) ↔
      left.Perm right := by
  constructor
  · intro same
    have sorted := List.perm_insertionSort (· ≤ ·) left
    rw [same] at sorted
    exact sorted.symm.trans (List.perm_insertionSort _ right)
  · intro permuted
    apply List.Perm.eq_of_pairwise (fun _ _ _ _ => le_antisymm)
      (List.pairwise_insertionSort (· ≤ ·) left)
      (List.pairwise_insertionSort (· ≤ ·) right)
    exact ((List.perm_insertionSort _ left).trans permuted).trans
      (List.perm_insertionSort _ right).symm

def chunks (size : Nat) : Nat → List α → List (List α)
  | _, [] => []
  | 0, _ :: _ => []
  | fuel + 1, items => items.take size :: chunks size fuel (items.drop size)

def chunkEvery (size : Nat) (items : List α) : List (List α) :=
  chunks size items.length items

example : chunkEvery 2 [1, 2, 3, 4, 5] = [[1, 2], [3, 4], [5]] := by decide

theorem prefix_flatten_chunks (size fuel : Nat) (items : List α) :
    (chunks size fuel items).flatten <+: items := by
  induction fuel generalizing items with
  | zero => cases items <;> simp [chunks]
  | succ fuel ih =>
      cases items with
      | nil => simp [chunks]
      | cons item items =>
          obtain ⟨rest, split⟩ := ih ((item :: items).drop size)
          refine ⟨rest, ?_⟩
          rw [chunks, List.flatten_cons, List.append_assoc, split,
            List.take_append_drop]
          exact List.cons_ne_nil item items

theorem prefix_flatten_chunkEvery (size : Nat) (items : List α) :
    (chunkEvery size items).flatten <+: items :=
  prefix_flatten_chunks size items.length items

theorem flatten_chunks {size fuel : Nat} (positive : 0 < size) (items : List α)
    (enough : items.length ≤ fuel) : (chunks size fuel items).flatten = items := by
  induction fuel generalizing items with
  | zero =>
      rw [List.length_eq_zero_iff.mp (Nat.le_zero.mp enough)]
      rfl
  | succ fuel ih =>
      cases items with
      | nil => rfl
      | cons item items =>
          rw [chunks, List.flatten_cons, ih, List.take_append_drop]
          · rw [List.length_drop]
            rw [List.length_cons] at enough ⊢
            omega
          · exact List.cons_ne_nil item items

theorem flatten_chunkEvery {size : Nat} (positive : 0 < size) (items : List α) :
    (chunkEvery size items).flatten = items :=
  flatten_chunks positive items (Nat.le_refl _)

end Elektrine
