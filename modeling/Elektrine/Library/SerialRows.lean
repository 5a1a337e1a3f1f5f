import Mathlib.Data.List.Basic
import Mathlib.Data.List.Nodup

/-!
# Rows in the order of a serial key

A table whose key is given out by a counter: rows are appended under the next key,
changed in place, and deleted.  The rows therefore always stand in ascending order of
their keys, and a selection from the table is a filter.
-/

namespace Elektrine.Library

universe u

structure SerialRows (Row : Type u) (key : Row → Nat) where
  rows : List Row
  next : Nat
  ascending : rows.Pairwise (key · < key ·)
  fresh : ∀ row ∈ rows, key row < next

namespace SerialRows

variable {Row : Type u} {key : Row → Nat}

theorem fresh_nil (key : Row → Nat) : ∀ row ∈ ([] : List Row), key row < 1 :=
  List.forall_mem_nil _

def empty (Row : Type u) (key : Row → Nat) : SerialRows Row key where
  rows := []
  next := 1
  ascending := .nil
  fresh := fresh_nil key

def find (table : SerialRows Row key) (id : Nat) : Option Row :=
  table.rows.find? (key · == id)

def append (table : SerialRows Row key) (make : Nat → Row)
    (keyed : ∀ id, key (make id) = id) : SerialRows Row key where
  rows := table.rows ++ [make table.next]
  next := table.next + 1
  ascending := by
    apply List.pairwise_append.mpr
    refine ⟨table.ascending, List.pairwise_singleton _ _, ?_⟩
    intro row member other last
    rw [List.mem_singleton.mp last, keyed]
    exact table.fresh row member
  fresh row member := by
    rcases List.mem_append.mp member with old | last
    · exact Nat.lt_succ_of_lt (table.fresh row old)
    · rw [List.mem_singleton.mp last, keyed]
      exact Nat.lt_succ_self _

def modify (table : SerialRows Row key) (id : Nat) (change : Row → Row)
    (keyed : ∀ row, key (change row) = key row) : SerialRows Row key where
  rows := table.rows.map fun row => if key row = id then change row else row
  next := table.next
  ascending := by
    apply List.pairwise_map.mpr
    apply table.ascending.imp
    intro row other below
    split <;> split <;> simpa only [keyed] using below
  fresh row member := by
    obtain ⟨old, oldMember, rfl⟩ := List.mem_map.mp member
    split
    · rw [keyed]
      exact table.fresh old oldMember
    · exact table.fresh old oldMember

def modifyAll (table : SerialRows Row key) (change : Row → Row)
    (keyed : ∀ row, key (change row) = key row) : SerialRows Row key where
  rows := table.rows.map change
  next := table.next
  ascending := by
    apply List.pairwise_map.mpr
    apply table.ascending.imp
    intro row other below
    rw [keyed, keyed]
    exact below
  fresh row member := by
    obtain ⟨old, oldMember, rfl⟩ := List.mem_map.mp member
    rw [keyed]
    exact table.fresh old oldMember

def delete (table : SerialRows Row key) (id : Nat) : SerialRows Row key where
  rows := table.rows.filter fun row => key row != id
  next := table.next
  ascending := table.ascending.sublist List.filter_sublist
  fresh row member := table.fresh row (List.mem_of_mem_filter member)

def retain (table : SerialRows Row key) (keep : Row → Bool) : SerialRows Row key where
  rows := table.rows.filter keep
  next := table.next
  ascending := table.ascending.sublist List.filter_sublist
  fresh row member := table.fresh row (List.mem_of_mem_filter member)

theorem eq_of_key_eq {table : SerialRows Row key} {row other : Row}
    (member : row ∈ table.rows) (otherMember : other ∈ table.rows)
    (same : key row = key other) : row = other := by
  have distinct : (table.rows.map key).Nodup :=
    List.pairwise_map.mpr (table.ascending.imp Nat.ne_of_lt)
  exact List.inj_on_of_nodup_map distinct member otherMember same

theorem find_eq_some_iff {table : SerialRows Row key} {id : Nat} {row : Row} :
    table.find id = some row ↔ row ∈ table.rows ∧ key row = id := by
  constructor
  · intro found
    exact ⟨List.mem_of_find?_eq_some found, by simpa using List.find?_some found⟩
  · intro present
    obtain ⟨member, keyed⟩ := present
    cases found : table.find id with
    | none =>
        have missing := List.find?_eq_none.mp found row member
        simp [keyed] at missing
    | some other =>
        have otherMember := List.mem_of_find?_eq_some found
        have otherKey : key other = id := by simpa using List.find?_some found
        rw [eq_of_key_eq member otherMember (keyed.trans otherKey.symm)]

theorem find_eq_none_iff {table : SerialRows Row key} {id : Nat} :
    table.find id = none ↔ ∀ row ∈ table.rows, key row ≠ id := by
  simp [find]

theorem find_lt {table : SerialRows Row key} {id : Nat} {row : Row}
    (found : table.find id = some row) : id < table.next := by
  obtain ⟨member, keyed⟩ := find_eq_some_iff.mp found
  rw [← keyed]
  exact table.fresh row member

theorem mem_append {table : SerialRows Row key} {make : Nat → Row}
    {keyed : ∀ id, key (make id) = id} {row : Row} :
    row ∈ (table.append make keyed).rows ↔ row ∈ table.rows ∨ row = make table.next := by
  simp [append]

theorem mem_delete {table : SerialRows Row key} {id : Nat} {row : Row} :
    row ∈ (table.delete id).rows ↔ row ∈ table.rows ∧ key row ≠ id := by
  simp [delete]

theorem find_append {table : SerialRows Row key} {make : Nat → Row}
    {keyed : ∀ id, key (make id) = id} (id : Nat) :
    (table.append make keyed).find id =
      if id = table.next then some (make table.next) else table.find id := by
  split
  · rename_i last
    rw [find_eq_some_iff, mem_append, keyed]
    exact ⟨Or.inr rfl, last.symm⟩
  · rename_i older
    have absent : (key (make table.next) == id) = false := by
      rw [keyed]
      exact beq_eq_false_iff_ne.mpr fun same => older same.symm
    simp [find, append, List.find?_append, absent]

theorem find_modifyAll {table : SerialRows Row key} {change : Row → Row}
    {keyed : ∀ row, key (change row) = key row} (id : Nat) :
    (table.modifyAll change keyed).find id = (table.find id).map change := by
  have same_key : ((key · == id) ∘ change) = (key · == id) := by
    funext row
    exact congrArg (· == id) (keyed row)
  rw [find, modifyAll, List.find?_map, same_key, find]

theorem find_modify {table : SerialRows Row key} {id : Nat} {change : Row → Row}
    {keyed : ∀ row, key (change row) = key row} (other : Nat) :
    (table.modify id change keyed).find other =
      if other = id then (table.find id).map change else table.find other := by
  have same_key : ∀ row, key (if key row = id then change row else row) = key row := by
    intro row
    split
    · exact keyed row
    · rfl
  rw [find, modify, List.find?_map]
  have tests : (fun row => key row == other) ∘
      (fun row => if key row = id then change row else row) = fun row => key row == other := by
    funext row
    simp only [Function.comp_apply, same_key]
  rw [tests]
  cases found : table.find other with
  | none =>
      rw [find] at found
      rw [found]
      split
      · rename_i chosen
        rw [← chosen, find, found]
        rfl
      · rfl
  | some row =>
      have itsKey := (find_eq_some_iff.mp found).2
      rw [find] at found
      rw [found]
      split
      · rename_i chosen
        rw [← chosen, find, found]
        simp [itsKey, chosen]
      · rename_i apart
        simp [itsKey, apart]

theorem find_delete {table : SerialRows Row key} {id : Nat} (other : Nat) :
    (table.delete id).find other = if other = id then none else table.find other := by
  split
  · rename_i chosen
    rw [find_eq_none_iff]
    intro row member
    rw [chosen]
    exact (mem_delete.mp member).2
  · rename_i apart
    rw [find, delete, List.find?_filter]
    unfold find
    congr 1
    funext row
    by_cases itsKey : key row = other
    · simp [itsKey, apart]
    · simp [itsKey]

theorem next_modify (table : SerialRows Row key) (id : Nat) (change : Row → Row)
    (keyed : ∀ row, key (change row) = key row) :
    (table.modify id change keyed).next = table.next := rfl

end SerialRows

end Elektrine.Library
