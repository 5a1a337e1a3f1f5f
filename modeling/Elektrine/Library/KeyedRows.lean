import Mathlib.Data.List.Nodup

/-!
# Rows with a primary key

A table is a list of rows with distinct keys, below the next key to be given out.  A
relation that holds between any two of its rows is kept by a write when the written
row is related to every other row, and by every deletion.
-/

namespace Elektrine.Library

universe u

structure KeyedRows (Row : Type u) (key : Row → Nat) where
  rows : List Row
  next : Nat
  distinct : (rows.map key).Nodup
  fresh : ∀ row ∈ rows, key row < next

namespace KeyedRows

variable {Row : Type u} {key : Row → Nat}

def empty (Row : Type u) (key : Row → Nat) : KeyedRows Row key where
  rows := []
  next := 1
  distinct := List.nodup_nil
  fresh _ member := by cases member

def put (table : KeyedRows Row key) (row : Row) : KeyedRows Row key where
  rows := (table.rows.filter fun other => key other != key row) ++ [row]
  next := max table.next (key row + 1)
  distinct := by
    rw [List.map_append, List.map_singleton]
    apply List.Nodup.append
    · exact table.distinct.sublist (List.filter_sublist.map key)
    · exact List.nodup_singleton _
    · intro value kept written
      obtain ⟨other, member, same⟩ := List.mem_map.mp kept
      have different := (List.mem_filter.mp member).2
      rw [List.mem_singleton.mp written] at same
      simp [same] at different
  fresh other member := by
    rcases List.mem_append.mp member with kept | written
    · have old := table.fresh other (List.mem_of_mem_filter kept)
      omega
    · rw [List.mem_singleton.mp written]
      omega

def retain (table : KeyedRows Row key) (keep : Row → Bool) : KeyedRows Row key where
  rows := table.rows.filter keep
  next := table.next
  distinct := table.distinct.sublist (List.filter_sublist.map key)
  fresh row member := table.fresh row (List.mem_of_mem_filter member)

theorem mem_put {table : KeyedRows Row key} {row other : Row} :
    other ∈ (table.put row).rows ↔
      other ∈ table.rows ∧ key other ≠ key row ∨ other = row := by
  simp [put]

theorem mem_retain {table : KeyedRows Row key} {keep : Row → Bool} {row : Row} :
    row ∈ (table.retain keep).rows ↔ row ∈ table.rows ∧ keep row :=
  List.mem_filter

/-- The relation holds between any two rows of the table. -/
def Apart (table : KeyedRows Row key) (Related : Row → Row → Prop) : Prop :=
  ∀ first ∈ table.rows, ∀ second ∈ table.rows, key first ≠ key second →
    Related first second

theorem Apart.retain {table : KeyedRows Row key} {Related : Row → Row → Prop}
    (apart : table.Apart Related) (keep : Row → Bool) :
    (table.retain keep).Apart Related := by
  intro first firstMember second secondMember different
  exact apart first (mem_retain.mp firstMember).1 second (mem_retain.mp secondMember).1
    different

theorem Apart.put {table : KeyedRows Row key} {Related : Row → Row → Prop}
    (apart : table.Apart Related)
    (symmetric : ∀ first second, Related first second → Related second first) {row : Row}
    (related : ∀ other ∈ table.rows, key other ≠ key row → Related row other) :
    (table.put row).Apart Related := by
  intro first firstMember second secondMember different
  rcases mem_put.mp firstMember with ⟨firstOld, firstKey⟩ | rfl
  · rcases mem_put.mp secondMember with ⟨secondOld, _⟩ | rfl
    · exact apart first firstOld second secondOld different
    · exact symmetric _ _ (related first firstOld firstKey)
  · rcases mem_put.mp secondMember with ⟨secondOld, secondKey⟩ | rfl
    · exact related second secondOld secondKey
    · exact absurd rfl different

end KeyedRows

end Elektrine.Library

/-!
## Updates of a unique column

The rows that a query selects get a new value in a column, one row after the other.  A new
value that is refused, or that another row has at that moment, ends the update; otherwise
each selected row has its new value and no other row has changed.
-/

namespace Elektrine.Library

structure Column (ρ : Type*) (κ : Type*) where
  read : ρ → κ
  write : ρ → κ → ρ
  read_write : ∀ row value, read (write row value) = value
  write_read : ∀ row, write row (read row) = row

variable {ρ κ : Type*} [DecidableEq κ]

namespace Column

variable (column : Column ρ κ) (accepted : κ → Bool) (selected : ρ → Bool) (target : κ → κ)

def changed (row : ρ) : ρ :=
  if selected row then column.write row (target (column.read row)) else row

def changeEach (done : List ρ) : List ρ → Option (List ρ)
  | [] => some done
  | row :: rest =>
      let value := target (column.read row)
      if selected row = false ∨ value = column.read row then changeEach (done ++ [row]) rest
      else if accepted value ∧ ∀ other ∈ done ++ rest, column.read other ≠ value then
        changeEach (done ++ [column.write row value]) rest
      else none

variable {column accepted selected target}

omit [DecidableEq κ] in
theorem changed_of_kept {row : ρ}
    (kept : selected row = false ∨ target (column.read row) = column.read row) :
    column.changed selected target row = row := by
  unfold changed
  split_ifs with chosen
  · rcases kept with unchosen | same
    · rw [chosen] at unchosen
      cases unchosen
    · rw [same, column.write_read]
  · rfl

theorem changeEach_eq {done rows result : List ρ}
    (ended : column.changeEach accepted selected target done rows = some result) :
    result = done ++ rows.map (column.changed selected target) := by
  induction rows generalizing done with
  | nil =>
      cases ended
      rw [List.map_nil, List.append_nil]
  | cons row rest ih =>
      rw [changeEach] at ended
      split_ifs at ended with kept fine
      · rw [ih ended, List.map_cons, changed_of_kept kept, List.append_assoc]
        rfl
      · rw [not_or, Bool.not_eq_false] at kept
        rw [ih ended, List.map_cons, changed, if_pos kept.1, List.append_assoc]
        rfl

theorem accepted_of_changeEach {done rows result : List ρ}
    (ended : column.changeEach accepted selected target done rows = some result)
    {row : ρ} (member : row ∈ rows) (chosen : selected row = true)
    (moves : target (column.read row) ≠ column.read row) :
    accepted (target (column.read row)) = true := by
  induction rows generalizing done with
  | nil => cases member
  | cons head rest ih =>
      rw [changeEach] at ended
      split_ifs at ended with kept fine
      · rcases List.mem_cons.mp member with here | later
        · rw [← here] at kept
          rcases kept with unchosen | same
          · rw [chosen] at unchosen
            cases unchosen
          · exact absurd same moves
        · exact ih ended later
      · rcases List.mem_cons.mp member with here | later
        · rw [here]
          exact fine.1
        · exact ih ended later

theorem changeEach_isSome {done rows : List ρ}
    (valid : ∀ row ∈ rows, selected row = true → target (column.read row) ≠ column.read row →
      accepted (target (column.read row)) = true)
    (distinct : (rows.map fun row => target (column.read row)).Nodup)
    (unused : ∀ row ∈ rows, selected row = true → target (column.read row) ≠ column.read row →
      ∀ other ∈ done ++ rows, column.read other ≠ target (column.read row)) :
    ∃ result, column.changeEach accepted selected target done rows = some result := by
  induction rows generalizing done with
  | nil => exact ⟨done, rfl⟩
  | cons row rest ih =>
      rw [List.map_cons, List.nodup_cons] at distinct
      have later_valid := fun other member => valid other (List.mem_cons_of_mem row member)
      rw [changeEach]
      split_ifs with kept fine
      · apply ih later_valid distinct.2
        intro other member chosen moves third inside
        apply unused other (List.mem_cons_of_mem _ member) chosen moves third
        simpa using inside
      · apply ih later_valid distinct.2
        intro other member chosen moves third inside
        rw [List.append_assoc, List.mem_append, List.singleton_append, List.mem_cons] at inside
        rcases inside with front | here | back
        · exact unused other (List.mem_cons_of_mem _ member) chosen moves third
            (List.mem_append_left _ front)
        · rw [here, column.read_write]
          intro same
          apply distinct.1
          rw [same]
          exact List.mem_map_of_mem member
        · exact unused other (List.mem_cons_of_mem _ member) chosen moves third
            (List.mem_append_right _ (List.mem_cons_of_mem _ back))
      · exfalso
        rw [not_or, Bool.not_eq_false] at kept
        apply fine
        refine ⟨valid row List.mem_cons_self kept.1 kept.2, ?_⟩
        intro other member
        apply unused row List.mem_cons_self kept.1 kept.2 other
        rcases List.mem_append.mp member with front | back
        · exact List.mem_append_left _ front
        · exact List.mem_append_right _ (List.mem_cons_of_mem _ back)

end Column

end Elektrine.Library
