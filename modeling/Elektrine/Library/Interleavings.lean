import Mathlib.Logic.Basic
import Mathlib.Logic.Function.Basic

/-!
# Writes of changed columns

An update writes the columns in which the new row differs from the copy that the row was
loaded as; the others keep what the row in the table has.
-/

namespace Elektrine.Library

universe u

variable {α : Type u} [DecidableEq α]

/-- What a column holds after a write of `value` through a copy that reads `copied`. -/
def written (column copied value : α) : α :=
  if value = copied then column else value

theorem written_of_ne {column copied value : α}
    (distinct : value ≠ copied) : written column copied value = value :=
  if_neg distinct

theorem written_copied (column copied : α) :
    written column copied copied = column :=
  if_pos rfl

theorem written_cases (column copied value : α) :
    (value = copied ∧ written column copied value = column) ∨
      (value ≠ copied ∧ written column copied value = value) := by
  by_cases same : value = copied
  · left
    exact ⟨same, if_pos same⟩
  · right
    exact ⟨same, if_neg same⟩

@[simp] theorem written_fresh (column value : α) :
    written column column value = value := by
  rcases written_cases column column value with ⟨same, kept⟩ | ⟨-, put⟩
  · rw [kept, same]
  · exact put

end Elektrine.Library

/-!
## Processes that share a state

Any number of processes work on one shared state; a step moves one of them and may
change the state they share.  A process that read the shared state earlier writes
through the copy it kept: what the copy already says is not written.
-/

namespace Elektrine.Library

universe u v

structure Interleaving (Shared : Type u) (Process : Type v) where
  shared : Shared
  process : Nat → Process

namespace Interleaving

variable {Shared : Type u} {Process : Type v}

/-- Process `id` moves on to `next`, and leaves the shared state as `shared`. -/
def move (state : Interleaving Shared Process) (id : Nat) (shared : Shared)
    (next : Process) : Interleaving Shared Process :=
  ⟨shared, Function.update state.process id next⟩

variable {state : Interleaving Shared Process} {id other : Nat} {shared : Shared}
  {next : Process}

@[simp] theorem shared_move : (state.move id shared next).shared = shared := rfl

@[simp] theorem process_move_self : (state.move id shared next).process id = next :=
  Function.update_self ..

theorem process_move_other (distinct : other ≠ id) :
    (state.move id shared next).process other = state.process other :=
  Function.update_of_ne distinct ..

theorem forall_move {Holds : Process → Prop}
    (before : ∀ other, Holds (state.process other)) (moved : Holds next) (other : Nat) :
    Holds ((state.move id shared next).process other) := by
  by_cases same : other = id
  · subst same
    rw [process_move_self]
    exact moved
  · rw [process_move_other same]
    exact before other

/-- A step of process `id` by the reaction of a process to an action; a process that
has no reaction to the action stays as it is. -/
def act {Action : Type*} (react : Shared → Action → Process → Option (Shared × Process))
    (state : Interleaving Shared Process) (label : Nat × Action) :
    Interleaving Shared Process :=
  match react state.shared label.2 (state.process label.1) with
  | some (shared, next) => state.move label.1 shared next
  | none => state

theorem act_of_reaction {Action : Type*}
    {react : Shared → Action → Process → Option (Shared × Process)}
    {state : Interleaving Shared Process} {id : Nat} {action : Action} {shared : Shared}
    {next : Process}
    (reaction : react state.shared action (state.process id) = some (shared, next)) :
    state.act react (id, action) = state.move id shared next := by
  rw [act, reaction]

theorem act_cases {Action : Type*}
    (react : Shared → Action → Process → Option (Shared × Process))
    (state : Interleaving Shared Process) (label : Nat × Action) :
    (react state.shared label.2 (state.process label.1) = none ∧
      state.act react label = state) ∨
    (∃ shared next,
      react state.shared label.2 (state.process label.1) = some (shared, next) ∧
        state.act react label = state.move label.1 shared next) := by
  cases reaction : react state.shared label.2 (state.process label.1) with
  | none =>
      left
      exact ⟨rfl, by rw [act, reaction]⟩
  | some result =>
      right
      exact ⟨result.1, result.2, rfl, by rw [act, reaction]⟩

theorem process_foldl_act {Action : Type*}
    (react : Shared → Action → Process → Option (Shared × Process))
    (state : Interleaving Shared Process) {labels : List (Nat × Action)} {id : Nat}
    (foreign : ∀ label ∈ labels, label.1 ≠ id) :
    (labels.foldl (act react) state).process id = state.process id := by
  induction labels generalizing state with
  | nil => rfl
  | cons label labels ih =>
      rw [List.foldl_cons, ih _ fun other member =>
        foreign other (List.mem_cons_of_mem _ member)]
      rcases state.act_cases react label with ⟨-, still⟩ | ⟨shared, next, -, moved⟩
      · rw [still]
      · rw [moved, process_move_other (foreign label List.mem_cons_self).symm]

/-- At most one process satisfies the predicate. -/
def AtMostOne (Holds : Process → Prop) (state : Interleaving Shared Process) : Prop :=
  ∀ first second, Holds (state.process first) → Holds (state.process second) →
    first = second

theorem AtMostOne.move {Holds : Process → Prop} (one : AtMostOne Holds state)
    (moved : Holds next → Holds (state.process id)) :
    AtMostOne Holds (state.move id shared next) := by
  have kept : ∀ other, Holds ((state.move id shared next).process other) →
      Holds (state.process other) := by
    intro other holds
    by_cases same : other = id
    · subst same
      rw [process_move_self] at holds
      exact moved holds
    · rwa [process_move_other same] at holds
  intro first second atFirst atSecond
  exact one first second (kept first atFirst) (kept second atSecond)

theorem AtMostOne.enter {Holds : Process → Prop}
    (none : ∀ other, ¬ Holds (state.process other)) :
    AtMostOne Holds (state.move id shared next) := by
  have only : ∀ other, Holds ((state.move id shared next).process other) →
      other = id := by
    intro other holds
    by_contra distinct
    rw [process_move_other distinct] at holds
    exact none other holds
  intro first second atFirst atSecond
  rw [only first atFirst, only second atSecond]

end Interleaving

end Elektrine.Library
