import Elektrine.Library.Separated

/-!
# Patterns of pieces

A pattern with wildcards is a list of pieces that a text has to be made of.  The pieces are
found from left to right, each at its first place.  The wildcards of a mailbox pattern are
two: one stands for any text, the other for any text without the separator of levels.
-/

namespace Elektrine.Library

universe u

variable {α : Type u}

def OccurInOrder : List (List α) → List α → Prop
  | [], _ => True
  | piece :: pieces, text =>
      ∃ gap rest, text = gap ++ (piece ++ rest) ∧ OccurInOrder pieces rest

theorem OccurInOrder.append_left {pieces : List (List α)} {text : List α}
    (occur : OccurInOrder pieces text) (front : List α) :
    OccurInOrder pieces (front ++ text) := by
  cases pieces with
  | nil => trivial
  | cons piece pieces =>
      obtain ⟨gap, rest, rfl, others⟩ := occur
      refine ⟨front ++ gap, rest, ?_, others⟩
      rw [List.append_assoc]

section
variable [DecidableEq α]

def firstPlace (piece : List α) : List α → Option Nat
  | [] => if piece = [] then some 0 else none
  | element :: rest =>
      if piece.isPrefixOf (element :: rest) then some 0
      else (firstPlace piece rest).map (· + 1)

end

/-- What may stand for a wildcard. -/
def StandsFor (anyText separator wild : α) (gap : List α) : Prop :=
  wild = anyText ∨ separator ∉ gap

section
variable [DecidableEq α] {anyText anyLevel separator wild : α}

end

end Elektrine.Library
