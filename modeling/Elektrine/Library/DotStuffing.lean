import Mathlib.Data.List.Basic

/-!
# Lines and dot stuffing

A text is sent in lines, each closed by a carriage return and a line feed, and a line with
nothing but a dot ends it.  A line of the text that begins with a dot gets a second one, which
the receiver takes away again.
-/

namespace Elektrine.Library

def lineEnd : List Char := ['\r', '\n']

def unlines (lines : List (List Char)) : List Char :=
  lines.flatMap (· ++ lineEnd)

def splitLines : List Char → List (List Char)
  | [] => [[]]
  | [character] => [[character]]
  | first :: second :: rest =>
      if first = '\r' ∧ second = '\n' then [] :: splitLines rest
      else (splitLines (second :: rest)).modifyHead (first :: ·)

/-- A text without line ends. -/
def OneLine (line : List Char) : Prop :=
  '\r' ∉ line ∧ '\n' ∉ line

def stuffLine (line : List Char) : List Char :=
  if line.head? = some '.' then '.' :: line else line

def unstuffLine (line : List Char) : List Char :=
  if line.head? = some '.' then line.tail else line

def received (stream : List Char) : List Char :=
  unlines (((splitLines stream).takeWhile fun line => line != ['.']).map unstuffLine)

@[simp] theorem unlines_nil : unlines [] = [] := rfl

theorem unlines_cons (line : List Char) (lines : List (List Char)) :
    unlines (line :: lines) = line ++ (lineEnd ++ unlines lines) := by
  rw [unlines, List.flatMap_cons, List.append_assoc]
  rfl

theorem unlines_append (front back : List (List Char)) :
    unlines (front ++ back) = unlines front ++ unlines back :=
  List.flatMap_append

theorem splitLines_cons {character : Char} (no_return : character ≠ '\r') (rest : List Char) :
    splitLines (character :: rest) = (splitLines rest).modifyHead (character :: ·) := by
  cases rest with
  | nil => rfl
  | cons second rest => rw [splitLines, if_neg (fun both => no_return both.1)]

theorem splitLines_line {line : List Char} (one : OneLine line) (rest : List Char) :
    splitLines (line ++ (lineEnd ++ rest)) = line :: splitLines rest := by
  induction line with
  | nil => exact if_pos ⟨rfl, rfl⟩
  | cons character line ih =>
      obtain ⟨no_return, no_feed⟩ := one
      rw [List.mem_cons, not_or] at no_return no_feed
      rw [List.cons_append, splitLines_cons (Ne.symm no_return.1),
        ih ⟨no_return.2, no_feed.2⟩]
      rfl

theorem splitLines_unlines {lines : List (List Char)} (one : ∀ line ∈ lines, OneLine line)
    (rest : List Char) : splitLines (unlines lines ++ rest) = lines ++ splitLines rest := by
  induction lines with
  | nil => rfl
  | cons line lines ih =>
      rw [unlines_cons, List.append_assoc, List.append_assoc,
        splitLines_line (one line List.mem_cons_self),
        ih fun other member => one other (List.mem_cons_of_mem line member)]
      rfl

theorem intercalate_append_singleton (lines : List (List Char)) (last : List Char) :
    lineEnd.intercalate (lines ++ [last]) = unlines lines ++ last := by
  induction lines with
  | nil => exact List.intercalate_singleton
  | cons line lines ih =>
      rw [List.cons_append, List.intercalate_cons_of_ne_nil (by simp), ih, unlines_cons,
        List.append_assoc, List.append_assoc, List.append_assoc]

@[simp] theorem unstuffLine_stuffLine (line : List Char) :
    unstuffLine (stuffLine line) = line := by
  by_cases dot : line.head? = some '.'
  · rw [stuffLine, if_pos dot]
    rfl
  · rw [stuffLine, if_neg dot, unstuffLine, if_neg dot]

theorem stuffLine_ne_dot (line : List Char) : stuffLine line ≠ ['.'] := by
  intro same
  have back := unstuffLine_stuffLine line
  rw [same] at back
  rw [← back] at same
  cases same

theorem stuffLine_eq_nil_iff {line : List Char} : stuffLine line = [] ↔ line = [] := by
  constructor
  · intro empty
    have back := unstuffLine_stuffLine line
    rw [empty] at back
    exact back.symm
  · intro empty
    rw [empty]
    rfl

theorem OneLine.stuffLine {line : List Char} (one : OneLine line) :
    OneLine (stuffLine line) := by
  by_cases dot : line.head? = some '.'
  · rw [Library.stuffLine, if_pos dot]
    exact ⟨List.not_mem_cons_of_ne_of_not_mem (by decide) one.1,
      List.not_mem_cons_of_ne_of_not_mem (by decide) one.2⟩
  · rw [Library.stuffLine, if_neg dot]
    exact one

theorem received_stuffed {lines : List (List Char)} (one : ∀ line ∈ lines, OneLine line)
    (later : List Char) :
    received (unlines (lines.map stuffLine) ++ ('.' :: lineEnd ++ later)) = unlines lines := by
  have stuffed : ∀ line ∈ lines.map stuffLine, OneLine line := by
    intro line member
    obtain ⟨origin, inside, rfl⟩ := List.mem_map.mp member
    exact (one origin inside).stuffLine
  have dot : splitLines ('.' :: lineEnd ++ later) = ['.'] :: splitLines later :=
    @splitLines_line ['.'] ⟨by decide, by decide⟩ later
  have kept : ∀ line ∈ lines.map stuffLine, (line != ['.']) = true := by
    intro line member
    obtain ⟨origin, inside, rfl⟩ := List.mem_map.mp member
    exact bne_iff_ne.mpr (stuffLine_ne_dot origin)
  rw [received, splitLines_unlines stuffed, dot, List.takeWhile_append_of_pos kept,
    List.takeWhile_cons_of_neg (by simp), List.append_nil, List.map_map]
  congr 1
  conv_rhs => rw [← List.map_id lines]
  exact List.map_congr_left fun line _ => unstuffLine_stuffLine line

def octets (text : List Char) : Nat :=
  (String.ofList text).utf8ByteSize

@[simp] theorem octets_append (front back : List Char) :
    octets (front ++ back) = octets front + octets back := by
  rw [octets, String.ofList_append, String.utf8ByteSize_append]
  rfl

theorem octets_stuffLine (line : List Char) :
    octets (stuffLine line) = octets line + if line.head? = some '.' then 1 else 0 := by
  by_cases dot : line.head? = some '.'
  · rw [stuffLine, if_pos dot, if_pos dot, Nat.add_comm]
    exact octets_append ['.'] line
  · rw [stuffLine, if_neg dot, if_neg dot, Nat.add_zero]

theorem octets_stuffed_eq_iff {lines : List (List Char)} :
    octets (unlines (lines.map stuffLine)) = octets (unlines lines) ↔
      ∀ line ∈ lines, line.head? ≠ some '.' := by
  have grows : ∀ lines : List (List Char),
      octets (unlines lines) ≤ octets (unlines (lines.map stuffLine)) := by
    intro lines
    induction lines with
    | nil => exact Nat.le_refl _
    | cons line lines ih =>
        rw [List.map_cons, unlines_cons, unlines_cons, octets_append, octets_append,
          octets_append, octets_append, octets_stuffLine]
        omega
  induction lines with
  | nil => simp
  | cons line lines ih =>
      have others := grows lines
      rw [List.map_cons, unlines_cons, unlines_cons, octets_append, octets_append,
        octets_append, octets_append, octets_stuffLine, List.forall_mem_cons]
      by_cases dot : line.head? = some '.'
      · rw [if_pos dot]
        constructor
        · intro same
          omega
        · intro both
          exact absurd dot both.1
      · rw [if_neg dot]
        constructor
        · intro same
          exact ⟨dot, ih.mp (by omega)⟩
        · intro both
          rw [ih.mpr both.2]
          rfl

end Elektrine.Library
