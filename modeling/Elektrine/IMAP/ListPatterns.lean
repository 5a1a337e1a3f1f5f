import Elektrine.Data.Text
import Elektrine.Library.PiecePattern

/-!
# Patterns of LIST

The filter of the listed folders by the pattern of the request.  The pattern is split at its
wildcards; the first piece is tested as a prefix of the name, the last one as a suffix, and
the others are searched for in between.  The places found are offsets of bytes, and the name
is cut at them as if they counted graphemes.
-/

namespace Elektrine.IMAP

open Elektrine.Library

/-- The lower casing of single characters, as Unicode has it: what it gives is lower case,
and the characters with a meaning in patterns come from themselves only. -/
structure CaseFolding where
  lower : Char → List Char
  lowered : ∀ char, ∀ part ∈ lower char, lower part = [part]
  special : ∀ special, special = '*' ∨ special = '%' ∨ special = '/' →
    ∀ char, special ∈ lower char ↔ char = special

/-- The characters of one byte, the carriage return apart: it may go with a line feed. -/
def OneByte (char : Char) : Prop :=
  char.toNat < 128 ∧ char ≠ '\r'

instance (char : Char) : Decidable (OneByte char) :=
  inferInstanceAs (Decidable (_ ∧ _))

structure Graphemes where
  clusters : List Char → List (List Char)
  flatten_clusters : ∀ text, (clusters text).flatten = text
  single : ∀ text, (∀ char ∈ text, OneByte char) → clusters text = text.map fun char => [char]

def CaseFolding.downcase (folding : CaseFolding) (text : List Char) : List Char :=
  text.flatMap folding.lower

def Graphemes.length (graphemes : Graphemes) (text : List Char) : Nat :=
  (graphemes.clusters text).length

/-- `String.slice`, from a grapheme on. -/
def Graphemes.slice (graphemes : Graphemes) (text : List Char) (start : Nat) : List Char :=
  ((graphemes.clusters text).drop start).flatten

def byteSize : List Char → Nat
  | [] => 0
  | char :: text => char.utf8Size + byteSize text

/-- `:binary.match`: the offset of the first place and the length, in bytes. -/
def binaryMatch (text part : List Char) : Option (Nat × Nat) :=
  (firstPlace part text).map fun place => (byteSize (text.take place), byteSize part)

section
variable (folding : CaseFolding) (graphemes : Graphemes)

def middleOk : List (List Char) → List Char → Bool
  | [], _ => true
  | part :: parts, remaining =>
      if part = [] then middleOk parts remaining
      else
        match binaryMatch remaining (folding.downcase part) with
        | some (position, length) =>
            middleOk parts (graphemes.slice remaining (position + length))
        | none => false

def matchesWildcardPattern (name : List Char) : List (List Char) → Bool
  | [] => false
  | [single] => name == folding.downcase single
  | first :: next :: rest =>
      let last := (next :: rest).getLast (List.cons_ne_nil _ _)
      let middle := (next :: rest).dropLast
      (first.isEmpty || (folding.downcase first).isPrefixOf name) &&
        (last.isEmpty || (folding.downcase last).isSuffixOf name) &&
        middleOk folding graphemes middle (graphemes.slice name (graphemes.length first))

def matchesPattern (name pattern : List Char) : Bool :=
  if pattern = ['*'] ∨ pattern = ['%'] then true
  else if '*' ∈ pattern then
    matchesWildcardPattern folding graphemes (folding.downcase name) (pattern.splitOn '*')
  else if '%' ∈ pattern then
    matchesWildcardPattern folding graphemes (folding.downcase name) (pattern.splitOn '%')
  else folding.downcase name == folding.downcase pattern

end

def wildcard (pattern : List Char) : Char :=
  if '*' ∈ pattern then '*' else '%'

section
variable (folding : CaseFolding)

end

section
variable (folding : CaseFolding) (graphemes : Graphemes)

end

section
variable (folding : CaseFolding) (graphemes : Graphemes)

end

end Elektrine.IMAP
