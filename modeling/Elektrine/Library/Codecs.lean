import Mathlib.Data.List.Basic

/-!
# Codecs

A codec writes values as texts over an alphabet and reads a value from the front of a text.
What it writes of a value that fits, it reads back whatever comes behind.  Codecs are put
together: several values one behind the other, a text behind its length, a text that consists
of values to its end.
-/

namespace Elektrine.Library

universe u v

structure Codec (β : Type u) (α : Type v) where
  write : α → List β
  read : List β → Option (α × List β)
  Fits : α → Prop
  write_ne_nil : ∀ value, Fits value → write value ≠ []
  read_write : ∀ value rest, Fits value → read (write value ++ rest) = some (value, rest)

namespace Codec

variable {β : Type u} {α α' : Type v}

def writeAll (codec : Codec β α) (values : List α) : List β :=
  values.flatMap codec.write

def readTimes (codec : Codec β α) : Nat → List β → Option (List α × List β)
  | 0, text => some ([], text)
  | count + 1, text =>
      match codec.read text with
      | none => none
      | some (value, rest) =>
          (codec.readTimes count rest).map fun found => (value :: found.1, found.2)

theorem readTimes_writeAll (codec : Codec β α) {values : List α}
    (fit : ∀ value ∈ values, codec.Fits value) (rest : List β) :
    codec.readTimes values.length (codec.writeAll values ++ rest) = some (values, rest) := by
  induction values with
  | nil => rfl
  | cons value values ih =>
      have split : codec.writeAll (value :: values) ++ rest =
          codec.write value ++ (codec.writeAll values ++ rest) := by
        rw [writeAll, List.flatMap_cons, List.append_assoc]
        rfl
      rw [List.length_cons, readTimes, split,
        codec.read_write value _ (fit value List.mem_cons_self)]
      simp only [ih fun other member => fit other (List.mem_cons_of_mem value member)]
      rfl

def times (codec : Codec β α) (count : Nat) (some_value : 0 < count) :
    Codec β (List α) where
  write := codec.writeAll
  read := codec.readTimes count
  Fits values := values.length = count ∧ ∀ value ∈ values, codec.Fits value
  write_ne_nil := by
    intro values fits
    cases values with
    | nil => exact absurd fits.1 (Nat.ne_of_lt some_value)
    | cons value values =>
        intro empty
        rw [writeAll, List.flatMap_cons, List.append_eq_nil_iff] at empty
        exact codec.write_ne_nil value (fits.2 value List.mem_cons_self) empty.1
  read_write := by
    intro values rest fits
    rw [← fits.1]
    exact codec.readTimes_writeAll fits.2 rest

def pair (first : Codec β α) (second : Codec β α') : Codec β (α × α') where
  write value := first.write value.1 ++ second.write value.2
  read text :=
    match first.read text with
    | none => none
    | some (one, behind) => (second.read behind).map fun found => ((one, found.1), found.2)
  Fits value := first.Fits value.1 ∧ second.Fits value.2
  write_ne_nil := by
    intro value fits empty
    exact first.write_ne_nil value.1 fits.1 (List.append_eq_nil_iff.mp empty).1
  read_write := by
    intro value rest fits
    rw [List.append_assoc, first.read_write value.1 _ fits.1]
    simp only [second.read_write value.2 rest fits.2, Option.map_some]

def prefixed (length : Codec β Nat) : Codec β (List β) where
  write text := length.write text.length ++ text
  read text :=
    match length.read text with
    | none => none
    | some (size, behind) =>
        if size ≤ behind.length then some (behind.take size, behind.drop size) else none
  Fits text := length.Fits text.length
  write_ne_nil := by
    intro text fits empty
    exact length.write_ne_nil text.length fits (List.append_eq_nil_iff.mp empty).1
  read_write := by
    intro text rest fits
    rw [List.append_assoc, length.read_write text.length _ fits]
    have within : text.length ≤ (text ++ rest).length := by
      rw [List.length_append]
      exact Nat.le_add_right _ _
    simp only [if_pos within, List.take_left, List.drop_left]

def readMany (codec : Codec β α) : Nat → List β → Option (List α)
  | _, [] => some []
  | 0, _ :: _ => none
  | fuel + 1, first :: text =>
      match codec.read (first :: text) with
      | none => none
      | some (value, rest) => (codec.readMany fuel rest).map (value :: ·)

def readAll (codec : Codec β α) (text : List β) : Option (List α) :=
  codec.readMany text.length text

theorem readMany_writeAll (codec : Codec β α) {values : List α}
    (fit : ∀ value ∈ values, codec.Fits value) {fuel : Nat}
    (enough : values.length ≤ fuel) :
    codec.readMany fuel (codec.writeAll values) = some values := by
  induction values generalizing fuel with
  | nil =>
      cases fuel with
      | zero => rfl
      | succ fuel => rfl
  | cons value values ih =>
      have value_fits := fit value List.mem_cons_self
      have split : codec.writeAll (value :: values) =
          codec.write value ++ codec.writeAll values := List.flatMap_cons
      cases fuel with
      | zero => exact absurd enough (Nat.not_succ_le_zero _)
      | succ fuel =>
          have read := codec.read_write value (codec.writeAll values) value_fits
          rw [← split] at read
          cases text : codec.writeAll (value :: values) with
          | nil =>
              rw [split, List.append_eq_nil_iff] at text
              exact absurd text.1 (codec.write_ne_nil value value_fits)
          | cons first rest =>
              rw [text] at read
              rw [readMany, read]
              simp only [ih (fun other member => fit other (List.mem_cons_of_mem value member))
                (Nat.le_of_succ_le_succ enough), Option.map_some]

theorem length_le_length_writeAll (codec : Codec β α) {values : List α}
    (fit : ∀ value ∈ values, codec.Fits value) :
    values.length ≤ (codec.writeAll values).length := by
  induction values with
  | nil => exact Nat.zero_le _
  | cons value values ih =>
      have others := ih fun other member => fit other (List.mem_cons_of_mem value member)
      have nonempty := List.length_pos_iff.mpr
        (codec.write_ne_nil value (fit value List.mem_cons_self))
      rw [writeAll, List.flatMap_cons, List.length_append, List.length_cons]
      rw [writeAll] at others
      omega

theorem readAll_writeAll (codec : Codec β α) {values : List α}
    (fit : ∀ value ∈ values, codec.Fits value) :
    codec.readAll (codec.writeAll values) = some values :=
  codec.readMany_writeAll fit (codec.length_le_length_writeAll fit)

end Codec

end Elektrine.Library
