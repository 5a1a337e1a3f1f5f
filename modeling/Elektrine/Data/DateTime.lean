import Mathlib.Algebra.Ring.Int.Defs
import Mathlib.Order.Basic
import Elektrine.Data.Text

/-!
# UTC timestamps

A timestamp is its number of microseconds since the epoch.  Database columns of
type `utc_datetime` hold whole seconds; casting a value cuts off the fraction.
-/

namespace Elektrine

abbrev DateTime := Int

namespace DateTime

def second : DateTime := 1000000

/-- `DateTime.truncate(value, :second)`. -/
def truncate (value : DateTime) : DateTime :=
  value / second * second

def addMilliseconds (value : DateTime) (amount : Int) : DateTime :=
  value + amount * 1000

def takeNumber : Nat → Nat → List Char → Option (Nat × List Char)
  | 0, value, rest => some (value, rest)
  | count + 1, value, character :: rest =>
      if character.isDigit then
        takeNumber count (value * 10 + (character.toNat - '0'.toNat)) rest
      else none
  | _ + 1, _, [] => none

def takeOneOf (accepted : List Char) : List Char → Option (List Char)
  | character :: rest => if accepted.contains character then some rest else none
  | [] => none

def leapYear (year : Nat) : Bool :=
  year % 4 == 0 && (year % 100 != 0 || year % 400 == 0)

def daysInMonth (year month : Nat) : Nat :=
  if month = 2 then if leapYear year then 29 else 28
  else if [4, 6, 9, 11].contains month then 30
  else 31

def daysFromCivil (year month day : Nat) : Int :=
  let shifted : Int := if month ≤ 2 then (year : Int) - 1 else year
  let fromMarch : Int := if month ≤ 2 then (month : Int) + 9 else month - 3
  shifted * 365 + shifted / 4 - shifted / 100 + shifted / 400 +
    (153 * fromMarch + 2) / 5 + day - 719469

def takeFraction (text : List Char) : Option (Nat × List Char) :=
  match takeOneOf ['.', ','] text with
  | none => some (0, text)
  | some digits =>
      let fraction := digits.takeWhile Char.isDigit
      if fraction.isEmpty then none
      else
        let padded := (fraction ++ List.replicate 6 '0').take 6
        (takeNumber 6 0 padded).map fun taken =>
          (taken.1, digits.dropWhile Char.isDigit)

def takeOffset : List Char → Option Int
  | ['Z'] => some 0
  | sign :: rest => do
      let factor : Int ←
        if sign = '+' then some 1 else if sign = '-' then some (-1) else none
      let (hours, rest) ← takeNumber 2 0 rest
      let minutes ←
        match rest with
        | [] => some 0
        | ':' :: rest | rest =>
            match takeNumber 2 0 rest with
            | some (minutes, []) => some minutes
            | _ => none
      if hours < 24 ∧ minutes < 60 ∧ ¬ (sign = '-' ∧ hours = 0 ∧ minutes = 0) then
        some (factor * (hours * 3600 + minutes * 60))
      else none
  | [] => none

/-- `DateTime.from_iso8601` on the extended format, shifted to UTC. -/
def fromIso8601 (text : String) : Option DateTime := do
  let (year, rest) ← takeNumber 4 0 text.toList
  let (month, rest) ← takeNumber 2 0 (← takeOneOf ['-'] rest)
  let (day, rest) ← takeNumber 2 0 (← takeOneOf ['-'] rest)
  let (hour, rest) ← takeNumber 2 0 (← takeOneOf ['T', ' '] rest)
  let (minute, rest) ← takeNumber 2 0 (← takeOneOf [':'] rest)
  let (seconds, rest) ← takeNumber 2 0 (← takeOneOf [':'] rest)
  let (fraction, rest) ← takeFraction rest
  let offset ← takeOffset rest
  if 1 ≤ month ∧ month ≤ 12 ∧ 1 ≤ day ∧ day ≤ daysInMonth year month ∧
      hour < 24 ∧ minute < 60 ∧ seconds < 60 then
    some ((daysFromCivil year month day * 86400 + hour * 3600 + minute * 60 +
      seconds - offset) * second + fraction)
  else none

example : fromIso8601 "2024-02-29T12:00:00.5+02:30" =
    some 1709199000500000 := by decide

example : fromIso8601 "2023-02-29T12:00:00Z" = none := by decide

theorem truncate_le (value : DateTime) : value.truncate ≤ value :=
  Int.ediv_mul_le value (by decide)

theorem lt_truncate_next (value : DateTime) :
    value < (value.truncate + second).truncate := by
  have next : value.truncate + second = (value / second + 1) * second :=
    (add_one_mul (value / second) second).symm
  have whole : ((value / second + 1) * second).truncate =
      (value / second + 1) * second :=
    congrArg (· * second) (Int.mul_ediv_cancel _ (by decide))
  rw [next, whole]
  exact Int.lt_ediv_add_one_mul_self value (by decide)

section Lines

variable {text rest : List Char}

theorem newline_mem_of_takeNumber {count value number : Nat}
    (taken : takeNumber count value text = some (number, rest))
    (newline : '\n' ∈ text) : '\n' ∈ rest := by
  induction count generalizing value text with
  | zero =>
      cases taken
      exact newline
  | succ count ih =>
      cases text with
      | nil => cases taken
      | cons character others =>
          rw [takeNumber] at taken
          split_ifs at taken with digit
          rcases List.mem_cons.mp newline with same | newline
          · rw [← same] at digit
            cases digit
          · exact ih taken newline

theorem newline_mem_of_takeOneOf {accepted : List Char}
    (other : '\n' ∉ accepted) (taken : takeOneOf accepted text = some rest)
    (newline : '\n' ∈ text) : '\n' ∈ rest := by
  cases text with
  | nil => cases taken
  | cons character others =>
      rw [takeOneOf] at taken
      split_ifs at taken with mark
      cases taken
      rcases List.mem_cons.mp newline with same | newline
      · rw [← same] at mark
        exact absurd (by simpa using mark) other
      · exact newline

theorem newline_mem_of_takeFraction {fraction : Nat}
    (taken : takeFraction text = some (fraction, rest))
    (newline : '\n' ∈ text) : '\n' ∈ rest := by
  rw [takeFraction] at taken
  cases digits : takeOneOf ['.', ','] text with
  | none =>
      rw [digits] at taken
      cases taken
      exact newline
  | some behind =>
      have there := newline_mem_of_takeOneOf (by decide) digits newline
      simp only [digits] at taken
      split_ifs at taken
      obtain ⟨_, _, same⟩ := Option.map_eq_some_iff.mp taken
      cases same
      rw [← @List.takeWhile_append_dropWhile _ Char.isDigit behind] at there
      rcases List.mem_append.mp there with digit | there
      · have isDigit := List.mem_takeWhile_imp digit
        cases isDigit
      · exact there

theorem newline_not_mem_of_takeMinutes {next : Nat → Option Int} {offset : Int}
    (taken : (match text with
      | [] => (some 0).bind next
      | ':' :: rest =>
          match takeNumber 2 0 rest with
          | some (minutes, []) => (some minutes).bind next
          | _ => none.bind next
      | rest =>
          match takeNumber 2 0 rest with
          | some (minutes, []) => (some minutes).bind next
          | _ => none.bind next) = some offset) : '\n' ∉ text := by
  intro newline
  have ended : ∀ digits, '\n' ∈ digits →
      (match takeNumber 2 0 digits with
        | some (minutes, []) => (some minutes).bind next
        | _ => none.bind next) = some offset → False := by
    intro digits newline taken
    split at taken
    · next read =>
        have there := newline_mem_of_takeNumber read newline
        cases there
    · cases taken
  split at taken
  · cases newline
  · rcases List.mem_cons.mp newline with same | newline
    · cases same
    · exact ended _ newline taken
  · exact ended _ newline taken

theorem newline_not_mem_of_takeOffset {offset : Int}
    (taken : takeOffset text = some offset) : '\n' ∉ text := by
  intro newline
  unfold takeOffset at taken
  split at taken
  · simp at newline
  · next sign rest _ =>
      simp only [Option.bind_eq_bind] at taken
      rcases List.mem_cons.mp newline with same | newline
      · rw [← same] at taken
        simp at taken
      · split_ifs at taken
        · obtain ⟨_, -, factored⟩ := Option.bind_eq_some_iff.mp taken
          obtain ⟨hours, read, minutes⟩ := Option.bind_eq_some_iff.mp factored
          exact newline_not_mem_of_takeMinutes minutes
            (newline_mem_of_takeNumber read newline)
        · obtain ⟨_, -, factored⟩ := Option.bind_eq_some_iff.mp taken
          obtain ⟨hours, read, minutes⟩ := Option.bind_eq_some_iff.mp factored
          exact newline_not_mem_of_takeMinutes minutes
            (newline_mem_of_takeNumber read newline)
        · cases taken
  · cases newline

theorem newline_not_mem_of_fromIso8601 {value : String} {timestamp : DateTime}
    (parsed : fromIso8601 value = some timestamp) : '\n' ∉ value.toList := by
  intro newline
  simp only [fromIso8601, Option.bind_eq_bind, Option.bind_eq_some_iff] at parsed
  obtain ⟨_, year, _, dash, _, month, _, dash', _, day, _, mark, _, hour, _,
    colon, _, minute, _, colon', _, seconds, _, fraction, _, offset, -⟩ := parsed
  apply newline_not_mem_of_takeOffset offset
  apply newline_mem_of_takeFraction fraction
  apply newline_mem_of_takeNumber seconds
  apply newline_mem_of_takeOneOf (by decide) colon'
  apply newline_mem_of_takeNumber minute
  apply newline_mem_of_takeOneOf (by decide) colon
  apply newline_mem_of_takeNumber hour
  apply newline_mem_of_takeOneOf (by decide) mark
  apply newline_mem_of_takeNumber day
  apply newline_mem_of_takeOneOf (by decide) dash'
  apply newline_mem_of_takeNumber month
  apply newline_mem_of_takeOneOf (by decide) dash
  exact newline_mem_of_takeNumber year newline

end Lines

end DateTime

end Elektrine
