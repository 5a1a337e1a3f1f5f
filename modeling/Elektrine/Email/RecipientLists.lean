import Mathlib.Algebra.Group.Nat.Even
import Elektrine.Data.Text

/-!
# Recipient lists

How the sender reads a list of recipients out of one text.  A comma separates two
entries when an even number of quotation marks follows it; the entries are trimmed,
blank ones are dropped, and an entry with suspicious content stays as it is.
-/

namespace Elektrine.Email

/-- `String.split` at `,(?=(?:[^"]*"[^"]*")*[^"]*$)`. -/
def splitUnquoted : List Char → List (List Char)
  | [] => [[]]
  | character :: rest =>
      if character = ',' ∧ rest.count '"' % 2 = 0 then [] :: splitUnquoted rest
      else
        match splitUnquoted rest with
        | [] => [[character]]
        | first :: others => (character :: first) :: others

def splitEmailHeaderList (value : String) : List String :=
  ((splitUnquoted value.toList).map fun entry => trim (String.ofList entry)).filter
    (· ≠ "")

/-- The first match of `<([^>]+)>`. -/
def bracketed : List Char → Option (List Char)
  | [] => none
  | character :: rest =>
      let inside := rest.takeWhile (· ≠ '>')
      if character = '<' ∧ inside ≠ [] ∧ inside.length < rest.length then some inside
      else bracketed rest

def extractEmailAddress (text : String) : String :=
  match bracketed text.toList with
  | some inside => trim (String.ofList inside)
  | none => trim text

def normalizeEmailAddress (value : String) : Option String :=
  match downcase (trim (extractEmailAddress value)) with
  | "" => none
  | email => some email

def containsSuspiciousContent (email : String) : Bool :=
  (["<script", "<iframe", "javascript:", "data:"].any fun pattern =>
      (downcase email).toList.tails.any pattern.toList.isPrefixOf) ||
    email.toList.any fun character => ['\r', '\n', ';'].contains character

def normalizeOrPreserve (value : String) : Option String :=
  if containsSuspiciousContent value then some value else normalizeEmailAddress value

/-- `parse_email_list` of a text. -/
def parseEmailList (emails : String) : List String :=
  (splitEmailHeaderList emails).filterMap normalizeOrPreserve

example : parseEmailList "One <one@a.org>, \"two, too\" <two@a.org>,,Three@A.org" =
    ["one@a.org", "two@a.org", "three@a.org"] := by decide

theorem splitUnquoted_ne_nil (text : List Char) : splitUnquoted text ≠ [] := by
  cases text with
  | nil => simp [splitUnquoted]
  | cons character rest =>
      rw [splitUnquoted]
      split_ifs
      · simp
      · cases splitUnquoted rest <;> simp

theorem splitUnquoted_cons {character : Char} {rest first : List Char}
    {others : List (List Char)}
    (inner : ¬ (character = ',' ∧ rest.count '"' % 2 = 0))
    (split : splitUnquoted rest = first :: others) :
    splitUnquoted (character :: rest) = (character :: first) :: others := by
  rw [splitUnquoted, if_neg inner, split]

theorem splitUnquoted_append {front back : List Char}
    (even : back.count '"' % 2 = 0) :
    splitUnquoted (front ++ ',' :: back) = splitUnquoted front ++ splitUnquoted back := by
  induction front with
  | nil => simp [splitUnquoted, even]
  | cons character rest ih =>
      have same : (rest ++ ',' :: back).count '"' % 2 = rest.count '"' % 2 := by
        rw [List.count_append, List.count_cons_of_ne (by decide)]
        omega
      rw [List.cons_append, splitUnquoted, splitUnquoted, same, ih]
      split_ifs with separates
      · rfl
      · cases split : splitUnquoted rest with
        | nil => exact absurd split (splitUnquoted_ne_nil rest)
        | cons first others => rfl

theorem splitUnquoted_space {rest first : List Char} {others : List (List Char)}
    (split : splitUnquoted rest = first :: others) :
    splitUnquoted (' ' :: rest) = (' ' :: first) :: others :=
  splitUnquoted_cons (by simp) split

theorem trim_space (text : List Char) :
    trim (String.ofList (' ' :: text)) = trim (String.ofList text) := by
  have blank : isWhiteSpace ' ' = true := by decide
  simp [trim, blank]

theorem splitEmailHeaderList_space (rest : List Char) :
    splitEmailHeaderList (String.ofList (' ' :: rest)) =
      splitEmailHeaderList (String.ofList rest) := by
  cases split : splitUnquoted rest with
  | nil => exact absurd split (splitUnquoted_ne_nil rest)
  | cons first others =>
      simp only [splitEmailHeaderList, String.toList_ofList, splitUnquoted_space split,
        split, List.map_cons, trim_space]

theorem splitEmailHeaderList_join {front back : String}
    (even : back.toList.count '"' % 2 = 0) :
    splitEmailHeaderList (front ++ ", " ++ back) =
      splitEmailHeaderList front ++ splitEmailHeaderList back := by
  have characters : (front ++ ", " ++ back).toList =
      front.toList ++ ',' :: (' ' :: back.toList) := by
    simp
  have spaced : (' ' :: back.toList).count '"' % 2 = 0 := by
    rw [List.count_cons_of_ne (by decide)]
    exact even
  have separated : splitUnquoted (front.toList ++ ',' :: (' ' :: back.toList)) = _ :=
    splitUnquoted_append spaced
  have blank := splitEmailHeaderList_space back.toList
  simp only [splitEmailHeaderList, String.toList_ofList, String.ofList_toList] at blank ⊢
  rw [characters, separated, List.map_append, List.filter_append, blank]

end Elektrine.Email
