import Mathlib.Data.List.Basic
import Mathlib.Data.List.DropRight

/-!
# Texts joined by a separator

A joined text says where its parts end only if the parts are known to contain
the separator equally often.  Then it can be cut again in one way.
-/

namespace Elektrine.Library

variable {α : Type*} [DecidableEq α] {separator : α}

omit [DecidableEq α] in
theorem not_mem_intercalate {between : List α} {parts : List (List α)}
    {element : α} (outside : element ∉ between)
    (none_of : ∀ part ∈ parts, element ∉ part) :
    element ∉ between.intercalate parts := by
  induction parts with
  | nil => simp
  | cons part parts ih =>
      have here := none_of part List.mem_cons_self
      have others := ih fun other member =>
        none_of other (List.mem_cons_of_mem _ member)
      cases parts with
      | nil => simpa using here
      | cons next rest =>
          rw [List.intercalate_cons_cons]
          simp only [List.mem_append, not_or]
          exact ⟨⟨here, outside⟩, others⟩

omit [DecidableEq α] in
theorem mem_intercalate {between : List α} {parts : List (List α)} {element : α}
    (member : element ∈ between.intercalate parts) :
    element ∈ between ∨ ∃ part ∈ parts, element ∈ part := by
  by_contra neither
  rw [not_or] at neither
  apply not_mem_intercalate neither.1 _ member
  intro part there inside
  exact neither.2 ⟨part, there, inside⟩

theorem append_separator_inj {first second front back : List α}
    (counts : first.count separator = second.count separator)
    (same : first ++ separator :: front = second ++ separator :: back) :
    first = second ∧ front = back := by
  induction first generalizing second with
  | nil =>
      cases second with
      | nil => exact ⟨rfl, (List.cons.inj same).2⟩
      | cons head rest =>
          obtain ⟨head_eq, -⟩ := List.cons.inj same
          subst head_eq
          simp at counts
  | cons head rest ih =>
      cases second with
      | nil =>
          obtain ⟨head_eq, -⟩ := List.cons.inj same
          subst head_eq
          simp at counts
      | cons head' rest' =>
          obtain ⟨head_eq, tail_eq⟩ := List.cons.inj same
          subst head_eq
          have rests : rest.count separator = rest'.count separator := by
            simpa [List.count_cons] using counts
          obtain ⟨rest_eq, back_eq⟩ := ih rests tail_eq
          exact ⟨congrArg (head :: ·) rest_eq, back_eq⟩

theorem intercalate_inj_of_counts {first second : List (List α)}
    (counts : first.map (List.count separator) =
      second.map (List.count separator))
    (same : [separator].intercalate first = [separator].intercalate second) :
    first = second := by
  induction first generalizing second with
  | nil =>
      have lengths := congrArg List.length counts
      rw [List.length_map, List.length_map] at lengths
      exact (List.eq_nil_of_length_eq_zero lengths.symm).symm
  | cons part parts ih =>
      cases second with
      | nil => simp at counts
      | cons part' parts' =>
          obtain ⟨part_count, parts_counts⟩ := List.cons.inj counts
          have lengths := congrArg List.length parts_counts
          rw [List.length_map, List.length_map] at lengths
          cases parts with
          | nil =>
              rw [List.eq_nil_of_length_eq_zero lengths.symm] at same ⊢
              simpa using same
          | cons next rest =>
              cases parts' with
              | nil => simp at lengths
              | cons next' rest' =>
                  rw [List.intercalate_cons_cons, List.intercalate_cons_cons,
                    List.append_assoc, List.append_assoc] at same
                  obtain ⟨part_eq, joined_eq⟩ :=
                    append_separator_inj part_count same
                  rw [part_eq, ih parts_counts joined_eq]

end Elektrine.Library

/-!
## Texts cut at a separator

The pieces of a text are what stands between its separators, without the empty
parts.  The pieces of a joined text are those of its parts, and a text is joined
again from its pieces just when none of its parts is empty.
-/

namespace Elektrine.Library

variable {α : Type*} [DecidableEq α] {separator : α}

def pieces (separator : α) (text : List α) : List (List α) :=
  (text.splitOn separator).filter fun piece => !piece.isEmpty

theorem not_mem_of_mem_splitOn {text part : List α}
    (member : part ∈ text.splitOn separator) : separator ∉ part := by
  induction text generalizing part with
  | nil =>
      rw [List.splitOn_nil, List.mem_singleton] at member
      rw [member]
      exact List.not_mem_nil
  | cons head rest ih =>
      rw [List.splitOn_cons_eq_if_modifyHead] at member
      by_cases same : head = separator
      · rw [if_pos (beq_iff_eq.mpr same)] at member
        rcases List.mem_cons.mp member with first | later
        · rw [first]
          exact List.not_mem_nil
        · exact ih later
      · rw [if_neg (by simpa using same)] at member
        cases split : rest.splitOn separator with
        | nil => exact absurd split (List.splitOn_ne_nil separator rest)
        | cons first others =>
            rw [split, List.modifyHead_cons] at member
            rw [split] at ih
            rcases List.mem_cons.mp member with front | later
            · rw [front, List.mem_cons, not_or]
              exact ⟨Ne.symm same, ih List.mem_cons_self⟩
            · exact ih (List.mem_cons_of_mem _ later)

theorem splitOn_intercalate_flatMap {parts : List (List α)} (some_part : parts ≠ []) :
    ([separator].intercalate parts).splitOn separator =
      parts.flatMap (List.splitOn separator) := by
  induction parts with
  | nil => exact absurd rfl some_part
  | cons part parts ih =>
      cases parts with
      | nil => simp
      | cons next rest =>
          rw [List.intercalate_cons_cons, List.append_assoc, List.singleton_append,
            List.splitOn_append_cons_self, ih (List.cons_ne_nil _ _)]
          rfl

theorem pieces_intercalate (parts : List (List α)) :
    pieces separator ([separator].intercalate parts) =
      parts.flatMap (pieces separator) := by
  by_cases some_part : parts = []
  · subst some_part
    rfl
  · rw [pieces, splitOn_intercalate_flatMap some_part, List.filter_flatMap]
    rfl

theorem ne_nil_of_mem_pieces {text piece : List α}
    (member : piece ∈ pieces separator text) : piece ≠ [] := by
  have nonempty := (List.mem_filter.mp member).2
  simpa using nonempty

theorem not_mem_of_mem_pieces {text piece : List α}
    (member : piece ∈ pieces separator text) : separator ∉ piece :=
  not_mem_of_mem_splitOn (List.mem_filter.mp member).1

omit [DecidableEq α] in
theorem sublist_intercalate {part : List α} {parts : List (List α)} (member : part ∈ parts) :
    part.Sublist ([separator].intercalate parts) := by
  induction parts with
  | nil => cases member
  | cons first rest ih =>
      cases rest with
      | nil =>
          rw [List.mem_singleton.mp member, List.intercalate_singleton]
      | cons next others =>
          rw [List.intercalate_cons_cons]
          rcases List.mem_cons.mp member with here | later
          · rw [here, List.append_assoc]
            exact List.sublist_append_left _ _
          · exact (ih later).trans (List.sublist_append_right _ _)

theorem sublist_of_mem_pieces {text piece : List α}
    (member : piece ∈ pieces separator text) : piece.Sublist text := by
  have inside : piece.Sublist ([separator].intercalate (text.splitOn separator)) :=
    sublist_intercalate (List.mem_filter.mp member).1
  rwa [List.intercalate_splitOn] at inside

omit [DecidableEq α] in
theorem length_le_of_mem_intercalate {part : List α} {parts : List (List α)}
    (member : part ∈ parts) :
    part.length ≤ ([separator].intercalate parts).length :=
  (sublist_intercalate member).length_le

theorem length_le_of_mem_pieces {text piece : List α}
    (member : piece ∈ pieces separator text) : piece.length ≤ text.length :=
  (sublist_of_mem_pieces member).length_le

omit [DecidableEq α] in
theorem length_intercalate_filter_le (keep : List α → Bool) (parts : List (List α)) :
    ([separator].intercalate (parts.filter keep)).length ≤
      ([separator].intercalate parts).length := by
  induction parts with
  | nil => exact Nat.le_refl _
  | cons first rest ih =>
      by_cases others : rest = []
      · subst others
        by_cases kept : keep first <;> simp [kept]
      · rw [List.intercalate_cons_of_ne_nil others, List.length_append,
          List.length_append]
        by_cases kept : keep first
        · rw [List.filter_cons_of_pos kept]
          by_cases remain : rest.filter keep = []
          · rw [remain, List.intercalate_singleton]
            omega
          · rw [List.intercalate_cons_of_ne_nil remain, List.length_append,
              List.length_append]
            omega
        · rw [List.filter_cons_of_neg kept]
          omega

theorem length_intercalate_pieces_le (text : List α) :
    ([separator].intercalate (pieces separator text)).length ≤ text.length := by
  have below : ([separator].intercalate (pieces separator text)).length ≤
      ([separator].intercalate (text.splitOn separator)).length :=
    length_intercalate_filter_le _ _
  rwa [List.intercalate_splitOn] at below

theorem pieces_of_piece {piece : List α} (nonempty : piece ≠ [])
    (outside : separator ∉ piece) : pieces separator piece = [piece] := by
  rw [pieces, List.splitOn_eq_singleton outside]
  simp [nonempty]

theorem pieces_intercalate_of_pieces {parts : List (List α)}
    (proper : ∀ part ∈ parts, part ≠ [] ∧ separator ∉ part) :
    pieces separator ([separator].intercalate parts) = parts := by
  rw [pieces_intercalate]
  induction parts with
  | nil => rfl
  | cons first rest ih =>
      have here := proper first List.mem_cons_self
      rw [List.flatMap_cons, pieces_of_piece here.1 here.2,
        ih fun part member => proper part (List.mem_cons_of_mem _ member)]
      rfl

theorem pieces_append_separator (text : List α) :
    pieces separator (text ++ [separator]) = pieces separator text := by
  rw [pieces, List.splitOn_append_cons_self, List.splitOn_nil, List.filter_append]
  simp [pieces]

theorem pieces_rdropWhile (text : List α) :
    pieces separator (text.rdropWhile (· == separator)) = pieces separator text := by
  induction text using List.reverseRecOn with
  | nil => rfl
  | append_singleton front last ih =>
      by_cases same : last = separator
      · have dropped : (last == separator) = true := beq_iff_eq.mpr same
        rw [List.rdropWhile_concat, if_pos dropped, ih, same, pieces_append_separator]
      · have kept : ¬ (last == separator) = true := by simpa using same
        rw [List.rdropWhile_concat, if_neg kept]

theorem intercalate_pieces_eq_iff {text : List α} (nonempty : text ≠ []) :
    [separator].intercalate (pieces separator text) = text ↔
      [] ∉ text.splitOn separator := by
  constructor
  · intro same
    have some_piece : pieces separator text ≠ [] := by
      intro none_left
      rw [none_left] at same
      exact nonempty same.symm
    have split := List.splitOn_intercalate separator
      (fun _ member => not_mem_of_mem_pieces member) some_piece
    rw [same] at split
    intro empty
    rw [split] at empty
    exact ne_nil_of_mem_pieces empty rfl
  · intro full
    have kept : pieces separator text = text.splitOn separator := by
      apply List.filter_eq_self.mpr
      intro part member
      have nonempty_part : part ≠ [] := by
        intro empty
        rw [empty] at member
        exact full member
      simpa using nonempty_part
    rw [kept, List.intercalate_splitOn]

end Elektrine.Library

/-!
## Nested texts

Texts with quotes and brackets.  A separator counts only outside both, so that a list of
balanced texts can be joined and cut again.
-/

namespace Elektrine.Library

structure Marks (α : Type*) where
  opening : α → Bool
  closing : α → Bool
  quote : α
  escape : α

inductive Mode where
  | plain
  | quoted
  | escaped

variable {α : Type*} [DecidableEq α] (marks : Marks α) {separator : α}

def beyond (separator : α) : Mode → Nat → List α → List α
  | _, _, [] => []
  | .escaped, depth, _ :: rest => beyond separator .quoted depth rest
  | .quoted, depth, character :: rest =>
      if character = marks.quote then beyond separator .plain depth rest
      else if character = marks.escape then beyond separator .escaped depth rest
      else beyond separator .quoted depth rest
  | .plain, depth, character :: rest =>
      if character = separator ∧ depth = 0 then character :: rest
      else if marks.opening character then beyond separator .plain (depth + 1) rest
      else if marks.closing character then beyond separator .plain (depth - 1) rest
      else if character = marks.quote then beyond separator .quoted depth rest
      else beyond separator .plain depth rest

def Flat (structural : α → Bool) : Mode → List α → Prop
  | .plain, [] => True
  | _, [] => False
  | .escaped, _ :: rest => Flat structural .quoted rest
  | .quoted, character :: rest =>
      if character = marks.quote then Flat structural .plain rest
      else if character = marks.escape then Flat structural .escaped rest
      else Flat structural .quoted rest
  | .plain, character :: rest =>
      if character = marks.quote then Flat structural .quoted rest
      else structural character = false ∧ Flat structural .plain rest

/-- Inside brackets the scanner passes over the text. -/
def Inner (separator : α) (text : List α) : Prop :=
  ∀ depth rest,
    beyond marks separator .plain (depth + 1) (text ++ rest) =
      beyond marks separator .plain (depth + 1) rest

/-- The scanner passes over the text wherever it stands. -/
def Balanced (separator : α) (text : List α) : Prop :=
  ∀ depth rest,
    beyond marks separator .plain depth (text ++ rest) =
      beyond marks separator .plain depth rest

variable {marks} {structural : α → Bool}

theorem Balanced.inner {text : List α} (balanced : Balanced marks separator text) :
    Inner marks separator text :=
  fun depth rest => balanced (depth + 1) rest

theorem Balanced.append {first second : List α} (front : Balanced marks separator first)
    (back : Balanced marks separator second) : Balanced marks separator (first ++ second) := by
  intro depth rest
  rw [List.append_assoc, front, back]

theorem Inner.append {first second : List α} (front : Inner marks separator first)
    (back : Inner marks separator second) : Inner marks separator (first ++ second) := by
  intro depth rest
  rw [List.append_assoc, front, back]

theorem balanced_singleton {character : α} (apart : character ≠ separator)
    (opens : marks.opening character = false) (closes : marks.closing character = false)
    (quotes : character ≠ marks.quote) : Balanced marks separator [character] := by
  intro depth rest
  simp [beyond, apart, opens, closes, quotes]

theorem inner_separator (opens : marks.opening separator = false)
    (closes : marks.closing separator = false) (quotes : separator ≠ marks.quote) :
    Inner marks separator [separator] := by
  intro depth rest
  simp [beyond, opens, closes, quotes]

theorem balanced_bracketed {opening closing : α} {body : List α}
    (apart : opening ≠ separator) (apart' : closing ≠ separator)
    (opens : marks.opening opening = true) (closes : marks.closing closing = true)
    (not_opens : marks.opening closing = false) (inside : Inner marks separator body) :
    Balanced marks separator (opening :: body ++ [closing]) := by
  intro depth rest
  have first : beyond marks separator .plain depth (opening :: (body ++ (closing :: rest))) =
      beyond marks separator .plain (depth + 1) (body ++ (closing :: rest)) := by
    simp [beyond, apart, opens]
  have last : beyond marks separator .plain (depth + 1) (closing :: rest) =
      beyond marks separator .plain depth rest := by
    simp [beyond, apart', closes, not_opens]
  rw [List.cons_append, List.cons_append, List.append_assoc, List.singleton_append, first,
    inside, last]

theorem inner_intercalate (between : Inner marks separator [separator])
    {parts : List (List α)} (inside : ∀ part ∈ parts, Inner marks separator part) :
    Inner marks separator ([separator].intercalate parts) := by
  induction parts with
  | nil =>
      intro depth rest
      rfl
  | cons part parts ih =>
      have here := inside part List.mem_cons_self
      have others := ih fun other member => inside other (List.mem_cons_of_mem _ member)
      cases parts with
      | nil => simpa using here
      | cons next parts =>
          rw [List.intercalate_cons_cons]
          exact (here.append between).append others

theorem Flat.beyond_eq {text : List α} {mode : Mode} (flat : Flat marks structural mode text)
    (opening : ∀ character, marks.opening character = true → structural character = true)
    (closing : ∀ character, marks.closing character = true → structural character = true)
    (separates : structural separator = true) (apart : separator ≠ marks.quote)
    (quote_opens : marks.opening marks.quote = false)
    (quote_closes : marks.closing marks.quote = false) (depth : Nat) (rest : List α) :
    beyond marks separator mode depth (text ++ rest) =
      beyond marks separator .plain depth rest := by
  induction text generalizing mode with
  | nil =>
      cases mode with
      | plain => rfl
      | quoted => exact flat.elim
      | escaped => exact flat.elim
  | cons character text ih =>
      cases mode with
      | escaped =>
          rw [List.cons_append, beyond]
          exact ih flat
      | quoted =>
          rw [List.cons_append, beyond]
          unfold Flat at flat
          split
          · rw [if_pos ‹_›] at flat
            exact ih flat
          · rw [if_neg ‹_›] at flat
            split
            · rw [if_pos ‹_›] at flat
              exact ih flat
            · rw [if_neg ‹_›] at flat
              exact ih flat
      | plain =>
          rw [List.cons_append, beyond]
          unfold Flat at flat
          by_cases quote : character = marks.quote
          · rw [if_pos quote] at flat
            rw [quote, if_neg fun both => apart both.1.symm, if_neg (by simp [quote_opens]),
              if_neg (by simp [quote_closes]), if_pos rfl]
            exact ih flat
          · rw [if_neg quote] at flat
            obtain ⟨unmarked, flat⟩ := flat
            have not_separator : ¬(character = separator ∧ depth = 0) := by
              intro both
              rw [both.1, separates] at unmarked
              cases unmarked
            have not_opening : ¬marks.opening character = true := by
              intro opens
              rw [opening character opens] at unmarked
              cases unmarked
            have not_closing : ¬marks.closing character = true := by
              intro closes
              rw [closing character closes] at unmarked
              cases unmarked
            rw [if_neg not_separator, if_neg not_opening, if_neg not_closing, if_neg quote]
            exact ih flat

/-- A rest that begins with the separator, or no rest. -/
def EndsAt (separator : α) (rest : List α) : Prop :=
  rest = [] ∨ ∃ tail, rest = separator :: tail

theorem beyond_of_endsAt {rest : List α} (ends : EndsAt separator rest) :
    beyond marks separator .plain 0 rest = rest := by
  rcases ends with rfl | ⟨tail, rfl⟩
  · rfl
  · rw [beyond, if_pos ⟨rfl, rfl⟩]

theorem balanced_inj {first second front back : List α}
    (firstBalanced : Balanced marks separator first)
    (secondBalanced : Balanced marks separator second) (frontEnds : EndsAt separator front)
    (backEnds : EndsAt separator back) (same : first ++ front = second ++ back) :
    first = second ∧ front = back := by
  have rests : front = back := by
    have plain : beyond marks separator .plain 0 front = front := beyond_of_endsAt frontEnds
    rw [← plain, ← firstBalanced 0 front, same, secondBalanced 0 back,
      beyond_of_endsAt backEnds]
  rw [rests] at same
  exact ⟨List.append_cancel_right same, rests⟩

def following (separator : α) (parts : List (List α)) : List α :=
  match parts with
  | [] => []
  | next :: parts => separator :: [separator].intercalate (next :: parts)

omit [DecidableEq α] in
theorem intercalate_cons_eq (part : List α) (parts : List (List α)) :
    [separator].intercalate (part :: parts) = part ++ following separator parts := by
  cases parts with
  | nil => simp [following]
  | cons next parts =>
      rw [List.intercalate_cons_cons, following, List.append_assoc]
      rfl

omit [DecidableEq α] in
theorem endsAt_following (parts : List (List α)) : EndsAt separator (following separator parts) := by
  cases parts with
  | nil => exact Or.inl rfl
  | cons next parts => exact Or.inr ⟨_, rfl⟩

theorem intercalate_inj_of_balanced {first second : List (List α)}
    (firstParts : ∀ part ∈ first, part ≠ [] ∧ Balanced marks separator part)
    (secondParts : ∀ part ∈ second, part ≠ [] ∧ Balanced marks separator part)
    (same : [separator].intercalate first = [separator].intercalate second) :
    first = second := by
  induction first generalizing second with
  | nil =>
      cases second with
      | nil => rfl
      | cons part parts =>
          rw [intercalate_cons_eq] at same
          have empty := (List.append_eq_nil_iff.mp same.symm).1
          exact absurd empty (secondParts part List.mem_cons_self).1
  | cons part parts ih =>
      cases second with
      | nil =>
          rw [intercalate_cons_eq] at same
          have empty := (List.append_eq_nil_iff.mp same).1
          exact absurd empty (firstParts part List.mem_cons_self).1
      | cons other others =>
          rw [intercalate_cons_eq, intercalate_cons_eq] at same
          obtain ⟨heads, tails⟩ := balanced_inj (firstParts part List.mem_cons_self).2
            (secondParts other List.mem_cons_self).2 (endsAt_following parts)
            (endsAt_following others) same
          have rests : parts = others := by
            cases parts with
            | nil =>
                cases others with
                | nil => rfl
                | cons next others => cases tails
            | cons next parts =>
                cases others with
                | nil => cases tails
                | cons another others =>
                    apply ih
                    · exact fun part member => firstParts part (List.mem_cons_of_mem _ member)
                    · exact fun part member => secondParts part (List.mem_cons_of_mem _ member)
                    · exact (List.cons.inj tails).2
          rw [heads, rests]

end Elektrine.Library
