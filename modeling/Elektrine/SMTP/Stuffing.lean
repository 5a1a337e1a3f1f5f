import Elektrine.SMTP.Server

/-!
# Dot stuffing

A client puts a dot before every line that begins with one, and the receiver takes it
away again.  The server does so for doubled dots behind a line end only, which gives the
text that was meant exactly when no line begins with a single dot and the first line
with none.
-/

namespace Elektrine.SMTP

inductive Place where
  | lineStart
  | afterReturn
  | inside
  deriving DecidableEq, Repr

def Place.next (place : Place) (byte : UInt8) : Place :=
  if byte = 13 then .afterReturn
  else if byte = 10 ∧ place = .afterReturn then .lineStart
  else .inside

def destuff : Place → Bytes → Bytes
  | _, [] => []
  | place, byte :: rest =>
      if place = .lineStart ∧ byte = 46 then destuff .inside rest
      else byte :: destuff (place.next byte) rest

/-- Behind a line end, a dot is followed by a second one. -/
def DotsDoubled (text : Bytes) : Prop :=
  ∀ back, [13, 10, 46] ++ back <:+ text → back.head? = some 46

theorem dotsDoubled_cons {byte : UInt8} {rest : Bytes}
    (ordinary : ¬ [13, 10, 46] <+: byte :: rest) :
    DotsDoubled (byte :: rest) ↔ DotsDoubled rest := by
  constructor
  · intro doubled back ends
    exact doubled back (ends.trans (List.suffix_cons byte rest))
  · intro doubled back ends
    rcases List.suffix_cons_iff.mp ends with whole | inside
    · exact absurd ⟨back, whole⟩ ordinary
    · exact doubled back inside

theorem dotsDoubled_lineStart {rest : Bytes} :
    DotsDoubled (13 :: 10 :: 46 :: rest) ↔ rest.head? = some 46 ∧ DotsDoubled rest := by
  constructor
  · intro doubled
    refine ⟨doubled rest (List.suffix_refl _), ?_⟩
    intro back ends
    apply doubled back
    exact ends.trans (List.suffix_append [13, 10, 46] rest)
  · intro doubled back ends
    rcases List.suffix_cons_iff.mp ends with whole | inside
    · have same : back = rest := by simpa using whole
      rw [same]
      exact doubled.1
    · have deeper : DotsDoubled (10 :: 46 :: rest) := by
        rw [dotsDoubled_cons (by simp), dotsDoubled_cons (by simp)]
        exact doubled.2
      exact deeper back inside

theorem cleanData_cons {byte : UInt8} {rest : Bytes}
    (ordinary : ¬ [13, 10, 46, 46] <+: byte :: rest) :
    cleanData (byte :: rest) = byte :: cleanData rest := by
  rw [cleanData, replaceFrom, if_neg]
  · rfl
  · rwa [List.isPrefixOf_iff_prefix]

theorem cleanData_doubled (rest : Bytes) :
    cleanData (13 :: 10 :: 46 :: 46 :: rest) = 13 :: 10 :: 46 :: cleanData rest := by
  rfl

/-- The server's replacement is the unstuffing of a text that begins inside a line. -/
def Cleans (text : Bytes) : Prop :=
  cleanData text = destuff .inside text

theorem cleans_cons_iff {byte : UInt8} {rest : Bytes}
    (clean : ¬ [13, 10, 46, 46] <+: byte :: rest)
    (plain : destuff .inside (byte :: rest) = byte :: destuff .inside rest) :
    Cleans (byte :: rest) ↔ Cleans rest := by
  rw [Cleans, cleanData_cons clean, plain, List.cons.injEq, Cleans]
  simp

theorem destuff_inside_cons {byte : UInt8} {rest : Bytes}
    (ordinary : ¬ [13, 10, 46] <+: byte :: rest) :
    destuff .inside (byte :: rest) = byte :: destuff .inside rest := by
  by_cases returned : byte = 13
  · subst returned
    cases rest with
    | nil => rfl
    | cons second rest =>
        by_cases fed : second = 10
        · subst fed
          cases rest with
          | nil => rfl
          | cons third rest =>
              have other : third ≠ 46 := by
                intro dot
                subst dot
                exact ordinary ⟨rest, rfl⟩
              simp [destuff, Place.next, other]
        · simp [destuff, Place.next, fed]
  · simp [destuff, Place.next, returned]

theorem cleans_cons_ordinary {byte : UInt8} {rest : Bytes}
    (ordinary : ¬ [13, 10, 46] <+: byte :: rest) :
    Cleans (byte :: rest) ↔ Cleans rest := by
  apply cleans_cons_iff _ (destuff_inside_cons ordinary)
  intro doubled
  exact ordinary ((List.prefix_append [13, 10, 46] [46]).trans doubled)

theorem cleans_doubled (rest : Bytes) :
    Cleans (13 :: 10 :: 46 :: 46 :: rest) ↔ Cleans rest := by
  rw [Cleans, cleanData_doubled, Cleans]
  simp [destuff, Place.next]

theorem cleanData_single {rest : Bytes} (single : rest.head? ≠ some 46) :
    cleanData (13 :: 10 :: 46 :: rest) = 13 :: 10 :: 46 :: cleanData rest := by
  rw [cleanData_cons, cleanData_cons, cleanData_cons]
  · simp [List.cons_prefix_cons]
  · simp [List.cons_prefix_cons]
  · intro doubled
    obtain ⟨after, same⟩ := doubled
    apply single
    have split : rest = 46 :: after := by simpa using same.symm
    rw [split]
    rfl

theorem not_cleans_single {rest : Bytes} (single : rest.head? ≠ some 46) :
    ¬ Cleans (13 :: 10 :: 46 :: rest) := by
  intro cleans
  rw [Cleans, cleanData_single single] at cleans
  have dot : 46 :: cleanData rest = destuff .inside rest := by
    simpa [destuff, Place.next] using cleans
  cases rest with
  | nil => cases dot
  | cons first rest =>
      have first_dot : first = 46 := by
        simp only [destuff, reduceCtorEq, false_and, if_false, List.cons.injEq] at dot
        exact dot.1.symm
      exact single (by rw [first_dot]; rfl)

theorem exists_of_head? {text : Bytes} {byte : UInt8} (first : text.head? = some byte) :
    ∃ rest, text = byte :: rest := by
  cases text with
  | nil => cases first
  | cons head rest => exact ⟨rest, by rw [Option.some.inj first]⟩

theorem stuffing_induction {Holds : Bytes → Prop} (nil : Holds [])
    (ordinary : ∀ byte rest, ¬ [13, 10, 46] <+: byte :: rest → Holds rest →
      Holds (byte :: rest))
    (doubled : ∀ rest, Holds rest → Holds (13 :: 10 :: 46 :: 46 :: rest))
    (single : ∀ rest, rest.head? ≠ some 46 → Holds rest →
      Holds (13 :: 10 :: 46 :: rest))
    (text : Bytes) : Holds text := by
  match text with
  | [] => exact nil
  | byte :: rest =>
      by_cases starts : [13, 10, 46] <+: byte :: rest
      · obtain ⟨after, same⟩ := starts
        have split : byte :: rest = 13 :: 10 :: 46 :: after := same.symm
        rw [split]
        by_cases dot : after.head? = some 46
        · obtain ⟨tail, whole⟩ := exists_of_head? dot
          rw [whole]
          exact doubled tail (stuffing_induction nil ordinary doubled single tail)
        · exact single after dot (stuffing_induction nil ordinary doubled single after)
      · exact ordinary byte rest starts
          (stuffing_induction nil ordinary doubled single rest)
  termination_by text.length
  decreasing_by
    · have lengths := congrArg List.length split
      rw [whole] at lengths
      simp only [List.length_cons] at lengths ⊢
      omega
    · have lengths := congrArg List.length split
      simp only [List.length_cons] at lengths ⊢
      omega
    · simp

theorem cleans_iff (text : Bytes) : Cleans text ↔ DotsDoubled text := by
  induction text using stuffing_induction with
  | nil => simp [Cleans, cleanData, replaceFrom, destuff, DotsDoubled]
  | ordinary byte rest starts ih =>
      rw [cleans_cons_ordinary starts, dotsDoubled_cons starts]
      exact ih
  | doubled rest ih =>
      rw [cleans_doubled, ih, dotsDoubled_lineStart, dotsDoubled_cons (by simp)]
      simp
  | single rest dot ih =>
      rw [dotsDoubled_lineStart]
      constructor
      · intro cleans
        exact absurd cleans (not_cleans_single dot)
      · intro both
        exact absurd both.1 dot

theorem length_destuff_le (text : Bytes) :
    (destuff .inside text).length ≤ (cleanData text).length := by
  induction text using stuffing_induction with
  | nil => simp [cleanData, replaceFrom, destuff]
  | ordinary byte rest starts ih =>
      have clean : ¬ [13, 10, 46, 46] <+: byte :: rest := by
        intro doubled
        exact starts ((List.prefix_append [13, 10, 46] [46]).trans doubled)
      rw [destuff_inside_cons starts, cleanData_cons clean]
      simpa using ih
  | doubled rest ih =>
      rw [cleanData_doubled]
      simpa [destuff, Place.next] using ih
  | single rest dot ih =>
      rw [cleanData_single dot]
      simp only [destuff, Place.next]
      simp
      omega

/-- The server unstuffs a whole text exactly when its first line does not begin with a
dot and the lines behind do not begin with a single one. -/
theorem cleanData_eq_destuff_iff (text : Bytes) :
    cleanData text = destuff .lineStart text ↔
      text.head? ≠ some 46 ∧ DotsDoubled text := by
  by_cases dot : text.head? = some 46
  · obtain ⟨rest, rfl⟩ := exists_of_head? dot
    have longer : cleanData (46 :: rest) = 46 :: cleanData rest :=
      cleanData_cons (by simp [List.cons_prefix_cons])
    have taken : destuff .lineStart (46 :: rest) = destuff .inside rest := by
      simp [destuff]
    rw [longer, taken]
    constructor
    · intro same
      have lengths := congrArg List.length same
      have bound := length_destuff_le rest
      rw [List.length_cons] at lengths
      omega
    · intro both
      exact absurd rfl both.1
  · have inside : destuff .lineStart text = destuff .inside text := by
      cases text with
      | nil => rfl
      | cons first rest =>
          have other : first ≠ 46 := fun same => dot (by rw [same]; rfl)
          simp [destuff, Place.next, other]
    rw [inside]
    have inner := cleans_iff text
    rw [Cleans] at inner
    rw [inner]
    exact (and_iff_right dot).symm

end Elektrine.SMTP
