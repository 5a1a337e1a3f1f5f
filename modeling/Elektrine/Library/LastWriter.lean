import Mathlib.Data.List.Dedup
import Mathlib.Data.List.Induction
import Mathlib.Data.List.MinMax
import Mathlib.Data.List.Pairwise
import Mathlib.Data.Prod.Lex

/-!
# Last-writer-wins registers

A register holds the row of one event; an arriving event either replaces the row
or is kept out by it.  Events come in streams, whose own order every schedule
respects, and each arrives at a clock that does not go back.  A register
converges when the event of the greatest revision decides its row in every such
schedule.  `converges_iff` reduces this to pairs of events that can meet.
-/

namespace Elektrine.Library.LastWriter

universe u v w x

variable {Event : Type u} {Clock : Type v} {Row : Type w} {Revision : Type x}

structure Arrival (Event : Type u) (Clock : Type v) where
  event : Event
  clock : Clock

structure Register (Event : Type u) (Clock : Type v) (Row : Type w) where
  write : Event → Clock → Row
  keeps : Row → Event → Clock → Bool

structure StreamOrder (Event : Type u) where
  before : Event → Event → Prop
  position : Event → Int
  before_trans : ∀ {first second third : Event},
    before first second → before second third → before first third
  position_lt : ∀ {first second : Event},
    before first second → position first < position second

theorem StreamOrder.before_irrefl
    (streams : StreamOrder Event) (event : Event) :
    ¬ streams.before event event := by
  intro before
  have := streams.position_lt before
  omega

namespace Register

def receive (register : Register Event Clock Row) (row : Option Row)
    (arrival : Arrival Event Clock) : Option Row :=
  match row with
  | none => some (register.write arrival.event arrival.clock)
  | some stored =>
      if register.keeps stored arrival.event arrival.clock then some stored
      else some (register.write arrival.event arrival.clock)

def after (register : Register Event Clock Row)
    (schedule : List (Arrival Event Clock)) : Option Row :=
  schedule.foldl register.receive none

@[simp] theorem after_nil (register : Register Event Clock Row) :
    register.after [] = none := rfl

@[simp] theorem after_concat (register : Register Event Clock Row)
    (front : List (Arrival Event Clock)) (arrival : Arrival Event Clock) :
    register.after (front ++ [arrival]) =
      register.receive (register.after front) arrival := by
  simp [after]

theorem isSome_after_concat (register : Register Event Clock Row)
    (front : List (Arrival Event Clock)) (arrival : Arrival Event Clock) :
    (register.after (front ++ [arrival])).isSome = true := by
  rw [after_concat]
  cases register.after front with
  | none => rfl
  | some stored =>
      simp only [receive]
      split <;> rfl

end Register

section Schedules

variable [LE Clock]

/-- A schedule of events of a set: nothing arrives twice, an event arrives after
its predecessors in its stream, and the clock does not go back. -/
inductive Admissible (streams : StreamOrder Event) (events : List Event) :
    List (Arrival Event Clock) → Prop where
  | nil : Admissible streams events []
  | concat {front : List (Arrival Event Clock)} {arrival : Arrival Event Clock} :
      Admissible streams events front →
      arrival.event ∈ events →
      (∀ earlier ∈ front, earlier.event ≠ arrival.event) →
      (∀ event ∈ events, streams.before event arrival.event →
        ∃ earlier ∈ front, earlier.event = event) →
      (∀ earlier ∈ front, earlier.clock ≤ arrival.clock) →
      Admissible streams events (front ++ [arrival])

structure Meets [LT Revision] (streams : StreamOrder Event)
    (revision : Event → Revision) (events : List Event)
    (first second : Event) : Prop where
  first_mem : first ∈ events
  second_mem : second ∈ events
  distinct : first ≠ second
  unordered : ¬ streams.before second first
  newest : ∀ event ∈ events,
    streams.before event first ∨ streams.before event second →
    ¬ revision first < revision event

/-- The row is the one of the newest event, whatever the schedule; an arriving
event is kept out exactly by a newer one. -/
structure Converges {Content : Type*} [LT Revision] (streams : StreamOrder Event)
    (revision : Event → Revision) (register : Register Event Clock Row)
    (content : Row → Content) (events : List Event) : Prop where
  agrees : ∀ left right : List (Arrival Event Clock),
    Admissible streams events left → Admissible streams events right →
    (left.map Arrival.event).Perm (right.map Arrival.event) →
    (register.after left).map content = (register.after right).map content
  newestWins : ∀ schedule : List (Arrival Event Clock),
    Admissible streams events schedule →
    ∀ arrival ∈ schedule,
      (∀ other ∈ schedule, ¬ revision arrival.event < revision other.event) →
      register.after schedule =
        some (register.write arrival.event arrival.clock)
  olderKeptOut : ∀ (front : List (Arrival Event Clock))
    (arrival : Arrival Event Clock) (row : Row),
    Admissible streams events (front ++ [arrival]) →
    register.after front = some row →
    (register.keeps row arrival.event arrival.clock = true ↔
      ∃ earlier ∈ front, revision arrival.event < revision earlier.event)

/-- The newest event so far keeps out exactly the older events it can meet. -/
def Decides [LT Revision] (streams : StreamOrder Event)
    (revision : Event → Revision) (register : Register Event Clock Row)
    (events : List Event) : Prop :=
  ∀ first second, Meets streams revision events first second →
    ∀ clock later : Clock, clock ≤ later →
      (register.keeps (register.write first clock) second later = true ↔
        revision second < revision first)

namespace Admissible

variable {streams : StreamOrder Event} {events : List Event}
  {front schedule : List (Arrival Event Clock)} {arrival : Arrival Event Clock}

theorem mem_events (admissible : Admissible streams events schedule) :
    ∀ arrival ∈ schedule, arrival.event ∈ events := by
  induction admissible with
  | nil => simp
  | concat _ known _ _ _ ih =>
      intro arrival member
      rcases List.mem_append.mp member with member | member
      · exact ih arrival member
      · cases List.mem_singleton.mp member
        exact known

theorem concat_inv
    (admissible : Admissible streams events (front ++ [arrival])) :
    Admissible streams events front ∧ arrival.event ∈ events ∧
      (∀ earlier ∈ front, earlier.event ≠ arrival.event) ∧
      (∀ event ∈ events, streams.before event arrival.event →
        ∃ earlier ∈ front, earlier.event = event) ∧
      (∀ earlier ∈ front, earlier.clock ≤ arrival.clock) := by
  generalize scheduled : front ++ [arrival] = schedule at admissible
  cases admissible with
  | nil => simp at scheduled
  | concat admissible known fresh closed clocks =>
      obtain ⟨rfl, last⟩ := List.append_inj' scheduled rfl
      cases last
      exact ⟨admissible, known, fresh, closed, clocks⟩

theorem closed (admissible : Admissible streams events schedule)
    (member : arrival ∈ schedule) :
    ∀ event ∈ events, streams.before event arrival.event →
      ∃ earlier ∈ schedule, earlier.event = event := by
  intro event known before
  induction admissible with
  | nil => simp at member
  | concat _ _ _ closed _ ih =>
      rcases List.mem_append.mp member with member | member
      · obtain ⟨earlier, present, same⟩ := ih member
        exact ⟨earlier, List.mem_append_left _ present, same⟩
      · cases List.mem_singleton.mp member
        obtain ⟨earlier, present, same⟩ := closed event known before
        exact ⟨earlier, List.mem_append_left _ present, same⟩

theorem pair {first second : Arrival Event Clock}
    (firstKnown : first.event ∈ events) (secondKnown : second.event ∈ events)
    (distinct : first.event ≠ second.event)
    (firstReady : ∀ event ∈ events, ¬ streams.before event first.event)
    (secondReady : ∀ event ∈ events, streams.before event second.event →
      first.event = event)
    (forward : first.clock ≤ second.clock) :
    Admissible streams events [first, second] := by
  have alone : Admissible streams events ([] ++ [first]) := by
    apply Admissible.concat .nil firstKnown
    · simp
    · intro event known before
      exact absurd before (firstReady event known)
    · simp
  refine Admissible.concat alone secondKnown ?_ ?_ ?_
  · simpa using distinct
  · intro event known before
    exact ⟨first, by simp, secondReady event known before⟩
  · simpa using forward

end Admissible

end Schedules

section Newest

variable [LinearOrder Revision] {streams : StreamOrder Event}
  {revision : Event → Revision} {register : Register Event Clock Row}
  {events : List Event}

theorem exists_newest (revision : Event → Revision)
    {schedule : List (Arrival Event Clock)} (nonempty : schedule ≠ []) :
    ∃ arrival ∈ schedule, ∀ other ∈ schedule,
      revision other.event ≤ revision arrival.event := by
  let key := fun arrival : Arrival Event Clock => revision arrival.event
  cases newest : schedule.argmax key with
  | none => exact absurd (List.argmax_eq_none.mp newest) nonempty
  | some arrival =>
      refine ⟨arrival, List.argmax_mem newest, ?_⟩
      intro other member
      have lower : key other ≤ key arrival :=
        List.le_of_mem_argmax member newest
      exact lower

variable [Preorder Clock]

theorem meets_of_admissible
    {front : List (Arrival Event Clock)} {newest arrival : Arrival Event Clock}
    (admissible : Admissible streams events (front ++ [arrival]))
    (member : newest ∈ front)
    (greatest : ∀ other ∈ front, revision other.event ≤ revision newest.event) :
    Meets streams revision events newest.event arrival.event := by
  obtain ⟨earlier, known, fresh, closed, _⟩ := admissible.concat_inv
  have present : ∀ event ∈ events,
      streams.before event newest.event ∨ streams.before event arrival.event →
      ∃ other ∈ front, other.event = event := by
    intro event inside before
    rcases before with before | before
    · exact earlier.closed member event inside before
    · exact closed event inside before
  constructor
  · exact earlier.mem_events newest member
  · exact known
  · exact fresh newest member
  · intro before
    obtain ⟨other, there, same⟩ := present arrival.event known (.inl before)
    exact fresh other there same
  · intro event inside before
    obtain ⟨other, there, rfl⟩ := present event inside before
    exact (greatest other there).not_gt

/-- Same positions or ascending ones: the order in which a set of events that
contains its predecessors can be scheduled. -/
theorem admissible_of_ascending (clock : Clock)
    {chosen : List Event}
    (ascending : chosen.Pairwise fun first second =>
      streams.position first ≤ streams.position second)
    (distinct : chosen.Nodup)
    (known : ∀ event ∈ chosen, event ∈ events)
    (closed : ∀ event ∈ chosen, ∀ earlier ∈ events,
      streams.before earlier event → earlier ∈ chosen) :
    Admissible streams events
      (chosen.map fun event => (⟨event, clock⟩ : Arrival Event Clock)) := by
  induction chosen using List.reverseRecOn with
  | nil => exact .nil
  | append_singleton front last ih =>
      obtain ⟨ascendingFront, -, below⟩ := List.pairwise_append.mp ascending
      obtain ⟨distinctFront, -, apart⟩ := List.nodup_append.mp distinct
      have placed : ∀ event ∈ front ++ [last], ∀ earlier ∈ events,
          streams.before earlier event → earlier ∈ front := by
        intro event member earlier inside before
        rcases List.mem_append.mp (closed event member earlier inside before)
          with there | there
        · exact there
        · cases List.mem_singleton.mp there
          have lower := streams.position_lt before
          rcases List.mem_append.mp member with member | member
          · have := below event member last (by simp)
            omega
          · cases List.mem_singleton.mp member
            omega
      rw [List.map_append]
      apply Admissible.concat
      · exact ih ascendingFront distinctFront
          (fun event member => known event (List.mem_append_left _ member))
          (fun event member => placed event (List.mem_append_left _ member))
      · exact known last (by simp)
      · intro earlier member
        obtain ⟨event, there, rfl⟩ := List.mem_map.mp member
        exact apart event there last (by simp)
      · intro event inside before
        exact ⟨⟨event, clock⟩,
          List.mem_map_of_mem (placed last (by simp) event inside before), rfl⟩
      · intro earlier member
        obtain ⟨event, -, rfl⟩ := List.mem_map.mp member
        exact le_refl clock

/-- Every pair that meets is met by some schedule: the predecessors of both, in
the order of their positions, and then the second event. -/
theorem exists_schedule_of_meets {first second : Event}
    (meets : Meets streams revision events first second)
    {clock later : Clock} (forward : clock ≤ later) :
    ∃ front : List (Arrival Event Clock),
      Admissible streams events (front ++ [⟨second, later⟩]) ∧
      ⟨first, clock⟩ ∈ front ∧
      ∀ other ∈ front, ¬ revision first < revision other.event := by
  classical
  let relevant := fun event => decide (event = first ∨
    streams.before event first ∨ streams.before event second)
  let ordered := fun left right : Event =>
    decide (streams.position left ≤ streams.position right)
  let chosen := (events.dedup.filter relevant).mergeSort ordered
  have mem_chosen : ∀ event, event ∈ chosen ↔ event ∈ events ∧
      (event = first ∨ streams.before event first ∨
        streams.before event second) := by
    intro event
    simp [chosen, relevant]
  have ascending : chosen.Pairwise fun left right =>
      streams.position left ≤ streams.position right := by
    have sorted : chosen.Pairwise fun left right => ordered left right = true :=
      List.pairwise_mergeSort
        (fun left middle right => by simp [ordered]; omega)
        (fun left right => by simp [ordered]; omega)
        (events.dedup.filter relevant)
    simpa [ordered] using sorted
  have distinct : chosen.Nodup :=
    (List.mergeSort_perm _ _).nodup_iff.mpr
      ((List.nodup_dedup events).filter _)
  have closed : ∀ event ∈ chosen, ∀ earlier ∈ events,
      streams.before earlier event → earlier ∈ chosen := by
    intro event member earlier inside before
    obtain ⟨-, here⟩ := (mem_chosen event).mp member
    apply (mem_chosen earlier).mpr
    refine ⟨inside, .inr ?_⟩
    rcases here with rfl | here | here
    · exact .inl before
    · exact .inl (streams.before_trans before here)
    · exact .inr (streams.before_trans before here)
  have absent : second ∉ chosen := by
    intro member
    obtain ⟨-, same | before | before⟩ := (mem_chosen second).mp member
    · exact meets.distinct same.symm
    · exact meets.unordered before
    · exact streams.before_irrefl second before
  have front := admissible_of_ascending clock ascending distinct
    (fun event member => ((mem_chosen event).mp member).1) closed
  refine ⟨chosen.map fun event => ⟨event, clock⟩, ?_, ?_, ?_⟩
  · apply Admissible.concat front meets.second_mem
    · intro earlier member same
      obtain ⟨event, there, rfl⟩ := List.mem_map.mp member
      have identical : event = second := same
      exact absent (identical ▸ there)
    · intro event inside before
      exact ⟨⟨event, clock⟩, List.mem_map_of_mem
        ((mem_chosen event).mpr ⟨inside, .inr (.inr before)⟩), rfl⟩
    · intro earlier member
      obtain ⟨event, -, rfl⟩ := List.mem_map.mp member
      exact forward
  · exact List.mem_map_of_mem ((mem_chosen first).mpr ⟨meets.first_mem, .inl rfl⟩)
  · intro other member
    obtain ⟨event, there, rfl⟩ := List.mem_map.mp member
    obtain ⟨inside, same | before⟩ := (mem_chosen event).mp there
    · rw [same]
      exact lt_irrefl _
    · exact meets.newest event inside before

/-- The row of every schedule is the one of its newest event, provided rows keep
out exactly the older events they can meet. -/
theorem after_eq_newest
    (decides : Decides streams revision register events)
    {schedule : List (Arrival Event Clock)}
    (admissible : Admissible streams events schedule)
    {newest : Arrival Event Clock} (member : newest ∈ schedule)
    (greatest : ∀ other ∈ schedule,
      revision other.event ≤ revision newest.event)
    (injective : ∀ first ∈ events, ∀ second ∈ events,
      revision first = revision second → first = second) :
    register.after schedule =
      some (register.write newest.event newest.clock) := by
  induction schedule using List.reverseRecOn generalizing newest with
  | nil => simp at member
  | append_singleton front last ih =>
      obtain ⟨earlier, known, fresh, -, clocks⟩ := admissible.concat_inv
      rw [Register.after_concat]
      rcases List.eq_nil_or_concat' front with rfl | ⟨_, _, nonempty⟩
      · cases List.mem_singleton.mp member
        rfl
      · obtain ⟨stored, there, above⟩ :=
          exists_newest revision (nonempty ▸ List.concat_ne_nil _ _ : front ≠ [])
        have meets := meets_of_admissible admissible there above
        have kept := decides _ _ meets _ _ (clocks stored there)
        rw [ih earlier there above]
        simp only [Register.receive]
        by_cases older : revision last.event < revision stored.event
        · rw [if_pos (kept.mpr older)]
          rcases List.mem_append.mp member with member | member
          · exact (ih earlier there above).symm.trans
              (ih earlier member fun other inside =>
                greatest other (List.mem_append_left _ inside))
          · cases List.mem_singleton.mp member
            exact absurd older
              (greatest stored (List.mem_append_left _ there)).not_gt
        · rw [if_neg (fun keeps => older (kept.mp keeps))]
          rcases List.mem_append.mp member with member | member
          · have same := injective _ (earlier.mem_events newest member) _ known
              (le_antisymm ((above newest member).trans (not_lt.mp older))
                (greatest last (by simp)))
            exact absurd same (fresh newest member)
          · cases List.mem_singleton.mp member
            rfl

theorem content_eq_of_perm {Content : Type*} {content : Row → Content}
    (decides : Decides streams revision register events)
    (injective : ∀ first ∈ events, ∀ second ∈ events,
      revision first = revision second → first = second)
    (clockless : ∀ event ∈ events, ∀ clock later : Clock,
      content (register.write event clock) =
        content (register.write event later))
    {left right : List (Arrival Event Clock)}
    (leftAdmissible : Admissible streams events left)
    (rightAdmissible : Admissible streams events right)
    (permutation : (left.map Arrival.event).Perm (right.map Arrival.event)) :
    (register.after left).map content = (register.after right).map content := by
  by_cases empty : left = []
  · subst empty
    have none : right = [] := by simpa using permutation.symm
    rw [none]
  · obtain ⟨first, member, greatest⟩ := exists_newest revision empty
    obtain ⟨second, there, same⟩ : ∃ second ∈ right,
        second.event = first.event := by
      simpa using permutation.mem_iff.mp (List.mem_map_of_mem member)
    have above : ∀ other ∈ right,
        revision other.event ≤ revision second.event := by
      intro other inside
      obtain ⟨twin, present, identical⟩ : ∃ twin ∈ left,
          twin.event = other.event := by
        simpa using permutation.mem_iff.mpr (List.mem_map_of_mem inside)
      rw [same, ← identical]
      exact greatest twin present
    rw [after_eq_newest decides leftAdmissible member greatest injective,
      after_eq_newest decides rightAdmissible there above injective, same]
    simp only [Option.map_some]
    rw [clockless _ (leftAdmissible.mem_events first member)]

theorem converges_iff {Content : Type*} {content : Row → Content}
    (injective : ∀ first ∈ events, ∀ second ∈ events,
      revision first = revision second → first = second)
    (clockless : ∀ event ∈ events, ∀ clock later : Clock,
      content (register.write event clock) =
        content (register.write event later)) :
    Converges streams revision register content events ↔
      Decides streams revision register events := by
  constructor
  · intro converges first second meets clock later forward
    obtain ⟨front, admissible, member, greatest⟩ :=
      exists_schedule_of_meets meets forward
    have row := converges.newestWins front admissible.concat_inv.1 _ member
      greatest
    rw [converges.olderKeptOut front _ _ admissible row]
    constructor
    · intro newer
      obtain ⟨other, there, above⟩ := newer
      exact above.trans_le (not_lt.mp (greatest other there))
    · intro older
      exact ⟨_, member, older⟩
  · intro decides
    constructor
    · intro left right leftAdmissible rightAdmissible permutation
      exact content_eq_of_perm decides injective clockless leftAdmissible
        rightAdmissible permutation
    · intro schedule admissible arrival member greatest
      exact after_eq_newest decides admissible member
        (fun other there => not_lt.mp (greatest other there)) injective
    · intro front arrival row admissible stored
      have nonempty : front ≠ [] := by
        intro empty
        simp [empty] at stored
      obtain ⟨newest, member, greatest⟩ := exists_newest revision nonempty
      obtain ⟨earlier, -, -, -, clocks⟩ := admissible.concat_inv
      rw [after_eq_newest decides earlier member greatest injective] at stored
      cases stored
      rw [decides _ _ (meets_of_admissible admissible member greatest) _ _
        (clocks newest member)]
      constructor
      · intro older
        exact ⟨newest, member, older⟩
      · intro newer
        obtain ⟨other, there, above⟩ := newer
        exact above.trans_le (greatest other there)

end Newest

end Elektrine.Library.LastWriter
