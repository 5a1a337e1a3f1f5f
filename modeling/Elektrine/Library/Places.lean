import Mathlib.Data.List.Basic
import Mathlib.Data.List.Induction
import Mathlib.Data.List.InsertIdx
import Mathlib.Data.List.Sort

/-!
# Lists that change at one place

The items of a list of processes, whose places never change: one of them is replaced, or a
new one comes last.
-/

namespace Elektrine.Library

universe u

variable {Item : Type u} {items : List Item} {item other next : Item} {index place : Nat}

theorem getElem?_set_cases (found : (items.set index next)[place]? = some other) :
    place = index ∧ other = next ∨ place ≠ index ∧ items[place]? = some other := by
  rw [List.getElem?_set] at found
  by_cases same : index = place
  · rw [if_pos same] at found
    split at found
    · exact Or.inl ⟨same.symm, (Option.some.inj found).symm⟩
    · cases found
  · rw [if_neg same] at found
    exact Or.inr ⟨fun equal => same equal.symm, found⟩

theorem mem_set_cases (member : other ∈ items.set index next) : other = next ∨ other ∈ items :=
  (List.mem_or_eq_of_mem_set member).symm

theorem mem_set_self (found : items[index]? = some item) : next ∈ items.set index next := by
  obtain ⟨bound, -⟩ := List.getElem?_eq_some_iff.mp found
  exact List.mem_set bound next

theorem mem_set_or_eq (found : items[index]? = some item) (member : other ∈ items) :
    other ∈ items.set index next ∨ other = item := by
  obtain ⟨place, at_place⟩ := List.mem_iff_getElem?.mp member
  by_cases same : place = index
  · rw [same, found] at at_place
    exact Or.inr (Option.some.inj at_place).symm
  · left
    apply List.mem_of_getElem? (i := place)
    rw [List.getElem?_set_ne (fun equal => same equal.symm)]
    exact at_place

theorem getElem?_concat_cases (found : (items ++ [next])[place]? = some other) :
    items[place]? = some other ∨ other = next := by
  by_cases inside : place < items.length
  · rw [List.getElem?_append_left inside] at found
    exact Or.inl found
  · rw [List.getElem?_append_right (Nat.le_of_not_lt inside)] at found
    exact Or.inr (List.mem_singleton.mp (List.mem_of_getElem? found))

end Elektrine.Library

/-!
## Erasing by position

A list of which items are removed one after the other, each by its current position
counted from one.  Announced from the last position to the first, or each position
lowered by the number of removals before it, the removals leave the items that were not
picked.  Two lists in ascending order are compared by their members.
-/

namespace Elektrine.Library

universe u

variable {Item : Type u}

def eraseAt (items : List Item) (position : Nat) : Option (List Item) :=
  if 1 ≤ position ∧ position ≤ items.length then some (items.eraseIdx (position - 1))
  else none

def eraseEach : List Nat → List Item → Option (List Item)
  | [], items => some items
  | position :: positions, items => (eraseAt items position).bind (eraseEach positions)

theorem eraseAt_append {items left : List Item} {position : Nat}
    (erased : eraseAt items position = some left) (back : List Item) :
    eraseAt (items ++ back) position = some (left ++ back) := by
  unfold eraseAt at erased ⊢
  split at erased
  · rename_i within
    cases erased
    rw [if_pos, List.eraseIdx_append_of_lt_length]
    · omega
    · rw [List.length_append]
      omega
  · cases erased

theorem eraseEach_append {positions : List Nat} {items left : List Item}
    (erased : eraseEach positions items = some left) (back : List Item) :
    eraseEach positions (items ++ back) = some (left ++ back) := by
  induction positions generalizing items with
  | nil =>
      cases erased
      rfl
  | cons position positions ih =>
      obtain ⟨middle, first, rest⟩ := Option.bind_eq_some_iff.mp erased
      rw [eraseEach, eraseAt_append first, Option.bind_some]
      exact ih rest

theorem eraseAt_middle (front back : List Item) (item : Item) :
    eraseAt (front ++ item :: back) (front.length + 1) = some (front ++ back) := by
  unfold eraseAt
  rw [if_pos, Nat.add_sub_cancel, List.eraseIdx_append_of_length_le (Nat.le_refl _),
    Nat.sub_self, List.eraseIdx_cons_zero]
  rw [List.length_append, List.length_cons]
  omega

def unpicked (pick : Item × Nat → Bool) (items : List Item) (start : Nat) : List Item :=
  ((items.zipIdx start).filter fun entry => !pick entry).map Prod.fst

def picked (pick : Item × Nat → Bool) (items : List Item) (start : Nat) : List Nat :=
  ((items.zipIdx start).filter pick).map Prod.snd

section
variable {pick : Item × Nat → Bool}

theorem eraseEach_reverse_picked (items : List Item) :
    eraseEach (picked pick items 1).reverse items = some (unpicked pick items 1) := by
  induction items using List.reverseRecOn with
  | nil => rfl
  | append_singleton items item ih =>
      unfold picked unpicked at ih ⊢
      rw [List.zipIdx_append, List.zipIdx_singleton, List.filter_append,
        List.filter_append, List.map_append, List.map_append, List.reverse_append]
      cases chosen : pick (item, 1 + items.length) with
      | false =>
          have none_more : [(item, 1 + items.length)].filter pick = [] := by
            rw [List.filter_cons, chosen]
            rfl
          have kept : [(item, 1 + items.length)].filter (fun entry => !pick entry) =
              [(item, 1 + items.length)] := by
            rw [List.filter_cons, chosen]
            rfl
          rw [none_more, kept]
          exact eraseEach_append ih [item]
      | true =>
          have one_more : [(item, 1 + items.length)].filter pick =
              [(item, 1 + items.length)] := by
            rw [List.filter_cons, chosen]
            rfl
          have dropped : [(item, 1 + items.length)].filter (fun entry => !pick entry) =
              [] := by
            rw [List.filter_cons, chosen]
            rfl
          have last : eraseAt (items ++ [item]) (1 + items.length) = some items := by
            rw [Nat.add_comm, eraseAt_middle, List.append_nil]
          rw [one_more, dropped, List.map_nil, List.append_nil]
          change (eraseAt (items ++ [item]) (1 + items.length)).bind _ = _
          rw [last]
          exact ih

def lowered (positions : List Nat) (count : Nat) : List Nat :=
  (positions.zipIdx count).map fun entry => entry.1 - entry.2

theorem eraseEach_lowered_picked_behind (front items : List Item) (count : Nat) :
    eraseEach (lowered (picked pick items (front.length + 1 + count)) count)
        (front ++ items) =
      some (front ++ unpicked pick items (front.length + 1 + count)) := by
  induction items generalizing front count with
  | nil => rfl
  | cons item items ih =>
      unfold picked unpicked lowered at ih ⊢
      rw [List.zipIdx_cons, List.filter_cons, List.filter_cons]
      cases chosen : pick (item, front.length + 1 + count) with
      | false =>
          have later := ih (front ++ [item]) count
          have moved : (front ++ [item]).length + 1 + count =
              front.length + 1 + count + 1 := by
            rw [List.length_append, List.length_singleton]
            omega
          rw [moved, List.append_assoc, List.append_assoc] at later
          exact later
      | true =>
          have later := ih front (count + 1)
          have here : front.length + 1 + count - count = front.length + 1 := by omega
          rw [← Nat.add_assoc] at later
          rw [if_pos rfl, List.map_cons, List.zipIdx_cons, List.map_cons, here, eraseEach,
            eraseAt_middle]
          exact later

theorem eraseEach_lowered_picked (items : List Item) :
    eraseEach (lowered (picked pick items 1) 0) items = some (unpicked pick items 1) :=
  eraseEach_lowered_picked_behind [] items 0

end

theorem eraseEach_map {Other : Type*} (f : Item → Other) {positions : List Nat}
    {items left : List Item} (erased : eraseEach positions items = some left) :
    eraseEach positions (items.map f) = some (left.map f) := by
  induction positions generalizing items with
  | nil =>
      cases erased
      rfl
  | cons position positions ih =>
      obtain ⟨middle, first, rest⟩ := Option.bind_eq_some_iff.mp erased
      have mapped : eraseAt (items.map f) position = some (middle.map f) := by
        unfold eraseAt at first ⊢
        rw [List.length_map]
        split at first
        · rename_i within
          cases first
          rw [if_pos within, List.eraseIdx_map]
        · cases first
      rw [eraseEach, mapped, Option.bind_some]
      exact ih rest

theorem eq_of_pairwise {Before : Item → Item → Prop}
    (strict : ∀ first second, Before first second → ¬Before second first)
    {first second : List Item} (firstOrdered : first.Pairwise Before)
    (secondOrdered : second.Pairwise Before)
    (same : ∀ item, item ∈ first ↔ item ∈ second) : first = second := by
  have distinct : ∀ {items : List Item}, items.Pairwise Before → items.Nodup := by
    intro items ordered
    apply ordered.imp
    intro left right before equal
    rw [equal] at before
    exact strict right right before before
  apply List.Perm.eq_of_pairwise
  · intro left right _ _ before after
    exact absurd after (strict left right before)
  · exact firstOrdered
  · exact secondOrdered
  · exact (List.perm_ext_iff_of_nodup (distinct firstOrdered)
      (distinct secondOrdered)).mpr same

section
variable {Order : Type*} [LinearOrder Order]

theorem prefix_of_ascending {first second : List Order}
    (firstAscends : first.Pairwise (· < ·)) (secondAscends : second.Pairwise (· < ·))
    (kept : ∀ item ∈ first, item ∈ second)
    (behind : ∀ item ∈ second, item ∉ first → ∀ other ∈ first, other < item) :
    first <+: second := by
  refine ⟨second.filter fun item => item ∉ first, ?_⟩
  apply eq_of_pairwise fun (left right : Order) (below : left < right) => lt_asymm below
  · rw [List.pairwise_append]
    refine ⟨firstAscends, secondAscends.sublist List.filter_sublist, ?_⟩
    intro other otherMember item member
    obtain ⟨listed, fresh⟩ := List.mem_filter.mp member
    exact behind item listed (of_decide_eq_true fresh) other otherMember
  · exact secondAscends
  · intro item
    rw [List.mem_append, List.mem_filter, decide_eq_true_iff]
    constructor
    · intro member
      rcases member with old | new
      · exact kept item old
      · exact new.1
    · intro member
      by_cases old : item ∈ first
      · exact Or.inl old
      · exact Or.inr ⟨member, old⟩

end

end Elektrine.Library
