import Elektrine.Data.Enum
import Elektrine.Email.UnreadBadges
import Elektrine.Library.Pages
import Mathlib.Algebra.BigOperators.Group.List.Basic
import Mathlib.Algebra.GroupWithZero.Nat

/-!
# The pages of the inbox

The inbox lists conversations.  A query groups the messages in scope by a key, a second one
takes a page of the groups, and a third one reads the newest message of each key of the
page.
-/

namespace Elektrine.Email.InboxPages

open Elektrine.Library

structure InboxRow extends MessageRow where
  insertedAt : Nat
  hasAttachments : Option Bool
  deriving DecidableEq

def inboxFamilyScope (rows : List InboxRow) (filters : Option CategoryFilters)
    (mailboxId : Nat) : List InboxRow :=
  rows.filter fun row =>
    row.mailboxId == mailboxId && row.inPlace && (row.incoming || row.selfSent) &&
      row.outside (inboxExcludedCategories filters) && row.replyLaterAt.isNone &&
      row.folderId.isNone

/-- The fragment `case when thread_id is not null and thread_id > 0 then thread_id else
-id end` of the queries, and `inbox_family_thread_key`. -/
def inboxFamilyThreadKey (row : InboxRow) : Int :=
  match row.threadId with
  | some threadId => if 0 < threadId then threadId else -row.id
  | none => -row.id

def largest (numbers : List Nat) : Nat :=
  numbers.foldr (fun first second => if first ≤ second then second else first) 0

/-- `bool_or`, which skips null. -/
def boolOr (values : List (Option Bool)) : Option Bool :=
  match values.filterMap id with
  | [] => none
  | known => some (known.any id)

structure ThreadGroup where
  key : Int
  latestAt : Nat
  latestId : Nat
  count : Nat
  unreadCount : Nat
  hasAttachments : Option Bool

def groupOf (scope : List InboxRow) (key : Int) : ThreadGroup :=
  let rows := scope.filter fun row => inboxFamilyThreadKey row == key
  { key := key
    latestAt := largest (rows.map InboxRow.insertedAt)
    latestId := largest (rows.map fun row => row.id)
    count := rows.length
    unreadCount := (rows.filter fun row => row.unread).length
    hasAttachments := boolOr (rows.map InboxRow.hasAttachments) }

inductive ThreadFilter where
  | all
  | unread
  | read

def ThreadFilter.keeps : ThreadFilter → ThreadGroup → Bool
  | .all, _ => true
  | .unread, group => 0 < group.unreadCount
  | .read, group => group.unreadCount == 0

def groups (scope : List InboxRow) (threadFilter : ThreadFilter) : List ThreadGroup :=
  ((scope.map inboxFamilyThreadKey).eraseDups.map (groupOf scope)).filter threadFilter.keeps

/-- `order_by: [desc: g.latest_at, desc: g.latest_id]` -/
def latestFirst (first second : ThreadGroup) : Bool :=
  second.latestAt < first.latestAt ||
    second.latestAt == first.latestAt && second.latestId ≤ first.latestId

/-- `order_by: [asc: key, desc: m.inserted_at, desc: m.id]` -/
def headOrder (first second : InboxRow) : Bool :=
  inboxFamilyThreadKey first < inboxFamilyThreadKey second ||
    inboxFamilyThreadKey first == inboxFamilyThreadKey second &&
      (second.insertedAt < first.insertedAt ||
        second.insertedAt == first.insertedAt && second.id ≤ first.id)

/-- `distinct: key` keeps the first row of each key. -/
def distinctOnKey : List InboxRow → List InboxRow
  | [] => []
  | row :: rows =>
      row :: (distinctOnKey rows).filter fun other =>
        inboxFamilyThreadKey other != inboxFamilyThreadKey row

def inboxFamilyHeads (scope : List InboxRow) (keys : List Int) : List InboxRow :=
  distinctOnKey
    ((scope.filter fun row => keys.contains (inboxFamilyThreadKey row)).mergeSort headOrder)

structure Listed where
  head : InboxRow
  threadMessageCount : Nat
  threadUnreadCount : Nat
  threadHasUnread : Bool
  threadHasAttachments : Option Bool
  deriving DecidableEq

def withTotals (group : ThreadGroup) (head : InboxRow) : Listed :=
  ⟨head, group.count, group.unreadCount, 0 < group.unreadCount, group.hasAttachments⟩

structure Listing where
  messages : List Listed
  page : Nat
  perPage : Nat
  totalCount : Nat
  totalPages : Nat
  hasNext : Bool
  hasPrev : Bool

def listInboxFamilyPaginated (rows : List InboxRow) (filters : Option CategoryFilters)
    (mailboxId : Nat) (page : Int) (perPage : Nat) (threadFilter : ThreadFilter) : Listing :=
  let page := if page < 1 then 1 else page.toNat
  let scope := inboxFamilyScope rows filters mailboxId
  let groups := groups scope threadFilter
  let pageGroups := Library.page perPage (page - 1) (groups.mergeSort latestFirst)
  let heads := inboxFamilyHeads scope (pageGroups.map ThreadGroup.key)
  let messages := pageGroups.filterMap fun group =>
    (heads.find? fun head => inboxFamilyThreadKey head == group.key).map (withTotals group)
  let totalPages := if 0 < groups.length then pageCount perPage groups.length else 0
  { messages := messages
    page := page
    perPage := perPage
    totalCount := groups.length
    totalPages := totalPages
    hasNext := page < totalPages
    hasPrev := 1 < page }

/-- The pages 1 to `total_pages`, one after the other. -/
def allPages (rows : List InboxRow) (filters : Option CategoryFilters) (mailboxId perPage : Nat)
    (threadFilter : ThreadFilter) : List Listed :=
  (List.range (listInboxFamilyPaginated rows filters mailboxId 1 perPage
    threadFilter).totalPages).flatMap fun (number : Nat) =>
      (listInboxFamilyPaginated rows filters mailboxId (number + 1) perPage
        threadFilter).messages

structure MessageTable where
  rows : List InboxRow
  distinct : (rows.map fun row => row.id).Nodup
  positive : ∀ row ∈ rows, 0 < row.id

/-! ## Conversations -/

/-- The first row is the newer one, by its time and then by its id. -/
def NewerOrSame (first second : InboxRow) : Prop :=
  second.insertedAt < first.insertedAt ∨
    second.insertedAt = first.insertedAt ∧ second.id ≤ first.id

variable {rows scope : List InboxRow}

structure IsHead (rows : List InboxRow) (key : Int) (head : InboxRow) : Prop where
  member : head ∈ rows
  key_eq : inboxFamilyThreadKey head = key
  newest : ∀ row ∈ rows, inboxFamilyThreadKey row = key → NewerOrSame head row

theorem headOrder_trans (first second third : InboxRow) :
    headOrder first second → headOrder second third → headOrder first third := by
  simp only [headOrder, Bool.or_eq_true, Bool.and_eq_true, decide_eq_true_eq, beq_iff_eq]
  omega

theorem headOrder_total (first second : InboxRow) :
    (headOrder first second || headOrder second first) = true := by
  simp only [headOrder, Bool.or_eq_true, Bool.and_eq_true, decide_eq_true_eq, beq_iff_eq]
  omega

theorem find_distinctOnKey (rows : List InboxRow) (key : Int) :
    (distinctOnKey rows).find? (fun row => inboxFamilyThreadKey row == key) =
      rows.find? fun row => inboxFamilyThreadKey row == key := by
  induction rows with
  | nil => rfl
  | cons row rows ih =>
      rw [distinctOnKey, List.find?_cons, List.find?_cons]
      cases here : inboxFamilyThreadKey row == key with
      | true => rfl
      | false =>
          have kept : ∀ other : InboxRow, (inboxFamilyThreadKey other == key) = true →
              (inboxFamilyThreadKey other != inboxFamilyThreadKey row) = true := by
            intro other found
            rw [eq_of_beq found, bne_iff_ne]
            intro same
            rw [← same, beq_self_eq_true] at here
            cases here
          rw [← ih, List.find?_filter]
          apply congrArg fun test => List.find? test (distinctOnKey rows)
          funext other
          cases found : inboxFamilyThreadKey other == key with
          | false => simp
          | true => simp only [kept other found, and_self, decide_true]

theorem isHead_of_find {key : Int} {head : InboxRow}
    (found : (rows.mergeSort headOrder).find? (fun row => inboxFamilyThreadKey row == key) =
      some head) : IsHead rows key head := by
  obtain ⟨here, front, back, split, before⟩ := List.find?_eq_some_iff_append.mp found
  have sorted := List.pairwise_mergeSort headOrder_trans headOrder_total rows
  rw [split, List.pairwise_append, List.pairwise_cons] at sorted
  have same := eq_of_beq here
  have listed : ∀ row, row ∈ rows ↔ row ∈ front ++ head :: back := by
    intro row
    rw [← split, List.mem_mergeSort]
  refine ⟨(listed head).mpr (by simp), same, ?_⟩
  intro row member keyed
  rcases List.mem_append.mp ((listed row).mp member) with earlier | later
  · have missed := before row earlier
    rw [keyed, beq_self_eq_true] at missed
    cases missed
  · rcases List.mem_cons.mp later with here | later
    · rw [here]
      exact Or.inr ⟨rfl, Nat.le_refl _⟩
    · have ordered := sorted.2.1.1 row later
      simp only [headOrder, same, keyed, Bool.or_eq_true, Bool.and_eq_true, decide_eq_true_eq,
        beq_iff_eq] at ordered
      unfold NewerOrSame
      omega

theorem find_isSome_of_key {key : Int} {row : InboxRow} (member : row ∈ rows)
    (keyed : inboxFamilyThreadKey row = key) :
    ∃ head, (rows.mergeSort headOrder).find?
      (fun row => inboxFamilyThreadKey row == key) = some head := by
  apply Option.isSome_iff_exists.mp
  apply List.find?_isSome.mpr
  exact ⟨row, List.mem_mergeSort.mpr member, beq_iff_eq.mpr keyed⟩

theorem IsHead.unique {key : Int} {first second : InboxRow}
    (distinct : (rows.map fun row => row.id).Nodup) (one : IsHead rows key first)
    (other : IsHead rows key second) : first = second := by
  have forth := one.newest second other.member other.key_eq
  have back := other.newest first one.member one.key_eq
  apply List.inj_on_of_nodup_map distinct one.member other.member
  unfold NewerOrSame at forth back
  omega

theorem find_heads {scope : List InboxRow} {keys : List Int} {key : Int} {row : InboxRow}
    (asked : key ∈ keys) (member : row ∈ scope) (keyed : inboxFamilyThreadKey row = key) :
    ∃ head, IsHead scope key head ∧
      (inboxFamilyHeads scope keys).find? (fun row => inboxFamilyThreadKey row == key) =
        some head := by
  have picked : ∀ row : InboxRow, inboxFamilyThreadKey row = key →
      keys.contains (inboxFamilyThreadKey row) = true := by
    intro row keyed
    rw [keyed]
    exact List.contains_iff_mem.mpr asked
  have kept : row ∈ scope.filter fun row => keys.contains (inboxFamilyThreadKey row) :=
    List.mem_filter.mpr ⟨member, picked row keyed⟩
  obtain ⟨head, found⟩ := find_isSome_of_key kept keyed
  have newest := isHead_of_find found
  refine ⟨head, ⟨(List.mem_filter.mp newest.member).1, newest.key_eq, ?_⟩, ?_⟩
  · intro other inside keyed
    exact newest.newest other (List.mem_filter.mpr ⟨inside, picked other keyed⟩) keyed
  · rw [inboxFamilyHeads, find_distinctOnKey]
    exact found

/-! ## The listing -/

theorem mem_groups_iff {threadFilter : ThreadFilter} {group : ThreadGroup} :
    group ∈ groups scope threadFilter ↔
      (∃ row ∈ scope, groupOf scope (inboxFamilyThreadKey row) = group) ∧
        threadFilter.keeps group = true := by
  simp [groups, List.mem_eraseDups]

/-- What the listing shows for a group. -/
def Shows (scope : List InboxRow) (group : ThreadGroup) (listed : Listed) : Prop :=
  group = groupOf scope group.key ∧
    ∃ head, IsHead scope group.key head ∧ listed = withTotals group head

theorem Shows.head {group : ThreadGroup} {listed : Listed} (shows : Shows scope group listed) :
    IsHead scope group.key listed.head := by
  obtain ⟨_, head, newest, same⟩ := shows
  rw [same]
  exact newest

theorem filterMap_shows {groups : List ThreadGroup}
    {find : ThreadGroup → Option Listed}
    (found : ∀ group ∈ groups, ∃ listed, find group = some listed ∧ Shows scope group listed) :
    List.Forall₂ (Shows scope) groups (groups.filterMap find) := by
  induction groups with
  | nil => exact .nil
  | cons group groups ih =>
      obtain ⟨listed, here, shows⟩ := found group List.mem_cons_self
      rw [List.filterMap_cons_some here]
      exact .cons shows (ih fun other member => found other (List.mem_cons_of_mem _ member))

theorem forall₂_flatMap {α : Type} {before : α → List ThreadGroup} {after : α → List Listed}
    (numbers : List α)
    (each : ∀ number ∈ numbers, List.Forall₂ (Shows scope) (before number) (after number)) :
    List.Forall₂ (Shows scope) (numbers.flatMap before) (numbers.flatMap after) := by
  induction numbers with
  | nil => exact .nil
  | cons number numbers ih =>
      rw [List.flatMap_cons, List.flatMap_cons]
      exact List.rel_append (each number List.mem_cons_self)
        (ih fun other member => each other (List.mem_cons_of_mem _ member))

section

variable {table : MessageTable} {filters : Option CategoryFilters} {mailboxId perPage : Nat}
  {threadFilter : ThreadFilter}

theorem messages_shows (number : Nat) :
    List.Forall₂ (Shows (inboxFamilyScope table.rows filters mailboxId))
      (page perPage number ((groups (inboxFamilyScope table.rows filters mailboxId)
        threadFilter).mergeSort latestFirst))
      (listInboxFamilyPaginated table.rows filters mailboxId (number + 1) perPage
        threadFilter).messages := by
  have later : ¬ ((number : Int) + 1 < 1) := by omega
  have same : ((number : Int) + 1).toNat - 1 = number := by omega
  simp only [listInboxFamilyPaginated, if_neg later, same]
  apply filterMap_shows
  intro group member
  have listed := List.mem_mergeSort.mp (List.mem_of_mem_drop (List.mem_of_mem_take member))
  obtain ⟨⟨row, inside, grouped⟩, _⟩ := mem_groups_iff.mp listed
  have keyed : inboxFamilyThreadKey row = group.key := by
    rw [← grouped]
    rfl
  obtain ⟨head, newest, found⟩ := find_heads (List.mem_map_of_mem member) inside keyed
  refine ⟨withTotals group head, ?_, ?_, head, newest, rfl⟩
  · rw [found]
    rfl
  · rw [← keyed]
    exact grouped.symm

theorem allPages_shows (positive : 0 < perPage) :
    List.Forall₂ (Shows (inboxFamilyScope table.rows filters mailboxId))
      ((groups (inboxFamilyScope table.rows filters mailboxId) threadFilter).mergeSort
        latestFirst)
      (allPages table.rows filters mailboxId perPage threadFilter) := by
  have count : (listInboxFamilyPaginated table.rows filters mailboxId 1 perPage
      threadFilter).totalPages =
        pageCount perPage ((groups (inboxFamilyScope table.rows filters mailboxId)
          threadFilter).mergeSort latestFirst).length := by
    rw [List.length_mergeSort]
    apply ite_eq_left_iff.mpr
    intro empty
    rw [Nat.eq_zero_of_not_pos empty, pageCount]
    exact (Nat.div_eq_of_lt (by omega)).symm
  rw [allPages, count]
  have whole := forall₂_flatMap
    (List.range (pageCount perPage ((groups (inboxFamilyScope table.rows filters mailboxId)
      threadFilter).mergeSort latestFirst).length))
    fun number _ => @messages_shows table filters mailboxId perPage threadFilter number
  rw [flatMap_pages positive] at whole
  exact whole

section

variable {α β : Type} {relates : α → β → Prop} {front : List α} {back : List β}

end

def twoThreads : MessageTable where
  rows := [
    { receivedRow 1 with insertedAt := 5, hasAttachments := some false },
    { receivedRow 2 with threadId := some 7, insertedAt := 5, hasAttachments := none },
    { receivedRow 3 with threadId := some 7, insertedAt := 4, hasAttachments := some true }]
  distinct := by decide
  positive := by decide

theorem sum_map_keyed {keys : List Int} (unique : keys.Nodup) {rows : List InboxRow}
    (known : ∀ row ∈ rows, inboxFamilyThreadKey row ∈ keys) :
    (keys.map fun key => (rows.filter fun row =>
      inboxFamilyThreadKey row == key).length).sum = rows.length := by
  induction rows with
  | nil => simp
  | cons row rows ih =>
      have split : ∀ key : Int, ((row :: rows).filter fun row =>
          inboxFamilyThreadKey row == key).length =
            (if key = inboxFamilyThreadKey row then 1 else 0) +
              (rows.filter fun row => inboxFamilyThreadKey row == key).length := by
        intro key
        by_cases same : key = inboxFamilyThreadKey row
        · rw [if_pos same, List.filter_cons, if_pos (beq_iff_eq.mpr same.symm),
            List.length_cons, Nat.add_comm]
        · rw [if_neg same, List.filter_cons, if_neg (by simpa using Ne.symm same), Nat.zero_add]
      have own : ∀ keys : List Int, (keys.map fun key =>
          if key = inboxFamilyThreadKey row then 1 else 0).sum =
            keys.count (inboxFamilyThreadKey row) := by
        intro keys
        induction keys with
        | nil => rfl
        | cons key keys ih => simp [ih, List.count_cons, Nat.add_comm]
      simp only [split]
      rw [List.sum_map_add, own, List.count_eq_one_of_mem unique (known row List.mem_cons_self),
        ih fun other member => known other (List.mem_cons_of_mem row member),
        List.length_cons, Nat.add_comm]

theorem groups_all (scope : List InboxRow) :
    groups scope .all = (scope.map inboxFamilyThreadKey).eraseDups.map (groupOf scope) :=
  List.filter_eq_self.mpr fun _ _ => rfl

theorem sum_map_groups (scope : List InboxRow) (total : InboxRow → Bool)
    {count : ThreadGroup → Nat} (counted : ∀ key, count (groupOf scope key) =
      ((scope.filter fun row => inboxFamilyThreadKey row == key).filter total).length) :
    ((groups scope .all).map count).sum = (scope.filter total).length := by
  have same : (groups scope .all).map count =
      (scope.map inboxFamilyThreadKey).eraseDups.map fun key =>
        ((scope.filter total).filter fun row => inboxFamilyThreadKey row == key).length := by
    rw [groups_all, List.map_map]
    apply List.map_congr_left
    intro key _
    rw [Function.comp_apply, counted, List.filter_comm]
  rw [same]
  apply sum_map_keyed (nodup_eraseDups _)
  intro row member
  exact List.mem_eraseDups.mpr (List.mem_map_of_mem (List.mem_filter.mp member).1)

theorem sum_map_unread (groups : List ThreadGroup) :
    ((groups.filter ThreadFilter.unread.keeps).map ThreadGroup.unreadCount).sum =
      (groups.map ThreadGroup.unreadCount).sum := by
  induction groups with
  | nil => rfl
  | cons group groups ih =>
      rw [List.filter_cons]
      rcases Nat.eq_zero_or_pos group.unreadCount with none | some
      · have left : ThreadFilter.unread.keeps group = false := by
          rw [ThreadFilter.keeps, none]
          rfl
        rw [left, if_neg Bool.false_ne_true, ih, List.map_cons, List.sum_cons, none, Nat.zero_add]
      · have kept : ThreadFilter.unread.keeps group = true := decide_eq_true some
        rw [if_pos kept, List.map_cons, List.map_cons, List.sum_cons,
          List.sum_cons, ih]

theorem map_of_shows {scope : List InboxRow} {groups : List ThreadGroup} {pages : List Listed}
    (shown : List.Forall₂ (Shows scope) groups pages) :
    pages.map Listed.threadMessageCount = groups.map ThreadGroup.count ∧
      pages.map Listed.threadUnreadCount = groups.map ThreadGroup.unreadCount := by
  induction shown with
  | nil => exact ⟨rfl, rfl⟩
  | cons here _ ih =>
      obtain ⟨_, head, _, same⟩ := here
      rw [same, List.map_cons, List.map_cons, List.map_cons, List.map_cons, ih.1, ih.2]
      exact ⟨rfl, rfl⟩

/-- The totals that are shown with the conversations account for every message of the
inbox, and the unread listing for every unread one. -/
theorem thread_totals (table : MessageTable) (filters : Option CategoryFilters)
    (mailboxId perPage : Nat) (positive : 0 < perPage) :
    ((allPages table.rows filters mailboxId perPage .all).map
        Listed.threadMessageCount).sum =
      (inboxFamilyScope table.rows filters mailboxId).length ∧
    ∀ threadFilter, threadFilter ≠ .read →
      ((allPages table.rows filters mailboxId perPage threadFilter).map
          Listed.threadUnreadCount).sum =
        ((inboxFamilyScope table.rows filters mailboxId).filter fun row => row.unread).length := by
  have shown := fun threadFilter =>
    map_of_shows (@allPages_shows table filters mailboxId perPage threadFilter positive)
  have sorted := fun threadFilter =>
    List.mergeSort_perm (groups (inboxFamilyScope table.rows filters mailboxId) threadFilter)
      latestFirst
  have unread := sum_map_groups (inboxFamilyScope table.rows filters mailboxId)
    (fun row => row.unread) (fun _ => rfl : ∀ key, ThreadGroup.unreadCount _ = _)
  constructor
  · rw [(shown .all).1, ((sorted .all).map _).sum_eq]
    have counted : ∀ key, (groupOf (inboxFamilyScope table.rows filters mailboxId) key).count =
        (((inboxFamilyScope table.rows filters mailboxId).filter fun row =>
          inboxFamilyThreadKey row == key).filter fun _ => true).length := by
      intro key
      rw [List.filter_true]
      rfl
    rw [sum_map_groups _ _ counted, List.filter_true]
  · intro threadFilter other
    rw [(shown threadFilter).2, ((sorted threadFilter).map _).sum_eq]
    cases threadFilter with
    | all => exact unread
    | unread =>
        rw [← unread, groups_all]
        exact sum_map_unread _
    | read => exact absurd rfl other

theorem thread_totals_twoThreads :
    ((allPages twoThreads.rows none 1 1 .all).map Listed.threadMessageCount).sum = 3 :=
  (thread_totals twoThreads none 1 1 (by decide)).1

end

end Elektrine.Email.InboxPages
