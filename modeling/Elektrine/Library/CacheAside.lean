import Elektrine.Library.Runs

/-!
# A cache beside a store

A reader takes a value from the cache; where it is missing, a query is run on the store
and its result is put into the cache, also for the readers that have come meanwhile.  A
writer changes the store and then deletes the keys it knows of and those it finds.  Each
value is kept with the number of writes that its query has seen, which nothing but the
question whether a reader has missed a write looks at.
-/

namespace Elektrine.Library

namespace CacheAside

inductive Chore (Key Pattern : Type) where
  | delete (key : Key)
  | scan (pattern : Pattern)

structure Entry (Key Value : Type) where
  key : Key
  value : Value
  seen : Nat

structure Write (Key Pattern : Type) where
  changes : Key → Bool
  chores : List (Chore Key Pattern)

/-- A query on its way, with the result it has had and the readers that wait for it; for
each reader, the writes that had returned when it came. -/
structure Fetch (Key Value : Type) where
  key : Key
  result : Option (Value × Nat)
  readers : List (Nat → Bool)

structure Answer (Key Value : Type) where
  entry : Entry Key Value
  before : Nat → Bool

structure State (Key Pattern Store Value : Type) where
  store : Store
  cache : List (Entry Key Value)
  fetches : List (Fetch Key Value)
  writes : List (Write Key Pattern)
  answers : List (Answer Key Value)

inductive Move (Key Pattern Store : Type) where
  | write (effect : Store → Store) (chores : List (Chore Key Pattern))
  | work (index : Nat)
  | hit (key : Key)
  /-- A reader that has found nothing waits for the query, which is sent if there is none
  on its way. -/
  | dispatch (key : Key)
  | query (key : Key)
  | commit (key : Key)
  | expire (key : Key)

variable {Key Pattern Store Value : Type}

def start (store : Store) : State Key Pattern Store Value := ⟨store, [], [], [], []⟩

def State.returned (state : State Key Pattern Store Value) (index : Nat) : Bool :=
  (state.writes[index]?).any fun write => write.chores.isEmpty

theorem returned_iff {state : State Key Pattern Store Value} {index : Nat} :
    state.returned index = true ↔
      ∃ write, state.writes[index]? = some write ∧ write.chores = [] := by
  unfold State.returned
  rw [Option.any_eq_true]
  simp only [List.isEmpty_iff]

theorem getElem?_concat_eq_some {writes : List (Write Key Pattern)}
    {last write : Write Key Pattern} {index : Nat}
    (stored : (writes ++ [last])[index]? = some write) :
    writes[index]? = some write ∨ index = writes.length ∧ write = last := by
  rcases Nat.lt_trichotomy index writes.length with older | same | beyond
  · rw [List.getElem?_append_left older] at stored
    exact Or.inl stored
  · subst same
    rw [List.getElem?_concat_length] at stored
    exact Or.inr ⟨rfl, (Option.some.inj stored).symm⟩
  · rw [List.getElem?_eq_none (by simp; omega)] at stored
    cases stored

theorem getElem?_set_eq_some {writes : List (Write Key Pattern)} {index other : Nat}
    {old write : Write Key Pattern} {chores : List (Chore Key Pattern)}
    (found : writes[index]? = some old)
    (stored : (writes.set index { old with chores })[other]? = some write) :
    index ≠ other ∧ writes[other]? = some write ∨
      index = other ∧ write = { old with chores } := by
  by_cases same : index = other
  · subst same
    have inside := (List.getElem?_eq_some_iff.mp found).1
    rw [List.getElem?_set_self inside] at stored
    exact Or.inr ⟨rfl, (Option.some.inj stored).symm⟩
  · rw [List.getElem?_set_ne same] at stored
    exact Or.inl ⟨same, stored⟩

section Steps

variable [DecidableEq Key] (covers : Pattern → Key → Bool)

def Chore.deletes : Chore Key Pattern → Key → Bool
  | .delete known, key => decide (known = key)
  | .scan pattern, key => covers pattern key

/-- The key is still to be deleted. -/
def Awaited (chores : List (Chore Key Pattern)) (key : Key) : Prop :=
  ∃ chore ∈ chores, chore.deletes covers key = true

def remove (key : Key) (cache : List (Entry Key Value)) : List (Entry Key Value) :=
  cache.filter fun entry => decide (entry.key ≠ key)

def perform (cache : List (Entry Key Value)) :
    List (Chore Key Pattern) → List (Entry Key Value) × List (Chore Key Pattern)
  | [] => (cache, [])
  | .delete key :: chores => (remove key cache, chores)
  | .scan pattern :: chores =>
      (cache, ((cache.filter fun entry => covers pattern entry.key).map fun entry =>
        .delete entry.key) ++ chores)

def State.work (state : State Key Pattern Store Value) (index : Nat)
    (write : Write Key Pattern) : State Key Pattern Store Value :=
  { state with
    cache := (perform covers state.cache write.chores).1
    writes := state.writes.set index
      { write with chores := (perform covers state.cache write.chores).2 } }

variable [DecidableEq Value] (query : Store → Key → Value)

def step (state : State Key Pattern Store Value) :
    Move Key Pattern Store → State Key Pattern Store Value
  | .write effect chores =>
      { state with
        store := effect state.store
        writes := state.writes ++
          [⟨fun key => decide (query state.store key ≠ query (effect state.store) key),
            chores⟩] }
  | .work index =>
      match state.writes[index]? with
      | some write => state.work covers index write
      | none => state
  | .hit key =>
      match state.cache.find? fun entry => decide (entry.key = key) with
      | some entry => { state with answers := state.answers ++ [⟨entry, state.returned⟩] }
      | none => state
  | .dispatch key =>
      if state.fetches.any fun fetch => decide (fetch.key = key) then
        { state with
          fetches := state.fetches.map fun fetch =>
            if fetch.key = key then
              { fetch with readers := fetch.readers ++ [state.returned] }
            else fetch }
      else { state with fetches := state.fetches ++ [⟨key, none, [state.returned]⟩] }
  | .query key =>
      { state with
        fetches := state.fetches.map fun fetch =>
          if fetch.key = key ∧ fetch.result = none then
            { fetch with result := some (query state.store key, state.writes.length) }
          else fetch }
  | .commit key =>
      match state.fetches.find? fun fetch => decide (fetch.key = key) with
      | some ⟨_, some (value, seen), readers⟩ =>
          let entry : Entry Key Value := ⟨key, value, seen⟩
          { state with
            cache := entry :: remove key state.cache
            fetches := state.fetches.filter fun fetch => decide (fetch.key ≠ key)
            answers := state.answers ++ readers.map fun reader => ⟨entry, reader⟩ }
      | _ => state
  | .expire key => { state with cache := remove key state.cache }

end Steps

/-- No write that had returned when the reader came, and that has changed what it asked
for, is missing in the answer. -/
def Answer.Fresh (writes : List (Write Key Pattern)) (answer : Answer Key Value) : Prop :=
  ∀ index write, writes[index]? = some write → answer.before index = true →
    write.changes answer.entry.key = true → index < answer.entry.seen

def missed (writes : List (Write Key Pattern)) (answer : Answer Key Value) : Bool :=
  (List.range writes.length).any fun index => (writes[index]?).any fun write =>
    answer.before index && write.changes answer.entry.key && decide (answer.entry.seen ≤ index)

theorem Answer.Fresh.not_missed {writes : List (Write Key Pattern)}
    {answer : Answer Key Value} (fresh : answer.Fresh writes) : missed writes answer = false := by
  apply List.any_eq_false.mpr
  intro index _ missing
  obtain ⟨write, stored, found⟩ := (Option.any_eq_true _ _).mp missing
  rw [Bool.and_eq_true, Bool.and_eq_true, decide_eq_true_eq] at found
  exact Nat.not_lt.mpr found.2 (fresh index write stored found.1.1 found.1.2)

section Careful

variable [DecidableEq Key] (covers : Pattern → Key → Bool) (query : Store → Key → Value)

/-- The moves that keep the answers fresh: a write is going to delete what it changes of
the cache, and a result is not stored after a write that it has not seen has passed its
key. -/
def Careful (state : State Key Pattern Store Value) : Move Key Pattern Store → Prop
  | .write effect chores =>
      ∀ entry ∈ state.cache,
        query state.store entry.key ≠ query (effect state.store) entry.key →
        Awaited covers chores entry.key
  | .commit key =>
      ∀ fetch ∈ state.fetches, fetch.key = key → ∀ value seen,
        fetch.result = some (value, seen) →
        ∀ index write, state.writes[index]? = some write → write.changes key = true →
          index < seen ∨ Awaited covers write.chores key
  | _ => True

/-- A cached value misses no change unless its key is still to be deleted, and the writes
that had returned for a reader have returned. -/
structure Coherent (state : State Key Pattern Store Value) : Prop where
  entries : ∀ entry ∈ state.cache, ∀ index write, state.writes[index]? = some write →
    write.changes entry.key = true →
    index < entry.seen ∨ Awaited covers write.chores entry.key
  waiting : ∀ fetch ∈ state.fetches, ∀ reader ∈ fetch.readers, ∀ index,
    reader index = true → state.returned index = true
  answered : ∀ answer ∈ state.answers, answer.Fresh state.writes ∧
    ∀ index, answer.before index = true → state.returned index = true

end Careful

variable [DecidableEq Key] {covers : Pattern → Key → Bool} {query : Store → Key → Value}
  {state : State Key Pattern Store Value}

theorem coherent_start (store : Store) :
    Coherent covers (start store : State Key Pattern Store Value) :=
  ⟨List.forall_mem_nil _, List.forall_mem_nil _, List.forall_mem_nil _⟩

theorem not_awaited_nil {key : Key} :
    ¬ Awaited covers ([] : List (Chore Key Pattern)) key := by
  intro awaited
  obtain ⟨chore, member, -⟩ := awaited
  cases member

theorem awaited_cons {chore : Chore Key Pattern} {chores : List (Chore Key Pattern)}
    {key : Key} : Awaited covers (chore :: chores) key ↔
      chore.deletes covers key = true ∨ Awaited covers chores key := by
  simp [Awaited]

theorem awaited_append {front back : List (Chore Key Pattern)} {key : Key} :
    Awaited covers (front ++ back) key ↔
      Awaited covers front key ∨ Awaited covers back key := by
  simp only [Awaited, List.mem_append, or_and_right, exists_or]

theorem awaited_of_any {chores : List (Chore Key Pattern)} {key : Key}
    (found : (chores.any fun chore => chore.deletes covers key) = true) :
    Awaited covers chores key := List.any_eq_true.mp found

theorem mem_remove {key : Key} {cache : List (Entry Key Value)} {entry : Entry Key Value} :
    entry ∈ remove key cache ↔ entry ∈ cache ∧ entry.key ≠ key := by
  simp [remove]

theorem perform_keeps {cache : List (Entry Key Value)} {chores : List (Chore Key Pattern)}
    {entry : Entry Key Value} (member : entry ∈ (perform covers cache chores).1) :
    entry ∈ cache ∧ (Awaited covers chores entry.key →
      Awaited covers (perform covers cache chores).2 entry.key) := by
  cases chores with
  | nil => exact ⟨member, fun awaited => awaited⟩
  | cons chore chores =>
      cases chore with
      | delete key =>
          obtain ⟨cached, apart⟩ := mem_remove.mp member
          refine ⟨cached, ?_⟩
          intro awaited
          rcases awaited_cons.mp awaited with deletes | later
          · exact absurd (of_decide_eq_true deletes).symm apart
          · exact later
      | scan pattern =>
          refine ⟨member, ?_⟩
          intro awaited
          apply awaited_append.mpr
          rcases awaited_cons.mp awaited with found | later
          · left
            refine ⟨.delete entry.key, ?_, decide_eq_true rfl⟩
            apply List.mem_map.mpr
            exact ⟨entry, List.mem_filter.mpr ⟨member, found⟩, rfl⟩
          · exact Or.inr later

theorem fresh_of_returned {entry : Entry Key Value} {before : Nat → Bool}
    (coherent : ∀ index write, state.writes[index]? = some write →
      write.changes entry.key = true →
      index < entry.seen ∨ Awaited covers write.chores entry.key)
    (finished : ∀ index, before index = true → state.returned index = true) :
    Answer.Fresh state.writes ⟨entry, before⟩ := by
  intro index write stored came changed
  obtain ⟨same, found, done⟩ := returned_iff.mp (finished index came)
  rw [stored] at found
  cases found
  rcases coherent index write stored changed with seen | awaited
  · exact seen
  · rw [done] at awaited
    exact absurd awaited not_awaited_nil

theorem returned_work {index : Nat} {old : Write Key Pattern}
    (found : state.writes[index]? = some old) {other : Nat}
    (done : state.returned other = true) :
    (state.work covers index old).returned other = true := by
  obtain ⟨write, stored, empty⟩ := returned_iff.mp done
  apply returned_iff.mpr
  by_cases same : index = other
  · subst same
    rw [found] at stored
    cases stored
    refine ⟨_, List.getElem?_set_self (List.getElem?_eq_some_iff.mp found).1, ?_⟩
    rw [empty]
    rfl
  · exact ⟨write, (List.getElem?_set_ne same).trans stored, empty⟩

variable [DecidableEq Value]

theorem coherent_write (coherent : Coherent covers state) {effect : Store → Store}
    {chores : List (Chore Key Pattern)}
    (careful : Careful covers query state (.write effect chores)) :
    Coherent covers (step covers query state (.write effect chores)) := by
  have stays : ∀ index, state.returned index = true →
      (step covers query state (.write effect chores)).returned index = true := by
    intro index done
    obtain ⟨write, stored, empty⟩ := returned_iff.mp done
    have older := (List.getElem?_eq_some_iff.mp stored).1
    apply returned_iff.mpr
    exact ⟨write, (List.getElem?_append_left older).trans stored, empty⟩
  constructor
  · intro entry member index write stored changed
    rcases getElem?_concat_eq_some stored with older | ⟨-, rfl⟩
    · exact coherent.entries entry member index write older changed
    · exact Or.inr (careful entry member (of_decide_eq_true changed))
  · intro fetch member reader waits index came
    exact stays index (coherent.waiting fetch member reader waits index came)
  · intro answer member
    obtain ⟨fresh, finished⟩ := coherent.answered answer member
    refine ⟨?_, fun index came => stays index (finished index came)⟩
    intro index write stored came changed
    rcases getElem?_concat_eq_some stored with older | ⟨last, -⟩
    · exact fresh index write older came changed
    · obtain ⟨old, found, -⟩ := returned_iff.mp (finished index came)
      rw [last, List.getElem?_eq_none (Nat.le_refl _)] at found
      cases found

theorem coherent_work (coherent : Coherent covers state) (index : Nat) :
    Coherent covers (step covers query state (.work index)) := by
  rw [step]
  cases found : state.writes[index]? with
  | none => exact coherent
  | some old =>
      constructor
      · intro entry member other write stored changed
        obtain ⟨cached, keeps⟩ := perform_keeps member
        rcases getElem?_set_eq_some found stored with ⟨-, same⟩ | ⟨rfl, rfl⟩
        · exact coherent.entries entry cached other write same changed
        · exact (coherent.entries entry cached _ old found changed).imp_right keeps
      · intro fetch member reader waits other came
        exact returned_work found (coherent.waiting fetch member reader waits other came)
      · intro answer member
        obtain ⟨fresh, finished⟩ := coherent.answered answer member
        refine ⟨?_, fun other came => returned_work found (finished other came)⟩
        intro other write stored came changed
        rcases getElem?_set_eq_some found stored with ⟨-, same⟩ | ⟨rfl, rfl⟩
        · exact fresh other write same came changed
        · exact fresh _ old found came changed

theorem coherent_hit (coherent : Coherent covers state) (key : Key) :
    Coherent covers (step covers query state (.hit key)) := by
  rw [step]
  cases found : state.cache.find? fun entry => decide (entry.key = key) with
  | none => exact coherent
  | some entry =>
      refine ⟨coherent.entries, coherent.waiting, ?_⟩
      intro answer member
      rcases List.mem_append.mp member with older | last
      · exact coherent.answered answer older
      · rw [List.mem_singleton.mp last]
        have cached := List.mem_of_find?_eq_some found
        exact ⟨fresh_of_returned (coherent.entries entry cached) fun _ came => came,
          fun _ came => came⟩

theorem coherent_dispatch (coherent : Coherent covers state) (key : Key) :
    Coherent covers (step covers query state (.dispatch key)) := by
  rw [step]
  split
  · refine ⟨coherent.entries, ?_, coherent.answered⟩
    intro fetch member reader waits index came
    obtain ⟨old, oldMember, rfl⟩ := List.mem_map.mp member
    split at waits
    · rcases List.mem_append.mp waits with older | last
      · exact coherent.waiting old oldMember reader older index came
      · rw [List.mem_singleton.mp last] at came
        exact came
    · exact coherent.waiting old oldMember reader waits index came
  · refine ⟨coherent.entries, ?_, coherent.answered⟩
    intro fetch member reader waits index came
    rcases List.mem_append.mp member with older | last
    · exact coherent.waiting fetch older reader waits index came
    · rw [List.mem_singleton.mp last] at waits
      rw [List.mem_singleton.mp waits] at came
      exact came

theorem coherent_query (coherent : Coherent covers state) (key : Key) :
    Coherent covers (step covers query state (.query key)) := by
  refine ⟨coherent.entries, ?_, coherent.answered⟩
  intro fetch member reader waits index came
  obtain ⟨old, oldMember, rfl⟩ := List.mem_map.mp member
  have waited : reader ∈ old.readers := by
    split at waits
    · exact waits
    · exact waits
  exact coherent.waiting old oldMember reader waited index came

theorem coherent_commit (coherent : Coherent covers state) {key : Key}
    (careful : Careful covers query state (.commit key)) :
    Coherent covers (step covers query state (.commit key)) := by
  rw [step]
  split
  · rename_i fetchKey value seen readers found
    have fetched := List.mem_of_find?_eq_some found
    have itsKey : fetchKey = key := by simpa using List.find?_some found
    subst itsKey
    have current := careful _ fetched rfl value seen rfl
    refine ⟨?_, ?_, ?_⟩
    · intro entry member index write stored changed
      rcases List.mem_cons.mp member with rfl | older
      · exact current index write stored changed
      · exact coherent.entries entry (mem_remove.mp older).1 index write stored changed
    · intro fetch member
      exact coherent.waiting fetch (List.mem_filter.mp member).1
    · intro answer member
      rcases List.mem_append.mp member with older | replied
      · exact coherent.answered answer older
      · obtain ⟨reader, waits, rfl⟩ := List.mem_map.mp replied
        have finished := coherent.waiting _ fetched reader waits
        exact ⟨fresh_of_returned current finished, finished⟩
  · exact coherent

theorem coherent_expire (coherent : Coherent covers state) (key : Key) :
    Coherent covers (step covers query state (.expire key)) :=
  ⟨fun entry member => coherent.entries entry (mem_remove.mp member).1, coherent.waiting,
    coherent.answered⟩

theorem coherent_step (coherent : Coherent covers state) {move : Move Key Pattern Store}
    (careful : Careful covers query state move) :
    Coherent covers (step covers query state move) := by
  cases move with
  | write effect chores => exact coherent_write coherent careful
  | work index => exact coherent_work coherent index
  | hit key => exact coherent_hit coherent key
  | dispatch key => exact coherent_dispatch coherent key
  | query key => exact coherent_query coherent key
  | commit key => exact coherent_commit coherent careful
  | expire key => exact coherent_expire coherent key

theorem fresh_of_careful {store : Store} {moves : List (Move Key Pattern Store)}
    (along : Along (step covers query) (Careful covers query) (start store) moves)
    {answer : Answer Key Value}
    (given : answer ∈ (moves.foldl (step covers query) (start store)).answers) :
    answer.Fresh (moves.foldl (step covers query) (start store)).writes := by
  have preserved : ∀ state move, Coherent covers state → Careful covers query state move →
      Coherent covers (step covers query state move) :=
    fun _ _ coherent careful => coherent_step coherent careful
  have coherent := along.invariant preserved (coherent_start store)
  exact (coherent.answered answer given).1

def checkCareful (covers : Pattern → Key → Bool) (query : Store → Key → Value)
    (state : State Key Pattern Store Value) : Move Key Pattern Store → Bool
  | .write effect chores =>
      state.cache.all fun entry =>
        decide (query state.store entry.key = query (effect state.store) entry.key) ||
          chores.any fun chore => chore.deletes covers entry.key
  | .commit key =>
      state.fetches.all fun fetch => decide (fetch.key ≠ key) ||
        match fetch.result with
        | some (_, seen) =>
            (List.range state.writes.length).all fun index =>
              (state.writes[index]?).all fun write => !(write.changes key) ||
                decide (index < seen) || write.chores.any fun chore => chore.deletes covers key
        | none => true
  | _ => true

theorem careful_of_check {move : Move Key Pattern Store}
    (checked : checkCareful covers query state move = true) :
    Careful covers query state move := by
  cases move with
  | write effect chores =>
      intro entry cached differs
      rcases Bool.or_eq_true_iff.mp (List.all_eq_true.mp checked entry cached) with same | found
      · exact absurd (of_decide_eq_true same) differs
      · exact awaited_of_any found
  | commit key =>
      intro fetch fetched itsKey value seen result index write stored changed
      rcases Bool.or_eq_true_iff.mp (List.all_eq_true.mp checked fetch fetched) with apart | passes
      · exact absurd itsKey (of_decide_eq_true apart)
      · rw [result] at passes
        have inside := (List.getElem?_eq_some_iff.mp stored).1
        have passed := List.all_eq_true.mp passes index (List.mem_range.mpr inside)
        rw [stored, Option.all_some, changed, Bool.not_true, Bool.false_or] at passed
        rcases Bool.or_eq_true_iff.mp passed with early | found
        · exact Or.inl (of_decide_eq_true early)
        · exact Or.inr (awaited_of_any found)
  | work index => trivial
  | hit key => trivial
  | dispatch key => trivial
  | query key => trivial
  | expire key => trivial

end CacheAside

end Elektrine.Library
