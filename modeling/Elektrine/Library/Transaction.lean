/-!
# Store actions and all-or-nothing transactions

An action against a store ends in a value or in an error, and leaves a store
behind in both cases: what it wrote before failing is still there.  A
transaction is the combinator that takes those writes back.  The inversion
lemmas below are the only facts callers need; no proof has to unfold the monad.
-/

namespace Elektrine.Library

universe u

abbrev StoreAction (Failure Store : Type u) (α : Type u) : Type u :=
  ExceptT Failure (StateM Store) α

variable {Failure Store α β : Type u}

namespace StoreAction

def perform (action : StoreAction Failure Store α) (store : Store) :
    Except Failure α × Store :=
  (ExceptT.run action).run store

def query (read : Store → α) : StoreAction Failure Store α :=
  fun store => (.ok (read store), store)

def write (change : Store → Store) : StoreAction Failure Store PUnit :=
  fun store => (.ok ⟨⟩, change store)

def fail (failure : Failure) : StoreAction Failure Store α :=
  fun store => (.error failure, store)

def lift (outcome : Except Failure α) : StoreAction Failure Store α :=
  fun store => (outcome, store)

def transaction (body : StoreAction Failure Store α) :
    StoreAction Failure Store α :=
  fun store =>
    match body.perform store with
    | (.ok value, after) => (.ok value, after)
    | (.error failure, _) => (.error failure, store)

def focus {Part : Type u} (part : Store → Part) (put : Part → Store → Store)
    (action : StoreAction Failure Part α) : StoreAction Failure Store α :=
  fun store =>
    match action.perform (part store) with
    | (outcome, after) => (outcome, put after store)

/-- The action ends in `value` and leaves `after`. -/
def Returns (action : StoreAction Failure Store α)
    (before : Store) (value : α) (after : Store) : Prop :=
  action.perform before = (.ok value, after)

/-- The action ends in `failure` and leaves `after`. -/
def Fails (action : StoreAction Failure Store α)
    (before : Store) (failure : Failure) (after : Store) : Prop :=
  action.perform before = (.error failure, after)

theorem perform_bind
    (action : StoreAction Failure Store α)
    (next : α → StoreAction Failure Store β) (before : Store) :
    (action >>= next).perform before =
      match action.perform before with
      | (.ok value, middle) => (next value).perform middle
      | (.error failure, middle) => (.error failure, middle) := by
  rcases result : action.perform before with ⟨outcome, middle⟩
  have unfolded : action before = (outcome, middle) := result
  cases outcome with
  | ok value =>
      simp [perform, Bind.bind, ExceptT.bind, ExceptT.mk, ExceptT.run,
        ExceptT.bindCont, StateT.bind, StateT.run, unfolded]
  | error failure =>
      simp only [perform, Bind.bind, ExceptT.bind, ExceptT.mk, ExceptT.run,
        ExceptT.bindCont, StateT.bind, StateT.run, unfolded]
      rfl

@[simp] theorem returns_pure_iff {value result : α} {before after : Store} :
    Returns (pure value : StoreAction Failure Store α) before result after ↔
      result = value ∧ after = before := by
  change ((Except.ok value : Except Failure α), before) = (.ok result, after) ↔ _
  constructor
  · intro equality
    cases equality
    exact ⟨rfl, rfl⟩
  · rintro ⟨rfl, rfl⟩
    rfl

@[simp] theorem returns_query_iff
    {read : Store → α} {result : α} {before after : Store} :
    Returns (query read : StoreAction Failure Store α) before result after ↔
      result = read before ∧ after = before := by
  change ((Except.ok (read before) : Except Failure α), before) =
    (.ok result, after) ↔ _
  constructor
  · intro equality
    cases equality
    exact ⟨rfl, rfl⟩
  · rintro ⟨rfl, rfl⟩
    rfl

@[simp] theorem returns_lift_iff
    {outcome : Except Failure α} {result : α} {before after : Store} :
    Returns (lift outcome : StoreAction Failure Store α) before result after ↔
      outcome = .ok result ∧ after = before := by
  change (outcome, before) = (.ok result, after) ↔ _
  simp [Prod.mk.injEq, eq_comm]

@[simp] theorem returns_write_iff
    {change : Store → Store} {result : PUnit} {before after : Store} :
    Returns (write change : StoreAction Failure Store PUnit) before result after ↔
      after = change before := by
  change ((Except.ok ⟨⟩ : Except Failure PUnit), change before) =
    (.ok result, after) ↔ _
  constructor
  · intro equality
    cases equality
    rfl
  · rintro rfl
    rfl

theorem returns_focus_iff {Part : Type u}
    {part : Store → Part} {put : Part → Store → Store}
    {action : StoreAction Failure Part α}
    {result : α} {before after : Store} :
    Returns (focus part put action) before result after ↔
      ∃ middle, Returns action (part before) result middle ∧
        after = put middle before := by
  unfold Returns
  change (match action.perform (part before) with
    | (outcome, middle) => (outcome, put middle before)) = _ ↔ _
  rcases action.perform (part before) with ⟨outcome, middle⟩
  constructor
  · intro equality
    cases equality
    exact ⟨middle, rfl, rfl⟩
  · rintro ⟨middle', equality, rfl⟩
    cases equality
    rfl

@[simp] theorem not_returns_fail
    {failure : Failure} {result : α} {before after : Store} :
    ¬ Returns (fail failure : StoreAction Failure Store α) before result after := by
  intro returned
  have equality : ((Except.error failure : Except Failure α), before) =
      (.ok result, after) := returned
  cases equality

theorem fails_fail_iff {failure failed : Failure} {before after : Store} :
    Fails (fail failed : StoreAction Failure Store α) before failure after ↔
      failure = failed ∧ after = before := by
  change ((Except.error failed : Except Failure α), before) =
    (.error failure, after) ↔ _
  constructor
  · intro equality
    cases equality
    exact ⟨rfl, rfl⟩
  · rintro ⟨rfl, rfl⟩
    rfl

theorem returns_bind_iff
    {action : StoreAction Failure Store α}
    {next : α → StoreAction Failure Store β}
    {result : β} {before after : Store} :
    Returns (action >>= next) before result after ↔
      ∃ value middle, Returns action before value middle ∧
        Returns (next value) middle result after := by
  unfold Returns
  rw [perform_bind]
  rcases outcome : action.perform before with ⟨_ | value, middle⟩
  · simp
  · constructor
    · intro returned
      exact ⟨value, middle, rfl, returned⟩
    · rintro ⟨value', middle', equality, returned⟩
      cases equality
      exact returned

theorem returns_query_bind_iff
    {read : Store → α} {next : α → StoreAction Failure Store β}
    {result : β} {before after : Store} :
    Returns (query read >>= next) before result after ↔
      Returns (next (read before)) before result after := by
  rw [returns_bind_iff]
  constructor
  · intro returned
    obtain ⟨value, middle, queried, returned⟩ := returned
    obtain ⟨sameValue, sameStore⟩ := returns_query_iff.mp queried
    rwa [sameValue, sameStore] at returned
  · intro returned
    exact ⟨_, before, returns_query_iff.mpr ⟨rfl, rfl⟩, returned⟩

theorem returns_lift_bind_iff
    {outcome : Except Failure α} {next : α → StoreAction Failure Store β}
    {result : β} {before after : Store} :
    Returns (lift outcome >>= next) before result after ↔
      ∃ value, outcome = .ok value ∧
        Returns (next value) before result after := by
  rw [returns_bind_iff]
  constructor
  · intro returned
    obtain ⟨value, middle, lifted, returned⟩ := returned
    obtain ⟨computed, sameStore⟩ := returns_lift_iff.mp lifted
    rw [sameStore] at returned
    exact ⟨value, computed, returned⟩
  · intro returned
    obtain ⟨value, computed, returned⟩ := returned
    exact ⟨value, before, returns_lift_iff.mpr ⟨computed, rfl⟩, returned⟩

@[simp] theorem returns_map_iff
    {action : StoreAction Failure Store α} {change : α → β}
    {result : β} {before after : Store} :
    Returns (change <$> action) before result after ↔
      ∃ value, Returns action before value after ∧ result = change value := by
  rw [map_eq_pure_bind, returns_bind_iff]
  constructor
  · rintro ⟨value, middle, returned, last⟩
    rw [returns_pure_iff] at last
    obtain ⟨rfl, rfl⟩ := last
    exact ⟨value, returned, rfl⟩
  · rintro ⟨value, returned, rfl⟩
    exact ⟨value, after, returned, returns_pure_iff.mpr ⟨rfl, rfl⟩⟩

theorem perform_transaction
    (body : StoreAction Failure Store α) (before : Store) :
    (transaction body).perform before =
      match body.perform before with
      | (.ok value, after) => (.ok value, after)
      | (.error failure, _) => (.error failure, before) :=
  rfl

theorem returns_transaction_iff
    {body : StoreAction Failure Store α}
    {result : α} {before after : Store} :
    Returns (transaction body) before result after ↔
      Returns body before result after := by
  unfold Returns
  rw [perform_transaction]
  rcases body.perform before with ⟨failure | value, middle⟩
  · simp
  · rfl

theorem fails_transaction_iff
    {body : StoreAction Failure Store α}
    {failure : Failure} {before after : Store} :
    Fails (transaction body) before failure after ↔
      after = before ∧ ∃ dropped, Fails body before failure dropped := by
  unfold Fails
  rw [perform_transaction]
  rcases body.perform before with ⟨failed | value, middle⟩
  · constructor
    · intro equality
      cases equality
      exact ⟨rfl, middle, rfl⟩
    · rintro ⟨rfl, dropped, equality⟩
      cases equality
      rfl
  · simp

end StoreAction

end Elektrine.Library

/-!
## Relations that an action respects

An action respects a relation when every successful run of it relates the store
before to the store after.  For a reflexive and transitive relation, what reads
respects it, and so does what is put together from actions that do.
-/

namespace Elektrine.Library.StoreAction

universe u

variable {Failure Store Part α β : Type u} {Relation : Store → Store → Prop}

/-- A successful run relates the stores before and after. -/
def Respects (Relation : Store → Store → Prop)
    (action : StoreAction Failure Store α) : Prop :=
  ∀ before result after, Returns action before result after →
    Relation before after

namespace Respects

theorem mono {Stronger : Store → Store → Prop}
    {action : StoreAction Failure Store α}
    (respects : Respects Stronger action)
    (weaker : ∀ before after, Stronger before after → Relation before after) :
    Respects Relation action :=
  fun before result after returned =>
    weaker before after (respects before result after returned)

theorem pure (reflexive : ∀ store, Relation store store) (value : α) :
    Respects Relation
      (Pure.pure value : StoreAction Failure Store α) := by
  intro before result after returned
  obtain ⟨-, unchanged⟩ := returns_pure_iff.mp returned
  rw [unchanged]
  exact reflexive before

theorem fail (failure : Failure) :
    Respects Relation
      (StoreAction.fail failure : StoreAction Failure Store α) :=
  fun _ _ _ returned => absurd returned not_returns_fail

theorem bind
    (transitive : ∀ first second third,
      Relation first second → Relation second third → Relation first third)
    {action : StoreAction Failure Store α}
    {next : α → StoreAction Failure Store β}
    (first : Respects Relation action)
    (second : ∀ value, Respects Relation (next value)) :
    Respects Relation (action >>= next) := by
  intro before result after returned
  obtain ⟨value, middle, returned, last⟩ := returns_bind_iff.mp returned
  exact transitive _ _ _ (first before value middle returned)
    (second value middle result after last)

theorem focus {part : Store → Part} {put : Part → Store → Store}
    (framed : ∀ store other, Relation store (put other store))
    (action : StoreAction Failure Part α) :
    Respects Relation (StoreAction.focus part put action) := by
  intro before result after returned
  obtain ⟨other, -, written⟩ := returns_focus_iff.mp returned
  rw [written]
  exact framed before other

theorem forM (reflexive : ∀ store, Relation store store)
    (transitive : ∀ first second third,
      Relation first second → Relation second third → Relation first third)
    {entries : List α} {act : α → StoreAction Failure Store PUnit}
    (each : ∀ entry ∈ entries, Respects Relation (act entry)) :
    Respects Relation (entries.forM act) := by
  induction entries with
  | nil => exact pure reflexive _
  | cons entry rest ih =>
      exact bind transitive (each entry List.mem_cons_self) fun _ =>
        ih fun other member => each other (List.mem_cons_of_mem _ member)

end Respects

theorem returns_forM_turn (reflexive : ∀ store, Relation store store)
    (transitive : ∀ first second third,
      Relation first second → Relation second third → Relation first third)
    {entries : List α} {act : α → StoreAction Failure Store PUnit}
    (each : ∀ entry ∈ entries, Respects Relation (act entry))
    {before after : Store} {result : PUnit}
    (returned : Returns (entries.forM act) before result after)
    {entry : α} (member : entry ∈ entries) :
    ∃ start finish, Relation before start ∧
      Returns (act entry) start ⟨⟩ finish ∧ Relation finish after := by
  induction entries generalizing before with
  | nil => exact absurd member List.not_mem_nil
  | cons head rest ih =>
      obtain ⟨⟨⟩, middle, first, last⟩ := returns_bind_iff.mp returned
      have tail : ∀ other ∈ rest, Respects Relation (act other) :=
        fun other there => each other (List.mem_cons_of_mem _ there)
      rcases List.mem_cons.mp member with same | later
      · subst same
        exact ⟨before, middle, reflexive before, first,
          Respects.forM reflexive transitive tail middle result after last⟩
      · obtain ⟨start, finish, reached, turn, left⟩ := ih tail last later
        have moved := each head List.mem_cons_self before _ middle first
        exact ⟨start, finish, transitive _ _ _ moved reached, turn, left⟩

end Elektrine.Library.StoreAction
