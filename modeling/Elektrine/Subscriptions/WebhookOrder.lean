import Elektrine.Subscriptions.Webhooks

/-!
# Events in any order

Runs of events, repeated and late as they come, and of cancellations and resumptions.  An
event is to leave its values in the row, a deleted Stripe subscription is to give no access
again, and an older one is not to overwrite a newer.
-/

namespace Elektrine.Subscriptions

open Elektrine.Library

structure State where
  rows : Rows
  deleted : List Identifier

inductive Action where
  | handle (context : Context) (event : Event)
  | change (loaded : Subscription) (answer : Option StripeSubscription)

def Event.about : Event → Option Identifier
  | .created stripeSub | .updated stripeSub | .deleted stripeSub _ => stripeSub.id.field
  | .paymentSucceeded invoice | .paymentFailed invoice => invoice.subscription.field

def Event.carried : Event → Option StripeSubscription
  | .created stripeSub | .updated stripeSub => some stripeSub
  | _ => none

def State.logged (state : State) (rows : Rows) : Event → State
  | .deleted stripeSub _ => ⟨rows, stripeSub.id.field.toList ++ state.deleted⟩
  | _ => { state with rows := rows }

def State.handle (state : State) (context : Context) (event : Event) : State :=
  match processWebhookEvent context state.rows event with
  | .error _ => state
  | .ok (_, rows) => state.logged rows event

def State.change (state : State) (loaded : Subscription) (answer : Option StripeSubscription) :
    State :=
  match changeSubscription state.rows loaded answer with
  | .error _ => state
  | .ok (_, rows) => { state with rows := rows }

def step (state : State) : Action → State
  | .handle context event => state.handle context event
  | .change loaded answer => state.change loaded answer

structure Carries (row : Subscription) (stripeSub : StripeSubscription) : Prop where
  status : stripeSub.status.value = some (.known row.status)
  price : row.stripePriceId = getPriceId stripeSub
  periodStart : row.currentPeriodStart = fromUnix stripeSub.currentPeriodStart.value
  periodEnd : row.currentPeriodEnd = fromUnix stripeSub.currentPeriodEnd.value
  cancelAtPeriodEnd : row.cancelAtPeriodEnd = stripeSub.cancelAtPeriodEnd.value

/-- The handling of an event, where `createdAt` is when Stripe created a subscription. -/
structure Follows (createdAt : Identifier → Nat) (before : State) (context : Context)
    (event : Event) (after : State) : Prop where
  carries : ∀ stripeSub, event.carried = some stripeSub → ∀ row rows,
    processWebhookEvent context before.rows event = .ok (.row row, rows) →
    row ∈ after.rows.rows ∧ Carries row stripeSub
  revoked : ∀ id ∈ event.about, id ∈ before.deleted → ∀ row ∈ after.rows.rows,
    row.hasAccess = true → ∃ old ∈ before.rows.rows, old.id = row.id ∧ old.hasAccess = true
  newer : ∀ id ∈ event.about, ∀ row ∈ before.rows.rows, ∀ other ∈ row.stripeSubscriptionId,
    createdAt id < createdAt other → row ∈ after.rows.rows

/-- The rows follow Stripe along a run. -/
def FollowStripe (createdAt : Identifier → Nat) (start : State) (actions : List Action) : Prop :=
  ∀ transition ∈ transitions step start actions, ∀ context event,
    transition.action = .handle context event →
    Follows createdAt transition.before context event transition.after

inductive Target where
  | row (subscription : Subscription)
  | new
  | nothing

def targetOf (absent : Target) : Except Failure (Option Subscription) → Target
  | .ok (some subscription) => .row subscription
  | .ok none => absent
  | .error _ => .nothing

def findByCustomer (context : Context) (rows : Rows) (stripeSub : StripeSubscription) : Target :=
  match productOf context stripeSub with
  | none => .nothing
  | some product =>
      targetOf .new (getSubscriptionByCustomer rows stripeSub.customer.field product)

def findTarget (context : Context) (rows : Rows) : Event → Target
  | .created stripeSub => findByCustomer context rows stripeSub
  | .updated stripeSub =>
      targetOf (findByCustomer context rows stripeSub)
        (getSubscriptionByStripeId rows stripeSub.id.field)
  | .deleted stripeSub _ =>
      targetOf .nothing (getSubscriptionByStripeId rows stripeSub.id.field)
  | .paymentSucceeded invoice | .paymentFailed invoice =>
      targetOf .nothing (getSubscriptionByStripeId rows invoice.subscription.field)

def Event.grantsAccess : Event → Bool
  | .created stripeSub | .updated stripeSub =>
      match stripeSub.status.field with
      | some (.known status) => status.grantsAccess
      | _ => false
  | .paymentSucceeded _ => true
  | .deleted _ _ | .paymentFailed _ => false

/-- An event does not carry `false` under an atom alone; if it is about a subscription whose
deletion was handled and gives access, its row has access already; and its row tracks no
newer subscription. -/
structure CarefulEvent (createdAt : Identifier → Nat) (state : State) (context : Context)
    (event : Event) : Prop where
  flag : ∀ stripeSub ∈ event.carried, stripeSub.cancelAtPeriodEnd.byAtom = some false →
    stripeSub.cancelAtPeriodEnd.byString = some false
  revoked : ∀ id ∈ event.about, id ∈ state.deleted → event.grantsAccess = true →
    match findTarget context state.rows event with
    | .row row => row.hasAccess = true
    | .new => False
    | .nothing => True
  newer : ∀ id ∈ event.about, ∀ row, findTarget context state.rows event = .row row →
    ∀ other ∈ row.stripeSubscriptionId, createdAt other ≤ createdAt id

def Careful (createdAt : Identifier → Nat) (state : State) : Action → Prop
  | .handle context event => CarefulEvent createdAt state context event
  | .change _ _ => True

theorem Entry.field_eq_value {α : Type} (entry : Entry α) : entry.field = entry.value := by
  unfold Entry.field stripeField Entry.value
  cases entry.byAtom with
  | none => rfl
  | some value => rfl

theorem Entry.flag_eq_value_iff (entry : Entry Bool) :
    entry.flag = entry.value ↔
      (entry.byAtom = some false → entry.byString = some false) := by
  unfold Entry.flag stripeField Entry.value
  cases entry.byAtom with
  | none => simp
  | some value =>
      cases value with
      | true => simp
      | false => simp

structure Reads (row : Subscription) (stripeSub : StripeSubscription) : Prop where
  status : stripeSub.status.field = some (.known row.status)
  price : row.stripePriceId = getPriceId stripeSub
  periodStart : row.currentPeriodStart = fromUnix stripeSub.currentPeriodStart.field
  periodEnd : row.currentPeriodEnd = fromUnix stripeSub.currentPeriodEnd.field
  cancelAtPeriodEnd : row.cancelAtPeriodEnd = stripeSub.cancelAtPeriodEnd.flag

theorem Reads.carries {row : Subscription} {stripeSub : StripeSubscription}
    (reads : Reads row stripeSub) (flag : stripeSub.cancelAtPeriodEnd.byAtom = some false →
      stripeSub.cancelAtPeriodEnd.byString = some false) : Carries row stripeSub where
  status := (Entry.field_eq_value _).symm.trans reads.status
  price := reads.price
  periodStart := by
    rw [reads.periodStart, Entry.field_eq_value]
  periodEnd := by
    rw [reads.periodEnd, Entry.field_eq_value]
  cancelAtPeriodEnd := by
    rw [reads.cancelAtPeriodEnd]
    exact (Entry.flag_eq_value_iff _).mpr flag

structure Writes (event : Event) (new : Subscription) : Prop where
  reads : ∀ stripeSub ∈ event.carried, Reads new stripeSub
  access : new.hasAccess = true → event.grantsAccess = true

structure Replaced (rows after : Rows) (row new : Subscription) : Prop where
  present : row ∈ rows.rows
  sameId : new.id = row.id
  written : new ∈ after.rows
  kept : ∀ other ∈ rows.rows, other.id ≠ row.id → other ∈ after.rows
  only : ∀ other ∈ after.rows, other ∈ rows.rows ∨ other = new

variable {rows after : Rows} {row new : Subscription} {handled : Handled}

theorem updateRow_ok (present : row ∈ rows.rows) (sameRow : writeColumns row new row = new)
    (ok : updateRow rows row new = .ok (handled, after)) :
    handled = .row new ∧ Replaced rows after row new := by
  have sameId : new.id = row.id := by
    rw [← sameRow]
    rfl
  unfold updateRow at ok
  split at ok
  · rename_i unchanged
    cases ok
    refine ⟨rfl, present, sameId, ?_, fun _ member _ => member, fun _ => Or.inl⟩
    rw [unchanged]
    exact present
  · have found := SerialRows.find_eq_some_iff.mpr ⟨present, rfl⟩
    rw [found] at ok
    dsimp only at ok
    split at ok
    · cases ok
    · cases ok
      refine ⟨rfl, present, sameId, ?_, ?_, ?_⟩
      · exact List.mem_map.mpr ⟨row, present, by rw [if_pos rfl, sameRow]⟩
      · intro other member apart
        exact List.mem_map.mpr ⟨other, member, if_neg apart⟩
      · intro other member
        obtain ⟨old, oldMember, its⟩ := List.mem_map.mp member
        split at its
        · rename_i same
          right
          rw [← its, SerialRows.eq_of_key_eq oldMember present same]
          exact sameRow
        · rw [← its]
          exact Or.inl oldMember

theorem getBy_some {wanted : Subscription → Bool} (found : getBy rows wanted = .ok (some row)) :
    row ∈ rows.rows ∧ wanted row = true := by
  unfold getBy at found
  split at found
  · cases found
  · rename_i only its
    cases found
    have member : row ∈ rows.rows.filter wanted := by
      rw [its]
      exact List.mem_singleton_self row
    exact List.mem_filter.mp member
  · cases found

theorem getSubscriptionByStripeId_some {id : Option Identifier}
    (found : getSubscriptionByStripeId rows id = .ok (some row)) :
    row ∈ rows.rows ∧ row.stripeSubscriptionId = id := by
  unfold getSubscriptionByStripeId at found
  split at found
  · cases found
  · rename_i text
    obtain ⟨member, its⟩ := getBy_some found
    exact ⟨member, beq_iff_eq.mp its⟩

theorem getSubscriptionByCustomer_some {customer : Option Identifier} {product : String}
    (found : getSubscriptionByCustomer rows customer product = .ok (some row)) :
    row ∈ rows.rows := by
  unfold getSubscriptionByCustomer at found
  split at found
  · cases found
  · exact (getBy_some found).1

theorem castStatus_ok {value : Option StatusValue} {status : Status}
    (ok : castStatus value = .ok status) : value = some (.known status) := by
  unfold castStatus at ok
  split at ok
  · cases ok
  · cases ok
  · cases ok
    rfl

inductive Outcome (context : Context) (rows : Rows) (event : Event) (handled : Handled)
    (after : Rows) : Prop where
  | nothing : after = rows → (∀ row, handled ≠ .row row) → Outcome context rows event handled after
  | replaced (row new : Subscription) : findTarget context rows event = .row row →
      Replaced rows after row new → handled = .row new → Writes event new →
      Outcome context rows event handled after
  | inserted (new : Subscription) : findTarget context rows event = .new →
      (∀ other, other ∈ after.rows ↔ other ∈ rows.rows ∨ other = new) → handled = .row new →
      Writes event new → Outcome context rows event handled after

theorem updateFromStripe_ok {stripeSub : StripeSubscription} (present : row ∈ rows.rows)
    (ok : updateFromStripe rows row stripeSub = .ok (handled, after)) :
    ∃ new, handled = .row new ∧ Replaced rows after row new ∧ Reads new stripeSub := by
  unfold updateFromStripe at ok
  split at ok
  · cases ok
  · rename_i status cast
    have sameRow := updateRow_ok present (by simp [writeColumns, written_fresh]) ok
    obtain ⟨its, replaced⟩ := sameRow
    exact ⟨_, its, replaced, castStatus_ok cast, rfl, rfl, rfl, rfl⟩

theorem Reads.writes {event : Event} {stripeSub : StripeSubscription}
    (reads : Reads new stripeSub)
    (carried : event = .created stripeSub ∨ event = .updated stripeSub) : Writes event new := by
  have grants : new.hasAccess = true → (Event.created stripeSub).grantsAccess = true := by
    intro access
    rw [Event.grantsAccess, reads.status]
    exact access
  rcases carried with its | its
  · rw [its]
    refine ⟨?_, grants⟩
    intro other same
    cases same
    exact reads
  · rw [its]
    refine ⟨?_, grants⟩
    intro other same
    cases same
    exact reads

theorem insertSubscription_ok {context : Context} {product : String}
    {stripeSub : StripeSubscription}
    (ok : insertSubscription context rows product stripeSub = .ok (handled, after)) :
    ∃ new, handled = .row new ∧ Reads new stripeSub ∧
      ∀ other, other ∈ after.rows ↔ other ∈ rows.rows ∨ other = new := by
  unfold insertSubscription at ok
  split at ok
  · cases ok
  split at ok
  · cases ok
  split at ok
  · cases ok
  rename_i status cast
  dsimp only at ok
  split at ok
  · cases ok
  split at ok
  · cases ok
  cases ok
  exact ⟨_, rfl, ⟨castStatus_ok cast, rfl, rfl, rfl, rfl⟩, fun _ => SerialRows.mem_append⟩

theorem handleSubscriptionCreated_outcome {context : Context} {stripeSub : StripeSubscription}
    {event : Event} (carried : event = .created stripeSub ∨ event = .updated stripeSub)
    (target : findTarget context rows event = findByCustomer context rows stripeSub)
    (ok : handleSubscriptionCreated context rows stripeSub = .ok (handled, after)) :
    Outcome context rows event handled after := by
  unfold handleSubscriptionCreated at ok
  unfold findByCustomer at target
  split at ok
  · cases ok
    exact .nothing rfl fun _ same => by cases same
  · rename_i product named
    rw [named] at target
    split at ok
    · cases ok
    · rename_i subscription found
      simp only [found, targetOf] at target
      have present := getSubscriptionByCustomer_some found
      obtain ⟨new, its, replaced, reads⟩ := updateFromStripe_ok present ok
      exact .replaced subscription new target replaced its (reads.writes carried)
    · rename_i found
      simp only [found, targetOf] at target
      obtain ⟨new, its, reads, rows⟩ := insertSubscription_ok ok
      exact .inserted new target rows its (reads.writes carried)

theorem handleSubscriptionUpdated_outcome {context : Context} {stripeSub : StripeSubscription}
    (ok : handleSubscriptionUpdated context rows stripeSub = .ok (handled, after)) :
    Outcome context rows (.updated stripeSub) handled after := by
  unfold handleSubscriptionUpdated at ok
  split at ok
  · cases ok
  · rename_i subscription found
    have present := (getSubscriptionByStripeId_some found).1
    obtain ⟨new, its, replaced, reads⟩ := updateFromStripe_ok present ok
    refine .replaced subscription new ?_ replaced its (reads.writes (Or.inr rfl))
    rw [findTarget, found, targetOf]
  · rename_i found
    refine handleSubscriptionCreated_outcome (Or.inr rfl) ?_ ok
    rw [findTarget, found, targetOf]

theorem handleSubscriptionDeleted_outcome (context : Context)
    {stripeSub : StripeSubscription} {now : Int}
    (ok : handleSubscriptionDeleted rows stripeSub now = .ok (handled, after)) :
    Outcome context rows (.deleted stripeSub now) handled after := by
  unfold handleSubscriptionDeleted at ok
  split at ok
  · cases ok
  · cases ok
    exact .nothing rfl fun _ same => by cases same
  · rename_i subscription found
    have present := (getSubscriptionByStripeId_some found).1
    obtain ⟨its, replaced⟩ :=
      updateRow_ok present (by simp [writeColumns, written_fresh]) ok
    refine .replaced subscription _ ?_ replaced its ⟨?_, nofun⟩
    · rw [findTarget, found, targetOf]
    · exact fun _ carried => absurd carried (Option.not_mem_none _)

theorem handlePayment_outcome (context : Context) {invoice : Invoice} {event : Event}
    {write : Subscription → Subscription} (carried : event.carried = none)
    (target : findTarget context rows event =
      targetOf .nothing (getSubscriptionByStripeId rows invoice.subscription.field))
    (sameRow : ∀ row, writeColumns row (write row) row = write row)
    (access : ∀ row, (write row).hasAccess = true → event.grantsAccess = true)
    (ok : handlePayment rows invoice write = .ok (handled, after)) :
    Outcome context rows event handled after := by
  unfold handlePayment at ok
  split at ok
  · cases ok
    exact .nothing rfl fun _ same => by cases same
  · rename_i id its
    split at ok
    · cases ok
    · cases ok
      exact .nothing rfl fun _ same => by cases same
    · rename_i subscription found
      have present := (getSubscriptionByStripeId_some found).1
      obtain ⟨isRow, replaced⟩ := updateRow_ok present (sameRow subscription) ok
      refine .replaced subscription _ ?_ replaced isRow ⟨?_, access subscription⟩
      · rw [target, its, found, targetOf]
      · rw [carried]
        exact fun _ its => absurd its (Option.not_mem_none _)

theorem processWebhookEvent_outcome {context : Context} {event : Event}
    (ok : processWebhookEvent context rows event = .ok (handled, after)) :
    Outcome context rows event handled after := by
  cases event with
  | created stripeSub => exact handleSubscriptionCreated_outcome (Or.inl rfl) rfl ok
  | updated stripeSub => exact handleSubscriptionUpdated_outcome ok
  | deleted stripeSub now => exact handleSubscriptionDeleted_outcome context ok
  | paymentSucceeded invoice =>
      apply handlePayment_outcome context rfl rfl _ _ ok
      · intro row
        simp [writeColumns, written_fresh]
      · exact fun _ _ => rfl
  | paymentFailed invoice =>
      apply handlePayment_outcome context rfl rfl _ _ ok
      · intro row
        simp [writeColumns, written_fresh]
      · exact fun _ => nofun

theorem logged_rows (state : State) (rows : Rows) (event : Event) :
    (state.logged rows event).rows = rows := by
  cases event <;> rfl

theorem CarefulEvent.follows {createdAt : Identifier → Nat} {state : State} {context : Context}
    {event : Event} (careful : CarefulEvent createdAt state context event) :
    Follows createdAt state context event (state.handle context event) := by
  unfold State.handle
  split
  · rename_i failure failed
    refine ⟨?_, ?_, ?_⟩
    · intro stripeSub _ row rows ok
      rw [failed] at ok
      cases ok
    · exact fun _ _ _ row member access => ⟨row, member, rfl, access⟩
    · exact fun _ _ row member _ _ _ => member
  · rename_i handled rows ok
    have rowsAfter := logged_rows state rows event
    cases processWebhookEvent_outcome ok with
    | nothing same none =>
        have rowsAfter := rowsAfter.trans same
        refine ⟨?_, ?_, ?_⟩
        · intro stripeSub _ row others its
          rw [ok] at its
          cases its
          exact absurd rfl (none row)
        · rw [rowsAfter]
          exact fun _ _ _ row member access => ⟨row, member, rfl, access⟩
        · rw [rowsAfter]
          exact fun _ _ row member _ _ _ => member
    | replaced row new target replaced its writes =>
        refine ⟨?_, ?_, ?_⟩
        · intro stripeSub carried other others same
          rw [ok, its] at same
          cases same
          rw [rowsAfter]
          exact ⟨replaced.written, (writes.reads _ carried).carries (careful.flag _ carried)⟩
        · intro id about deleted other member access
          rw [rowsAfter] at member
          rcases replaced.only other member with older | same
          · exact ⟨other, older, rfl, access⟩
          · rw [same] at access ⊢
            have already := careful.revoked id about deleted (writes.access access)
            rw [target] at already
            exact ⟨row, replaced.present, replaced.sameId.symm, already⟩
        · intro id about other member tracked tracks older
          rw [rowsAfter]
          apply replaced.kept other member
          intro sameId
          have same := SerialRows.eq_of_key_eq member replaced.present sameId
          rw [same] at tracks
          exact absurd older (Nat.not_lt_of_le (careful.newer id about row target _ tracks))
    | inserted new target inserted its writes =>
        refine ⟨?_, ?_, ?_⟩
        · intro stripeSub carried other others same
          rw [ok, its] at same
          cases same
          rw [rowsAfter]
          exact ⟨(inserted new).mpr (Or.inr rfl),
            (writes.reads _ carried).carries (careful.flag _ carried)⟩
        · intro id about deleted other member access
          rw [rowsAfter] at member
          rcases (inserted other).mp member with older | same
          · exact ⟨other, older, rfl, access⟩
          · rw [same] at access
            have never := careful.revoked id about deleted (writes.access access)
            rw [target] at never
            exact never.elim
        · intro id about other member tracked tracks older
          rw [rowsAfter]
          exact (inserted other).mpr (Or.inl member)

/-- Along careful events, the rows follow Stripe. -/
theorem followStripe_of_careful {createdAt : Identifier → Nat} {start : State}
    {actions : List Action} (along : Along step (Careful createdAt) start actions) :
    FollowStripe createdAt start actions := by
  intro transition member context event handles
  have careful := along.of_mem_transitions member
  rw [handles] at careful
  rw [(mem_transitions member).2, handles]
  exact careful.follows

def jsonEntry {α : Type} (value : α) : Entry α := ⟨none, some value⟩

def noEntry {α : Type} : Entry α := ⟨none, none⟩

def stripeId : Identifier := ⟨"sub_1", by decide⟩

def customerId : Identifier := ⟨"cus_1", by decide⟩

def priceId : Identifier := ⟨"price_1", by decide⟩

def stripeObject (status : Status) : StripeSubscription where
  id := jsonEntry stripeId
  customer := jsonEntry customerId
  status := jsonEntry (.known status)
  items := jsonEntry ⟨jsonEntry [⟨jsonEntry ⟨jsonEntry priceId⟩⟩]⟩
  currentPeriodStart := jsonEntry (.integer 100)
  currentPeriodEnd := jsonEntry (.integer 200)
  canceledAt := noEntry
  cancelAtPeriodEnd := jsonEntry false
  metadata := jsonEntry ⟨jsonEntry "vpn", jsonEntry "7"⟩

def paidInvoice : Invoice := ⟨jsonEntry stripeId, jsonEntry (.integer 100), jsonEntry (.integer 200)⟩

def oneUser : Context := ⟨fun id => id == 7, fun _ => none, fun _ => none⟩

def noRows : State := ⟨.empty Subscription Subscription.id, []⟩

def createAndDelete : List Action :=
  [.handle oneUser (.created (stripeObject .active)),
    .handle oneUser (.deleted (stripeObject .canceled) 150)]

def lateInvoice : List Action :=
  createAndDelete ++ [.handle oneUser (.paymentSucceeded paidInvoice)]

theorem not_followStripe_lateInvoice :
    ¬ FollowStripe (fun _ => 0) noRows lateInvoice := by
  intro follow
  have last := follow
    ⟨createAndDelete.foldl step noRows, .handle oneUser (.paymentSucceeded paidInvoice),
      lateInvoice.foldl step noRows⟩
    (List.mem_cons_of_mem _ (List.mem_cons_of_mem _ List.mem_cons_self)) oneUser _ rfl
  have access : ∃ row ∈ (lateInvoice.foldl step noRows).rows.rows, row.hasAccess = true := by
    decide
  have without : ∀ old ∈ (createAndDelete.foldl step noRows).rows.rows,
      old.hasAccess = false := by decide
  obtain ⟨row, member, grants⟩ := access
  obtain ⟨old, older, -, granted⟩ := last.revoked stripeId rfl (by decide) row member grants
  rw [without old older] at granted
  cases granted

-- `false` under an atom alone is read as `nil`.
example : (Entry.flag ⟨some false, none⟩) = none := rfl

def lateUpdate : List Action :=
  createAndDelete ++ [.handle oneUser (.updated (stripeObject .canceled))]

theorem followStripe_lateUpdate : FollowStripe (fun _ => 0) noRows lateUpdate := by
  apply followStripe_of_careful
  refine .cons ⟨?_, ?_, ?_⟩ (.cons ⟨?_, ?_, ?_⟩ (.cons ⟨?_, ?_, ?_⟩ (.nil _ _ _)))
  · intro stripeSub carried
    cases carried
    nofun
  · intro id _ deleted
    cases deleted
  · exact fun _ _ _ _ _ _ => Nat.le_refl 0
  · exact fun _ carried => absurd carried (Option.not_mem_none _)
  · exact fun _ _ _ => nofun
  · exact fun _ _ _ _ _ _ => Nat.le_refl 0
  · intro stripeSub carried
    cases carried
    nofun
  · exact fun _ _ _ => nofun
  · exact fun _ _ _ _ _ _ => Nat.le_refl 0

end Elektrine.Subscriptions
