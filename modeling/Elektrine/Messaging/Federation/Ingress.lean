import Elektrine.Messaging.Federation.EventTracking
import Elektrine.Library.Consecutive

/-!
# Receiving durable events

`receiveEvent` validates an envelope and then claims, orders and applies it in
one transaction.  The projections are left abstract: `applyEvent` stands for any
of the event handlers, which write their own tables and nothing else.
-/

namespace Elektrine.Messaging.Federation

open Elektrine.Library

variable {Projections : Type}

/-- The functions `receive_event` is handed by its context. -/
structure IngressContext (Projections : Type) where
  validateEventPayload : EventEnvelope → String → Except Reason Unit
  applyEvent : String → Json → String → StoreAction Reason Projections PUnit

inductive ReceiveResult where
  | applied
  | duplicate
  | stale
  deriving DecidableEq, Repr

def normalizeIncomingEventPayload (payload : EventEnvelope) : EventEnvelope :=
  payload

/-- `apply_event` inside the transaction of the receiver. -/
def IngressContext.applyInDatabase (context : IngressContext Projections)
    (payload : EventEnvelope) (remoteDomain : String) :
    StoreAction Reason (Database Projections) PUnit :=
  StoreAction.focus Database.projections
    (fun projections database => { database with projections })
    (context.applyEvent (ArblargSDK.canonicalEventType payload.eventType)
      (payload.payload.orElse (.obj [])) remoteDomain)

/-- The body of the transaction of `receive_event`. -/
def claimAndApply (context : IngressContext Projections)
    (payload : EventEnvelope) (remoteDomain : String) :
    StoreAction Reason (Database Projections) ReceiveResult := do
  match ← claimEventId payload remoteDomain with
  | .duplicate => pure .duplicate
  | .new =>
      match ← checkSequence payload remoteDomain with
      | .stale => pure .stale
      | .error reason => StoreAction.fail reason
      | .ok =>
          context.applyInDatabase payload remoteDomain
          storeStreamPosition remoteDomain payload.streamId payload.sequence
          pure .applied

def receiveEvent (context : IngressContext Projections)
    (payload : EventEnvelope) (remoteDomain : String) :
    StoreAction Reason (Database Projections) ReceiveResult :=
  match context.validateEventPayload payload remoteDomain with
  | .error reason => StoreAction.fail reason
  | .ok () =>
      StoreAction.transaction
        (claimAndApply context (normalizeIncomingEventPayload payload)
          remoteDomain)

namespace Database

def withClaim (database : Database Projections) (payload : EventEnvelope)
    (remoteDomain : String) : Database Projections :=
  { database with
    federationEvents := payload.row remoteDomain :: database.federationEvents }

def withApplied (database : Database Projections) (payload : EventEnvelope)
    (remoteDomain : String) (projections : Projections) :
    Database Projections where
  federationEvents := payload.row remoteDomain :: database.federationEvents
  streamPositions :=
    Function.update database.streamPositions ⟨remoteDomain, payload.streamId⟩
      (some payload.incomingSequence)
  projections := projections

def positionOf (database : Database Projections)
    (payload : EventEnvelope) (remoteDomain : String) : Int :=
  lastSequence database.streamPositions ⟨remoteDomain, payload.streamId⟩

end Database

/-- The projection handler accepts the event and leaves `after`. -/
def IngressContext.Projects (context : IngressContext Projections)
    (payload : EventEnvelope) (remoteDomain : String)
    (before after : Projections) : Prop :=
  StoreAction.Returns
    (context.applyEvent (ArblargSDK.canonicalEventType payload.eventType)
      (payload.payload.orElse (.obj [])) remoteDomain)
    before ⟨⟩ after

/-- Everything a call of `receive_event` that does not fail can do. -/
inductive Receives (context : IngressContext Projections)
    (payload : EventEnvelope) (remoteDomain : String)
    (before : Database Projections) :
    ReceiveResult → Database Projections → Prop where
  | duplicate :
      Claimed before.federationEvents payload remoteDomain →
      Receives context payload remoteDomain before .duplicate before
  | stale :
      ¬ Claimed before.federationEvents payload remoteDomain →
      payload.incomingSequence ≤ before.positionOf payload remoteDomain →
      Receives context payload remoteDomain before .stale
        (before.withClaim payload remoteDomain)
  | applied {projections : Projections} :
      ¬ Claimed before.federationEvents payload remoteDomain →
      payload.incomingSequence = before.positionOf payload remoteDomain + 1 →
      context.Projects payload remoteDomain before.projections projections →
      Receives context payload remoteDomain before .applied
        (before.withApplied payload remoteDomain projections)

theorem returns_applyInDatabase_iff
    {context : IngressContext Projections} {payload : EventEnvelope}
    {remoteDomain : String} {result : PUnit}
    {before after : Database Projections} :
    StoreAction.Returns (context.applyInDatabase payload remoteDomain)
        before result after ↔
      ∃ projections,
        context.Projects payload remoteDomain before.projections projections ∧
        after = { before with projections } :=
  StoreAction.returns_focus_iff

theorem returns_claimAndApply_iff
    {context : IngressContext Projections} {payload : EventEnvelope}
    {remoteDomain : String} {result : ReceiveResult}
    {before after : Database Projections} :
    StoreAction.Returns (claimAndApply context payload remoteDomain)
        before result after ↔
      Receives context payload remoteDomain before result after := by
  rw [claimAndApply, StoreAction.returns_bind_iff]
  constructor
  · rintro ⟨claim, claimedStore, claimed, returned⟩
    rcases returns_claimEventId_iff.mp claimed with
      ⟨known, rfl, rfl⟩ | ⟨fresh, rfl, rfl⟩
    · obtain ⟨rfl, rfl⟩ := StoreAction.returns_pure_iff.mp returned
      exact .duplicate known
    · obtain ⟨verdict, checkedStore, checked, finished⟩ :=
        StoreAction.returns_bind_iff.mp returned
      obtain ⟨verdictEq, rfl⟩ := returns_checkSequence_iff.mp checked
      cases verdict with
      | stale =>
          obtain ⟨rfl, rfl⟩ := StoreAction.returns_pure_iff.mp finished
          exact .stale fresh (sequenceVerdict_stale_iff.mp verdictEq.symm)
      | error reason => exact (StoreAction.not_returns_fail finished).elim
      | ok =>
          obtain ⟨_, projected, projects, stored⟩ :=
            StoreAction.returns_bind_iff.mp finished
          obtain ⟨projections, projection, rfl⟩ :=
            returns_applyInDatabase_iff.mp projects
          obtain ⟨_, positioned, position, last⟩ :=
            StoreAction.returns_bind_iff.mp stored
          obtain rfl := returns_storeStreamPosition_iff.mp position
          obtain ⟨rfl, rfl⟩ := StoreAction.returns_pure_iff.mp last
          exact .applied fresh (sequenceVerdict_ok_iff.mp verdictEq.symm)
            projection
  · intro received
    cases received with
    | duplicate known =>
        exact ⟨.duplicate, _, returns_claimEventId_iff.mpr
          (.inl ⟨known, rfl, rfl⟩), StoreAction.returns_pure_iff.mpr ⟨rfl, rfl⟩⟩
    | stale fresh old =>
        refine ⟨.new, _, returns_claimEventId_iff.mpr
          (.inr ⟨fresh, rfl, rfl⟩), StoreAction.returns_bind_iff.mpr
          ⟨.stale, _, returns_checkSequence_iff.mpr ⟨?_, rfl⟩,
            StoreAction.returns_pure_iff.mpr ⟨rfl, rfl⟩⟩⟩
        exact (sequenceVerdict_stale_iff.mpr old).symm
    | applied fresh next projection =>
        refine ⟨.new, _, returns_claimEventId_iff.mpr
          (.inr ⟨fresh, rfl, rfl⟩), StoreAction.returns_bind_iff.mpr
          ⟨.ok, _, returns_checkSequence_iff.mpr ⟨?_, rfl⟩,
            StoreAction.returns_bind_iff.mpr ⟨⟨⟩, _,
              returns_applyInDatabase_iff.mpr ⟨_, projection, rfl⟩,
              StoreAction.returns_bind_iff.mpr ⟨⟨⟩, _,
                returns_storeStreamPosition_iff.mpr rfl,
                StoreAction.returns_pure_iff.mpr ⟨rfl, rfl⟩⟩⟩⟩⟩
        exact (sequenceVerdict_ok_iff.mpr next).symm

theorem returns_receiveEvent_iff
    {context : IngressContext Projections} {payload : EventEnvelope}
    {remoteDomain : String} {result : ReceiveResult}
    {before after : Database Projections} :
    StoreAction.Returns (receiveEvent context payload remoteDomain)
        before result after ↔
      context.validateEventPayload payload remoteDomain = .ok () ∧
        Receives context payload remoteDomain before result after := by
  unfold receiveEvent
  rcases context.validateEventPayload payload remoteDomain with reason | ⟨⟩
  · simp
  · simp only [StoreAction.returns_transaction_iff, true_and]
    exact returns_claimAndApply_iff

theorem receiveEvent_fails_unchanged
    {context : IngressContext Projections} {payload : EventEnvelope}
    {remoteDomain : String} {reason : Reason}
    {before after : Database Projections}
    (failed : StoreAction.Fails (receiveEvent context payload remoteDomain)
      before reason after) :
    after = before := by
  unfold receiveEvent at failed
  split at failed
  · exact (StoreAction.fails_fail_iff.mp failed).2
  · exact (StoreAction.fails_transaction_iff.mp failed).1

end Elektrine.Messaging.Federation

/-!
## Runs of the receiver on one stream

A run hands durable events to `receiveEvent` one after the other.  `InOrder`
couples the claims, the position and the applied events of a run; each step
preserves it, so it holds of every run.
-/

namespace Elektrine.Messaging.Federation

open Elektrine.Library

variable {Projections : Type}

structure Delivery where
  event : EventEnvelope
  result : Except Reason ReceiveResult

/-- Hand the events to `receiveEvent` in the order of the list. -/
def receiveEvents (context : IngressContext Projections) (remoteDomain : String) :
    List EventEnvelope → Database Projections →
      List Delivery × Database Projections
  | [], database => ([], database)
  | event :: rest, database =>
      let (result, next) :=
        (receiveEvent context event remoteDomain).perform database
      let (deliveries, last) := receiveEvents context remoteDomain rest next
      (⟨event, result⟩ :: deliveries, last)

def Delivery.appliedEvent? (delivery : Delivery) : Option EventEnvelope :=
  match delivery.result with
  | .ok .applied => some delivery.event
  | _ => none

/-- The events that were answered with `:applied`, in order. -/
def appliedEvents (deliveries : List Delivery) : List EventEnvelope :=
  deliveries.filterMap Delivery.appliedEvent?

@[simp] theorem appliedEvents_cons (delivery : Delivery)
    (deliveries : List Delivery) :
    appliedEvents (delivery :: deliveries) =
      delivery.appliedEvent?.toList ++ appliedEvents deliveries := by
  cases answered : delivery.appliedEvent? <;> simp [appliedEvents, answered]

theorem receiveEvents_cons
    {context : IngressContext Projections} {remoteDomain : String}
    {event : EventEnvelope} {before next : Database Projections}
    {result : Except Reason ReceiveResult}
    (performed : (receiveEvent context event remoteDomain).perform before =
      (result, next)) (rest : List EventEnvelope) :
    receiveEvents context remoteDomain (event :: rest) before =
      (⟨event, result⟩ :: (receiveEvents context remoteDomain rest next).1,
        (receiveEvents context remoteDomain rest next).2) := by
  simp [receiveEvents, performed]

structure InOrder (remoteDomain streamId : String)
    (before : Database Projections) (applied : List EventEnvelope)
    (after : Database Projections) : Prop where
  sequences : Continues (lastSequence before.streamPositions ⟨remoteDomain, streamId⟩)
    (applied.map EventEnvelope.incomingSequence)
  eventIds : (applied.map EventEnvelope.eventId).Nodup
  idempotencyKeys : (applied.map EventEnvelope.claimedKey).Nodup
  fresh : ∀ event ∈ applied,
    ¬ Claimed before.federationEvents event remoteDomain
  position : after.streamPositions ⟨remoteDomain, streamId⟩ =
    (applied.getLast?.map EventEnvelope.incomingSequence).or
      (before.streamPositions ⟨remoteDomain, streamId⟩)

namespace InOrder

variable {remoteDomain streamId : String}
variable {before middle after : Database Projections}
variable {applied : List EventEnvelope}

theorem refl (database : Database Projections) :
    InOrder remoteDomain streamId database [] database where
  sequences := .nil _
  eventIds := List.nodup_nil
  idempotencyKeys := List.nodup_nil
  fresh := by simp
  position := by simp

theorem skip
    (later : InOrder remoteDomain streamId middle applied after)
    (claims : ∀ event, Claimed before.federationEvents event remoteDomain →
      Claimed middle.federationEvents event remoteDomain)
    (position : middle.streamPositions = before.streamPositions) :
    InOrder remoteDomain streamId before applied after where
  sequences := position ▸ later.sequences
  eventIds := later.eventIds
  idempotencyKeys := later.idempotencyKeys
  fresh event member claimed := later.fresh event member (claims event claimed)
  position := position ▸ later.position

theorem cons {event : EventEnvelope} {projections : Projections}
    (stream : event.streamId = streamId)
    (unclaimed : ¬ Claimed before.federationEvents event remoteDomain)
    (next : event.incomingSequence = before.positionOf event remoteDomain + 1)
    (later : InOrder remoteDomain streamId
      (before.withApplied event remoteDomain projections) applied after) :
    InOrder remoteDomain streamId before (event :: applied) after := by
  subst stream
  have stored : (before.withApplied event remoteDomain projections).streamPositions
      ⟨remoteDomain, event.streamId⟩ = some event.incomingSequence := by
    simp [Database.withApplied]
  -- a later applied event is unclaimed after this one, so it shares no identifier
  have different : ∀ other ∈ applied, other.eventId ≠ event.eventId ∧
      other.claimedKey ≠ event.claimedKey := by
    intro other member
    have fresh := later.fresh other member
    constructor
    · intro same
      exact fresh ⟨_, List.mem_cons_self, rfl, .inl same⟩
    · intro same
      exact fresh ⟨_, List.mem_cons_self, rfl, .inr same⟩
  refine ⟨⟨next, ?_⟩, ?_, ?_, ?_, ?_⟩
  · simpa [lastSequence, stored] using later.sequences
  · refine List.nodup_cons.mpr ⟨?_, later.eventIds⟩
    intro member
    obtain ⟨other, otherMember, same⟩ := List.mem_map.mp member
    exact (different other otherMember).1 same
  · refine List.nodup_cons.mpr ⟨?_, later.idempotencyKeys⟩
    intro member
    obtain ⟨other, otherMember, same⟩ := List.mem_map.mp member
    exact (different other otherMember).2 same
  · intro other member
    rcases List.mem_cons.mp member with rfl | member
    · exact unclaimed
    · intro claimed
      exact later.fresh other member (claimed.mono _)
  · rw [later.position, stored, List.getLast?_cons]
    cases applied.getLast? <;> rfl

theorem lastSequence_after
    (inOrder : InOrder remoteDomain streamId before applied after) :
    lastSequence after.streamPositions ⟨remoteDomain, streamId⟩ =
      lastSequence before.streamPositions ⟨remoteDomain, streamId⟩ +
        applied.length := by
  rw [← List.length_map EventEnvelope.incomingSequence,
    ← inOrder.sequences.final_eq, lastSequence, inOrder.position,
    Continues.final, List.getLast?_map]
  cases applied.getLast? <;> rfl

end InOrder

theorem receiveEvent_cases (context : IngressContext Projections)
    (event : EventEnvelope) (remoteDomain : String)
    (before : Database Projections) :
    (∃ reason, (receiveEvent context event remoteDomain).perform before =
      (.error reason, before)) ∨
    ∃ result after, (receiveEvent context event remoteDomain).perform before =
      (.ok result, after) ∧
      Receives context event remoteDomain before result after := by
  rcases outcome : (receiveEvent context event remoteDomain).perform before with
    ⟨reason | result, after⟩
  · left
    obtain rfl := receiveEvent_fails_unchanged outcome
    exact ⟨reason, rfl⟩
  · right
    exact ⟨result, after, rfl, (returns_receiveEvent_iff.mp outcome).2⟩

theorem receiveEvents_inOrder
    (context : IngressContext Projections) (remoteDomain streamId : String)
    (events : List EventEnvelope)
    (onStream : ∀ event ∈ events, event.streamId = streamId)
    (before : Database Projections) :
    InOrder remoteDomain streamId before
      (appliedEvents (receiveEvents context remoteDomain events before).1)
      (receiveEvents context remoteDomain events before).2 := by
  induction events generalizing before with
  | nil => exact .refl before
  | cons event rest ih =>
      have later := ih fun other member =>
        onStream other (List.mem_cons_of_mem _ member)
      rcases receiveEvent_cases context event remoteDomain before with
        ⟨reason, performed⟩ | ⟨result, next, performed, received⟩
      · rw [receiveEvents_cons performed]
        exact later before
      · rw [receiveEvents_cons performed]
        cases received with
        | duplicate known => exact later before
        | stale fresh old =>
            exact (later (before.withClaim event remoteDomain)).skip
              (fun other claimed => claimed.mono (event.row remoteDomain)) rfl
        | @applied projections fresh successor projection =>
            exact (later
              (before.withApplied event remoteDomain projections)).cons
                (onStream event List.mem_cons_self) fresh successor

theorem receiveEvents_append
    (context : IngressContext Projections) (remoteDomain : String)
    (front back : List EventEnvelope) (before : Database Projections) :
    receiveEvents context remoteDomain (front ++ back) before =
      ((receiveEvents context remoteDomain front before).1 ++
        (receiveEvents context remoteDomain back
          (receiveEvents context remoteDomain front before).2).1,
      (receiveEvents context remoteDomain back
        (receiveEvents context remoteDomain front before).2).2) := by
  induction front generalizing before with
  | nil => rfl
  | cons event rest ih => simp [receiveEvents, ih]

/-- The database in front of the event that follows `front` in a run. -/
def databaseAfter (context : IngressContext Projections) (remoteDomain : String)
    (front : List EventEnvelope) (before : Database Projections) :
    Database Projections :=
  (receiveEvents context remoteDomain front before).2

structure InOrderExactlyOnce (context : IngressContext Projections)
    (remoteDomain streamId : String) (events : List EventEnvelope)
    (before : Database Projections) : Prop where
  /-- Applied sequences continue from the stored position without a gap, no
  identifier is applied twice or again, and the position is that of the last
  applied event. -/
  inOrder : InOrder remoteDomain streamId before
    (appliedEvents (receiveEvents context remoteDomain events before).1)
    (receiveEvents context remoteDomain events before).2
  neverDecreases : ∀ front middle back, events = front ++ middle ++ back →
    lastSequence (databaseAfter context remoteDomain front before).streamPositions
        ⟨remoteDomain, streamId⟩ ≤
      lastSequence
        (databaseAfter context remoteDomain (front ++ middle) before).streamPositions
        ⟨remoteDomain, streamId⟩
  refusedUnchanged : ∀ front event back reason after,
    events = front ++ event :: back →
    StoreAction.Fails (receiveEvent context event remoteDomain)
      (databaseAfter context remoteDomain front before) reason after →
    after = databaseAfter context remoteDomain front before
  /-- A valid event that was refused is unclaimed, and any later call with its
  identifiers still free, its turn come and its projection ready applies it. -/
  refusedAcceptedLater : ∀ front event back reason after,
    events = front ++ event :: back →
    context.validateEventPayload event remoteDomain = .ok () →
    StoreAction.Fails (receiveEvent context event remoteDomain)
      (databaseAfter context remoteDomain front before) reason after →
    ¬ Claimed after.federationEvents event remoteDomain ∧
      ∀ (later : Database Projections) projections,
        ¬ Claimed later.federationEvents event remoteDomain →
        event.incomingSequence = later.positionOf event remoteDomain + 1 →
        context.Projects event remoteDomain later.projections projections →
        StoreAction.Returns (receiveEvent context event remoteDomain)
          later .applied (later.withApplied event remoteDomain projections)

theorem not_claimed_of_fails
    {context : IngressContext Projections} {event : EventEnvelope}
    {remoteDomain : String} {reason : Reason}
    {before after : Database Projections}
    (valid : context.validateEventPayload event remoteDomain = .ok ())
    (failed : StoreAction.Fails (receiveEvent context event remoteDomain)
      before reason after) :
    ¬ Claimed before.federationEvents event remoteDomain := by
  intro claimed
  have returned := returns_receiveEvent_iff.mpr ⟨valid, .duplicate claimed⟩
  cases failed.symm.trans returned

theorem receiveEvents_inOrderExactlyOnce
    (context : IngressContext Projections) (remoteDomain streamId : String)
    (events : List EventEnvelope)
    (onStream : ∀ event ∈ events, event.streamId = streamId)
    (before : Database Projections) :
    InOrderExactlyOnce context remoteDomain streamId events before where
  inOrder := receiveEvents_inOrder context remoteDomain streamId events onStream
    before
  neverDecreases := by
    rintro front middle back rfl
    have stepped := receiveEvents_inOrder context remoteDomain streamId middle
      (fun event member => onStream event (by simp [member]))
      (databaseAfter context remoteDomain front before)
    have advanced := stepped.lastSequence_after
    simp only [databaseAfter, receiveEvents_append] at advanced ⊢
    omega
  refusedUnchanged := fun _ _ _ _ _ _ failed =>
    receiveEvent_fails_unchanged failed
  refusedAcceptedLater := by
    intro front event back reason after _ valid failed
    obtain rfl := receiveEvent_fails_unchanged failed
    refine ⟨not_claimed_of_fails valid failed, ?_⟩
    intro later projections unclaimed turn projects
    exact returns_receiveEvent_iff.mpr
      ⟨valid, .applied unclaimed turn projects⟩

def countingContext : IngressContext Nat where
  validateEventPayload _ _ := .ok ()
  applyEvent _ _ _ := StoreAction.write (· + 1)

def emptyDatabase : Database Nat where
  federationEvents := []
  streamPositions := fun _ => none
  projections := 0

/-- A `message.create` envelope on the stream of one channel. -/
def channelEvent (eventId idempotencyKey : String) (sequence : Int) :
    EventEnvelope where
  protocolVersion := some "1.0"
  eventId := eventId
  idempotencyKey := some idempotencyKey
  originDomain := "remote.example"
  eventType := "message.create"
  streamId := "channel:https://remote.example/_arblarg/channels/7"
  sequence := .int sequence
  payload := .obj []

def disorderedEvents : List EventEnvelope :=
  [channelEvent "e1" "k1" 1, channelEvent "e3" "k3" 3, channelEvent "e1" "k1" 1,
    channelEvent "e9" "k1" 2, channelEvent "e2" "k2" 2, channelEvent "e3" "k3" 3]

theorem receiveEvents_inOrderExactlyOnce_disordered :
    InOrderExactlyOnce countingContext "remote.example"
        "channel:https://remote.example/_arblarg/channels/7"
        disorderedEvents emptyDatabase ∧
      (appliedEvents (receiveEvents countingContext "remote.example"
        disorderedEvents emptyDatabase).1).map EventEnvelope.eventId =
          ["e1", "e2", "e3"] := by
  refine ⟨receiveEvents_inOrderExactlyOnce _ _ _ _ ?_ _, by decide⟩
  decide

end Elektrine.Messaging.Federation
