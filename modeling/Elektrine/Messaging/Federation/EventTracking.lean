import Mathlib.Logic.Function.Basic
import Elektrine.Library.Transaction
import Elektrine.Messaging.ArblargSDK
import Elektrine.Messaging.Federation.Utils

/-!
# Event claims and stream positions

A received event first claims its identifiers; the claim is an insertion that a
unique index may turn into a no-op.  The stream position of an origin says which
sequence was applied last on one of its streams.
-/

namespace Elektrine.Messaging.Federation

open Elektrine.Library

structure EventEnvelope where
  protocolVersion : Option String
  eventId : String
  idempotencyKey : Option String
  originDomain : String
  eventType : String
  streamId : String
  sequence : Json
  payload : Json

/-- A row of `messaging_federation_events`. -/
structure FederationEvent where
  protocolVersion : String
  eventId : String
  idempotencyKey : String
  originDomain : String
  eventType : String
  streamId : String
  sequence : Int
  payload : EventEnvelope

/-- The unique index of `messaging_federation_stream_positions`. -/
structure StreamKey where
  originDomain : String
  streamId : String
  deriving DecidableEq, Repr

abbrev StreamPositions := StreamKey → Option Int

/-- The event claims, the stream positions, and everything `apply_event` writes. -/
structure Database (Projections : Type) where
  federationEvents : List FederationEvent
  streamPositions : StreamPositions
  projections : Projections

variable {Projections : Type}

def lastSequence (positions : StreamPositions) (key : StreamKey) : Int :=
  (positions key).getD 0

namespace EventEnvelope

def claimedKey (payload : EventEnvelope) : String :=
  payload.idempotencyKey.getD payload.eventId

def incomingSequence (payload : EventEnvelope) : Int :=
  parseInt payload.sequence 0

def row (payload : EventEnvelope) (remoteDomain : String) : FederationEvent where
  protocolVersion :=
    payload.protocolVersion.getD ArblargSDK.protocolVersion
  eventId := payload.eventId
  idempotencyKey := payload.claimedKey
  originDomain := remoteDomain
  eventType := ArblargSDK.canonicalEventType payload.eventType
  streamId := payload.streamId
  sequence := payload.incomingSequence
  payload := payload

end EventEnvelope

/-- Two rows violate one of the unique indexes on `(origin_domain, event_id)`
and `(origin_domain, idempotency_key)`. -/
def FederationEvent.conflicts (left right : FederationEvent) : Prop :=
  left.originDomain = right.originDomain ∧
    (left.eventId = right.eventId ∨ left.idempotencyKey = right.idempotencyKey)

instance (left right : FederationEvent) : Decidable (left.conflicts right) :=
  inferInstanceAs (Decidable (_ ∧ (_ ∨ _)))

/-- Some stored row already holds one of the event's identifiers. -/
def Claimed (events : List FederationEvent) (payload : EventEnvelope)
    (remoteDomain : String) : Prop :=
  ∃ stored ∈ events, (payload.row remoteDomain).conflicts stored

instance (events : List FederationEvent) (payload : EventEnvelope)
    (remoteDomain : String) : Decidable (Claimed events payload remoteDomain) :=
  inferInstanceAs (Decidable (∃ stored ∈ events, _))

inductive Claim where
  | new
  | duplicate
  deriving DecidableEq, Repr

inductive SequenceCheck where
  | ok
  | stale
  | error (reason : Reason)
  deriving DecidableEq, Repr

def claimEventId (payload : EventEnvelope) (remoteDomain : String) :
    StoreAction Reason (Database Projections) Claim := do
  let events ← StoreAction.query Database.federationEvents
  if Claimed events payload remoteDomain then
    pure .duplicate
  else
    StoreAction.write fun database =>
      { database with
        federationEvents :=
          payload.row remoteDomain :: database.federationEvents }
    pure .new

/-- The branches of `check_sequence` once the position has been read. -/
def sequenceVerdict (incoming last : Int) : SequenceCheck :=
  if incoming ≤ last then .stale
  else if incoming > last + 1 then .error .sequenceGap
  else .ok

def checkSequence (payload : EventEnvelope) (remoteDomain : String) :
    StoreAction Reason (Database Projections) SequenceCheck := do
  let positions ← StoreAction.query Database.streamPositions
  pure (sequenceVerdict payload.incomingSequence
    (lastSequence positions ⟨remoteDomain, payload.streamId⟩))

def storeStreamPosition (remoteDomain streamId : String) (sequence : Json) :
    StoreAction Reason (Database Projections) PUnit :=
  StoreAction.write fun database =>
    { database with
      streamPositions :=
        Function.update database.streamPositions ⟨remoteDomain, streamId⟩
          (some (parseInt sequence 0)) }

theorem Claimed.mono {events : List FederationEvent} {payload : EventEnvelope}
    {remoteDomain : String} (claimed : Claimed events payload remoteDomain)
    (added : FederationEvent) :
    Claimed (added :: events) payload remoteDomain := by
  obtain ⟨stored, member, conflict⟩ := claimed
  exact ⟨stored, List.mem_cons_of_mem _ member, conflict⟩

theorem returns_claimEventId_iff
    {payload : EventEnvelope} {remoteDomain : String}
    {result : Claim} {before after : Database Projections} :
    StoreAction.Returns (claimEventId payload remoteDomain) before result after ↔
      (Claimed before.federationEvents payload remoteDomain ∧
        result = .duplicate ∧ after = before) ∨
      (¬ Claimed before.federationEvents payload remoteDomain ∧
        result = .new ∧
        after = { before with
          federationEvents :=
            payload.row remoteDomain :: before.federationEvents }) := by
  simp only [claimEventId, StoreAction.returns_bind_iff,
    StoreAction.returns_query_iff]
  by_cases claimed : Claimed before.federationEvents payload remoteDomain
  · simp [claimed]
  · simp [claimed, and_comm]

theorem sequenceVerdict_stale_iff {incoming last : Int} :
    sequenceVerdict incoming last = .stale ↔ incoming ≤ last := by
  unfold sequenceVerdict
  split_ifs <;> simp_all

theorem sequenceVerdict_ok_iff {incoming last : Int} :
    sequenceVerdict incoming last = .ok ↔ incoming = last + 1 := by
  unfold sequenceVerdict
  split_ifs <;> simp <;> omega

theorem returns_checkSequence_iff
    {payload : EventEnvelope} {remoteDomain : String}
    {result : SequenceCheck} {before after : Database Projections} :
    StoreAction.Returns (checkSequence payload remoteDomain) before result after ↔
      result = sequenceVerdict payload.incomingSequence
          (lastSequence before.streamPositions
            ⟨remoteDomain, payload.streamId⟩) ∧
        after = before := by
  simp [checkSequence, and_comm]

theorem returns_storeStreamPosition_iff
    {remoteDomain streamId : String} {sequence : Json} {result : PUnit}
    {before after : Database Projections} :
    StoreAction.Returns (storeStreamPosition remoteDomain streamId sequence)
        before result after ↔
      after = { before with
        streamPositions :=
          Function.update before.streamPositions ⟨remoteDomain, streamId⟩
            (some (parseInt sequence 0)) } :=
  StoreAction.returns_write_iff

end Elektrine.Messaging.Federation
