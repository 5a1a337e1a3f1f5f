import Elektrine.Messaging.ArblargSDK
import Elektrine.Messaging.Federation.EventTracking
import Elektrine.Messaging.Federation.Identity

/-!
# Numbering, targeting and replaying outbound events

Every event takes the next sequence number of its stream when it is built.  Only
afterwards its target domains are filtered by peer, supported event types and
room visibility; an event without a target leaves no outbox row.
-/

namespace Elektrine.Messaging.Federation

structure Peer where
  domain : String
  supportedEventTypes : List String
  supportedExtensions : List String
  compatibilityClaims : List String
  deriving DecidableEq, Repr

/-- Core event types are always supported, the other ones when the peer
advertises the type, its extension or the profile that requires it. -/
def peerSupportsEventType (peer : Peer) (eventType : String) : Bool :=
  let canonical := ArblargSDK.canonicalEventType eventType
  if ArblargSDK.coreEventTypes.contains canonical then
    true
  else if ArblargSDK.supportedEventTypes.contains canonical then
    peer.supportedEventTypes.contains canonical ||
      (ArblargProfiles.extensionUrnForEventType canonical).any
        peer.supportedExtensions.contains ||
      (ArblargProfiles.requiredProfileForEventType canonical).any
        peer.compatibilityClaims.contains
  else
    false

def Dispatch.normalizeDomain (value : String) : Option String :=
  (present value).map downcase

def normalizePeerDomain (value : Json) : Option String :=
  match normalizeOptionalString value with
  | none => none
  | some trimmed =>
      match (uriParse trimmed).host with
      | some host => Dispatch.normalizeDomain host
      | none => Dispatch.normalizeDomain trimmed

def targetActorDomain (target : Json) : Option String :=
  if target.isMap then
    normalizePeerDomain
      ((target.get "domain").orElse ((target.get "uri").orElse (target.get "id")))
  else
    normalizePeerDomain target

def roomTargetEventTypes : List String :=
  ["message.create", "message.update", "message.delete", "reaction.add",
    "reaction.remove", "read.cursor", "membership.upsert", "role.upsert",
    "role.assignment.upsert", "permission.overwrite.upsert", "thread.upsert",
    "thread.archive", "moderation.action.recorded", "typing.start",
    "typing.stop"]

def targetDomainsForInvite (room : List String) (target : Json) : List String :=
  (room ++ (targetActorDomain target).toList).eraseDups

/-- The authorized domains of an event, or `none` when nothing restricts them.
`room` is what `target_domains_for_room` gives for the room of the payload. -/
def targetDomainsForEvent (room : Option (List String)) (eventType : String)
    (payload : Json) : Option (List String) :=
  let name := normalizedEventName eventType
  if roomTargetEventTypes.contains name then
    room
  else if name = "invite.upsert" ∧ (payload.get "invite").isMap then
    room.map fun domains =>
      targetDomainsForInvite domains (payload.getIn ["invite", "target"])
  else if name = "ban.upsert" ∧ (payload.get "ban").isMap then
    room.map fun domains =>
      targetDomainsForInvite domains (payload.getIn ["ban", "target"])
  else
    none

inductive TargetDomains where
  | all
  | listed (domains : List String)
  deriving DecidableEq, Repr

/-- An event as a publisher builds it, with what dispatch finds at that moment:
the peers it may send to and the audience of the room. -/
structure OutboundEvent where
  eventId : String
  idempotencyKey : String
  eventType : String
  payload : Json
  targets : TargetDomains
  outgoingPeers : List Peer
  room : Option (List String)

namespace OutboundEvent

def outgoingPeer (event : OutboundEvent) (domain : String) : Option Peer :=
  event.outgoingPeers.find? fun peer => downcase peer.domain == domain

def filterDomainsForEvent (event : OutboundEvent) (domains : List String) :
    List String :=
  let authorizedDomains :=
    targetDomainsForEvent event.room event.eventType event.payload
  domains.filter fun domain =>
    match normalizeOptionalString (.str event.eventType),
        event.outgoingPeer domain with
    | some eventType, some peer =>
        peerSupportsEventType peer eventType &&
          authorizedDomains.all fun authorized => authorized.contains domain
    | _, _ => false

/-- The `target_domains` of the outbox row; an empty list leaves no row. -/
def peerDomains (event : OutboundEvent) : List String :=
  match event.targets with
  | .all =>
      event.filterDomainsForEvent
        ((event.outgoingPeers.map fun peer => downcase peer.domain).eraseDups)
  | .listed domains =>
      event.filterDomainsForEvent
        (((domains.filterMap present).map downcase).filter fun domain =>
          (event.outgoingPeer domain).isSome).eraseDups

def envelope (event : OutboundEvent) (originDomain streamId : String)
    (sequence : Int) : EventEnvelope where
  protocolVersion := some ArblargSDK.protocolVersion
  eventId := event.eventId
  idempotencyKey := some event.idempotencyKey
  originDomain := originDomain
  eventType := event.eventType
  streamId := streamId
  sequence := .int sequence
  payload := event.payload

end OutboundEvent

/-- A row of `messaging_federation_outbox_events`. -/
structure OutboxRow where
  eventType : String
  sequence : Int
  payload : EventEnvelope
  targetDomains : List String

structure OutboundStream where
  nextSequence : Option Int
  outbox : List OutboxRow

def nextOutboundSequence (stream : OutboundStream) : Int × OutboundStream :=
  match stream.nextSequence with
  | none => (1, { stream with nextSequence := some 2 })
  | some next => (next, { stream with nextSequence := some (next + 1) })

def enqueueOutboxEvent (event : OutboundEvent) (envelope : EventEnvelope)
    (stream : OutboundStream) : OutboundStream :=
  if event.peerDomains.isEmpty then
    stream
  else
    { stream with
      outbox := stream.outbox ++
        [{ eventType := envelope.eventType
           sequence := parseInt envelope.sequence 0
           payload := envelope
           targetDomains := event.peerDomains }] }

def publish (originDomain streamId : String) (stream : OutboundStream)
    (event : OutboundEvent) : OutboundStream :=
  let (sequence, counted) := nextOutboundSequence stream
  enqueueOutboxEvent event (event.envelope originDomain streamId sequence) counted

def publishAll (originDomain streamId : String) (events : List OutboundEvent) :
    OutboundStream :=
  events.foldl (publish originDomain streamId) ⟨none, []⟩

def roomReplayEventTypes : List String :=
  let names :=
    ["message.create", "message.update", "message.delete", "reaction.add",
      "reaction.remove", "read.cursor", "membership.upsert", "role.upsert",
      "role.assignment.upsert", "permission.overwrite.upsert", "thread.upsert",
      "thread.archive", "moderation.action.recorded"]
  names ++ names.map ArblargSDK.canonicalEventType

/-- The replay filter of one peer: rows that target it, and on a room the peer
may see also the rows of room events. -/
def replayVisibilityFilter (peerDomain : String) (roomVisible : Bool)
    (row : OutboxRow) : Bool :=
  row.targetDomains.contains peerDomain ||
    (roomVisible && roomReplayEventTypes.contains row.eventType)

def visibleStreamEvents (peerDomain : String) (roomVisible : Bool)
    (stream : OutboundStream) : List EventEnvelope :=
  (stream.outbox.filter (replayVisibilityFilter peerDomain roomVisible)).map
    OutboxRow.payload

def OutboundEvent.visibleTo (event : OutboundEvent) (peerDomain : String)
    (roomVisible : Bool) : Bool :=
  !event.peerDomains.isEmpty &&
    (event.peerDomains.contains peerDomain ||
      (roomVisible && roomReplayEventTypes.contains event.eventType))

end Elektrine.Messaging.Federation
