import Elektrine.Messaging.Federation.Ingress
import Elektrine.Messaging.Federation.Mirrors

/-!
# Events about messages

The handlers of `message.create`, `message.update` and `message.delete`, and the
two ways in which they are reached: a single event, live or replayed, and the
sections of a snapshot.
-/

namespace Elektrine.Messaging.Federation

open Elektrine.Library
open Mirrors

variable {Rooms : Type} (context : MirrorContext Rooms) (now : DateTime)

namespace MirrorEvents

open MirrorStore

def applyMessageCreate (data : Json) (remoteDomain : String) :
    StoreAction Reason (MirrorStore Rooms) PUnit :=
  let message := data.get "message"
  let sender := message.get "sender"
  if message.isMap && sender.isMap then do
    let (_, channel) ←
      inRooms (context.resolveChannelEventContext data remoteDomain)
    let remoteActorId ←
      inRooms (context.resolveOrCreateRemoteActorId sender remoteDomain)
    ensureRemoteActorMembership context channel remoteActorId .write
    let _ ← upsertMirrorMessage context channel message remoteDomain
    pure ⟨⟩
  else
    StoreAction.fail .invalidEventPayload

def applyMessageUpdate (data : Json) (remoteDomain : String) :
    StoreAction Reason (MirrorStore Rooms) PUnit :=
  let message := data.get "message"
  let sender := message.get "sender"
  if message.isMap && sender.isMap then do
    let (_, channel) ←
      inRooms (context.resolveChannelEventContext data remoteDomain)
    let remoteActorId ←
      inRooms (context.resolveOrCreateRemoteActorId sender remoteDomain)
    ensureRemoteActorMembership context channel remoteActorId .write
    match message.get "id" with
    | .str messageId => do
        ensureRemoteMessageAuthor channel messageId remoteDomain
        let _ ← upsertOrUpdateMirrorMessage context now channel message
          remoteDomain
        pure ⟨⟩
    | _ => StoreAction.fail .invalidEventPayload
  else
    StoreAction.fail .invalidEventPayload

def applyMessageDelete (data : Json) (remoteDomain : String) :
    StoreAction Reason (MirrorStore Rooms) PUnit :=
  match data.get "message_id" with
  | .str messageId => do
      let (_, channel) ←
        inRooms (context.resolveChannelEventContext data remoteDomain)
      ensureRemoteMessageAuthor channel messageId remoteDomain
      let _ ← softDeleteMirrorMessage now channel messageId
        (data.get "deleted_at") remoteDomain
      pure ⟨⟩
  | _ => StoreAction.fail .invalidEventPayload

end MirrorEvents

namespace EventRouter

open MirrorEvents MirrorStore

def applyEvent (eventType : String) (data : Json) (remoteDomain : String) :
    StoreAction Reason (MirrorStore Rooms) PUnit :=
  let handlerEventType := normalizedEventName eventType
  if handlerEventType = "message.create" then
    applyMessageCreate context data remoteDomain
  else if handlerEventType = "message.update" then
    applyMessageUpdate context now data remoteDomain
  else if handlerEventType = "message.delete" then
    applyMessageDelete context now data remoteDomain
  else
    inRooms (context.applyOtherEvent handlerEventType data remoteDomain)

end EventRouter

open EventRouter

def MirrorContext.validateEventPayload (payload : EventEnvelope)
    (remoteDomain : String) : Except Reason Unit := do
  let eventType := ArblargSDK.canonicalEventType payload.eventType
  let data := payload.payload.orElse (.obj [])
  ensure (payload.originDomain == remoteDomain) .originDomainMismatch
  context.validateEventEnvelope payload remoteDomain
  validateOriginBoundActorsInEventData eventType data remoteDomain
  validateOriginOwnedIdentifiersInEventData eventType data remoteDomain
  validateStreamOrigin payload.streamId remoteDomain

def MirrorContext.ingress : IngressContext (MirrorStore Rooms) where
  validateEventPayload := context.validateEventPayload
  applyEvent := applyEvent context now

namespace Snapshots

def importSnapshotGovernance (governance : Json) (remoteDomain : String) :
    StoreAction Reason (MirrorStore Rooms) PUnit :=
  if governance.isMap then
    (snapshotGovernanceEntries governance
        context.validation.snapshotGovernanceLimit).forM
      fun (eventType, payload) => do
        StoreAction.lift (validateSnapshotGovernancePayload context.validation
          eventType payload remoteDomain)
        applyEvent context now eventType payload remoteDomain
  else
    StoreAction.fail .invalidSnapshotGovernance

def importSnapshotExtensions (extensions : List Json) (remoteDomain : String) :
    StoreAction Reason (MirrorStore Rooms) PUnit :=
  extensions.forM fun entry =>
    match entry.get "event_type", (entry.get "payload").isMap with
    | .str eventType, true =>
        applyEvent context now eventType (entry.get "payload") remoteDomain
    | _, _ => StoreAction.fail .invalidPayload

def importSnapshotEvents (eventType : String) (entries : List Json)
    (remoteDomain : String) : StoreAction Reason (MirrorStore Rooms) PUnit :=
  entries.forM fun payload =>
    applyEvent context now eventType payload remoteDomain

end Snapshots

open MirrorStore Snapshots

def MirrorContext.snapshot :
    SnapshotContext (MirrorStore Rooms) Server ChannelMap where
  validation := context.validation
  upsertMirrorServer server remoteDomain :=
    inRooms (context.upsertMirrorServer server remoteDomain)
  upsertMirrorChannels server channels :=
    inRooms (context.upsertMirrorChannels server channels)
  upsertMirrorMessages := upsertMirrorMessages context
  importSnapshotGovernance _ := importSnapshotGovernance context now
  importSnapshotExtensions := importSnapshotExtensions context now
  importSnapshotMessageDeletions := importSnapshotEvents context now "message.delete"
  importSnapshotReactions := importSnapshotEvents context now "reaction.add"
  importSnapshotReadCursors := importSnapshotEvents context now "read.cursor"

inductive MirrorDelivery where
  | event (payload : EventEnvelope)
  | snapshot (payload : Json)

structure MirrorAction where
  delivery : MirrorDelivery
  remoteDomain : String
  receivedAt : DateTime

/-- The delivery is accepted and leaves `after`. -/
def AcceptsDelivery (action : MirrorAction)
    (before after : Database (MirrorStore Rooms)) : Prop :=
  match action.delivery with
  | .event payload =>
      StoreAction.Returns
        (receiveEvent (context.ingress action.receivedAt) payload
          action.remoteDomain) before .applied after
  | .snapshot payload =>
      ∃ server, StoreAction.Returns
        (importServerSnapshot (context.snapshot action.receivedAt) payload
          action.remoteDomain) before server after

def deliver (before : Database (MirrorStore Rooms)) (action : MirrorAction) :
    Database (MirrorStore Rooms) :=
  match action.delivery with
  | .event payload =>
      ((receiveEvent (context.ingress action.receivedAt) payload
        action.remoteDomain).perform before).2
  | .snapshot payload =>
      ((importServerSnapshot (context.snapshot action.receivedAt) payload
        action.remoteDomain).perform before).2

end Elektrine.Messaging.Federation
