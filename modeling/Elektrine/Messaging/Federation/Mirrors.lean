import Elektrine.Messaging.ChatMessage
import Elektrine.Messaging.Federation.MirrorEvents
import Elektrine.Messaging.Federation.Snapshots

/-!
# Mirrored messages

The messages of rooms, keyed by their conversation and the identifier they have
among the nodes.  A mirrored message is written once, its content can be
replaced, and a deletion leaves the row behind; a deletion that arrives first
leaves a row with nothing else in it.
-/

namespace Elektrine.Messaging.Federation

open Elektrine.Library

variable {Rooms : Type}

/-- The messages of rooms and all other tables.  Direct messages and the system
messages of extensions have keys of their own and count as other tables. -/
structure MirrorStore (Rooms : Type) where
  chatMessages : Table (Int × String) ChatMessage
  rooms : Rooms

abbrev ChannelMap := List (String × ChatConversation)

/-- The functions that message events and snapshot imports are handed, and what
they do to the other tables. -/
structure MirrorContext (Rooms : Type) where
  validation : ValidationContext
  validateEventEnvelope : EventEnvelope → String → Except Reason Unit
  resolveChannelEventContext :
    Json → String → StoreAction Reason Rooms (Server × ChatConversation)
  resolveOrCreateRemoteActorId :
    Json → String → StoreAction Reason Rooms Int
  serverExists : Rooms → Int → Bool
  authorizeRemoteActorAction :
    Rooms → ChatConversation → Int → RoomACL.Action → Except Reason PUnit
  normalizeMessageAttachments : Json → List Json
  attachmentStorageMetadata : List Json → Json
  resolveThreadForMessageRef : Rooms → Int → String → Option Int
  recordMessageActivity : ChatMessage → Rooms → Rooms
  /-- `apply_event` for the event types that are not about a message. -/
  applyOtherEvent : String → Json → String → StoreAction Reason Rooms PUnit
  upsertMirrorServer : Json → String → StoreAction Reason Rooms Server
  upsertMirrorChannels :
    Server → List Json → StoreAction Reason Rooms ChannelMap

namespace MirrorStore

def inRooms {α : Type} (action : StoreAction Reason Rooms α) :
    StoreAction Reason (MirrorStore Rooms) α :=
  StoreAction.focus MirrorStore.rooms
    (fun rooms store => { store with rooms }) action

def message (store : MirrorStore Rooms) (channel : ChatConversation)
    (federationId : String) : Option ChatMessage :=
  store.chatMessages (channel.id, federationId)

def saveMessage (channel : ChatConversation) (federationId : String)
    (changeset : Except Reason ChatMessage) :
    StoreAction Reason (MirrorStore Rooms) ChatMessage := do
  let message ← StoreAction.lift changeset
  StoreAction.write fun store =>
    { store with
      chatMessages :=
        Function.update store.chatMessages (channel.id, federationId)
          (some message) }
  pure message

end MirrorStore

namespace Mirrors

open MirrorEvents (castText normalizeDomain)
open MirrorStore

def uriHost : Json → Option String
  | .str value =>
      (uriParse value).host.bind fun host =>
        (present host).map fun _ => downcase host
  | _ => none

def hostBelongsToDomain (host domain : String) : Bool :=
  match normalizeDomain (some host), normalizeDomain (some domain) with
  | some host, some domain =>
      host == domain || ("." ++ domain).toList.isSuffixOf host.toList
  | _, _ => false

def actorDomainFromPayload (actor : Json) : Option String :=
  match (actor.get "domain").orElse .null with
  | .null => normalizeDomain (uriHost ((actor.get "uri").orElse .null))
  | domain => normalizeDomain domain.asString?

/-- The domain a message is attributed to: the one of its sender when that owns
the identifier, and otherwise the host of the identifier. -/
def messageOriginDomain (payload : Json) (fallbackDomain : String) :
    Option String :=
  match actorDomainFromPayload (payload.get "sender"),
      uriHost (payload.get "id") with
  | some senderDomain, some messageHost =>
      if hostBelongsToDomain messageHost senderDomain then
        normalizeDomain (some senderDomain)
      else
        normalizeDomain (some messageHost)
  | none, some messageHost => normalizeDomain (some messageHost)
  | _, none => normalizeDomain (some fallbackDomain)

def clientEncryptedPayload (payload : Json) : Option Json :=
  let encrypted := (payload.get "client_encrypted_payload").orElse
    (payload.getIn ["e2ee", "payload"])
  if encrypted.isMap then some encrypted else none

def normalizeMessageType : Json → String
  | .str type => if ChatMessage.messageTypes.contains type then type else "text"
  | _ => "text"

section

variable (context : MirrorContext Rooms) (now : DateTime)

def resolveMessageThread (rooms : Rooms) (conversationId : Int) :
    Json → Option Int
  | .str ref => context.resolveThreadForMessageRef rooms conversationId ref
  | _ => none

def castMessageContent (payload : Json) (message : ChatMessage) :
    Option ChatMessage := do
  let attachments := context.normalizeMessageAttachments payload
  let content ← castText (payload.get "content")
  let mediaUrls ← attachments.mapM fun attachment =>
    (attachment.get "url").asString?
  some
    { message with
      content := content
      clientEncryptedPayload := clientEncryptedPayload payload
      messageType := normalizeMessageType (payload.get "message_type")
      mediaUrls := mediaUrls
      mediaMetadata := (context.attachmentStorageMetadata attachments).put
        "remote_sender" ((payload.get "sender").orElse (.obj [])) }

def recordMessageActivity (message : ChatMessage) :
    StoreAction Reason (MirrorStore Rooms) PUnit :=
  if message.threadId.isSome then
    inRooms (StoreAction.write (context.recordMessageActivity message))
  else
    pure ⟨⟩

def mirrorMessage (channel : ChatConversation) (federationId : String)
    (originDomain : Option String) (threadId : Option Int) : ChatMessage :=
  { ChatMessage.blank channel.id federationId with
    originDomain := originDomain
    isFederatedMirror := channel.isFederatedMirror
    threadId := threadId }

def deletedMessage (channel : ChatConversation) (federationId : String)
    (originDomain : Option String) (deletedAt : Option DateTime) : ChatMessage :=
  { ChatMessage.blank channel.id federationId with
    originDomain := originDomain
    isFederatedMirror := true
    deletedAt := deletedAt }

def upsertMirrorMessage (channel : ChatConversation) (payload : Json)
    (remoteDomain : String) :
    StoreAction Reason (MirrorStore Rooms) (Option ChatMessage) :=
  match payload.get "id" with
  | .str federationId => do
      let stored ← StoreAction.query (·.message channel federationId)
      if stored.isSome then
        pure none
      else
        let rooms ← StoreAction.query MirrorStore.rooms
        let message ← saveMessage channel federationId
          (ChatMessage.changeset (ChatMessage.blank channel.id federationId)
            (castMessageContent context payload
              (mirrorMessage channel federationId
                (messageOriginDomain payload remoteDomain)
                (resolveMessageThread context rooms channel.id
                  (payload.get "thread_id")))))
        recordMessageActivity context message
        pure (some message)
  | _ => StoreAction.fail .invalidMessagePayload

def upsertMirrorMessages (channelMap : ChannelMap) (messages : List Json)
    (remoteDomain : String) : StoreAction Reason (MirrorStore Rooms) PUnit :=
  messages.forM fun payload =>
    match (payload.get "channel_id").asString?.bind
        fun channelId => List.lookup channelId channelMap with
    | some channel => do
        let _ ← upsertMirrorMessage context channel payload remoteDomain
        pure ⟨⟩
    | none => pure ⟨⟩

def upsertOrUpdateMirrorMessage (channel : ChatConversation) (payload : Json)
    (remoteDomain : String) :
    StoreAction Reason (MirrorStore Rooms) (Option ChatMessage) :=
  match payload.get "id" with
  | .str federationId => do
      let stored ← StoreAction.query (·.message channel federationId)
      match stored with
      | some existing =>
          some <$> saveMessage channel federationId
            (ChatMessage.changeset existing
              (castMessageContent context payload
                { existing with
                  editedAt :=
                    some ((parseDatetime (payload.get "edited_at")).getD
                      now).truncate }))
      | none =>
          if channel.isFederatedMirror then
            upsertMirrorMessage context channel payload remoteDomain
          else
            StoreAction.fail .notFound
  | _ => StoreAction.fail .invalidEventPayload

def softDeleteMirrorMessage (channel : ChatConversation)
    (federationMessageId : String) (deletedAt : Json) (remoteDomain : String) :
    StoreAction Reason (MirrorStore Rooms) ChatMessage := do
  let deletedAt := some ((parseDatetime deletedAt).getD now).truncate
  let stored ← StoreAction.query (·.message channel federationMessageId)
  match stored with
  | none =>
      if channel.isFederatedMirror then
        saveMessage channel federationMessageId
          (ChatMessage.changeset
            (ChatMessage.blank channel.id federationMessageId)
            (some (deletedMessage channel federationMessageId
              (castString (some (downcase remoteDomain))) deletedAt)))
      else
        StoreAction.fail .notFound
  | some message =>
      saveMessage channel federationMessageId
        (ChatMessage.changeset message (some { message with deletedAt }))

/-- Only the domain a message is attributed to may change it.  Of a mirrored
room, a message that is not there yet may be changed by anyone. -/
def ensureRemoteMessageAuthor (channel : ChatConversation)
    (federationMessageId remoteDomain : String) :
    StoreAction Reason (MirrorStore Rooms) PUnit := do
  let stored ← StoreAction.query (·.message channel federationMessageId)
  match stored with
  | some message =>
      if normalizeDomain message.originDomain =
          normalizeDomain (some remoteDomain) then
        pure ⟨⟩
      else
        StoreAction.fail .notAuthorizedForRoom
  | none =>
      if channel.isFederatedMirror then pure ⟨⟩
      else StoreAction.fail .notFound

def ensureRemoteActorMembership (channel : ChatConversation)
    (remoteActorId : Int) (action : RoomACL.Action) :
    StoreAction Reason (MirrorStore Rooms) PUnit := do
  let rooms ← StoreAction.query MirrorStore.rooms
  if channel.serverId.any (context.serverExists rooms) then
    StoreAction.lift
      (context.authorizeRemoteActorAction rooms channel remoteActorId action)
  else
    StoreAction.fail .invalidEventPayload

end

end Mirrors

end Elektrine.Messaging.Federation
