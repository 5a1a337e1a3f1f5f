import Elektrine.Data.Json
import Elektrine.Data.Uri
import Elektrine.Messaging.ArblargSDK

/-!
# Who a payload speaks for

Actors carry a domain and a URI, and identifiers are absolute URIs.  The checks
here say when the host of a URI belongs to a domain and when an actor does.
-/

namespace Elektrine.Messaging.Federation

def hostBelongsToDomain (host domain : String) : Bool :=
  let normalizedHost := downcase host
  let normalizedDomain := downcase domain
  normalizedHost == normalizedDomain ||
    ("." ++ normalizedDomain).toList.isSuffixOf normalizedHost.toList

def httpHost (value : String) : Option String :=
  match uriParse value with
  | ⟨some "http", some host⟩ | ⟨some "https", some host⟩ => some host
  | _ => none

def originOwnedAbsoluteUri (value remoteDomain : String) : Bool :=
  (httpHost value).any fun host => hostBelongsToDomain host remoteDomain

def absoluteHttpUri (value : String) : Bool :=
  (httpHost value).isSome

def normalizeOptionalString : Json → Option String
  | .str value => present value
  | _ => none

def actorUri (actor : Json) : Option String :=
  normalizeOptionalString ((actor.get "uri").orElse (actor.get "id"))

def actorUriHost (uri : String) : Option String :=
  (uriParse uri).host.map downcase

def actorOriginDomain (actor : Json) : Option String :=
  if actor.isMap then
    (normalizeOptionalString (actor.get "domain")).or
      ((actorUri actor).bind actorUriHost)
  else
    none

def actorDomainMatchesOrigin (actor : Json) (remoteDomain : String) : Bool :=
  if actor.isNull then
    true
  else if actor.isMap then
    match normalizeOptionalString (actor.get "domain") with
    | none => false
    | some actorDomain =>
        downcase actorDomain == downcase remoteDomain &&
          (normalizeOptionalString (actor.get "uri")).any fun uri =>
            originOwnedAbsoluteUri uri remoteDomain
  else
    false

def normalizedEventName (eventType : String) : String :=
  let canonical := ArblargSDK.canonicalEventType eventType
  (ArblargSDK.schemaBindings.lookup canonical).getD canonical

def roomParticipationEventTypes : List String :=
  ["message.create", "message.update", "message.delete", "reaction.add",
    "reaction.remove", "read.cursor", "membership.upsert", "typing.start",
    "typing.stop"]

def sharedRoomGovernanceEventTypes : List String :=
  ["invite.upsert", "ban.upsert", "role.upsert", "role.assignment.upsert",
    "permission.overwrite.upsert", "thread.upsert", "thread.archive",
    "moderation.action.recorded"]

def multiOriginRoomEventType (eventType : String) : Bool :=
  let normalized := normalizedEventName eventType
  roomParticipationEventTypes.contains normalized ||
    sharedRoomGovernanceEventTypes.contains normalized

def eventServerId (data : Json) : Json :=
  (data.getIn ["server", "id"]).orElse (data.getIn ["refs", "server_id"])

def eventChannelId (data : Json) : Json :=
  (data.getIn ["channel", "id"]).orElse (data.getIn ["refs", "channel_id"])

def roomScopedPresenceEventType (eventType : String) (data : Json) : Bool :=
  normalizedEventName eventType == "presence.update" &&
    ((data.getIn ["refs", "channel_id"]).isString ||
      (data.getIn ["channel", "id"]).isString)

def originBoundActors (eventType : String) (data : Json) : List Json :=
  match eventType with
  | "message.create" | "message.update" => [data.getIn ["message", "sender"]]
  | "reaction.add" | "reaction.remove" => [data.getIn ["reaction", "actor"]]
  | "read.cursor" => [data.get "actor"]
  | "membership.upsert" => [data.getIn ["membership", "actor"]]
  | "invite.upsert" => [data.getIn ["invite", "actor"]]
  | "ban.upsert" => [data.getIn ["ban", "actor"]]
  | "role.upsert" | "role.assignment.upsert" | "permission.overwrite.upsert" =>
      [data.get "actor"]
  | "thread.upsert" => [data.getIn ["thread", "owner"]]
  | "thread.archive" => [data.get "actor"]
  | "presence.update" => [data.getIn ["presence", "actor"]]
  | "typing.start" | "typing.stop" => [data.get "actor"]
  | "moderation.action.recorded" => [data.getIn ["action", "actor"]]
  | "dm.message.create" =>
      [data.getIn ["dm", "sender"], data.getIn ["message", "sender"]]
  | "dm.call.invite" =>
      [data.getIn ["dm", "sender"], data.getIn ["dm", "recipient"],
        data.getIn ["call", "actor"]]
  | "dm.call.accept" | "dm.call.reject" | "dm.call.end" | "dm.call.signal" =>
      [data.getIn ["dm", "sender"], data.getIn ["dm", "recipient"],
        data.get "actor"]
  | _ => []

def originOwnedEventIdentifiers (eventType : String) (data : Json) :
    List String :=
  let baseContextIds :=
    if multiOriginRoomEventType eventType ||
        roomScopedPresenceEventType eventType data then
      []
    else
      [eventServerId data, eventChannelId data]
  let eventSpecificIds :=
    match eventType with
    | "server.upsert" =>
        data.getIn ["server", "id"] ::
          (((data.get "channels").asList?.getD []).map fun channel =>
            channel.get "id")
    | "message.create" | "message.update" => [data.getIn ["message", "id"]]
    | "message.delete" => [data.get "message_id"]
    | "dm.message.create" =>
        [data.getIn ["dm", "id"], data.getIn ["message", "id"],
          data.getIn ["message", "dm_id"]]
    | "dm.call.invite" =>
        [data.getIn ["dm", "id"], data.getIn ["call", "id"],
          data.getIn ["call", "dm_id"]]
    | "dm.call.accept" | "dm.call.reject" | "dm.call.end" | "dm.call.signal" =>
        [data.getIn ["dm", "id"], data.get "call_id"]
    | _ => []
  (baseContextIds ++ eventSpecificIds).filterMap Json.asString?

end Elektrine.Messaging.Federation
