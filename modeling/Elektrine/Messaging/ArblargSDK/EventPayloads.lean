import Elektrine.Data.DateTime
import Elektrine.Messaging.Federation.Validation

/-!
# Payload schemas

`validateEventPayload` is the schema check of the SDK.  A lookup in something
that is neither a map nor `nil` raises in the source; here the payload is refused.
-/

namespace Elektrine.Messaging.ArblargSDK

open Federation (Reason ensure absoluteHttpUri normalizedEventName)

def presenceStatuses : List String :=
  ["online", "idle", "dnd", "offline", "invisible"]

def moderationActionKinds : List String :=
  ["warn", "timeout", "kick", "ban", "unban", "delete_message"]

def callTypes : List String := ["audio", "video"]

def callSignalKinds : List String := ["offer", "answer", "ice"]

def callEndReasons : List String :=
  ["ended", "failed", "disconnected", "timeout", "cancelled"]

def membershipRoles : List String :=
  ["owner", "admin", "moderator", "member", "readonly"]

def nonEmptyBinary : Json → Bool
  | .str value => (present value).isSome
  | _ => false

def oneOf (values : List String) : Json → Bool
  | .str value => values.contains value
  | _ => false

def validAbsoluteHttpUri : Json → Bool
  | .str value => absoluteHttpUri value
  | _ => false

def validIso8601 : Json → Bool
  | .str value => (DateTime.fromIso8601 value).isSome
  | _ => false

def validOptionalIso8601 (value : Json) : Bool :=
  value.isNull || validIso8601 value

def validNonNegativeIntegerOrNil : Json → Bool
  | .null => true
  | .int value => 0 ≤ value
  | _ => false

def validPositiveIntegerOrNil : Json → Bool
  | .null => true
  | .int value => 0 < value
  | _ => false

def validBooleanOrNil : Json → Bool
  | .null | .bool _ => true
  | _ => false

/-- `valid_optional_binary?` with its default options. -/
def validOptionalBinary (value : Json) : Bool :=
  value.isNull || value.isString

/-- `valid_optional_binary?` with `allow_empty?: false`. -/
def validFilledBinary (required : Bool) : Json → Bool
  | .null => !required
  | value => nonEmptyBinary value

def validOptionalMap (value : Json) : Bool :=
  (value.orElse (.obj [])).isMap

def validStringList (values : Json) : Bool :=
  match values with
  | .arr values => values.all nonEmptyBinary
  | _ => false

def boundedInteger (low high : Int) : Json → Bool
  | .null => true
  | .int value => low ≤ value && value ≤ high
  | _ => false

def normalizeActorIdentityField (actor : Json) (key : String) :
    Option String :=
  match actor.get key with
  | .str value => present value
  | _ => none

def validActorPayload (actor : Json) : Bool :=
  match actor.isMap, normalizeActorIdentityField actor "uri",
      normalizeActorIdentityField actor "username",
      normalizeActorIdentityField actor "domain",
      normalizeActorIdentityField actor "handle" with
  | true, some uri, some username, some domain, some handle =>
      absoluteHttpUri uri &&
        (normalizeActorIdentityField actor "id").all absoluteHttpUri &&
        downcase handle == downcase username ++ "@" ++ downcase domain
  | _, _, _, _, _ => false

def sameActorIdentity (left right : Json) : Bool :=
  validActorPayload left && validActorPayload right &&
    normalizeActorIdentityField left "uri" ==
      normalizeActorIdentityField right "uri"

def normalizedRefs (payload : Json) : Json :=
  if (payload.get "refs").isMap then payload.get "refs" else .obj []

/-- The identifier of the server or channel of an event, from the object it
carries or from its references; both have to agree. -/
def contextIdentifier (payload : Json) (field : String) : Option String :=
  let object := payload.get field
  if object.isMap || object.isNull then
    match object.get "id", (normalizedRefs payload).get (field ++ "_id") with
    | .str objectId, .str refId => if objectId = refId then some objectId else none
    | .str objectId, _ => some objectId
    | _, .str refId => some refId
    | _, _ => none
  else
    none

def validServerContext (payload : Json) : Bool :=
  (contextIdentifier payload "server").any absoluteHttpUri

def validChannelContext (payload : Json) : Bool :=
  (contextIdentifier payload "channel").any absoluteHttpUri

def validChannelEventContext (payload : Json) : Bool :=
  validServerContext payload && validChannelContext payload

def validOptionalPresenceContext (payload : Json) : Bool :=
  let refs := normalizedRefs payload
  if (payload.get "channel").isMap || (refs.get "channel_id").isString then
    validChannelEventContext payload
  else if (payload.get "server").isMap || (refs.get "server_id").isString then
    validServerContext payload
  else
    true

def validServerObject (server : Json) (requireName : Bool := false) : Bool :=
  server.isMap &&
    validAbsoluteHttpUri (server.get "id") &&
    validFilledBinary requireName (server.get "name") &&
    validOptionalBinary (server.get "description") &&
    validOptionalBinary (server.get "icon_url") &&
    validBooleanOrNil (server.get "is_public") &&
    validNonNegativeIntegerOrNil (server.get "member_count")

def validChannelObject (channel : Json) (requireName : Bool := false) : Bool :=
  channel.isMap &&
    validAbsoluteHttpUri (channel.get "id") &&
    validFilledBinary requireName (channel.get "name") &&
    validOptionalBinary (channel.get "description") &&
    validOptionalBinary (channel.get "topic") &&
    validNonNegativeIntegerOrNil (channel.get "position") &&
    validBooleanOrNil (channel.get "is_public") &&
    validBooleanOrNil (channel.get "approval_mode_enabled")

def validServerChannels (channels : Json) : Bool :=
  match channels with
  | .arr channels => channels.all fun channel => validChannelObject channel true
  | _ => false

def validTarget (target : Json) (allowedTypes : List String) : Bool :=
  target.isMap && nonEmptyBinary (target.get "id") &&
    oneOf allowedTypes (target.get "type")

def validOpaqueTarget (target : Json) : Bool :=
  target.isMap && nonEmptyBinary (target.get "type") &&
    nonEmptyBinary (target.get "id")

def validAttachment (attachment : Json) : Bool :=
  attachment.isMap &&
    nonEmptyBinary (attachment.get "id") &&
    nonEmptyBinary (attachment.get "url") &&
    nonEmptyBinary (attachment.get "mime_type") &&
    oneOf ["public", "signed", "origin-authenticated"]
      (attachment.get "authorization") &&
    oneOf ["origin", "rehosted", "expiring"] (attachment.get "retention") &&
    validNonNegativeIntegerOrNil (attachment.get "byte_size") &&
    validNonNegativeIntegerOrNil (attachment.get "width") &&
    validNonNegativeIntegerOrNil (attachment.get "height") &&
    validNonNegativeIntegerOrNil (attachment.get "duration_ms") &&
    validOptionalIso8601 (attachment.get "expires_at")

def validAttachmentList : Json → Bool
  | .null => true
  | .arr attachments => attachments.all validAttachment
  | _ => false

def validMessageMetadata (message : Json) : Bool :=
  validOptionalBinary (message.get "message_type") &&
    validAttachmentList (message.get "attachments") &&
    validOptionalIso8601 (message.get "created_at") &&
    validOptionalIso8601 (message.get "edited_at")

def validMessageChannelMatch (payload message : Json) : Bool :=
  match message.get "channel_id" with
  | .null => true
  | .str channelId => contextIdentifier payload "channel" == some channelId
  | _ => false

def validThreadChannelMatch (payload thread : Json) : Bool :=
  match thread.get "channel_id" with
  | .str channelId => contextIdentifier payload "channel" == some channelId
  | _ => false

def validMessageUpsertPayload (payload : Json) : Bool :=
  let message := payload.get "message"
  payload.isMap && validChannelEventContext payload && message.isMap &&
    nonEmptyBinary (message.get "id") && (message.get "content").isString &&
    validMessageMetadata message && validActorPayload (message.get "sender") &&
    validMessageChannelMatch payload message

def validRoomEvent (payload : Json) : Bool :=
  payload.isMap && validChannelEventContext payload &&
    (!(payload.get "server").isMap || validServerObject (payload.get "server")) &&
    (!(payload.get "channel").isMap || validChannelObject (payload.get "channel"))

def validExtensionEvent (payload : Json) : Bool :=
  payload.isMap && validServerObject (payload.get "server") &&
    validChannelObject (payload.get "channel") && validChannelEventContext payload

def validServerUpsertPayload (payload : Json) : Bool :=
  payload.isMap && validServerObject (payload.get "server") true &&
    validServerChannels (payload.get "channels")

def validMessageDeletePayload (payload : Json) : Bool :=
  validRoomEvent payload && nonEmptyBinary (payload.get "message_id") &&
    validOptionalIso8601 (payload.get "deleted_at")

def validReactionPayload (payload : Json) : Bool :=
  let reaction := payload.get "reaction"
  validRoomEvent payload && nonEmptyBinary (payload.get "message_id") &&
    reaction.isMap && nonEmptyBinary (reaction.get "emoji") &&
    validActorPayload (reaction.get "actor")

def validReadCursorPayload (payload : Json) : Bool :=
  validRoomEvent payload &&
    nonEmptyBinary (payload.get "read_through_message_id") &&
    validActorPayload (payload.get "actor") &&
    validPositiveIntegerOrNil (payload.get "read_through_sequence") &&
    validIso8601 (payload.get "read_at")

def validMembershipUpsertPayload (payload : Json) : Bool :=
  let membership := payload.get "membership"
  validRoomEvent payload && membership.isMap &&
    validActorPayload (membership.get "actor") &&
    oneOf membershipRoles (membership.get "role") &&
    oneOf ["active", "invited", "left", "banned"] (membership.get "state") &&
    validOptionalIso8601 (membership.get "joined_at") &&
    validIso8601 (membership.get "updated_at") &&
    validOptionalMap (membership.get "metadata")

def validInviteUpsertPayload (payload : Json) : Bool :=
  let invite := payload.get "invite"
  validRoomEvent payload && invite.isMap &&
    validActorPayload (invite.get "actor") &&
    validActorPayload (invite.get "target") &&
    oneOf membershipRoles (invite.get "role") &&
    oneOf ["pending", "accepted", "declined", "revoked"] (invite.get "state") &&
    validIso8601 (invite.get "invited_at") &&
    validIso8601 (invite.get "updated_at") &&
    validOptionalMap (invite.get "metadata")

def validBanUpsertPayload (payload : Json) : Bool :=
  let ban := payload.get "ban"
  validRoomEvent payload && ban.isMap &&
    validActorPayload (ban.get "actor") &&
    validActorPayload (ban.get "target") &&
    oneOf ["active", "lifted"] (ban.get "state") &&
    validIso8601 (ban.get "banned_at") &&
    validIso8601 (ban.get "updated_at") &&
    validOptionalIso8601 (ban.get "expires_at") &&
    validOptionalMap (ban.get "metadata")

def validRoleUpsertPayload (payload : Json) : Bool :=
  let role := payload.get "role"
  validExtensionEvent payload && validActorPayload (payload.get "actor") &&
    role.isMap && nonEmptyBinary (role.get "id") &&
    nonEmptyBinary (role.get "name") &&
    !(role.get "position").isNull &&
    validNonNegativeIntegerOrNil (role.get "position") &&
    validStringList (role.get "permissions") &&
    validOptionalBinary (role.get "color") &&
    validBooleanOrNil (role.get "hoist") &&
    validBooleanOrNil (role.get "mentionable")

def validRoleAssignmentUpsertPayload (payload : Json) : Bool :=
  let assignment := payload.get "assignment"
  validExtensionEvent payload && validActorPayload (payload.get "actor") &&
    assignment.isMap && nonEmptyBinary (assignment.get "role_id") &&
    validTarget (assignment.get "target") ["user", "member"] &&
    oneOf ["assigned", "removed"] (assignment.get "state")

def validPermissionOverwriteUpsertPayload (payload : Json) : Bool :=
  let overwrite := payload.get "overwrite"
  validExtensionEvent payload && validActorPayload (payload.get "actor") &&
    overwrite.isMap && nonEmptyBinary (overwrite.get "id") &&
    validTarget (overwrite.get "target") ["role", "member"] &&
    validStringList (overwrite.get "allow") &&
    validStringList (overwrite.get "deny")

def validThreadUpsertPayload (payload : Json) : Bool :=
  let thread := payload.get "thread"
  validExtensionEvent payload && thread.isMap &&
    nonEmptyBinary (thread.get "id") &&
    nonEmptyBinary (thread.get "channel_id") &&
    nonEmptyBinary (thread.get "name") &&
    oneOf ["active", "archived", "locked"] (thread.get "state") &&
    validActorPayload (thread.get "owner") &&
    validNonNegativeIntegerOrNil (thread.get "message_count") &&
    validNonNegativeIntegerOrNil (thread.get "member_count") &&
    validThreadChannelMatch payload thread

def validThreadArchivePayload (payload : Json) : Bool :=
  validExtensionEvent payload && nonEmptyBinary (payload.get "thread_id") &&
    validIso8601 (payload.get "archived_at") &&
    validOptionalBinary (payload.get "reason") &&
    validActorPayload (payload.get "actor")

def validPinUpsertPayload (payload : Json) : Bool :=
  let pin := payload.get "pin"
  validExtensionEvent payload && pin.isMap &&
    nonEmptyBinary (pin.get "message_id") &&
    oneOf ["pinned", "unpinned"] (pin.get "state") &&
    validOptionalIso8601 (pin.get "pinned_at") &&
    validOptionalIso8601 (pin.get "updated_at") &&
    validActorPayload (payload.get "actor")

def validModerationActionRecordedPayload (payload : Json) : Bool :=
  let action := payload.get "action"
  validExtensionEvent payload && action.isMap &&
    nonEmptyBinary (action.get "id") &&
    oneOf moderationActionKinds (action.get "kind") &&
    validOpaqueTarget (action.get "target") &&
    validActorPayload (action.get "actor") &&
    validIso8601 (action.get "occurred_at") &&
    validNonNegativeIntegerOrNil (action.get "duration_seconds")

def validTypingPayload (timestampField : String) (payload : Json) : Bool :=
  payload.isMap && validChannelEventContext payload &&
    validActorPayload (payload.get "actor") &&
    validIso8601 (payload.get timestampField) &&
    boundedInteger 100 10000 (payload.get "ttl_ms")

def validPresenceUpdatePayload (payload : Json) : Bool :=
  let presence := payload.get "presence"
  payload.isMap && validOptionalPresenceContext payload && presence.isMap &&
    validActorPayload (presence.get "actor") &&
    oneOf presenceStatuses (presence.get "status") &&
    validIso8601 (presence.get "updated_at") &&
    (match presence.get "activities" with
      | .null => true
      | .arr activities => activities.all Json.isMap
      | _ => false) &&
    boundedInteger 100 86400000 (presence.get "ttl_ms")

def validDmEventContext (dm : Json) : Bool :=
  dm.isMap && nonEmptyBinary (dm.get "id") &&
    validActorPayload (dm.get "sender") && validActorPayload (dm.get "recipient")

def validDmMessageCreatePayload (payload : Json) : Bool :=
  let dm := payload.get "dm"
  let message := payload.get "message"
  payload.isMap && validDmEventContext dm && message.isMap &&
    nonEmptyBinary (message.get "id") &&
    nonEmptyBinary (message.get "dm_id") &&
    (message.get "dm_id").asString? == (dm.get "id").asString? &&
    (message.get "content").isString && validMessageMetadata message &&
    validActorPayload (message.get "sender") &&
    sameActorIdentity (dm.get "sender") (message.get "sender")

def validDmCallInvitePayload (payload : Json) : Bool :=
  let dm := payload.get "dm"
  let call := payload.get "call"
  payload.isMap && validDmEventContext dm && call.isMap &&
    nonEmptyBinary (call.get "id") && nonEmptyBinary (call.get "dm_id") &&
    (call.get "dm_id").asString? == (dm.get "id").asString? &&
    oneOf callTypes (call.get "call_type") &&
    validActorPayload (call.get "actor") &&
    sameActorIdentity (dm.get "sender") (call.get "actor") &&
    validIso8601 (call.get "initiated_at") &&
    validOptionalMap (call.get "metadata")

/-- The acceptance, the refusal and the end of a call differ in the field of
their timestamp and in the reasons they allow. -/
def validDmCallStatePayload (timestampField : String) (validReason : Json → Bool)
    (payload : Json) : Bool :=
  let dm := payload.get "dm"
  let actor := payload.get "actor"
  payload.isMap && validDmEventContext dm &&
    nonEmptyBinary (payload.get "call_id") && validActorPayload actor &&
    (sameActorIdentity (dm.get "recipient") actor ||
      sameActorIdentity (dm.get "sender") actor) &&
    validIso8601 (payload.get timestampField) &&
    validReason (payload.get "reason") &&
    validOptionalMap (payload.get "metadata")

def validDmCallAcceptPayload : Json → Bool :=
  validDmCallStatePayload "accepted_at" fun _ => true

def validDmCallRejectPayload : Json → Bool :=
  validDmCallStatePayload "rejected_at" validOptionalBinary

def validDmCallEndPayload : Json → Bool :=
  validDmCallStatePayload "ended_at" fun reason =>
    reason.isNull || oneOf callEndReasons reason

def boundedBinary (limit : Nat) : Json → Bool
  | .str value => value.utf8ByteSize ≤ limit
  | _ => false

def validSdpSignalPayload (payload : Json) (expectedType : String) : Bool :=
  let sdp := payload.get "sdp"
  sdp.isMap && oneOf [expectedType] (sdp.get "type") &&
    boundedBinary 100000 (sdp.get "sdp") &&
    (sdp.get "sdp").asString?.any fun text =>
      "v=0".toList.isPrefixOf text.toList

def validIceSignalPayload (payload : Json) : Bool :=
  let candidate := payload.get "candidate"
  candidate.isMap && nonEmptyBinary (candidate.get "candidate") &&
    boundedBinary 4096 (candidate.get "candidate") &&
    ((candidate.get "sdpMid").isNull ||
      boundedBinary 128 (candidate.get "sdpMid")) &&
    boundedInteger 0 1024 (candidate.get "sdpMLineIndex") &&
    ((candidate.get "usernameFragment").isNull ||
      boundedBinary 256 (candidate.get "usernameFragment"))

def validDmCallSignalBody (kind payload : Json) : Bool :=
  match kind with
  | .str "offer" => validSdpSignalPayload payload "offer"
  | .str "answer" => validSdpSignalPayload payload "answer"
  | .str "ice" => validIceSignalPayload payload
  | _ => false

def validDmCallSignalPayload (payload : Json) : Bool :=
  let dm := payload.get "dm"
  let actor := payload.get "actor"
  let signal := payload.get "signal"
  payload.isMap && validDmEventContext dm &&
    nonEmptyBinary (payload.get "call_id") && validActorPayload actor &&
    (sameActorIdentity (dm.get "recipient") actor ||
      sameActorIdentity (dm.get "sender") actor) &&
    validIso8601 (payload.get "sent_at") && signal.isMap &&
    oneOf callSignalKinds (signal.get "kind") && (signal.get "payload").isMap &&
    validDmCallSignalBody (signal.get "kind") (signal.get "payload") &&
    validNonNegativeIntegerOrNil (signal.get "sequence")

def payloadCheck : String → Option (Json → Bool)
  | "message.create" | "message.update" => some validMessageUpsertPayload
  | "server.upsert" => some validServerUpsertPayload
  | "message.delete" => some validMessageDeletePayload
  | "reaction.add" | "reaction.remove" => some validReactionPayload
  | "read.cursor" => some validReadCursorPayload
  | "membership.upsert" => some validMembershipUpsertPayload
  | "invite.upsert" => some validInviteUpsertPayload
  | "ban.upsert" => some validBanUpsertPayload
  | "role.upsert" => some validRoleUpsertPayload
  | "role.assignment.upsert" => some validRoleAssignmentUpsertPayload
  | "permission.overwrite.upsert" => some validPermissionOverwriteUpsertPayload
  | "thread.upsert" => some validThreadUpsertPayload
  | "thread.archive" => some validThreadArchivePayload
  | "pin.upsert" => some validPinUpsertPayload
  | "presence.update" => some validPresenceUpdatePayload
  | "typing.start" => some (validTypingPayload "started_at")
  | "typing.stop" => some (validTypingPayload "stopped_at")
  | "moderation.action.recorded" => some validModerationActionRecordedPayload
  | "dm.message.create" => some validDmMessageCreatePayload
  | "dm.call.invite" => some validDmCallInvitePayload
  | "dm.call.accept" => some validDmCallAcceptPayload
  | "dm.call.reject" => some validDmCallRejectPayload
  | "dm.call.end" => some validDmCallEndPayload
  | "dm.call.signal" => some validDmCallSignalPayload
  | _ => none

def validateEventPayload (eventType : String) (payload : Json) :
    Except Reason Unit :=
  match payloadCheck (normalizedEventName eventType) with
  | some check => ensure (check payload) .invalidEventPayload
  | none => .error .unsupportedEventType

end Elektrine.Messaging.ArblargSDK
