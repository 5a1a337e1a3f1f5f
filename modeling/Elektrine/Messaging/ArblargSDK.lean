import Mathlib.Data.List.Basic

/-!
# Event types of the protocol

The core event types are bare names; extension events carry the URN of their
extension.  Peers may still send the short name of an extension event, and
`canonicalEventType` is where the short names are resolved.
-/

namespace Elektrine.Messaging.ArblargSDK

def protocolVersion : String := "1.0"

def bootstrapServerUpsertEventType : String :=
  "urn:arblarg:ext:bootstrap:1#server.upsert"

def rolesRoleUpsertEventType : String := "urn:arblarg:ext:roles:1#role.upsert"

def rolesRoleAssignmentUpsertEventType : String :=
  "urn:arblarg:ext:roles:1#role.assignment.upsert"

def permissionsOverwriteUpsertEventType : String :=
  "urn:arblarg:ext:permissions:1#overwrite.upsert"

def threadsThreadUpsertEventType : String :=
  "urn:arblarg:ext:threads:1#thread.upsert"

def threadsThreadArchiveEventType : String :=
  "urn:arblarg:ext:threads:1#thread.archive"

def pinsPinUpsertEventType : String := "urn:arblarg:ext:pins:1#pin.upsert"

def presenceUpdateEventType : String :=
  "urn:arblarg:ext:presence:1#presence.update"

def typingStartEventType : String := "urn:arblarg:ext:presence:1#typing.start"

def typingStopEventType : String := "urn:arblarg:ext:presence:1#typing.stop"

def moderationActionRecordedEventType : String :=
  "urn:arblarg:ext:moderation:1#action.recorded"

def dmMessageCreateEventType : String := "urn:arblarg:ext:dm:1#message.create"

def voiceDmCallInviteEventType : String :=
  "urn:arblarg:ext:voice:1#dm.call.invite"

def voiceDmCallAcceptEventType : String :=
  "urn:arblarg:ext:voice:1#dm.call.accept"

def voiceDmCallRejectEventType : String :=
  "urn:arblarg:ext:voice:1#dm.call.reject"

def voiceDmCallEndEventType : String := "urn:arblarg:ext:voice:1#dm.call.end"

def voiceDmCallSignalEventType : String :=
  "urn:arblarg:ext:voice:1#dm.call.signal"

def coreEventTypes : List String :=
  ["message.create", "message.update", "message.delete", "reaction.add",
    "reaction.remove", "read.cursor", "membership.upsert", "invite.upsert",
    "ban.upsert"]

def durableExtensionEventTypes : List String :=
  [rolesRoleUpsertEventType, rolesRoleAssignmentUpsertEventType,
    permissionsOverwriteUpsertEventType, threadsThreadUpsertEventType,
    threadsThreadArchiveEventType, pinsPinUpsertEventType,
    moderationActionRecordedEventType, dmMessageCreateEventType,
    voiceDmCallInviteEventType, voiceDmCallAcceptEventType,
    voiceDmCallRejectEventType, voiceDmCallEndEventType]

def presenceEventTypes : List String :=
  [presenceUpdateEventType, typingStartEventType, typingStopEventType]

def durableEventTypes : List String :=
  bootstrapServerUpsertEventType ::
    (coreEventTypes ++ durableExtensionEventTypes)

def supportedEventTypes : List String := durableEventTypes ++ presenceEventTypes

def extensionEventAliases : List (String × String) :=
  [("server.upsert", bootstrapServerUpsertEventType),
    ("role.upsert", rolesRoleUpsertEventType),
    ("role.assignment.upsert", rolesRoleAssignmentUpsertEventType),
    ("permission.overwrite.upsert", permissionsOverwriteUpsertEventType),
    ("thread.upsert", threadsThreadUpsertEventType),
    ("thread.archive", threadsThreadArchiveEventType),
    ("pin.upsert", pinsPinUpsertEventType),
    ("presence.update", presenceUpdateEventType),
    ("typing.start", typingStartEventType),
    ("typing.stop", typingStopEventType),
    ("moderation.action.recorded", moderationActionRecordedEventType),
    ("dm.message.create", dmMessageCreateEventType),
    ("dm.call.invite", voiceDmCallInviteEventType),
    ("dm.call.accept", voiceDmCallAcceptEventType),
    ("dm.call.reject", voiceDmCallRejectEventType),
    ("dm.call.end", voiceDmCallEndEventType),
    ("dm.call.signal", voiceDmCallSignalEventType)]

def schemaBindings : List (String × String) :=
  [("envelope", "envelope"),
    (bootstrapServerUpsertEventType, "server.upsert"),
    ("server.upsert", "server.upsert"),
    ("message.create", "message.create"),
    ("message.update", "message.update"),
    ("message.delete", "message.delete"),
    ("reaction.add", "reaction.add"),
    ("reaction.remove", "reaction.remove"),
    ("read.cursor", "read.cursor"),
    ("membership.upsert", "membership.upsert"),
    ("invite.upsert", "invite.upsert"),
    ("ban.upsert", "ban.upsert"),
    (rolesRoleUpsertEventType, "role.upsert"),
    ("role.upsert", "role.upsert"),
    (rolesRoleAssignmentUpsertEventType, "role.assignment.upsert"),
    ("role.assignment.upsert", "role.assignment.upsert"),
    (permissionsOverwriteUpsertEventType, "permission.overwrite.upsert"),
    ("permission.overwrite.upsert", "permission.overwrite.upsert"),
    (threadsThreadUpsertEventType, "thread.upsert"),
    ("thread.upsert", "thread.upsert"),
    (threadsThreadArchiveEventType, "thread.archive"),
    ("thread.archive", "thread.archive"),
    (pinsPinUpsertEventType, "pin.upsert"),
    ("pin.upsert", "pin.upsert"),
    (presenceUpdateEventType, "presence.update"),
    ("presence.update", "presence.update"),
    (typingStartEventType, "typing.start"),
    ("typing.start", "typing.start"),
    (typingStopEventType, "typing.stop"),
    ("typing.stop", "typing.stop"),
    (moderationActionRecordedEventType, "moderation.action.recorded"),
    ("moderation.action.recorded", "moderation.action.recorded"),
    (dmMessageCreateEventType, "dm.message.create"),
    ("dm.message.create", "dm.message.create"),
    (voiceDmCallInviteEventType, "dm.call.invite"),
    ("dm.call.invite", "dm.call.invite"),
    (voiceDmCallAcceptEventType, "dm.call.accept"),
    ("dm.call.accept", "dm.call.accept"),
    (voiceDmCallRejectEventType, "dm.call.reject"),
    ("dm.call.reject", "dm.call.reject"),
    (voiceDmCallEndEventType, "dm.call.end"),
    ("dm.call.end", "dm.call.end"),
    (voiceDmCallSignalEventType, "dm.call.signal"),
    ("dm.call.signal", "dm.call.signal")]

def signatureAlgorithm : String := "ed25519"

def canonicalEventType (eventType : String) : String :=
  (extensionEventAliases.lookup eventType).getD eventType

end Elektrine.Messaging.ArblargSDK

/-!
## The extension registry
-/

namespace Elektrine.Messaging.ArblargProfiles

def communityProfileId : String := "arblarg-community/1.0"

structure ExtensionDefinition where
  urn : String
  events : List String
  profileRequirement : Option String
  deriving DecidableEq, Repr

def extensionDefinitions : List ExtensionDefinition :=
  [{ urn := "urn:arblarg:ext:bootstrap:1"
     events := [ArblargSDK.bootstrapServerUpsertEventType]
     profileRequirement := none },
    { urn := "urn:arblarg:ext:roles:1"
      events := [ArblargSDK.rolesRoleUpsertEventType,
        ArblargSDK.rolesRoleAssignmentUpsertEventType]
      profileRequirement := some communityProfileId },
    { urn := "urn:arblarg:ext:permissions:1"
      events := [ArblargSDK.permissionsOverwriteUpsertEventType]
      profileRequirement := some communityProfileId },
    { urn := "urn:arblarg:ext:threads:1"
      events := [ArblargSDK.threadsThreadUpsertEventType,
        ArblargSDK.threadsThreadArchiveEventType]
      profileRequirement := some communityProfileId },
    { urn := "urn:arblarg:ext:presence:1"
      events := [ArblargSDK.presenceUpdateEventType,
        ArblargSDK.typingStartEventType, ArblargSDK.typingStopEventType]
      profileRequirement := some communityProfileId },
    { urn := "urn:arblarg:ext:moderation:1"
      events := [ArblargSDK.moderationActionRecordedEventType]
      profileRequirement := some communityProfileId },
    { urn := "urn:arblarg:ext:pins:1"
      events := [ArblargSDK.pinsPinUpsertEventType]
      profileRequirement := none },
    { urn := "urn:arblarg:ext:dm:1"
      events := [ArblargSDK.dmMessageCreateEventType]
      profileRequirement := none },
    { urn := "urn:arblarg:ext:voice:1"
      events := [ArblargSDK.voiceDmCallInviteEventType,
        ArblargSDK.voiceDmCallAcceptEventType,
        ArblargSDK.voiceDmCallRejectEventType,
        ArblargSDK.voiceDmCallEndEventType,
        ArblargSDK.voiceDmCallSignalEventType]
      profileRequirement := none }]

def extensionDefinition (eventType : String) : Option ExtensionDefinition :=
  extensionDefinitions.find? fun definition =>
    definition.events.contains (ArblargSDK.canonicalEventType eventType)

def extensionUrnForEventType (eventType : String) : Option String :=
  (extensionDefinition eventType).map ExtensionDefinition.urn

def requiredProfileForEventType (eventType : String) : Option String :=
  (extensionDefinition eventType).bind ExtensionDefinition.profileRequirement

end Elektrine.Messaging.ArblargProfiles
