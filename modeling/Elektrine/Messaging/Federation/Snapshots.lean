import Elektrine.Messaging.Federation.EventTracking
import Elektrine.Messaging.Federation.Validation

/-!
# Importing a server snapshot

A validated snapshot is imported in one transaction: first its sections, which
write projections only, and then the stream positions it carries.
-/

namespace Elektrine.Messaging.Federation

open Elektrine.Library

variable {Projections Server ChannelMap : Type}

def snapshotSection (payload : Json) (name : String) : Json :=
  (payload.get name).orElse (.arr [])

def snapshotEntries (payload : Json) (name : String) : List Json :=
  (snapshotSection payload name).asList?.getD []

/-- `List.wrap`. -/
def listWrap : Json → List Json
  | .null => []
  | .arr items => items
  | value => [value]

def snapshotGovernanceEntries (governance : Json) (limit : Nat) :
    List (String × Json) :=
  if governance.isMap then
    (((listWrap (governance.get "memberships")).map (Prod.mk "membership.upsert") ++
      (listWrap (governance.get "invites")).map (Prod.mk "invite.upsert")) ++
      (listWrap (governance.get "bans")).map (Prod.mk "ban.upsert")).take limit
  else
    []

def validateSnapshotSignature (context : ValidationContext) (payload : Json)
    (remoteDomain : String) : Except Reason Unit :=
  let signature := payload.get "signature"
  if signature.isNull then
    .error .unknownPeer
  else
    match signature.get "algorithm", normalizeOptionalString (signature.get "key_id"),
        signature.get "key_id", normalizeOptionalString (signature.get "value"),
        signature.get "value" with
    | .str algorithm, some _, .str keyId, some _, .str value =>
        if algorithm = ArblargSDK.signatureAlgorithm then
          match context.incomingPeer remoteDomain with
          | none => .error .unknownPeer
          | some peer =>
              ensure
                ((context.incomingVerificationMaterialsForKeyId peer keyId).any
                  fun material =>
                    context.verifySnapshotSignature payload material value)
                .invalidSnapshotSignature
        else
          .error .invalidSnapshotSignature
    | _, _, _, _, _ => .error .invalidSnapshotSignature

def validateSnapshotOriginOwnedIdentifiers (payload : Json)
    (remoteDomain : String) : Except Reason Unit :=
  let identifiers :=
    payload.getIn ["server", "id"] ::
      ((snapshotEntries payload "channels").map (·.get "id") ++
        (snapshotEntries payload "messages").map (·.get "channel_id") ++
        (snapshotEntries payload "message_deletions").map
          (·.getIn ["refs", "channel_id"]))
  ensure
    ((identifiers.filterMap Json.asString?).all fun identifier =>
      originOwnedAbsoluteUri identifier remoteDomain)
    .originIdentifierHostMismatch

def validateSnapshotPayload (context : ValidationContext) (payload : Json)
    (remoteDomain : String) : Except Reason Unit := do
  let server := (payload.get "server").orElse (.obj [])
  let governance := payload.get "governance"
  let entries :=
    snapshotGovernanceEntries governance context.snapshotGovernanceLimit
  ensure (payload.get "version").isOne .unsupportedVersion
  ensure ((payload.get "origin_domain").asString? == some remoteDomain)
    .originDomainMismatch
  ensure (server.isMap && (server.get "id").isString &&
    (server.get "name").isString) .invalidServerPayload
  ensure (["channels", "messages", "reactions", "read_cursors",
    "message_deletions", "extensions"].all fun name =>
      (snapshotSection payload name).isList) .invalidPayload
  ensure (governance.isMap && (governance.get "memberships").isList &&
    (governance.get "invites").isList && (governance.get "bans").isList)
    .invalidSnapshotGovernance
  ensure ((payload.get "stream_positions").isList &&
    !(snapshotEntries payload "stream_positions").isEmpty)
    .invalidSnapshotStreamPositions
  ensure ((snapshotEntries payload "channels").length ≤
    context.snapshotChannelLimit) .snapshotLimitExceeded
  ensure ((snapshotEntries payload "messages").length ≤
    context.snapshotMessageLimit) .snapshotLimitExceeded
  ensure (entries.length ≤ context.snapshotGovernanceLimit)
    .snapshotLimitExceeded
  validateSnapshotSignature context payload remoteDomain
  validateEach
    (fun message => ensure (snapshotMessageOriginValid message remoteDomain)
      .originActorDomainMismatch)
    (snapshotEntries payload "messages")
  validateSnapshotOriginOwnedIdentifiers payload remoteDomain
  validateSnapshotStreamPositions (snapshotEntries payload "stream_positions")
    remoteDomain
  entries.forM fun (eventType, entry) =>
    validateSnapshotGovernancePayload context eventType entry remoteDomain
  validateSnapshotEventList context (snapshotEntries payload "reactions")
    "reaction.add" remoteDomain .invalidPayload
  validateSnapshotEventList context (snapshotEntries payload "read_cursors")
    "read.cursor" remoteDomain .invalidPayload
  validateSnapshotEventList context (snapshotEntries payload "message_deletions")
    "message.delete" remoteDomain .invalidPayload
  validateSnapshotExtensions context (snapshotEntries payload "extensions")
    remoteDomain

structure SnapshotContext (Projections Server ChannelMap : Type) where
  validation : ValidationContext
  upsertMirrorServer : Json → String → StoreAction Reason Projections Server
  upsertMirrorChannels :
    Server → List Json → StoreAction Reason Projections ChannelMap
  upsertMirrorMessages :
    ChannelMap → List Json → String → StoreAction Reason Projections PUnit
  importSnapshotGovernance :
    ChannelMap → Json → String → StoreAction Reason Projections PUnit
  importSnapshotExtensions :
    List Json → String → StoreAction Reason Projections PUnit
  importSnapshotMessageDeletions :
    List Json → String → StoreAction Reason Projections PUnit
  importSnapshotReactions :
    List Json → String → StoreAction Reason Projections PUnit
  importSnapshotReadCursors :
    List Json → String → StoreAction Reason Projections PUnit

/-- An entry of `stream_positions` as the import reads it. -/
structure SnapshotPosition where
  key : StreamKey
  lastSequence : Int
  deriving DecidableEq

def readSnapshotPosition (remoteDomain : String) (position : Json) :
    Option SnapshotPosition :=
  match normalizeOptionalString
      ((position.get "origin_domain").orElse (.str remoteDomain)),
    normalizeOptionalString (position.get "stream_id") with
  | some originDomain, some streamId =>
      let lastSequence := parseInt (position.get "last_sequence") (-1)
      if lastSequence < 0 then none
      else some ⟨⟨originDomain, streamId⟩, lastSequence⟩
  | _, _ => none

def storeSnapshotStreamPositions (remoteDomain : String) :
    List Json → StoreAction Reason (Database Projections) PUnit
  | [] => pure ⟨⟩
  | position :: rest =>
      match readSnapshotPosition remoteDomain position with
      | none => StoreAction.fail .invalidSnapshotStreamPositions
      | some entry => do
          let positions ← StoreAction.query Database.streamPositions
          if entry.lastSequence > lastSequence positions entry.key then
            storeStreamPosition entry.key.originDomain entry.key.streamId
              (.int entry.lastSequence)
          storeSnapshotStreamPositions remoteDomain rest

def importSections (context : SnapshotContext Projections Server ChannelMap)
    (payload : Json) (remoteDomain : String) :
    StoreAction Reason Projections Server := do
  let server ← context.upsertMirrorServer (payload.get "server") remoteDomain
  let channelMap ←
    context.upsertMirrorChannels server (snapshotEntries payload "channels")
  context.upsertMirrorMessages channelMap (snapshotEntries payload "messages")
    remoteDomain
  context.importSnapshotGovernance channelMap
    ((payload.get "governance").orElse (.obj [])) remoteDomain
  context.importSnapshotExtensions (snapshotEntries payload "extensions")
    remoteDomain
  context.importSnapshotMessageDeletions
    (snapshotEntries payload "message_deletions") remoteDomain
  context.importSnapshotReactions (snapshotEntries payload "reactions")
    remoteDomain
  context.importSnapshotReadCursors (snapshotEntries payload "read_cursors")
    remoteDomain
  pure server

def importServerSnapshot
    (context : SnapshotContext Projections Server ChannelMap)
    (payload : Json) (remoteDomain : String) :
    StoreAction Reason (Database Projections) Server :=
  match validateSnapshotPayload context.validation payload remoteDomain with
  | .error reason => StoreAction.fail reason
  | .ok () =>
      StoreAction.transaction do
        let server ← StoreAction.focus Database.projections
          (fun projections database => { database with projections })
          (importSections context payload remoteDomain)
        storeSnapshotStreamPositions remoteDomain
          (snapshotEntries payload "stream_positions")
        pure server

end Elektrine.Messaging.Federation
