import Elektrine.Messaging.RoomACL
import Elektrine.Messaging.Federation.State
import Elektrine.Messaging.Federation.Utils

/-!
# Governance events of a room

The handlers of `membership.upsert`, `invite.upsert` and `ban.upsert`.  An event
about a room names a remote actor and, for invites and bans, a target that is a
local user or another remote actor.  A room of this node takes memberships as
requests; a mirrored room takes them from the authority of the room as they are.
-/

namespace Elektrine.Messaging.Federation

open Elektrine.Library

variable {Local : Type}

structure Server where
  isFederatedMirror : Bool
  originDomain : Option String

structure ChatConversation where
  id : Int
  type : String
  serverId : Option Int
  creatorId : Option Int
  isPublic : Bool
  approvalModeEnabled : Bool
  isFederatedMirror : Bool

/-- A row of `community_bans`. -/
structure CommunityBan where
  conversationId : Int
  userId : Int
  bannedById : Option Int
  originDomain : Option String
  actorPayload : Json
  metadata : Json
  reason : Option String
  expiresAt : Option DateTime
  bannedAtRemote : Option DateTime
  updatedAtRemote : Option DateTime

structure JoinDecision where
  conversationId : Int
  targetPayload : Json
  actorUserId : Int
  state : String
  role : String
  metadata : Json

/-- The tables governance events write; `Local` is the membership of local
users. -/
structure RoomStore (Local : Type) where
  memberships : Table (Int × Int) FederationMembershipState
  invites : Table (Int × Option String) FederationInviteState
  communityBans : Table (Int × Int) CommunityBan
  joinDecisions : List JoinDecision
  localMembers : Local

inductive AddMember where
  | added
  | alreadyMember
  deriving DecidableEq, Repr

structure MirrorEventsContext (Local : Type) where
  localDomain : String
  resolveChannelEventContext :
    Json → String → Except Reason (Server × ChatConversation)
  resolveOrCreateRemoteActorId : Json → String → Except Reason Int
  actorUriById : Int → Option String
  extensionEvents : Int → List (String × Json)
  localUsernameFromUri : String → Option String
  getUserByUsername : String → Option Int
  ensureLocalMirrorServerMembership : Int → Int → Local → Local
  addMemberToConversationWithoutFederation :
    Int → Int → String → StoreAction Reason Local AddMember
  removeLocalBannedMember : Int → Int → StoreAction Reason Local PUnit

namespace RoomStore

def inMemberships {α : Type}
    (action : StoreAction Reason
      (Table (Int × Int) FederationMembershipState) α) :
    StoreAction Reason (RoomStore Local) α :=
  StoreAction.focus RoomStore.memberships
    (fun memberships store => { store with memberships }) action

def inInvites {α : Type}
    (action : StoreAction Reason
      (Table (Int × Option String) FederationInviteState) α) :
    StoreAction Reason (RoomStore Local) α :=
  StoreAction.focus RoomStore.invites
    (fun invites store => { store with invites }) action

def inLocalMembers {α : Type} (action : StoreAction Reason Local α) :
    StoreAction Reason (RoomStore Local) α :=
  StoreAction.focus RoomStore.localMembers
    (fun localMembers store => { store with localMembers }) action

end RoomStore

namespace MirrorEvents

open RoomStore

def actorUri (actor : Json) : Option String :=
  match (actor.get "uri").orElse (actor.get "id") with
  | .str uri => if uri = "" then none else some uri
  | _ => none

def getActorPayload (payload : Json) : Json :=
  (payload.get "actor").orElse (.obj [])

def metadataOf (payload : Json) : Json :=
  (payload.get "metadata").orElse (.obj [])

section Handlers

variable (context : MirrorEventsContext Local) (now : DateTime)

def actorOriginDomain (actor : Json) : String :=
  let ofUri := ((actorUri actor).bind actorUriHost).getD context.localDomain
  match actor.get "domain" with
  | .str domain => if domain = "" then ofUri else downcase domain
  | _ => ofUri

def resolveLocalUserFromActorPayload (actor : Json) : Option Int :=
  match actorUri actor, actor.get "username", actor.get "domain" with
  | some uri, _, _ =>
      (context.localUsernameFromUri uri).bind context.getUserByUsername
  | none, .str username, .str domain =>
      if downcase domain = context.localDomain then
        context.getUserByUsername username
      else none
  | _, _, _ => none

/-- `RoomACL.authorize_remote_actor_action`: an active member whose permissions
allow the action. -/
def authorizeRemoteActorAction
    (memberships : Table (Int × Int) FederationMembershipState)
    (channel : ChatConversation) (remoteActorId : Int)
    (action : RoomACL.Action) : Bool :=
  match memberships (channel.id, remoteActorId),
      context.actorUriById remoteActorId with
  | some membership, some uri =>
      membership.state == "active" &&
        RoomACL.allowed channel.type
          (RoomACL.loadAclState (context.extensionEvents channel.id))
          membership.role uri action
          ⟨none, none, none, none, some remoteActorId⟩
  | _, _ => false

/-- Whether the sender is the authority of the room or not, the channel and the
permission asked for are the same. -/
def authorizeGovernanceEvent (channel : ChatConversation) (remoteActorId : Int)
    (action : RoomACL.Action) : StoreAction Reason (RoomStore Local) PUnit := do
  let memberships ← StoreAction.query RoomStore.memberships
  if authorizeRemoteActorAction context memberships channel remoteActorId
      action then
    pure ⟨⟩
  else
    StoreAction.fail .notAuthorizedForRoom

def publishJoinDecision (channel : ChatConversation) (target : Json)
    (state role : String) (metadata : Json) :
    StoreAction Reason (RoomStore Local) PUnit :=
  match channel.creatorId with
  | some actorUserId =>
      StoreAction.write fun store =>
        { store with
          joinDecisions :=
            ⟨channel.id, target, actorUserId, state, role, metadata⟩
              :: store.joinDecisions }
  | none => pure ⟨⟩

def allowedRemoteActivation (membership : Option FederationMembershipState)
    (inviteState : Option String) : Bool :=
  (membership.any fun row => row.state == "active") ||
    inviteState == some "accepted"

def inviteStateForActor
    (invites : Table (Int × Option String) FederationInviteState)
    (conversationId : Int) (uri : Option String) : Option String :=
  match uri with
  | some uri =>
      (invites (conversationId, some uri)).map FederationInviteState.state
  | none => none

def remoteActorBanned
    (memberships : Table (Int × Int) FederationMembershipState)
    (conversationId remoteActorId : Int) : Bool :=
  (memberships (conversationId, remoteActorId)).any fun row =>
    row.state == "banned"

structure MembershipRequest where
  remoteActorId : Int
  remoteDomain : String
  role : String
  state : String
  joinedAt : Option DateTime
  updatedAt : DateTime
  metadata : Json
  actor : Json

def MembershipRequest.update (request : MembershipRequest)
    (channel : ChatConversation) (remoteDomain state : String) :
    MembershipUpdate where
  conversationId := channel.id
  remoteActorId := request.remoteActorId
  remoteDomain := remoteDomain
  role := request.role
  state := state
  joinedAt := request.joinedAt
  updatedAt := some request.updatedAt
  metadata := request.metadata

def storeMembership (update : MembershipUpdate) :
    StoreAction Reason (RoomStore Local) PUnit := do
  let _ ← inMemberships (upsertMembershipState now update)
  pure ⟨⟩

def joinRequestDecision
    (memberships : Table (Int × Int) FederationMembershipState)
    (channel : ChatConversation) (remoteActorId : Int) : String × Json :=
  if remoteActorBanned memberships channel.id remoteActorId then
    ("declined", .obj [("reason", .str "banned")])
  else if !channel.isPublic then
    ("pending", .obj [("reason", .str "invite_only")])
  else if channel.approvalModeEnabled then
    ("pending", .obj [("reason", .str "approval_required")])
  else
    ("accepted", .obj [])

def handleRemoteJoinRequest (channel : ChatConversation)
    (request : MembershipRequest) :
    StoreAction Reason (RoomStore Local) PUnit := do
  let memberships ← StoreAction.query RoomStore.memberships
  let decision := joinRequestDecision memberships channel request.remoteActorId
  let accepted := decision.1 == "accepted"
  storeMembership now
    { request.update channel (actorOriginDomain context request.actor)
        (if accepted then "active" else "invited") with
      joinedAt := if accepted then request.joinedAt else none
      metadata := request.metadata.put "join_request" (.bool true) }
  publishJoinDecision channel request.actor decision.1 request.role decision.2

def applyAuthoritativeMembershipProjection (channel : ChatConversation)
    (request : MembershipRequest) :
    StoreAction Reason (RoomStore Local) PUnit := do
  let store ← StoreAction.query id
  let existing := store.memberships (channel.id, request.remoteActorId)
  let inviteState :=
    inviteStateForActor store.invites channel.id (actorUri request.actor)
  let originDomain := actorOriginDomain context request.actor
  if !(["member", "readonly"].contains request.role) then
    StoreAction.fail .invalidEventPayload
  else if request.state = "banned" then
    StoreAction.fail .invalidEventPayload
  else if remoteActorBanned store.memberships channel.id
      request.remoteActorId then
    publishJoinDecision channel request.actor "declined" request.role
      (.obj [("reason", .str "banned")])
  else if request.state = "active" then
    if allowedRemoteActivation existing inviteState then
      storeMembership now (request.update channel originDomain "active")
    else
      StoreAction.fail .notAuthorizedForRoom
  else if request.state = "left" then
    storeMembership now (request.update channel originDomain "left")
  else if request.state = "invited" then
    handleRemoteJoinRequest context now channel request
  else
    StoreAction.fail .invalidEventPayload

def applyParticipantMembershipProjection (channel : ChatConversation)
    (request : MembershipRequest) :
    StoreAction Reason (RoomStore Local) PUnit := do
  let memberships ← StoreAction.query RoomStore.memberships
  if !(["member", "readonly"].contains request.role) then
    StoreAction.fail .invalidEventPayload
  else if !(["active", "invited", "left"].contains request.state) then
    StoreAction.fail .invalidEventPayload
  else if remoteActorBanned memberships channel.id request.remoteActorId then
    pure ⟨⟩
  else
    storeMembership now
      (request.update channel (actorOriginDomain context request.actor)
        request.state)

def normalizeDomain (value : Option String) : Option String :=
  value.bind fun domain => (present domain).map downcase

def applyMirroredMembershipProjection (server : Server)
    (channel : ChatConversation) (request : MembershipRequest) :
    StoreAction Reason (RoomStore Local) PUnit :=
  if normalizeDomain (some request.remoteDomain) =
      normalizeDomain server.originDomain then
    storeMembership now
      (request.update channel request.remoteDomain request.state)
  else
    applyParticipantMembershipProjection context now channel request

def applyMembershipProjection (server : Server) (channel : ChatConversation)
    (request : MembershipRequest) :
    StoreAction Reason (RoomStore Local) PUnit :=
  if server.isFederatedMirror then
    applyMirroredMembershipProjection context now server channel request
  else
    applyAuthoritativeMembershipProjection context now channel request

def applyMembershipUpsert (data : Json) (remoteDomain : String) :
    StoreAction Reason (RoomStore Local) PUnit :=
  let membership := data.get "membership"
  let actor := membership.get "actor"
  match membership.isMap && actor.isMap, membership.get "state",
      membership.get "role" with
  | true, .str state, .str role => do
      let (server, channel) ← StoreAction.lift
        (context.resolveChannelEventContext data remoteDomain)
      let remoteActorId ← StoreAction.lift
        (context.resolveOrCreateRemoteActorId actor remoteDomain)
      applyMembershipProjection context now server channel
        { remoteActorId := remoteActorId
          remoteDomain := remoteDomain
          role := role
          state := state
          joinedAt := parseDatetime (membership.get "joined_at")
          updatedAt := (parseDatetime (membership.get "updated_at")).getD now
          metadata := metadataOf membership
          actor := actor }
  | _, _, _ => StoreAction.fail .invalidEventPayload

def ensureLocalMirrorServerMembership (channel : ChatConversation)
    (localUser : Int) : StoreAction Reason (RoomStore Local) PUnit :=
  match channel.serverId with
  | some serverId =>
      inLocalMembers (StoreAction.write
        (context.ensureLocalMirrorServerMembership serverId localUser))
  | none => pure ⟨⟩

def applyLocalInviteState (channel : ChatConversation) (localUser : Int)
    (role state : String) : StoreAction Reason (RoomStore Local) PUnit :=
  if state = "accepted" then do
    ensureLocalMirrorServerMembership context channel localUser
    let _ ← inLocalMembers
      (context.addMemberToConversationWithoutFederation channel.id localUser role)
    pure ⟨⟩
  else if ["pending", "declined", "revoked"].contains state then
    pure ⟨⟩
  else
    StoreAction.fail .invalidEventPayload

def inviteTargetMembership (invite : Json) (channel : ChatConversation)
    (targetActorId remoteActorId : Int) (remoteDomain role state : String) :
    MembershipUpdate where
  conversationId := channel.id
  remoteActorId := targetActorId
  remoteDomain := remoteDomain
  role := role
  state := inviteMembershipState state
  joinedAt := parseDatetime (invite.get "invited_at")
  updatedAt := some ((parseDatetime (invite.get "updated_at")).getD now)
  metadata :=
    .obj [("governance_event", .str "invite.upsert"),
      ("invite_state", .str state), ("actor", getActorPayload invite),
      ("actor_remote_id", .int remoteActorId), ("metadata", metadataOf invite)]

def applyInviteTargetProjection (channel : ChatConversation) (target : Json)
    (remoteDomain : String) (remoteActorId : Int) (role state : String)
    (invite : Json) : StoreAction Reason (RoomStore Local) PUnit :=
  match resolveLocalUserFromActorPayload context target with
  | some localUser => applyLocalInviteState context channel localUser role state
  | none => do
      let targetActorId ← StoreAction.lift
        (context.resolveOrCreateRemoteActorId target remoteDomain)
      storeMembership now
        (inviteTargetMembership now invite channel targetActorId remoteActorId
          remoteDomain role state)

def inviteUpdate (invite : Json) (channel : ChatConversation)
    (remoteDomain role state : String) : InviteUpdate where
  conversationId := channel.id
  remoteDomain := remoteDomain
  actorPayload := invite.get "actor"
  targetPayload := invite.get "target"
  role := role
  state := state
  invitedAt := parseDatetime (invite.get "invited_at")
  updatedAt := some ((parseDatetime (invite.get "updated_at")).getD now)
  metadata := metadataOf invite

def applyInviteUpsert (data : Json) (remoteDomain : String) :
    StoreAction Reason (RoomStore Local) PUnit :=
  let invite := data.get "invite"
  let target := invite.get "target"
  let actor := invite.get "actor"
  match invite.isMap && target.isMap && actor.isMap, invite.get "state",
      invite.get "role" with
  | true, .str state, .str role => do
      let (_, channel) ← StoreAction.lift
        (context.resolveChannelEventContext data remoteDomain)
      let remoteActorId ← StoreAction.lift
        (context.resolveOrCreateRemoteActorId actor remoteDomain)
      authorizeGovernanceEvent context channel remoteActorId .invite
      let _ ← inInvites (upsertInviteState now
        (inviteUpdate now invite channel remoteDomain role state))
      applyInviteTargetProjection context now channel target remoteDomain
        remoteActorId role state invite
  | _, _, _ => StoreAction.fail .invalidEventPayload

/-- Cast a payload value to a string column; only `nil` and strings fit. -/
def castText : Json → Option (Option String)
  | .null => some none
  | .str text => some (castString (some text))
  | _ => none

def validBan (ban : CommunityBan) : Bool :=
  (match ban.actorPayload with
    | .obj fields => !fields.isEmpty
    | _ => false) &&
    ban.originDomain.any (validString 255) &&
    ban.reason.all fun reason => reason.length ≤ 500

def communityBanOf (channel : ChatConversation) (localUser : Int)
    (ban : Json) (reason : Option String) : CommunityBan where
  conversationId := channel.id
  userId := localUser
  bannedById := none
  originDomain := some (actorOriginDomain context (getActorPayload ban))
  actorPayload := getActorPayload ban
  metadata := metadataOf ban
  reason := reason
  expiresAt := (parseDatetime (ban.get "expires_at")).map DateTime.truncate
  bannedAtRemote := (parseDatetime (ban.get "banned_at")).map DateTime.truncate
  updatedAtRemote :=
    some ((parseDatetime (ban.get "updated_at")).getD now).truncate

def upsertLocalBanProjection (channel : ChatConversation) (localUser : Int)
    (ban : Json) : StoreAction Reason (RoomStore Local) PUnit :=
  match castText (ban.get "reason") with
  | none => StoreAction.fail .invalidChangeset
  | some reason =>
      let row := communityBanOf context now channel localUser ban reason
      if validBan row then
        StoreAction.write fun store =>
          { store with
            communityBans :=
              Function.update store.communityBans (channel.id, localUser)
                (some row) }
      else
        StoreAction.fail .invalidChangeset

def deleteLocalBan (bans : Table (Int × Int) CommunityBan)
    (conversationId localUser : Int) (originDomain : String) :
    Table (Int × Int) CommunityBan :=
  match bans (conversationId, localUser) with
  | some row =>
      if row.originDomain = some originDomain then
        Function.update bans (conversationId, localUser) none
      else bans
  | none => bans

def deleteLocalBanProjection (channel : ChatConversation) (localUser : Int)
    (ban : Json) : StoreAction Reason (RoomStore Local) PUnit :=
  StoreAction.write fun store =>
    { store with
      communityBans :=
        deleteLocalBan store.communityBans channel.id localUser
          (actorOriginDomain context (getActorPayload ban)) }

def applyLocalBanState (channel : ChatConversation) (localUser : Int)
    (state : String) (ban : Json) : StoreAction Reason (RoomStore Local) PUnit :=
  if state = "active" then do
    inLocalMembers (context.removeLocalBannedMember channel.id localUser)
    upsertLocalBanProjection context now channel localUser ban
  else if state = "lifted" then
    deleteLocalBanProjection context channel localUser ban
  else
    StoreAction.fail .invalidEventPayload

def banTargetMembership (ban : Json) (channel : ChatConversation)
    (targetActorId remoteActorId : Int) (remoteDomain state : String) :
    MembershipUpdate where
  conversationId := channel.id
  remoteActorId := targetActorId
  remoteDomain := remoteDomain
  role := "member"
  state := banMembershipState state
  joinedAt := parseDatetime (ban.get "banned_at")
  updatedAt := some ((parseDatetime (ban.get "updated_at")).getD now)
  metadata :=
    .obj [("governance_event", .str "ban.upsert"), ("ban_state", .str state),
      ("reason", ban.get "reason"), ("expires_at", ban.get "expires_at"),
      ("actor", getActorPayload ban), ("actor_remote_id", .int remoteActorId),
      ("metadata", metadataOf ban)]

def applyBanTargetProjection (channel : ChatConversation) (target : Json)
    (remoteDomain : String) (remoteActorId : Int) (state : String) (ban : Json) :
    StoreAction Reason (RoomStore Local) PUnit :=
  match resolveLocalUserFromActorPayload context target with
  | some localUser => applyLocalBanState context now channel localUser state ban
  | none => do
      let targetActorId ← StoreAction.lift
        (context.resolveOrCreateRemoteActorId target remoteDomain)
      storeMembership now
        (banTargetMembership now ban channel targetActorId remoteActorId
          remoteDomain state)

def applyBanUpsert (data : Json) (remoteDomain : String) :
    StoreAction Reason (RoomStore Local) PUnit :=
  let ban := data.get "ban"
  let target := ban.get "target"
  let actor := ban.get "actor"
  match ban.isMap && target.isMap && actor.isMap, ban.get "state" with
  | true, .str state => do
      let (_, channel) ← StoreAction.lift
        (context.resolveChannelEventContext data remoteDomain)
      let remoteActorId ← StoreAction.lift
        (context.resolveOrCreateRemoteActorId actor remoteDomain)
      authorizeGovernanceEvent context channel remoteActorId .ban
      applyBanTargetProjection context now channel target remoteDomain
        remoteActorId state ban
  | _, _ => StoreAction.fail .invalidEventPayload

end Handlers

inductive GovernanceEventType where
  | membershipUpsert
  | inviteUpsert
  | banUpsert
  deriving DecidableEq, Repr

/-- A governance event as it reaches `apply_event`, and the local time. -/
structure GovernanceEvent where
  eventType : GovernanceEventType
  data : Json
  remoteDomain : String
  receivedAt : DateTime

def applyEvent (context : MirrorEventsContext Local) (event : GovernanceEvent) :
    StoreAction Reason (RoomStore Local) PUnit :=
  match event.eventType with
  | .membershipUpsert =>
      applyMembershipUpsert context event.receivedAt event.data
        event.remoteDomain
  | .inviteUpsert =>
      applyInviteUpsert context event.receivedAt event.data event.remoteDomain
  | .banUpsert =>
      applyBanUpsert context event.receivedAt event.data event.remoteDomain

def receive (context : MirrorEventsContext Local) (store : RoomStore Local)
    (event : GovernanceEvent) : RoomStore Local :=
  ((StoreAction.transaction (applyEvent context event)).perform store).2

end MirrorEvents

end Elektrine.Messaging.Federation
