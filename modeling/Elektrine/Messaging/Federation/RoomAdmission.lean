import Elektrine.Messaging.Federation.GovernanceEffects

/-!
# Admission to a room of this node

A room whose authority is this node takes membership events of remote actors as
requests.  The banned stay banned and activation needs a ground; the role an
actor asks for is checked in a membership event, but not in an invite that the
actor addresses to itself.
-/

namespace Elektrine.Messaging.Federation

open Elektrine.Library
open MirrorEvents

variable {Local : Type} (context : MirrorEventsContext Local)
  (channel : ChatConversation)

def MirrorEvents.GovernanceEvent.actor (event : GovernanceEvent) : Json :=
  match event.eventType with
  | .membershipUpsert => event.data.getIn ["membership", "actor"]
  | .inviteUpsert => event.data.getIn ["invite", "actor"]
  | .banUpsert => event.data.getIn ["ban", "actor"]

/-- The event is one of the remote actor's own. -/
def ActsAs (event : GovernanceEvent) (remoteActorId : Int) : Prop :=
  context.resolveOrCreateRemoteActorId event.actor event.remoteDomain =
    .ok remoteActorId

def membershipState (store : RoomStore Local) (remoteActorId : Int) :
    Option String :=
  (store.memberships (channel.id, remoteActorId)).map
    FederationMembershipState.state

def membershipRole (store : RoomStore Local) (remoteActorId : Int) :
    Option String :=
  (store.memberships (channel.id, remoteActorId)).map
    FederationMembershipState.role

abbrev Admission (Local : Type) := Transition (RoomStore Local) GovernanceEvent

/-- A membership event does not touch the row of a banned actor. -/
def BannedStay (admission : Admission Local) : Prop :=
  admission.action.eventType = .membershipUpsert →
    ∀ remoteActorId,
      membershipState channel admission.before remoteActorId = some "banned" →
      admission.after.memberships (channel.id, remoteActorId) =
        admission.before.memberships (channel.id, remoteActorId)

/-- Whom a membership event makes active has sent it and holds an accepted
invite, or the room is open to everyone. -/
def ActivatedOnGround (admission : Admission Local) : Prop :=
  admission.action.eventType = .membershipUpsert →
    ∀ remoteActorId,
      membershipState channel admission.before remoteActorId ≠ some "active" →
      membershipState channel admission.after remoteActorId = some "active" →
      ActsAs context admission.action remoteActorId ∧
        (inviteStateForActor admission.before.invites channel.id
            (MirrorEvents.actorUri admission.action.actor) = some "accepted" ∨
          (channel.isPublic = true ∧ channel.approvalModeEnabled = false))

/-- An actor does not obtain a privileged role by an event of its own. -/
def NotElevated (admission : Admission Local) : Prop :=
  ∀ remoteActorId, ActsAs context admission.action remoteActorId →
    ∀ role, membershipRole channel admission.after remoteActorId = some role →
      ["member", "readonly"].contains role = false →
      membershipRole channel admission.before remoteActorId = some role

/-- The invite passes `upsert_invite_state`. -/
def InviteAccepted (update : InviteUpdate) (updatedAt : DateTime)
    (invites : Table (Int × Option String) FederationInviteState) : Prop :=
  (update.actorPayload.isMap && update.targetPayload.isMap &&
      update.metadata.isMap) = true ∧
    ((update.attrs updatedAt).actorUri.isSome &&
      (update.attrs updatedAt).targetUri.isSome) = true ∧
    (Superseded inviteSchema (update.attrs updatedAt) invites ∨
      inviteSchema.valid (update.attrs updatedAt) = true)

/-- An authorized invite that an actor addresses to itself, with a privileged
role that it does not have yet. -/
structure SelfElevation (before : RoomStore Local) (event : GovernanceEvent)
    (state role : String) (remoteActorId : Int) : Prop where
  isInvite : event.eventType = .inviteUpsert
  maps : ((event.data.get "invite").isMap &&
    (event.data.getIn ["invite", "target"]).isMap &&
    (event.data.getIn ["invite", "actor"]).isMap) = true
  stateGiven : event.data.getIn ["invite", "state"] = .str state
  roleGiven : event.data.getIn ["invite", "role"] = .str role
  actor : context.resolveOrCreateRemoteActorId
    (event.data.getIn ["invite", "actor"]) event.remoteDomain =
      .ok remoteActorId
  remoteTarget : resolveLocalUserFromActorPayload context
    (event.data.getIn ["invite", "target"]) = none
  target : context.resolveOrCreateRemoteActorId
    (event.data.getIn ["invite", "target"]) event.remoteDomain =
      .ok remoteActorId
  authorized : authorizeRemoteActorAction context before.memberships channel
    remoteActorId .invite = true
  invite : InviteAccepted
    (inviteUpdate event.receivedAt (event.data.get "invite") channel
      event.remoteDomain role state)
    ((parseDatetime (event.data.getIn ["invite", "updated_at"])).getD
      event.receivedAt) before.invites
  valid : membershipSchema.valid
    ((inviteTargetMembership event.receivedAt (event.data.get "invite") channel
      remoteActorId remoteActorId event.remoteDomain role state).attrs 0) = true
  current : ¬ Superseded membershipSchema
    ((inviteTargetMembership event.receivedAt (event.data.get "invite") channel
      remoteActorId remoteActorId event.remoteDomain role state).attrs
        ((parseDatetime (event.data.getIn ["invite", "updated_at"])).getD
          event.receivedAt)) before.memberships
  privileged : ["member", "readonly"].contains role = false
  gained : membershipRole channel before remoteActorId ≠ some role

def ElevatesItself (before : RoomStore Local) (event : GovernanceEvent) : Prop :=
  ∃ state role remoteActorId,
    SelfElevation context channel before event state role remoteActorId

variable {context channel}

theorem exists_returns_upsertInviteState_iff
    {now : DateTime} {update : InviteUpdate}
    {invites : Table (Int × Option String) FederationInviteState} :
    (∃ row after,
      StoreAction.Returns (upsertInviteState now update) invites row after) ↔
      InviteAccepted update (update.updatedAt.getD now) invites := by
  simp only [upsertInviteState, InviteAccepted]
  split_ifs with maps uris
  · rw [returns_upsertRemoteState_some_iff]
    exact ⟨fun possible => ⟨maps, uris, possible⟩, fun passed => passed.2.2⟩
  · constructor
    · intro returned
      obtain ⟨row, after, returned⟩ := returned
      exact absurd returned StoreAction.not_returns_fail
    · intro passed
      exact absurd passed.2.1 uris
  · constructor
    · intro returned
      obtain ⟨row, after, returned⟩ := returned
      exact absurd returned StoreAction.not_returns_fail
    · intro passed
      exact absurd passed.1 maps

section Step

variable {server : Server} {before : RoomStore Local} {event : GovernanceEvent}

/-- A membership event on a room of this node: nothing happens to the
memberships, or the row of its unbanned author is stored. -/
theorem membershipEvent_effect
    (resolved : context.resolveChannelEventContext event.data
      event.remoteDomain = .ok (server, channel))
    (own : server.isFederatedMirror = false)
    (isMembership : event.eventType = .membershipUpsert) :
    (receive context before event).memberships = before.memberships ∨
      ∃ (update : MembershipUpdate) (remoteActorId : Int),
        update.conversationId = channel.id ∧
        update.remoteActorId = remoteActorId ∧
        ActsAs context event remoteActorId ∧
        ["member", "readonly"].contains update.role = true ∧
        remoteActorBanned before.memberships channel.id remoteActorId = false ∧
        (update.state = "active" →
          Grounds channel before remoteActorId event.actor) ∧
        Stored update before (receive context before event) := by
  rcases receive_cases context before event with unchanged | returned
  · exact .inl (congrArg RoomStore.memberships unchanged)
  · simp only [applyEvent, isMembership] at returned
    obtain ⟨request, actor, acts, projected⟩ :=
      membershipUpsert_effect resolved returned
    rw [applyMembershipProjection, if_neg (by simp [own])] at projected
    obtain ⟨role, declined | stored⟩ := authoritative_effect projected
    · obtain ⟨-, joinDecisions, unchanged⟩ := declined
      exact .inl (by rw [unchanged])
    · obtain ⟨notBanned, update, conversation, sameActor, sameRole, grounds,
        stored⟩ := stored
      have author : event.actor = request.actor := by
        rw [actor, GovernanceEvent.actor, isMembership]
      refine .inr ⟨update, request.remoteActorId, conversation, sameActor, ?_,
        sameRole ▸ role, notBanned, author ▸ grounds, stored⟩
      rw [ActsAs, author]
      exact acts

theorem bannedStay_receive
    (resolved : context.resolveChannelEventContext event.data
      event.remoteDomain = .ok (server, channel))
    (own : server.isFederatedMirror = false) :
    BannedStay channel ⟨before, event, receive context before event⟩ := by
  intro isMembership remoteActorId banned
  rcases membershipEvent_effect resolved own isMembership with
    unchanged | ⟨update, author, conversation, sameActor, -, -, notBanned, -,
      stored⟩
  · exact congrFun unchanged _
  · apply stored.other
    intro same
    obtain ⟨-, sameId⟩ := Prod.mk.inj same
    rw [sameActor] at sameId
    subst sameId
    cases row : before.memberships (channel.id, remoteActorId) with
    | none => simp [membershipState, row] at banned
    | some membership =>
        simp only [membershipState, row, Option.map_some, Option.some.injEq]
          at banned
        simp [remoteActorBanned, row, banned] at notBanned

theorem activatedOnGround_receive
    (resolved : context.resolveChannelEventContext event.data
      event.remoteDomain = .ok (server, channel))
    (own : server.isFederatedMirror = false) :
    ActivatedOnGround context channel
      ⟨before, event, receive context before event⟩ := by
  intro isMembership remoteActorId inactive active
  rcases membershipEvent_effect resolved own isMembership with
    unchanged | ⟨update, author, conversation, sameActor, acts, -, -, grounds,
      stored⟩
  · have kept : membershipState channel before remoteActorId =
        membershipState channel (receive context before event) remoteActorId :=
      congrArg (Option.map FederationMembershipState.state)
        (congrFun unchanged _).symm
    exact absurd (kept.trans active) inactive
  · by_cases same : remoteActorId = author
    · subst same
      have rowOf := stored.own
      rw [conversation, sameActor] at rowOf
      rcases rowOf with kept | ⟨row, -, state, written⟩
      · refine absurd ?_ inactive
        simpa [membershipState, kept] using active
      · have activated : update.state = "active" := by
          simpa [membershipState, written, state] using active
        rcases grounds activated with already | ground
        · exact absurd already inactive
        · exact ⟨acts, ground⟩
    · have kept : (receive context before event).memberships
            (channel.id, remoteActorId) =
          before.memberships (channel.id, remoteActorId) :=
        stored.other fun equal =>
          same ((Prod.mk.inj equal).2.trans sameActor)
      refine absurd ?_ inactive
      rw [membershipState, ← kept]
      exact active

theorem membershipRole_eq_of_kept {after : RoomStore Local} {remoteActorId : Int}
    (kept : after.memberships (channel.id, remoteActorId) =
      before.memberships (channel.id, remoteActorId)) :
    membershipRole channel after remoteActorId =
      membershipRole channel before remoteActorId :=
  congrArg (Option.map FederationMembershipState.role) kept

theorem role_kept_of_stored {update : MembershipUpdate}
    {after : RoomStore Local} (stored : Stored update before after)
    (unprivileged : ["member", "readonly"].contains update.role = true)
    {remoteActorId : Int} {role : String}
    (reached : membershipRole channel after remoteActorId = some role)
    (privileged : ["member", "readonly"].contains role = false) :
    membershipRole channel before remoteActorId = some role := by
  by_cases here : (channel.id, remoteActorId) =
      (update.conversationId, update.remoteActorId)
  · rw [membershipRole, here] at reached ⊢
    rcases stored.own with kept | ⟨row, sameRole, -, written⟩
    · rwa [← kept]
    · have rolesMeet : update.role = role := by
        simpa [written, sameRole] using reached
      rw [rolesMeet, privileged] at unprivileged
      exact absurd unprivileged Bool.false_ne_true
  · rwa [← membershipRole_eq_of_kept (stored.other here)]

theorem role_of_selfElevation
    (resolved : context.resolveChannelEventContext event.data
      event.remoteDomain = .ok (server, channel))
    {state role : String} {remoteActorId : Int}
    (elevates : SelfElevation context channel before event state role
      remoteActorId) :
    membershipRole channel (receive context before event) remoteActorId =
      some role := by
  obtain ⟨row, invites, stored⟩ :=
    exists_returns_upsertInviteState_iff.mpr elevates.invite
  let membership := inviteTargetMembership event.receivedAt
    (event.data.get "invite") channel remoteActorId remoteActorId
    event.remoteDomain role state
  let updatedAt := (parseDatetime
    (event.data.getIn ["invite", "updated_at"])).getD event.receivedAt
  have written : StoreAction.Returns
      (upsertMembershipState event.receivedAt membership) before.memberships
      (membershipSchema.cast (membership.attrs updatedAt))
      (Function.update before.memberships (channel.id, remoteActorId)
        (some (membershipSchema.cast (membership.attrs updatedAt)))) :=
    returns_upsertRemoteState_iff.mpr
      (.inr ⟨elevates.current, elevates.valid, rfl, rfl⟩)
  have returned : StoreAction.Returns (applyEvent context event) before ⟨⟩
      { before with
        invites := invites
        memberships := Function.update before.memberships
          (channel.id, remoteActorId)
          (some (membershipSchema.cast (membership.attrs updatedAt))) } := by
    simp only [applyEvent, elevates.isInvite]
    apply (returns_applyInviteUpsert_iff resolved).mpr
    refine ⟨state, role, remoteActorId, elevates.maps, elevates.stateGiven,
      elevates.roleGiven, elevates.actor, elevates.authorized, row, invites,
      stored, ?_⟩
    apply (returns_remoteInvite_iff elevates.remoteTarget).mpr
    refine ⟨remoteActorId, elevates.target, ?_⟩
    exact returns_storeMembership_iff.mpr ⟨_, _, written, rfl⟩
  rw [receive_of_returns returned]
  simp [membershipRole, membershipSchema, MembershipUpdate.attrs, membership,
    inviteTargetMembership]

theorem invite_keeps
    (resolved : context.resolveChannelEventContext event.data
      event.remoteDomain = .ok (server, channel))
    (isInvite : event.eventType = .inviteUpsert)
    (harmless : ¬ ElevatesItself context channel before event)
    {remoteActorId : Int} {role : String}
    (acts : ActsAs context event remoteActorId)
    (reached : membershipRole channel (receive context before event)
      remoteActorId = some role)
    (privileged : ["member", "readonly"].contains role = false) :
    membershipRole channel before remoteActorId = some role := by
  rcases receive_cases context before event with unchanged | returned
  · rwa [unchanged] at reached
  · simp only [applyEvent, isInvite] at returned
    obtain ⟨state, given, author, maps, stateGiven, roleGiven, actor,
      authorized, row, invites, stored, projected⟩ :=
      (returns_applyInviteUpsert_iff resolved).mp returned
    have same : author = remoteActorId := by
      rw [ActsAs, GovernanceEvent.actor, isInvite] at acts
      exact Except.ok.inj (actor.symm.trans acts)
    subst same
    cases target : resolveLocalUserFromActorPayload context
        (event.data.getIn ["invite", "target"]) with
    | some localUser =>
        obtain ⟨localMembers, after⟩ := localInvite_effect target projected
        rwa [after] at reached
    | none =>
        obtain ⟨invited, resolvedTarget, membership⟩ :=
          (returns_remoteInvite_iff target).mp projected
        by_cases toItself : invited = author
        · subst toItself
          obtain ⟨_, memberships, upserted, after⟩ :=
            returns_storeMembership_iff.mp membership
          rw [after] at reached
          rcases returns_upsertRemoteState_iff.mp upserted with
            ⟨-, -, kept⟩ | ⟨current, valid, -, written⟩
          · rwa [kept] at reached
          · have gets : given = role := by
              simpa [membershipRole, written, membershipSchema,
                MembershipUpdate.attrs, inviteTargetMembership] using reached
            subst gets
            by_contra gained
            exact harmless ⟨state, given, invited,
              { isInvite, maps, stateGiven, roleGiven, actor
                remoteTarget := target
                target := resolvedTarget
                authorized
                invite := exists_returns_upsertInviteState_iff.mp
                  ⟨row, invites, stored⟩
                valid, current, privileged, gained }⟩
        · have kept := (stored_of_returns membership).other
            (fun equal => toItself (Prod.mk.inj equal).2.symm :
              (channel.id, author) ≠ _)
          exact (membershipRole_eq_of_kept kept).symm.trans reached

theorem ban_keeps
    (resolved : context.resolveChannelEventContext event.data
      event.remoteDomain = .ok (server, channel))
    (isBan : event.eventType = .banUpsert)
    {remoteActorId : Int} {role : String}
    (reached : membershipRole channel (receive context before event)
      remoteActorId = some role)
    (privileged : ["member", "readonly"].contains role = false) :
    membershipRole channel before remoteActorId = some role := by
  rcases receive_cases context before event with unchanged | returned
  · rwa [unchanged] at reached
  · simp only [applyEvent, isBan] at returned
    obtain ⟨state, author, -, -, -, -, projected⟩ :=
      (returns_applyBanUpsert_iff resolved).mp returned
    cases target : resolveLocalUserFromActorPayload context
        (event.data.getIn ["ban", "target"]) with
    | some localUser =>
        have kept := localBan_memberships
          ((returns_localBan_iff target).mp projected)
        exact (membershipRole_eq_of_kept (congrFun kept _)).symm.trans reached
    | none =>
        obtain ⟨banned, -, membership⟩ :=
          (returns_remoteBan_iff target).mp projected
        exact role_kept_of_stored (stored_of_returns membership)
          (by simp [banTargetMembership]) reached privileged

theorem notElevated_receive_iff
    (resolved : context.resolveChannelEventContext event.data
      event.remoteDomain = .ok (server, channel))
    (own : server.isFederatedMirror = false) :
    NotElevated context channel ⟨before, event, receive context before event⟩ ↔
      ¬ ElevatesItself context channel before event := by
  constructor
  · intro notElevated elevates
    obtain ⟨state, role, remoteActorId, elevates⟩ := elevates
    have acts : ActsAs context event remoteActorId := by
      rw [ActsAs, GovernanceEvent.actor, elevates.isInvite]
      exact elevates.actor
    exact elevates.gained (notElevated remoteActorId acts role
      (role_of_selfElevation resolved elevates) elevates.privileged)
  · intro harmless remoteActorId acts role reached privileged
    cases kind : event.eventType with
    | membershipUpsert =>
        rcases membershipEvent_effect resolved own kind with
          unchanged | ⟨update, -, -, -, -, unprivileged, -, -, stored⟩
        · exact (membershipRole_eq_of_kept (congrFun unchanged _)).symm.trans
            reached
        · exact role_kept_of_stored stored unprivileged reached privileged
    | inviteUpsert =>
        exact invite_keeps resolved kind harmless acts reached privileged
    | banUpsert => exact ban_keeps resolved kind reached privileged

end Step

/-- In every run of governance events on a room of this node the banned stay
banned and activation has a ground; no actor elevates itself exactly when no
actor sends itself an authorized invite with a privileged role. -/
theorem admission_run
    (context : MirrorEventsContext Local) (server : Server)
    (channel : ChatConversation) (own : server.isFederatedMirror = false)
    (start : RoomStore Local) (events : List GovernanceEvent)
    (onRoom : ∀ event ∈ events,
      context.resolveChannelEventContext event.data event.remoteDomain =
        .ok (server, channel)) :
    (∀ admission ∈ transitions (receive context) start events,
      BannedStay channel admission ∧
        ActivatedOnGround context channel admission) ∧
    ((∀ admission ∈ transitions (receive context) start events,
        NotElevated context channel admission) ↔
      ∀ admission ∈ transitions (receive context) start events,
        ¬ ElevatesItself context channel admission.before admission.action) := by
  have steps : ∀ admission ∈ transitions (receive context) start events,
      (BannedStay channel admission ∧
        ActivatedOnGround context channel admission) ∧
      (NotElevated context channel admission ↔
        ¬ ElevatesItself context channel admission.before admission.action) := by
    intro admission member
    obtain ⟨taken, result⟩ := mem_transitions member
    obtain ⟨before, event, after⟩ := admission
    have same : after = receive context before event := result
    subst same
    have resolved := onRoom event taken
    exact ⟨⟨bannedStay_receive resolved own,
      activatedOnGround_receive resolved own⟩,
      notElevated_receive_iff resolved own⟩
  refine ⟨fun admission member => (steps admission member).1, ?_⟩
  constructor
  · intro all admission member
    exact (steps admission member).2.mp (all admission member)
  · intro none admission member
    exact (steps admission member).2.mpr (none admission member)

def openRoom : ChatConversation where
  id := 1
  type := "channel"
  serverId := some 1
  creatorId := some 1
  isPublic := true
  approvalModeEnabled := false
  isFederatedMirror := false

def homeServer : Server := ⟨false, none⟩

def malloryUri : String := "https://a.example/users/mallory"

def moderatorAssignment : String × Json :=
  (ArblargSDK.rolesRoleAssignmentUpsertEventType,
    .obj [("assignment", .obj [("role_id", .str "builtin:moderator"),
      ("target", .obj [("type", .str "member"), ("id", .str malloryUri)]),
      ("state", .str "assigned")])])

def openRoomContext : MirrorEventsContext Unit where
  localDomain := "home.example"
  resolveChannelEventContext _ _ := .ok (homeServer, openRoom)
  resolveOrCreateRemoteActorId actor _ :=
    match actor.get "uri" with
    | .str uri => if uri = malloryUri then .ok 7 else .error .invalidEventPayload
    | _ => .error .invalidEventPayload
  actorUriById _ := some malloryUri
  extensionEvents _ := [moderatorAssignment]
  localUsernameFromUri _ := none
  getUserByUsername _ := none
  ensureLocalMirrorServerMembership _ _ members := members
  addMemberToConversationWithoutFederation _ _ _ := pure .added
  removeLocalBannedMember _ _ := pure ⟨⟩

def emptyRoomStore : RoomStore Unit :=
  ⟨fun _ => none, fun _ => none, fun _ => none, [], ()⟩

def malloryActor : Json :=
  .obj [("uri", .str malloryUri), ("username", .str "mallory"),
    ("domain", .str "a.example"), ("handle", .str "mallory@a.example")]

def malloryMembership (role state updatedAt : String) : GovernanceEvent where
  eventType := .membershipUpsert
  data := .obj [("membership", .obj [("actor", malloryActor),
    ("role", .str role), ("state", .str state),
    ("updated_at", .str updatedAt)])]
  remoteDomain := "a.example"
  receivedAt := 0

def mallorySelfInvite : GovernanceEvent where
  eventType := .inviteUpsert
  data := .obj [("invite", .obj [("actor", malloryActor),
    ("target", malloryActor), ("role", .str "owner"),
    ("state", .str "accepted"), ("invited_at", .str "2026-01-01T00:01:00Z"),
    ("updated_at", .str "2026-01-01T00:01:00Z")])]
  remoteDomain := "a.example"
  receivedAt := 0

theorem admission_run_join :
    (∀ admission ∈ transitions (receive openRoomContext) emptyRoomStore
        [malloryMembership "member" "invited" "2026-01-01T00:00:00Z",
          malloryMembership "member" "left" "2026-01-01T00:02:00Z"],
      BannedStay openRoom admission ∧
        ActivatedOnGround openRoomContext openRoom admission) ∧
    ∀ admission ∈ transitions (receive openRoomContext) emptyRoomStore
        [malloryMembership "member" "invited" "2026-01-01T00:00:00Z",
          malloryMembership "member" "left" "2026-01-01T00:02:00Z"],
      NotElevated openRoomContext openRoom admission := by
  obtain ⟨always, elevated⟩ := admission_run openRoomContext homeServer openRoom
    rfl emptyRoomStore
    [malloryMembership "member" "invited" "2026-01-01T00:00:00Z",
      malloryMembership "member" "left" "2026-01-01T00:02:00Z"]
    (fun _ _ => rfl)
  refine ⟨always, elevated.mpr ?_⟩
  intro admission member elevates
  obtain ⟨state, role, remoteActorId, elevates⟩ := elevates
  obtain ⟨taken, -⟩ := mem_transitions member
  have isInvite := elevates.isInvite
  simp only [List.mem_cons, List.not_mem_nil, or_false] at taken
  rcases taken with same | same <;> simp [same, malloryMembership] at isInvite

/-- A member with a moderator assignment makes itself the owner. -/
theorem selfInvite_becomesOwner :
    membershipRole openRoom
        (([malloryMembership "member" "invited" "2026-01-01T00:00:00Z",
          mallorySelfInvite] : List GovernanceEvent).foldl
            (receive openRoomContext) emptyRoomStore) 7 = some "owner" ∧
      ¬ ∀ admission ∈ transitions (receive openRoomContext) emptyRoomStore
          [malloryMembership "member" "invited" "2026-01-01T00:00:00Z",
            mallorySelfInvite],
        NotElevated openRoomContext openRoom admission := by
  have joined : membershipRole openRoom
      (receive openRoomContext emptyRoomStore
        (malloryMembership "member" "invited" "2026-01-01T00:00:00Z")) 7 =
      some "member" := rfl
  have owns : membershipRole openRoom
      (([malloryMembership "member" "invited" "2026-01-01T00:00:00Z",
        mallorySelfInvite] : List GovernanceEvent).foldl
          (receive openRoomContext) emptyRoomStore) 7 = some "owner" := rfl
  refine ⟨owns, ?_⟩
  intro never
  have kept := never _ (List.mem_cons_of_mem _ List.mem_cons_self) 7 rfl "owner"
    owns (by decide)
  rw [joined] at kept
  exact absurd kept (by decide)

end Elektrine.Messaging.Federation
