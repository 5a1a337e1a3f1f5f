import Elektrine.Library.Runs
import Elektrine.Messaging.Federation.MirrorEvents

/-!
# What governance events write

One lemma for each event says everything an accepted event can have done to the
tables, together with the checks it has passed; the results about runs split on
these and do not look at the handlers again.
-/

namespace Elektrine.Messaging.Federation.MirrorEvents

open Elektrine.Library
open RoomStore

variable {Local : Type} {context : MirrorEventsContext Local} {now : DateTime}
  {channel : ChatConversation} {before after : RoomStore Local}

structure Stored (update : MembershipUpdate) (before after : RoomStore Local) :
    Prop where
  invites : after.invites = before.invites
  communityBans : after.communityBans = before.communityBans
  localMembers : after.localMembers = before.localMembers
  memberships :
    after.memberships = before.memberships ∨
      ∃ row : FederationMembershipState,
        row.role = update.role ∧ row.state = update.state ∧
        after.memberships =
          Function.update before.memberships
            (update.conversationId, update.remoteActorId) (some row)

theorem returns_inMemberships_iff {α : Type}
    {action : StoreAction Reason
      (Table (Int × Int) FederationMembershipState) α} {result : α} :
    StoreAction.Returns (inMemberships action) before result after ↔
      ∃ memberships,
        StoreAction.Returns action before.memberships result memberships ∧
        after = { before with memberships } :=
  StoreAction.returns_focus_iff

theorem returns_inInvites_iff {α : Type}
    {action : StoreAction Reason
      (Table (Int × Option String) FederationInviteState) α} {result : α} :
    StoreAction.Returns (inInvites action) before result after ↔
      ∃ invites,
        StoreAction.Returns action before.invites result invites ∧
        after = { before with invites } :=
  StoreAction.returns_focus_iff

theorem returns_inLocalMembers_iff {α : Type}
    {action : StoreAction Reason Local α} {result : α} :
    StoreAction.Returns (inLocalMembers action) before result after ↔
      ∃ localMembers,
        StoreAction.Returns action before.localMembers result localMembers ∧
        after = { before with localMembers } :=
  StoreAction.returns_focus_iff

theorem returns_storeMembership_iff
    {update : MembershipUpdate} {result : PUnit} :
    StoreAction.Returns (storeMembership now update) before result after ↔
      ∃ row memberships,
        StoreAction.Returns (upsertMembershipState now update)
          before.memberships row memberships ∧
        after = { before with memberships } := by
  simp only [storeMembership, StoreAction.returns_bind_iff,
    returns_inMemberships_iff, StoreAction.returns_pure_iff]
  constructor
  · intro returned
    obtain ⟨row, _, ⟨memberships, stored, rfl⟩, -, rfl⟩ := returned
    exact ⟨row, memberships, stored, rfl⟩
  · intro stored
    obtain ⟨row, memberships, stored, rfl⟩ := stored
    exact ⟨row, _, ⟨memberships, stored, rfl⟩, trivial, rfl⟩

theorem stored_of_returns {update : MembershipUpdate}
    (returned : StoreAction.Returns (storeMembership now update)
      before ⟨⟩ after) :
    Stored update before after := by
  obtain ⟨row, memberships, upserted, rfl⟩ :=
    returns_storeMembership_iff.mp returned
  refine ⟨rfl, rfl, rfl, ?_⟩
  by_cases guarded : update.metadata.isMap = true
  · rw [upsertMembershipState, if_pos guarded] at upserted
    rcases returns_upsertRemoteState_iff.mp upserted with
      ⟨-, -, kept⟩ | ⟨-, -, -, written⟩
    · exact .inl kept
    · exact .inr ⟨_, rfl, rfl, written⟩
  · rw [upsertMembershipState, if_neg guarded] at upserted
    exact absurd upserted StoreAction.not_returns_fail

namespace Stored

variable {update : MembershipUpdate}

theorem other (stored : Stored update before after) {key : Int × Int}
    (elsewhere : key ≠ (update.conversationId, update.remoteActorId)) :
    after.memberships key = before.memberships key := by
  rcases stored.memberships with kept | ⟨row, -, -, written⟩
  · rw [kept]
  · rw [written, Function.update_of_ne elsewhere]

theorem own (stored : Stored update before after) :
    after.memberships (update.conversationId, update.remoteActorId) =
        before.memberships (update.conversationId, update.remoteActorId) ∨
      ∃ row : FederationMembershipState,
        row.role = update.role ∧ row.state = update.state ∧
        after.memberships (update.conversationId, update.remoteActorId) =
          some row := by
  rcases stored.memberships with kept | ⟨row, role, state, written⟩
  · exact .inl (congrFun kept _)
  · exact .inr ⟨row, role, state, by rw [written, Function.update_self]⟩

end Stored

theorem publishJoinDecision_frame {target : Json} {state role : String}
    {metadata : Json}
    (returned : StoreAction.Returns
      (publishJoinDecision channel target state role metadata)
      before ⟨⟩ after) :
    ∃ joinDecisions, after = { before with joinDecisions } := by
  unfold publishJoinDecision at returned
  cases creator : channel.creatorId with
  | none =>
      simp only [creator, StoreAction.returns_pure_iff] at returned
      exact ⟨before.joinDecisions, returned.2⟩
  | some actorUserId =>
      simp only [creator, StoreAction.returns_write_iff] at returned
      exact ⟨_, returned⟩

/-- The grounds on which a room of this node makes its applicant active. -/
def Grounds (channel : ChatConversation) (store : RoomStore Local)
    (remoteActorId : Int) (actor : Json) : Prop :=
  (store.memberships (channel.id, remoteActorId)).map
      FederationMembershipState.state = some "active" ∨
    inviteStateForActor store.invites channel.id (actorUri actor) =
      some "accepted" ∨
    (channel.isPublic = true ∧ channel.approvalModeEnabled = false)

theorem grounds_of_allowedRemoteActivation
    {remoteActorId : Int} {actor : Json}
    (allowed : allowedRemoteActivation
      (before.memberships (channel.id, remoteActorId))
      (inviteStateForActor before.invites channel.id (actorUri actor)) = true) :
    Grounds channel before remoteActorId actor := by
  unfold allowedRemoteActivation at allowed
  rcases Bool.or_eq_true_iff.mp allowed with active | invited
  · left
    cases row : before.memberships (channel.id, remoteActorId) with
    | none => simp [row] at active
    | some membership => simpa [row] using active
  · exact .inr (.inl (by simpa using invited))

theorem joinRequestDecision_accepted
    {memberships : Table (Int × Int) FederationMembershipState}
    {remoteActorId : Int}
    (accepted : (joinRequestDecision memberships channel remoteActorId).1 =
      "accepted") :
    channel.isPublic = true ∧ channel.approvalModeEnabled = false := by
  unfold joinRequestDecision at accepted
  split_ifs at accepted with banned closed approval
  · simp at accepted
  · simp at accepted
  · simp at accepted
  · exact ⟨by simpa using closed, by simpa using approval⟩

theorem joinRequest_effect {request : MembershipRequest}
    (returned : StoreAction.Returns
      (handleRemoteJoinRequest context now channel request) before ⟨⟩ after) :
    ∃ update : MembershipUpdate,
      update.conversationId = channel.id ∧
      update.remoteActorId = request.remoteActorId ∧
      update.role = request.role ∧
      (update.state = "active" →
        channel.isPublic = true ∧ channel.approvalModeEnabled = false) ∧
      Stored update before after := by
  rw [handleRemoteJoinRequest, StoreAction.returns_query_bind_iff,
    StoreAction.returns_bind_iff] at returned
  obtain ⟨_, middle, stored, published⟩ := returned
  obtain ⟨joinDecisions, rfl⟩ := publishJoinDecision_frame published
  have kept := stored_of_returns stored
  refine ⟨_, rfl, rfl, rfl, ?_,
    ⟨kept.invites, kept.communityBans, kept.localMembers, kept.memberships⟩⟩
  intro active
  have accepted : (joinRequestDecision before.memberships channel
      request.remoteActorId).1 = "accepted" := by
    by_contra pending
    simp [MembershipRequest.update, pending] at active
  exact joinRequestDecision_accepted accepted

/-- A membership request of a room of this node: the banned are declined, and
whatever else is stored has an unprivileged role, and a ground when active. -/
theorem authoritative_effect {request : MembershipRequest}
    (returned : StoreAction.Returns
      (applyAuthoritativeMembershipProjection context now channel request)
      before ⟨⟩ after) :
    ["member", "readonly"].contains request.role = true ∧
      ((remoteActorBanned before.memberships channel.id
            request.remoteActorId = true ∧
          ∃ joinDecisions, after = { before with joinDecisions }) ∨
        (remoteActorBanned before.memberships channel.id
            request.remoteActorId = false ∧
          ∃ update : MembershipUpdate,
            update.conversationId = channel.id ∧
            update.remoteActorId = request.remoteActorId ∧
            update.role = request.role ∧
            (update.state = "active" →
              Grounds channel before request.remoteActorId request.actor) ∧
            Stored update before after)) := by
  simp only [applyAuthoritativeMembershipProjection,
    StoreAction.returns_query_bind_iff, id] at returned
  cases role : ["member", "readonly"].contains request.role with
  | false =>
      rw [role] at returned
      exact absurd returned StoreAction.not_returns_fail
  | true =>
  refine ⟨rfl, ?_⟩
  simp only [role, Bool.not_true, Bool.false_eq_true, if_false] at returned
  by_cases wantsBan : request.state = "banned"
  · simp [wantsBan] at returned
  rw [if_neg wantsBan] at returned
  cases banned : remoteActorBanned before.memberships channel.id
      request.remoteActorId with
  | true =>
      rw [if_pos banned] at returned
      exact .inl ⟨rfl, publishJoinDecision_frame returned⟩
  | false =>
      refine .inr ⟨rfl, ?_⟩
      simp only [banned, Bool.false_eq_true, if_false] at returned
      by_cases active : request.state = "active"
      · simp only [active, if_true] at returned
        cases allowed : allowedRemoteActivation
            (before.memberships (channel.id, request.remoteActorId))
            (inviteStateForActor before.invites channel.id
              (actorUri request.actor)) with
        | false => simp [allowed] at returned
        | true =>
            rw [if_pos allowed] at returned
            exact ⟨_, rfl, rfl, rfl,
              fun _ => grounds_of_allowedRemoteActivation allowed,
              stored_of_returns returned⟩
      rw [if_neg active] at returned
      by_cases left : request.state = "left"
      · rw [if_pos left] at returned
        exact ⟨_, rfl, rfl, rfl,
          fun wrong => absurd wrong (by simp [MembershipRequest.update]),
          stored_of_returns returned⟩
      rw [if_neg left] at returned
      by_cases invited : request.state = "invited"
      · rw [if_pos invited] at returned
        obtain ⟨update, conversation, actor, sameRole, open', stored⟩ :=
          joinRequest_effect returned
        exact ⟨update, conversation, actor, sameRole,
          fun activated => .inr (.inr (open' activated)), stored⟩
      · simp [invited] at returned

theorem returns_authorizeGovernanceEvent_iff
    {remoteActorId : Int} {action : RoomACL.Action} {result : PUnit} :
    StoreAction.Returns
        (authorizeGovernanceEvent context channel remoteActorId action)
        before result after ↔
      authorizeRemoteActorAction context before.memberships channel
          remoteActorId action = true ∧
        after = before := by
  rw [authorizeGovernanceEvent, StoreAction.returns_query_bind_iff]
  split_ifs with authorized <;> simp [authorized]

theorem membershipUpsert_effect {server : Server} {data : Json}
    {remoteDomain : String}
    (resolved : context.resolveChannelEventContext data remoteDomain =
      .ok (server, channel))
    (returned : StoreAction.Returns
      (applyMembershipUpsert context now data remoteDomain) before ⟨⟩ after) :
    ∃ request : MembershipRequest,
      request.actor = data.getIn ["membership", "actor"] ∧
      context.resolveOrCreateRemoteActorId request.actor remoteDomain =
        .ok request.remoteActorId ∧
      StoreAction.Returns
        (applyMembershipProjection context now server channel request)
        before ⟨⟩ after := by
  simp only [applyMembershipUpsert] at returned
  split at returned
  · rw [resolved, StoreAction.returns_lift_bind_iff] at returned
    obtain ⟨_, same, returned⟩ := returned
    cases same
    rw [StoreAction.returns_lift_bind_iff] at returned
    obtain ⟨remoteActorId, actor, returned⟩ := returned
    exact ⟨_, rfl, actor, returned⟩
  · exact absurd returned StoreAction.not_returns_fail

theorem returns_applyInviteUpsert_iff {server : Server} {data : Json}
    {remoteDomain : String}
    (resolved : context.resolveChannelEventContext data remoteDomain =
      .ok (server, channel)) :
    StoreAction.Returns (applyInviteUpsert context now data remoteDomain)
        before ⟨⟩ after ↔
      ∃ (state role : String) (remoteActorId : Int),
        ((data.get "invite").isMap && (data.getIn ["invite", "target"]).isMap &&
          (data.getIn ["invite", "actor"]).isMap) = true ∧
        data.getIn ["invite", "state"] = .str state ∧
        data.getIn ["invite", "role"] = .str role ∧
        context.resolveOrCreateRemoteActorId (data.getIn ["invite", "actor"])
          remoteDomain = .ok remoteActorId ∧
        authorizeRemoteActorAction context before.memberships channel
          remoteActorId .invite = true ∧
        ∃ row invites,
          StoreAction.Returns
            (upsertInviteState now
              (inviteUpdate now (data.get "invite") channel remoteDomain role
                state))
            before.invites row invites ∧
          StoreAction.Returns
            (applyInviteTargetProjection context now channel
              (data.getIn ["invite", "target"]) remoteDomain remoteActorId role
              state (data.get "invite"))
            { before with invites } ⟨⟩ after := by
  simp only [applyInviteUpsert]
  split
  · rename_i state role maps stateGiven roleGiven
    simp only [resolved, StoreAction.returns_lift_bind_iff, Except.ok.injEq,
      exists_eq_left']
    simp only [StoreAction.returns_bind_iff,
      returns_authorizeGovernanceEvent_iff, returns_inInvites_iff]
    constructor
    · intro returned
      obtain ⟨remoteActorId, actor, _, _, ⟨authorized, rfl⟩, row, _,
        ⟨invites, stored, rfl⟩, projected⟩ := returned
      exact ⟨state, role, remoteActorId, maps, stateGiven, roleGiven, actor,
        authorized, row, invites, stored, projected⟩
    · intro passed
      obtain ⟨state', role', remoteActorId, -, sameState, sameRole, actor,
        authorized, row, invites, stored, projected⟩ := passed
      cases stateGiven.symm.trans sameState
      cases roleGiven.symm.trans sameRole
      exact ⟨remoteActorId, actor, ⟨⟩, before, ⟨authorized, rfl⟩, row, _,
        ⟨invites, stored, rfl⟩, projected⟩
  · rename_i mismatch
    constructor
    · intro returned
      exact absurd returned StoreAction.not_returns_fail
    · intro passed
      obtain ⟨state, role, -, maps, stateGiven, roleGiven, -⟩ := passed
      exact absurd roleGiven (mismatch state role maps stateGiven)

theorem returns_applyBanUpsert_iff {server : Server} {data : Json}
    {remoteDomain : String}
    (resolved : context.resolveChannelEventContext data remoteDomain =
      .ok (server, channel)) :
    StoreAction.Returns (applyBanUpsert context now data remoteDomain)
        before ⟨⟩ after ↔
      ∃ (state : String) (remoteActorId : Int),
        ((data.get "ban").isMap && (data.getIn ["ban", "target"]).isMap &&
          (data.getIn ["ban", "actor"]).isMap) = true ∧
        data.getIn ["ban", "state"] = .str state ∧
        context.resolveOrCreateRemoteActorId (data.getIn ["ban", "actor"])
          remoteDomain = .ok remoteActorId ∧
        authorizeRemoteActorAction context before.memberships channel
          remoteActorId .ban = true ∧
        StoreAction.Returns
          (applyBanTargetProjection context now channel
            (data.getIn ["ban", "target"]) remoteDomain remoteActorId state
            (data.get "ban"))
          before ⟨⟩ after := by
  simp only [applyBanUpsert]
  split
  · rename_i state maps stateGiven
    simp only [resolved, StoreAction.returns_lift_bind_iff, Except.ok.injEq,
      exists_eq_left']
    simp only [StoreAction.returns_bind_iff,
      returns_authorizeGovernanceEvent_iff]
    constructor
    · intro returned
      obtain ⟨remoteActorId, actor, _, _, ⟨authorized, rfl⟩, projected⟩ :=
        returned
      exact ⟨state, remoteActorId, maps, stateGiven, actor, authorized,
        projected⟩
    · intro passed
      obtain ⟨state', remoteActorId, -, sameState, actor, authorized,
        projected⟩ := passed
      cases stateGiven.symm.trans sameState
      exact ⟨remoteActorId, actor, ⟨⟩, before, ⟨authorized, rfl⟩, projected⟩
  · rename_i mismatch
    constructor
    · intro returned
      exact absurd returned StoreAction.not_returns_fail
    · intro passed
      obtain ⟨state, -, maps, stateGiven, -⟩ := passed
      exact absurd stateGiven (mismatch state maps)

section Targets

variable {target : Json} {remoteDomain role state : String}
  {remoteActorId : Int} {payload : Json}

theorem returns_remoteInvite_iff
    (notLocal : resolveLocalUserFromActorPayload context target = none) :
    StoreAction.Returns
        (applyInviteTargetProjection context now channel target remoteDomain
          remoteActorId role state payload) before ⟨⟩ after ↔
      ∃ targetActorId,
        context.resolveOrCreateRemoteActorId target remoteDomain =
          .ok targetActorId ∧
        StoreAction.Returns
          (storeMembership now
            (inviteTargetMembership now payload channel targetActorId
              remoteActorId remoteDomain role state)) before ⟨⟩ after := by
  simp only [applyInviteTargetProjection, notLocal,
    StoreAction.returns_lift_bind_iff]

theorem ensureServerMembership_frame {localUser : Int} {result : PUnit}
    (returned : StoreAction.Returns
      (ensureLocalMirrorServerMembership context channel localUser)
      before result after) :
    ∃ localMembers, after = { before with localMembers } := by
  unfold ensureLocalMirrorServerMembership at returned
  split at returned
  · obtain ⟨localMembers, -, written⟩ := returns_inLocalMembers_iff.mp returned
    exact ⟨localMembers, written⟩
  · rw [StoreAction.returns_pure_iff] at returned
    exact ⟨before.localMembers, returned.2⟩

theorem localInvite_effect {localUser : Int}
    (isLocal : resolveLocalUserFromActorPayload context target = some localUser)
    (returned : StoreAction.Returns
      (applyInviteTargetProjection context now channel target remoteDomain
        remoteActorId role state payload) before ⟨⟩ after) :
    ∃ localMembers, after = { before with localMembers } := by
  simp only [applyInviteTargetProjection, isLocal, applyLocalInviteState]
    at returned
  split_ifs at returned with accepted known
  · simp only [StoreAction.returns_bind_iff, returns_inLocalMembers_iff,
      StoreAction.returns_pure_iff] at returned
    obtain ⟨_, middle, server, _, _, ⟨localMembers, -, rfl⟩, -, rfl⟩ := returned
    obtain ⟨_, rfl⟩ := ensureServerMembership_frame server
    exact ⟨localMembers, rfl⟩
  · rw [StoreAction.returns_pure_iff] at returned
    exact ⟨before.localMembers, returned.2⟩
  · exact absurd returned StoreAction.not_returns_fail

theorem returns_remoteBan_iff
    (notLocal : resolveLocalUserFromActorPayload context target = none) :
    StoreAction.Returns
        (applyBanTargetProjection context now channel target remoteDomain
          remoteActorId state payload) before ⟨⟩ after ↔
      ∃ targetActorId,
        context.resolveOrCreateRemoteActorId target remoteDomain =
          .ok targetActorId ∧
        StoreAction.Returns
          (storeMembership now
            (banTargetMembership now payload channel targetActorId
              remoteActorId remoteDomain state)) before ⟨⟩ after := by
  simp only [applyBanTargetProjection, notLocal,
    StoreAction.returns_lift_bind_iff]

theorem returns_localBan_iff {localUser : Int}
    (isLocal : resolveLocalUserFromActorPayload context target = some localUser) :
    StoreAction.Returns
        (applyBanTargetProjection context now channel target remoteDomain
          remoteActorId state payload) before ⟨⟩ after ↔
      StoreAction.Returns
        (applyLocalBanState context now channel localUser state payload)
        before ⟨⟩ after := by
  simp only [applyBanTargetProjection, isLocal]

/-- A ban of a local user writes the row of the room and the user, a lift
deletes one of the same origin; anything else is refused. -/
theorem localBan_effect {localUser : Int}
    (returned : StoreAction.Returns
      (applyLocalBanState context now channel localUser state payload)
      before ⟨⟩ after) :
    (state = "active" ∧ ∃ reason localMembers,
      castText (payload.get "reason") = some reason ∧
      validBan (communityBanOf context now channel localUser payload reason) =
        true ∧
      after = { before with
        localMembers := localMembers
        communityBans :=
          Function.update before.communityBans (channel.id, localUser)
            (some (communityBanOf context now channel localUser payload
              reason)) }) ∨
    (state = "lifted" ∧
      after = { before with
        communityBans :=
          deleteLocalBan before.communityBans channel.id localUser
            (actorOriginDomain context (getActorPayload payload)) }) := by
  unfold applyLocalBanState at returned
  split_ifs at returned with active lifted
  · left
    rw [StoreAction.returns_bind_iff] at returned
    obtain ⟨_, middle, removed, written⟩ := returned
    obtain ⟨localMembers, -, rfl⟩ := returns_inLocalMembers_iff.mp removed
    unfold upsertLocalBanProjection at written
    cases reason : castText (payload.get "reason") with
    | none =>
        simp only [reason] at written
        exact absurd written StoreAction.not_returns_fail
    | some text =>
        simp only [reason] at written
        split_ifs at written with valid
        · rw [StoreAction.returns_write_iff] at written
          exact ⟨active, text, localMembers, rfl, valid, written⟩
        · exact absurd written StoreAction.not_returns_fail
  · right
    exact ⟨lifted, StoreAction.returns_write_iff.mp returned⟩
  · exact absurd returned StoreAction.not_returns_fail

theorem localBan_memberships {localUser : Int}
    (returned : StoreAction.Returns
      (applyLocalBanState context now channel localUser state payload)
      before ⟨⟩ after) :
    after.memberships = before.memberships := by
  rcases localBan_effect returned with
    ⟨-, _, _, -, -, written⟩ | ⟨-, written⟩
  · rw [written]
  · rw [written]

end Targets

theorem receive_cases (context : MirrorEventsContext Local)
    (before : RoomStore Local) (event : GovernanceEvent) :
    receive context before event = before ∨
      StoreAction.Returns (applyEvent context event) before ⟨⟩
        (receive context before event) := by
  unfold receive
  rw [StoreAction.perform_transaction]
  rcases outcome : (applyEvent context event).perform before with
    ⟨reason | ⟨⟩, after⟩
  · exact .inl rfl
  · exact .inr outcome

theorem receive_of_returns {event : GovernanceEvent}
    (returned : StoreAction.Returns (applyEvent context event)
      before ⟨⟩ after) :
    receive context before event = after := by
  have performed : (applyEvent context event).perform before = (.ok ⟨⟩, after) :=
    returned
  rw [receive, StoreAction.perform_transaction, performed]

end Elektrine.Messaging.Federation.MirrorEvents
