import Elektrine.Library.Runs
import Elektrine.Messaging.Federation.MirrorEvents

/-!
# Thread events of a room

The handlers of `thread.upsert` and `thread.archive`, and the check of a local
user's action.  A thread may be managed with the right permissions, or by its
owner: an archive event is compared with the owner that is stored for the thread,
an upsert with the owner that it names itself.
-/

namespace Elektrine.Messaging.Federation

open Elektrine.Library

/-- The functions the handlers are handed, and the tables they only read.  Rows
of several origins are read in the order `rowOrder`. -/
structure ExtensionEventsContext where
  resolveChannelEventContext :
    Json → String → Except Reason (Server × ChatConversation)
  ensureAuthoritativeChannelEventContext :
    Json → String → Except Reason (Server × ChatConversation)
  resolveOrCreateRemoteActorId : Json → String → Except Reason Int
  actorUriById : Int → Option String
  aclEvents : Int → List (String × Json)
  rowOrder : List String
  chatThreadExists : Int → String → Bool
  conversation : Int → Option ChatConversation
  localMemberRole : Int → Int → Option String
  localActorUri : Int → Option String
  serverId : Server → Int
  upsertExtensionSystemMessage :
    ChatConversation → String → String → String → String → Except Reason PUnit

structure ExtensionStore where
  memberships : Table (Int × Int) FederationMembershipState
  extensionEvents : Table ExtensionKey FederationExtensionEvent

def inExtensionEvents {α : Type}
    (action : StoreAction Reason (Table ExtensionKey FederationExtensionEvent) α) :
    StoreAction Reason ExtensionStore α :=
  StoreAction.focus ExtensionStore.extensionEvents
    (fun extensionEvents store => { store with extensionEvents }) action

namespace ExtensionEvents

section Handlers

variable (context : ExtensionEventsContext)

/-- `RoomACL.authorize_local_user_action`: no option names an owner. -/
def authorizeLocalUserAction (conversationId userId : Int)
    (action : RoomACL.Action) : Bool :=
  match context.conversation conversationId,
      context.localMemberRole conversationId userId,
      context.localActorUri userId with
  | some conversation, some role, some uri =>
      RoomACL.allowed conversation.type
        (RoomACL.loadAclState (context.aclEvents conversationId)) role uri action
        ⟨none, none, none, none, none⟩
  | _, _, _ => false

/-- `RoomACL.authorize_remote_actor_action` with the owner in the options. -/
def authorizeRemoteActorAction
    (memberships : Table (Int × Int) FederationMembershipState)
    (channel : ChatConversation) (remoteActorId : Int)
    (action : RoomACL.Action) (options : RoomACL.Options) : Bool :=
  match memberships (channel.id, remoteActorId),
      context.actorUriById remoteActorId with
  | some membership, some uri =>
      membership.state == "active" &&
        RoomACL.allowed channel.type
          (RoomACL.loadAclState (context.aclEvents channel.id))
          membership.role uri action
          { options with remoteActorId := some remoteActorId }
  | _, _ => false

/-- The channel whose permissions decide: the one the sender is the authority
of, or else the mirrored one. -/
def governanceChannel (data : Json) (remoteDomain : String)
    (mirrorChannel : ChatConversation) : ChatConversation :=
  match context.ensureAuthoritativeChannelEventContext data remoteDomain with
  | .ok (_, authoritativeChannel) => authoritativeChannel
  | .error _ => mirrorChannel

def authorizeGovernanceEvent (data : Json) (remoteDomain : String)
    (mirrorChannel : ChatConversation) (remoteActorId : Int)
    (action : RoomACL.Action) (options : RoomACL.Options) :
    StoreAction Reason ExtensionStore PUnit := do
  let memberships ← StoreAction.query ExtensionStore.memberships
  if authorizeRemoteActorAction context memberships
      (governanceChannel context data remoteDomain mirrorChannel) remoteActorId
      action options then
    pure ⟨⟩
  else
    StoreAction.fail .notAuthorizedForRoom

def threadEventKey (threadId : String) (conversationId : Int) : String :=
  "thread:" ++ threadId ++ ":channel:" ++ toString conversationId

/-- The stored `thread.upsert` row that is read first. -/
def threadRow (extensionEvents : Table ExtensionKey FederationExtensionEvent)
    (conversationId : Int) (threadId : String) :
    Option FederationExtensionEvent :=
  context.rowOrder.findSome? fun originDomain =>
    (extensionEvents
      ⟨ArblargSDK.canonicalEventType "thread.upsert", originDomain,
        threadEventKey threadId conversationId⟩).filter fun row =>
      row.conversationId == some conversationId

def threadOwnerActorPayload
    (extensionEvents : Table ExtensionKey FederationExtensionEvent)
    (conversationId : Int) (threadId : String) : Option Json :=
  (threadRow context extensionEvents conversationId threadId).map fun row =>
    row.payload.getIn ["thread", "owner"]

def resolveThreadOwnerRemoteActorId
    (extensionEvents : Table ExtensionKey FederationExtensionEvent)
    (conversationId : Int) (threadId remoteDomain : String) : Option Int :=
  match threadOwnerActorPayload context extensionEvents conversationId
      threadId with
  | some owner =>
      if owner.isMap then
        (context.resolveOrCreateRemoteActorId owner remoteDomain).toOption
      else none
  | none => none

structure ThreadUpsert where
  threadId : String
  name : String
  state : String
  server : Server
  channel : ChatConversation
  remoteActorId : Int

def readThreadUpsert (data : Json) (remoteDomain : String) :
    Except Reason ThreadUpsert :=
  let thread := data.get "thread"
  let owner := thread.get "owner"
  match (data.get "server").isMap && (data.get "channel").isMap && thread.isMap,
      thread.get "id", thread.get "name", thread.get "state", owner.isMap with
  | true, .str threadId, .str name, .str state, true => do
      let (server, channel) ←
        context.resolveChannelEventContext data remoteDomain
      let remoteActorId ← context.resolveOrCreateRemoteActorId owner remoteDomain
      return ⟨threadId, name, state, server, channel, remoteActorId⟩
  | _, _, _, _, _ => .error .invalidEventPayload

def upsertOptions (request : ThreadUpsert) : RoomACL.Options :=
  ⟨none, none, some request.remoteActorId, none, some request.remoteActorId⟩

def applyThreadUpsert (now : DateTime) (data : Json) (remoteDomain : String) :
    StoreAction Reason ExtensionStore PUnit := do
  let upsert ← StoreAction.lift (readThreadUpsert context data remoteDomain)
  authorizeGovernanceEvent context data remoteDomain upsert.channel
    upsert.remoteActorId .threadUpsert
    (upsertOptions upsert)
  let eventKey := threadEventKey upsert.threadId upsert.channel.id
  let _ ← inExtensionEvents (upsertExtensionProjection now
    { eventType := "thread.upsert"
      eventKey := eventKey
      payload := data
      remoteDomain := remoteDomain
      serverId := some (context.serverId upsert.server)
      conversationId := some upsert.channel.id
      occurredAt := some now
      status := some upsert.state })
  StoreAction.lift (context.upsertExtensionSystemMessage upsert.channel
    "thread.upsert" eventKey
    ("Thread " ++ upsert.state ++ ": " ++ upsert.name) remoteDomain)

structure ThreadArchive where
  threadId : String
  server : Server
  channel : ChatConversation
  remoteActorId : Int

def readThreadArchive (data : Json) (remoteDomain : String) :
    Except Reason ThreadArchive :=
  let actor := data.get "actor"
  match (data.get "server").isMap && (data.get "channel").isMap,
      data.get "thread_id", actor.isMap with
  | true, .str threadId, true => do
      let (server, channel) ←
        context.resolveChannelEventContext data remoteDomain
      let remoteActorId ← context.resolveOrCreateRemoteActorId actor remoteDomain
      return ⟨threadId, server, channel, remoteActorId⟩
  | _, _, _ => .error .invalidEventPayload

def archiveOptions
    (extensionEvents : Table ExtensionKey FederationExtensionEvent)
    (request : ThreadArchive) (remoteDomain : String) : RoomACL.Options :=
  ⟨none, none, none,
    resolveThreadOwnerRemoteActorId context extensionEvents request.channel.id
      request.threadId remoteDomain,
    some request.remoteActorId⟩

def applyThreadArchive (now : DateTime) (data : Json) (remoteDomain : String) :
    StoreAction Reason ExtensionStore PUnit := do
  let archive ← StoreAction.lift (readThreadArchive context data remoteDomain)
  let extensionEvents ← StoreAction.query ExtensionStore.extensionEvents
  authorizeGovernanceEvent context data remoteDomain archive.channel
    archive.remoteActorId .threadArchive
    (archiveOptions context extensionEvents archive remoteDomain)
  let eventKey := threadEventKey archive.threadId archive.channel.id
  let archivedAt := (parseDatetime (data.get "archived_at")).getD now
  let _ ← inExtensionEvents (upsertExtensionProjection now
    { eventType := "thread.archive"
      eventKey := eventKey
      payload := data
      remoteDomain := remoteDomain
      serverId := some (context.serverId archive.server)
      conversationId := some archive.channel.id
      occurredAt := some archivedAt
      status := some "archived" })
  StoreAction.lift (context.upsertExtensionSystemMessage archive.channel
    "thread.archive" eventKey ("Thread archived: " ++ archive.threadId)
    remoteDomain)

end Handlers

inductive ThreadAttempt where
  | byUser (conversationId userId : Int) (threadId : String)
      (action : RoomACL.Action)
      (aboutThreads : action = .threadUpsert ∨ action = .threadArchive)
  | upsert (data : Json) (remoteDomain : String)
  | archive (data : Json) (remoteDomain : String)

section Attempts

variable (context : ExtensionEventsContext) (store : ExtensionStore)

def ThreadAttempt.authorized : ThreadAttempt → Bool
  | .byUser conversationId userId _ action _ =>
      authorizeLocalUserAction context conversationId userId action
  | .upsert data remoteDomain =>
      match readThreadUpsert context data remoteDomain with
      | .ok request =>
          authorizeRemoteActorAction context store.memberships
            (governanceChannel context data remoteDomain request.channel)
            request.remoteActorId .threadUpsert (upsertOptions request)
      | .error _ => false
  | .archive data remoteDomain =>
      match readThreadArchive context data remoteDomain with
      | .ok request =>
          authorizeRemoteActorAction context store.memberships
            (governanceChannel context data remoteDomain request.channel)
            request.remoteActorId .threadArchive
            (archiveOptions context store.extensionEvents request remoteDomain)
      | .error _ => false

/-- An active member of the deciding room, whether the thread exists there, and
whether the owner recorded for it is the member. -/
structure ThreadActor where
  roomType : String
  aclEvents : List (String × Json)
  role : String
  uri : String
  threadExists : Bool
  owns : Bool

def recordedOwnerIs (identifies : Json → Bool) (recorded : Option Json) : Bool :=
  recorded.any fun owner => owner.isMap && identifies owner

def remoteThreadActor (data : Json) (remoteDomain : String)
    (channel : ChatConversation) (remoteActorId : Int) (threadId : String) :
    Option ThreadActor :=
  let room := governanceChannel context data remoteDomain channel
  let recorded :=
    threadOwnerActorPayload context store.extensionEvents channel.id threadId
  let identifies (owner : Json) :=
    (context.resolveOrCreateRemoteActorId owner remoteDomain).toOption ==
      some remoteActorId
  match store.memberships (room.id, remoteActorId),
      context.actorUriById remoteActorId with
  | some membership, some uri =>
      if membership.state = "active" then
        some ⟨room.type, context.aclEvents room.id, membership.role, uri,
          recorded.isSome || context.chatThreadExists channel.id threadId,
          recordedOwnerIs identifies recorded⟩
      else none
  | _, _ => none

/-- Who makes the attempt: `none` when it is no member, or when the event cannot
be read. -/
def ThreadAttempt.actor : ThreadAttempt → Option ThreadActor
  | .byUser conversationId userId threadId _ _ =>
      match context.conversation conversationId,
          context.localMemberRole conversationId userId,
          context.localActorUri userId with
      | some conversation, some role, some uri =>
          let recorded := threadOwnerActorPayload context store.extensionEvents
            conversationId threadId
          some ⟨conversation.type, context.aclEvents conversationId, role, uri,
            recorded.isSome || context.chatThreadExists conversationId threadId,
            recordedOwnerIs (fun owner => MirrorEvents.actorUri owner == some uri)
              recorded⟩
      | _, _, _ => none
  | .upsert data remoteDomain =>
      match readThreadUpsert context data remoteDomain with
      | .ok request =>
          remoteThreadActor context store data remoteDomain request.channel
            request.remoteActorId request.threadId
      | .error _ => none
  | .archive data remoteDomain =>
      match readThreadArchive context data remoteDomain with
      | .ok request =>
          remoteThreadActor context store data remoteDomain request.channel
            request.remoteActorId request.threadId
      | .error _ => none

end Attempts

def ThreadActor.permissions (actor : ThreadActor) : RoomACL.Permissions :=
  RoomACL.effectivePermissions (RoomACL.loadAclState actor.aclEvents) actor.role
    actor.uri

/-- The actor may manage threads or moderate, runs the room, or is the owner
recorded for the thread. -/
def ThreadActor.Entitled (actor : ThreadActor) : Prop :=
  "manage_threads" ∈ actor.permissions ∨
    "manage_moderation" ∈ actor.permissions ∨
    actor.role ∈ ["owner", "admin"] ∨ actor.owns = true

/-- Only who is entitled changes a thread that exists. -/
def ThreadAttempt.Guarded (context : ExtensionEventsContext)
    (store : ExtensionStore) (attempt : ThreadAttempt) : Prop :=
  attempt.authorized context store = true →
    ∃ actor, attempt.actor context store = some actor ∧
      (actor.threadExists = true → actor.Entitled)

def ThreadAttempt.IsArchiveEvent : ThreadAttempt → Prop
  | .archive _ _ => True
  | _ => False

theorem returns_authorizeGovernanceEvent_iff {data : Json}
    {remoteDomain : String} {channel : ChatConversation} {remoteActorId : Int}
    {action : RoomACL.Action} {options : RoomACL.Options} {result : PUnit}
    {after : ExtensionStore} :
    StoreAction.Returns
        (authorizeGovernanceEvent context data remoteDomain channel remoteActorId
          action options) store result after ↔
      authorizeRemoteActorAction context store.memberships
          (governanceChannel context data remoteDomain channel) remoteActorId
          action options = true ∧
        after = store := by
  rw [authorizeGovernanceEvent, StoreAction.returns_query_bind_iff]
  split_ifs with authorized <;> simp [authorized]

inductive ThreadEventType where
  | upsert
  | archive

/-- A thread event as it reaches `apply_event`, and the local time. -/
structure ThreadEvent where
  eventType : ThreadEventType
  data : Json
  remoteDomain : String
  receivedAt : DateTime

def applyEvent (context : ExtensionEventsContext) (event : ThreadEvent) :
    StoreAction Reason ExtensionStore PUnit :=
  match event.eventType with
  | .upsert => applyThreadUpsert context event.receivedAt event.data event.remoteDomain
  | .archive => applyThreadArchive context event.receivedAt event.data event.remoteDomain

/-- The transaction of `receive_event`, for an event that is new and in sequence. -/
def receive (store : ExtensionStore) (received : ExtensionEventsContext × ThreadEvent) :
    ExtensionStore :=
  ((StoreAction.transaction (applyEvent received.1 received.2)).perform store).2

def ThreadEvent.attempt (event : ThreadEvent) : ThreadAttempt :=
  match event.eventType with
  | .upsert => .upsert event.data event.remoteDomain
  | .archive => .archive event.data event.remoteDomain

/-- The sender's own row of the thread. -/
def ThreadEvent.index (context : ExtensionEventsContext) (event : ThreadEvent) :
    Option ExtensionKey :=
  match event.eventType with
  | .upsert =>
      (readThreadUpsert context event.data event.remoteDomain).toOption.map fun request =>
        ⟨ArblargSDK.canonicalEventType "thread.upsert", downcase event.remoteDomain,
          threadEventKey request.threadId request.channel.id⟩
  | .archive =>
      (readThreadArchive context event.data event.remoteDomain).toOption.map fun request =>
        ⟨ArblargSDK.canonicalEventType "thread.archive", downcase event.remoteDomain,
          threadEventKey request.threadId request.channel.id⟩

theorem changes_of_authorized {context : ExtensionEventsContext} {data : Json}
    {remoteDomain : String} {channel : ChatConversation} {remoteActorId : Int}
    {action : RoomACL.Action} {options : RoomACL.Options} {now : DateTime}
    {update : ExtensionUpdate} {message : Except Reason PUnit} {store after : ExtensionStore}
    (returned : StoreAction.Returns
      (authorizeGovernanceEvent context data remoteDomain channel remoteActorId action options
        >>= fun _ => inExtensionEvents (upsertExtensionProjection now update)
        >>= fun _ => StoreAction.lift message) store ⟨⟩ after) :
    authorizeRemoteActorAction context store.memberships
        (governanceChannel context data remoteDomain channel) remoteActorId action options =
          true ∧
      after.memberships = store.memberships ∧
        ∀ index, after.extensionEvents index ≠ store.extensionEvents index →
          some update.index = some index := by
  obtain ⟨_, _, checked, rest⟩ := StoreAction.returns_bind_iff.mp returned
  obtain ⟨authorized, same⟩ := returns_authorizeGovernanceEvent_iff.mp checked
  rw [same] at rest
  obtain ⟨_, _, written, told⟩ := StoreAction.returns_bind_iff.mp rest
  obtain ⟨_, wrote, put⟩ := StoreAction.returns_focus_iff.mp written
  rw [(StoreAction.returns_lift_iff.mp told).2, put]
  refine ⟨authorized, rfl, ?_⟩
  intro index changed
  rw [upsertExtensionProjection] at wrote
  split_ifs at wrote
  · rcases returns_upsertRemoteState_iff.mp wrote with stale | fresh
    · exact absurd (congrFun stale.2.2 index) changed
    · by_contra other
      apply changed
      rw [fresh.2.2.2]
      exact Function.update_of_ne (fun same => other (congrArg some same.symm)) _ _
  · exact absurd wrote StoreAction.not_returns_fail

theorem applyEvent_changes {context : ExtensionEventsContext} {event : ThreadEvent}
    {store after : ExtensionStore}
    (applied : StoreAction.Returns (applyEvent context event) store ⟨⟩ after) :
    event.attempt.authorized context store = true ∧
      after.memberships = store.memberships ∧
        ∀ index, after.extensionEvents index ≠ store.extensionEvents index →
          event.index context = some index := by
  obtain ⟨eventType, data, remoteDomain, receivedAt⟩ := event
  cases eventType with
  | upsert =>
      simp only [applyEvent, applyThreadUpsert, StoreAction.returns_lift_bind_iff] at applied
      obtain ⟨request, read, checked⟩ := applied
      simp only [ThreadEvent.attempt, ThreadAttempt.authorized, ThreadEvent.index, read]
      exact changes_of_authorized checked
  | archive =>
      simp only [applyEvent, applyThreadArchive, StoreAction.returns_lift_bind_iff] at applied
      obtain ⟨request, read, checked⟩ := applied
      rw [StoreAction.returns_query_bind_iff] at checked
      simp only [ThreadEvent.attempt, ThreadAttempt.authorized, ThreadEvent.index, read]
      exact changes_of_authorized checked

theorem receive_changes (store : ExtensionStore)
    (received : ExtensionEventsContext × ThreadEvent) :
    (receive store received).memberships = store.memberships ∧
      ∀ index, (receive store received).extensionEvents index ≠ store.extensionEvents index →
        received.2.index received.1 = some index ∧
          received.2.attempt.authorized received.1 store = true := by
  rcases performed : (applyEvent received.1 received.2).perform store with ⟨failure | _, after⟩
  · have same : receive store received = store := by
      rw [receive, StoreAction.perform_transaction, performed]
    rw [same]
    exact ⟨rfl, fun index changed => absurd rfl changed⟩
  · have same : receive store received = after := by
      rw [receive, StoreAction.perform_transaction, performed]
    obtain ⟨authorized, kept, changes⟩ := applyEvent_changes performed
    rw [same]
    exact ⟨kept, fun index changed => ⟨changes index changed, authorized⟩⟩

/-- In every run of thread events no membership changes, and a row changes only by an event
of the row's own thread and origin that is authorized in the state that it meets. -/
theorem thread_runs_authorized (store : ExtensionStore)
    (events : List (ExtensionEventsContext × ThreadEvent)) :
    (events.foldl receive store).memberships = store.memberships ∧
      ∀ index, (events.foldl receive store).extensionEvents index ≠
          store.extensionEvents index →
        ∃ front context event back, events = front ++ (context, event) :: back ∧
          event.index context = some index ∧
            event.attempt.authorized context (front.foldl receive store) = true := by
  constructor
  · by_contra changed
    obtain ⟨front, received, _, _, other⟩ := exists_change ExtensionStore.memberships changed
    exact other (receive_changes _ received).1
  · intro index changed
    obtain ⟨front, received, back, split, other⟩ :=
      exists_change (fun state : ExtensionStore => state.extensionEvents index) changed
    exact ⟨front, received.1, received.2, back, split, (receive_changes _ received).2 index other⟩

variable {context : ExtensionEventsContext} {store : ExtensionStore}

/-- In a text channel an actor that names itself the owner always matches, as
does one for whom no owner is named at all. -/
theorem ownerMatches_of_namesItself {uri : String} {options : RoomACL.Options}
    (named : options.ownerRemoteActorId = options.remoteActorId) :
    RoomACL.ownerMatches options uri = true := by
  simp [RoomACL.ownerMatches, named]

theorem channelAllows_thread_iff {permissions : RoomACL.Permissions}
    {uri : String} {options : RoomACL.Options} {action : RoomACL.Action}
    (aboutThreads : action = .threadUpsert ∨ action = .threadArchive) :
    RoomACL.channelAllows permissions uri options action = true ↔
      "manage_threads" ∈ permissions ∨ "manage_moderation" ∈ permissions ∨
        RoomACL.ownerMatches options uri = true := by
  rcases aboutThreads with rfl | rfl <;>
    simp [RoomACL.channelAllows, or_assoc]

theorem allowed_thread_iff {roomType role uri : String}
    {state : RoomACL.AclState} {options : RoomACL.Options}
    {action : RoomACL.Action}
    (aboutThreads : action = .threadUpsert ∨ action = .threadArchive) :
    RoomACL.allowed roomType state role uri action options = true ↔
      roomType = "channel" ∧
        ("manage_threads" ∈ RoomACL.effectivePermissions state role uri ∨
          "manage_moderation" ∈ RoomACL.effectivePermissions state role uri ∨
          RoomACL.ownerMatches options uri = true) := by
  rw [← channelAllows_thread_iff aboutThreads, RoomACL.allowed]
  by_cases voice : roomType = "voice_channel"
  · rcases aboutThreads with rfl | rfl <;> simp [voice]
  · by_cases text : roomType = "channel"
    · simp [text]
    · rcases aboutThreads with rfl | rfl <;> simp [voice, text]

theorem authorizeRemoteActorAction_iff (threadId : String) {data : Json}
    {remoteDomain : String} {channel : ChatConversation} {remoteActorId : Int}
    {action : RoomACL.Action} {options : RoomACL.Options} :
    authorizeRemoteActorAction context store.memberships
        (governanceChannel context data remoteDomain channel) remoteActorId action
        options = true ↔
      ∃ actor, remoteThreadActor context store data remoteDomain channel
          remoteActorId threadId = some actor ∧
        RoomACL.allowed actor.roomType (RoomACL.loadAclState actor.aclEvents)
          actor.role actor.uri action
          { options with remoteActorId := some remoteActorId } = true := by
  simp only [authorizeRemoteActorAction, remoteThreadActor]
  cases store.memberships
      ((governanceChannel context data remoteDomain channel).id, remoteActorId) with
  | none => simp
  | some membership =>
      cases context.actorUriById remoteActorId with
      | none => simp
      | some uri =>
          by_cases active : membership.state = "active"
          · simp [active]
          · simp [active]

theorem owns_of_remoteThreadActor {data : Json} {remoteDomain : String}
    {channel : ChatConversation} {remoteActorId : Int} {threadId : String}
    {actor : ThreadActor}
    (acting : remoteThreadActor context store data remoteDomain channel
      remoteActorId threadId = some actor) :
    actor.owns = recordedOwnerIs
      (fun owner =>
        (context.resolveOrCreateRemoteActorId owner remoteDomain).toOption ==
          some remoteActorId)
      (threadOwnerActorPayload context store.extensionEvents channel.id
        threadId) := by
  simp only [remoteThreadActor] at acting
  split at acting
  · split_ifs at acting
    cases acting
    rfl
  · cases acting

theorem authorized_iff_of_not_archive {attempt : ThreadAttempt}
    (notArchive : ¬ attempt.IsArchiveEvent) :
    attempt.authorized context store = true ↔
      ∃ actor, attempt.actor context store = some actor ∧
        actor.roomType = "channel" := by
  cases attempt with
  | byUser conversationId userId threadId action aboutThreads =>
      simp only [ThreadAttempt.authorized, ThreadAttempt.actor,
        authorizeLocalUserAction]
      cases context.conversation conversationId with
      | none => simp
      | some conversation =>
          cases context.localMemberRole conversationId userId with
          | none => simp
          | some role =>
              cases context.localActorUri userId with
              | none => simp
              | some uri =>
                  simp only [allowed_thread_iff aboutThreads,
                    ownerMatches_of_namesItself, Option.some.injEq,
                    exists_eq_left', or_true, and_true]
  | upsert data remoteDomain =>
      simp only [ThreadAttempt.authorized, ThreadAttempt.actor]
      cases readThreadUpsert context data remoteDomain with
      | error reason => simp
      | ok request =>
          have namesItself : ∀ uri, RoomACL.ownerMatches
              { upsertOptions request with
                remoteActorId := some request.remoteActorId } uri = true :=
            fun uri => ownerMatches_of_namesItself rfl
          simp only [authorizeRemoteActorAction_iff request.threadId,
            allowed_thread_iff (.inl rfl), namesItself, or_true, and_true]
  | archive data remoteDomain => exact absurd trivial notArchive

theorem owns_of_ownerMatches {request : ThreadArchive} {remoteDomain uri : String}
    (matched : RoomACL.ownerMatches
      { archiveOptions context store.extensionEvents request remoteDomain with
        remoteActorId := some request.remoteActorId } uri = true) :
    recordedOwnerIs
      (fun owner =>
        (context.resolveOrCreateRemoteActorId owner remoteDomain).toOption ==
          some request.remoteActorId)
      (threadOwnerActorPayload context store.extensionEvents request.channel.id
        request.threadId) = true := by
  simp only [RoomACL.ownerMatches, archiveOptions,
    resolveThreadOwnerRemoteActorId] at matched
  generalize threadOwnerActorPayload context store.extensionEvents
    request.channel.id request.threadId = recorded at matched ⊢
  cases recorded with
  | none => simp at matched
  | some owner =>
      by_cases map : owner.isMap = true
      · simpa [recordedOwnerIs, map] using matched
      · simp [map] at matched

theorem guarded_of_archive {data : Json} {remoteDomain : String} :
    (ThreadAttempt.archive data remoteDomain).Guarded context store := by
  intro authorized
  simp only [ThreadAttempt.authorized] at authorized
  simp only [ThreadAttempt.actor]
  cases read : readThreadArchive context data remoteDomain with
  | error reason =>
      rw [read] at authorized
      cases authorized
  | ok request =>
      rw [read] at authorized
      obtain ⟨actor, acting, allowed⟩ :=
        (authorizeRemoteActorAction_iff request.threadId).mp authorized
      refine ⟨actor, acting, fun _ => ?_⟩
      rcases ((allowed_thread_iff (.inr rfl)).mp allowed).2 with
        threads | moderation | owner
      · exact .inl threads
      · exact .inr (.inl moderation)
      · refine .inr (.inr (.inr ?_))
        rw [owns_of_remoteThreadActor acting]
        exact owns_of_ownerMatches owner

/-- Threads are guarded exactly against archive events, and against upserts and
local actions of members of the text channel who are entitled anyway. -/
theorem guarded_iff (context : ExtensionEventsContext) (store : ExtensionStore)
    (attempt : ThreadAttempt) :
    attempt.Guarded context store ↔
      attempt.IsArchiveEvent ∨
        ∀ actor, attempt.actor context store = some actor →
          actor.roomType = "channel" → actor.threadExists = true →
            actor.Entitled := by
  by_cases archive : attempt.IsArchiveEvent
  · cases attempt with
    | archive data remoteDomain =>
        exact iff_of_true guarded_of_archive (.inl trivial)
    | byUser => exact archive.elim
    | upsert => exact archive.elim
  · rw [ThreadAttempt.Guarded, authorized_iff_of_not_archive archive]
    constructor
    · intro guarded
      refine .inr fun actor acting text thread => ?_
      obtain ⟨same, acting', entitled⟩ := guarded ⟨actor, acting, text⟩
      rw [acting] at acting'
      cases acting'
      exact entitled thread
    · intro condition authorized
      obtain ⟨actor, acting, text⟩ := authorized
      exact ⟨actor, acting, condition.resolve_left archive actor acting text⟩

def sharedRoom : ChatConversation where
  id := 1
  type := "channel"
  serverId := some 1
  creatorId := some 1
  isPublic := true
  approvalModeEnabled := false
  isFederatedMirror := false

def sharedRoomContext : ExtensionEventsContext where
  resolveChannelEventContext _ _ := .ok (⟨false, none⟩, sharedRoom)
  ensureAuthoritativeChannelEventContext _ _ := .error .notAuthorizedForRoom
  resolveOrCreateRemoteActorId actor _ :=
    .ok (if (actor.get "username").asString? = some "owner" then 1 else 2)
  actorUriById remoteActorId :=
    some (if remoteActorId = 1 then "https://a.example/users/owner"
      else "https://b.example/users/member")
  aclEvents _ := []
  rowOrder := ["a.example"]
  chatThreadExists _ _ := false
  conversation _ := none
  localMemberRole _ _ := none
  localActorUri _ := none
  serverId _ := 1
  upsertExtensionSystemMessage _ _ _ _ _ := .ok ⟨⟩

def threadOwnedBy (username : String) : Json :=
  .obj [("server", .obj []), ("channel", .obj []),
    ("thread", .obj [("id", .str "thread"), ("name", .str "Thread"),
      ("state", .str "active"),
      ("owner", .obj [("username", .str username)])])]

def sharedRoomStore : ExtensionStore where
  memberships key :=
    some ⟨key.1, key.2, "b.example", "member", "active", none, 0, .obj []⟩
  extensionEvents index :=
    if index.eventKey = "thread:thread:channel:1" then
      some ⟨index, threadOwnedBy "owner", some "active", 0, some 1, some 1⟩
    else none

theorem member_upserts_thread_of_owner :
    ¬ (ThreadAttempt.upsert (threadOwnedBy "member") "b.example").Guarded
      sharedRoomContext sharedRoomStore := by
  intro guarded
  obtain ⟨actor, acting, entitled⟩ := guarded (by decide)
  have same : some (⟨"channel", [], "member", "https://b.example/users/member",
      true, false⟩ : ThreadActor) = some actor := by
    rw [← acting]
    rfl
  cases same
  have denied := entitled rfl
  revert denied
  unfold ThreadActor.Entitled
  decide

end ExtensionEvents

end Elektrine.Messaging.Federation
