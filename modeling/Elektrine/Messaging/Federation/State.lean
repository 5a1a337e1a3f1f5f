import Mathlib.Logic.Function.Basic
import Elektrine.Data.DateTime
import Elektrine.Data.Json
import Elektrine.Data.Text
import Elektrine.Library.Transaction
import Elektrine.Messaging.ArblargSDK
import Elektrine.Messaging.Federation.Utils
import Elektrine.Messaging.Federation.Identity

/-!
# Projections of remote state

Memberships, invites, extension events and presences are rows under a unique
index.  Every upsert builds a whole row, keeps the stored one when that is newer
and otherwise casts, validates and writes the new one.
-/

namespace Elektrine.Messaging.Federation

open Elektrine.Library

variable {Key Row : Type}

abbrev Table (Key Row : Type) := Key → Option Row

/-- What the schemas of the remote states have in common.  Casting truncates the
revision timestamp to the precision of its column. -/
structure RemoteSchema (Key Row : Type) where
  key : Row → Key
  updatedAtRemote : Row → DateTime
  valid : Row → Bool
  cast : Row → Row
  updatedAtRemote_cast : ∀ row,
    updatedAtRemote (cast row) = (updatedAtRemote row).truncate

def staleRemoteUpdate (currentAt incomingAt : DateTime) : Bool :=
  currentAt > incomingAt

def writeRemoteState [DecidableEq Key] (schema : RemoteSchema Key Row)
    (attrs : Row) : StoreAction Reason (Table Key Row) Row :=
  if schema.valid attrs then do
    StoreAction.write fun table =>
      Function.update table (schema.key attrs) (some (schema.cast attrs))
    pure (schema.cast attrs)
  else
    StoreAction.fail .invalidChangeset

def upsertRemoteState [DecidableEq Key] (schema : RemoteSchema Key Row)
    (attrs : Row) : StoreAction Reason (Table Key Row) Row := do
  let stored ← StoreAction.query fun table => table (schema.key attrs)
  match stored with
  | none => writeRemoteState schema attrs
  | some state =>
      if staleRemoteUpdate (schema.updatedAtRemote state)
          (schema.updatedAtRemote attrs) then
        pure state
      else
        writeRemoteState schema attrs

def validString (limit : Nat) (value : String) : Bool :=
  (present value).isSome && value.length ≤ limit

/-- Blank strings are cast to `nil`. -/
def castString (value : Option String) : Option String :=
  value.filter fun text => (present text).isSome

def validRoles : List String :=
  ["owner", "admin", "moderator", "member", "readonly"]

/-- A row of `messaging_federation_membership_states`. -/
structure FederationMembershipState where
  conversationId : Int
  remoteActorId : Int
  originDomain : String
  role : String
  state : String
  joinedAtRemote : Option DateTime
  updatedAtRemote : DateTime
  metadata : Json

def membershipStates : List String := ["active", "invited", "left", "banned"]

def membershipSchema : RemoteSchema (Int × Int) FederationMembershipState where
  key row := (row.conversationId, row.remoteActorId)
  updatedAtRemote := FederationMembershipState.updatedAtRemote
  valid row :=
    validString 255 row.originDomain && validRoles.contains row.role &&
      membershipStates.contains row.state
  cast row :=
    { row with
      joinedAtRemote := row.joinedAtRemote.map DateTime.truncate
      updatedAtRemote := row.updatedAtRemote.truncate }
  updatedAtRemote_cast _ := rfl

/-- The arguments of `upsert_membership_state`. -/
structure MembershipUpdate where
  conversationId : Int
  remoteActorId : Int
  remoteDomain : String
  role : String
  state : String
  joinedAt : Option DateTime
  updatedAt : Option DateTime
  metadata : Json

def MembershipUpdate.attrs (update : MembershipUpdate)
    (effectiveUpdatedAt : DateTime) : FederationMembershipState where
  conversationId := update.conversationId
  remoteActorId := update.remoteActorId
  originDomain := downcase update.remoteDomain
  role := update.role
  state := update.state
  joinedAtRemote := update.joinedAt
  updatedAtRemote := effectiveUpdatedAt
  metadata := update.metadata

def upsertMembershipState (now : DateTime) (update : MembershipUpdate) :
    StoreAction Reason (Table (Int × Int) FederationMembershipState)
      FederationMembershipState :=
  if update.metadata.isMap then
    upsertRemoteState membershipSchema
      (update.attrs (update.updatedAt.getD now))
  else
    StoreAction.fail .invalidEventPayload

def inviteMembershipState (state : String) : String :=
  if state = "pending" then "invited"
  else if state = "accepted" then "active"
  else "left"

def banMembershipState (state : String) : String :=
  if state = "active" then "banned" else "left"

/-- A row of `messaging_federation_invite_states`. -/
structure FederationInviteState where
  conversationId : Int
  originDomain : String
  actorUri : Option String
  actorPayload : Json
  targetUri : Option String
  targetPayload : Json
  role : String
  state : String
  invitedAtRemote : Option DateTime
  updatedAtRemote : DateTime
  metadata : Json

def inviteStates : List String := ["pending", "accepted", "declined", "revoked"]

def inviteSchema :
    RemoteSchema (Int × Option String) FederationInviteState where
  key row := (row.conversationId, row.targetUri)
  updatedAtRemote := FederationInviteState.updatedAtRemote
  valid row :=
    validString 255 row.originDomain && row.actorUri.any (validString 500) &&
      row.targetUri.any (validString 500) && validRoles.contains row.role &&
      inviteStates.contains row.state
  cast row :=
    { row with
      invitedAtRemote := row.invitedAtRemote.map DateTime.truncate
      updatedAtRemote := row.updatedAtRemote.truncate }
  updatedAtRemote_cast _ := rfl

/-- The arguments of `upsert_invite_state`. -/
structure InviteUpdate where
  conversationId : Int
  remoteDomain : String
  actorPayload : Json
  targetPayload : Json
  role : String
  state : String
  invitedAt : Option DateTime
  updatedAt : Option DateTime
  metadata : Json

def InviteUpdate.attrs (update : InviteUpdate) (effectiveUpdatedAt : DateTime) :
    FederationInviteState where
  conversationId := update.conversationId
  originDomain := downcase update.remoteDomain
  actorUri := actorUri update.actorPayload
  actorPayload := update.actorPayload
  targetUri := actorUri update.targetPayload
  targetPayload := update.targetPayload
  role := update.role
  state := update.state
  invitedAtRemote := update.invitedAt
  updatedAtRemote := effectiveUpdatedAt
  metadata := update.metadata

def upsertInviteState (now : DateTime) (update : InviteUpdate) :
    StoreAction Reason (Table (Int × Option String) FederationInviteState)
      FederationInviteState :=
  if update.actorPayload.isMap && update.targetPayload.isMap &&
      update.metadata.isMap then
    let attrs := update.attrs (update.updatedAt.getD now)
    if attrs.actorUri.isSome && attrs.targetUri.isSome then
      upsertRemoteState inviteSchema attrs
    else
      StoreAction.fail .invalidEventPayload
  else
    StoreAction.fail .invalidEventPayload

/-- The unique index of `messaging_federation_extension_events`. -/
structure ExtensionKey where
  eventType : String
  originDomain : String
  eventKey : String
  deriving DecidableEq, Repr

/-- A row of `messaging_federation_extension_events`. -/
structure FederationExtensionEvent where
  index : ExtensionKey
  payload : Json
  status : Option String
  occurredAt : DateTime
  serverId : Option Int
  conversationId : Option Int

def extensionSchema : RemoteSchema ExtensionKey FederationExtensionEvent where
  key := FederationExtensionEvent.index
  updatedAtRemote := FederationExtensionEvent.occurredAt
  valid row :=
    validString 160 row.index.eventType &&
      validString 255 row.index.originDomain &&
      validString 500 row.index.eventKey
  cast row :=
    { row with
      status := castString row.status
      occurredAt := row.occurredAt.truncate }
  updatedAtRemote_cast _ := rfl

/-- The arguments of `upsert_extension_projection`. -/
structure ExtensionUpdate where
  eventType : String
  eventKey : String
  payload : Json
  remoteDomain : String
  serverId : Option Int
  conversationId : Option Int
  occurredAt : Option DateTime
  status : Option String

def ExtensionUpdate.index (update : ExtensionUpdate) : ExtensionKey where
  eventType := ArblargSDK.canonicalEventType update.eventType
  originDomain := downcase update.remoteDomain
  eventKey := update.eventKey

def ExtensionUpdate.attrs (update : ExtensionUpdate)
    (effectiveOccurredAt : DateTime) : FederationExtensionEvent where
  index := update.index
  payload := update.payload
  status := update.status
  occurredAt := effectiveOccurredAt
  serverId := update.serverId
  conversationId := update.conversationId

def upsertExtensionProjection (now : DateTime) (update : ExtensionUpdate) :
    StoreAction Reason (Table ExtensionKey FederationExtensionEvent)
      FederationExtensionEvent :=
  if update.payload.isMap then
    upsertRemoteState extensionSchema
      (update.attrs (update.occurredAt.getD now))
  else
    StoreAction.fail .invalidEventPayload

/-- The maps among the first activities, which a payload carries as a list or
under `items`. -/
def normalizePresenceActivities (activities : Json) : List Json :=
  match activities, activities.get "items" with
  | .arr items, _ => (items.filter Json.isMap).take 10
  | .obj _, .arr items => (items.filter Json.isMap).take 10
  | _, _ => []

def presenceExpiryFromTtl (presenceTtlSeconds : Int) (updatedAt : DateTime)
    (ttlMs : Option Int) : DateTime :=
  let effectiveTtlMs :=
    match ttlMs with
    | some ttl => if ttl > 0 then ttl else presenceTtlSeconds * 1000
    | none => presenceTtlSeconds * 1000
  updatedAt.addMilliseconds effectiveTtlMs

def presenceStatuses : List String :=
  ["online", "idle", "dnd", "offline", "invisible"]

/-- A row of one of the two presence tables; `Subject` is its unique index. -/
structure PresenceState (Subject : Type) where
  subject : Subject
  originDomain : String
  status : String
  activities : Json
  updatedAtRemote : DateTime
  expiresAtRemote : DateTime

def presenceSchema (Subject : Type) :
    RemoteSchema Subject (PresenceState Subject) where
  key := PresenceState.subject
  updatedAtRemote := PresenceState.updatedAtRemote
  valid row :=
    validString 255 row.originDomain && presenceStatuses.contains row.status
  cast row :=
    { row with
      updatedAtRemote := row.updatedAtRemote.truncate
      expiresAtRemote := row.expiresAtRemote.truncate }
  updatedAtRemote_cast _ := rfl

structure PresenceUpdate (Subject : Type) where
  subject : Subject
  status : String
  activities : Json
  updatedAt : Option DateTime
  remoteDomain : String
  ttlMs : Option Int

def PresenceUpdate.attrs {Subject : Type} (presenceTtlSeconds : Int)
    (update : PresenceUpdate Subject) (effectiveUpdatedAt : DateTime) :
    PresenceState Subject where
  subject := update.subject
  originDomain := downcase update.remoteDomain
  status := update.status
  activities := .obj [("items", .arr (normalizePresenceActivities update.activities))]
  updatedAtRemote := effectiveUpdatedAt
  expiresAtRemote :=
    presenceExpiryFromTtl presenceTtlSeconds effectiveUpdatedAt update.ttlMs

def upsertPresenceState {Subject : Type} [DecidableEq Subject]
    (presenceTtlSeconds : Int) (now : DateTime)
    (update : PresenceUpdate Subject) :
    StoreAction Reason (Table Subject (PresenceState Subject))
      (PresenceState Subject) :=
  upsertRemoteState (presenceSchema Subject)
    (update.attrs presenceTtlSeconds (update.updatedAt.getD now))

def upsertAccountPresenceState (presenceTtlSeconds : Int) (now : DateTime)
    (update : PresenceUpdate Int) :
    StoreAction Reason (Table Int (PresenceState Int)) (PresenceState Int) :=
  upsertPresenceState presenceTtlSeconds now update

def upsertRoomPresenceState (presenceTtlSeconds : Int) (now : DateTime)
    (update : PresenceUpdate (Int × Int)) :
    StoreAction Reason (Table (Int × Int) (PresenceState (Int × Int)))
      (PresenceState (Int × Int)) :=
  upsertPresenceState presenceTtlSeconds now update

section Upsert

variable [DecidableEq Key] {schema : RemoteSchema Key Row} {attrs : Row}
  {before after : Table Key Row} {row : Row}

/-- The stored row is newer than the incoming one. -/
def Superseded (schema : RemoteSchema Key Row) (attrs : Row)
    (table : Table Key Row) : Prop :=
  ∃ stored, table (schema.key attrs) = some stored ∧
    schema.updatedAtRemote attrs < schema.updatedAtRemote stored

theorem returns_writeRemoteState_iff :
    StoreAction.Returns (writeRemoteState schema attrs) before row after ↔
      schema.valid attrs = true ∧ row = schema.cast attrs ∧
        after = Function.update before (schema.key attrs)
          (some (schema.cast attrs)) := by
  by_cases valid : schema.valid attrs = true
  · simp [writeRemoteState, valid, and_comm]
  · simp [writeRemoteState, valid]

theorem returns_upsertRemoteState_iff :
    StoreAction.Returns (upsertRemoteState schema attrs) before row after ↔
      (Superseded schema attrs before ∧
        before (schema.key attrs) = some row ∧ after = before) ∨
      (¬ Superseded schema attrs before ∧ schema.valid attrs = true ∧
        row = schema.cast attrs ∧
        after = Function.update before (schema.key attrs)
          (some (schema.cast attrs))) := by
  simp only [upsertRemoteState, StoreAction.returns_bind_iff,
    StoreAction.returns_query_iff]
  cases stored : before (schema.key attrs) with
  | none => simp [stored, Superseded, returns_writeRemoteState_iff]
  | some state =>
      by_cases stale : schema.updatedAtRemote attrs < schema.updatedAtRemote state
      · simp [stored, Superseded, staleRemoteUpdate, stale]
        exact fun _ => eq_comm
      · simp [stored, Superseded, staleRemoteUpdate, stale,
          returns_writeRemoteState_iff]

theorem returns_upsertRemoteState_some_iff {table : Table Key Row} :
    (∃ row after,
      StoreAction.Returns (upsertRemoteState schema attrs) table row after) ↔
      Superseded schema attrs table ∨ schema.valid attrs = true := by
  constructor
  · intro returned
    obtain ⟨row, after, returned⟩ := returned
    rcases returns_upsertRemoteState_iff.mp returned with
      ⟨superseded, -⟩ | ⟨-, valid, -⟩
    · exact .inl superseded
    · exact .inr valid
  · intro possible
    by_cases superseded : Superseded schema attrs table
    · obtain ⟨stored, found, -⟩ := id superseded
      exact ⟨stored, table,
        returns_upsertRemoteState_iff.mpr (.inl ⟨superseded, found, rfl⟩)⟩
    · exact ⟨_, _, returns_upsertRemoteState_iff.mpr
        (.inr ⟨superseded, possible.resolve_left superseded, rfl, rfl⟩)⟩

end Upsert

end Elektrine.Messaging.Federation
