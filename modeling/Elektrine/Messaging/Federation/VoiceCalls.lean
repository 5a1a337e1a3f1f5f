import Elektrine.Messaging.ArblargSDK.EventPayloads
import Elektrine.Messaging.Federation.DirectMessageState
import Elektrine.Messaging.Federation.Utils
import Elektrine.Messaging.FederationCallSession

/-!
# Voice calls between nodes

The operations of the local user and the handlers of the `dm.call.*` events.
Each of them looks up one session and writes one row.
-/

namespace Elektrine.Messaging.Federation

structure User where
  id : Int
  username : String
  deriving DecidableEq, Repr

structure CallConversation where
  id : Int
  type : String
  /-- The handle stored in `federated_source`. -/
  remoteDmHandle : Option String
  deriving DecidableEq, Repr

structure VoiceContext where
  localDomain : String
  getUser : Int → Option User
  getUser_id : ∀ id user, getUser id = some user → user.id = id
  getUserByUsername : String → Option User
  verifiedCustomDomain : String → Option User
  getConversation : Int → Option CallConversation
  dmMembershipActive : Int → Int → Bool
  /-- `Calls.get_active_call` finds a call between local users. -/
  localCallActive : Int → Bool
  preferredDmOriginDomain : User → String
  ensureRemoteDmConversation : User → DmActor → Except Reason Int
  uuid : String
  now : DateTime

def found {α : Type} (value : Option α) (reason : Reason) : Except Reason α :=
  match value with
  | some value => .ok value
  | none => .error reason

theorem found_eq_ok_iff {α : Type} {value : Option α} {reason : Reason}
    {result : α} : found value reason = .ok result ↔ value = some result := by
  cases value <;> simp [found]

namespace VoiceCalls

open DirectMessageState

variable (context : VoiceContext)

def activeSessionForLocalUser (calls : CallTable) (localUserId : Int) : Bool :=
  calls.sessions.any fun session =>
    session.localUserId == localUserId && session.status.live

def localUserBusy (calls : CallTable) (localUserId : Int) : Bool :=
  context.localCallActive localUserId ||
    activeSessionForLocalUser calls localUserId

def activeSessionExists (calls : CallTable) (localUserId conversationId : Int) :
    Bool :=
  calls.sessions.any fun session =>
    session.localUserId == localUserId &&
      session.conversationId == conversationId && session.status.live

def federatedCallId (localDomain : String) : String :=
  "https://" ++ localDomain ++ "/_arblarg/calls/" ++ context.uuid

def putOptionalReason (metadata : Json) : Json → Json
  | .null | .str "" => metadata
  | reason => metadata.put "reason" reason

/-- `Repo.update` of a session that was read from the table. -/
def updateSession (calls : CallTable) (session : FederationCallSession) :
    Except Reason CallTable := do
  let changed ← FederationCallSession.changeset session
  .ok (calls.replace changed)

def insertSession (calls : CallTable) (session : FederationCallSession) :
    Except Reason CallTable := do
  let changed ← FederationCallSession.changeset session
  calls.insertRow changed

def startOutboundSession (localUserId conversationId : Int) (callType : String)
    (calls : CallTable) : Except Reason CallTable := do
  ensure (FederationCallSession.validCallTypes.contains callType) .invalidCallType
  let conversation ← found (context.getConversation conversationId) .notFound
  ensure (conversation.type == "dm") .unsupportedConversationType
  let remoteHandle ← found conversation.remoteDmHandle .notFound
  ensure (context.dmMembershipActive conversation.id localUserId) .notMember
  let localUser ← found (context.getUser localUserId) .notFound
  let remoteRecipient ← normalizeRemoteDmHandle remoteHandle
  ensure (!localUserBusy context calls localUserId) .localCallAlreadyActive
  ensure (!activeSessionExists calls localUserId conversationId)
    .remoteCallAlreadyActive
  let originDomain := context.preferredDmOriginDomain localUser
  insertSession calls
    { id := calls.nextId
      conversationId := conversation.id
      localUserId := localUser.id
      federatedCallId := federatedCallId context originDomain
      originDomain := originDomain
      remoteDomain := remoteRecipient.domain
      remoteHandle := remoteRecipient.handle
      remoteActor := dmActorPayload (.ofHandle remoteRecipient)
      callType := callType
      direction := .outbound
      status := .initiated
      metadata := .obj []
      startedAtRemote := none
      endedAtRemote := none }

def sessionToChange (sessionId localUserId : Int)
    (permitted : CallStatus → Bool) (calls : CallTable) :
    Except Reason FederationCallSession := do
  let session ← found (calls.findSession sessionId localUserId) .notFound
  ensure (permitted session.status) .invalidTransition
  .ok session

def unanswered (status : CallStatus) : Bool :=
  status == .initiated || status == .ringing

def acceptSession (sessionId localUserId : Int) (calls : CallTable) :
    Except Reason CallTable := do
  let session ← sessionToChange sessionId localUserId unanswered calls
  updateSession calls
    { session with
      status := .active
      startedAtRemote := some context.now.truncate }

/-- `reject_session`, `end_session` and `fail_session` differ in the statuses
they start from and in the one they leave. -/
def closeSession (permitted : CallStatus → Bool) (status : CallStatus)
    (sessionId localUserId : Int) (reason : Json) (calls : CallTable) :
    Except Reason CallTable := do
  let session ← sessionToChange sessionId localUserId permitted calls
  updateSession calls
    { session with
      status := status
      endedAtRemote := some context.now.truncate
      metadata := putOptionalReason session.metadata reason }

def rejectSession := closeSession context unanswered .rejected

def endSession := closeSession context CallStatus.live .ended

def failSession := closeSession context CallStatus.live .failed

def markSessionRinging (sessionId localUserId : Int) (calls : CallTable) :
    Except Reason CallTable := do
  let session ← sessionToChange sessionId localUserId (· == .initiated) calls
  updateSession calls { session with status := .ringing }

def inboundSession (id : Int) (localUser : User) (conversationId : Int)
    (remoteSender : DmActor) (callId callType remoteDomain : String)
    (status : CallStatus) (metadata : Json)
    (startedAt endedAt : Option DateTime) : FederationCallSession where
  id := id
  conversationId := conversationId
  localUserId := localUser.id
  federatedCallId := callId
  originDomain := downcase remoteDomain
  remoteDomain := downcase remoteDomain
  remoteHandle := remoteSender.identity.handle
  remoteActor := dmActorPayload remoteSender
  callType := callType
  direction := .inbound
  status := status
  metadata := metadata
  startedAtRemote := startedAt
  endedAtRemote := endedAt

def invitedCall (callPayload : Json) : Except Reason (String × String) := do
  let callId ← found (normalizeOptionalString (callPayload.get "id"))
    .invalidEventPayload
  let callType ← found (normalizeOptionalString (callPayload.get "call_type"))
    .invalidEventPayload
  ensure (FederationCallSession.validCallTypes.contains callType)
    .invalidEventPayload
  .ok (callId, callType)

def ringingSession (localUser : User) (conversationId : Int)
    (remoteSender : DmActor) (callPayload : Json) (call : String × String)
    (remoteDomain : String) (id : Int) (endedAt : Option DateTime) :
    FederationCallSession :=
  inboundSession id localUser conversationId remoteSender call.1 call.2
    remoteDomain .ringing ((callPayload.get "metadata").orElse (.obj []))
    ((parseDatetime (callPayload.get "initiated_at")).map DateTime.truncate)
    endedAt

def ensureInboundSession (localUser : User) (conversationId : Int)
    (remoteSender : DmActor) (callPayload : Json) (remoteDomain : String)
    (calls : CallTable) : Except Reason CallTable := do
  let call ← invitedCall callPayload
  let ringing := ringingSession localUser conversationId remoteSender callPayload
    call remoteDomain
  match calls.findCall localUser.id call.1 with
  | some existing =>
      updateSession calls (ringing existing.id existing.endedAtRemote)
  | none =>
      if localUserBusy context calls localUser.id then
        .error .busy
      else
        insertSession calls (ringing calls.nextId none)

def rejectInboundInvite (localUser : User) (conversationId : Int)
    (remoteSender : DmActor) (callPayload : Json) (remoteDomain : String)
    (reason : Json) (calls : CallTable) : Except Reason CallTable := do
  let (callId, callType) ← invitedCall callPayload
  let endedAt := some context.now.truncate
  match calls.findCall localUser.id callId with
  | some existing =>
      updateSession calls
        { existing with
          status := .rejected
          endedAtRemote := endedAt
          metadata := putOptionalReason existing.metadata reason }
  | none =>
      insertSession calls
        (inboundSession calls.nextId localUser conversationId remoteSender callId
          callType remoteDomain .rejected (putOptionalReason (.obj []) reason)
          none endedAt)

def localActorPayload (actor : Json) : Option User :=
  match (normalizeOptionalString (actor.get "domain")).map downcase,
      normalizeOptionalString (actor.get "username") with
  | some actorDomain, some username =>
      if actorDomain = downcase context.localDomain then
        context.getUserByUsername username
      else
        (context.verifiedCustomDomain actorDomain).filter
          (·.username == username)
  | _, _ => none

def resolveLocalDmParticipant (dmPayload : Json) : Except Reason User :=
  if dmPayload.has "sender" && dmPayload.has "recipient" then
    found
      ((localActorPayload context (dmPayload.get "sender")).or
        (localActorPayload context (dmPayload.get "recipient")))
      .userNotFound
  else
    .error .invalidEventPayload

def remoteSession (dmPayload : Json) (callId remoteDomain : String)
    (calls : CallTable) : Except Reason FederationCallSession := do
  let localUser ← resolveLocalDmParticipant context dmPayload
  let session ← found (calls.findCall localUser.id callId) .notFound
  ensure (session.remoteDomain == downcase remoteDomain) .originDomainMismatch
  .ok session

def applyRemoteAccept (dmPayload : Json) (callId : String) (acceptedAt : Json)
    (remoteDomain : String) (calls : CallTable) : Except Reason CallTable := do
  let session ← remoteSession context dmPayload callId remoteDomain calls
  updateSession calls
    { session with
      status := .active
      startedAtRemote :=
        some ((parseDatetime acceptedAt).getD context.now).truncate }

/-- `apply_remote_reject` and `apply_remote_end` differ in the status they
leave. -/
def applyRemoteClose (status : CallStatus) (dmPayload : Json) (callId : String)
    (closedAt reason : Json) (remoteDomain : String) (calls : CallTable) :
    Except Reason CallTable := do
  let session ← remoteSession context dmPayload callId remoteDomain calls
  updateSession calls
    { session with
      status := status
      endedAtRemote :=
        some ((parseDatetime closedAt).getD context.now).truncate
      metadata := putOptionalReason session.metadata reason }

def applyRemoteReject := applyRemoteClose context .rejected

def applyRemoteEnd := applyRemoteClose context .ended

def applyRemoteSignal (dmPayload : Json) (callId : String) (signal : Json)
    (remoteDomain : String) (calls : CallTable) : Except Reason CallTable := do
  let _ ← remoteSession context dmPayload callId remoteDomain calls
  ensure (signal.get "kind").isString .invalidEventPayload
  .ok calls

end VoiceCalls

namespace DirectMessages

open DirectMessageState VoiceCalls

variable (context : VoiceContext)

def resolveLocalDmRecipient (recipientPayload : Json) : Except Reason User :=
  if recipientPayload.isMap then
    match normalizeDmActorPayload recipientPayload context.localDomain with
    | .error _ => .error .invalidEventPayload
    | .ok recipient =>
        let domain := downcase recipient.identity.domain
        if domain = downcase context.localDomain then
          found (context.getUserByUsername recipient.identity.username)
            .userNotFound
        else
          match context.verifiedCustomDomain domain with
          | none => .error .invalidEventPayload
          | some user =>
              if user.username = recipient.identity.username then .ok user
              else .error .userNotFound
  else
    .error .invalidEventPayload

def applyCallInvite (data : Json) (remoteDomain : String) (calls : CallTable) :
    Except Reason CallTable := do
  let dmPayload := data.get "dm"
  let callPayload := data.get "call"
  ensure (dmPayload.isMap && callPayload.isMap) .invalidEventPayload
  let recipientUser ← resolveLocalDmRecipient context (dmPayload.get "recipient")
  let remoteSender ← resolveRemoteDmSender (dmPayload.get "sender") remoteDomain
  let conversationId ←
    context.ensureRemoteDmConversation recipientUser remoteSender
  match ensureInboundSession context recipientUser conversationId remoteSender
      callPayload remoteDomain calls with
  | .error .busy =>
      rejectInboundInvite context recipientUser conversationId remoteSender
        callPayload remoteDomain (.str "busy") calls
  | outcome => outcome

def applyCallEvent
    (handler : Json → String → String → CallTable → Except Reason CallTable)
    (data : Json) (remoteDomain : String) (calls : CallTable) :
    Except Reason CallTable := do
  ensure (data.get "dm").isMap .invalidEventPayload
  let callId ← found (data.get "call_id").asString? .invalidEventPayload
  ensure (data.get "actor").isMap .invalidEventPayload
  handler (data.get "dm") callId remoteDomain calls

/-- `apply_event` of the direct messages, for the events about calls. -/
def applyEvent (eventType : String) (data : Json) (remoteDomain : String)
    (calls : CallTable) : Except Reason CallTable :=
  match eventType with
  | "dm.call.invite" => applyCallInvite context data remoteDomain calls
  | "dm.call.accept" =>
      applyCallEvent (fun dm callId => applyRemoteAccept context dm callId
        (data.get "accepted_at")) data remoteDomain calls
  | "dm.call.reject" =>
      applyCallEvent (fun dm callId => applyRemoteReject context dm callId
        (data.get "rejected_at") (data.get "reason")) data remoteDomain calls
  | "dm.call.end" =>
      applyCallEvent (fun dm callId => applyRemoteEnd context dm callId
        (data.get "ended_at") (data.get "reason")) data remoteDomain calls
  | "dm.call.signal" =>
      applyCallEvent (fun dm callId remoteDomain calls =>
        if (data.get "signal").isMap then
          applyRemoteSignal context dm callId (data.get "signal") remoteDomain
            calls
        else .error .invalidEventPayload) data remoteDomain calls
  | _ => .error .unhandledEventType

def receiveCallEvent (eventType : String) (data : Json) (remoteDomain : String)
    (calls : CallTable) : Except Reason CallTable := do
  ArblargSDK.validateEventPayload eventType data
  validateOriginBoundActorsInEventData eventType data remoteDomain
  validateOriginOwnedIdentifiersInEventData eventType data remoteDomain
  applyEvent context (normalizedEventName eventType) data remoteDomain calls

end DirectMessages

end Elektrine.Messaging.Federation
