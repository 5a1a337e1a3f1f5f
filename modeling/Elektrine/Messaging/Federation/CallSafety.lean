import Mathlib.Data.List.Nodup
import Elektrine.Library.Runs
import Elektrine.Messaging.Federation.VoiceCalls

/-!
# Runs of call operations

The operations of the local user and the events of remote peers, in any order.
Every operation that succeeds writes one row, and `CallEffect` says which.  The
two handlers that look at no status are the answer and the repeated invitation of
a remote peer; everything else goes forward only.
-/

namespace Elektrine.Messaging.Federation

open Elektrine.Library
open VoiceCalls DirectMessages DirectMessageState

inductive CallOperation where
  | start (localUserId conversationId : Int) (callType : String)
  | markRinging (sessionId localUserId : Int)
  | accept (sessionId localUserId : Int)
  | reject (sessionId localUserId : Int) (reason : Json)
  | finish (sessionId localUserId : Int) (reason : Json)
  | fail (sessionId localUserId : Int) (reason : Json)
  | receive (eventType : String) (data : Json) (remoteDomain : String)

structure CallAction where
  context : VoiceContext
  operation : CallOperation

def CallAction.perform (action : CallAction) (calls : CallTable) :
    Except Reason CallTable :=
  match action.operation with
  | .start localUserId conversationId callType =>
      startOutboundSession action.context localUserId conversationId callType calls
  | .markRinging sessionId localUserId =>
      markSessionRinging sessionId localUserId calls
  | .accept sessionId localUserId =>
      acceptSession action.context sessionId localUserId calls
  | .reject sessionId localUserId reason =>
      rejectSession action.context sessionId localUserId reason calls
  | .finish sessionId localUserId reason =>
      endSession action.context sessionId localUserId reason calls
  | .fail sessionId localUserId reason =>
      failSession action.context sessionId localUserId reason calls
  | .receive eventType data remoteDomain =>
      receiveCallEvent action.context eventType data remoteDomain calls

def callStep (calls : CallTable) (action : CallAction) : CallTable :=
  match action.perform calls with
  | .ok after => after
  | .error _ => calls

section Table

variable {calls after : CallTable} {session later row : FederationCallSession}

theorem mem_replace_iff {row : ValidCallSession} :
    later ∈ (calls.replace row).sessions ↔
      (later = row.val ∧ ∃ stored ∈ calls.sessions, stored.key = row.val.key) ∨
        (later ∈ calls.sessions ∧ later.key ≠ row.val.key) := by
  change later ∈ calls.sessions.map (CallTable.replaceRow row.val) ↔ _
  rw [List.mem_map]
  constructor
  · intro replaced
    obtain ⟨stored, member, same⟩ := replaced
    by_cases sameKey : stored.key = row.val.key
    · rw [CallTable.replaceRow, if_pos sameKey] at same
      exact .inl ⟨same.symm, stored, member, sameKey⟩
    · rw [CallTable.replaceRow, if_neg sameKey] at same
      exact .inr (same ▸ ⟨member, sameKey⟩)
  · intro either
    rcases either with ⟨same, stored, member, sameKey⟩ | ⟨member, otherKey⟩
    · exact ⟨stored, member, by rw [CallTable.replaceRow, if_pos sameKey, same]⟩
    · exact ⟨later, member, by rw [CallTable.replaceRow, if_neg otherKey]⟩

theorem eq_of_id (member : session ∈ calls.sessions)
    (other : later ∈ calls.sessions) (same : later.id = session.id) :
    later = session :=
  List.inj_on_of_nodup_map calls.distinctIds other member same

theorem findSession_some {sessionId localUserId : Int}
    (found : calls.findSession sessionId localUserId = some session) :
    session ∈ calls.sessions ∧ session.id = sessionId ∧
      session.localUserId = localUserId := by
  have both := List.find?_some found
  simp only [Bool.and_eq_true, beq_iff_eq] at both
  exact ⟨List.mem_of_find?_eq_some found, both⟩

theorem findCall_some {localUserId : Int} {callId : String}
    (found : calls.findCall localUserId callId = some session) :
    session ∈ calls.sessions ∧ session.localUserId = localUserId ∧
      session.federatedCallId = callId := by
  have both := List.find?_some found
  simp only [Bool.and_eq_true, beq_iff_eq] at both
  exact ⟨List.mem_of_find?_eq_some found, both⟩

theorem updateSession_eq_ok_iff :
    updateSession calls session = .ok after ↔
      ∃ row : ValidCallSession, row.val = session ∧ after = calls.replace row := by
  unfold updateSession
  rw [bind_eq_ok_iff]
  constructor
  · intro updated
    obtain ⟨row, changed, written⟩ := updated
    exact ⟨row, FederationCallSession.changeset_eq_ok_iff.mp changed,
      (Except.ok.inj written).symm⟩
  · intro written
    obtain ⟨row, same, result⟩ := written
    exact ⟨row, FederationCallSession.changeset_eq_ok_iff.mpr same,
      congrArg Except.ok result.symm⟩

theorem insertSession_eq_ok
    (inserted : insertSession calls session = .ok after) :
    ∃ (row : ValidCallSession) (unknown : calls.findCall row.val.localUserId
        row.val.federatedCallId = none),
      row.val = session ∧ after = calls.insert row unknown := by
  obtain ⟨row, changed, written⟩ := bind_eq_ok_iff.mp inserted
  unfold CallTable.insertRow at written
  split at written
  · rename_i unknown
    exact ⟨row, unknown, FederationCallSession.changeset_eq_ok_iff.mp changed,
      (Except.ok.inj written).symm⟩
  · cases written

theorem sessionToChange_eq_ok {sessionId localUserId : Int}
    {permitted : CallStatus → Bool}
    (chosen : sessionToChange sessionId localUserId permitted calls =
      .ok session) :
    session ∈ calls.sessions ∧ session.id = sessionId ∧
      session.localUserId = localUserId ∧ permitted session.status = true := by
  obtain ⟨stored, lookup, rest⟩ := bind_eq_ok_iff.mp chosen
  obtain ⟨⟨⟩, allowed, same⟩ := bind_eq_ok_iff.mp rest
  rw [Except.ok.inj same] at lookup allowed
  obtain ⟨member, sameId, sameUser⟩ :=
    findSession_some (found_eq_ok_iff.mp lookup)
  exact ⟨member, sameId, sameUser, ensure_eq_ok_iff.mp allowed⟩

theorem remoteSession_eq_ok {context : VoiceContext} {dmPayload : Json}
    {callId remoteDomain : String}
    (chosen : remoteSession context dmPayload callId remoteDomain calls =
      .ok session) : session ∈ calls.sessions := by
  obtain ⟨localUser, _, rest⟩ := bind_eq_ok_iff.mp chosen
  obtain ⟨stored, lookup, rest⟩ := bind_eq_ok_iff.mp rest
  obtain ⟨⟨⟩, _, same⟩ := bind_eq_ok_iff.mp rest
  rw [Except.ok.inj same] at lookup
  exact (findCall_some (found_eq_ok_iff.mp lookup)).1

end Table

structure ReceivesCall (action : CallAction) (eventType : String) (data : Json)
    (remoteDomain : String) : Prop where
  arrives : ∃ name, action.operation = .receive name data remoteDomain ∧
    normalizedEventName name = eventType ∧
    ArblargSDK.validateEventPayload name data = .ok () ∧
    validateOriginBoundActorsInEventData name data remoteDomain = .ok () ∧
    validateOriginOwnedIdentifiersInEventData name data remoteDomain = .ok ()

/-- A remote peer answers the call of this session. -/
def AnswersCall (calls : CallTable) (action : CallAction)
    (session : FederationCallSession) : Prop :=
  ∃ data remoteDomain callId,
    ReceivesCall action "dm.call.accept" data remoteDomain ∧
    (data.get "dm").isMap = true ∧ data.get "call_id" = .str callId ∧
    (data.get "actor").isMap = true ∧
    remoteSession action.context (data.get "dm") callId remoteDomain calls =
      .ok session

/-- A remote peer invites again to the call of this session. -/
def RepeatsInvite (calls : CallTable) (action : CallAction)
    (session : FederationCallSession) : Prop :=
  ∃ data remoteDomain localUser remoteSender conversationId call,
    ReceivesCall action "dm.call.invite" data remoteDomain ∧
    ((data.get "dm").isMap && (data.get "call").isMap) = true ∧
    resolveLocalDmRecipient action.context ((data.get "dm").get "recipient") =
      .ok localUser ∧
    resolveRemoteDmSender ((data.get "dm").get "sender") remoteDomain =
      .ok remoteSender ∧
    action.context.ensureRemoteDmConversation localUser remoteSender =
      .ok conversationId ∧
    invitedCall (data.get "call") = .ok call ∧
    calls.findCall localUser.id call.1 = some session ∧
    (ringingSession localUser conversationId remoteSender (data.get "call") call
      remoteDomain session.id session.endedAtRemote).valid = true

inductive Moves (calls : CallTable) (action : CallAction)
    (session changed : FederationCallSession) : Prop where
  | rung (before : session.status = .initiated)
      (after : changed.status = .ringing)
  | taken
      (own : action.operation = .accept session.id session.localUserId)
      (before : unanswered session.status = true)
      (after : changed.status = .active)
  | closed (after : changed.status.live = false)
  | answered (remote : AnswersCall calls action session)
      (after : changed.status = .active)
  | invited (remote : RepeatsInvite calls action session)
      (after : changed.status = .ringing)

inductive CallEffect (calls : CallTable) (action : CallAction) :
    CallTable → Prop where
  | unchanged : CallEffect calls action calls
  | changed (session : FederationCallSession) (row : ValidCallSession)
      (member : session ∈ calls.sessions) (sameKey : row.val.key = session.key)
      (moves : Moves calls action session row.val) :
      CallEffect calls action (calls.replace row)
  | added (row : ValidCallSession)
      (unknown : calls.findCall row.val.localUserId row.val.federatedCallId = none)
      (idle : row.val.status.live = true →
        activeSessionForLocalUser calls row.val.localUserId = false) :
      CallEffect calls action (calls.insert row unknown)

section Effects

variable {calls after : CallTable} {action : CallAction}
  {context : VoiceContext} {sessionId localUserId : Int}

theorem idle_of_not_busy (idle : localUserBusy context calls localUserId = false) :
    activeSessionForLocalUser calls localUserId = false :=
  (Bool.or_eq_false_iff.mp idle).2

theorem startOutboundSession_effect {conversationId : Int} {callType : String}
    (started : startOutboundSession context localUserId conversationId callType
      calls = .ok after) : CallEffect calls action after := by
  simp only [startOutboundSession, bind_eq_ok_iff] at started
  obtain ⟨_, _, conversation, _, _, _, remoteHandle, _, _, _, localUser, isUser,
    remoteRecipient, _, _, idle, _, _, inserted⟩ := started
  obtain ⟨row, unknown, same, rfl⟩ := insertSession_eq_ok inserted
  apply CallEffect.added row unknown
  intro _
  have sameUser : row.val.localUserId = localUserId := by
    rw [same]
    exact context.getUser_id _ _ (found_eq_ok_iff.mp isUser)
  rw [sameUser]
  apply idle_of_not_busy
  simpa using ensure_eq_ok_iff.mp idle

theorem updateSession_effect {session changed : FederationCallSession}
    (updated : updateSession calls changed = .ok after)
    (member : session ∈ calls.sessions) (sameKey : changed.key = session.key)
    (moves : Moves calls action session changed) :
    CallEffect calls action after := by
  obtain ⟨row, same, rfl⟩ := updateSession_eq_ok_iff.mp updated
  exact .changed session row member (same ▸ sameKey) (same ▸ moves)

theorem markSessionRinging_effect
    (marked : markSessionRinging sessionId localUserId calls = .ok after) :
    CallEffect calls action after := by
  obtain ⟨session, chosen, updated⟩ := bind_eq_ok_iff.mp marked
  obtain ⟨member, _, _, initiated⟩ := sessionToChange_eq_ok chosen
  exact updateSession_effect updated member rfl
    (.rung (beq_iff_eq.mp initiated) rfl)

theorem acceptSession_effect
    (own : action.operation = .accept sessionId localUserId)
    (accepted : acceptSession context sessionId localUserId calls = .ok after) :
    CallEffect calls action after := by
  obtain ⟨session, chosen, updated⟩ := bind_eq_ok_iff.mp accepted
  obtain ⟨member, sameId, sameUser, waiting⟩ := sessionToChange_eq_ok chosen
  refine updateSession_effect updated member rfl (.taken ?_ waiting rfl)
  rw [sameId, sameUser]
  exact own

theorem closeSession_effect {permitted : CallStatus → Bool} {status : CallStatus}
    {reason : Json} (terminal : status.live = false)
    (closed : closeSession context permitted status sessionId localUserId reason
      calls = .ok after) : CallEffect calls action after := by
  obtain ⟨session, chosen, updated⟩ := bind_eq_ok_iff.mp closed
  obtain ⟨member, _⟩ := sessionToChange_eq_ok chosen
  exact updateSession_effect updated member rfl (.closed terminal)

theorem applyRemoteClose_effect {status : CallStatus} {dmPayload : Json}
    {callId remoteDomain : String} {closedAt reason : Json}
    (terminal : status.live = false)
    (closed : applyRemoteClose context status dmPayload callId closedAt reason
      remoteDomain calls = .ok after) : CallEffect calls action after := by
  obtain ⟨session, chosen, updated⟩ := bind_eq_ok_iff.mp closed
  exact updateSession_effect updated (remoteSession_eq_ok chosen) rfl
    (.closed terminal)

theorem applyCallEvent_eq_ok_iff
    {handler : Json → String → String → CallTable → Except Reason CallTable}
    {data : Json} {remoteDomain : String} :
    applyCallEvent handler data remoteDomain calls = .ok after ↔
      ∃ callId, (data.get "dm").isMap = true ∧
        data.get "call_id" = .str callId ∧ (data.get "actor").isMap = true ∧
        handler (data.get "dm") callId remoteDomain calls = .ok after := by
  simp only [applyCallEvent, bind_eq_ok_iff, found_eq_ok_iff,
    Json.asString?_eq_some_iff]
  constructor
  · intro applied
    obtain ⟨_, dm, callId, named, _, actor, handled⟩ := applied
    exact ⟨callId, ensure_eq_ok_iff.mp dm, named, ensure_eq_ok_iff.mp actor,
      handled⟩
  · intro applied
    obtain ⟨callId, dm, named, actor, handled⟩ := applied
    exact ⟨(), ensure_eq_ok_iff.mpr dm, callId, named, (),
      ensure_eq_ok_iff.mpr actor, handled⟩

theorem ensureInboundSession_cases {localUser : User} {conversationId : Int}
    {remoteSender : DmActor} {callPayload : Json} {remoteDomain : String}
    (ensured : ensureInboundSession context localUser conversationId remoteSender
      callPayload remoteDomain calls = .ok after) :
    ∃ call, invitedCall callPayload = .ok call ∧
      ((∃ session, calls.findCall localUser.id call.1 = some session ∧
          updateSession calls (ringingSession localUser conversationId
            remoteSender callPayload call remoteDomain session.id
            session.endedAtRemote) = .ok after) ∨
        (localUserBusy context calls localUser.id = false ∧
          insertSession calls (ringingSession localUser conversationId
            remoteSender callPayload call remoteDomain calls.nextId none) =
            .ok after)) := by
  obtain ⟨call, invited, written⟩ := bind_eq_ok_iff.mp ensured
  refine ⟨call, invited, ?_⟩
  dsimp only at written
  split at written
  · rename_i session lookup
    exact .inl ⟨session, lookup, written⟩
  · split at written
    · cases written
    · rename_i idle
      exact .inr ⟨by simpa using idle, written⟩

theorem rejectInboundInvite_effect {localUser : User} {conversationId : Int}
    {remoteSender : DmActor} {callPayload reason : Json} {remoteDomain : String}
    (rejected : rejectInboundInvite context localUser conversationId remoteSender
      callPayload remoteDomain reason calls = .ok after) :
    CallEffect calls action after := by
  obtain ⟨call, _, written⟩ := bind_eq_ok_iff.mp rejected
  dsimp only at written
  split at written
  · rename_i session lookup
    exact updateSession_effect written (findCall_some lookup).1 rfl (.closed rfl)
  · obtain ⟨row, unknown, same, rfl⟩ := insertSession_eq_ok written
    apply CallEffect.added row unknown
    intro live
    rw [same] at live
    cases live

theorem applyCallInvite_effect {data : Json} {remoteDomain : String}
    (received : ReceivesCall action "dm.call.invite" data remoteDomain)
    (applied : applyCallInvite action.context data remoteDomain calls =
      .ok after) : CallEffect calls action after := by
  simp only [applyCallInvite, bind_eq_ok_iff] at applied
  obtain ⟨_, maps, localUser, recipient, remoteSender, sender, conversationId,
    conversation, handled⟩ := applied
  split at handled
  · exact rejectInboundInvite_effect handled
  · obtain ⟨call, invited, written | written⟩ :=
      ensureInboundSession_cases handled
    · obtain ⟨session, lookup, updated⟩ := written
      obtain ⟨member, sameUser, sameCall⟩ := findCall_some lookup
      obtain ⟨row, same, -⟩ := updateSession_eq_ok_iff.mp updated
      have repeats : RepeatsInvite calls action session :=
        ⟨data, remoteDomain, localUser, remoteSender, conversationId, call,
          received, ensure_eq_ok_iff.mp maps, recipient, sender, conversation,
          invited, lookup, same ▸ row.property⟩
      refine updateSession_effect updated member ?_ (.invited repeats rfl)
      rw [FederationCallSession.key, FederationCallSession.key, sameUser, sameCall]
      rfl
    · obtain ⟨idle, inserted⟩ := written
      obtain ⟨row, unknown, same, rfl⟩ := insertSession_eq_ok inserted
      apply CallEffect.added row unknown
      intro _
      rw [same]
      exact idle_of_not_busy idle

theorem perform_effect (performed : action.perform calls = .ok after) :
    CallEffect calls action after := by
  unfold CallAction.perform at performed
  split at performed
  · exact startOutboundSession_effect performed
  · exact markSessionRinging_effect performed
  · rename_i sessionId localUserId own
    exact acceptSession_effect own performed
  · exact closeSession_effect rfl performed
  · exact closeSession_effect rfl performed
  · exact closeSession_effect rfl performed
  · rename_i name data remoteDomain arrives
    simp only [receiveCallEvent, bind_eq_ok_iff] at performed
    obtain ⟨_, schema, _, actors, _, identifiers, applied⟩ := performed
    have received : ∀ eventType, normalizedEventName name = eventType →
        ReceivesCall action eventType data remoteDomain :=
      fun eventType same =>
        ⟨name, arrives, same, schema, actors, identifiers⟩
    unfold applyEvent at applied
    split at applied
    · rename_i invite
      exact applyCallInvite_effect (received _ invite) applied
    · rename_i accept
      obtain ⟨callId, dm, named, actor, handled⟩ := applyCallEvent_eq_ok_iff.mp applied
      obtain ⟨session, chosen, updated⟩ := bind_eq_ok_iff.mp handled
      have answers : AnswersCall calls action session :=
        ⟨data, remoteDomain, callId, received _ accept, dm, named, actor, chosen⟩
      exact updateSession_effect updated (remoteSession_eq_ok chosen) rfl
        (.answered answers rfl)
    · obtain ⟨_, _, _, _, handled⟩ := applyCallEvent_eq_ok_iff.mp applied
      exact applyRemoteClose_effect rfl handled
    · obtain ⟨_, _, _, _, handled⟩ := applyCallEvent_eq_ok_iff.mp applied
      exact applyRemoteClose_effect rfl handled
    · obtain ⟨_, _, _, _, handled⟩ := applyCallEvent_eq_ok_iff.mp applied
      split at handled
      · simp only [applyRemoteSignal, bind_eq_ok_iff] at handled
        obtain ⟨_, _, _, _, same⟩ := handled
        cases same
        exact .unchanged
      · cases handled
    · cases applied

end Effects

section Steps

variable {calls : CallTable} {action : CallAction}
  {session later : FederationCallSession}

theorem callStep_effect (calls : CallTable) (action : CallAction) :
    CallEffect calls action (callStep calls action) := by
  unfold callStep
  split
  · rename_i performed
    exact perform_effect performed
  · exact .unchanged

theorem id_of_key (same : later.key = session.key) : later.id = session.id :=
  congrArg Prod.fst same

theorem user_of_key (same : later.key = session.key) :
    later.localUserId = session.localUserId :=
  congrArg (fun key => key.2.1) same

theorem later_of_step (member : session ∈ calls.sessions)
    (present : later ∈ (callStep calls action).sessions)
    (same : later.id = session.id) :
    later = session ∨
      later.key = session.key ∧ Moves calls action session later := by
  have effect := callStep_effect calls action
  generalize callStep calls action = after at effect present
  rcases effect with
    _ | ⟨old, row, oldMember, sameKey, moves⟩ | ⟨row, unknown, _⟩
  · exact .inl (eq_of_id member present same)
  · rcases mem_replace_iff.mp present with ⟨isRow, _⟩ | ⟨stored, _⟩
    · subst isRow
      have sameId : old.id = session.id := (id_of_key sameKey).symm.trans same
      rw [eq_of_id member oldMember sameId] at sameKey moves
      exact .inr ⟨sameKey, moves⟩
    · exact .inl (eq_of_id member stored same)
  · rcases List.mem_append.mp present with stored | added
    · exact .inl (eq_of_id member stored same)
    · rw [List.mem_singleton.mp added] at same
      have below := calls.fresh session member
      have assigned : calls.nextId = session.id := same
      omega

theorem exists_later (member : session ∈ calls.sessions) (action : CallAction) :
    ∃ later ∈ (callStep calls action).sessions, later.id = session.id := by
  have effect := callStep_effect calls action
  generalize callStep calls action = after at effect
  rcases effect with
    _ | ⟨old, row, oldMember, sameKey, moves⟩ | ⟨row, unknown, _⟩
  · exact ⟨session, member, rfl⟩
  · by_cases isOld : session.key = row.val.key
    · exact ⟨row.val, mem_replace_iff.mpr (.inl ⟨rfl, session, member, isOld⟩),
        (id_of_key isOld).symm⟩
    · exact ⟨session, mem_replace_iff.mpr (.inr ⟨member, isOld⟩), rfl⟩
  · exact ⟨session, List.mem_append_left _ member, rfl⟩

end Steps

theorem live_of_unanswered {status : CallStatus}
    (waiting : unanswered status = true) : status.live = true := by
  cases status <;> first | rfl | cases waiting

/-- A remote event takes up a session that was closed. -/
def Reopens (calls : CallTable) (action : CallAction) : Prop :=
  ∃ session, session.status.live = false ∧
    (AnswersCall calls action session ∨ RepeatsInvite calls action session)

/-- The session with this id is closed. -/
def Closed (id : Int) (calls : CallTable) : Prop :=
  ∃ session ∈ calls.sessions, session.id = id ∧ session.status.live = false

theorem Closed.step {id : Int} {calls : CallTable} {action : CallAction}
    (closed : Closed id calls) (kept : ¬ Reopens calls action) :
    Closed id (callStep calls action) := by
  obtain ⟨session, member, sameId, terminal⟩ := closed
  obtain ⟨later, present, same⟩ := exists_later member action
  refine ⟨later, present, same.trans sameId, ?_⟩
  rcases later_of_step member present same with unchanged | ⟨_, moves⟩
  · rw [unchanged]
    exact terminal
  · cases moves with
    | rung before _ =>
        rw [before] at terminal
        cases terminal
    | taken _ before _ =>
        rw [live_of_unanswered before] at terminal
        cases terminal
    | closed after => exact after
    | answered remote _ => exact absurd ⟨session, terminal, .inl remote⟩ kept
    | invited remote _ => exact absurd ⟨session, terminal, .inr remote⟩ kept

theorem ReceivesCall.perform {calls : CallTable} {action : CallAction}
    {eventType remoteDomain : String} {data : Json}
    (received : ReceivesCall action eventType data remoteDomain) :
    action.perform calls =
      applyEvent action.context eventType data remoteDomain calls := by
  obtain ⟨name, arrives, same, schema, actors, identifiers⟩ := received
  unfold CallAction.perform
  rw [arrives]
  change receiveCallEvent action.context name data remoteDomain calls = _
  unfold receiveCallEvent
  rw [schema, actors, identifiers, same]
  rfl

theorem callStep_of_perform {calls after : CallTable} {action : CallAction}
    (performed : action.perform calls = .ok after) :
    callStep calls action = after := by
  unfold callStep
  rw [performed]

theorem answersCall_performs {calls : CallTable} {action : CallAction}
    {session : FederationCallSession} (answers : AnswersCall calls action session) :
    ∃ row : ValidCallSession, session ∈ calls.sessions ∧
      row.val.key = session.key ∧ row.val.status = .active ∧
      callStep calls action = calls.replace row := by
  obtain ⟨data, remoteDomain, callId, received, dm, named, actor, chosen⟩ :=
    answers
  have member := remoteSession_eq_ok chosen
  let active : FederationCallSession :=
    { session with
      status := .active
      startedAtRemote := some ((parseDatetime (data.get "accepted_at")).getD
        action.context.now).truncate }
  have activeValid : active.valid = true := calls.valid session member
  refine ⟨⟨active, activeValid⟩, member, rfl, rfl, callStep_of_perform ?_⟩
  rw [received.perform]
  change applyCallEvent (fun dm callId => applyRemoteAccept action.context dm
    callId (data.get "accepted_at")) data remoteDomain calls = _
  apply applyCallEvent_eq_ok_iff.mpr
  refine ⟨callId, dm, named, actor, bind_eq_ok_iff.mpr ⟨session, chosen, ?_⟩⟩
  exact updateSession_eq_ok_iff.mpr ⟨⟨active, activeValid⟩, rfl, rfl⟩

theorem repeatsInvite_performs {calls : CallTable} {action : CallAction}
    {session : FederationCallSession} (repeats : RepeatsInvite calls action session) :
    ∃ row : ValidCallSession, session ∈ calls.sessions ∧
      row.val.key = session.key ∧ row.val.status = .ringing ∧
      callStep calls action = calls.replace row := by
  obtain ⟨data, remoteDomain, localUser, remoteSender, conversationId, call,
    received, maps, recipient, sender, conversation, invited, lookup, valid⟩ :=
    repeats
  obtain ⟨member, sameUser, sameCall⟩ := findCall_some lookup
  have ensured : ensureInboundSession action.context localUser conversationId
      remoteSender (data.get "call") remoteDomain calls =
      .ok (calls.replace ⟨_, valid⟩) := by
    apply bind_eq_ok_iff.mpr
    refine ⟨call, invited, ?_⟩
    dsimp only
    rw [lookup]
    exact updateSession_eq_ok_iff.mpr ⟨⟨_, valid⟩, rfl, rfl⟩
  refine ⟨⟨_, valid⟩, member, ?_, rfl, callStep_of_perform ?_⟩
  · rw [FederationCallSession.key, FederationCallSession.key, sameUser, sameCall]
    rfl
  · rw [received.perform]
    change applyCallInvite action.context data remoteDomain calls = _
    simp only [applyCallInvite, bind_eq_ok_iff]
    refine ⟨(), ensure_eq_ok_iff.mpr maps, localUser, recipient, remoteSender, sender, conversationId,
      conversation, ?_⟩
    rw [ensured]

/-- Once a session is closed it is never ringing or active again. -/
def TerminalStays (start : CallTable) (actions : List CallAction) : Prop :=
  ∀ front middle back, actions = front ++ middle ++ back →
    ∀ session ∈ (front.foldl callStep start).sessions,
      session.status.live = false →
      ∀ later ∈ ((front ++ middle).foldl callStep start).sessions,
        later.id = session.id → later.status.connected = false

theorem connected_of_reopens {calls : CallTable} {action : CallAction}
    (reopens : Reopens calls action) :
    ∃ session ∈ calls.sessions, session.status.live = false ∧
      ∃ later ∈ (callStep calls action).sessions,
        later.id = session.id ∧ later.status.connected = true := by
  obtain ⟨session, terminal, remote⟩ := reopens
  have performs : ∃ row : ValidCallSession, session ∈ calls.sessions ∧
      row.val.key = session.key ∧ row.val.status.connected = true ∧
      callStep calls action = calls.replace row := by
    rcases remote with answers | repeats
    · obtain ⟨row, member, sameKey, active, stepped⟩ :=
        answersCall_performs answers
      exact ⟨row, member, sameKey, by rw [active]; rfl, stepped⟩
    · obtain ⟨row, member, sameKey, ringing, stepped⟩ :=
        repeatsInvite_performs repeats
      exact ⟨row, member, sameKey, by rw [ringing]; rfl, stepped⟩
  obtain ⟨row, member, sameKey, connected, stepped⟩ := performs
  refine ⟨session, member, terminal, row.val, ?_, id_of_key sameKey, connected⟩
  rw [stepped]
  exact mem_replace_iff.mpr (.inl ⟨rfl, session, member, sameKey.symm⟩)

/-- Terminal statuses are final in exactly the runs in which no remote event
takes up a closed session. -/
theorem terminalStays_iff (start : CallTable) (actions : List CallAction) :
    TerminalStays start actions ↔
      Along callStep (fun calls action => ¬ Reopens calls action) start
        actions := by
  constructor
  · intro stays front action back split reopens
    obtain ⟨session, member, terminal, later, present, sameId, connected⟩ :=
      connected_of_reopens reopens
    have still := stays front [action] back (by simp [split]) session member
      terminal later (by simpa using present) sameId
    rw [connected] at still
    cases still
  · intro along front middle back split session member terminal later present
      sameId
    rw [split, List.append_assoc] at along
    have closed : Closed session.id ((front ++ middle).foldl callStep start) := by
      rw [List.foldl_append]
      apply along.suffix_of.prefix_of.invariant
      · intro before action closed kept
        exact closed.step kept
      · exact ⟨session, member, rfl, terminal⟩
    obtain ⟨row, rowMember, rowId, rowTerminal⟩ := closed
    have same : later = row := eq_of_id rowMember present (sameId.trans rowId.symm)
    rw [same]
    cases connected : row.status.connected with
    | false => rfl
    | true =>
        rw [CallStatus.live_of_connected connected] at rowTerminal
        cases rowTerminal

/-- A remote answer takes a call that rings at the local user. -/
def AnswersIncoming (calls : CallTable) (action : CallAction) : Prop :=
  ∃ session, session.direction = .inbound ∧ session.status = .ringing ∧
    AnswersCall calls action session

/-- A remote event takes up a closed session of a user who has another call. -/
def Crowds (calls : CallTable) (action : CallAction) : Prop :=
  ∃ session other, session.status.live = false ∧
    (AnswersCall calls action session ∨ RepeatsInvite calls action session) ∧
    other ∈ calls.sessions ∧ other.localUserId = session.localUserId ∧
    other.status.live = true

/-- A call that rings at the local user becomes active only by accepting it. -/
def TakenByUser (calls : CallTable) (action : CallAction) : Prop :=
  ∀ session ∈ calls.sessions, session.direction = .inbound →
    session.status = .ringing →
    ∀ later ∈ (callStep calls action).sessions, later.id = session.id →
      later.status = .active →
      action.operation = .accept session.id session.localUserId

/-- At most one session of a user is ringing or active. -/
def OneConnected (calls : CallTable) : Prop :=
  ∀ session ∈ calls.sessions, ∀ other ∈ calls.sessions,
    session.localUserId = other.localUserId →
    session.status.connected = true → other.status.connected = true →
    session = other

/-- At most one session of a user is open at all. -/
def OneLive (calls : CallTable) : Prop :=
  ∀ session ∈ calls.sessions, ∀ other ∈ calls.sessions,
    session.localUserId = other.localUserId →
    session.status.live = true → other.status.live = true → session = other

theorem OneLive.oneConnected {calls : CallTable} (one : OneLive calls) :
    OneConnected calls := by
  intro session member other otherMember sameUser connected otherConnected
  exact one session member other otherMember sameUser
    (CallStatus.live_of_connected connected)
    (CallStatus.live_of_connected otherConnected)

theorem takenByUser_of_asked {calls : CallTable} {action : CallAction}
    (asked : ¬ AnswersIncoming calls action) : TakenByUser calls action := by
  intro session member inbound ringing later present sameId active
  rcases later_of_step member present sameId with unchanged | ⟨_, moves⟩
  · rw [unchanged, ringing] at active
    cases active
  · cases moves with
    | rung _ after => cases active.symm.trans after
    | taken own _ _ => exact own
    | closed after =>
        rw [active] at after
        cases after
    | answered remote _ => exact absurd ⟨session, inbound, ringing, remote⟩ asked
    | invited _ after => cases active.symm.trans after

theorem Moves.live_before {calls : CallTable} {action : CallAction}
    {session changed : FederationCallSession}
    (moves : Moves calls action session changed)
    (live : changed.status.live = true) :
    session.status.live = true ∨ session.status.live = false ∧
      (AnswersCall calls action session ∨ RepeatsInvite calls action session) := by
  have either : session.status.live = true ∨ session.status.live = false := by
    cases session.status.live <;> simp
  cases moves with
  | rung before _ => exact .inl (by rw [before]; rfl)
  | taken _ before _ => exact .inl (live_of_unanswered before)
  | closed after =>
      rw [after] at live
      cases live
  | answered remote _ =>
      exact either.imp_right fun terminal => ⟨terminal, .inl remote⟩
  | invited remote _ =>
      exact either.imp_right fun terminal => ⟨terminal, .inr remote⟩

theorem OneLive.changed {calls : CallTable} {action : CallAction}
    {session changed other : FederationCallSession}
    (one : OneLive calls) (uncrowded : ¬ Crowds calls action)
    (member : session ∈ calls.sessions) (sameKey : changed.key = session.key)
    (moves : Moves calls action session changed)
    (otherMember : other ∈ calls.sessions)
    (sameUser : other.localUserId = changed.localUserId)
    (live : changed.status.live = true) (otherLive : other.status.live = true) :
    other.key = changed.key := by
  rw [user_of_key sameKey] at sameUser
  rcases moves.live_before live with before | ⟨terminal, remote⟩
  · rw [one other otherMember session member sameUser otherLive before, sameKey]
  · exact absurd
      ⟨session, other, terminal, remote, otherMember, sameUser, otherLive⟩
      uncrowded

theorem OneLive.step {calls : CallTable} {action : CallAction}
    (one : OneLive calls) (uncrowded : ¬ Crowds calls action) :
    OneLive (callStep calls action) := by
  have effect := callStep_effect calls action
  generalize callStep calls action = after at effect
  rcases effect with
    _ | ⟨old, row, member, sameKey, moves⟩ | ⟨row, unknown, idle⟩
  · exact one
  · intro session present other otherPresent sameUser live otherLive
    rcases mem_replace_iff.mp present with ⟨isRow, _⟩ | ⟨stored, different⟩
    · rcases mem_replace_iff.mp otherPresent with
        ⟨otherRow, _⟩ | ⟨otherStored, different⟩
      · rw [isRow, otherRow]
      · rw [isRow] at sameUser live
        exact absurd (one.changed uncrowded member sameKey moves otherStored
          sameUser.symm live otherLive) different
    · rcases mem_replace_iff.mp otherPresent with
        ⟨otherRow, _⟩ | ⟨otherStored, _⟩
      · rw [otherRow] at sameUser otherLive
        exact absurd (one.changed uncrowded member sameKey moves stored sameUser
          otherLive live) different
      · exact one session stored other otherStored sameUser live otherLive
  · have alone : ∀ other ∈ calls.sessions,
        other.localUserId = row.val.localUserId → row.val.status.live = true →
        other.status.live = true → False := by
      intro other otherMember sameUser live otherLive
      have none := List.any_eq_false.mp (idle live) other otherMember
      exact none (by simp [sameUser, otherLive])
    intro session present other otherPresent sameUser live otherLive
    rcases List.mem_append.mp present with stored | added
    · rcases List.mem_append.mp otherPresent with otherStored | otherAdded
      · exact one session stored other otherStored sameUser live otherLive
      · rw [List.mem_singleton.mp otherAdded] at sameUser otherLive
        exact (alone session stored sameUser otherLive live).elim
    · rcases List.mem_append.mp otherPresent with otherStored | otherAdded
      · rw [List.mem_singleton.mp added] at sameUser live
        exact (alone other otherStored sameUser.symm live otherLive).elim
      · rw [List.mem_singleton.mp added, List.mem_singleton.mp otherAdded]

/-- In every run in which no remote answer takes a ringing incoming call and no
remote event takes up a closed session of a user who has another call, incoming
calls become active only by the user, and a user has at most one call. -/
theorem callConsent_run (actions : List CallAction)
    (along : Along callStep
      (fun calls action => ¬ AnswersIncoming calls action ∧
        ¬ Crowds calls action) CallTable.empty actions) :
    Along callStep TakenByUser CallTable.empty actions ∧
      ∀ front back, actions = front ++ back →
        OneConnected (front.foldl callStep CallTable.empty) := by
  constructor
  · exact along.mono fun _ _ guard => takenByUser_of_asked guard.1
  · intro front back split
    rw [split] at along
    have one : OneLive (front.foldl callStep CallTable.empty) := by
      apply along.prefix_of.invariant
      · intro before action one guard
        exact one.step guard.2
      · intro session member
        cases member
    exact one.oneConnected

def alice : User := ⟨1, "alice"⟩

def aliceNode : VoiceContext where
  localDomain := "local.example"
  getUser id := if id = 1 then some alice else none
  getUser_id id user found := by
    split at found
    · rename_i same
      rw [← Option.some.inj found, same]
      rfl
    · cases found
  getUserByUsername name := if name = "alice" then some alice else none
  verifiedCustomDomain domain := if domain = "alice.dev" then some alice else none
  getConversation _ := none
  dmMembershipActive _ _ := false
  localCallActive _ := false
  preferredDmOriginDomain _ := "alice.dev"
  ensureRemoteDmConversation _ _ := .ok 5
  uuid := "0"
  now := 0

def actorOfAliceDev (username : String) : Json :=
  .obj [("uri", .str ("https://alice.dev/users/" ++ username)),
    ("username", .str username), ("domain", .str "alice.dev"),
    ("handle", .str (username ++ "@alice.dev"))]

def dmOfAliceDev : Json :=
  .obj [("id", .str "https://alice.dev/_arblarg/dms/7"),
    ("sender", actorOfAliceDev "mallory"),
    ("recipient", actorOfAliceDev "alice")]

def callUri (number : String) : String :=
  "https://alice.dev/_arblarg/calls/" ++ number

def malloryInvites (number : String) : CallAction where
  context := aliceNode
  operation := .receive "dm.call.invite"
    (.obj [("dm", dmOfAliceDev),
      ("call", .obj [("id", .str (callUri number)),
        ("dm_id", .str "https://alice.dev/_arblarg/dms/7"),
        ("call_type", .str "audio"), ("actor", actorOfAliceDev "mallory"),
        ("initiated_at", .str "2026-01-01T00:00:00Z")])])
    "alice.dev"

def malloryAccepts (number : String) : CallAction where
  context := aliceNode
  operation := .receive "dm.call.accept"
    (.obj [("dm", dmOfAliceDev), ("call_id", .str (callUri number)),
      ("actor", actorOfAliceDev "mallory"),
      ("accepted_at", .str "2026-01-01T00:00:05Z")])
    "alice.dev"

def aliceRejects (sessionId : Int) : CallAction where
  context := aliceNode
  operation := .reject sessionId alice.id .null

def aliceAccepts (sessionId : Int) : CallAction where
  context := aliceNode
  operation := .accept sessionId alice.id

def callView (session : FederationCallSession) :
    Int × Int × CallDirection × CallStatus :=
  (session.id, session.localUserId, session.direction, session.status)

def callViews (actions : List CallAction) :
    List (Int × Int × CallDirection × CallStatus) :=
  (actions.foldl callStep CallTable.empty).sessions.map callView

theorem sessions_of_callViews {actions : List CallAction}
    {view : Int × Int × CallDirection × CallStatus}
    (viewed : callViews actions = [view]) :
    ∃ session ∈ (actions.foldl callStep CallTable.empty).sessions,
      callView session = view := by
  obtain ⟨session, only, seen⟩ := List.map_eq_singleton_iff.mp viewed
  exact ⟨session, by rw [only]; exact List.mem_singleton_self _, seen⟩

/-- An invitation to a call that was refused makes it ring again. -/
theorem repeatedInvite_reopens :
    ¬ TerminalStays CallTable.empty
      [malloryInvites "1", aliceRejects 1, malloryInvites "1"] := by
  intro stays
  have refused : callViews [malloryInvites "1", aliceRejects 1] =
      [(1, 1, .inbound, .rejected)] := by
    decide
  have again : callViews [malloryInvites "1", aliceRejects 1,
      malloryInvites "1"] = [(1, 1, .inbound, .ringing)] := by
    decide
  obtain ⟨session, member, seen⟩ := sessions_of_callViews refused
  obtain ⟨later, present, seenLater⟩ := sessions_of_callViews again
  simp only [callView, Prod.mk.injEq] at seen seenLater
  have still := stays [malloryInvites "1", aliceRejects 1] [malloryInvites "1"] []
    rfl session member (by rw [seen.2.2.2]; rfl) later present
    (seenLater.1.trans seen.1.symm)
  rw [seenLater.2.2.2] at still
  cases still

theorem callConsent_run_accepted :
    Along callStep TakenByUser CallTable.empty
        [malloryInvites "1", aliceAccepts 1] ∧
      ∀ front back, [malloryInvites "1", aliceAccepts 1] = front ++ back →
        OneConnected (front.foldl callStep CallTable.empty) := by
  apply callConsent_run
  have notReceived : ∀ {eventType data remoteDomain},
      ¬ ReceivesCall (aliceAccepts 1) eventType data remoteDomain := by
    intro eventType data remoteDomain received
    obtain ⟨name, arrives, _⟩ := received
    cases arrives
  apply Along.cons
  · constructor
    · intro incoming
      obtain ⟨session, _, _, answers⟩ := incoming
      obtain ⟨_, member, _⟩ := answersCall_performs answers
      cases member
    · intro crowds
      obtain ⟨_, other, _, _, member, _⟩ := crowds
      cases member
  apply Along.cons
  · constructor
    · intro incoming
      obtain ⟨_, _, _, _, _, _, received, _⟩ := incoming
      exact notReceived received
    · intro crowds
      obtain ⟨_, _, _, answers | repeats, _⟩ := crowds
      · obtain ⟨_, _, _, received, _⟩ := answers
        exact notReceived received
      · obtain ⟨_, _, _, _, _, _, received, _⟩ := repeats
        exact notReceived received
  exact Along.nil _ _ _

/-- The caller can answer the call for the callee, and a repeated invitation
gives the callee a second ringing call. -/
theorem remoteCaller_takes_call :
    ¬ Along callStep TakenByUser CallTable.empty
        [malloryInvites "1", malloryAccepts "1"] ∧
      ¬ OneConnected ([malloryInvites "1", aliceRejects 1, malloryInvites "2",
        malloryInvites "1"].foldl callStep CallTable.empty) := by
  constructor
  · intro along
    have rings : callViews [malloryInvites "1"] =
        [(1, 1, .inbound, .ringing)] := by
      decide
    have taken : callViews [malloryInvites "1", malloryAccepts "1"] =
        [(1, 1, .inbound, .active)] := by
      decide
    obtain ⟨session, member, seen⟩ := sessions_of_callViews rings
    obtain ⟨later, present, seenLater⟩ := sessions_of_callViews taken
    simp only [callView, Prod.mk.injEq] at seen seenLater
    have own := along [malloryInvites "1"] (malloryAccepts "1") [] rfl session
      member seen.2.2.1 seen.2.2.2 later present
      (seenLater.1.trans seen.1.symm) seenLater.2.2.2
    cases own
  · intro one
    have views : callViews [malloryInvites "1", aliceRejects 1,
        malloryInvites "2", malloryInvites "1"] =
        [(1, 1, .inbound, .ringing), (2, 1, .inbound, .ringing)] := by
      decide
    obtain ⟨first, rest, both, seen, others⟩ := List.map_eq_cons_iff.mp views
    obtain ⟨second, only, seenSecond⟩ := List.map_eq_singleton_iff.mp others
    simp only [callView, Prod.mk.injEq] at seen seenSecond
    have same := one first (by rw [both]; exact List.mem_cons_self) second
      (by rw [both, only]; exact List.mem_cons_of_mem _ List.mem_cons_self)
      (seen.2.1.trans seenSecond.2.1.symm) (by rw [seen.2.2.2]; rfl)
      (by rw [seenSecond.2.2.2]; rfl)
    have different := seen.1.symm.trans ((congrArg _ same).trans seenSecond.1)
    cases different

end Elektrine.Messaging.Federation
