import Elektrine.Messaging.Federation.Utils
import Elektrine.Messaging.Federation.Identity

/-!
# Validation of events and snapshots

The checks run in the order of the source and stop at the first failure.  What
the source calls through its context (schema validation, peers, signatures and
limits) is a field of `ValidationContext`.
-/

namespace Elektrine.Messaging.Federation

structure ValidationContext where
  validateEventPayload : String → Json → Except Reason Unit
  incomingPeer : String → Option Json
  incomingVerificationMaterialsForKeyId : Json → String → List Json
  /-- `verify_payload_signature` on the canonical snapshot without signature. -/
  verifySnapshotSignature : Json → Json → String → Bool
  snapshotChannelLimit : Nat
  snapshotMessageLimit : Nat
  snapshotGovernanceLimit : Nat

def ensure (check : Bool) (reason : Reason) : Except Reason Unit :=
  if check then .ok () else .error reason

@[simp] theorem ensure_eq_ok_iff {check : Bool} {reason : Reason} :
    ensure check reason = .ok () ↔ check = true := by
  cases check <;> simp [ensure]

theorem ensure_bind_eq_ok_iff {β : Type} {check : Bool} {reason : Reason}
    {next : Unit → Except Reason β} {result : β} :
    (ensure check reason >>= next) = .ok result ↔
      check = true ∧ next () = .ok result := by
  cases check <;> simp [ensure, Bind.bind, Except.bind]

theorem bind_eq_ok_iff {α β : Type} {outcome : Except Reason α}
    {next : α → Except Reason β} {result : β} :
    (outcome >>= next) = .ok result ↔
      ∃ value, outcome = .ok value ∧ next value = .ok result := by
  cases outcome with
  | error reason => simp [Bind.bind, Except.bind]
  | ok value => simp [Bind.bind, Except.bind]

def validateOriginBoundActorsInEventData (eventType : String) (data : Json)
    (remoteDomain : String) : Except Reason Unit :=
  ensure
    ((originBoundActors (normalizedEventName eventType) data).all fun actor =>
      actorDomainMatchesOrigin actor remoteDomain)
    .originActorDomainMismatch

def validateOriginOwnedIdentifiersInEventData (eventType : String) (data : Json)
    (remoteDomain : String) : Except Reason Unit :=
  ensure
    ((originOwnedEventIdentifiers (normalizedEventName eventType) data).all
      fun identifier => originOwnedAbsoluteUri identifier remoteDomain)
    .originIdentifierHostMismatch

/-- Streams of servers and direct messages belong to the authenticated origin;
a channel stream may be written to by any origin. -/
def validateStreamOrigin (streamId remoteDomain : String) :
    Except Reason Unit :=
  match splitFirst ':' streamId with
  | some ("channel", identifier) =>
      if identifier = "" then .error .invalidStreamId
      else ensure (absoluteHttpUri identifier) .originStreamHostMismatch
  | some ("server", identifier) | some ("dm", identifier) =>
      if identifier = "" then .error .invalidStreamId
      else ensure (originOwnedAbsoluteUri identifier remoteDomain)
        .originStreamHostMismatch
  | _ => .error .invalidStreamId

/-- One entry of `stream_positions`.  The origin is the one the entry names. -/
def validSnapshotStreamPosition (position : Json) (remoteDomain : String) :
    Bool :=
  let originDomain :=
    (normalizeOptionalString (position.get "origin_domain")).getD remoteDomain
  match position.isMap, position.get "stream_id",
      position.get "last_sequence" with
  | true, .str streamId, .int lastSequence =>
      0 ≤ lastSequence &&
        match splitFirst ':' streamId with
        | some ("channel", identifier) =>
            identifier != "" && absoluteHttpUri identifier
        | some ("server", identifier) | some ("dm", identifier) =>
            identifier != "" && originOwnedAbsoluteUri identifier originDomain
        | _ => false
  | _, _, _ => false

def validateSnapshotStreamPositions (streamPositions : List Json)
    (remoteDomain : String) : Except Reason Unit :=
  ensure
    (streamPositions.all fun position =>
      validSnapshotStreamPosition position remoteDomain)
    .invalidSnapshotStreamPositions

/-- A message of a snapshot belongs to its sender's domain, or to the signer of
the snapshot when it names no sender. -/
def snapshotMessageOriginValid (message : Json) (snapshotOriginDomain : String) :
    Bool :=
  match message.isMap, normalizeOptionalString (message.get "id") with
  | true, some messageId =>
      if (message.get "sender").isMap then
        match actorOriginDomain (message.get "sender") with
        | some senderDomain =>
            actorDomainMatchesOrigin (message.get "sender") senderDomain &&
              originOwnedAbsoluteUri messageId senderDomain
        | none => false
      else
        originOwnedAbsoluteUri messageId snapshotOriginDomain
  | _, _ => false

def snapshotActorOriginValid (actor : Json) : Bool :=
  if actor.isNull then
    true
  else if actor.isMap then
    (actorOriginDomain actor).any fun originDomain =>
      actorDomainMatchesOrigin actor originDomain
  else
    false

def validateSnapshotOriginBoundActorsInEventData (eventType : String)
    (data : Json) (remoteDomain : String) : Except Reason Unit :=
  if multiOriginRoomEventType (normalizedEventName eventType) then
    ensure
      ((originBoundActors (normalizedEventName eventType) data).all
        snapshotActorOriginValid)
      .originActorDomainMismatch
  else
    validateOriginBoundActorsInEventData eventType data remoteDomain

def validateSnapshotEventEntry (context : ValidationContext)
    (eventType : String) (payload : Json) (remoteDomain : String) :
    Except Reason Unit := do
  context.validateEventPayload eventType payload
  validateSnapshotOriginBoundActorsInEventData eventType payload remoteDomain
  validateOriginOwnedIdentifiersInEventData eventType payload remoteDomain

def validateEach (validate : Json → Except Reason Unit) :
    List Json → Except Reason Unit
  | [] => .ok ()
  | entry :: rest => do
      validate entry
      validateEach validate rest

theorem validateEach_eq_ok_iff {validate : Json → Except Reason Unit}
    {entries : List Json} :
    validateEach validate entries = .ok () ↔
      ∀ entry ∈ entries, validate entry = .ok () := by
  induction entries with
  | nil => simp [validateEach]
  | cons entry rest ih =>
      simp only [validateEach, bind_eq_ok_iff, ih, List.mem_cons,
        forall_eq_or_imp]
      constructor
      · intro valid
        obtain ⟨⟨⟩, first, others⟩ := valid
        exact ⟨first, others⟩
      · intro valid
        exact ⟨(), valid.1, valid.2⟩

def validateSnapshotEventList (context : ValidationContext)
    (entries : List Json) (eventType remoteDomain : String) (reason : Reason) :
    Except Reason Unit :=
  validateEach
    (fun payload =>
      match payload.isMap,
          validateSnapshotEventEntry context eventType payload remoteDomain with
      | true, .ok () => .ok ()
      | _, _ => .error reason)
    entries

def validateSnapshotExtensions (context : ValidationContext)
    (extensions : List Json) (remoteDomain : String) : Except Reason Unit :=
  validateEach
    (fun entry =>
      match entry.get "event_type", (entry.get "payload").isMap with
      | .str eventType, true =>
          validateSnapshotEventEntry context eventType (entry.get "payload")
            remoteDomain
      | _, _ => .error .invalidPayload)
    extensions

/-- A membership has to be consistent with its own actor; other governance
entries are checked like room events. -/
def validateSnapshotGovernanceActors (eventType : String) (payload : Json)
    (remoteDomain : String) : Except Reason Unit :=
  match eventType with
  | "membership.upsert" =>
      let actor := payload.getIn ["membership", "actor"]
      ensure
        (match actor.isNull, actorOriginDomain actor with
          | true, _ => true
          | false, some originDomain =>
              actorDomainMatchesOrigin actor originDomain
          | false, none => false)
        .originActorDomainMismatch
  | _ =>
      validateSnapshotOriginBoundActorsInEventData eventType payload remoteDomain

def validateSnapshotGovernancePayload (context : ValidationContext)
    (eventType : String) (payload : Json) (remoteDomain : String) :
    Except Reason Unit :=
  if payload.isMap then do
    context.validateEventPayload eventType payload
    validateSnapshotGovernanceActors eventType payload remoteDomain
    validateOriginOwnedIdentifiersInEventData eventType payload remoteDomain
  else
    .error .invalidSnapshotGovernance

end Elektrine.Messaging.Federation
