import Mathlib.Data.String.Basic
import Mathlib.Logic.Function.Basic
import Elektrine.Data.Enum
import Elektrine.Messaging.Federation.Dispatch

/-!
# Delivery of outbox rows

An outbox row is delivered to each of its target domains.  Processing a row
pushes it, together with other due rows for the same domain, to every domain
that has not taken it yet; the result for each row and domain is recorded on the
row, which has a single counter for all of them.
-/

namespace Elektrine.Messaging.Federation

inductive OutboxStatus where
  | pending
  | delivered
  | failed
  deriving DecidableEq, Repr

structure DeliveryTargets where
  domains : List String
  nonempty : domains ≠ []
  nodup : domains.Nodup
  lower : ∀ domain ∈ domains, downcase domain = domain

/-- A row of `messaging_federation_outbox_events`; it is kept by its id. -/
structure FederationOutboxEvent where
  eventId : String
  eventType : String
  payload : EventEnvelope
  targets : DeliveryTargets
  deliveredDomains : List String
  attemptCount : Nat
  maxAttempts : Nat
  maxAttempts_pos : 0 < maxAttempts
  status : OutboxStatus
  nextRetryAt : DateTime
  lastError : Option String
  dispatchedAt : Option DateTime

inductive DeliveryFailure where
  | unknownPeer
  | remoteStatus (status : String)
  | transport (reason : String)
  deriving DecidableEq, Repr

inductive DeliveryOutcome where
  | success
  | failure (reason : DeliveryFailure)
  deriving DecidableEq, Repr

structure DeliveryAttempt where
  domain : String
  recordedAt : DateTime
  outcome : DeliveryOutcome
  deriving DecidableEq, Repr

def DeliveryAttempt.succeeded (attempt : DeliveryAttempt) : Bool :=
  attempt.outcome == .success

theorem OutboundEvent.nodup_peerDomains (event : OutboundEvent) :
    event.peerDomains.Nodup := by
  unfold OutboundEvent.peerDomains
  cases event.targets with
  | all => exact (nodup_eraseDups _).filter _
  | listed => exact (nodup_eraseDups _).filter _

theorem OutboundEvent.downcase_of_mem_peerDomains {event : OutboundEvent}
    {domain : String} (member : domain ∈ event.peerDomains) :
    downcase domain = domain := by
  unfold OutboundEvent.peerDomains at member
  cases targets : event.targets with
  | all =>
      rw [targets] at member
      obtain ⟨peer, -, rfl⟩ := List.mem_map.mp
        (List.mem_eraseDups.mp (List.mem_of_mem_filter member))
      exact downcase_downcase peer.domain
  | listed domains =>
      rw [targets] at member
      obtain ⟨name, -, rfl⟩ := List.mem_map.mp (List.mem_of_mem_filter
        (List.mem_eraseDups.mp (List.mem_of_mem_filter member)))
      exact downcase_downcase name

def OutboundEvent.deliveryTargets (event : OutboundEvent) :
    Option DeliveryTargets :=
  if someone : event.peerDomains ≠ [] then
    some
      { domains := event.peerDomains
        nonempty := someone
        nodup := event.nodup_peerDomains
        lower := fun _ => OutboundEvent.downcase_of_mem_peerDomains }
  else
    none

structure DeliveryContext where
  outgoingPeer : String → Option Peer
  peerBatchLimit : Peer → Nat
  deliveryBatchSize : Nat
  outboxMaxAttempts : Nat
  outboxBackoffSeconds : Nat → Nat
  inspect : DeliveryFailure → String

def successfulDeliveryStatuses : List String :=
  ["applied", "duplicate", "stale", "recovered_via_stream",
    "recovered_via_snapshot"]

namespace FederationOutboxEvent

def pendingDomains (outbox : FederationOutboxEvent) : List String :=
  outbox.targets.domains.filter fun domain =>
    !outbox.deliveredDomains.contains domain

/-- `Enum.sort(delivered) == Enum.sort(targets)` -/
def sameDomains (delivered targets : List String) : Bool :=
  delivered.insertionSort (· ≤ ·) == targets.insertionSort (· ≤ ·)

def recordOutboxDomainSuccess (now : DateTime) (domain : String)
    (current : FederationOutboxEvent) : FederationOutboxEvent :=
  let deliveredDomains := (current.deliveredDomains ++ [domain]).eraseDups
  let deliveredAll := sameDomains deliveredDomains current.targets.domains
  { current with
    deliveredDomains := deliveredDomains
    attemptCount := current.attemptCount + 1
    nextRetryAt := now.truncate
    lastError := none
    status := if deliveredAll then .delivered else .pending
    dispatchedAt := if deliveredAll then some now.truncate else current.dispatchedAt }

def mergeOutboxError (context : DeliveryContext) (existing : Option String)
    (domain : String) (reason : DeliveryFailure) : String :=
  let latest := domain ++ ": " ++ context.inspect reason
  match existing.bind present with
  | none => latest
  | some prior => prior ++ "; " ++ latest

def recordOutboxDomainFailure (context : DeliveryContext) (now : DateTime)
    (domain : String) (reason : DeliveryFailure)
    (current : FederationOutboxEvent) : FederationOutboxEvent :=
  let attemptCount := current.attemptCount + 1
  { current with
    status := if current.maxAttempts ≤ attemptCount then .failed else .pending
    attemptCount := attemptCount
    nextRetryAt :=
      (now + context.outboxBackoffSeconds attemptCount * DateTime.second).truncate
    lastError := some (mergeOutboxError context current.lastError domain reason) }

def record (context : DeliveryContext) (current : FederationOutboxEvent)
    (attempt : DeliveryAttempt) : FederationOutboxEvent :=
  match attempt.outcome with
  | .success =>
      recordOutboxDomainSuccess attempt.recordedAt attempt.domain current
  | .failure reason =>
      recordOutboxDomainFailure context attempt.recordedAt attempt.domain reason
        current

def markOutboxFullyDelivered (now : DateTime)
    (outbox : FederationOutboxEvent) : FederationOutboxEvent :=
  { outbox with
    status := .delivered
    dispatchedAt := some now.truncate
    deliveredDomains := outbox.targets.domains
    nextRetryAt := now.truncate
    lastError := none }

def due (now : DateTime) (outbox : FederationOutboxEvent) : Bool :=
  outbox.status == .pending &&
    decide (outbox.attemptCount < outbox.maxAttempts) &&
    decide (outbox.nextRetryAt ≤ now)

end FederationOutboxEvent

/-- The outbox rows by their ids, which are handed out in order.  `recorded` is
the history of the results; nothing reads it. -/
structure Outbox where
  count : Nat
  rows : Nat → Option FederationOutboxEvent
  recorded : List (Nat × DeliveryAttempt)

/-- What one processing of a row meets: the time at which each domain has its
turn, the rows that other transactions hold, and the answers of the peers. -/
structure DeliveryTurn where
  startedAt : DateTime
  clock : String → DateTime
  lockedElsewhere : Nat → Bool
  pushEventBatchToPeer :
    Peer → List EventEnvelope → Except DeliveryFailure (List Json)

inductive ProcessResult where
  | notFound
  | alreadyDelivered
  | alreadyFailed
  | notDue
  | delivered
  | failed
  | pendingRetry
  deriving DecidableEq, Repr

namespace Outbox

def empty : Outbox := ⟨0, fun _ => none, []⟩

def validEnvelope (envelope : EventEnvelope) : Bool :=
  (present envelope.eventId).isSome && (present envelope.eventType).isSome &&
    (present envelope.streamId).isSome &&
    decide (0 < parseInt envelope.sequence 0)

def enqueued (envelope : EventEnvelope) (targets : DeliveryTargets)
    (maxAttempts : Nat) (maxAttempts_pos : 0 < maxAttempts) (now : DateTime) :
    FederationOutboxEvent where
  eventId := envelope.eventId
  eventType := envelope.eventType
  payload := envelope
  targets := targets
  deliveredDomains := []
  attemptCount := 0
  maxAttempts := maxAttempts
  maxAttempts_pos := maxAttempts_pos
  status := .pending
  nextRetryAt := now.truncate
  lastError := none
  dispatchedAt := none

def insert (row : FederationOutboxEvent) (outbox : Outbox) : Outbox :=
  { outbox with
    count := outbox.count + 1
    rows := Function.update outbox.rows outbox.count (some row) }

def hasEvent (outbox : Outbox) (eventId : String) : Bool :=
  (List.range outbox.count).any fun id =>
    (outbox.rows id).any fun row => row.eventId == eventId

def enqueueOutboxEvent (context : DeliveryContext) (now : DateTime)
    (event : OutboundEvent) (envelope : EventEnvelope) (outbox : Outbox) :
    Outbox :=
  match event.deliveryTargets with
  | none => outbox
  | some targets =>
      if positive : 0 < context.outboxMaxAttempts then
        if validEnvelope envelope && !outbox.hasEvent envelope.eventId then
          outbox.insert
            (enqueued envelope targets context.outboxMaxAttempts positive now)
        else
          outbox
      else
        outbox

def record (context : DeliveryContext) (outbox : Outbox)
    (entry : Nat × DeliveryAttempt) : Outbox :=
  match outbox.rows entry.1 with
  | some current =>
      { outbox with
        rows := Function.update outbox.rows entry.1
          (some (current.record context entry.2))
        recorded := outbox.recorded ++ [entry] }
  | none => outbox

abbrev BatchRow := Nat × FederationOutboxEvent

def siblings (context : DeliveryContext) (turn : DeliveryTurn) (outbox : Outbox)
    (id : Nat) (domain : String) : List BatchRow :=
  let waiting (row : FederationOutboxEvent) : Bool :=
    row.due (turn.clock domain) && row.targets.domains.contains domain &&
      !row.deliveredDomains.contains domain
  (((List.range outbox.count).filter fun other =>
      other != id && !turn.lockedElsewhere other).filterMap fun other =>
    ((outbox.rows other).filter waiting).map (other, ·)).take
    (context.deliveryBatchSize - 1)

def outboxBatchForDomain (context : DeliveryContext) (turn : DeliveryTurn)
    (outbox : Outbox) (row : BatchRow) (domain : String) : List BatchRow :=
  (row :: siblings context turn outbox row.1 domain).insertionSort
    fun left right => left.1 ≤ right.1

/-- The last result with the event id of the row, or `"missing"`. -/
def resultStatus (results : List Json) (eventId : String) : String :=
  match (results.filter Json.isMap).reverse.find? fun result =>
      (result.get "event_id").asString? == some eventId with
  | some result =>
      (normalizeOptionalString (result.get "status")).getD "missing"
  | none => "missing"

def outcomeOfResult (results : List Json) (row : FederationOutboxEvent) :
    DeliveryOutcome :=
  let status := resultStatus results row.eventId
  if successfulDeliveryStatuses.contains status then .success
  else .failure (.remoteStatus status)

def chunkAttempts (now : DateTime) (domain : String)
    (outcome : FederationOutboxEvent → DeliveryOutcome)
    (rows : List BatchRow) : List (Nat × DeliveryAttempt) :=
  rows.map fun row => (row.1, ⟨domain, now, outcome row.2⟩)

def recordAll (context : DeliveryContext) (outbox : Outbox)
    (entries : List (Nat × DeliveryAttempt)) : Outbox :=
  entries.foldl (record context) outbox

def deliverChunks (context : DeliveryContext) (turn : DeliveryTurn) (peer : Peer)
    (domain : String) : Outbox → List (List BatchRow) → Outbox
  | outbox, [] => outbox
  | outbox, chunk :: rest =>
      let now := turn.clock domain
      match turn.pushEventBatchToPeer peer
          (chunk.map fun row => row.2.payload) with
      | .ok results =>
          let attempts := chunkAttempts now domain (outcomeOfResult results) chunk
          let recorded := recordAll context outbox attempts
          if attempts.all fun entry => entry.2.succeeded then
            deliverChunks context turn peer domain recorded rest
          else
            recorded
      | .error reason =>
          recordAll context outbox
            (chunkAttempts now domain (fun _ => .failure reason) chunk)

def deliverOutboxDomainBatch (context : DeliveryContext) (turn : DeliveryTurn)
    (row : BatchRow) (outbox : Outbox) (domain : String) : Outbox :=
  let normalizedDomain := downcase domain
  let now := turn.clock normalizedDomain
  let batchRows := outboxBatchForDomain context turn outbox row normalizedDomain
  match context.outgoingPeer normalizedDomain with
  | none =>
      recordAll context outbox
        (chunkAttempts now normalizedDomain (fun _ => .failure .unknownPeer)
          batchRows)
  | some peer =>
      let supported := batchRows.filter fun row =>
        peerSupportsEventType peer row.2.eventType
      let unsupported := batchRows.filter fun row =>
        !peerSupportsEventType peer row.2.eventType
      deliverChunks context turn peer normalizedDomain
        (recordAll context outbox
          (chunkAttempts now normalizedDomain (fun _ => .success) unsupported))
        (chunkEvery (context.peerBatchLimit peer) supported)

def processed : Option FederationOutboxEvent → ProcessResult
  | some row =>
      match row.status with
      | .delivered => .delivered
      | .failed => .failed
      | .pending => .pendingRetry
  | none => .notFound

def doProcessOutbox (context : DeliveryContext) (turn : DeliveryTurn)
    (outbox : Outbox) (row : BatchRow) : ProcessResult × Outbox :=
  match row.2.pendingDomains with
  | [] =>
      (.delivered,
        { outbox with
          rows := Function.update outbox.rows row.1
            (some (row.2.markOutboxFullyDelivered turn.startedAt)) })
  | pending =>
      let after :=
        pending.foldl (deliverOutboxDomainBatch context turn row) outbox
      (processed (after.rows row.1), after)

def processOutboxEvent (context : DeliveryContext) (turn : DeliveryTurn)
    (outbox : Outbox) (id : Nat) : ProcessResult × Outbox :=
  match outbox.rows id with
  | none => (.notFound, outbox)
  | some row =>
      match row.status with
      | .delivered => (.alreadyDelivered, outbox)
      | .failed => (.alreadyFailed, outbox)
      | .pending =>
          if turn.startedAt < row.nextRetryAt then
            (.notDue, outbox)
          else
            doProcessOutbox context turn outbox (id, row)

end Outbox

end Elektrine.Messaging.Federation
