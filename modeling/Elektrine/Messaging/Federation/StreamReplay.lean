import Elektrine.Messaging.Federation.Dispatch
import Elektrine.Messaging.Federation.Ingress

/-!
# A stream as one peer sees it

The sender numbers the events of a stream before it filters them for a peer, and
the peer's receiver accepts only the next number.  The two fit together exactly
when nothing of the stream is withheld from the peer.
-/

namespace Elektrine.Messaging.Federation

open Elektrine.Library

variable {Projections : Type}

structure OutboundHistory where
  events : List OutboundEvent
  eventIds : (events.map OutboundEvent.eventId).Nodup
  idempotencyKeys : (events.map OutboundEvent.idempotencyKey).Nodup

/-- The events with the sequence numbers they take, beginning at `first`. -/
def numbered : Int → List OutboundEvent → List (Int × OutboundEvent)
  | _, [] => []
  | first, event :: rest => (first, event) :: numbered (first + 1) rest

theorem numbered_length (first : Int) (events : List OutboundEvent) :
    (numbered first events).length = events.length := by
  induction events generalizing first with
  | nil => rfl
  | cons event rest ih => simp [numbered, ih]

theorem map_snd_numbered (first : Int) (events : List OutboundEvent) :
    (numbered first events).map Prod.snd = events := by
  induction events generalizing first with
  | nil => rfl
  | cons event rest ih => simp [numbered, ih]

theorem continues_numbered (last : Int) (events : List OutboundEvent) :
    Continues last ((numbered (last + 1) events).map Prod.fst) := by
  induction events generalizing last with
  | nil => exact .nil _
  | cons event rest ih => exact ⟨rfl, ih (last + 1)⟩

theorem numbered_append (first : Int) (front back : List OutboundEvent) :
    numbered first (front ++ back) =
      numbered first front ++ numbered (first + front.length) back := by
  induction front generalizing first with
  | nil => simp [numbered]
  | cons event rest ih =>
      simp only [numbered, List.cons_append, ih, List.length_cons]
      rw [show first + 1 + (rest.length : Int) =
        first + ((rest.length + 1 : Nat) : Int) by push_cast; omega]

def numberedEnvelope (originDomain streamId : String)
    (entry : Int × OutboundEvent) : EventEnvelope :=
  entry.2.envelope originDomain streamId entry.1

@[simp] theorem numberedEnvelope_sequence (originDomain streamId : String)
    (entry : Int × OutboundEvent) :
    (numberedEnvelope originDomain streamId entry).incomingSequence = entry.1 :=
  rfl

def outboxRow? (originDomain streamId : String)
    (entry : Int × OutboundEvent) : Option OutboxRow :=
  if entry.2.peerDomains.isEmpty then
    none
  else
    some
      { eventType := entry.2.eventType
        sequence := entry.1
        payload := numberedEnvelope originDomain streamId entry
        targetDomains := entry.2.peerDomains }

theorem publish_counted (originDomain streamId : String) (next : Int)
    (outbox : List OutboxRow) (event : OutboundEvent) :
    publish originDomain streamId ⟨some next, outbox⟩ event =
      ⟨some (next + 1),
        outbox ++ (outboxRow? originDomain streamId (next, event)).toList⟩ := by
  by_cases untargeted : event.peerDomains.isEmpty
  · simp [publish, nextOutboundSequence, enqueueOutboxEvent, outboxRow?,
      untargeted]
  · simp [publish, nextOutboundSequence, enqueueOutboxEvent, outboxRow?,
      untargeted, OutboundEvent.envelope, numberedEnvelope]

theorem publish_uncounted (originDomain streamId : String)
    (outbox : List OutboxRow) (event : OutboundEvent) :
    publish originDomain streamId ⟨none, outbox⟩ event =
      publish originDomain streamId ⟨some 1, outbox⟩ event :=
  rfl

theorem outbox_foldl_publish (originDomain streamId : String)
    (events : List OutboundEvent) (first : Int) (outbox : List OutboxRow) :
    (events.foldl (publish originDomain streamId)
        ⟨some first, outbox⟩).outbox =
      outbox ++
        (numbered first events).filterMap (outboxRow? originDomain streamId) := by
  induction events generalizing first outbox with
  | nil => simp [numbered]
  | cons event rest ih =>
      rw [List.foldl_cons, publish_counted, ih, numbered, List.append_assoc]
      cases row : outboxRow? originDomain streamId (first, event) with
      | none => simp [row]
      | some row' => simp [row]

theorem outbox_publishAll (originDomain streamId : String)
    (events : List OutboundEvent) :
    (publishAll originDomain streamId events).outbox =
      (numbered 1 events).filterMap (outboxRow? originDomain streamId) := by
  cases events with
  | nil => rfl
  | cons event rest =>
      rw [publishAll, List.foldl_cons, publish_uncounted, ← List.foldl_cons,
        outbox_foldl_publish, List.nil_append]

theorem visibleStreamEvents_publishAll (originDomain streamId : String)
    (events : List OutboundEvent) (peerDomain : String) (roomVisible : Bool) :
    visibleStreamEvents peerDomain roomVisible
        (publishAll originDomain streamId events) =
      ((numbered 1 events).filter fun entry =>
        entry.2.visibleTo peerDomain roomVisible).map
          (numberedEnvelope originDomain streamId) := by
  rw [visibleStreamEvents, outbox_publishAll]
  induction numbered 1 events with
  | nil => rfl
  | cons entry rest ih =>
      by_cases untargeted : entry.2.peerDomains.isEmpty
      · simpa [outboxRow?, untargeted, OutboundEvent.visibleTo] using ih
      · by_cases seen : replayVisibilityFilter peerDomain roomVisible
            ⟨entry.2.eventType, entry.1,
              numberedEnvelope originDomain streamId entry,
              entry.2.peerDomains⟩
        · have visible : entry.2.visibleTo peerDomain roomVisible = true := by
            simpa [OutboundEvent.visibleTo, untargeted,
              replayVisibilityFilter] using seen
          simpa [outboxRow?, untargeted, seen, visible] using ih
        · have hidden : ¬ entry.2.visibleTo peerDomain roomVisible = true := by
            simpa [OutboundEvent.visibleTo, untargeted,
              replayVisibilityFilter] using seen
          simpa [outboxRow?, untargeted, seen, hidden] using ih

/-- A receiver at position 0 to which nothing stands in the way of the events:
they are valid, unclaimed, and their projections succeed. -/
structure ReceiverReady (context : IngressContext Projections)
    (originDomain streamId : String) (events : List EventEnvelope)
    (database : Database Projections) : Prop where
  position : lastSequence database.streamPositions ⟨originDomain, streamId⟩ = 0
  unclaimed : ∀ event ∈ events,
    ¬ Claimed database.federationEvents event originDomain
  valid : ∀ event ∈ events,
    context.validateEventPayload event originDomain = .ok ()
  projects : ∀ event ∈ events, ∀ before,
    ∃ after, context.Projects event originDomain before after

/-- Every event the peer gets is applied, and its position ends at the last of
them. -/
def GapsClosed (context : IngressContext Projections)
    (originDomain streamId : String) (events : List EventEnvelope)
    (database : Database Projections) : Prop :=
  appliedEvents (receiveEvents context originDomain events database).1 =
      events ∧
    (receiveEvents context originDomain events database).2.streamPositions
        ⟨originDomain, streamId⟩ =
      events.getLast?.map EventEnvelope.incomingSequence

theorem unclaimed_withApplied {database : Database Projections}
    {event other : EventEnvelope} {remoteDomain : String}
    {projections : Projections}
    (unclaimed : ¬ Claimed database.federationEvents other remoteDomain)
    (eventId : other.eventId ≠ event.eventId)
    (idempotencyKey : other.claimedKey ≠ event.claimedKey) :
    ¬ Claimed (database.withApplied event remoteDomain
      projections).federationEvents other remoteDomain := by
  intro claimed
  obtain ⟨stored, member, conflict⟩ := claimed
  rcases List.mem_cons.mp member with added | old
  · subst added
    rcases conflict.2 with sameId | sameKey
    · exact eventId sameId
    · exact idempotencyKey sameKey
  · exact unclaimed ⟨stored, old, conflict⟩

theorem appliedEvents_of_continues
    {context : IngressContext Projections} {originDomain streamId : String}
    {events : List EventEnvelope} {database : Database Projections}
    (onStream : ∀ event ∈ events, event.streamId = streamId)
    (continues : Continues
      (lastSequence database.streamPositions ⟨originDomain, streamId⟩)
      (events.map EventEnvelope.incomingSequence))
    (eventIds : (events.map EventEnvelope.eventId).Nodup)
    (idempotencyKeys : (events.map EventEnvelope.claimedKey).Nodup)
    (unclaimed : ∀ event ∈ events,
      ¬ Claimed database.federationEvents event originDomain)
    (valid : ∀ event ∈ events,
      context.validateEventPayload event originDomain = .ok ())
    (projects : ∀ event ∈ events, ∀ before,
      ∃ after, context.Projects event originDomain before after) :
    appliedEvents (receiveEvents context originDomain events database).1 =
      events := by
  induction events generalizing database with
  | nil => rfl
  | cons event rest ih =>
      obtain ⟨turn, continues⟩ := continues
      obtain ⟨freshId, eventIds⟩ := List.nodup_cons.mp eventIds
      obtain ⟨freshKey, idempotencyKeys⟩ := List.nodup_cons.mp idempotencyKeys
      have stream := onStream event List.mem_cons_self
      obtain ⟨projections, projection⟩ :=
        projects event List.mem_cons_self database.projections
      have applied : (receiveEvent context event originDomain).perform database =
          (.ok .applied, database.withApplied event originDomain projections) :=
        returns_receiveEvent_iff.mpr ⟨valid event List.mem_cons_self,
          .applied (unclaimed event List.mem_cons_self)
            (by rw [turn, Database.positionOf, stream]) projection⟩
      have stored : lastSequence
          (database.withApplied event originDomain projections).streamPositions
          ⟨originDomain, streamId⟩ = event.incomingSequence := by
        subst stream
        simp [lastSequence, Database.withApplied]
      have later : appliedEvents (receiveEvents context originDomain rest
          (database.withApplied event originDomain projections)).1 = rest := ih
        (fun other member => onStream other (List.mem_cons_of_mem _ member))
        (by rw [stored]; exact continues) eventIds idempotencyKeys
        (fun other member => unclaimed_withApplied
          (unclaimed other (List.mem_cons_of_mem _ member))
          (fun same => freshId (same ▸ List.mem_map_of_mem member))
          (fun same => freshKey (same ▸ List.mem_map_of_mem member)))
        (fun other member => valid other (List.mem_cons_of_mem _ member))
        (fun other member => projects other (List.mem_cons_of_mem _ member))
      rw [receiveEvents_cons applied, appliedEvents_cons, later]
      rfl

theorem incomingSequence_numberedEnvelope (originDomain streamId : String)
    (entries : List (Int × OutboundEvent)) :
    (entries.map (numberedEnvelope originDomain streamId)).map
        EventEnvelope.incomingSequence = entries.map Prod.fst := by
  simp [Function.comp_def]

/-- The peer's gaps are closed exactly when every event of the history, not only
the last, is one the peer gets. -/
theorem gapsClosed_iff_allVisible
    (context : IngressContext Projections)
    (originDomain streamId peerDomain : String) (roomVisible : Bool)
    (history : OutboundHistory) (last : OutboundEvent)
    (database : Database Projections)
    (lastEvent : history.events.getLast? = some last)
    (lastVisible : last.visibleTo peerDomain roomVisible = true)
    (ready : ReceiverReady context originDomain streamId
      (visibleStreamEvents peerDomain roomVisible
        (publishAll originDomain streamId history.events)) database) :
    GapsClosed context originDomain streamId
        (visibleStreamEvents peerDomain roomVisible
          (publishAll originDomain streamId history.events)) database ↔
      ∀ event ∈ history.events, event.visibleTo peerDomain roomVisible = true := by
  rw [visibleStreamEvents_publishAll] at ready ⊢
  have onStream : ∀ event ∈ ((numbered 1 history.events).filter fun entry =>
      entry.2.visibleTo peerDomain roomVisible).map
        (numberedEnvelope originDomain streamId),
      event.streamId = streamId := by
    intro event member
    obtain ⟨entry, -, equality⟩ := List.mem_map.mp member
    subst equality
    rfl
  have inOrder := receiveEvents_inOrder context originDomain streamId _ onStream
    database
  constructor
  · intro closed
    obtain ⟨front, split⟩ := List.getLast?_eq_some_iff.mp lastEvent
    have sequences := inOrder.sequences
    rw [closed.1, incomingSequence_numberedEnvelope, ready.position, split,
      numbered_append, List.filter_append, List.map_append] at sequences
    have reached := sequences.final_eq
    simp only [numbered, List.filter_cons, lastVisible, List.filter_nil,
      if_true, List.map_cons, List.map_nil, Continues.final,
      List.getLast?_append, List.getLast?_singleton, Option.some_or,
      Option.getD_some, List.length_append, List.length_map,
      List.length_singleton] at reached
    -- the last number counts the whole history, so no event before it is missing
    have complete : ((numbered 1 front).filter fun entry =>
        entry.2.visibleTo peerDomain roomVisible).length =
          (numbered 1 front).length := by
      rw [numbered_length]
      omega
    have visible := List.length_filter_eq_length_iff.mp complete
    intro event member
    rw [split] at member
    rcases List.mem_append.mp member with earlier | final
    · rw [← map_snd_numbered 1 front] at earlier
      obtain ⟨entry, entryMember, equality⟩ := List.mem_map.mp earlier
      subst equality
      exact visible entry entryMember
    · rw [List.mem_singleton.mp final]
      exact lastVisible
  · intro visible
    have everything : (numbered 1 history.events).filter (fun entry =>
        entry.2.visibleTo peerDomain roomVisible) =
          numbered 1 history.events := by
      apply List.filter_eq_self.mpr
      intro entry member
      apply visible
      rw [← map_snd_numbered 1 history.events]
      exact List.mem_map_of_mem member
    rw [everything] at ready onStream inOrder ⊢
    have applied := appliedEvents_of_continues onStream
      (by
        rw [incomingSequence_numberedEnvelope, ready.position]
        exact continues_numbered 0 history.events)
      (by
        have ids := history.eventIds
        rw [← map_snd_numbered 1 history.events, List.map_map] at ids
        simpa [Function.comp_def, numberedEnvelope, OutboundEvent.envelope]
          using ids)
      (by
        have keys := history.idempotencyKeys
        rw [← map_snd_numbered 1 history.events, List.map_map] at keys
        simpa [Function.comp_def, numberedEnvelope, OutboundEvent.envelope,
          EventEnvelope.claimedKey] using keys)
      ready.unclaimed ready.valid ready.projects
    refine ⟨applied, ?_⟩
    have position := inOrder.position
    rw [applied] at position
    cases reached : ((numbered 1 history.events).map
        (numberedEnvelope originDomain streamId)).getLast? with
    | none =>
        have empty := List.map_eq_nil_iff.mp (List.getLast?_eq_none_iff.mp reached)
        have noEvent : history.events = [] := by
          rw [← map_snd_numbered 1 history.events, empty]
          rfl
        simp [noEvent] at lastEvent
    | some final =>
        rw [reached] at position
        simpa using position

def messagingPeer : Peer where
  domain := "peer.example"
  supportedEventTypes := []
  supportedExtensions := ["urn:arblarg:ext:dm:1"]
  compatibilityClaims := []

def directEvent (eventId eventType : String) : OutboundEvent where
  eventId := eventId
  idempotencyKey := eventId
  eventType := eventType
  payload := .obj []
  targets := .listed ["peer.example"]
  outgoingPeers := [messagingPeer]
  room := none

def callThenMessage : OutboundHistory where
  events := [directEvent "e1" ArblargSDK.voiceDmCallInviteEventType,
    directEvent "e2" ArblargSDK.dmMessageCreateEventType]
  eventIds := by decide
  idempotencyKeys := by decide

def twoMessages : OutboundHistory where
  events := [directEvent "e1" ArblargSDK.dmMessageCreateEventType,
    directEvent "e2" ArblargSDK.dmMessageCreateEventType]
  eventIds := by decide
  idempotencyKeys := by decide

def directStream : String := "dm:https://home.example/_arblarg/dms/3"

def receivedOf (history : OutboundHistory) : List EventEnvelope :=
  visibleStreamEvents "peer.example" false
    (publishAll "home.example" directStream history.events)

theorem countingReceiver_ready (events : List EventEnvelope) :
    ReceiverReady countingContext "home.example" directStream events
      emptyDatabase where
  position := rfl
  unclaimed event _ claimed := by
    obtain ⟨stored, member, -⟩ := claimed
    cases member
  valid _ _ := rfl
  projects _ _ before := ⟨before + 1, rfl⟩

theorem gapsClosed_twoMessages :
    GapsClosed countingContext "home.example" directStream
      (receivedOf twoMessages) emptyDatabase :=
  (gapsClosed_iff_allVisible countingContext "home.example" directStream
    "peer.example" false twoMessages
    (directEvent "e2" ArblargSDK.dmMessageCreateEventType) emptyDatabase rfl
    (by decide) (countingReceiver_ready _)).mpr (by decide)

/-- The call invitation takes sequence 1 and is not sent, so the message with
sequence 2 is refused although the peer may see it. -/
theorem not_gapsClosed_callThenMessage :
    ReceiverReady countingContext "home.example" directStream
        (receivedOf callThenMessage) emptyDatabase ∧
      (receivedOf callThenMessage).map EventEnvelope.eventId = ["e2"] ∧
      ¬ GapsClosed countingContext "home.example" directStream
        (receivedOf callThenMessage) emptyDatabase := by
  refine ⟨countingReceiver_ready _, by decide, ?_⟩
  intro closed
  have sameIds := congrArg (List.map EventEnvelope.eventId) closed.1
  have noneApplied : (appliedEvents (receiveEvents countingContext "home.example"
      (receivedOf callThenMessage) emptyDatabase).1).map EventEnvelope.eventId =
        [] := by
    decide
  have oneReceived : (receivedOf callThenMessage).map EventEnvelope.eventId =
      ["e2"] := by
    decide
  rw [noneApplied, oneReceived] at sameIds
  cases sameIds

end Elektrine.Messaging.Federation
