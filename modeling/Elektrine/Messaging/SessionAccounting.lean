import Mathlib.Data.List.Perm.Basic
import Elektrine.Library.Runs
import Elektrine.Messaging.FederationSessionClient

/-!
# The accounts of a session

The counters of a session are those of its pending deliveries in every state.
Its limits are kept as long as no hello frame lowers them below what is in
flight, and every caller gets exactly one reply as long as no session ends with
a queue, or with frames in its buffer that have already answered someone.
-/

namespace Elektrine.Messaging

open Elektrine.Library

theorem perm_of_lookup {α : Type} {key : String} {value : α}
    {entries : List (String × α)} (found : entries.lookup key = some value) :
    entries.Perm
      ((key, value) :: entries.eraseP fun entry => entry.1 == key) := by
  induction entries with
  | nil => cases found
  | cons entry entries ih =>
      obtain ⟨name, content⟩ := entry
      by_cases same : key = name
      · subst same
        simp only [List.lookup_cons, beq_self_eq_true, Option.some.injEq] at found
        rw [List.eraseP_cons_of_pos (by simp), found]
      · have other : (key == name) = false := beq_false_of_ne same
        rw [List.lookup_cons, other] at found
        rw [List.eraseP_cons_of_neg (by simpa using Ne.symm same)]
        exact ((ih found).cons _).trans (.swap _ _ _)

theorem eraseP_of_lookup_eq_none {α : Type} {key : String}
    {entries : List (String × α)} (missing : key ∉ entries.map Prod.fst) :
    entries.eraseP (fun entry => entry.1 == key) = entries := by
  apply List.eraseP_of_forall_not
  intro entry member same
  exact missing (List.mem_map.mpr ⟨entry, member, by simpa using same⟩)

namespace Session

def waiting (session : Session) : List Caller :=
  session.pendingRequests.map Prod.snd ++
    session.pendingDeliveries.map (fun entry => entry.2.caller) ++
    session.queuedDeliveries.map QueuedDelivery.caller

def pendingStreams (session : Session) : List String :=
  session.pendingDeliveries.filterMap fun entry => entry.2.streamKey

def pendingEvents (session : Session) : Nat :=
  session.pendingDeliveries.foldr (fun entry events => entry.2.eventCount + events) 0

structure Counted (session : Session) : Prop where
  batches : session.inflightBatches = session.pendingDeliveries.length
  events : session.inflightEvents = session.pendingEvents
  streams : session.inflightStreams = session.pendingStreams.toFinset
  distinct : session.pendingStreams.Nodup

structure Within (session : Session) : Prop where
  batches : session.inflightBatches ≤ session.maxInflightBatches
  events : session.inflightEvents ≤ session.maxInflightEvents
  positiveBatches : 1 ≤ session.maxInflightBatches
  positiveEvents : 1 ≤ session.maxInflightEvents

end Session

open Session SessionWorld

/-- Identifiers in use have been generated, and every caller is either in hand,
waiting or answered, and only once. -/
structure Settled (env : SessionEnvironment) (session : Session)
    (world : SessionWorld) (hand : List Caller) : Prop where
  counted : session.Counted
  requestIds : ∀ key ∈ session.pendingRequests.map Prod.fst,
    ∃ number < world.generated, key = env.uuid number
  deliveryIds : ∀ key ∈ session.pendingDeliveries.map Prod.fst,
    ∃ number < world.generated, key = env.uuid number
  callers : (world.replies.map Prod.fst ++ session.waiting ++ hand).Perm
    (List.range world.submitted)

structure Quiet (before after : SessionWorld) : Prop where
  submitted : after.submitted = before.submitted
  replies : after.replies = before.replies
  generated : before.generated ≤ after.generated

variable {env : SessionEnvironment} {session after : Session}
  {world later : SessionWorld} {hand : List Caller}

theorem Quiet.refl (world : SessionWorld) : Quiet world world :=
  ⟨rfl, rfl, le_rfl⟩

theorem Quiet.trans {first second third : SessionWorld}
    (left : Quiet first second) (right : Quiet second third) :
    Quiet first third :=
  ⟨right.submitted.trans left.submitted, right.replies.trans left.replies,
    left.generated.trans right.generated⟩

theorem quiet_nextId : Quiet world world.nextId :=
  ⟨rfl, rfl, Nat.le_succ _⟩

theorem quiet_socketSend {frame : WireFrame} :
    Quiet world (world.socketSend env frame).1 := by
  unfold socketSend
  split <;> exact ⟨rfl, rfl, le_rfl⟩

namespace Settled

theorem quiet (settled : Settled env session world hand)
    (quietly : Quiet world later) : Settled env session later hand where
  counted := settled.counted
  requestIds key member := by
    obtain ⟨number, used, same⟩ := settled.requestIds key member
    exact ⟨number, used.trans_le quietly.generated, same⟩
  deliveryIds key member := by
    obtain ⟨number, used, same⟩ := settled.deliveryIds key member
    exact ⟨number, used.trans_le quietly.generated, same⟩
  callers := by
    rw [quietly.replies, quietly.submitted]
    exact settled.callers

theorem fresh_delivery (settled : Settled env session world hand) :
    env.uuid world.generated ∉ session.pendingDeliveries.map Prod.fst := by
  intro used
  obtain ⟨number, below, same⟩ := settled.deliveryIds _ used
  exact absurd (env.uuid_injective same) below.ne'

theorem fresh_request (settled : Settled env session world hand) :
    env.uuid world.generated ∉ session.pendingRequests.map Prod.fst := by
  intro used
  obtain ⟨number, below, same⟩ := settled.requestIds _ used
  exact absurd (env.uuid_injective same) below.ne'

end Settled

/-- A delivery is a map and the socket takes it. -/
def Deliverable (env : SessionEnvironment) (world : SessionWorld)
    (delivery : QueuedDelivery) : Prop :=
  delivery.payload.isMap = true ∧ env.refusal world.writes = none

def sentSession (session : Session) (id : String) (delivery : QueuedDelivery) :
    Session :=
  (session.putPendingDelivery id
    ⟨delivery.caller, delivery.eventCount, delivery.streamKey⟩).incrementInflight
      delivery.eventCount delivery.streamKey

def sentWorld (env : SessionEnvironment) (world : SessionWorld)
    (delivery : QueuedDelivery) (payload : Json) : SessionWorld :=
  { world.nextId with
    writes := world.writes + 1
    wire := world.wire ++
      [.delivery delivery.caller delivery.streamKey (env.uuid world.generated)
        delivery.operation payload] }

theorem quiet_sentWorld {delivery : QueuedDelivery} {payload : Json} :
    Quiet world.nextId (sentWorld env world delivery payload) :=
  ⟨rfl, rfl, le_rfl⟩

theorem sendDeliveryNow_cases (env : SessionEnvironment) (session : Session)
    (delivery : QueuedDelivery) (world : SessionWorld) :
    (Deliverable env world delivery ∧ ∃ payload,
      sendDeliveryNow env session delivery world =
        (sentWorld env world delivery payload,
          .ok (sentSession session (env.uuid world.generated) delivery))) ∨
      (¬ Deliverable env world delivery ∧ ∃ reason later,
        sendDeliveryNow env session delivery world = (later, .error reason) ∧
          Quiet world later ∧ later.wire = world.wire) := by
  unfold sendDeliveryNow normalizeDeliveryPayload
  by_cases map : delivery.payload.isMap = true
  · cases refused : env.refusal world.writes with
    | none =>
        left
        refine ⟨⟨map, refused⟩, ?_⟩
        have taken : env.refusal world.nextId.writes = none := refused
        split_ifs <;> exact ⟨_, by simp only [socketSend, taken]; rfl⟩
    | some reason =>
        right
        refine ⟨fun deliverable => ?_, reason,
          { world.nextId with writes := world.writes + 1 }, ?_,
          ⟨rfl, rfl, Nat.le_succ _⟩, rfl⟩
        · rw [deliverable.2] at refused
          cases refused
        · have refused' : env.refusal world.nextId.writes = some reason := refused
          split_ifs <;> simp only [socketSend, refused'] <;> rfl
  · right
    refine ⟨fun deliverable => map deliverable.1, .invalidPayload, world.nextId, ?_,
      quiet_nextId, rfl⟩
    simp [map]

theorem canSendDelivery_iff {eventCount : Nat} {streamKey : Option String} :
    session.canSendDelivery eventCount streamKey = true ↔
      session.inflightBatches < max session.maxInflightBatches 1 ∧
        session.inflightEvents + eventCount ≤ max session.maxInflightEvents 1 ∧
        ∀ key, streamKey = some key → key ∉ session.inflightStreams := by
  unfold canSendDelivery deliveryStreamAvailable
  cases streamKey <;> simp [and_assoc]

section Sent

variable {delivery : QueuedDelivery} {id : String}
  (fresh : id ∉ session.pendingDeliveries.map Prod.fst)

include fresh

theorem pendingDeliveries_sentSession :
    (sentSession session id delivery).pendingDeliveries =
      (id, ⟨delivery.caller, delivery.eventCount, delivery.streamKey⟩) ::
        session.pendingDeliveries :=
  congrArg (List.cons _) (eraseP_of_lookup_eq_none fresh)

theorem pendingStreams_sentSession :
    (sentSession session id delivery).pendingStreams =
      delivery.streamKey.toList ++ session.pendingStreams := by
  rw [pendingStreams, pendingDeliveries_sentSession fresh, List.filterMap_cons]
  cases delivery.streamKey <;> rfl

theorem counted_sentSession (counted : session.Counted)
    (available : ∀ key, delivery.streamKey = some key →
      key ∉ session.inflightStreams) :
    (sentSession session id delivery).Counted where
  batches := by
    rw [pendingDeliveries_sentSession fresh]
    exact congrArg (· + 1) counted.batches
  events := by
    rw [pendingEvents, pendingDeliveries_sentSession fresh, List.foldr_cons]
    change session.inflightEvents + delivery.eventCount =
      delivery.eventCount + session.pendingEvents
    rw [counted.events, Nat.add_comm]
  streams := by
    rw [pendingStreams_sentSession fresh, List.toFinset_append, ← counted.streams]
    change session.inflightStreams ∪ delivery.streamKey.toFinset = _
    rw [Finset.union_comm]
    cases delivery.streamKey <;> rfl
  distinct := by
    rw [pendingStreams_sentSession fresh]
    cases key : delivery.streamKey with
    | none => exact counted.distinct
    | some stream =>
        refine List.nodup_cons.mpr ⟨?_, counted.distinct⟩
        intro pending
        apply available stream key
        rw [counted.streams]
        exact List.mem_toFinset.mpr pending

theorem waiting_sentSession :
    (sentSession session id delivery).waiting.Perm
      (delivery.caller :: session.waiting) := by
  rw [waiting, pendingDeliveries_sentSession fresh, List.map_cons,
    List.append_assoc, List.cons_append]
  refine List.perm_middle.trans (.cons _ ?_)
  rw [← List.append_assoc]
  exact .refl _

end Sent

theorem within_sentSession {delivery : QueuedDelivery} {id : String}
    (within : session.Within)
    (sendable : session.canSendDelivery delivery.eventCount
      delivery.streamKey = true) :
    (sentSession session id delivery).Within := by
  obtain ⟨batches, events, -⟩ := canSendDelivery_iff.mp sendable
  rw [max_eq_left within.positiveBatches] at batches
  rw [max_eq_left within.positiveEvents] at events
  exact ⟨batches, events, within.positiveBatches, within.positiveEvents⟩

theorem Settled.sent {delivery : QueuedDelivery}
    (settled : Settled env session world (delivery.caller :: hand))
    (sendable : session.canSendDelivery delivery.eventCount
      delivery.streamKey = true)
    (quietly : Quiet world.nextId later) :
    Settled env (sentSession session (env.uuid world.generated) delivery) later
      hand where
  counted := counted_sentSession settled.fresh_delivery settled.counted
    (canSendDelivery_iff.mp sendable).2.2
  requestIds key member := by
    obtain ⟨number, used, same⟩ := settled.requestIds key member
    exact ⟨number, (used.trans (Nat.lt_succ_self _)).trans_le quietly.generated,
      same⟩
  deliveryIds key member := by
    rw [pendingDeliveries_sentSession settled.fresh_delivery] at member
    rcases List.mem_cons.mp member with new | old
    · exact ⟨world.generated, quietly.generated, new⟩
    · obtain ⟨number, used, same⟩ := settled.deliveryIds key old
      exact ⟨number, (used.trans (Nat.lt_succ_self _)).trans_le
        quietly.generated, same⟩
  callers := by
    rw [quietly.replies, quietly.submitted]
    refine .trans ?_ settled.callers
    rw [List.append_assoc, List.append_assoc]
    refine List.Perm.append_left _ ?_
    refine ((waiting_sentSession settled.fresh_delivery).append_right _).trans ?_
    exact List.perm_middle.symm

theorem Settled.dequeue {queued : QueuedDelivery} {rest : List QueuedDelivery}
    (settled : Settled env session world hand)
    (queue : session.queuedDeliveries = queued :: rest) :
    Settled env { session with queuedDeliveries := rest } world
      (queued.caller :: hand) where
  counted := ⟨settled.counted.batches, settled.counted.events,
    settled.counted.streams, settled.counted.distinct⟩
  requestIds := settled.requestIds
  deliveryIds := settled.deliveryIds
  callers := by
    refine .trans ?_ settled.callers
    rw [List.append_assoc, List.append_assoc]
    refine List.Perm.append_left _ ?_
    simp only [waiting, queue, List.map_cons, List.append_assoc, List.cons_append]
    exact ((List.perm_middle.append_left _).append_left _)

theorem Settled.enqueue {delivery : QueuedDelivery}
    (settled : Settled env session world (delivery.caller :: hand)) :
    Settled env
      { session with
        queuedDeliveries := session.queuedDeliveries ++ [delivery] } world
      hand where
  counted := ⟨settled.counted.batches, settled.counted.events,
    settled.counted.streams, settled.counted.distinct⟩
  requestIds := settled.requestIds
  deliveryIds := settled.deliveryIds
  callers := by
    refine .trans ?_ settled.callers
    rw [List.append_assoc, List.append_assoc]
    refine List.Perm.append_left _ ?_
    simp [waiting]

structure Shrinks (session after : Session) : Prop where
  connected : after.connected = session.connected
  queue : after.queuedDeliveries <:+ session.queuedDeliveries

theorem Shrinks.refl (session : Session) : Shrinks session session :=
  ⟨rfl, List.suffix_rfl⟩

theorem Shrinks.trans {middle : Session} (first : Shrinks session middle)
    (second : Shrinks middle after) : Shrinks session after :=
  ⟨second.connected.trans first.connected, second.queue.trans first.queue⟩

theorem shrinks_drainQueue {queue : List QueuedDelivery}
    (same : session.queuedDeliveries = queue)
    (drained : drainQueue env queue session world = (later, .ok after)) :
    Shrinks session after := by
  induction queue generalizing session world with
  | nil =>
      cases drained
      exact .refl _
  | cons queued rest ih =>
      have dequeued : Shrinks session { session with queuedDeliveries := rest } :=
        ⟨rfl, same ▸ List.suffix_cons queued rest⟩
      rw [drainQueue] at drained
      split_ifs at drained
      · rcases sendDeliveryNow_cases env { session with queuedDeliveries := rest }
            queued world with
          ⟨-, payload, sent⟩ | ⟨-, reason, last, refused, -⟩
        · rw [sent] at drained
          have sending : Shrinks session
              (sentSession { session with queuedDeliveries := rest }
                (env.uuid world.generated) queued) := ⟨rfl, dequeued.queue⟩
          exact sending.trans (ih rfl drained)
        · rw [refused] at drained
          cases drained
      · cases drained
        exact .refl _

theorem shrinks_maybeDrainAfterAck (env : SessionEnvironment) (session : Session)
    (world : SessionWorld) :
    Shrinks session (maybeDrainAfterAck env session world).2 := by
  unfold maybeDrainAfterAck
  rcases drained : drainDeliveryQueue env session world with ⟨later, reason | after⟩
  · exact .refl session
  · exact shrinks_drainQueue rfl drained

theorem shrinks_fulfillPendingRequest (session : Session) (id : String)
    (answer : SessionReply) (world : SessionWorld) :
    Shrinks session (session.fulfillPendingRequest id answer world).2 := by
  unfold Session.fulfillPendingRequest popKey
  cases session.pendingRequests.lookup id <;> exact ⟨rfl, List.suffix_rfl⟩

theorem shrinks_fulfillPendingDelivery (session : Session) (id : String)
    (answer : SessionReply) (world : SessionWorld) :
    Shrinks session (session.fulfillPendingDelivery id answer world).2 := by
  unfold Session.fulfillPendingDelivery popKey
  cases session.pendingDeliveries.lookup id <;> exact ⟨rfl, List.suffix_rfl⟩

theorem shrinks_routeFrame {frame : ServerFrame}
    (routed : session.routeFrame env frame world = (later, .ok after)) :
    Shrinks session after := by
  cases frame with
  | ping payload =>
      simp only [routeFrame] at routed
      split at routed <;> cases routed
      exact .refl _
  | pong =>
      cases routed
      exact .refl session
  | close => cases routed
  | invalid => cases routed
  | message payload =>
      rw [routeFrame, routePayload] at routed
      cases read : readMessage env payload with
      | hello =>
          simp only [read] at routed
          cases greeted : session.applyHelloFrame payload with
          | none => simp [greeted] at routed
          | some greeting =>
              obtain ⟨flowControl, -, rfl⟩ := Option.map_eq_some_iff.mp greeted
              rw [greeted] at routed
              cases routed
              exact ⟨rfl, List.suffix_rfl⟩
      | response id answer =>
          simp only [read] at routed
          cases routed
          exact shrinks_fulfillPendingRequest session id answer world
      | ack id answer =>
          simp only [read] at routed
          cases routed
          exact (shrinks_fulfillPendingDelivery session id answer world).trans
            (shrinks_maybeDrainAfterAck env _ _)
      | other =>
          simp only [read] at routed
          cases routed
          exact .refl session

theorem shrinks_processBuffer {frames : List ServerFrame}
    (routed : processBuffer env frames session world = (later, .ok after)) :
    Shrinks session after := by
  induction frames generalizing session world with
  | nil =>
      cases routed
      exact .refl _
  | cons frame rest ih =>
      rw [processBuffer] at routed
      rcases result : session.routeFrame env frame world with ⟨last, stop | middle⟩
      · rw [result] at routed
        cases routed
      · rw [result] at routed
        exact (shrinks_routeFrame result).trans (ih routed)

structure Drained (env : SessionEnvironment) (session after : Session)
    (world later : SessionWorld) (hand : List Caller) : Prop where
  settled : Settled env after later hand
  quiet : Quiet world later
  within : session.Within → after.Within

theorem drainQueue_spec (queue : List QueuedDelivery)
    (settled : Settled env session world hand)
    (same : session.queuedDeliveries = queue) :
    match drainQueue env queue session world with
    | (later, .ok after) => Drained env session after world later hand
    | (later, .error _) => Quiet world later := by
  induction queue generalizing session world with
  | nil => exact ⟨settled, .refl world, id⟩
  | cons queued rest ih =>
      rw [drainQueue]
      by_cases sendable : session.canSendDelivery queued.eventCount
          queued.streamKey = true
      · rw [if_pos sendable]
        have inHand := settled.dequeue same
        rcases sendDeliveryNow_cases env { session with queuedDeliveries := rest }
            queued world with
          ⟨-, payload, sent⟩ | ⟨-, reason, later, refused, quietly, -⟩
        · rw [sent]
          have sentQuietly : Quiet world.nextId
              (sentWorld env world queued payload) := quiet_sentWorld
          have drained := ih (inHand.sent sendable sentQuietly) rfl
          change match drainQueue env rest _ _ with
            | (later, .ok after) => Drained env session after world later hand
            | (later, .error _) => Quiet world later
          rcases result : drainQueue env rest _ _ with ⟨later, reason | after⟩
          · rw [result] at drained
            have quietly : Quiet (sentWorld env world queued payload) later :=
              drained
            exact (quiet_nextId.trans quiet_sentWorld).trans quietly
          · rw [result] at drained
            obtain ⟨settledAfter, quietly, within⟩ := drained
            refine ⟨settledAfter,
              (quiet_nextId.trans quiet_sentWorld).trans quietly, ?_⟩
            intro before
            have dequeued :
                ({ session with queuedDeliveries := rest } : Session).Within :=
              ⟨before.batches, before.events, before.positiveBatches,
                before.positiveEvents⟩
            exact within (within_sentSession dequeued sendable)
        · rw [refused]
          exact quietly
      · rw [if_neg sendable]
        exact ⟨settled, .refl world, id⟩

theorem Settled.fulfillPendingRequest {id : String} {answer : SessionReply}
    (settled : Settled env session world hand) :
    Settled env (session.fulfillPendingRequest id answer world).2
      (session.fulfillPendingRequest id answer world).1 hand := by
  unfold Session.fulfillPendingRequest popKey
  cases found : session.pendingRequests.lookup id with
  | none => exact settled
  | some caller =>
      have moved := perm_of_lookup found
      refine ⟨⟨settled.counted.batches, settled.counted.events,
        settled.counted.streams, settled.counted.distinct⟩, ?_,
        settled.deliveryIds, ?_⟩
      · intro key member
        apply settled.requestIds
        exact ((List.eraseP_sublist).map _).subset member
      · refine .trans ?_ settled.callers
        simp only [reply, waiting, List.map_append, List.append_assoc]
        refine List.Perm.append_left _ ?_
        have callers := (moved.map Prod.snd).append_right
          (session.pendingDeliveries.map (fun entry => entry.2.caller) ++
            (session.queuedDeliveries.map QueuedDelivery.caller ++ hand))
        exact callers.symm

section Removed

variable {id : String} {delivery : PendingDelivery}

def removedSession (session : Session) (id : String)
    (delivery : PendingDelivery) : Session :=
  ({ session with
    pendingDeliveries :=
      session.pendingDeliveries.eraseP fun entry => entry.1 == id } :
        Session).decrementInflight delivery.eventCount delivery.streamKey

theorem counted_removedSession (counted : session.Counted)
    (found : session.pendingDeliveries.lookup id = some delivery) :
    (removedSession session id delivery).Counted := by
  have moved := perm_of_lookup found
  have streams : session.pendingStreams.Perm
      (delivery.streamKey.toList ++
        (removedSession session id delivery).pendingStreams) := by
    refine (moved.filterMap _).trans ?_
    rw [List.filterMap_cons]
    cases delivery.streamKey <;> exact .refl _
  have distinct := streams.nodup_iff.mp counted.distinct
  refine ⟨?_, ?_, ?_, distinct.of_append_right⟩
  · have length := moved.length_eq
    rw [← counted.batches, List.length_cons] at length
    change session.inflightBatches - 1 = _
    rw [length]
    rfl
  · have events : session.pendingEvents =
        delivery.eventCount +
          (removedSession session id delivery).pendingEvents := by
      apply moved.foldr_eq'
      intro first _ second _ total
      exact Nat.add_left_comm _ _ _
    change session.inflightEvents - delivery.eventCount = _
    rw [counted.events, events]
    exact Nat.add_sub_cancel_left _ _
  · change session.inflightStreams \ delivery.streamKey.toFinset = _
    rw [counted.streams, List.toFinset_eq_of_perm _ _ streams]
    cases key : delivery.streamKey with
    | none => simp
    | some stream =>
        rw [key] at distinct
        have absent : stream ∉
            (removedSession session id delivery).pendingStreams :=
          (List.nodup_cons.mp distinct).1
        simp [Finset.insert_sdiff_of_mem, absent]

end Removed

theorem Settled.fulfillPendingDelivery {id : String} {answer : SessionReply}
    (settled : Settled env session world hand) :
    Settled env (session.fulfillPendingDelivery id answer world).2
      (session.fulfillPendingDelivery id answer world).1 hand := by
  unfold Session.fulfillPendingDelivery popKey
  cases found : session.pendingDeliveries.lookup id with
  | none => exact settled
  | some delivery =>
      have moved := perm_of_lookup found
      refine ⟨counted_removedSession settled.counted found, settled.requestIds,
        ?_, ?_⟩
      · intro key member
        apply settled.deliveryIds
        exact ((List.eraseP_sublist).map _).subset member
      · refine .trans ?_ settled.callers
        simp only [reply, waiting, decrementInflight, List.map_append,
          List.append_assoc]
        refine List.Perm.append_left _ ?_
        have callers := (moved.map fun entry => entry.2.caller).append_right
          (session.queuedDeliveries.map QueuedDelivery.caller ++ hand)
        refine .trans ?_ (callers.symm.append_left _)
        rw [List.map_cons, List.map_cons, List.map_nil, List.singleton_append,
          List.cons_append]
        exact List.perm_middle.symm

namespace Session

def pendingCallers (session : Session) : List Caller :=
  session.pendingRequests.map Prod.snd ++
    session.pendingDeliveries.map fun entry => entry.2.caller

theorem waiting_eq (session : Session) :
    session.waiting =
      session.pendingCallers ++ session.queuedDeliveries.map QueuedDelivery.caller :=
  rfl

/-- Whoever still waits now was pending at the start. -/
def LosesNobody (start session : Session) : Prop :=
  session.waiting.Perm start.pendingCallers

end Session

/-- Every caller has been answered once, but for the given ones. -/
def Owes (world : SessionWorld) (callers : List Caller) : Prop :=
  (world.replies.map Prod.fst ++ callers).Perm (List.range world.submitted)

theorem Settled.owes (settled : Settled env session world hand) :
    Owes world (session.waiting ++ hand) := by
  rw [Owes, ← List.append_assoc]
  exact settled.callers

theorem Owes.quiet {callers : List Caller} (owes : Owes world callers)
    (quietly : Quiet world later) : Owes later callers := by
  rw [Owes, quietly.replies, quietly.submitted]
  exact owes

theorem Owes.perm {callers others : List Caller} (owes : Owes world callers)
    (same : callers.Perm others) : Owes world others :=
  (same.symm.append_left _).trans owes

def FrameFails (env : SessionEnvironment) (world : SessionWorld) :
    ServerFrame → Prop
  | .ping _ => env.refusal world.writes ≠ none
  | .close => True
  | .invalid => True
  | .pong => False
  | .message _ => False

/-- A hello frame can be read, unless nobody would notice, and its limits leave
room for what is in flight. -/
def HelloMeets (env : SessionEnvironment) (hand : List Caller)
    (session : Session) : ServerFrame → Prop
  | .message payload =>
      readMessage env payload = .hello →
        match session.applyHelloFrame payload with
        | none => session.waiting = [] ∧ hand = []
        | some greeted => greeted.Within
  | _ => True

theorem waiting_fulfillPendingRequest_subset (session : Session) (id : String)
    (answer : SessionReply) (world : SessionWorld) :
    (session.fulfillPendingRequest id answer world).2.waiting ⊆
      session.waiting := by
  unfold Session.fulfillPendingRequest popKey
  cases session.pendingRequests.lookup id with
  | none => exact List.Subset.refl _
  | some caller =>
      apply List.Sublist.subset
      exact (((List.eraseP_sublist).map _).append_right _).append_right _

theorem waiting_fulfillPendingDelivery_subset (session : Session) (id : String)
    (answer : SessionReply) (world : SessionWorld) :
    (session.fulfillPendingDelivery id answer world).2.waiting ⊆
      session.waiting := by
  unfold Session.fulfillPendingDelivery popKey
  cases session.pendingDeliveries.lookup id with
  | none => exact List.Subset.refl _
  | some delivery =>
      apply List.Sublist.subset
      exact (((List.eraseP_sublist).map _).append_left _).append_right _

theorem Drained.waiting_subset (drained : Drained env session after world later hand)
    (settled : Settled env session world hand) :
    after.waiting ⊆ session.waiting := by
  have same := drained.settled.callers.trans
    (drained.quiet.submitted ▸ settled.callers.symm)
  rw [drained.quiet.replies, List.append_assoc, List.append_assoc,
    List.perm_append_left_iff, List.perm_append_right_iff] at same
  exact same.subset

structure Routed (env : SessionEnvironment) (session after : Session)
    (later : SessionWorld) (hand : List Caller) : Prop where
  settled : Settled env after later hand
  within : after.Within
  waiting : after.waiting ⊆ session.waiting

theorem Routed.trans {middle : Session} {between : SessionWorld}
    (first : Routed env session middle between hand)
    (second : Routed env middle after later hand) :
    Routed env session after later hand :=
  ⟨second.settled, second.within,
    List.Subset.trans second.waiting first.waiting⟩

theorem routed_fulfillPendingRequest {id : String} {answer : SessionReply}
    (settled : Settled env session world hand) (within : session.Within) :
    Routed env session (session.fulfillPendingRequest id answer world).2
      (session.fulfillPendingRequest id answer world).1 hand := by
  refine ⟨settled.fulfillPendingRequest, ?_,
    waiting_fulfillPendingRequest_subset session id answer world⟩
  unfold Session.fulfillPendingRequest popKey
  cases session.pendingRequests.lookup id with
  | none => exact within
  | some caller =>
      exact ⟨within.batches, within.events, within.positiveBatches,
        within.positiveEvents⟩

theorem routed_fulfillPendingDelivery {id : String} {answer : SessionReply}
    (settled : Settled env session world hand) (within : session.Within) :
    Routed env session (session.fulfillPendingDelivery id answer world).2
      (session.fulfillPendingDelivery id answer world).1 hand := by
  refine ⟨settled.fulfillPendingDelivery, ?_,
    waiting_fulfillPendingDelivery_subset session id answer world⟩
  unfold Session.fulfillPendingDelivery popKey
  cases session.pendingDeliveries.lookup id with
  | none => exact within
  | some delivery =>
      exact ⟨(Nat.sub_le _ _).trans within.batches,
        (Nat.sub_le _ _).trans within.events, within.positiveBatches,
        within.positiveEvents⟩

def DrainResult (env : SessionEnvironment) (session : Session)
    (world : SessionWorld) (hand : List Caller) :
    SessionWorld × Except SessionReason Session → Prop
  | (later, .ok after) => Routed env session after later hand
  | (later, .error _) => Quiet world later

theorem drainResult_drainDeliveryQueue
    (settled : Settled env session world hand) (within : session.Within) :
    DrainResult env session world hand (drainDeliveryQueue env session world) := by
  have spec := drainQueue_spec session.queuedDeliveries settled rfl
  unfold drainDeliveryQueue
  generalize drainQueue env session.queuedDeliveries session world = result
    at spec ⊢
  rcases result with ⟨later, reason | after⟩
  · exact spec
  · have through : Drained env session after world later hand := spec
    exact ⟨through.settled, through.within within,
      through.waiting_subset settled⟩

theorem routed_maybeDrainAfterAck
    (settled : Settled env session world hand) (within : session.Within) :
    Routed env session (maybeDrainAfterAck env session world).2
      (maybeDrainAfterAck env session world).1 hand := by
  have spec := drainResult_drainDeliveryQueue settled within
  unfold maybeDrainAfterAck
  generalize drainDeliveryQueue env session world = result at spec ⊢
  rcases result with ⟨later, reason | after⟩
  · have quietly : Quiet world later := spec
    exact ⟨settled.quiet quietly, within, List.Subset.refl _⟩
  · exact spec

def RouteResult (env : SessionEnvironment) (session : Session)
    (world : SessionWorld) (hand : List Caller) (frame : ServerFrame) :
    SessionWorld × Except SessionStop Session → Prop
  | (later, .ok after) => Routed env session after later hand
  | (later, .error (.error _)) => FrameFails env world frame ∧ Quiet world later
  | (later, .error .crashed) => later = world ∧ session.waiting = [] ∧ hand = []

theorem routeResult_routePayload {payload : Json}
    (settled : Settled env session world hand) (within : session.Within)
    (meets : HelloMeets env hand session (.message payload)) :
    RouteResult env session world hand (.message payload)
      (session.routePayload env payload world) := by
  unfold routePayload
  cases read : readMessage env payload with
  | hello =>
      have greets := meets read
      cases greeted : session.applyHelloFrame payload with
      | none =>
          rw [greeted] at greets
          exact ⟨rfl, greets⟩
      | some after =>
          rw [greeted] at greets
          obtain ⟨flowControl, -, rfl⟩ := Option.map_eq_some_iff.mp greeted
          exact ⟨⟨⟨settled.counted.batches, settled.counted.events,
            settled.counted.streams, settled.counted.distinct⟩,
            settled.requestIds, settled.deliveryIds, settled.callers⟩, greets,
            List.Subset.refl _⟩
  | response id answer => exact routed_fulfillPendingRequest settled within
  | ack id answer =>
      have answered := @routed_fulfillPendingDelivery env session world hand id
        answer settled within
      exact answered.trans
        (routed_maybeDrainAfterAck answered.settled answered.within)
  | other => exact ⟨settled, within, List.Subset.refl _⟩

theorem routeResult_routeFrame {frame : ServerFrame}
    (settled : Settled env session world hand) (within : session.Within)
    (meets : HelloMeets env hand session frame) :
    RouteResult env session world hand frame
      (session.routeFrame env frame world) := by
  cases frame with
  | ping payload =>
      have quietly : Quiet world (world.socketSend env (.pong payload)).1 :=
        quiet_socketSend
      unfold routeFrame
      cases refused : env.refusal world.writes with
      | none =>
          simp only [socketSend, refused] at quietly ⊢
          exact ⟨settled.quiet quietly, within, List.Subset.refl _⟩
      | some reason =>
          simp only [socketSend, refused] at quietly ⊢
          refine ⟨?_, quietly⟩
          simp [FrameFails, refused]
  | pong => exact ⟨settled, within, List.Subset.refl _⟩
  | close => exact ⟨trivial, .refl _⟩
  | invalid => exact ⟨trivial, .refl _⟩
  | message payload => exact routeResult_routePayload settled within meets

/-- No frame ends the session once somebody who was pending at its start has
been answered, or while somebody is queued; hello frames are met, and so is what
comes after the frames. -/
def FramesMeet (env : SessionEnvironment) (start : Session) (hand : List Caller)
    (Finish : Session → SessionWorld → Prop) :
    List ServerFrame → Session → SessionWorld → Prop
  | [], session, world => Finish session world
  | frame :: rest, session, world =>
      (FrameFails env world frame → LosesNobody start session) ∧
        HelloMeets env hand session frame ∧
        ∀ later after, session.routeFrame env frame world = (later, .ok after) →
          FramesMeet env start hand Finish rest after later

def BufferResult (env : SessionEnvironment) (start session : Session)
    (hand : List Caller) (Finish : Session → SessionWorld → Prop) :
    SessionWorld × Except SessionStop Session → Prop
  | (later, .ok after) => Routed env session after later hand ∧ Finish after later
  | (later, .error (.error _)) => Owes later (start.pendingCallers ++ hand)
  | (later, .error .crashed) => Owes later []

theorem bufferResult_processBuffer {start : Session}
    {Finish : Session → SessionWorld → Prop} {frames : List ServerFrame}
    (settled : Settled env session world hand) (within : session.Within)
    (meets : FramesMeet env start hand Finish frames session world) :
    BufferResult env start session hand Finish
      (processBuffer env frames session world) := by
  induction frames generalizing session world with
  | nil => exact ⟨⟨settled, within, List.Subset.refl _⟩, meets⟩
  | cons frame rest ih =>
      obtain ⟨failing, greets, next⟩ := meets
      have routed := routeResult_routeFrame settled within greets
      rw [processBuffer]
      rcases result : session.routeFrame env frame world with ⟨later, stop | middle⟩
      · rw [result] at routed
        cases stop with
        | error reason =>
            obtain ⟨fails, quietly⟩ := routed
            exact (settled.owes.quiet quietly).perm ((failing fails).append_right _)
        | crashed =>
            obtain ⟨rfl, nobody, empty⟩ := routed
            have owes := settled.owes
            rw [nobody, empty] at owes
            exact owes
      · rw [result] at routed
        have first : Routed env session middle later hand := routed
        have rested := ih first.settled first.within (next later middle result)
        change BufferResult env start session hand Finish
          (processBuffer env rest middle later)
        generalize processBuffer env rest middle later = result at rested ⊢
        rcases result with ⟨last, stop | after⟩
        · cases stop <;> exact rested
        · exact ⟨first.trans rested.1, rested.2⟩

def DrainMeets (env : SessionEnvironment) :
    List QueuedDelivery → Session → SessionWorld → Prop
  | [], _, _ => True
  | queued :: rest, session, world =>
      session.canSendDelivery queued.eventCount queued.streamKey = true →
        Deliverable env world queued ∧
          ∀ later after,
            sendDeliveryNow env { session with queuedDeliveries := rest } queued
              world = (later, .ok after) →
            DrainMeets env rest after later

theorem drainQueue_ok_of_meets {queue : List QueuedDelivery}
    (meets : DrainMeets env queue session world) :
    ∃ later after, drainQueue env queue session world = (later, .ok after) := by
  induction queue generalizing session world with
  | nil => exact ⟨world, session, rfl⟩
  | cons queued rest ih =>
      rw [drainQueue]
      by_cases sendable : session.canSendDelivery queued.eventCount
          queued.streamKey = true
      · rw [if_pos sendable]
        obtain ⟨deliverable, next⟩ := meets sendable
        rcases sendDeliveryNow_cases env { session with queuedDeliveries := rest }
            queued world with
          ⟨-, payload, sent⟩ | ⟨refused, -⟩
        · rw [sent]
          exact ih (next _ _ sent)
        · exact absurd deliverable refused
      · rw [if_neg sendable]
        exact ⟨world, session, rfl⟩

namespace SessionClient

variable {client : SessionClient}

structure Sound (env : SessionEnvironment) (client : SessionClient) : Prop where
  settled : Settled env client.session client.world []
  within : client.session.Within
  ended : client.session.connected = false → client.session.waiting = []

theorem sound_of_empty
    (none_pending : session.pendingRequests = [] ∧ session.pendingDeliveries = [] ∧
      session.queuedDeliveries = [])
    (nothing : session.inflightBatches = 0 ∧ session.inflightEvents = 0 ∧
      session.inflightStreams = ∅)
    (limits : 1 ≤ session.maxInflightBatches ∧ 1 ≤ session.maxInflightEvents)
    (owes : Owes world []) : Sound env ⟨session, world⟩ := by
  obtain ⟨requests, deliveries, queue⟩ := none_pending
  obtain ⟨batches, events, streams⟩ := nothing
  have waiting : session.waiting = [] := by
    simp [Session.waiting, requests, deliveries, queue]
  refine ⟨⟨⟨?_, ?_, ?_, ?_⟩, ?_, ?_, ?_⟩, ?_, fun _ => waiting⟩
  · simp [batches, deliveries]
  · simp [events, pendingEvents, deliveries]
  · simp [streams, pendingStreams, deliveries]
  · simp [pendingStreams, deliveries]
  · simp [requests]
  · simp [deliveries]
  · rw [waiting, List.append_assoc]
    exact owes
  · refine ⟨?_, ?_, limits.1, limits.2⟩
    · simp [batches]
    · simp [events]

theorem sound_fail {reason : SessionReason} (within : session.Within)
    (owes : Owes world session.pendingCallers) :
    Sound env (fail ⟨session, world⟩ reason) := by
  have answered : Owes (session.failAndDisconnect reason world).1 [] := by
    unfold Owes failAndDisconnect failAllPending
    simp only [List.map_append, List.map_map, List.append_nil, List.append_assoc]
    exact owes
  exact sound_of_empty ⟨rfl, rfl, rfl⟩ ⟨rfl, rfl, rfl⟩
    ⟨within.positiveBatches, within.positiveEvents⟩ answered

theorem sound_refuseCall {caller : Caller} {reason : SessionReason}
    (within : session.Within)
    (owes : Owes world (session.pendingCallers ++ [caller])) :
    Sound env (refuseCall session caller reason world) := by
  have answered : Owes
      ((session.failAndDisconnect reason world).1.reply caller (.error reason))
      [] := by
    unfold Owes SessionWorld.reply failAndDisconnect failAllPending
    simp only [List.map_append, List.map_map, List.append_nil, List.append_assoc]
    rw [Owes, pendingCallers, List.append_assoc] at owes
    exact owes
  exact sound_of_empty ⟨rfl, rfl, rfl⟩ ⟨rfl, rfl, rfl⟩
    ⟨within.positiveBatches, within.positiveEvents⟩ answered

theorem sound_restart (owes : Owes world []) : Sound env (restart world) :=
  sound_of_empty ⟨rfl, rfl, rfl⟩ ⟨rfl, rfl, rfl⟩ (by decide) owes

def called (world : SessionWorld) : SessionWorld :=
  { world with submitted := world.submitted + 1 }

theorem settled_called (settled : Settled env session world []) :
    Settled env session (called world) [world.submitted] where
  counted := settled.counted
  requestIds := settled.requestIds
  deliveryIds := settled.deliveryIds
  callers := by
    have callers := settled.callers
    rw [List.append_nil] at callers
    change (_ ++ [world.submitted]).Perm (List.range (world.submitted + 1))
    rw [List.range_succ]
    exact callers.append_right _

def opened (session : Session) : Session :=
  { session with connected := true }

def ConnectMeets (env : SessionEnvironment) (client : SessionClient) :
    SessionConnect → Prop
  | .opened frames none =>
      client.session.connected = false →
        FramesMeet env (opened client.session) [client.world.submitted]
          (fun _ _ => True) frames (opened client.session) (called client.world)
  | _ => True

def ConnectResult (env : SessionEnvironment) (client : SessionClient) :
    SessionWorld × Except SessionStop Session → Prop
  | (later, .ok session) =>
      Settled env session later [client.world.submitted] ∧ session.Within ∧
        session.connected = true ∧
        (client.session.connected = true ∧ session = client.session ∧
            later = called client.world ∨
          session.waiting = [] ∧ client.session.waiting = [])
  | (later, .error (.error _)) =>
      Owes later (client.session.pendingCallers ++ [client.world.submitted])
  | (later, .error .crashed) => Owes later []

theorem pendingCallers_of_waiting_eq_nil (nobody : session.waiting = []) :
    session.pendingCallers = [] :=
  (List.append_eq_nil_iff.mp nobody).1

theorem connectResult_ensureConnected {connect : SessionConnect}
    (sound : Sound env client) (meets : ConnectMeets env client connect) :
    ConnectResult env client
      (ensureConnected env client.session connect (called client.world)) := by
  have settled := settled_called sound.settled
  unfold ensureConnected
  by_cases connected : client.session.connected = true
  · rw [if_pos connected]
    exact ⟨settled, sound.within, connected, .inl ⟨connected, rfl, rfl⟩⟩
  · rw [if_neg connected]
    have off : client.session.connected = false := by simpa using connected
    have nobody := sound.ended off
    have owes : Owes (called client.world)
        (client.session.pendingCallers ++ [client.world.submitted]) := by
      have owes := settled.owes
      rw [nobody] at owes
      rw [pendingCallers_of_waiting_eq_nil nobody]
      exact owes
    cases connect with
    | refused reason => exact owes
    | opened frames activation =>
        cases activation with
        | some reason => exact owes
        | none =>
            have settledOpen : Settled env (opened client.session)
                (called client.world) [client.world.submitted] :=
              ⟨⟨settled.counted.batches, settled.counted.events,
                settled.counted.streams, settled.counted.distinct⟩,
                settled.requestIds, settled.deliveryIds, settled.callers⟩
            have within : (opened client.session).Within :=
              ⟨sound.within.batches, sound.within.events,
                sound.within.positiveBatches, sound.within.positiveEvents⟩
            have routed := bufferResult_processBuffer settledOpen within (meets off)
            change ConnectResult env client (processBuffer env frames
              (opened client.session) (called client.world))
            rcases result : processBuffer env frames (opened client.session)
              (called client.world) with ⟨later, stop | after⟩
            · rw [result] at routed
              cases stop <;> exact routed
            · rw [result] at routed
              obtain ⟨through, -⟩ := routed
              have empty := through.waiting
              change after.waiting ⊆ client.session.waiting at empty
              rw [nobody, List.subset_nil] at empty
              exact ⟨through.settled, through.within,
                (shrinks_processBuffer result).connected, .inr ⟨empty, nobody⟩⟩

theorem owes_of_connected {later : SessionWorld}
    (settled : Settled env session world [client.world.submitted])
    (origin : client.session.connected = true ∧ session = client.session ∧
        world = called client.world ∨
      session.waiting = [] ∧ client.session.waiting = [])
    (empty : session = client.session → world = called client.world →
      client.session.connected = true → client.session.queuedDeliveries = [])
    (quietly : Quiet world later) :
    Owes later (client.session.pendingCallers ++ [client.world.submitted]) := by
  have owes := settled.owes.quiet quietly
  rcases origin with ⟨connected, same, world_eq⟩ | ⟨nobody, before⟩
  · rw [same, waiting_eq, empty same world_eq connected, List.map_nil,
      List.append_nil] at owes
    exact owes
  · rw [nobody] at owes
    rw [pendingCallers_of_waiting_eq_nil before]
    exact owes

theorem settled_putPendingRequest {caller : Caller}
    (settled : Settled env session world [caller])
    (quietly : Quiet world.nextId later) :
    Settled env
      { session with
        pendingRequests :=
          putKey (env.uuid world.generated) caller session.pendingRequests }
      later [] where
  counted := ⟨settled.counted.batches, settled.counted.events,
    settled.counted.streams, settled.counted.distinct⟩
  requestIds key member := by
    rw [putKey, eraseP_of_lookup_eq_none settled.fresh_request] at member
    rcases List.mem_cons.mp member with new | old
    · exact ⟨world.generated, quietly.generated, new⟩
    · obtain ⟨number, used, same⟩ := settled.requestIds key old
      exact ⟨number, (used.trans (Nat.lt_succ_self _)).trans_le
        quietly.generated, same⟩
  deliveryIds key member := by
    obtain ⟨number, used, same⟩ := settled.deliveryIds key member
    exact ⟨number, (used.trans (Nat.lt_succ_self _)).trans_le quietly.generated,
      same⟩
  callers := by
    rw [quietly.replies, quietly.submitted]
    refine .trans ?_ settled.callers
    rw [List.append_assoc, List.append_assoc]
    refine List.Perm.append_left _ ?_
    simp only [Session.waiting, putKey,
      eraseP_of_lookup_eq_none settled.fresh_request, List.map_cons,
      List.cons_append, List.append_nil]
    exact (List.perm_append_singleton _ _).symm

/-- The call finds no queue that its failure would drop. -/
def CallMeets (client : SessionClient) (Refused : Prop) : Prop :=
  client.session.connected = true → Refused → client.session.queuedDeliveries = []

theorem sound_handleRequest {operation : String} {payload : Json}
    {connect : SessionConnect} (sound : Sound env client)
    (connects : ConnectMeets env client connect)
    (meets : CallMeets client (env.refusal client.world.writes ≠ none)) :
    Sound env (handleRequest env client operation payload connect) := by
  have result := connectResult_ensureConnected sound connects
  unfold handleRequest
  generalize world_eq : called client.world = world at result
  simp only [show ({ client.world with submitted := client.world.submitted + 1 } :
    SessionWorld) = world from world_eq]
  generalize ensureConnected env client.session connect world = connected
    at result ⊢
  rcases connected with ⟨later, stop | session⟩
  · cases stop with
    | error reason => exact sound_refuseCall sound.within result
    | crashed => exact sound_restart result
  · obtain ⟨settled, within, connected, origin⟩ := result
    cases refused : env.refusal later.nextId.writes with
    | none =>
        simp only [socketSend, refused]
        refine ⟨settled_putPendingRequest settled ⟨rfl, rfl, le_rfl⟩, ?_, ?_⟩
        · exact ⟨within.batches, within.events, within.positiveBatches,
            within.positiveEvents⟩
        · intro closed
          rw [connected] at closed
          cases closed
    | some reason =>
        simp only [socketSend, refused]
        apply sound_refuseCall sound.within
        refine owes_of_connected settled origin ?_ ⟨rfl, rfl, Nat.le_succ _⟩
        intro _ untouched before
        apply meets before
        rw [untouched] at refused
        exact ne_of_eq_of_ne refused (Option.some_ne_none reason)

def submittedDelivery (client : SessionClient) (operation : String)
    (payload : Json) : QueuedDelivery :=
  ⟨client.world.submitted, operation, payload,
    deliveryEventCount operation payload, deliveryStreamKey operation payload⟩

theorem sound_handleDelivery {operation : String} {payload : Json}
    {connect : SessionConnect} (sound : Sound env client)
    (connects : ConnectMeets env client connect)
    (meets : CallMeets client
      (client.session.canSendDelivery (deliveryEventCount operation payload)
          (deliveryStreamKey operation payload) = true ∧
        ¬ Deliverable env client.world
          (submittedDelivery client operation payload))) :
    Sound env (handleDelivery env client operation payload connect) := by
  have result := connectResult_ensureConnected sound connects
  unfold handleDelivery
  generalize world_eq : called client.world = world at result
  simp only [show ({ client.world with submitted := client.world.submitted + 1 } :
    SessionWorld) = world from world_eq]
  generalize ensureConnected env client.session connect world = connected
    at result ⊢
  rcases connected with ⟨later, stop | session⟩
  · cases stop with
    | error reason => exact sound_refuseCall sound.within result
    | crashed => exact sound_restart result
  · obtain ⟨settled, within, connected, origin⟩ := result
    have inHand : Settled env session later
        [(submittedDelivery client operation payload).caller] := settled
    simp only [enqueueOrSendDelivery]
    by_cases sendable : session.canSendDelivery
        (submittedDelivery client operation payload).eventCount
        (submittedDelivery client operation payload).streamKey = true
    · simp only [show session.canSendDelivery (deliveryEventCount operation payload)
        (deliveryStreamKey operation payload) = true from sendable, if_true]
      rcases sendDeliveryNow_cases env session
          (submittedDelivery client operation payload) later with
        ⟨-, sentPayload, sent⟩ | ⟨undeliverable, reason, last, refused, quietly, -⟩
      · simp only [show sendDeliveryNow env session ⟨_, _, _, _, _⟩ later = _
          from sent]
        refine ⟨inHand.sent sendable quiet_sentWorld,
          within_sentSession within sendable, ?_⟩
        intro closed
        change session.connected = false at closed
        rw [connected] at closed
        cases closed
      · simp only [show sendDeliveryNow env session ⟨_, _, _, _, _⟩ later = _
          from refused]
        apply sound_refuseCall sound.within
        refine owes_of_connected settled origin ?_ quietly
        intro same untouched before
        apply meets before
        rw [same] at sendable
        rw [untouched] at undeliverable
        exact ⟨sendable, undeliverable⟩
    · simp only [show ¬ session.canSendDelivery (deliveryEventCount operation payload)
        (deliveryStreamKey operation payload) = true from sendable]
      refine ⟨inHand.enqueue, ?_, ?_⟩
      · exact ⟨within.batches, within.events, within.positiveBatches,
          within.positiveEvents⟩
      · intro closed
        change session.connected = false at closed
        rw [connected] at closed
        cases closed

theorem sound_continueAfterSocketData {frames : List ServerFrame}
    (sound : Sound env client)
    (meets : FramesMeet env client.session []
      (fun session world => DrainMeets env session.queuedDeliveries session world)
      frames client.session client.world) :
    Sound env (continueAfterSocketData env client frames none) := by
  have routed := bufferResult_processBuffer sound.settled sound.within meets
  unfold continueAfterSocketData
  rcases buffered : processBuffer env frames client.session client.world with
    ⟨later, stop | after⟩
  · rw [buffered] at routed
    cases stop with
    | error reason =>
        apply sound_fail sound.within
        rw [BufferResult, List.append_nil] at routed
        exact routed
    | crashed => exact sound_restart routed
  · rw [buffered] at routed
    obtain ⟨through, drains⟩ := routed
    obtain ⟨last, drained, result⟩ := drainQueue_ok_of_meets drains
    have spec := drainResult_drainDeliveryQueue through.settled through.within
    simp only [drainDeliveryQueue, result] at spec ⊢
    have finished : Routed env after drained last [] := spec
    refine ⟨finished.settled, finished.within, ?_⟩
    intro closed
    have kept := (shrinks_processBuffer buffered).trans
      (shrinks_drainQueue rfl result)
    rw [kept.connected] at closed
    have nobody := sound.ended closed
    have still := List.Subset.trans finished.waiting through.waiting
    rw [nobody, List.subset_nil] at still
    exact still

/-- The condition on an event: a session that ends has no queue and has answered
nobody in the data that ends it, and hello frames are met. -/
def Meets (env : SessionEnvironment) (client : SessionClient) :
    SessionEvent → Prop
  | .request _ _ connect =>
      ConnectMeets env client connect ∧
        CallMeets client (env.refusal client.world.writes ≠ none)
  | .delivery operation payload connect =>
      ConnectMeets env client connect ∧
        CallMeets client
          (client.session.canSendDelivery (deliveryEventCount operation payload)
              (deliveryStreamKey operation payload) = true ∧
            ¬ Deliverable env client.world
              (submittedDelivery client operation payload))
  | .socketData frames none =>
      client.session.connected = true →
        FramesMeet env client.session []
          (fun session world =>
            DrainMeets env session.queuedDeliveries session world)
          frames client.session client.world
  | .socketData _ (some _) => client.session.queuedDeliveries = []
  | .socketClosed => client.session.queuedDeliveries = []
  | .socketError _ => client.session.queuedDeliveries = []
  | .requestTimeout _ => client.session.queuedDeliveries = []
  | .deliveryTimeout _ => client.session.queuedDeliveries = []

theorem owes_of_empty (settled : Settled env session world [])
    (empty : session.queuedDeliveries = []) :
    Owes world session.pendingCallers := by
  have owes := settled.owes
  rw [waiting_eq, empty, List.map_nil, List.append_nil, List.append_nil] at owes
  exact owes

theorem sound_fail_of_empty {reason : SessionReason} (sound : Sound env client)
    (empty : client.session.queuedDeliveries = []) :
    Sound env (client.fail reason) :=
  sound_fail sound.within (owes_of_empty sound.settled empty)

theorem sound_step {event : SessionEvent} (sound : Sound env client)
    (meets : Meets env client event) : Sound env (step env client event) := by
  cases event with
  | request operation payload connect =>
      exact sound_handleRequest sound meets.1 meets.2
  | delivery operation payload connect =>
      exact sound_handleDelivery sound meets.1 meets.2
  | socketData frames activation =>
      rw [step]
      split_ifs with connected
      · cases activation with
        | none => exact sound_continueAfterSocketData sound (meets connected)
        | some reason => exact sound_fail_of_empty sound meets
      · exact sound
  | socketClosed =>
      rw [step]
      split_ifs
      · exact sound_fail_of_empty sound meets
      · exact sound
  | socketError reason =>
      rw [step]
      split_ifs
      · exact sound_fail_of_empty sound meets
      · exact sound
  | requestTimeout id =>
      have answered := @routed_fulfillPendingRequest env _ _ _ id
        (.error .sessionTimeout) sound.settled sound.within
      apply sound_fail answered.within
      apply owes_of_empty answered.settled
      unfold Session.fulfillPendingRequest popKey
      cases client.session.pendingRequests.lookup id <;> exact meets
  | deliveryTimeout id =>
      have answered := @routed_fulfillPendingDelivery env _ _ _ id
        (.error .sessionTimeout) sound.settled sound.within
      apply sound_fail answered.within
      apply owes_of_empty answered.settled
      unfold Session.fulfillPendingDelivery popKey
      cases client.session.pendingDeliveries.lookup id <;> exact meets

/-- The accounts are right: the counters are those of the pending deliveries and
within the limits, whoever does not wait has been answered exactly once, and
nobody waits for a session that has ended. -/
structure Balanced (client : SessionClient) : Prop where
  counted : client.session.Counted
  within : client.session.Within
  answered : ∀ caller < client.world.submitted,
    (client.world.replies.map Prod.fst).count caller =
      if caller ∈ client.session.waiting then 0 else 1
  ended : client.session.connected = false → client.session.waiting = []

theorem Sound.balanced (sound : Sound env client) : Balanced client where
  counted := sound.settled.counted
  within := sound.within
  answered caller submitted := by
    have callers := sound.settled.callers
    rw [List.append_nil] at callers
    have once := callers.count_eq caller
    rw [List.count_append, List.nodup_range.count,
      if_pos (List.mem_range.mpr submitted)] at once
    split_ifs with waits
    · have positive := List.count_pos_iff.mpr waits
      omega
    · rw [List.count_eq_zero_of_not_mem waits] at once
      exact once
  ended := sound.ended

def steadyEnvironment : SessionEnvironment where
  uuid number := String.ofList (List.replicate number 'a')
  uuid_injective first second same := by
    have lengths := congrArg String.length same
    simpa using lengths
  refusal _ := none
  errorReason _ := none

def batch : Json :=
  .obj [("stream_id", .str "stream"), ("events", .arr [.null])]

end SessionClient

end Elektrine.Messaging
