import Elektrine.Messaging.SessionAccounting

/-!
# The order of the deliveries of a session

What is on the wire, followed by what is queued, is one line.  Sending the head
of the queue does not change it, a call that queues appends to it, and a session
that ends cuts it.  So the wire is in order as long as nothing is sent past the
queue and no drain is taken back after it has sent.
-/

namespace Elektrine.Messaging

open Elektrine.Library Session SessionWorld

def wireDeliveries (wire : List WireFrame) : List (Caller × Option String) :=
  wire.filterMap fun
    | .delivery caller streamKey _ _ _ => some (caller, streamKey)
    | _ => none

def queueEntries (queue : List QueuedDelivery) : List (Caller × Option String) :=
  queue.map fun queued => (queued.caller, queued.streamKey)

/-- Two deliveries are different ones, and in order when they share a stream. -/
def Precedes (first second : Caller × Option String) : Prop :=
  first.1 ≠ second.1 ∧
    ∀ stream, first.2 = some stream → second.2 = some stream → first.1 < second.1

structure WireLined (world : SessionWorld) (bound calls : Nat) : Prop where
  order : (wireDeliveries world.wire).Pairwise Precedes
  bounded : ∀ entry ∈ wireDeliveries world.wire, entry.1 < bound
  submitted : world.submitted = calls

structure Lined (env : SessionEnvironment) (session : Session)
    (world : SessionWorld) (bound calls : Nat) : Prop where
  counted : session.Counted
  deliveryIds : ∀ key ∈ session.pendingDeliveries.map Prod.fst,
    ∃ number < world.generated, key = env.uuid number
  fits : ∀ queued ∈ session.queuedDeliveries,
    queued.eventCount ≤ max session.maxInflightEvents 1
  order : (wireDeliveries world.wire ++
    queueEntries session.queuedDeliveries).Pairwise Precedes
  bounded : ∀ entry ∈ wireDeliveries world.wire ++
    queueEntries session.queuedDeliveries, entry.1 < bound
  submitted : world.submitted = calls

variable {env : SessionEnvironment} {session after : Session}
  {world later : SessionWorld} {bound calls : Nat}

structure Still (before after : SessionWorld) : Prop where
  deliveries : wireDeliveries after.wire = wireDeliveries before.wire
  submitted : after.submitted = before.submitted
  generated : before.generated ≤ after.generated

theorem Still.trans {middle : SessionWorld} (first : Still world middle)
    (second : Still middle later) : Still world later :=
  ⟨second.deliveries.trans first.deliveries,
    second.submitted.trans first.submitted,
    first.generated.trans second.generated⟩

theorem still_nextId : Still world world.nextId :=
  ⟨rfl, rfl, Nat.le_succ _⟩

theorem Quiet.still (quietly : Quiet world later)
    (same : later.wire = world.wire) : Still world later :=
  ⟨congrArg wireDeliveries same, quietly.submitted, quietly.generated⟩

namespace Lined

theorem wireLined (lined : Lined env session world bound calls) :
    WireLined world bound calls where
  order := (List.pairwise_append.mp lined.order).1
  bounded entry member := lined.bounded entry (List.mem_append_left _ member)
  submitted := lined.submitted

theorem still (lined : Lined env session world bound calls)
    (still : Still world later) : Lined env session later bound calls where
  counted := lined.counted
  deliveryIds key member := by
    obtain ⟨number, used, same⟩ := lined.deliveryIds key member
    exact ⟨number, used.trans_le still.generated, same⟩
  fits := lined.fits
  order := by
    rw [still.deliveries]
    exact lined.order
  bounded := by
    rw [still.deliveries]
    exact lined.bounded
  submitted := still.submitted.trans lined.submitted

theorem fresh_delivery (lined : Lined env session world bound calls) :
    env.uuid world.generated ∉ session.pendingDeliveries.map Prod.fst := by
  intro used
  obtain ⟨number, below, same⟩ := lined.deliveryIds _ used
  exact absurd (env.uuid_injective same) below.ne'

end Lined

theorem WireLined.still (lined : WireLined world bound calls)
    (still : Still world later) : WireLined later bound calls where
  order := by
    rw [still.deliveries]
    exact lined.order
  bounded := by
    rw [still.deliveries]
    exact lined.bounded
  submitted := still.submitted.trans lined.submitted

theorem Lined.mono {limit : Nat} (lined : Lined env session world bound calls)
    (below : bound ≤ limit) : Lined env session world limit calls :=
  ⟨lined.counted, lined.deliveryIds, lined.fits, lined.order,
    fun entry member => (lined.bounded entry member).trans_le below,
    lined.submitted⟩

theorem WireLined.mono {limit : Nat} (lined : WireLined world bound limit)
    (below : bound ≤ limit) : WireLined world limit limit :=
  ⟨lined.order, fun entry member => (lined.bounded entry member).trans_le below,
    lined.submitted⟩

theorem wireDeliveries_sentWorld {delivery : QueuedDelivery} {payload : Json} :
    wireDeliveries (sentWorld env world delivery payload).wire =
      wireDeliveries world.wire ++ [(delivery.caller, delivery.streamKey)] :=
  List.filterMap_append

theorem Lined.sent {delivery : QueuedDelivery} {payload : Json}
    (lined : Lined env session world bound calls)
    (sendable : session.canSendDelivery delivery.eventCount
      delivery.streamKey = true)
    (order : (wireDeliveries world.wire ++
      (delivery.caller, delivery.streamKey) ::
        queueEntries session.queuedDeliveries).Pairwise Precedes)
    {limit : Nat} (below : bound ≤ limit) (known : delivery.caller < limit) :
    Lined env (sentSession session (env.uuid world.generated) delivery)
      (sentWorld env world delivery payload) limit calls where
  counted := counted_sentSession lined.fresh_delivery lined.counted
    (canSendDelivery_iff.mp sendable).2.2
  deliveryIds key member := by
    rw [pendingDeliveries_sentSession lined.fresh_delivery] at member
    rcases List.mem_cons.mp member with new | old
    · exact ⟨world.generated, Nat.lt_succ_self _, new⟩
    · obtain ⟨number, used, same⟩ := lined.deliveryIds key old
      exact ⟨number, used.trans (Nat.lt_succ_self _), same⟩
  fits := lined.fits
  order := by
    rw [wireDeliveries_sentWorld, List.append_assoc, List.singleton_append]
    exact order
  bounded := by
    rw [wireDeliveries_sentWorld, List.append_assoc, List.singleton_append]
    intro entry member
    rcases List.mem_append.mp member with wired | queued
    · exact (lined.bounded entry (List.mem_append_left _ wired)).trans_le below
    · rcases List.mem_cons.mp queued with rfl | queued
      · exact known
      · exact (lined.bounded entry (List.mem_append_right _ queued)).trans_le below
  submitted := lined.submitted

theorem Lined.dequeue {queued : QueuedDelivery} {rest : List QueuedDelivery}
    (lined : Lined env session world bound calls)
    (queue : session.queuedDeliveries = queued :: rest) :
    Lined env { session with queuedDeliveries := rest } world bound calls where
  counted := ⟨lined.counted.batches, lined.counted.events, lined.counted.streams,
    lined.counted.distinct⟩
  deliveryIds := lined.deliveryIds
  fits other member :=
    lined.fits other (queue ▸ List.mem_cons_of_mem _ member)
  order := by
    have order := lined.order
    rw [queue] at order
    exact order.sublist ((List.sublist_cons_self _ _).append_left _)
  bounded entry member := by
    apply lined.bounded entry
    rw [queue]
    exact ((List.sublist_cons_self _ _).append_left _).subset member
  submitted := lined.submitted

theorem Lined.enqueue {delivery : QueuedDelivery}
    (lined : Lined env session world delivery.caller calls)
    (fits : delivery.eventCount ≤ max session.maxInflightEvents 1) :
    Lined env
      { session with
        queuedDeliveries := session.queuedDeliveries ++ [delivery] } world
      (delivery.caller + 1) calls where
  counted := ⟨lined.counted.batches, lined.counted.events, lined.counted.streams,
    lined.counted.distinct⟩
  deliveryIds := lined.deliveryIds
  fits other member := by
    rcases List.mem_append.mp member with old | new
    · exact lined.fits other old
    · rw [List.mem_singleton.mp new]
      exact fits
  order := by
    rw [queueEntries, List.map_append, ← List.append_assoc]
    refine List.pairwise_append.mpr
      ⟨lined.order, List.pairwise_singleton _ _, ?_⟩
    intro entry member last same
    have before := lined.bounded entry member
    rw [List.mem_singleton.mp same]
    exact ⟨before.ne, fun _ _ _ => before⟩
  bounded entry member := by
    rw [queueEntries, List.map_append, ← List.append_assoc] at member
    rcases List.mem_append.mp member with old | new
    · exact Nat.lt_succ_of_lt (lined.bounded entry old)
    · rw [List.mem_singleton.mp new]
      exact Nat.lt_succ_self _
  submitted := lined.submitted

def DrainLined (env : SessionEnvironment) (bound calls : Nat) :
    SessionWorld × Except SessionReason Session → Prop
  | (later, .ok after) => Lined env after later bound calls
  | (later, .error _) => WireLined later bound calls

theorem drainLined_drainQueue {queue : List QueuedDelivery}
    (lined : Lined env session world bound calls)
    (same : session.queuedDeliveries = queue) :
    DrainLined env bound calls (drainQueue env queue session world) := by
  induction queue generalizing session world with
  | nil => exact lined
  | cons queued rest ih =>
      rw [drainQueue]
      by_cases sendable : session.canSendDelivery queued.eventCount
          queued.streamKey = true
      · rw [if_pos sendable]
        rcases sendDeliveryNow_cases env { session with queuedDeliveries := rest }
            queued world with
          ⟨-, payload, sent⟩ | ⟨-, reason, later, refused, quietly, untouched⟩
        · rw [sent]
          have order := lined.order
          rw [same] at order
          have known : queued.caller < bound := by
            apply lined.bounded (queued.caller, queued.streamKey)
            rw [same]
            exact List.mem_append_right _ List.mem_cons_self
          exact ih ((lined.dequeue same).sent sendable order le_rfl known) rfl
        · rw [refused]
          exact lined.wireLined.still (quietly.still untouched)
      · rw [if_neg sendable]
        exact lined

def DrainSettles (env : SessionEnvironment) :
    List QueuedDelivery → Session → SessionWorld → Prop
  | [], _, _ => True
  | queued :: rest, session, world =>
      ∀ later after,
        sendDeliveryNow env { session with queuedDeliveries := rest } queued
          world = (later, .ok after) →
        DrainMeets env rest after later

theorem still_of_drainSettles {queue : List QueuedDelivery}
    {reason : SessionReason} (settles : DrainSettles env queue session world)
    (failed : drainQueue env queue session world = (later, .error reason)) :
    Still world later := by
  cases queue with
  | nil => cases failed
  | cons queued rest =>
      rw [drainQueue] at failed
      split_ifs at failed with sendable
      · rcases sendDeliveryNow_cases env { session with queuedDeliveries := rest }
            queued world with
          ⟨-, payload, sent⟩ | ⟨-, why, last, refused, quietly, untouched⟩
        · obtain ⟨last, after, drained⟩ :=
            drainQueue_ok_of_meets (settles _ _ sent)
          rw [sent] at failed
          change drainQueue env rest _ _ = _ at failed
          rw [drained] at failed
          cases failed
        · rw [refused] at failed
          cases failed
          exact quietly.still untouched
      · cases failed

theorem lined_maybeDrainAfterAck
    (lined : Lined env session world bound calls)
    (settles : DrainSettles env session.queuedDeliveries session world) :
    Lined env (maybeDrainAfterAck env session world).2
      (maybeDrainAfterAck env session world).1 bound calls := by
  have spec := drainLined_drainQueue lined rfl
  unfold maybeDrainAfterAck drainDeliveryQueue
  rcases result : drainQueue env session.queuedDeliveries session world with
    ⟨later, reason | after⟩
  · exact lined.still (still_of_drainSettles settles result)
  · rw [result] at spec
    exact spec

theorem lined_fulfillPendingRequest {id : String} {answer : SessionReply}
    (lined : Lined env session world bound calls) :
    Lined env (session.fulfillPendingRequest id answer world).2
      (session.fulfillPendingRequest id answer world).1 bound calls := by
  unfold Session.fulfillPendingRequest popKey
  cases session.pendingRequests.lookup id with
  | none => exact lined
  | some caller =>
      exact ⟨⟨lined.counted.batches, lined.counted.events, lined.counted.streams,
        lined.counted.distinct⟩, lined.deliveryIds, lined.fits, lined.order,
        lined.bounded, lined.submitted⟩

theorem lined_fulfillPendingDelivery {id : String} {answer : SessionReply}
    (lined : Lined env session world bound calls) :
    Lined env (session.fulfillPendingDelivery id answer world).2
      (session.fulfillPendingDelivery id answer world).1 bound calls := by
  unfold Session.fulfillPendingDelivery popKey
  cases found : session.pendingDeliveries.lookup id with
  | none => exact lined
  | some delivery =>
      refine ⟨counted_removedSession lined.counted found, ?_, lined.fits,
        lined.order, lined.bounded, lined.submitted⟩
      intro key member
      apply lined.deliveryIds
      exact ((List.eraseP_sublist).map _).subset member

/-- A hello frame leaves room for each queued delivery, and the drain after an
acknowledgement is refused at its first delivery or not at all. -/
def FrameOrdered (env : SessionEnvironment) (session : Session)
    (world : SessionWorld) : ServerFrame → Prop
  | .message payload =>
      match readMessage env payload with
      | .hello =>
          ∀ greeted, session.applyHelloFrame payload = some greeted →
            ∀ queued ∈ session.queuedDeliveries,
              queued.eventCount ≤ max greeted.maxInflightEvents 1
      | .ack id answer =>
          DrainSettles env session.queuedDeliveries
            (session.fulfillPendingDelivery id answer world).2
            (session.fulfillPendingDelivery id answer world).1
      | _ => True
  | _ => True

def RouteLined (env : SessionEnvironment) (bound calls : Nat) :
    SessionWorld × Except SessionStop Session → Prop
  | (later, .ok after) => Lined env after later bound calls
  | (later, .error _) => WireLined later bound calls

theorem queuedDeliveries_fulfillPendingDelivery (session : Session)
    (id : String) (answer : SessionReply) (world : SessionWorld) :
    (session.fulfillPendingDelivery id answer world).2.queuedDeliveries =
      session.queuedDeliveries := by
  unfold Session.fulfillPendingDelivery popKey
  cases session.pendingDeliveries.lookup id <;> rfl

theorem routeLined_routePayload {payload : Json}
    (lined : Lined env session world bound calls)
    (ordered : FrameOrdered env session world (.message payload)) :
    RouteLined env bound calls (session.routePayload env payload world) := by
  unfold routePayload
  simp only [FrameOrdered] at ordered
  cases read : readMessage env payload with
  | hello =>
      rw [read] at ordered
      cases greeted : session.applyHelloFrame payload with
      | none => exact lined.wireLined
      | some after =>
          have fits := ordered after greeted
          obtain ⟨flowControl, -, rfl⟩ := Option.map_eq_some_iff.mp greeted
          exact ⟨⟨lined.counted.batches, lined.counted.events,
            lined.counted.streams, lined.counted.distinct⟩, lined.deliveryIds,
            fits, lined.order, lined.bounded, lined.submitted⟩
  | response id answer => exact lined_fulfillPendingRequest lined
  | ack id answer =>
      rw [read] at ordered
      apply lined_maybeDrainAfterAck (lined_fulfillPendingDelivery lined)
      rw [queuedDeliveries_fulfillPendingDelivery]
      exact ordered
  | other => exact lined

theorem still_socketSend {frame : WireFrame} (other : wireDeliveries [frame] = [])
    (world : SessionWorld) : Still world (world.socketSend env frame).1 := by
  unfold socketSend
  cases env.refusal world.writes with
  | none =>
      refine ⟨?_, rfl, le_rfl⟩
      change wireDeliveries (world.wire ++ [frame]) = _
      rw [wireDeliveries, List.filterMap_append]
      exact (congrArg _ other).trans (List.append_nil _)
  | some reason => exact ⟨rfl, rfl, le_rfl⟩

theorem routeLined_routeFrame {frame : ServerFrame}
    (lined : Lined env session world bound calls)
    (ordered : FrameOrdered env session world frame) :
    RouteLined env bound calls (session.routeFrame env frame world) := by
  cases frame with
  | ping payload =>
      have still : Still world (world.socketSend env (.pong payload)).1 :=
        still_socketSend rfl world
      simp only [routeFrame]
      generalize socketSend env (.pong payload) world = sent at still ⊢
      rcases sent with ⟨later, refused⟩
      cases refused with
      | none => exact lined.still still
      | some reason => exact lined.wireLined.still still
  | pong => exact lined
  | close => exact lined.wireLined
  | invalid => exact lined.wireLined
  | message payload => exact routeLined_routePayload lined ordered

def FramesOrdered (env : SessionEnvironment) :
    List ServerFrame → Session → SessionWorld → Prop
  | [], _, _ => True
  | frame :: rest, session, world =>
      FrameOrdered env session world frame ∧
        ∀ later after, session.routeFrame env frame world = (later, .ok after) →
          FramesOrdered env rest after later

theorem routeLined_processBuffer {frames : List ServerFrame}
    (lined : Lined env session world bound calls)
    (ordered : FramesOrdered env frames session world) :
    RouteLined env bound calls (processBuffer env frames session world) := by
  induction frames generalizing session world with
  | nil => exact lined
  | cons frame rest ih =>
      have routed := routeLined_routeFrame lined ordered.1
      rw [processBuffer]
      rcases result : session.routeFrame env frame world with ⟨later, stop | middle⟩
      · rw [result] at routed
        exact routed
      · rw [result] at routed
        exact ih routed (ordered.2 later middle result)

theorem framesOrdered_of_empty (frames : List ServerFrame)
    (empty : session.queuedDeliveries = []) :
    FramesOrdered env frames session world := by
  induction frames generalizing session world with
  | nil => trivial
  | cons frame rest ih =>
      refine ⟨?_, ?_⟩
      · cases frame with
        | message payload =>
            simp only [FrameOrdered]
            cases readMessage env payload with
            | hello =>
                intro greeted _ queued member
                rw [empty] at member
                cases member
            | ack id answer =>
                rw [empty]
                trivial
            | response id answer => trivial
            | other => trivial
        | _ => trivial
      · intro later after routed
        have shrinks := (shrinks_routeFrame routed).queue
        rw [empty] at shrinks
        exact ih (List.suffix_nil.mp shrinks)

namespace SessionClient

variable {client : SessionClient}

structure InLine (env : SessionEnvironment) (client : SessionClient) : Prop where
  lined : Lined env client.session client.world client.world.submitted
    client.world.submitted
  ended : client.session.connected = false → client.session.queuedDeliveries = []

theorem inLine_of_empty {limit : Nat}
    (lined : WireLined world limit limit)
    (nothing : session.pendingDeliveries = [] ∧ session.queuedDeliveries = [])
    (counters : session.inflightBatches = 0 ∧ session.inflightEvents = 0 ∧
      session.inflightStreams = ∅) : InLine env ⟨session, world⟩ := by
  obtain ⟨deliveries, queue⟩ := nothing
  obtain ⟨batches, events, streams⟩ := counters
  obtain ⟨order, bounded, rfl⟩ := lined
  refine ⟨⟨⟨?_, ?_, ?_, ?_⟩, ?_, ?_, ?_, ?_, rfl⟩, fun _ => queue⟩
  · simp [batches, deliveries]
  · simp [events, pendingEvents, deliveries]
  · simp [streams, pendingStreams, deliveries]
  · simp [pendingStreams, deliveries]
  · simp [deliveries]
  · simp [queue]
  · rw [queue, queueEntries, List.map_nil, List.append_nil]
    exact order
  · rw [queue, queueEntries, List.map_nil, List.append_nil]
    exact bounded

theorem inLine_fail {reason : SessionReason} {limit : Nat}
    (lined : WireLined world limit limit) :
    InLine env (fail ⟨session, world⟩ reason) :=
  inLine_of_empty (WireLined.still lined ⟨rfl, rfl, le_rfl⟩) ⟨rfl, rfl⟩
    ⟨rfl, rfl, rfl⟩

def ConnectLined (env : SessionEnvironment) (client : SessionClient) :
    SessionWorld × Except SessionStop Session → Prop
  | (later, .ok session) =>
      Lined env session later client.world.submitted
          (client.world.submitted + 1) ∧
        session.connected = true
  | (later, .error _) =>
      WireLined later (client.world.submitted + 1) (client.world.submitted + 1)

theorem inLine_refuseCall {caller : Caller} {reason : SessionReason}
    {limit : Nat} (lined : WireLined world limit limit) :
    InLine env (refuseCall session caller reason world) :=
  inLine_of_empty (WireLined.still lined ⟨rfl, rfl, le_rfl⟩) ⟨rfl, rfl⟩
    ⟨rfl, rfl, rfl⟩

theorem inLine_restart {limit : Nat} (lined : WireLined world limit limit) :
    InLine env (restart world) :=
  inLine_of_empty lined ⟨rfl, rfl⟩ ⟨rfl, rfl, rfl⟩

theorem lined_called (inLine : InLine env client) :
    Lined env client.session (called client.world) client.world.submitted
      (client.world.submitted + 1) where
  counted := inLine.lined.counted
  deliveryIds := inLine.lined.deliveryIds
  fits := inLine.lined.fits
  order := inLine.lined.order
  bounded := inLine.lined.bounded
  submitted := rfl

theorem connectLined_ensureConnected (connect : SessionConnect)
    (inLine : InLine env client) :
    ConnectLined env client
      (ensureConnected env client.session connect (called client.world)) := by
  have lined := lined_called inLine
  have wire := lined.wireLined.mono (Nat.le_succ _)
  unfold ensureConnected
  by_cases connected : client.session.connected = true
  · rw [if_pos connected]
    exact ⟨lined, connected⟩
  · rw [if_neg connected]
    have off : client.session.connected = false := by simpa using connected
    cases connect with
    | refused reason => exact wire
    | opened frames activation =>
        cases activation with
        | some reason => exact wire
        | none =>
            have linedOpen : Lined env (opened client.session)
                (called client.world) client.world.submitted
                (client.world.submitted + 1) :=
              ⟨⟨lined.counted.batches, lined.counted.events, lined.counted.streams,
                lined.counted.distinct⟩, lined.deliveryIds, lined.fits, lined.order,
                lined.bounded, lined.submitted⟩
            have routed := routeLined_processBuffer linedOpen
              (framesOrdered_of_empty frames (inLine.ended off))
            change ConnectLined env client (processBuffer env frames
              (opened client.session) (called client.world))
            rcases result : processBuffer env frames (opened client.session)
              (called client.world) with ⟨later, stop | after⟩
            · rw [result] at routed
              exact WireLined.mono routed (Nat.le_succ _)
            · rw [result] at routed
              exact ⟨routed, (shrinks_processBuffer result).connected⟩

theorem inLine_of_lined {limit : Nat}
    (lined : Lined env session world limit limit)
    (connected : session.connected = true) : InLine env ⟨session, world⟩ := by
  have submitted := lined.submitted
  subst submitted
  refine ⟨lined, ?_⟩
  intro off
  rw [connected] at off
  cases off

theorem inLine_handleRequest {operation : String} {payload : Json}
    {connect : SessionConnect} (inLine : InLine env client) :
    InLine env (handleRequest env client operation payload connect) := by
  have result := connectLined_ensureConnected connect inLine
  unfold handleRequest
  generalize world_eq : called client.world = world at result
  simp only [show ({ client.world with submitted := client.world.submitted + 1 } :
    SessionWorld) = world from world_eq]
  generalize ensureConnected env client.session connect world = connected
    at result ⊢
  rcases connected with ⟨later, stop | session⟩
  · cases stop with
    | error reason => exact inLine_refuseCall result
    | crashed => exact inLine_restart result
  · obtain ⟨lined, connected⟩ := result
    have sending : Still later (later.nextId.socketSend env
        (.request (env.uuid later.generated) operation payload)).1 :=
      still_nextId.trans (still_socketSend rfl later.nextId)
    simp only
    generalize socketSend env
      (.request (env.uuid later.generated) operation payload) later.nextId = sent
      at sending ⊢
    rcases sent with ⟨last, refused⟩
    cases refused with
    | none =>
        have lasting := (lined.still sending).mono (Nat.le_succ _)
        have requested : Lined env
            { session with
              pendingRequests :=
                putKey (env.uuid later.generated) client.world.submitted
                  session.pendingRequests } last (client.world.submitted + 1)
            (client.world.submitted + 1) :=
          ⟨⟨lasting.counted.batches, lasting.counted.events,
            lasting.counted.streams, lasting.counted.distinct⟩,
            lasting.deliveryIds, lasting.fits, lasting.order, lasting.bounded,
            lasting.submitted⟩
        exact inLine_of_lined requested connected
    | some reason =>
        exact inLine_refuseCall
          ((lined.wireLined.still sending).mono (Nat.le_succ _))

/-- The delivery fits the limits, and is not sent past one of its stream. -/
def DeliveryOrdered (session : Session) (delivery : QueuedDelivery) : Prop :=
  (session.canSendDelivery delivery.eventCount delivery.streamKey = true →
    ∀ queued ∈ session.queuedDeliveries, ∀ stream,
      delivery.streamKey = some stream → queued.streamKey ≠ some stream) ∧
  delivery.eventCount ≤ max session.maxInflightEvents 1

theorem lined_sendDirectly {delivery : QueuedDelivery} {payload : Json}
    (lined : Lined env session world delivery.caller calls)
    (ordered : DeliveryOrdered session delivery)
    (sendable : session.canSendDelivery delivery.eventCount
      delivery.streamKey = true) :
    Lined env (sentSession session (env.uuid world.generated) delivery)
      (sentWorld env world delivery payload) (delivery.caller + 1) calls := by
  refine lined.sent sendable ?_ (Nat.le_succ _) (Nat.lt_succ_self _)
  obtain ⟨wired, queued, across⟩ := List.pairwise_append.mp lined.order
  refine List.pairwise_append.mpr ⟨wired, List.pairwise_cons.mpr ⟨?_, queued⟩, ?_⟩
  · intro entry member
    have before := lined.bounded entry (List.mem_append_right _ member)
    refine ⟨before.ne', ?_⟩
    intro stream own other
    obtain ⟨waiting, inQueue, rfl⟩ := List.mem_map.mp member
    exact absurd other (ordered.1 sendable waiting inQueue stream own)
  · intro entry member next line
    rcases List.mem_cons.mp line with rfl | line
    · have before := lined.bounded entry (List.mem_append_left _ member)
      exact ⟨before.ne, fun _ _ _ => before⟩
    · exact across entry member next line

def OrderMeets (env : SessionEnvironment) (client : SessionClient) :
    SessionEvent → Prop
  | .delivery operation payload connect =>
      ∀ later session,
        ensureConnected env client.session connect (called client.world) =
          (later, .ok session) →
        DeliveryOrdered session (submittedDelivery client operation payload)
  | .socketData frames none =>
      client.session.connected = true →
        FramesOrdered env frames client.session client.world
  | _ => True

theorem inLine_handleDelivery {operation : String} {payload : Json}
    {connect : SessionConnect} (inLine : InLine env client)
    (meets : OrderMeets env client (.delivery operation payload connect)) :
    InLine env (handleDelivery env client operation payload connect) := by
  have result := connectLined_ensureConnected connect inLine
  unfold handleDelivery
  simp only [OrderMeets] at meets
  generalize world_eq : called client.world = world at result meets
  simp only [show ({ client.world with submitted := client.world.submitted + 1 } :
    SessionWorld) = world from world_eq]
  generalize ensureConnected env client.session connect world = connected
    at result meets ⊢
  rcases connected with ⟨later, stop | session⟩
  · cases stop with
    | error reason => exact inLine_refuseCall result
    | crashed => exact inLine_restart result
  · obtain ⟨lined, connected⟩ := result
    have ordered := meets later session rfl
    have inHand : Lined env session later
        (submittedDelivery client operation payload).caller
        (client.world.submitted + 1) := lined
    simp only [enqueueOrSendDelivery]
    by_cases sendable : session.canSendDelivery
        (submittedDelivery client operation payload).eventCount
        (submittedDelivery client operation payload).streamKey = true
    · simp only [show session.canSendDelivery (deliveryEventCount operation payload)
        (deliveryStreamKey operation payload) = true from sendable, if_true]
      rcases sendDeliveryNow_cases env session
          (submittedDelivery client operation payload) later with
        ⟨-, sentPayload, sent⟩ | ⟨-, reason, last, refused, quietly, untouched⟩
      · simp only [show sendDeliveryNow env session ⟨_, _, _, _, _⟩ later = _
          from sent]
        exact inLine_of_lined (lined_sendDirectly inHand ordered sendable) connected
      · simp only [show sendDeliveryNow env session ⟨_, _, _, _, _⟩ later = _
          from refused]
        exact inLine_refuseCall
          ((lined.wireLined.still (quietly.still untouched)).mono (Nat.le_succ _))
    · simp only [show ¬ session.canSendDelivery (deliveryEventCount operation payload)
        (deliveryStreamKey operation payload) = true from sendable]
      exact inLine_of_lined (inHand.enqueue ordered.2) connected

theorem inLine_continueAfterSocketData {frames : List ServerFrame}
    (inLine : InLine env client)
    (ordered : FramesOrdered env frames client.session client.world) :
    InLine env (continueAfterSocketData env client frames none) := by
  have routed := routeLined_processBuffer inLine.lined ordered
  unfold continueAfterSocketData
  rcases buffered : processBuffer env frames client.session client.world with
    ⟨later, stop | after⟩
  · rw [buffered] at routed
    cases stop with
    | error reason => exact inLine_fail routed
    | crashed => exact inLine_restart routed
  · rw [buffered] at routed
    have through : Lined env after later _ _ := routed
    have drains := drainLined_drainQueue through rfl
    simp only [drainDeliveryQueue]
    rcases drained : drainQueue env after.queuedDeliveries after later with
      ⟨last, reason | finished⟩
    · rw [drained] at drains
      exact inLine_fail drains
    · rw [drained] at drains
      have lined : Lined env finished last _ _ := drains
      have submitted := lined.submitted
      refine ⟨?_, ?_⟩
      · rw [submitted]
        exact lined
      · intro off
        have kept := (shrinks_processBuffer buffered).trans
          (shrinks_drainQueue rfl drained)
        rw [kept.connected] at off
        have queue := kept.queue
        rw [inLine.ended off] at queue
        exact List.suffix_nil.mp queue

theorem inLine_step {event : SessionEvent} (inLine : InLine env client)
    (meets : OrderMeets env client event) :
    InLine env (step env client event) := by
  have wire := inLine.lined.wireLined
  cases event with
  | request operation payload connect => exact inLine_handleRequest inLine
  | delivery operation payload connect => exact inLine_handleDelivery inLine meets
  | socketData frames activation =>
      rw [step]
      split_ifs with connected
      · cases activation with
        | none => exact inLine_continueAfterSocketData inLine (meets connected)
        | some reason => exact inLine_fail wire
      · exact inLine
  | socketClosed =>
      rw [step]
      split_ifs
      · exact inLine_fail wire
      · exact inLine
  | socketError reason =>
      rw [step]
      split_ifs
      · exact inLine_fail wire
      · exact inLine
  | requestTimeout id =>
      exact inLine_fail (lined_fulfillPendingRequest inLine.lined).wireLined
  | deliveryTimeout id =>
      exact inLine_fail (lined_fulfillPendingDelivery inLine.lined).wireLined

/-- Deliveries of one stream are on the wire in the order of their submission,
each delivery at most once, and the queue is not blocked for ever: once nothing
is in flight its head can be sent. -/
structure InOrder (client : SessionClient) : Prop where
  order : (wireDeliveries client.world.wire).Pairwise Precedes
  progress : client.session.pendingDeliveries = [] →
    ∀ queued rest, client.session.queuedDeliveries = queued :: rest →
      client.session.canSendDelivery queued.eventCount queued.streamKey = true

theorem InLine.inOrder (inLine : InLine env client) : InOrder client where
  order := inLine.lined.wireLined.order
  progress none_pending queued rest queue := by
    have counted := inLine.lined.counted
    have fits := inLine.lined.fits queued (queue ▸ List.mem_cons_self)
    rw [canSendDelivery_iff, counted.batches, counted.events, counted.streams,
      pendingEvents, pendingStreams, none_pending]
    refine ⟨?_, ?_, ?_⟩
    · simp
    · simpa using fits
    · simp

/-- Deliveries are in order after every run whose steps meet the condition. -/
theorem inOrder_of_along (env : SessionEnvironment)
    (events : List SessionEvent)
    (along : Along (step env) (OrderMeets env) init events) :
    InOrder (events.foldl (step env) init) := by
  have inLine : InLine env (events.foldl (step env) init) := by
    apply along.invariant fun _ _ inLine meets => inLine_step inLine meets
    have nothing : WireLined SessionWorld.init 0 0 := ⟨.nil, nofun, rfl⟩
    exact inLine_of_empty nothing ⟨rfl, rfl⟩ ⟨rfl, rfl, rfl⟩
  exact inLine.inOrder

def streamBatch (stream : String) (events : Nat) : Json :=
  .obj [("stream_id", .str stream),
    ("events", .arr (List.replicate events .null))]

def acknowledgement (id : String) : ServerFrame :=
  .message (.obj [("op", .str "ack"), ("delivery_id", .str id),
    ("status", .str "ok"), ("payload", .null)])

def greeting (events : Int) : ServerFrame :=
  .message (.obj [("op", .str "hello"),
    ("flow_control", .obj [("max_inflight_events", .int events)])])

theorem later_delivery_overtakes :
    ¬ InOrder
      (List.foldl (step steadyEnvironment) init
        [.delivery "stream_batch" (streamBatch "first" 1) (.opened [greeting 2] none),
          .delivery "stream_batch" (streamBatch "second" 2) (.opened [] none),
          .delivery "stream_batch" (streamBatch "second" 1) (.opened [] none),
          .socketData [acknowledgement "a", acknowledgement ""] none]) := by
  intro inOrder
  have order := inOrder.order
  have wire : wireDeliveries (List.foldl (step steadyEnvironment) init
      [.delivery "stream_batch" (streamBatch "first" 1) (.opened [greeting 2] none),
        .delivery "stream_batch" (streamBatch "second" 2) (.opened [] none),
        .delivery "stream_batch" (streamBatch "second" 1) (.opened [] none),
        .socketData [acknowledgement "a", acknowledgement ""] none]).world.wire =
      [(0, some "first"), (2, some "second"), (1, some "second")] := by decide
  rw [wire] at order
  simp [Precedes] at order

theorem inOrder_of_along_acknowledged :
    InOrder
      (List.foldl (step steadyEnvironment) init
        [.delivery "stream_batch" (streamBatch "first" 1) (.opened [] none),
          .socketData [acknowledgement ""] none]) := by
  apply inOrder_of_along
  refine .cons ?_ (.cons ?_ (.nil _ _ _))
  · intro later session connected
    have same : opened Session.init = session := by
      cases connected
      rfl
    subst same
    refine ⟨?_, by decide⟩
    intro _ queued member
    cases member
  · intro _
    exact ⟨trivial, fun _ _ _ => trivial⟩

end SessionClient

end Elektrine.Messaging
