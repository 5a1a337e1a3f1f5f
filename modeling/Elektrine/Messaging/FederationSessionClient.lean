import Mathlib.Data.Finset.Option
import Elektrine.Data.Json
import Elektrine.Data.Text

/-!
# The client of a federation session

One process keeps a websocket to a peer.  Callers submit requests and
deliveries; a delivery waits in a queue while too many are in flight or another
one of its stream is.  Frames of the peer answer what is pending, and any error
ends the session.

The functions take the session as the source does, so that a failing one leaves
its caller with the session from before; what has happened outside meanwhile is
kept in a record of its own.
-/

namespace Elektrine.Messaging

abbrev Caller := Nat

inductive SessionReason where
  | sessionClosed
  | sessionTimeout
  | sessionTransportFailed
  | sessionReceiveFailed
  | sessionTransportUnavailable
  | invalidSessionFrame
  | invalidPayload
  | socket (reason : String)
  | remote (code : String)
  deriving DecidableEq, Repr

/-- Why a function does not come back with a session: an error, or an exception
that takes the process down. -/
inductive SessionStop where
  | error (reason : SessionReason)
  | crashed
  deriving DecidableEq, Repr

inductive SessionReply where
  | ok (payload : Json)
  | error (reason : SessionReason)

structure QueuedDelivery where
  caller : Caller
  operation : String
  payload : Json
  eventCount : Nat
  streamKey : Option String

structure PendingDelivery where
  caller : Caller
  eventCount : Nat
  streamKey : Option String

inductive WireFrame where
  | request (id operation : String) (payload : Json)
  | delivery (caller : Caller) (streamKey : Option String)
      (id operation : String) (payload : Json)
  | pong (payload : String)

/-- A frame of the peer; `invalid` is what cannot be decoded. -/
inductive ServerFrame where
  | ping (payload : String)
  | pong
  | close
  | invalid
  | message (payload : Json)

/-- What happens outside of the session: frames written and taken, identifiers
and calls counted, replies given. -/
structure SessionWorld where
  writes : Nat
  generated : Nat
  submitted : Nat
  wire : List WireFrame
  replies : List (Caller × SessionReply)

/-- What identifiers are generated, which writes the socket refuses, and the
reasons that error codes stand for. -/
structure SessionEnvironment where
  uuid : Nat → String
  uuid_injective : Function.Injective uuid
  refusal : Nat → Option SessionReason
  errorReason : String → Option SessionReason

structure Session where
  connected : Bool
  pendingRequests : List (String × Caller)
  pendingDeliveries : List (String × PendingDelivery)
  queuedDeliveries : List QueuedDelivery
  inflightBatches : Nat
  inflightEvents : Nat
  inflightStreams : Finset String
  maxInflightBatches : Nat
  maxInflightEvents : Nat

def defaultMaxInflightBatches : Nat := 4

def defaultMaxInflightEvents : Nat := 128

/-- `Map.pop` on an association list. -/
def popKey {α : Type} (key : String) (entries : List (String × α)) :
    Option α × List (String × α) :=
  (entries.lookup key, entries.eraseP fun entry => entry.1 == key)

/-- `Map.put` on an association list. -/
def putKey {α : Type} (key : String) (value : α)
    (entries : List (String × α)) : List (String × α) :=
  (key, value) :: entries.eraseP fun entry => entry.1 == key

namespace SessionWorld

def init : SessionWorld := ⟨0, 0, 0, [], []⟩

def reply (caller : Caller) (answer : SessionReply) (world : SessionWorld) :
    SessionWorld :=
  { world with replies := world.replies ++ [(caller, answer)] }

def nextId (world : SessionWorld) : SessionWorld :=
  { world with generated := world.generated + 1 }

/-- Write a frame to the socket; `none` when it is taken. -/
def socketSend (env : SessionEnvironment) (frame : WireFrame)
    (world : SessionWorld) : SessionWorld × Option SessionReason :=
  match env.refusal world.writes with
  | none =>
      ({ world with
          writes := world.writes + 1
          wire := world.wire ++ [frame] }, none)
  | some reason => ({ world with writes := world.writes + 1 }, some reason)

end SessionWorld

namespace Session

open SessionWorld

def init : Session where
  connected := false
  pendingRequests := []
  pendingDeliveries := []
  queuedDeliveries := []
  inflightBatches := 0
  inflightEvents := 0
  inflightStreams := ∅
  maxInflightBatches := defaultMaxInflightBatches
  maxInflightEvents := defaultMaxInflightEvents

def deliveryEventCount (operation : String) (payload : Json) : Nat :=
  if operation = "stream_batch" then
    match payload.get "events" with
    | .arr events => max events.length 1
    | _ => 1
  else if operation = "deliver_ephemeral" then
    match payload.get "items" with
    | .arr items => max items.length 1
    | _ => 1
  else 1

def deliveryStreamKey (operation : String) (payload : Json) : Option String :=
  if operation = "stream_batch" then (payload.get "stream_id").asString?
  else none

def deliveryStreamAvailable (session : Session) (streamKey : Option String) :
    Bool :=
  streamKey.all fun key => decide (key ∉ session.inflightStreams)

def canSendDelivery (session : Session) (eventCount : Nat)
    (streamKey : Option String) : Bool :=
  decide (session.inflightBatches < max session.maxInflightBatches 1) &&
    decide (session.inflightEvents + eventCount ≤
      max session.maxInflightEvents 1) &&
    session.deliveryStreamAvailable streamKey

def putPendingDelivery (session : Session) (id : String)
    (delivery : PendingDelivery) : Session :=
  { session with
    pendingDeliveries := putKey id delivery session.pendingDeliveries }

def incrementInflight (session : Session) (eventCount : Nat)
    (streamKey : Option String) : Session :=
  { session with
    inflightBatches := session.inflightBatches + 1
    inflightEvents := session.inflightEvents + eventCount
    inflightStreams := session.inflightStreams ∪ streamKey.toFinset }

def decrementInflight (session : Session) (eventCount : Nat)
    (streamKey : Option String) : Session :=
  { session with
    inflightBatches := session.inflightBatches - 1
    inflightEvents := session.inflightEvents - eventCount
    inflightStreams := session.inflightStreams \ streamKey.toFinset }

def normalizeDeliveryPayload (operation : String) (payload : Json)
    (id : String) : Option Json :=
  if payload.isMap then
    if ["stream_batch", "deliver_ephemeral"].contains operation then
      some ((payload.put "version" (.int 1)).put "delivery_id" (.str id))
    else
      some payload
  else
    none

def sendDeliveryNow (env : SessionEnvironment) (session : Session)
    (delivery : QueuedDelivery) (world : SessionWorld) :
    SessionWorld × Except SessionReason Session :=
  let id := env.uuid world.generated
  match normalizeDeliveryPayload delivery.operation delivery.payload id with
  | none => (world.nextId, .error .invalidPayload)
  | some payload =>
      match socketSend env
          (.delivery delivery.caller delivery.streamKey id delivery.operation
            payload) world.nextId with
      | (world, some reason) => (world, .error reason)
      | (world, none) =>
          (world,
            .ok ((session.putPendingDelivery id
              ⟨delivery.caller, delivery.eventCount, delivery.streamKey⟩).incrementInflight
                delivery.eventCount delivery.streamKey))

def enqueueOrSendDelivery (env : SessionEnvironment) (session : Session)
    (caller : Caller) (operation : String) (payload : Json)
    (world : SessionWorld) : SessionWorld × Except SessionReason Session :=
  let delivery : QueuedDelivery :=
    ⟨caller, operation, payload, deliveryEventCount operation payload,
      deliveryStreamKey operation payload⟩
  if session.canSendDelivery delivery.eventCount delivery.streamKey then
    sendDeliveryNow env session delivery world
  else
    (world,
      .ok { session with
        queuedDeliveries := session.queuedDeliveries ++ [delivery] })

def drainQueue (env : SessionEnvironment) :
    List QueuedDelivery → Session → SessionWorld →
      SessionWorld × Except SessionReason Session
  | [], session, world => (world, .ok session)
  | queued :: rest, session, world =>
      if session.canSendDelivery queued.eventCount queued.streamKey then
        match sendDeliveryNow env { session with queuedDeliveries := rest }
            queued world with
        | (world, .ok session) => drainQueue env rest session world
        | (world, .error reason) => (world, .error reason)
      else
        (world, .ok session)

def drainDeliveryQueue (env : SessionEnvironment) (session : Session)
    (world : SessionWorld) : SessionWorld × Except SessionReason Session :=
  drainQueue env session.queuedDeliveries session world

def maybeDrainAfterAck (env : SessionEnvironment) (session : Session)
    (world : SessionWorld) : SessionWorld × Session :=
  match drainDeliveryQueue env session world with
  | (world, .ok drained) => (world, drained)
  | (world, .error _) => (world, session)

def fulfillPendingRequest (session : Session) (id : String)
    (answer : SessionReply) (world : SessionWorld) : SessionWorld × Session :=
  match popKey id session.pendingRequests with
  | (none, _) => (world, session)
  | (some caller, rest) =>
      (world.reply caller answer, { session with pendingRequests := rest })

def fulfillPendingDelivery (session : Session) (id : String)
    (answer : SessionReply) (world : SessionWorld) : SessionWorld × Session :=
  match popKey id session.pendingDeliveries with
  | (none, _) => (world, session)
  | (some delivery, rest) =>
      (world.reply delivery.caller answer,
        ({ session with pendingDeliveries := rest } : Session).decrementInflight
          delivery.eventCount delivery.streamKey)

def failAllPending (session : Session) (reason : SessionReason)
    (world : SessionWorld) : SessionWorld × Session :=
  ({ world with
      replies := world.replies ++
        (session.pendingRequests.map fun entry => (entry.2, .error reason)) ++
        session.pendingDeliveries.map fun entry =>
          (entry.2.caller, .error reason) },
    { session with
      pendingRequests := []
      pendingDeliveries := []
      queuedDeliveries := []
      inflightBatches := 0
      inflightEvents := 0
      inflightStreams := ∅ })

def disconnect (session : Session) : Session :=
  { session with
    connected := false
    inflightBatches := 0
    inflightEvents := 0 }

def failAndDisconnect (session : Session) (reason : SessionReason)
    (world : SessionWorld) : SessionWorld × Session :=
  let failed := session.failAllPending reason world
  (failed.1, failed.2.disconnect)

def parsePositiveInteger (value : Json) (fallback : Nat) : Nat :=
  match value with
  | .int number => if 0 < number then number.toNat else fallback
  | .str text =>
      match integerParseExact text with
      | some number => if 0 < number then number.toNat else fallback
      | none => fallback
  | _ => fallback

/-- The flow control a hello frame announces; `none` when reading it raises. -/
def helloFlowControl (payload : Json) : Option Json :=
  let profiles := payload.get "transport_profiles"
  if payload.has "transport_profiles" && !profiles.isMap then
    none
  else
    let profile := profiles.get "session_websocket"
    match (payload.get "flow_control").orElse .null with
    | .null =>
        if profile.isMap || profile.isNull then
          match (profile.get "flow_control").orElse (.obj []) with
          | .obj fields => some (.obj fields)
          | _ => none
        else
          none
    | .obj fields => some (.obj fields)
    | _ => none

def applyHelloFrame (session : Session) (payload : Json) : Option Session :=
  (helloFlowControl payload).map fun flowControl =>
    { session with
      maxInflightBatches :=
        parsePositiveInteger (flowControl.get "max_inflight_batches")
          defaultMaxInflightBatches
      maxInflightEvents :=
        parsePositiveInteger (flowControl.get "max_inflight_events")
          defaultMaxInflightEvents }

def responseReason (env : SessionEnvironment) : Json → SessionReason
  | .str code => (env.errorReason code).getD .sessionTransportFailed
  | _ => .sessionTransportFailed

inductive ServerMessage where
  | hello
  | response (id : String) (answer : SessionReply)
  | ack (id : String) (answer : SessionReply)
  | other

def messageAnswer (env : SessionEnvironment) (payload : Json) :
    Option SessionReply :=
  match payload.get "status" with
  | .str status =>
      if status = "ok" ∧ payload.has "payload" then
        some (.ok (payload.get "payload"))
      else if status = "error" ∧ payload.has "code" then
        some (.error (responseReason env (payload.get "code")))
      else none
  | _ => none

def readMessage (env : SessionEnvironment) (payload : Json) : ServerMessage :=
  match payload.get "op" with
  | .str op =>
      if op = "hello" then
        .hello
      else if op = "response" then
        match payload.get "request_id", messageAnswer env payload with
        | .str id, some answer => .response id answer
        | _, _ => .other
      else if op = "ack" then
        match payload.get "delivery_id", messageAnswer env payload with
        | .str id, some answer => .ack id answer
        | _, _ => .other
      else .other
  | _ => .other

def routePayload (env : SessionEnvironment) (session : Session) (payload : Json)
    (world : SessionWorld) : SessionWorld × Except SessionStop Session :=
  match readMessage env payload with
  | .hello =>
      match session.applyHelloFrame payload with
      | some greeted => (world, .ok greeted)
      | none => (world, .error .crashed)
  | .response id answer =>
      let answered := session.fulfillPendingRequest id answer world
      (answered.1, .ok answered.2)
  | .ack id answer =>
      let answered := session.fulfillPendingDelivery id answer world
      let drained := answered.2.maybeDrainAfterAck env answered.1
      (drained.1, .ok drained.2)
  | .other => (world, .ok session)

def routeFrame (env : SessionEnvironment) (session : Session)
    (frame : ServerFrame) (world : SessionWorld) :
    SessionWorld × Except SessionStop Session :=
  match frame with
  | .ping payload =>
      match socketSend env (.pong payload) world with
      | (world, none) => (world, .ok session)
      | (world, some _) => (world, .error (.error .sessionReceiveFailed))
  | .pong => (world, .ok session)
  | .close => (world, .error (.error .sessionClosed))
  | .invalid => (world, .error (.error .invalidSessionFrame))
  | .message payload => session.routePayload env payload world

def processBuffer (env : SessionEnvironment) :
    List ServerFrame → Session → SessionWorld →
      SessionWorld × Except SessionStop Session
  | [], session, world => (world, .ok session)
  | frame :: rest, session, world =>
      match session.routeFrame env frame world with
      | (world, .ok session) => processBuffer env rest session world
      | (world, .error stop) => (world, .error stop)

end Session

inductive SessionConnect where
  | refused (reason : SessionReason)
  | opened (frames : List ServerFrame) (activation : Option SessionReason)

inductive SessionEvent where
  | request (operation : String) (payload : Json) (connect : SessionConnect)
  | delivery (operation : String) (payload : Json) (connect : SessionConnect)
  | socketData (frames : List ServerFrame) (activation : Option SessionReason)
  | socketClosed
  | socketError (reason : String)
  | requestTimeout (id : String)
  | deliveryTimeout (id : String)

structure SessionClient where
  session : Session
  world : SessionWorld

namespace SessionClient

open SessionWorld

def init : SessionClient := ⟨.init, .init⟩

def restart (world : SessionWorld) : SessionClient := ⟨.init, world⟩

def ensureConnected (env : SessionEnvironment) (session : Session)
    (connect : SessionConnect) (world : SessionWorld) :
    SessionWorld × Except SessionStop Session :=
  if session.connected then
    (world, .ok session)
  else
    match connect with
    | .refused reason => (world, .error (.error reason))
    | .opened _ (some reason) => (world, .error (.error reason))
    | .opened frames none =>
        Session.processBuffer env frames { session with connected := true } world

def refuseCall (session : Session) (caller : Caller) (reason : SessionReason)
    (world : SessionWorld) : SessionClient :=
  let failed := session.failAndDisconnect reason world
  ⟨failed.2, failed.1.reply caller (.error reason)⟩

def handleRequest (env : SessionEnvironment) (client : SessionClient)
    (operation : String) (payload : Json) (connect : SessionConnect) :
    SessionClient :=
  let caller := client.world.submitted
  let called := { client.world with submitted := caller + 1 }
  match ensureConnected env client.session connect called with
  | (world, .error (.error reason)) =>
      refuseCall client.session caller reason world
  | (world, .error .crashed) => restart world
  | (world, .ok session) =>
      let id := env.uuid world.generated
      match socketSend env (.request id operation payload) world.nextId with
      | (world, some reason) => refuseCall client.session caller reason world
      | (world, none) =>
          ⟨{ session with
              pendingRequests := putKey id caller session.pendingRequests },
            world⟩

def handleDelivery (env : SessionEnvironment) (client : SessionClient)
    (operation : String) (payload : Json) (connect : SessionConnect) :
    SessionClient :=
  let caller := client.world.submitted
  let called := { client.world with submitted := caller + 1 }
  match ensureConnected env client.session connect called with
  | (world, .error (.error reason)) =>
      refuseCall client.session caller reason world
  | (world, .error .crashed) => restart world
  | (world, .ok session) =>
      match session.enqueueOrSendDelivery env caller operation payload world with
      | (world, .ok session) => ⟨session, world⟩
      | (world, .error reason) => refuseCall client.session caller reason world

def fail (client : SessionClient) (reason : SessionReason) : SessionClient :=
  let failed := client.session.failAndDisconnect reason client.world
  ⟨failed.2, failed.1⟩

def continueAfterSocketData (env : SessionEnvironment) (client : SessionClient)
    (frames : List ServerFrame) (activation : Option SessionReason) :
    SessionClient :=
  match activation with
  | some reason => client.fail reason
  | none =>
      match Session.processBuffer env frames client.session client.world with
      | (world, .error (.error reason)) => fail ⟨client.session, world⟩ reason
      | (world, .error .crashed) => restart world
      | (world, .ok session) =>
          match session.drainDeliveryQueue env world with
          | (world, .ok session) => ⟨session, world⟩
          | (world, .error reason) => fail ⟨client.session, world⟩ reason

def step (env : SessionEnvironment) (client : SessionClient) :
    SessionEvent → SessionClient
  | .request operation payload connect =>
      handleRequest env client operation payload connect
  | .delivery operation payload connect =>
      handleDelivery env client operation payload connect
  | .socketData frames activation =>
      if client.session.connected then
        continueAfterSocketData env client frames activation
      else client
  | .socketClosed =>
      if client.session.connected then client.fail .sessionClosed else client
  | .socketError reason =>
      if client.session.connected then client.fail (.socket reason) else client
  | .requestTimeout id =>
      let answered := client.session.fulfillPendingRequest id
        (.error .sessionTimeout) client.world
      fail ⟨answered.2, answered.1⟩ .sessionTimeout
  | .deliveryTimeout id =>
      let answered := client.session.fulfillPendingDelivery id
        (.error .sessionTimeout) client.world
      fail ⟨answered.2, answered.1⟩ .sessionTimeout

end SessionClient

end Elektrine.Messaging
