import Elektrine.Data.Enum
import Elektrine.Library.Runs

/-!
# The inbox queue

Request processes look up an activity's id, mark it and insert the activity into a table;
the queue process takes batches out of the table and inserts them as jobs.  The steps of the
request processes and of a flush come in any order.
-/

namespace Elektrine.ActivityPub.InboxQueue

structure Activity where
  id : Option String
  type : Option String
  objectType : Option String
  content : String
  deriving DecidableEq, Repr

structure Request where
  activity : Activity
  actorUri : String
  targetUserId : Option Nat
  deriving DecidableEq, Repr

/-- A row of the table; `call` is the place of the call that has inserted it. -/
structure Item where
  call : Nat
  request : Request
  activityId : Option String
  queuedAt : Nat
  deriving DecidableEq, Repr

structure Job where
  call : Nat
  request : Request
  activityId : Option String
  priority : Nat
  deriving DecidableEq, Repr

def maxBatchSize : Nat := 25

def insertChunkSize : Nat := 5

def maxQueueSize : Nat := 5000

def announcePriority : Option String → Nat
  | some "Note" | some "Page" | some "Article" | some "Create" | some "Update"
  | some "Delete" => 0
  | some "Like" | some "Dislike" | some "EmojiReact" => 2
  | _ => 1

def activityPriority (activity : Activity) : Option Nat :=
  activity.type.map fun type =>
    match type with
    | "Create" | "Update" | "Delete" => 0
    | "Like" | "Dislike" | "EmojiReact" => 2
    | "Announce" => announcePriority activity.objectType
    | _ => 1

/-- `build_job`, which raises without a type. -/
def buildJob (item : Item) : Option Job :=
  (activityPriority item.request.activity).map fun priority =>
    ⟨item.call, item.request, item.activityId, priority⟩

def reactions : List String := ["Like", "Dislike", "EmojiReact"]

def lowPriorityActivity (activity : Activity) : Bool :=
  match activity.type, activity.objectType with
  | some "Undo", some objectType => reactions.contains objectType
  | some type, _ => reactions.contains type
  | none, _ => false

inductive Answer where
  | queued
  | duplicate
  | shed
  | failed
  deriving DecidableEq, Repr

/-- What a call of `enqueue` has done, with the time of its lookup. -/
inductive Stage where
  | requested
  | lookedUp (time : Nat)
  | passed (time : Nat)
  | marked (time : Nat)
  | answered (answer : Answer) (time : Nat)
  | died
  deriving DecidableEq, Repr

structure Call where
  request : Request
  stage : Stage
  deriving DecidableEq, Repr

def Call.id (call : Call) : Option String := call.request.activity.id

inductive Flush where
  | idle
  | taking (batch : List Item)
  | inserting (chunks : List (List Item))
  | returning (failed : List Item)
  | cleaning

/-- The time is in milliseconds; `dedup` has whole seconds. -/
structure State where
  clock : Nat
  queue : List Item
  dedup : String → Option Nat
  jobs : List Job
  flush : Flush
  calls : List Call

def State.seconds (state : State) : Nat := state.clock / 1000

def alreadyQueued (state : State) (activityId : String) : Bool :=
  match state.dedup activityId with
  | some timestamp => state.seconds < timestamp + 60
  | none => false

def overloadDrop (state : State) (activity : Activity) : Bool :=
  maxQueueSize ≤ state.queue.length && lowPriorityActivity activity

def State.set (state : State) (index : Nat) (call : Call) (stage : Stage) : State :=
  { state with calls := state.calls.set index { call with stage := stage } }

def State.lookUp (state : State) (index : Nat) (call : Call) : State :=
  let found :=
    match call.id with
    | some activityId => alreadyQueued state activityId
    | none => false
  if found then state.set index call (.answered .duplicate state.clock)
  else state.set index call (.lookedUp state.clock)

def State.checkOverload (state : State) (index : Nat) (call : Call) (time : Nat) : State :=
  if overloadDrop state call.request.activity then
    state.set index call (.answered .shed time)
  else state.set index call (.passed time)

def Call.item (call : Call) (index queuedAt : Nat) : Item :=
  ⟨index, call.request, call.id, queuedAt⟩

def State.insertJob (state : State) (index : Nat) (call : Call) (time : Nat) (succeeds : Bool) :
    State :=
  match buildJob (call.item index state.clock), succeeds with
  | none, _ => state.set index call .died
  | some _, false => state.set index call (.answered .failed time)
  | some job, true =>
      { state with
        jobs := state.jobs ++ [job]
        calls := state.calls.set index { call with stage := .answered .queued time } }

/-- `mark_queued`, for an activity with an id. -/
def State.markQueued (state : State) (index : Nat) (call : Call) (time : Nat) : State :=
  { state with
    dedup := fun activityId =>
      if call.id = some activityId then some state.seconds else state.dedup activityId
    calls := state.calls.set index { call with stage := .marked time } }

def State.insertItem (state : State) (index : Nat) (call : Call) (time : Nat) : State :=
  { state with
    queue := state.queue ++ [call.item index state.clock]
    calls := state.calls.set index { call with stage := .answered .queued time } }

def State.advance (testModeBypass : Bool) (state : State) (index : Nat) (call : Call)
    (succeeds : Bool) : State :=
  match call.stage with
  | .requested => state.lookUp index call
  | .lookedUp time => state.checkOverload index call time
  | .passed time =>
      if testModeBypass then state.insertJob index call time succeeds
      else state.markQueued index call time
  | .marked time => state.insertItem index call time
  | .answered _ _ | .died => state

def State.restart (state : State) : State :=
  { state with queue := [], dedup := fun _ => none, flush := .idle }

/-- `take_batch` takes a row that it comes across. -/
def State.take (state : State) (place : Nat) : State :=
  match state.flush, state.queue[place]? with
  | .taking batch, some item =>
      if batch.length < maxBatchSize then
        { state with
          queue := state.queue.eraseIdx place
          flush := .taking (batch ++ [item]) }
      else state
  | _, _ => state

/-- `do_insert_chunks` on the next chunk: the jobs are built in front of the insert, whose
exceptions are caught. -/
def State.insertChunk (state : State) (chunk : List Item) (rest : List (List Item))
    (succeeds : Bool) : State :=
  match chunk.mapM buildJob with
  | none => state.restart
  | some jobs =>
      if succeeds then { state with jobs := state.jobs ++ jobs, flush := .inserting rest }
      else { state with flush := .returning (chunk ++ rest.flatten) }

/-- `cleanup_dedup` -/
def State.cleanup (state : State) : State :=
  { state with
    dedup := fun activityId => (state.dedup activityId).filter fun timestamp =>
      !(timestamp + 120 < state.seconds) }

def State.flushStep (state : State) (chance : Bool) : State :=
  match state.flush with
  | .idle => { state with flush := .taking [] }
  | .taking [] => { state with flush := .idle }
  | .taking batch => { state with flush := .inserting (chunkEvery insertChunkSize batch) }
  | .inserting [] => { state with flush := .cleaning }
  | .inserting (chunk :: rest) => state.insertChunk chunk rest chance
  | .returning [] => { state with flush := .cleaning }
  | .returning (item :: failed) =>
      { state with queue := state.queue ++ [item], flush := .returning failed }
  | .cleaning =>
      if chance then { state.cleanup with flush := .idle } else { state with flush := .idle }

inductive Move where
  | enqueue (request : Request)
  | advance (index : Nat) (succeeds : Bool)
  | die (index : Nat)
  | take (place : Nat)
  | flush (chance : Bool)
  | tick (milliseconds : Nat)

def step (testModeBypass : Bool) (state : State) : Move → State
  | .enqueue request => { state with calls := state.calls ++ [⟨request, .requested⟩] }
  | .advance index succeeds =>
      match state.calls[index]? with
      | none => state
      | some call => state.advance testModeBypass index call succeeds
  | .die index =>
      match state.calls[index]? with
      | none => state
      | some call =>
          match call.stage with
          | .answered _ _ => state
          | _ => state.set index call .died
  | .take place => state.take place
  | .flush chance => state.flushStep chance
  | .tick milliseconds => { state with clock := state.clock + milliseconds }

def start : State := ⟨0, [], fun _ => none, [], .idle, []⟩

end Elektrine.ActivityPub.InboxQueue
