import Elektrine.Library.Runs
import Elektrine.Library.Metering

/-!
# The rate limiter

Each identifier has an entry with the times of its attempts, the newest first, and the end of
its lockout.  A call checks the entry and records an attempt under a lock of the identifier;
the cleanup copies the table and then deletes or rewrites the entries one by one, without
the lock.
-/

namespace Elektrine.RateLimiting

open Elektrine.Library

structure Limit where
  windowSeconds : Nat
  maxAttempts : Nat
deriving DecidableEq, Repr

structure Config where
  limits : List Limit
  lockoutSeconds : Option Nat
deriving DecidableEq, Repr

/-- `Enum.max` of the windows, or an hour. -/
def Config.maxWindow (config : Config) : Nat :=
  match config.limits.map Limit.windowSeconds with
  | [] => 3600
  | window :: windows => windows.foldl max window

structure Entry where
  attempts : List Nat
  lockedUntil : Option Nat
deriving DecidableEq, Repr

structure Row (Identifier : Type) where
  identifier : Identifier
  entry : Entry
deriving DecidableEq, Repr

inductive Refusal where
  | lockedOut (retryAfter : Nat)
  | limited (retryAfter : Nat) (reason : String)
deriving DecidableEq, Repr

def formatLimitReason (seconds count max : Nat) : String :=
  match seconds with
  | 60 => count.repr ++ "/" ++ max.repr ++ " attempts in last minute"
  | 3600 => count.repr ++ "/" ++ max.repr ++ " attempts in last hour"
  | 86400 => count.repr ++ "/" ++ max.repr ++ " attempts in last day"
  | _ => count.repr ++ "/" ++ max.repr ++ " attempts in last " ++ seconds.repr ++ "s"

def reached (attempts : List Nat) (now : Nat) (limit : Limit) : Bool :=
  decide (limit.maxAttempts ≤ countRecent attempts now limit.windowSeconds)

section Operations

variable (config : Config)

def checkLimits (attempts : List Nat) (now : Nat) : Except Refusal Unit :=
  match config.limits.find? (reached attempts now) with
  | none => .ok ()
  | some limit =>
      .error (.limited limit.windowSeconds
        (formatLimitReason limit.windowSeconds
          (countRecent attempts now limit.windowSeconds) limit.maxAttempts))

def locked (lockedUntil : Option Nat) (now : Nat) : Bool :=
  lockedUntil.any fun last => decide (now < last)

/-- `check_rate_limit`, of the entry that was found. -/
def checkEntry (entry : Option Entry) (now : Nat) : Except Refusal Unit :=
  match entry with
  | none => .ok ()
  | some entry =>
      match entry.lockedUntil with
      | none => checkLimits config entry.attempts now
      | some last =>
          if now < last then .error (.lockedOut (last - now))
          else checkLimits config entry.attempts now

def filterRecentAttempts (attempts : List Nat) (now : Nat) : List Nat :=
  attempts.filter fun time => decide (now < time + config.maxWindow)

def calculateLockout (attempts : List Nat) (now : Nat) : Option Nat :=
  config.lockoutSeconds.bind fun seconds =>
    if config.limits.any (reached attempts now) then some (now + seconds) else none

/-- The entry that `record_attempt` inserts. -/
def recordedEntry (entry : Option Entry) (now : Nat) : Entry :=
  match entry with
  | none => ⟨[now], none⟩
  | some entry =>
      let attempts := now :: filterRecentAttempts config entry.attempts now
      ⟨attempts, calculateLockout config attempts now⟩

inductive CleanupAction where
  | delete
  | insert (entry : Entry)
  | keep
deriving DecidableEq, Repr

def outlived (attempts : List Nat) (now : Nat) : Bool :=
  attempts.getLast?.any fun oldest => decide (oldest + config.maxWindow * 2 < now)

def cleanedAttempts (attempts : List Nat) (now : Nat) : List Nat :=
  attempts.filter fun time => decide (now < time + config.maxWindow * 2)

/-- What `cleanup_expired_entries` does with an entry of its copy. -/
def cleanupEntry (now : Nat) (entry : Entry) : CleanupAction :=
  if outlived config entry.attempts now && !locked entry.lockedUntil now then .delete
  else
    let recent := cleanedAttempts config entry.attempts now
    if recent ≠ entry.attempts then
      .insert ⟨recent, if locked entry.lockedUntil now then entry.lockedUntil else none⟩
    else .keep

end Operations

/-- How far a call of `check_and_record` has come: the check has let it pass, or the entry
that it is going to insert has been made at a time. -/
inductive Stage where
  | passed
  | recorded (time : Nat) (entry : Entry)
deriving DecidableEq, Repr

structure Call (Identifier : Type) where
  identifier : Identifier
  stage : Stage
deriving DecidableEq, Repr

structure Mark (Identifier : Type) where
  identifier : Identifier
  time : Nat
deriving DecidableEq, Repr

/-- The table, the clock, the calls that hold a lock, and what the cleanup has still to go
through.  The allowed calls and the lockouts that were set are kept, and the refusals. -/
structure State (Identifier : Type) where
  table : List (Row Identifier)
  clock : Nat
  calls : List (Call Identifier)
  sweepTime : Nat
  sweep : List (Row Identifier)
  allowed : List (Mark Identifier)
  lockouts : List (Mark Identifier)
  refused : List (Identifier × Refusal)
deriving DecidableEq, Repr

inductive Move (Identifier : Type) where
  | check (identifier : Identifier) (now : Nat)
  /-- `record_attempt` takes the time and looks the entry up again. -/
  | record (identifier : Identifier) (now : Nat)
  | insert (identifier : Identifier)
  | beginCleanup (now : Nat)
  | cleanNext
deriving DecidableEq, Repr

variable {Identifier : Type}

def start (clock : Nat) : State Identifier :=
  { table := []
    clock := clock
    calls := []
    sweepTime := clock
    sweep := []
    allowed := []
    lockouts := []
    refused := [] }

section Tables

variable [DecidableEq Identifier]

def timesOf (marks : List (Mark Identifier)) (identifier : Identifier) : List Nat :=
  (marks.filter fun mark => decide (mark.identifier = identifier)).map Mark.time

def lookup (table : List (Row Identifier)) (identifier : Identifier) : Option Entry :=
  (table.find? fun row => decide (row.identifier = identifier)).map Row.entry

def remove (table : List (Row Identifier)) (identifier : Identifier) : List (Row Identifier) :=
  table.filter fun row => decide (row.identifier ≠ identifier)

def put (table : List (Row Identifier)) (identifier : Identifier) (entry : Entry) :
    List (Row Identifier) :=
  ⟨identifier, entry⟩ :: remove table identifier

def holder (calls : List (Call Identifier)) (identifier : Identifier) : Option Stage :=
  (calls.find? fun call => decide (call.identifier = identifier)).map Call.stage

def release (calls : List (Call Identifier)) (identifier : Identifier) : List (Call Identifier) :=
  calls.filter fun call => decide (call.identifier ≠ identifier)

def CleanupAction.perform (action : CleanupAction) (table : List (Row Identifier))
    (identifier : Identifier) : List (Row Identifier) :=
  match action with
  | .delete => remove table identifier
  | .insert entry => put table identifier entry
  | .keep => table

variable (config : Config)

def State.check (state : State Identifier) (identifier : Identifier) (now : Nat) :
    State Identifier :=
  match checkEntry config (lookup state.table identifier) now with
  | .ok () => { state with clock := now, calls := ⟨identifier, .passed⟩ :: state.calls }
  | .error refusal =>
      { state with clock := now, refused := state.refused ++ [(identifier, refusal)] }

def State.record (state : State Identifier) (identifier : Identifier) (now : Nat) :
    State Identifier :=
  { state with
    clock := now
    calls := ⟨identifier, .recorded now
      (recordedEntry config (lookup state.table identifier) now)⟩ :: release state.calls identifier }

def State.insert (state : State Identifier) (identifier : Identifier) (time : Nat)
    (entry : Entry) : State Identifier :=
  { state with
    table := put state.table identifier entry
    calls := release state.calls identifier
    allowed := ⟨identifier, time⟩ :: state.allowed
    lockouts := (entry.lockedUntil.map fun last => ⟨identifier, last⟩).toList ++ state.lockouts }

/-- A time is taken only when the clock has not gone back, and the lock of an identifier only
when no call holds it. -/
def step (state : State Identifier) : Move Identifier → State Identifier
  | .check identifier now =>
      if state.clock ≤ now ∧ holder state.calls identifier = none then
        state.check config identifier now
      else state
  | .record identifier now =>
      if state.clock ≤ now ∧ holder state.calls identifier = some .passed then
        state.record config identifier now
      else state
  | .insert identifier =>
      match holder state.calls identifier with
      | some (.recorded time entry) => state.insert identifier time entry
      | _ => state
  | .beginCleanup now =>
      if state.clock ≤ now ∧ state.sweep = [] then
        { state with clock := now, sweepTime := now, sweep := state.table }
      else state
  | .cleanNext =>
      match state.sweep with
      | [] => state
      | row :: rows =>
          { state with
            table := (cleanupEntry config state.sweepTime row.entry).perform state.table
              row.identifier
            sweep := rows }

end Tables

section Property

variable [DecidableEq Identifier]

/-- In no window of a limit are there more allowed calls of an identifier than its maximum,
and a lockout that was set stands until its end. -/
structure Limited (config : Config) (state : State Identifier) : Prop where
  allowed : ∀ identifier, ∀ limit ∈ config.limits,
    AtMost limit.maxAttempts limit.windowSeconds (timesOf state.allowed identifier)
  lockouts : ∀ mark ∈ state.lockouts, state.clock < mark.time →
    (lookup state.table mark.identifier).bind Entry.lockedUntil = some mark.time

/-- The condition on a step and the state before it.  An identifier without an entry is
checked only where every maximum is at least one, and the cleanup deletes or rewrites an
entry only while it is as in its copy. -/
def Careful (config : Config) (state : State Identifier) : Move Identifier → Prop
  | .check identifier _ =>
      lookup state.table identifier = none → ∀ limit ∈ config.limits, 0 < limit.maxAttempts
  | .cleanNext =>
      ∀ row rows, state.sweep = row :: rows →
        cleanupEntry config state.sweepTime row.entry ≠ .keep →
        lookup state.table row.identifier = some row.entry
  | _ => True

end Property

end Elektrine.RateLimiting
