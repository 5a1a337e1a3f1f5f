import Elektrine.Library.Metering
import Elektrine.Library.Runs

/-!
# Bandwidth quotas

A peer's counters are cumulative and the quota is for thirty days.  A report loads the
config and starts a task that later takes the clock, compares the counters with those of the
loaded config and overwrites the row.
-/

namespace Elektrine.VPN

open Elektrine.Library

inductive ConfigStatus where
  | active
  | suspended
  | revoked
deriving DecidableEq, Repr

structure UserConfig where
  status : ConfigStatus
  lastHandshakeAt : Option Nat
  bytesSent : Nat
  bytesReceived : Nat
  bandwidthQuotaBytes : Nat
  quotaPeriodStart : Option Nat
  quotaUsedBytes : Nat
deriving DecidableEq, Repr

structure PeerStats where
  bytesSent : Option Nat
  bytesReceived : Option Nat
  lastHandshake : Option Nat
deriving DecidableEq, Repr

/-- The values that `bytes_sent` and `bytes_received` default to. -/
structure Counters where
  bytesSent : Nat
  bytesReceived : Nat
deriving DecidableEq, Repr

def PeerStats.counters (peer : PeerStats) : Counters :=
  ⟨peer.bytesSent.getD 0, peer.bytesReceived.getD 0⟩

def UserConfig.counters (userConfig : UserConfig) : Counters :=
  ⟨userConfig.bytesSent, userConfig.bytesReceived⟩

def Counters.total (counters : Counters) : Nat :=
  counters.bytesSent + counters.bytesReceived

def quotaPeriodStart (userConfig : UserConfig) (now : Nat) : Nat :=
  if 30 ≤ (now - userConfig.quotaPeriodStart.getD now) / 86400 then now
  else userConfig.quotaPeriodStart.getD now

def bandwidthDelta (userConfig : UserConfig) (counters : Counters) : Nat :=
  if counters.total < userConfig.counters.total then counters.total
  else counters.total - userConfig.counters.total

def quotaUsedBytes (userConfig : UserConfig) (counters : Counters) (now : Nat) : Nat :=
  if some (quotaPeriodStart userConfig now) = userConfig.quotaPeriodStart then
    userConfig.quotaUsedBytes + bandwidthDelta userConfig counters
  else counters.total

/-- `quota_percent > 105`, where a quota of zero gives zero percent. -/
def overQuota (quotaUsed bandwidthQuota : Nat) : Bool :=
  decide (0 < bandwidthQuota) && decide (105 * bandwidthQuota < 100 * quotaUsed)

def newStatus (userConfig : UserConfig) (quotaUsed : Nat) : ConfigStatus :=
  if overQuota quotaUsed userConfig.bandwidthQuotaBytes && userConfig.status == .active then
    .suspended
  else userConfig.status

/-- The row after the task's single `update_all`: everything but the quota and, without a
handshake, its time comes from the config that the report loaded. -/
def checkAndUpdateQuota (userConfig : UserConfig) (peer : PeerStats) (now : Nat)
    (bannedOrSuspended : Bool) (row : UserConfig) : UserConfig :=
  if bannedOrSuspended then { row with status := .revoked }
  else
    { status := newStatus userConfig (quotaUsedBytes userConfig peer.counters now)
      lastHandshakeAt := peer.lastHandshake.or row.lastHandshakeAt
      bytesSent := peer.counters.bytesSent
      bytesReceived := peer.counters.bytesReceived
      bandwidthQuotaBytes := row.bandwidthQuotaBytes
      quotaPeriodStart := some (quotaPeriodStart userConfig now)
      quotaUsedBytes := quotaUsedBytes userConfig peer.counters now }

/-- One of the two counters is smaller than it was: the interface has restarted. -/
def Counters.Fell (before after : Counters) : Prop :=
  after.bytesSent < before.bytesSent ∨ after.bytesReceived < before.bytesReceived

instance (before after : Counters) : Decidable (before.Fell after) :=
  inferInstanceAs (Decidable (_ ∨ _))

def Counters.traffic (before after : Counters) : Nat :=
  if before.Fell after then after.total else after.total - before.total

structure Task where
  userConfig : UserConfig
  peer : PeerStats
  traffic : Nat
deriving DecidableEq, Repr

def Task.counters (task : Task) : Counters :=
  task.peer.counters

/-- The row, the last report and the tasks that are under way.  The log says what the tasks
that are done counted, and with how many bytes the periods before the row's have ended. -/
structure Reporting where
  config : UserConfig
  reported : Counters
  tasks : List Task
  counted : List Metered
  ended : Nat
deriving DecidableEq, Repr

inductive QuotaEvent where
  | report (peer : PeerStats)
  | update (index now : Nat) (bannedOrSuspended : Bool)
deriving DecidableEq, Repr

/-- `report_peer_stats` for the peer of this config. -/
def Reporting.receive (state : Reporting) (peer : PeerStats) : Reporting :=
  { state with
    reported := peer.counters
    tasks := state.tasks ++ [⟨state.config, peer, state.reported.traffic peer.counters⟩] }

def Reporting.update (state : Reporting) (index : Nat) (task : Task) (now : Nat)
    (bannedOrSuspended : Bool) : Reporting :=
  let config := checkAndUpdateQuota task.userConfig task.peer now bannedOrSuspended state.config
  { config := config
    reported := state.reported
    tasks := state.tasks.eraseIdx index
    counted := state.counted ++ [⟨now, task.traffic⟩]
    ended :=
      if config.quotaPeriodStart = state.config.quotaPeriodStart then state.ended
      else state.ended + state.config.quotaUsedBytes }

def Reporting.started (bandwidthQuota : Nat) (start : Option Nat) (counters : Counters) :
    Reporting :=
  { config := ⟨.active, none, counters.bytesSent, counters.bytesReceived, bandwidthQuota, start, 0⟩
    reported := counters
    tasks := []
    counted := []
    ended := 0 }

def Reporting.periodTraffic (state : Reporting) : Nat :=
  match state.config.quotaPeriodStart with
  | none => metered state.counted
  | some start => meteredSince start state.counted

/-- The used bytes are the traffic of the period, the periods together have counted each byte
once, and the config is usable while the period's traffic is within the quota. -/
structure Reporting.Accounts (state : Reporting) : Prop where
  used : state.config.quotaUsedBytes = state.periodTraffic
  once : state.ended + state.config.quotaUsedBytes = metered state.counted
  usable : state.periodTraffic ≤ state.config.bandwidthQuotaBytes →
    state.config.status = .active

/-- The task's copy is the row, up to the time of the handshake. -/
def Task.Current (task : Task) (row : UserConfig) : Prop :=
  task.userConfig = { row with lastHandshakeAt := task.userConfig.lastHandshakeAt }

/-- An update that goes right: it is the next one and no other has changed the row since its
report, the user is in good standing and the clock has not gone back, a restart shows in the
total, and a period begins with counters that began at zero and in a config that is either
not suspended or over its quota again. -/
structure Reporting.SoundUpdate (state : Reporting) (index : Nat) (task : Task) (now : Nat)
    (bannedOrSuspended : Bool) : Prop where
  next : index = 0
  current : task.Current state.config
  standing : bannedOrSuspended = false
  clock : ∀ start, state.config.quotaPeriodStart = some start → start ≤ now
  restart : state.config.counters.Fell task.counters →
    task.counters.total < state.config.counters.total
  opening : some (quotaPeriodStart state.config now) ≠ state.config.quotaPeriodStart →
    (task.counters.total < state.config.counters.total ∨ state.config.counters.total = 0) ∧
    (state.config.status = .suspended →
      state.config.bandwidthQuotaBytes < task.counters.total)

def Careful (state : Reporting) : QuotaEvent → Prop
  | .report _ => True
  | .update index now bannedOrSuspended =>
      ∀ task, state.tasks[index]? = some task →
        state.SoundUpdate index task now bannedOrSuspended

structure Reporting.Invariant (state : Reporting) : Prop where
  used : state.config.quotaUsedBytes = state.periodTraffic
  once : state.ended + state.config.quotaUsedBytes = metered state.counted
  recent : ∀ entry ∈ state.counted, ∃ start, state.config.quotaPeriodStart = some start ∧
    entry.time < start + 30 * 86400
  chained : Chained Task.counters Task.traffic Counters.traffic state.config.counters
    state.tasks state.reported
  suspended : state.config.status = .suspended →
    state.config.bandwidthQuotaBytes < state.config.quotaUsedBytes
  standing : state.config.status ≠ .revoked

theorem Reporting.Invariant.accounts {state : Reporting} (holds : state.Invariant) :
    state.Accounts := by
  refine ⟨holds.used, holds.once, ?_⟩
  intro within
  cases status : state.config.status with
  | active => rfl
  | suspended =>
      have exceeded := holds.suspended status
      rw [holds.used] at exceeded
      exact absurd within (Nat.not_le_of_lt exceeded)
  | revoked => exact absurd status holds.standing

end Elektrine.VPN
