import Elektrine.Library.Interleavings
import Elektrine.Library.Runs

/-!
# Recorded checks

A check loads the monitor, probes its target, and records the result: the transition is read
off the loaded monitor, and the row, the checks and the incidents are written in one
transaction.
-/

namespace Elektrine.Uptime

open Elektrine.Library

inductive Status where
  | up
  | down
deriving DecidableEq, Repr

inductive CheckResult where
  | up (responseTimeMs statusCode : Option Nat)
  | down (reason : String)
deriving DecidableEq, Repr

structure Check where
  status : Status
  responseTimeMs : Option Nat
  statusCode : Option Nat
  error : Option String
deriving DecidableEq, Repr

/-- `validate_number` of the failure threshold. -/
structure FailureThreshold where
  value : Nat
  positive : 1 ≤ value
  bounded : value ≤ 100
deriving DecidableEq

structure Monitor where
  lastStatus : Option Status
  lastCheckedAt : Option Nat
  consecutiveFailures : Nat
  failureThreshold : FailureThreshold
deriving DecidableEq

structure Incident where
  startedAt : Nat
  resolvedAt : Option Nat
  lastError : Option String
deriving DecidableEq, Repr

inductive Transition where
  | none
  | wentDown
  | stillDown
  | recovered
deriving DecidableEq, Repr

def normalizeResult : CheckResult → Check
  | .up responseTimeMs statusCode => ⟨.up, responseTimeMs, statusCode, none⟩
  | .down reason => ⟨.down, none, none, some reason⟩

def newFailures (monitor : Monitor) : Status → Nat
  | .up => 0
  | .down => monitor.consecutiveFailures + 1

def classifyTransition (monitor : Monitor) (status : Status) (failures : Nat) : Transition :=
  match status with
  | .down =>
      if failures = monitor.failureThreshold.value then .wentDown
      else if monitor.failureThreshold.value < failures then .stillDown
      else .none
  | .up => if monitor.lastStatus = some .down then .recovered else .none

/-- `update_check_state_changeset` of the loaded monitor, on the row. -/
def updateCheckState (loaded row : Monitor) (status : Status) (now failures : Nat) : Monitor :=
  { lastStatus := written row.lastStatus loaded.lastStatus (some status)
    lastCheckedAt := written row.lastCheckedAt loaded.lastCheckedAt (some now)
    consecutiveFailures := written row.consecutiveFailures loaded.consecutiveFailures failures
    failureThreshold := row.failureThreshold }

def Incident.isOpen (incident : Incident) : Bool :=
  incident.resolvedAt.isNone

def openIncident (error : Option String) (now : Nat) (incidents : List Incident) :
    List Incident :=
  if incidents.any Incident.isOpen then incidents else ⟨now, none, error⟩ :: incidents

def resolveOpenIncident (now : Nat) : List Incident → List Incident
  | [] => []
  | incident :: incidents =>
      if incident.isOpen then { incident with resolvedAt := some now } :: incidents
      else incident :: resolveOpenIncident now incidents

def applyIncidentTransition (transition : Transition) (error : Option String) (now : Nat)
    (incidents : List Incident) : List Incident :=
  match transition with
  | .wentDown => openIncident error now incidents
  | .recovered => resolveOpenIncident now incidents
  | _ => incidents

def openIncidents (incidents : List Incident) : Nat :=
  incidents.countP Incident.isOpen

def failuresSinceUp (checks : List Check) : Nat :=
  (checks.takeWhile fun check => decide (check.status = .down)).length

structure Report where
  transition : Transition
  opened : Bool
  resolved : Bool
  openIncidents : Nat
  failures : Nat
  consecutiveFailures : Nat
  failureThreshold : Nat
deriving DecidableEq, Repr

/-- The rows, the loaded monitors whose check is under way, the threshold at the last check,
and the reports. -/
structure State where
  monitor : Monitor
  checks : List Check
  incidents : List Incident
  loaded : List Monitor
  checkedThreshold : FailureThreshold
  reports : List Report

def start (threshold : FailureThreshold) : State :=
  { monitor := ⟨none, none, 0, threshold⟩
    checks := []
    incidents := []
    loaded := []
    checkedThreshold := threshold
    reports := [] }

inductive Event where
  | load
  | recordCheck (index : Nat) (result : CheckResult) (now : Nat)
  | changeThreshold (threshold : FailureThreshold)

def State.recordCheck (state : State) (index : Nat) (loaded : Monitor) (result : CheckResult)
    (now : Nat) : State :=
  let check := normalizeResult result
  let failures := newFailures loaded check.status
  let transition := classifyTransition loaded check.status failures
  let monitor := updateCheckState loaded state.monitor check.status now failures
  let incidents := applyIncidentTransition transition check.error now state.incidents
  { monitor := monitor
    checks := check :: state.checks
    incidents := incidents
    loaded := state.loaded.eraseIdx index
    checkedThreshold := state.monitor.failureThreshold
    reports := state.reports ++
      [{ transition := transition
         opened := decide (openIncidents state.incidents < openIncidents incidents)
         resolved := decide (openIncidents incidents < openIncidents state.incidents)
         openIncidents := openIncidents incidents
         failures := failuresSinceUp (check :: state.checks)
         consecutiveFailures := monitor.consecutiveFailures
         failureThreshold := state.monitor.failureThreshold.value }] }

def step (state : State) : Event → State
  | .load => { state with loaded := state.loaded ++ [state.monitor] }
  | .recordCheck index result now =>
      match state.loaded[index]? with
      | some loaded => state.recordCheck index loaded result now
      | none => state
  | .changeThreshold threshold =>
      { state with monitor := { state.monitor with failureThreshold := threshold } }

/-- After a check there is one open incident or none: one if and only if the failures since
the last check that was up have reached the threshold.  The check has reported what it has
done, and the count of failures is right. -/
structure Report.Agrees (report : Report) : Prop where
  opened : 0 < report.openIncidents ↔ report.failureThreshold ≤ report.failures
  wentDown : report.transition = .wentDown ↔ report.opened = true
  recovered : report.transition = .recovered ↔ report.resolved = true
  single : report.openIncidents ≤ 1
  counted : report.consecutiveFailures = report.failures

def AlertsAgree (state : State) : Prop :=
  ∀ report ∈ state.reports, report.Agrees

/-- The loaded monitor is as the row is, but for the time of the last check. -/
def Current (loaded row : Monitor) : Prop :=
  loaded = { row with lastCheckedAt := loaded.lastCheckedAt }

/-- The condition on a step and the state before it.  The monitor that a check has loaded is
still the row; where the result is a failure, the threshold has not been moved across the
count of failures since the check before; and where it is up, no failures have been counted
or they had reached the threshold of the check before. -/
def Careful (state : State) : Event → Prop
  | .recordCheck index result _ =>
      ∀ loaded, state.loaded[index]? = some loaded →
        Current loaded state.monitor ∧
        match (normalizeResult result).status with
        | .down => state.monitor.failureThreshold.value ≤ state.monitor.consecutiveFailures ↔
            state.checkedThreshold.value ≤ state.monitor.consecutiveFailures
        | .up => state.monitor.consecutiveFailures = 0 ∨
            state.checkedThreshold.value ≤ state.monitor.consecutiveFailures
  | _ => True

end Elektrine.Uptime

/-!
## Alerts

Along checks that record what they have loaded, and thresholds that do not cross the count
of failures, the open incident follows the count.
-/

namespace Elektrine.Uptime

open Elektrine.Library

variable {incidents : List Incident} {error : Option String} {now : Nat}

theorem any_isOpen_iff :
    incidents.any Incident.isOpen = true ↔ 0 < openIncidents incidents := by
  rw [openIncidents, List.countP_pos_iff, List.any_eq_true]

theorem openIncidents_open (single : openIncidents incidents ≤ 1) :
    openIncidents (openIncident error now incidents) = 1 := by
  unfold openIncident
  split
  · rename_i found
    have some_open := any_isOpen_iff.mp found
    omega
  · rename_i missing
    have none_open : ¬ 0 < openIncidents incidents := fun some_open =>
      missing (any_isOpen_iff.mpr some_open)
    have its : Incident.isOpen ⟨now, none, error⟩ = true := rfl
    rw [openIncidents, List.countP_cons_of_pos its]
    change openIncidents incidents + 1 = 1
    omega

theorem openIncidents_resolve (now : Nat) (incidents : List Incident) :
    openIncidents (resolveOpenIncident now incidents) = openIncidents incidents - 1 := by
  induction incidents with
  | nil => rfl
  | cons incident incidents ih =>
      by_cases its : incident.isOpen = true
      · have closed : ¬ Incident.isOpen { incident with resolvedAt := some now } = true := by
          simp [Incident.isOpen]
        rw [resolveOpenIncident, if_pos its, openIncidents, openIncidents,
          List.countP_cons_of_neg closed, List.countP_cons_of_pos its, Nat.add_sub_cancel]
      · rw [resolveOpenIncident, if_neg its, openIncidents, openIncidents,
          List.countP_cons_of_neg its, List.countP_cons_of_neg its]
        exact ih

structure Sound (state : State) : Prop where
  counted : state.monitor.consecutiveFailures = failuresSinceUp state.checks
  status : state.monitor.lastStatus = some .down ↔ 0 < state.monitor.consecutiveFailures
  single : openIncidents state.incidents ≤ 1
  opened : 0 < openIncidents state.incidents ↔
    state.checkedThreshold.value ≤ state.monitor.consecutiveFailures
  agrees : AlertsAgree state

variable {state : State} {loaded : Monitor}

theorem updateCheckState_current (current : Current loaded state.monitor) (status : Status)
    (now failures : Nat) :
    (updateCheckState loaded state.monitor status now failures).lastStatus = some status ∧
      (updateCheckState loaded state.monitor status now failures).consecutiveFailures =
        failures := by
  have sameStatus : state.monitor.lastStatus = loaded.lastStatus :=
    (congrArg Monitor.lastStatus current).symm
  have sameFailures : state.monitor.consecutiveFailures = loaded.consecutiveFailures :=
    (congrArg Monitor.consecutiveFailures current).symm
  constructor
  · rw [updateCheckState, sameStatus]
    exact written_fresh _ _
  · rw [updateCheckState, sameFailures]
    exact written_fresh _ _

theorem Current.failures (current : Current loaded state.monitor) :
    loaded.consecutiveFailures = state.monitor.consecutiveFailures := by
  rw [Current] at current
  rw [current]

theorem Current.threshold (current : Current loaded state.monitor) :
    loaded.failureThreshold = state.monitor.failureThreshold := by
  rw [Current] at current
  rw [current]

theorem Current.status (current : Current loaded state.monitor) :
    loaded.lastStatus = state.monitor.lastStatus := by
  rw [Current] at current
  rw [current]

structure Effects (transition : Transition) (before after threshold failures : Nat) : Prop where
  opened : 0 < after ↔ threshold ≤ failures
  wentDown : transition = .wentDown ↔ before < after
  recovered : transition = .recovered ↔ after < before
  single : after ≤ 1

def transitionOf (loaded : Monitor) (result : CheckResult) : Transition :=
  classifyTransition loaded (normalizeResult result).status
    (newFailures loaded (normalizeResult result).status)

def incidentsAfter (state : State) (loaded : Monitor) (result : CheckResult) (now : Nat) :
    List Incident :=
  applyIncidentTransition (transitionOf loaded result) (normalizeResult result).error now
    state.incidents

theorem Sound.recordCheck (sound : Sound state) {index now : Nat} {result : CheckResult}
    (current : Current loaded state.monitor)
    (count : failuresSinceUp (normalizeResult result :: state.checks) =
      newFailures loaded (normalizeResult result).status)
    (isDown : (normalizeResult result).status = .down ↔
      0 < newFailures loaded (normalizeResult result).status)
    (effects : Effects (transitionOf loaded result) (openIncidents state.incidents)
      (openIncidents (incidentsAfter state loaded result now))
      state.monitor.failureThreshold.value
      (newFailures loaded (normalizeResult result).status)) :
    Sound (state.recordCheck index loaded result now) := by
  have row := updateCheckState_current current (normalizeResult result).status now
    (newFailures loaded (normalizeResult result).status)
  refine ⟨row.2.trans count.symm, ?_, effects.single, ?_, ?_⟩
  · rw [State.recordCheck, row.1, row.2, Option.some.injEq]
    exact isDown
  · rw [State.recordCheck, row.2]
    exact effects.opened
  · intro report member
    rcases List.mem_append.mp member with older | new
    · exact sound.agrees report older
    · rw [List.mem_singleton.mp new]
      refine ⟨?_, ?_, ?_, effects.single, row.2.trans count.symm⟩
      · rw [count]
        exact effects.opened
      · rw [decide_eq_true_eq]
        exact effects.wentDown
      · rw [decide_eq_true_eq]
        exact effects.recovered

theorem Sound.failure (sound : Sound state) {index now : Nat} {reason : String}
    (current : Current loaded state.monitor)
    (uncrossed : state.monitor.failureThreshold.value ≤ state.monitor.consecutiveFailures ↔
      state.checkedThreshold.value ≤ state.monitor.consecutiveFailures) :
    Sound (state.recordCheck index loaded (.down reason) now) := by
  have opened := sound.opened.trans uncrossed.symm
  have single := sound.single
  apply sound.recordCheck current
  · calc failuresSinceUp (normalizeResult (.down reason) :: state.checks)
        = failuresSinceUp state.checks + 1 := rfl
      _ = loaded.consecutiveFailures + 1 := by rw [current.failures, sound.counted]
  · exact ⟨fun _ => Nat.succ_pos _, fun _ => rfl⟩
  · rw [incidentsAfter, transitionOf, normalizeResult, classifyTransition, newFailures,
      current.failures, current.threshold]
    split
    · rename_i reaches
      have after : openIncidents (openIncident (some reason) now state.incidents) = 1 :=
        openIncidents_open single
      rw [applyIncidentTransition, after]
      constructor
      · omega
      · have closed : openIncidents state.incidents = 0 := by omega
        simp [closed]
      · simp only [reduceCtorEq, false_iff]
        omega
      · omega
    · rename_i apart
      split
      · rename_i beyond
        rw [applyIncidentTransition]
        · constructor
          · omega
          · simp
          · simp
          · exact single
        · nofun
        · nofun
      · rename_i below
        rw [applyIncidentTransition]
        · constructor
          · omega
          · simp
          · simp
          · exact single
        · nofun
        · nofun

theorem Sound.success (sound : Sound state) {index now : Nat}
    {responseTimeMs statusCode : Option Nat} (current : Current loaded state.monitor)
    (reached : state.monitor.consecutiveFailures = 0 ∨
      state.checkedThreshold.value ≤ state.monitor.consecutiveFailures) :
    Sound (state.recordCheck index loaded (.up responseTimeMs statusCode) now) := by
  have opened := sound.opened
  have single := sound.single
  have positive := state.monitor.failureThreshold.positive
  have positiveBefore := state.checkedThreshold.positive
  apply sound.recordCheck current
  · rfl
  · exact ⟨nofun, nofun⟩
  · rw [incidentsAfter, transitionOf, normalizeResult, classifyTransition, newFailures,
      current.status]
    split
    · rename_i wasDown
      have failed := sound.status.mp wasDown
      rw [applyIncidentTransition, openIncidents_resolve]
      constructor
      · omega
      · simp only [reduceCtorEq, false_iff]
        omega
      · simp only [true_iff]
        omega
      · omega
    · rename_i wasUp
      have counted : ¬ 0 < state.monitor.consecutiveFailures :=
        fun failed => wasUp (sound.status.mpr failed)
      rw [applyIncidentTransition]
      · constructor
        · omega
        · simp
        · simp
        · exact single
      · nofun
      · nofun

theorem sound_start (threshold : FailureThreshold) : Sound (start threshold) where
  counted := rfl
  status := ⟨nofun, nofun⟩
  single := Nat.zero_le _
  opened := by
    have positive := threshold.positive
    constructor
    · nofun
    · intro reached
      exact absurd (Nat.le_trans positive reached) (Nat.not_succ_le_zero 0)
  agrees := List.forall_mem_nil _

theorem Sound.step (sound : Sound state) {event : Event} (careful : Careful state event) :
    Sound (step state event) := by
  cases event with
  | load => exact ⟨sound.counted, sound.status, sound.single, sound.opened, sound.agrees⟩
  | recordCheck index result now =>
      simp only [Uptime.step]
      split
      · rename_i loaded found
        obtain ⟨current, condition⟩ := careful loaded found
        cases result with
        | up responseTimeMs statusCode => exact sound.success current condition
        | down reason => exact sound.failure current condition
      · exact sound
  | changeThreshold threshold =>
      exact ⟨sound.counted, sound.status, sound.single, sound.opened, sound.agrees⟩

/-- Along careful checks, every check agrees with the results so far. -/
theorem alertsAgree_of_careful {threshold : FailureThreshold} {events : List Event}
    (along : Along Uptime.step Careful (start threshold) events) :
    AlertsAgree (events.foldl Uptime.step (start threshold)) := by
  have sound := along.invariant (fun _ _ (sound : Sound _) careful => sound.step careful)
    (sound_start threshold)
  exact sound.agrees

def twoFailures : FailureThreshold := ⟨2, by decide, by decide⟩

def shortFailure : List Event :=
  [.load, .recordCheck 0 (.down "timeout") 60, .load,
    .recordCheck 0 (.up (some 20) (some 200)) 120]

/-- It is reported as recovered, and no incident was resolved. -/
theorem not_alertsAgree_shortFailure :
    ¬ AlertsAgree (shortFailure.foldl Uptime.step (start twoFailures)) := by
  intro agrees
  have wrong : ∃ report ∈ (shortFailure.foldl Uptime.step (start twoFailures)).reports,
      report.transition = .recovered ∧ report.resolved = false := by decide
  obtain ⟨report, member, transition, resolved⟩ := wrong
  rw [(agrees report member).recovered.mp transition] at resolved
  cases resolved

-- Two failures recorded from the same loaded monitor count as one.
example : ([.load, .load, .recordCheck 0 (.down "timeout") 60,
    .recordCheck 0 (.down "timeout") 61].foldl Uptime.step (start twoFailures)).reports.map
      (fun report => (report.failures, report.consecutiveFailures)) = [(1, 1), (2, 1)] := by
  decide

def longFailure : List Event :=
  [.load, .recordCheck 0 (.down "timeout") 60, .load, .recordCheck 0 (.down "timeout") 120,
    .load, .recordCheck 0 (.up (some 20) (some 200)) 180]

theorem alertsAgree_longFailure :
    AlertsAgree (longFailure.foldl Uptime.step (start twoFailures)) := by
  apply alertsAgree_of_careful
  refine .cons trivial (.cons ?first (.cons trivial (.cons ?second (.cons trivial
    (.cons ?third (.nil _ _ _))))))
  case first =>
    intro loaded found
    cases found
    exact ⟨rfl, Iff.rfl⟩
  case second =>
    intro loaded found
    cases found
    exact ⟨rfl, Iff.rfl⟩
  case third =>
    intro loaded found
    cases found
    exact ⟨rfl, Or.inr (Nat.le_refl 2)⟩

end Elektrine.Uptime
