import Elektrine.Messaging.Federation.ConcurrentTracking

/-!
# What keeps interleaved positions safe

`Undisturbed` is the condition under which a position store is harmless: what the
transaction has read without a lock is still what is stored.  Every run whose
steps meet it applies no sequence twice and never lowers the position.  The two
races at the end are runs of the same steps that do not meet it.
-/

namespace Elektrine.Messaging.Federation

open Elektrine.Library

variable {Transaction : Type}

/-- The transaction has committed and reported `:applied` for its event. -/
def HasApplied (setting : TrackingSetting Transaction)
    (state : TrackingState Transaction) (transaction : Transaction)
    (payload : EventEnvelope) : Prop :=
  setting.work transaction = .receive payload ∧
    state.stage transaction = .committed (some .applied)

/-- No two events with the same sequence number have been applied. -/
def AppliedDistinct (setting : TrackingSetting Transaction)
    (state : TrackingState Transaction) : Prop :=
  ∀ first second payload other, first ≠ second →
    HasApplied setting state first payload →
    HasApplied setting state second other →
    payload.incomingSequence ≠ other.incomingSequence

/-- In every state reached no sequence has been applied twice, and on the way to
every later state the stored position does not decrease. -/
def PositionSafe (setting : TrackingSetting Transaction)
    (Step : TrackingState Transaction → Transaction × Statement →
      TrackingState Transaction → Prop)
    (start : TrackingState Transaction) : Prop :=
  ∀ front middle back last,
    Run Step start front middle → Run Step middle back last →
    AppliedDistinct setting last ∧ middle.last ≤ last.last

/-- A store that follows an unlocked read finds the position still as it was
read (`receive_event`), or at least not above the one it carries (snapshot). -/
def Undisturbed (setting : TrackingSetting Transaction)
    (state : TrackingState Transaction) :
    Transaction × Statement → Prop
  | (transaction, .storeStreamPosition) =>
      match setting.work transaction, state.stage transaction with
      | .receive _, .projected read false => state.last = read
      | .importPosition carried, .positionRead _ => state.last ≤ carried
      | _, _ => True
  | _ => True

def StageFact (setting : TrackingSetting Transaction) (position : Option Int)
    (transaction : Transaction) : Stage → Prop
  | .checked read locked | .projected read locked =>
      (∀ payload, setting.work transaction = .receive payload →
        payload.incomingSequence = read + 1) ∧
      (locked = true → position = some read)
  | .stored value =>
      position.getD 0 ≤ value ∧
      ∀ payload, setting.work transaction = .receive payload →
        payload.incomingSequence = value ∧ value = position.getD 0 + 1
  | .committed (some .applied) =>
      ∀ payload, setting.work transaction = .receive payload →
        payload.incomingSequence ≤ position.getD 0
  | _ => True

structure TrackingInvariant (setting : TrackingSetting Transaction)
    (state : TrackingState Transaction) : Prop where
  facts : ∀ transaction, StageFact setting state.position transaction
    (state.stage transaction)
  exclusive : ∀ first second, (state.stage first).HoldsRow →
    (state.stage second).HoldsRow → first = second
  distinct : AppliedDistinct setting state

theorem TrackingInvariant.started {setting : TrackingSetting Transaction}
    {start : TrackingState Transaction}
    (idle : ∀ transaction, start.stage transaction = .started) :
    TrackingInvariant setting start where
  facts transaction := by
    rw [idle transaction]
    trivial
  exclusive first _ firstHolds := by
    rw [idle first] at firstHolds
    exact firstHolds.elim
  distinct := by
    rintro first second payload other - ⟨work, applied⟩
    rw [idle first] at applied
    cases applied

theorem StageFact.of_quiet {setting : TrackingSetting Transaction}
    {position : Option Int} {transaction : Transaction} {stage : Stage}
    (quiet : stage.Quiet) : StageFact setting position transaction stage := by
  rcases stage with _ | _ | _ | _ | _ | _ | _ | _ | result | _
  case committed =>
    rcases result with _ | result
    · trivial
    · cases result <;> trivial
  all_goals trivial

theorem Stage.Quiet.not_holdsRow {stage : Stage} (quiet : stage.Quiet) :
    ¬ stage.HoldsRow := by
  intro holds
  rcases stage with _ | _ | _ | locked | _ | _ | _ | _ | _ | _
  case staleFound => cases locked <;> simp_all [Stage.Quiet, Stage.HoldsRow]
  all_goals simp_all [Stage.Quiet, Stage.HoldsRow]

theorem Stage.Quiet.not_applied {stage : Stage} (quiet : stage.Quiet) :
    stage ≠ .committed (some .applied) := by
  rintro rfl
  exact quiet

/-- A transaction that does not hold the row says nothing a new position could
contradict, unless that position is lower. -/
theorem StageFact.advance {setting : TrackingSetting Transaction}
    {position : Option Int} {value : Int} {transaction : Transaction}
    {stage : Stage} (fact : StageFact setting position transaction stage)
    (free : ¬ stage.HoldsRow) (grows : position.getD 0 ≤ value) :
    StageFact setting (some value) transaction stage := by
  rcases stage with _ | _ | _ | _ | ⟨read, locked⟩ | ⟨read, locked⟩ | _ | _ |
    result | _
  case checked => exact ⟨fact.1, fun held => (free held).elim⟩
  case projected => exact ⟨fact.1, fun held => (free held).elim⟩
  case stored => exact (free trivial).elim
  case committed =>
    rcases result with _ | result
    · trivial
    · cases result with
      | applied =>
          intro payload work
          exact (fact payload work).trans grows
      | duplicate => trivial
      | stale => trivial
  all_goals trivial

variable [DecidableEq Transaction]

namespace TrackingInvariant

variable {setting : TrackingSetting Transaction}
variable {state : TrackingState Transaction}
variable {transaction : Transaction} {stage : Stage}

/-- A transaction may move to any stage it has the facts for, as long as it
takes the row only when nobody else holds it. -/
theorem moveTo (invariant : TrackingInvariant setting state)
    (fact : StageFact setting state.position transaction stage)
    (alone : stage.HoldsRow → ¬ state.RowTaken transaction)
    (notApplied : stage ≠ .committed (some .applied)) :
    TrackingInvariant setting (state.moveTo transaction stage) where
  facts other := by
    by_cases same : other = transaction
    · subst same
      rw [TrackingState.moveTo_stage_self]
      exact fact
    · rw [TrackingState.moveTo_stage_other _ _ same]
      exact invariant.facts other
  exclusive := by
    have single : ∀ other, stage.HoldsRow → other ≠ transaction →
        ¬ (state.stage other).HoldsRow :=
      fun other holds different held => alone holds ⟨other, different, held⟩
    intro first second firstHolds secondHolds
    by_contra different
    by_cases firstSame : first = transaction
    · subst firstSame
      rw [TrackingState.moveTo_stage_self] at firstHolds
      rw [TrackingState.moveTo_stage_other _ _ (Ne.symm different)] at secondHolds
      exact single second firstHolds (Ne.symm different) secondHolds
    · rw [TrackingState.moveTo_stage_other _ _ firstSame] at firstHolds
      by_cases secondSame : second = transaction
      · subst secondSame
        rw [TrackingState.moveTo_stage_self] at secondHolds
        exact single first secondHolds firstSame firstHolds
      · rw [TrackingState.moveTo_stage_other _ _ secondSame] at secondHolds
        exact different (invariant.exclusive first second firstHolds secondHolds)
  distinct := by
    have kept : ∀ other payload,
        HasApplied setting (state.moveTo transaction stage) other payload →
        HasApplied setting state other payload := by
      rintro other payload ⟨work, applied⟩
      refine ⟨work, ?_⟩
      by_cases same : other = transaction
      · subst same
        rw [TrackingState.moveTo_stage_self] at applied
        exact (notApplied applied).elim
      · rwa [TrackingState.moveTo_stage_other _ _ same] at applied
    intro first second payload other different firstApplied secondApplied
    exact invariant.distinct first second payload other different
      (kept first payload firstApplied) (kept second other secondApplied)

theorem commitStored (invariant : TrackingInvariant setting state)
    {federationEvents : List FederationEvent} {value : Int}
    (stored : state.stage transaction = .stored value) :
    TrackingInvariant setting
      { state.moveTo transaction
          (.committed (storedResult setting transaction)) with
        federationEvents
        position := some value } := by
  obtain ⟨grows, successor⟩ : state.position.getD 0 ≤ value ∧
      ∀ payload, setting.work transaction = .receive payload →
        payload.incomingSequence = value ∧
          value = state.position.getD 0 + 1 := by
    simpa [StageFact, stored] using invariant.facts transaction
  have free : ∀ other, other ≠ transaction → ¬ (state.stage other).HoldsRow := by
    intro other different holds
    refine different (invariant.exclusive other transaction holds ?_)
    rw [stored]
    trivial
  -- everything applied before lies at or below the old position
  have older : ∀ other payload, other ≠ transaction →
      HasApplied setting state other payload →
      payload.incomingSequence ≤ state.position.getD 0 := by
    rintro other payload - ⟨work, applied⟩
    have fact := invariant.facts other
    rw [applied] at fact
    exact fact payload work
  have kept : ∀ other payload, other ≠ transaction →
      HasApplied setting (state.moveTo transaction
        (.committed (storedResult setting transaction))) other payload →
      HasApplied setting state other payload := by
    rintro other payload different ⟨work, applied⟩
    exact ⟨work, TrackingState.moveTo_stage_other state _ different ▸ applied⟩
  refine ⟨?_, ?_, ?_⟩
  · intro other
    by_cases same : other = transaction
    · subst same
      simp only [TrackingState.moveTo_stage_self]
      cases work : setting.work other with
      | importPosition carried => simp [storedResult, work, StageFact]
      | receive payload =>
          simpa [storedResult, work, StageFact] using (successor payload work).1.le
    · have advanced := (invariant.facts other).advance (free other same) grows
      simpa only [TrackingState.moveTo_stage_other state _ same] using advanced
  · intro first second firstHolds secondHolds
    by_cases firstSame : first = transaction
    · subst firstSame
      rw [TrackingState.moveTo_stage_self] at firstHolds
      exact firstHolds.elim
    · rw [TrackingState.moveTo_stage_other _ _ firstSame] at firstHolds
      exact (free first firstSame firstHolds).elim
  · intro first second payload other different firstApplied secondApplied
    by_cases firstSame : first = transaction
    · subst firstSame
      have earlier := older second other (Ne.symm different)
        (kept second other (Ne.symm different) secondApplied)
      have := successor payload firstApplied.1
      omega
    · have firstKept := kept first payload firstSame firstApplied
      by_cases secondSame : second = transaction
      · subst secondSame
        have earlier := older first payload different firstKept
        have := successor other secondApplied.1
        omega
      · exact invariant.distinct first second payload other different firstKept
          (kept second other secondSame secondApplied)

theorem commitStale (invariant : TrackingInvariant setting state)
    {federationEvents : List FederationEvent} :
    TrackingInvariant setting
      { state.moveTo transaction (.committed (some .stale)) with
        federationEvents } := by
  have moved : TrackingInvariant setting
      (state.moveTo transaction (.committed (some .stale))) :=
    invariant.moveTo trivial (fun holds => holds.elim) (by simp)
  exact ⟨moved.facts, moved.exclusive, moved.distinct⟩

theorem step (invariant : TrackingInvariant setting state)
    {statement : Statement} {after : TrackingState Transaction}
    (undisturbed : Undisturbed setting state (transaction, statement))
    (effect : TrackingEffect setting state transaction statement after) :
    TrackingInvariant setting after := by
  have fact := invariant.facts transaction
  cases effect with
  | quiet quiet =>
      exact invariant.moveTo (.of_quiet quiet)
        (fun holds => (quiet.not_holdsRow holds).elim) quiet.not_applied
  | checkedFresh work fresh first =>
      refine invariant.moveTo ⟨?_, by simp⟩ (fun holds => by cases holds) (by simp)
      intro payload same
      cases work.symm.trans same
      exact first
  | checkedRow work row free next =>
      refine invariant.moveTo ⟨?_, fun _ => row⟩ (fun _ => free) (by simp)
      intro payload same
      cases work.symm.trans same
      exact next
  | staleRow free =>
      exact invariant.moveTo trivial (fun _ => free) (by simp)
  | @projected read locked accepted checked =>
      rw [checked] at fact
      refine invariant.moveTo fact ?_ (by simp)
      rintro held ⟨other, different, holds⟩
      refine different (invariant.exclusive other transaction holds ?_)
      rw [checked]
      exact held
  | @storedEvent payload read locked work projected free =>
      rw [projected] at fact
      have next := fact.1 payload work
      have unchanged : state.position.getD 0 = read := by
        cases locked with
        | true => simp [fact.2 rfl]
        | false =>
            simpa [Undisturbed, work, projected, TrackingState.last]
              using undisturbed
      refine invariant.moveTo ⟨by omega, ?_⟩ (fun _ => free) (by simp)
      intro other same
      cases work.symm.trans same
      exact ⟨rfl, by omega⟩
  | @storedImport carried read work positionRead free =>
      have above : state.position.getD 0 ≤ carried := by
        simpa [Undisturbed, work, positionRead, TrackingState.last]
          using undisturbed
      refine invariant.moveTo ⟨above, ?_⟩ (fun _ => free) (by simp)
      intro payload same
      cases work.symm.trans same
  | staleCommitted => exact invariant.commitStale
  | storedCommitted stored => exact invariant.commitStored stored

theorem last_le (invariant : TrackingInvariant setting state)
    {statement : Statement} {after : TrackingState Transaction}
    (effect : TrackingEffect setting state transaction statement after) :
    state.last ≤ after.last := by
  cases effect with
  | storedCommitted stored =>
      have fact := invariant.facts transaction
      rw [stored] at fact
      exact fact.1
  | _ => exact le_rfl

end TrackingInvariant

variable [Fintype Transaction]

/-- In every interleaving whose stores are undisturbed, no sequence is applied
twice and the stored position never decreases. -/
theorem undisturbed_positionSafe
    (setting : TrackingSetting Transaction) (start : TrackingState Transaction)
    (idle : ∀ transaction, start.stage transaction = .started) :
    PositionSafe setting
      (Guarded (Undisturbed setting) (Performs (trackingStep setting))) start := by
  intro front middle back last first second
  have preserved : ∀ before action after,
      TrackingInvariant setting before →
      Guarded (Undisturbed setting) (Performs (trackingStep setting))
        before action after →
      TrackingInvariant setting after :=
    fun _ _ _ invariant stepped =>
      invariant.step stepped.1 (executeStatement_effect stepped.2)
  have atMiddle := first.invariant preserved (TrackingInvariant.started idle)
  refine ⟨(second.invariant preserved atMiddle).distinct, ?_⟩
  exact second.monotone TrackingState.last preserved
    (fun _ _ _ invariant stepped =>
      invariant.last_le (executeStatement_effect stepped.2)) atMiddle

/-- A `message.create` envelope on the stream the transactions are about. -/
def numberedEvent (eventId : String) (sequence : Int) : EventEnvelope where
  protocolVersion := some "1.0"
  eventId := eventId
  idempotencyKey := none
  originDomain := "remote.example"
  eventType := "message.create"
  streamId := "channel:https://remote.example/_arblarg/channels/7"
  sequence := .int sequence
  payload := .obj []

def threeTransactions (first second : EventEnvelope) (carried : Int) :
    TrackingSetting (Fin 3) where
  remoteDomain := "remote.example"
  work
    | 0 => .receive first
    | 1 => .receive second
    | 2 => .importPosition carried

def idleState (position : Option Int) : TrackingState (Fin 3) where
  federationEvents := []
  position := position
  stage := fun _ => .started

def firstEventSetting : TrackingSetting (Fin 3) :=
  threeTransactions (numberedEvent "e1" 1) (numberedEvent "f1" 1) 5

def firstEventRace : List (Fin 3 × Statement) :=
  [(0, .claimEventId), (1, .claimEventId), (0, .checkSequence),
    (1, .checkSequence), (0, .applyEvent true), (1, .applyEvent true),
    (0, .storeStreamPosition), (0, .commit), (1, .storeStreamPosition),
    (1, .commit)]

def importSetting : TrackingSetting (Fin 3) :=
  threeTransactions (numberedEvent "e6" 6) (numberedEvent "e7" 7) 6

def receiveWhole (transaction : Fin 3) : List (Fin 3 × Statement) :=
  [(transaction, .claimEventId), (transaction, .checkSequence),
    (transaction, .applyEvent true), (transaction, .storeStreamPosition),
    (transaction, .commit)]

def twoReceived : List (Fin 3 × Statement) :=
  (2, .currentStreamSequence) :: receiveWhole 0 ++ receiveWhole 1

theorem undisturbed_positionSafe_import :
    PositionSafe importSetting
      (Guarded (Undisturbed importSetting) (Performs (trackingStep importSetting)))
      (idleState (some 5)) :=
  undisturbed_positionSafe importSetting (idleState (some 5)) fun _ => rfl

theorem firstEventRace_appliesTwice :
    ∃ last, Run (Performs (trackingStep firstEventSetting)) (idleState none)
        firstEventRace last ∧
      (last.stage 0, last.stage 1) =
        (.committed (some .applied), .committed (some .applied)) :=
  exists_run_of_execute
    (fun last : TrackingState (Fin 3) => (last.stage 0, last.stage 1))
    (by decide)

theorem importRace_lowersPosition :
    ∃ middle last,
      Run (Performs (trackingStep importSetting)) (idleState (some 5))
        twoReceived middle ∧
      Run (Performs (trackingStep importSetting)) middle
        [(2, .storeStreamPosition), (2, .commit)] last ∧
      middle.last = 7 ∧ last.last = 6 := by
  have executed : (execute (trackingStep importSetting) (idleState (some 5))
      twoReceived).map (fun middle => (middle.last,
        (execute (trackingStep importSetting) middle
          [(2, .storeStreamPosition), (2, .commit)]).map TrackingState.last)) =
      some (7, some 6) := by
    decide
  obtain ⟨middle, received, observed⟩ := exists_run_of_execute _ executed
  obtain ⟨atSeven, imported⟩ := Prod.mk.inj observed
  obtain ⟨last, stored, atSix⟩ := exists_run_of_execute TrackingState.last
    imported
  exact ⟨middle, last, received, stored, atSeven, atSix⟩

/-- Neither half of the safety property survives arbitrary interleavings. -/
theorem interleaved_not_positionSafe :
    ¬ PositionSafe firstEventSetting (Performs (trackingStep firstEventSetting))
        (idleState none) ∧
      ¬ PositionSafe importSetting (Performs (trackingStep importSetting))
        (idleState (some 5)) := by
  constructor
  · intro safe
    obtain ⟨last, run, stages⟩ := firstEventRace_appliesTwice
    obtain ⟨first, second⟩ := Prod.mk.inj stages
    have distinct := (safe _ _ _ _ (.nil _) run).1
    exact distinct 0 1 (numberedEvent "e1" 1) (numberedEvent "f1" 1) (by decide)
      ⟨rfl, first⟩ ⟨rfl, second⟩ rfl
  · intro safe
    obtain ⟨middle, last, received, stored, atSeven, atSix⟩ :=
      importRace_lowersPosition
    have grows := (safe _ _ _ _ received stored).2
    omega

end Elektrine.Messaging.Federation
