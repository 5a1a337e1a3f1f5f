import Mathlib.Data.Fintype.Basic
import Mathlib.Data.Fin.Basic
import Elektrine.Library.Runs
import Elektrine.Messaging.Federation.Ingress

/-!
# Interleaved tracking transactions

The database steps of `receive_event` transactions and of snapshot imports on one
`(origin_domain, stream_id)`, interleaved at the isolation level the repository
runs at (read committed).  A step that has to wait for another transaction is a
step that is not enabled.  `SELECT … FOR UPDATE` locks the position row only when
a committed row exists; an upsert holds the row until its transaction ends.
-/

namespace Elektrine.Messaging.Federation

open Elektrine.Library

inductive Work where
  | receive (payload : EventEnvelope)
  | importPosition (carried : Int)

/-- How far a transaction has got.  `read` is the position it has seen, and
`locked` says that it saw it in a row it holds. -/
inductive Stage where
  | started
  | claimed
  | duplicateFound
  | staleFound (locked : Bool)
  | checked (read : Int) (locked : Bool)
  | projected (read : Int) (locked : Bool)
  | positionRead (read : Int)
  | stored (value : Int)
  | committed (result : Option ReceiveResult)
  | rolledBack
  deriving DecidableEq

inductive Statement where
  | claimEventId
  | checkSequence
  | applyEvent (accepted : Bool)
  | currentStreamSequence
  | storeStreamPosition
  | commit
  | rollback
  deriving DecidableEq

structure TrackingState (Transaction : Type) where
  federationEvents : List FederationEvent
  position : Option Int
  stage : Transaction → Stage

structure TrackingSetting (Transaction : Type) where
  remoteDomain : String
  work : Transaction → Work

namespace Stage

def HoldsRow : Stage → Prop
  | .staleFound locked | .checked _ locked | .projected _ locked => locked = true
  | .stored _ => True
  | _ => False

instance (stage : Stage) : Decidable stage.HoldsRow := by
  cases stage <;> unfold HoldsRow <;> infer_instance

def HoldsClaim : Stage → Prop
  | .claimed | .staleFound _ | .checked _ _ | .projected _ _ | .stored _ => True
  | _ => False

instance (stage : Stage) : Decidable stage.HoldsClaim := by
  cases stage <;> unfold HoldsClaim <;> infer_instance

def Running : Stage → Prop
  | .committed _ | .rolledBack => False
  | _ => True

instance (stage : Stage) : Decidable stage.Running := by
  cases stage <;> unfold Running <;> infer_instance

end Stage

variable {Transaction : Type}

namespace TrackingState

def last (state : TrackingState Transaction) : Int := state.position.getD 0

section Steps

variable [DecidableEq Transaction]

def moveTo (state : TrackingState Transaction) (transaction : Transaction)
    (stage : Stage) : TrackingState Transaction :=
  { state with stage := Function.update state.stage transaction stage }

@[simp] theorem moveTo_stage_self (state : TrackingState Transaction)
    (transaction : Transaction) (stage : Stage) :
    (state.moveTo transaction stage).stage transaction = stage :=
  Function.update_self ..

theorem moveTo_stage_other (state : TrackingState Transaction)
    {transaction other : Transaction} (stage : Stage)
    (different : other ≠ transaction) :
    (state.moveTo transaction stage).stage other = state.stage other :=
  Function.update_of_ne different ..

end Steps

def RowTaken (state : TrackingState Transaction) (transaction : Transaction) :
    Prop :=
  ∃ other, other ≠ transaction ∧ (state.stage other).HoldsRow

/-- Another running transaction has inserted a row with one of the event's
identifiers, so the insertion has to wait for its end. -/
def ClaimTaken (setting : TrackingSetting Transaction)
    (state : TrackingState Transaction) (transaction : Transaction)
    (payload : EventEnvelope) : Prop :=
  ∃ other, other ≠ transaction ∧ (state.stage other).HoldsClaim ∧
    match setting.work other with
    | .receive pending =>
        (payload.row setting.remoteDomain).conflicts
          (pending.row setting.remoteDomain)
    | .importPosition _ => False

section Decidable

variable [DecidableEq Transaction] [Fintype Transaction]

instance (state : TrackingState Transaction) (transaction : Transaction) :
    Decidable (state.RowTaken transaction) :=
  inferInstanceAs (Decidable (∃ _, _ ∧ _))

instance (setting : TrackingSetting Transaction)
    (state : TrackingState Transaction) (transaction : Transaction)
    (payload : EventEnvelope) :
    Decidable (ClaimTaken setting state transaction payload) := by
  have (other : Transaction) : Decidable (match setting.work other with
    | .receive pending =>
        (payload.row setting.remoteDomain).conflicts
          (pending.row setting.remoteDomain)
    | .importPosition _ => False) := by
    cases setting.work other <;> infer_instance
  exact inferInstanceAs (Decidable (∃ _, _ ∧ _ ∧ _))

end Decidable

end TrackingState

/-- Where `check_sequence` leads, given the position it has read. -/
def stageAfterCheck (incoming read : Int) (locked : Bool) : Stage :=
  match sequenceVerdict incoming read with
  | .ok => .checked read locked
  | .stale => .staleFound locked
  | .error _ => .rolledBack

/-- The rows a commit adds to `messaging_federation_events`. -/
def committedRows (setting : TrackingSetting Transaction)
    (transaction : Transaction) : List FederationEvent :=
  match setting.work transaction with
  | .receive payload => [payload.row setting.remoteDomain]
  | .importPosition _ => []

def storedResult (setting : TrackingSetting Transaction)
    (transaction : Transaction) : Option ReceiveResult :=
  match setting.work transaction with
  | .receive _ => some .applied
  | .importPosition _ => none

section Step

variable [DecidableEq Transaction] [Fintype Transaction]

/-- One statement of one transaction; `none` when it is not the transaction's
next statement or has to wait. -/
def executeStatement (setting : TrackingSetting Transaction)
    (state : TrackingState Transaction) (transaction : Transaction)
    (statement : Statement) : Option (TrackingState Transaction) :=
  match setting.work transaction, state.stage transaction, statement with
  | .receive payload, .started, .claimEventId =>
      if state.ClaimTaken setting transaction payload then none
      else if Claimed state.federationEvents payload setting.remoteDomain then
        some (state.moveTo transaction .duplicateFound)
      else some (state.moveTo transaction .claimed)
  | .receive payload, .claimed, .checkSequence =>
      match state.position with
      | none =>
          some (state.moveTo transaction
            (stageAfterCheck payload.incomingSequence 0 false))
      | some last =>
          if state.RowTaken transaction then none
          else some (state.moveTo transaction
            (stageAfterCheck payload.incomingSequence last true))
  | .receive _, .checked read locked, .applyEvent accepted =>
      some (state.moveTo transaction
        (if accepted then .projected read locked else .rolledBack))
  | .receive payload, .projected _ _, .storeStreamPosition =>
      if state.RowTaken transaction then none
      else some (state.moveTo transaction (.stored payload.incomingSequence))
  | .importPosition _, .started, .currentStreamSequence =>
      some (state.moveTo transaction (.positionRead state.last))
  | .importPosition carried, .positionRead read, .storeStreamPosition =>
      if carried > read then
        if state.RowTaken transaction then none
        else some (state.moveTo transaction (.stored carried))
      else none
  | .importPosition carried, .positionRead read, .commit =>
      if carried > read then none
      else some (state.moveTo transaction (.committed none))
  | .receive _, .duplicateFound, .commit =>
      some (state.moveTo transaction (.committed (some .duplicate)))
  | .receive payload, .staleFound _, .commit =>
      some { state.moveTo transaction (.committed (some .stale)) with
        federationEvents :=
          payload.row setting.remoteDomain :: state.federationEvents }
  | _, .stored value, .commit =>
      some { state.moveTo transaction
          (.committed (storedResult setting transaction)) with
        federationEvents :=
          committedRows setting transaction ++ state.federationEvents
        position := some value }
  | _, stage, .rollback =>
      if stage.Running then some (state.moveTo transaction .rolledBack)
      else none
  | _, _, _ => none

def trackingStep (setting : TrackingSetting Transaction)
    (state : TrackingState Transaction)
    (action : Transaction × Statement) : Option (TrackingState Transaction) :=
  executeStatement setting state action.1 action.2

def Stage.Quiet : Stage → Prop
  | .checked _ _ | .projected _ _ | .stored _ | .staleFound true
  | .committed (some .applied) => False
  | _ => True

inductive TrackingEffect (setting : TrackingSetting Transaction)
    (state : TrackingState Transaction) (transaction : Transaction) :
    Statement → TrackingState Transaction → Prop where
  | quiet {stage : Stage} {statement : Statement} :
      stage.Quiet →
      TrackingEffect setting state transaction statement
        (state.moveTo transaction stage)
  | checkedFresh {payload : EventEnvelope} :
      setting.work transaction = .receive payload →
      state.position = none →
      payload.incomingSequence = 0 + 1 →
      TrackingEffect setting state transaction .checkSequence
        (state.moveTo transaction (.checked 0 false))
  | checkedRow {payload : EventEnvelope} {last : Int} :
      setting.work transaction = .receive payload →
      state.position = some last →
      ¬ state.RowTaken transaction →
      payload.incomingSequence = last + 1 →
      TrackingEffect setting state transaction .checkSequence
        (state.moveTo transaction (.checked last true))
  | staleRow :
      ¬ state.RowTaken transaction →
      TrackingEffect setting state transaction .checkSequence
        (state.moveTo transaction (.staleFound true))
  | projected {read : Int} {locked accepted : Bool} :
      state.stage transaction = .checked read locked →
      TrackingEffect setting state transaction (.applyEvent accepted)
        (state.moveTo transaction (.projected read locked))
  | storedEvent {payload : EventEnvelope} {read : Int} {locked : Bool} :
      setting.work transaction = .receive payload →
      state.stage transaction = .projected read locked →
      ¬ state.RowTaken transaction →
      TrackingEffect setting state transaction .storeStreamPosition
        (state.moveTo transaction (.stored payload.incomingSequence))
  | storedImport {carried read : Int} :
      setting.work transaction = .importPosition carried →
      state.stage transaction = .positionRead read →
      ¬ state.RowTaken transaction →
      TrackingEffect setting state transaction .storeStreamPosition
        (state.moveTo transaction (.stored carried))
  | staleCommitted {federationEvents : List FederationEvent} :
      TrackingEffect setting state transaction .commit
        { state.moveTo transaction (.committed (some .stale)) with
          federationEvents }
  | storedCommitted {federationEvents : List FederationEvent} {value : Int} :
      state.stage transaction = .stored value →
      TrackingEffect setting state transaction .commit
        { state.moveTo transaction
            (.committed (storedResult setting transaction)) with
          federationEvents
          position := some value }

theorem executeStatement_effect
    {setting : TrackingSetting Transaction}
    {before after : TrackingState Transaction}
    {transaction : Transaction} {statement : Statement}
    (stepped : executeStatement setting before transaction statement =
      some after) :
    TrackingEffect setting before transaction statement after := by
  unfold executeStatement at stepped
  split at stepped
  case h_1 payload workEq stageEq =>
    split_ifs at stepped <;> cases stepped <;> exact .quiet trivial
  case h_2 payload workEq stageEq =>
    split at stepped
    case h_1 fresh =>
      cases stepped
      unfold stageAfterCheck
      split
      case h_1 verdict =>
        exact .checkedFresh workEq fresh (sequenceVerdict_ok_iff.mp verdict)
      case h_2 => exact .quiet trivial
      case h_3 => exact .quiet trivial
    case h_2 last row =>
      split_ifs at stepped with taken
      cases stepped
      unfold stageAfterCheck
      split
      case h_1 verdict =>
        exact .checkedRow workEq row taken (sequenceVerdict_ok_iff.mp verdict)
      case h_2 => exact .staleRow taken
      case h_3 => exact .quiet trivial
  case h_3 payload read locked accepted workEq stageEq =>
    cases stepped
    cases accepted with
    | true => exact .projected stageEq
    | false => exact .quiet trivial
  case h_4 payload read locked workEq stageEq =>
    split_ifs at stepped with taken
    cases stepped
    exact .storedEvent workEq stageEq taken
  case h_5 carried workEq stageEq =>
    cases stepped
    exact .quiet trivial
  case h_6 carried read workEq stageEq =>
    split_ifs at stepped with ahead taken
    cases stepped
    exact .storedImport workEq stageEq taken
  case h_7 carried read workEq stageEq =>
    split_ifs at stepped with ahead
    cases stepped
    exact .quiet trivial
  case h_8 payload workEq stageEq =>
    cases stepped
    exact .quiet trivial
  case h_9 payload locked workEq stageEq =>
    cases stepped
    exact .staleCommitted
  case h_10 work value workEq stageEq =>
    cases stepped
    exact .storedCommitted stageEq
  case h_11 =>
    split_ifs at stepped
    cases stepped
    exact .quiet trivial
  case h_12 => cases stepped

end Step

end Elektrine.Messaging.Federation
