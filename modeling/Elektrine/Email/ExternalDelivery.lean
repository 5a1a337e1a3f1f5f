import Elektrine.Data.Json
import Elektrine.Data.Text
import Elektrine.Library.Interleavings
import Elektrine.Library.Runs

/-!
# External delivery records

One row of the external delivery table and the functions that mark it.  Every mark
is an update through a loaded copy: a column is written when the mark changes what
the copy says.  Marks carry no condition on the status of the row.
-/

namespace Elektrine.Email.ExternalDelivery

open Elektrine.Library

inductive Status where
  | pending
  | sending
  | sent
  | deferred
  | bounced
  | complained
  | suppressed
  | failed
  | paused
  deriving DecidableEq, Repr

structure Delivery where
  status : Status
  attempts : Nat
  providerMessageId : Option String
  responseCode : Option String
  error : Option String
  deriving DecidableEq, Repr

/-- The row after an update that turns the loaded copy into `changed`. -/
def Delivery.update (row copy changed : Delivery) : Delivery where
  status := written row.status copy.status changed.status
  attempts := written row.attempts copy.attempts changed.attempts
  providerMessageId :=
    written row.providerMessageId copy.providerMessageId changed.providerMessageId
  responseCode := written row.responseCode copy.responseCode changed.responseCode
  error := written row.error copy.error changed.error

/-- A cast to a text column: blank texts become `nil`, other terms are refused. -/
def castText : Json → Option (Option String)
  | .null => some none
  | .str text => some (if trim text = "" then none else some text)
  | _ => none

def errorText (formatted : String) : Option String :=
  if trim formatted = "" then none else some formatted

inductive Reason where
  | text (value : String)
  | map (fields : Json) (inspected : String)
  | other (inspected : String)

def formatReason : Reason → String
  | .text value => value
  | .map _ inspected | .other inspected => inspected

def isWordCharacter (character : Char) : Bool :=
  character.isAlphanum || character = '_'

/-- `[245]\d\d\b` at the head of the characters. -/
def codeAt : List Char → Option String
  | first :: second :: third :: rest =>
      if (first = '2' ∨ first = '4' ∨ first = '5') ∧ second.isDigit ∧ third.isDigit ∧
          rest.head?.all (fun next => !isWordCharacter next) then
        some (String.ofList [first, second, third])
      else none
  | _ => none

/-- The first match of `\b([245]\d\d)\b`; `inside` says that a word character stands
before the characters. -/
def findCode (inside : Bool) : List Char → Option String
  | [] => none
  | first :: rest =>
      match if inside then none else codeAt (first :: rest) with
      | some code => some code
      | none => findCode (isWordCharacter first) rest

/-- `response_code` of a map. -/
def responseCodeField (fields : Json) : Json :=
  (fields.get "response_code").orElse (fields.get "status_code")

def responseCode : Reason → Json
  | .text value =>
      match findCode false value.toList with
      | some code => .str code
      | none => .null
  | .map fields _ => responseCodeField fields
  | .other _ => .null

/-- `response_message_id` of a map. -/
def responseMessageId (fields : Json) : Json :=
  (fields.get "message_id").orElse (fields.get "provider_message_id")

def classifyFailureStatus (reason : Reason) : Status :=
  match responseCode reason with
  | .str code =>
      if code.startsWith "4" then .deferred
      else if code.startsWith "5" then .bounced
      else .failed
  | _ => .failed

def markSending (delivery : Delivery) : Delivery :=
  { delivery with status := .sending, attempts := delivery.attempts + 1, error := none }

/-- `none` when the changeset refuses the identifier or the code of the response. -/
def markSent (delivery : Delivery) (response : Json) : Option Delivery := do
  let messageId ← castText (responseMessageId response)
  let code ← castText (responseCodeField response)
  return { delivery with
    status := .sent, providerMessageId := messageId, responseCode := code, error := none }

def markFailed (delivery : Delivery) (reason : Reason) : Option Delivery := do
  let code ← castText (responseCode reason)
  return { delivery with
    status := classifyFailureStatus reason, responseCode := code,
    error := errorText (formatReason reason) }

def markAs (status : Status) (delivery : Delivery) (reason : String) : Delivery :=
  { delivery with status := status, error := errorText reason }

def markBounced (delivery : Delivery) (reason : String) : Delivery :=
  markAs .bounced delivery reason

def markComplained (delivery : Delivery) (reason : String) : Delivery :=
  markAs .complained delivery reason

def markSuppressed (delivery : Delivery) (reason : String) : Delivery :=
  markAs .suppressed delivery reason

def markPaused (delivery : Delivery) (reason : String) : Delivery :=
  markAs .paused delivery reason

/-- The update of `requeue`. -/
def requeue (delivery : Delivery) : Delivery :=
  { delivery with status := .pending, error := none, responseCode := none }

/-- The attributes of a webhook; `response` is the whole map, read by `mark_sent`. -/
structure ProviderEvent where
  event : Option String
  status : Option String
  reason : Option String
  error : Option String
  response : Json

def ProviderEvent.name (attrs : ProviderEvent) : String :=
  (attrs.event.or attrs.status).getD ""

def ProviderEvent.because (attrs : ProviderEvent) : String :=
  (attrs.reason.or attrs.error).getD attrs.name

def normalizeEvent (event : String) : String :=
  downcase (trim event)

/-- `apply_provider_event` on the delivery it found; `none` for an unknown event and
for attributes that the changeset refuses. -/
def applyProviderEvent (delivery : Delivery) (attrs : ProviderEvent) : Option Delivery :=
  let event := normalizeEvent attrs.name
  if event = "sent" ∨ event = "accepted" ∨ event = "delivered" then
    markSent delivery attrs.response
  else if event = "deferred" then
    markFailed delivery (.text ("450 " ++ attrs.because))
  else if event = "bounced" then some (markBounced delivery attrs.because)
  else if event = "complained" ∨ event = "complaint" then
    some (markComplained delivery attrs.because)
  else if event = "suppressed" then some (markSuppressed delivery attrs.because)
  else none

/-- The statuses on which `perform` does nothing. -/
def Status.finishesJob : Status → Bool
  | .sent | .bounced | .complained | .suppressed | .paused => true
  | .pending | .sending | .deferred | .failed => false

def Status.isSettled : Status → Bool
  | .bounced | .complained | .suppressed => true
  | .pending | .sending | .sent | .deferred | .failed | .paused => false

theorem status_markSent {delivery marked : Delivery} {response : Json}
    (accepted : markSent delivery response = some marked) : marked.status = .sent := by
  simp only [markSent, Option.bind_eq_bind, Option.bind_eq_some_iff, Option.pure_def,
    Option.some.injEq] at accepted
  obtain ⟨messageId, -, code, -, rfl⟩ := accepted
  rfl

theorem status_markFailed {delivery marked : Delivery} {reason : Reason}
    (accepted : markFailed delivery reason = some marked) :
    marked.status = classifyFailureStatus reason := by
  simp only [markFailed, Option.bind_eq_bind, Option.bind_eq_some_iff, Option.pure_def,
    Option.some.injEq] at accepted
  obtain ⟨code, -, rfl⟩ := accepted
  rfl

end Elektrine.Email.ExternalDelivery

/-!
## Attempts, provider events and requeues on one delivery

Every worker attempt, webhook and requeue is a process that loads the row first and
writes it later, so that the steps of several of them interleave.  The provider's own
view is kept beside the row: whether it has accepted the message, and how often the
message was handed to it.
-/

namespace Elektrine.Email.ExternalDelivery

open Elektrine.Library

structure Outbound where
  row : Delivery
  accepted : Bool
  handOvers : Nat
  deriving DecidableEq, Repr

inductive Process where
  | idle
  /-- `perform` has loaded the row and found work to do. -/
  | attempt (delivery : Delivery)
  | sending (delivery sendingDelivery : Delivery)
  | answered (delivery sendingDelivery : Delivery) (answer : Except Reason Json)
  /-- `apply_provider_event` has found the row. -/
  | event (delivery : Delivery) (attrs : ProviderEvent)
  | requeueing (delivery : Delivery)

inductive Action where
  | perform
  | pause
  | snooze
  | markSending
  /-- `accepted` says whether the provider took the message, whatever it answered. -/
  | handOver (accepted : Bool) (answer : Except Reason Json)
  /-- `inspected` is the text of a refused changeset. -/
  | finish (inspected : String)
  | crash
  | findEvent (attrs : ProviderEvent)
  | applyEvent
  | findRequeue
  | requeue

/-- The last mark of an attempt: `mark_sent` on the sending copy, or `mark_failed` on
the copy that was loaded first, also when `mark_sent` is refused. -/
def finishMark (delivery sendingDelivery : Delivery) (answer : Except Reason Json)
    (inspected : String) : Option (Delivery × Delivery) :=
  match answer with
  | .ok response =>
      match markSent sendingDelivery response with
      | some marked => some (sendingDelivery, marked)
      | none =>
          (markFailed delivery (.map (.obj []) inspected)).map fun marked =>
            (delivery, marked)
  | .error reason => (markFailed delivery reason).map fun marked => (delivery, marked)

def change : Action → Process → Option (Delivery × Delivery)
  | .pause, .attempt delivery =>
      some (delivery, markPaused delivery "paused by admin control")
  | .markSending, .attempt delivery => some (delivery, markSending delivery)
  | .finish inspected, .answered delivery sendingDelivery answer =>
      finishMark delivery sendingDelivery answer inspected
  | .applyEvent, .event delivery attrs =>
      (applyProviderEvent delivery attrs).map fun marked => (delivery, marked)
  | .requeue, .requeueing delivery => some (delivery, requeue delivery)
  | _, _ => none

/-- Where a step leaves its process; `none` when the process cannot take it. -/
def continuation (row : Delivery) : Action → Process → Option Process
  | .perform, .idle => if row.status.finishesJob then none else some (.attempt row)
  | .pause, .attempt _ => some .idle
  | .snooze, .attempt _ => some .idle
  | .markSending, .attempt delivery => some (.sending delivery (markSending delivery))
  | .handOver _ answer, .sending delivery sendingDelivery =>
      some (.answered delivery sendingDelivery answer)
  | .finish _, .answered _ _ _ => some .idle
  | .crash, _ => some .idle
  | .findEvent attrs, .idle => some (.event row attrs)
  | .applyEvent, .event _ _ => some .idle
  | .findRequeue, .idle => some (.requeueing row)
  | .requeue, .requeueing _ => some .idle
  | _, _ => none

def Outbound.write (outbound : Outbound) (change : Option (Delivery × Delivery)) :
    Outbound :=
  match change with
  | some (copy, changed) => { outbound with row := outbound.row.update copy changed }
  | none => outbound

def Outbound.see (outbound : Outbound) : Action → Outbound
  | .handOver accepted _ =>
      { outbound with
        accepted := outbound.accepted || accepted, handOvers := outbound.handOvers + 1 }
  | _ => outbound

def react (outbound : Outbound) (action : Action) (process : Process) :
    Option (Outbound × Process) :=
  (continuation outbound.row action process).map fun next =>
    ((outbound.write (change action process)).see action, next)

abbrev System := Interleaving Outbound Process

def step (system : System) (label : Nat × Action) : System :=
  system.act react label

/-- A row that `create_or_get` has inserted, before any work on it. -/
def created (row : Delivery) : System where
  shared := ⟨row, false, 0⟩
  process := fun _ => .idle

theorem step_cases (system : System) (id : Nat) (action : Action) :
    step system (id, action) = system ∨
    ∃ next, continuation system.shared.row action (system.process id) = some next ∧
      step system (id, action) =
        system.move id
          ((system.shared.write (change action (system.process id))).see action)
          next := by
  rcases system.act_cases react (id, action) with ⟨-, still⟩ | ⟨shared, next, reaction, moved⟩
  · exact .inl still
  · right
    simp only [react, Option.map_eq_some_iff, Prod.mk.injEq] at reaction
    obtain ⟨next', continued, rfl, rfl⟩ := reaction
    exact ⟨next', continued, moved⟩

@[simp] theorem row_see (outbound : Outbound) (action : Action) :
    (outbound.see action).row = outbound.row := by
  cases action <;> rfl

@[simp] theorem accepted_write (outbound : Outbound)
    (change : Option (Delivery × Delivery)) :
    (outbound.write change).accepted = outbound.accepted := by
  rcases change with _ | ⟨copy, changed⟩ <;> rfl

@[simp] theorem handOvers_write (outbound : Outbound)
    (change : Option (Delivery × Delivery)) :
    (outbound.write change).handOvers = outbound.handOvers := by
  rcases change with _ | ⟨copy, changed⟩ <;> rfl

end Elektrine.Email.ExternalDelivery
