import Elektrine.Library.Interleavings

/-!
# Email submissions and their worker

One submission with the functions that write it, and the job of the send worker.  Every
writer works on a copy that it has loaded before, and writes what differs from the copy;
the worker decides on its copy whether to send.
-/

namespace Elektrine.JMAP.EmailSubmission

open Elektrine.Library

inductive UndoStatus where
  | pending
  | final
  | canceled
  deriving DecidableEq, Repr

abbrev DeliveryStatus := List (String × Option String)

def DeliveryStatus.put (status : DeliveryStatus) (key : String) (value : Option String) :
    DeliveryStatus :=
  (key, value) :: status.filter (·.1 != key)

structure Submission where
  sendAt : Option Nat
  undoStatus : UndoStatus
  deliveryStatus : DeliveryStatus
  deriving DecidableEq, Repr

/-- `update_submission`: the row after an update that turns the loaded copy into
`changed`. -/
def Submission.update (row copy changed : Submission) : Submission where
  sendAt := written row.sendAt copy.sendAt changed.sendAt
  undoStatus := written row.undoStatus copy.undoStatus changed.undoStatus
  deliveryStatus := written row.deliveryStatus copy.deliveryStatus changed.deliveryStatus

@[simp] theorem Submission.undoStatus_update (row copy changed : Submission) :
    (row.update copy changed).undoStatus =
      written row.undoStatus copy.undoStatus changed.undoStatus := rfl

inductive CancelError where
  | tooLate
  | alreadyFinal
  deriving DecidableEq, Repr

/-- The checks of `cancel`. -/
def checkCancel (copy : Submission) (now : Nat) : Except CancelError Unit :=
  if copy.undoStatus = .pending then
    match copy.sendAt with
    | none => .ok ()
    | some sendAt => if now < sendAt then .ok () else .error .tooLate
  else .error .alreadyFinal

/-- The change of `cancel`. -/
def markCanceled (copy : Submission) : Submission :=
  { copy with
    undoStatus := .canceled
    deliveryStatus := copy.deliveryStatus.put "status" (some "canceled") }

@[simp] theorem undoStatus_markCanceled (copy : Submission) :
    (markCanceled copy).undoStatus = .canceled := rfl

/-- `finalize(submission, delivery_status)`. -/
def finalize (copy : Submission) (deliveryStatus : DeliveryStatus) : Submission :=
  { copy with undoStatus := .final, deliveryStatus := deliveryStatus }

def fail (copy : Submission) (reason : String) : Submission :=
  { copy with
    undoStatus := .final
    deliveryStatus :=
      (copy.deliveryStatus.put "status" (some "failed")).put "error" (some reason) }

@[simp] theorem undoStatus_fail (copy : Submission) (reason : String) :
    (fail copy reason).undoStatus = .final := rfl

structure SendResult where
  status : Option String
  messageId : Option String
  id : Option Nat
  deriving DecidableEq, Repr

inductive SendError where
  | rateLimitExceeded
  /-- Any other reason, as `format_reason` writes it. -/
  | other (reason : String)
  deriving DecidableEq, Repr

/-- The reason of `maybe_send_email` not to send. -/
def skipReason : Submission → Option String
  | { undoStatus := .canceled, .. } => some "submission canceled"
  | { undoStatus := .final, .. } => some "submission already finalized"
  | _ => none

/-- `reconcile_submission_success`. -/
def reconcileSuccess (copy : Submission) (result : SendResult) : Submission :=
  finalize copy
    ([("status", some (result.status.getD "sent")), ("messageId", result.messageId)] ++
      match result.id with
      | none => []
      | some id => [("sentEmailId", some (toString id))])

def maxAttempts : Nat := 5

/-- `available` stands for scheduled and retryable jobs, too. -/
inductive JobState where
  | available
  | executing
  | completed
  | discarded
  deriving DecidableEq, Repr

/-- The job of the submission; `failed` is whether the send of its last attempt failed. -/
structure Job where
  attempt : Nat
  maxAttempts : Nat
  state : JobState
  failed : Bool
  deriving DecidableEq, Repr

def Job.start (job : Job) : Job :=
  { job with attempt := job.attempt + 1, state := .executing }

def Job.complete (job : Job) : Job := { job with state := .completed }

def Job.snooze (job : Job) : Job :=
  { job with maxAttempts := job.maxAttempts + 1, state := .available }

def Job.retry (job : Job) : Job :=
  { job with state := if job.attempt < job.maxAttempts then .available else .discarded }

structure Shared where
  row : Option Submission
  job : Option Job
  sends : Nat
  canceled : Bool
  deriving DecidableEq, Repr

inductive Process where
  | idle
  | created (copy : Submission)
  | enqueued (copy : Submission)
  | canceling (copy : Submission)
  | allowed (copy : Submission)
  | loaded (copy : Submission)
  | answered (copy : Submission) (answer : Except SendError SendResult)

inductive Action where
  | create (sendAt : Option Nat)
  /-- `SendEmailWorker.enqueue`; without a job the submission has failed. -/
  | enqueue (refusal : Option String)
  | schedule (sendAt : Nat) (deliveryStatus : DeliveryStatus)
  | find
  | cancel (now : Nat)
  | write
  | perform
  | send (answer : Except SendError SendResult)
  | record
  | crash

def Shared.write (shared : Shared) (copy changed : Submission) : Shared :=
  { shared with row := shared.row.map fun row => row.update copy changed }

def Shared.changeJob (shared : Shared) (change : Job → Job) : Shared :=
  { shared with job := shared.job.map change }

/-- `perform` on the job that the queue hands out. -/
def Shared.perform (shared : Shared) : Option (Shared × Process) :=
  match shared.job with
  | some { state := .available, .. } =>
      match shared.row with
      | none => some (shared.changeJob (Job.complete ∘ Job.start), .idle)
      | some copy =>
          if (skipReason copy).isSome then
            some (shared.changeJob (Job.complete ∘ Job.start), .idle)
          else some (shared.changeJob Job.start, .loaded copy)
  | _ => none

/-- The submission of `create_email_submission`. -/
def newSubmission (sendAt : Option Nat) : Submission :=
  ⟨sendAt, .pending, [("status", some "queued")]⟩

def react (shared : Shared) (action : Action) (process : Process) :
    Option (Shared × Process) :=
  match action, process with
  | .create sendAt, .idle =>
      if shared.row.isNone then
        some ({ shared with row := some (newSubmission sendAt) },
          .created (newSubmission sendAt))
      else none
  | .enqueue none, .created copy =>
      some ({ shared with job := some ⟨0, maxAttempts, .available, false⟩ },
        .enqueued copy)
  | .enqueue (some reason), .created copy =>
      some (shared.write copy (fail copy reason), .idle)
  | .schedule sendAt deliveryStatus, .enqueued copy =>
      some (shared.write copy ⟨some sendAt, .pending, deliveryStatus⟩, .idle)
  | .find, .idle => shared.row.map fun copy => (shared, .canceling copy)
  | .cancel now, .canceling copy =>
      match checkCancel copy now with
      | .ok () => some (shared, .allowed copy)
      | .error _ => some (shared, .idle)
  | .write, .allowed copy =>
      some ({ shared.write copy (markCanceled copy) with canceled := true }, .idle)
  | .perform, .idle => shared.perform
  | .send (.ok result), .loaded copy =>
      some ({ shared.changeJob (fun job => { job with failed := false }) with
        sends := shared.sends + 1 }, .answered copy (.ok result))
  | .send (.error reason), .loaded copy =>
      some (shared.changeJob (fun job => { job with failed := true }),
        .answered copy (.error reason))
  | .record, .answered copy (.ok result) =>
      some ((shared.write copy (reconcileSuccess copy result)).changeJob Job.complete, .idle)
  | .record, .answered _ (.error .rateLimitExceeded) =>
      some (shared.changeJob Job.snooze, .idle)
  | .record, .answered copy (.error (.other reason)) =>
      some ((shared.write copy (fail copy reason)).changeJob Job.retry, .idle)
  | .crash, .loaded _ => some (shared.changeJob Job.retry, .idle)
  | .crash, .answered _ _ => some (shared.changeJob Job.retry, .idle)
  | .crash, _ => some (shared, .idle)
  | _, _ => none

abbrev System := Interleaving Shared Process

def step (system : System) (label : Nat × Action) : System :=
  system.act react label

def unsubmitted : System where
  shared := ⟨none, none, 0, false⟩
  process := fun _ => .idle

end Elektrine.JMAP.EmailSubmission
