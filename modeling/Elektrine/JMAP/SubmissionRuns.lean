import Elektrine.JMAP.EmailSubmission
import Elektrine.Library.Runs

/-!
# Runs over one submission

Cancels, attempts and the failure mark write over each other through old copies.  The
submission lives as it should while no cancel writes during an attempt or over a mark, no
attempt dies between its send and its record, and no failure is marked while attempts
remain.
-/

namespace Elektrine.JMAP.EmailSubmission

open Elektrine.Library

structure Lawful (shared : Shared) : Prop where
  neverSent : shared.canceled = true → shared.sends = 0
  canceledUnsent : ∀ row, shared.row = some row → row.undoStatus = .canceled →
    shared.sends = 0
  once : shared.sends ≤ 1
  /-- When the last send has failed and an attempt remains, that attempt sends again. -/
  retried : ∀ job row, shared.job = some job → shared.row = some row →
    job.state = .available → job.failed = true → shared.canceled = false →
    skipReason row = none

def Shared.quiet (shared : Shared) : Bool :=
  (shared.row.any fun row => row.undoStatus == .pending) &&
    shared.job.all fun job => job.state != .executing

def careful (system : System) (label : Nat × Action) : Bool :=
  match label.2, system.process label.1 with
  | .write, .allowed _ => system.shared.quiet
  | .record, .answered _ (.error (.other _)) =>
      system.shared.job.all fun job => job.maxAttempts ≤ job.attempt
  | .crash, .answered _ (.ok _) => false
  | _, _ => true

inductive Reacts (shared : Shared) : Action → Process → Shared → Process → Prop where
  | created (sendAt : Option Nat) (first : shared.row = none) :
      Reacts shared (.create sendAt) .idle
        { shared with row := some (newSubmission sendAt) } (.created (newSubmission sendAt))
  | enqueued (copy : Submission) :
      Reacts shared (.enqueue none) (.created copy)
        { shared with job := some ⟨0, maxAttempts, .available, false⟩ } (.enqueued copy)
  | unqueued (copy : Submission) (reason : String) :
      Reacts shared (.enqueue (some reason)) (.created copy)
        (shared.write copy (fail copy reason)) .idle
  | scheduled (copy : Submission) (sendAt : Nat) (deliveryStatus : DeliveryStatus) :
      Reacts shared (.schedule sendAt deliveryStatus) (.enqueued copy)
        (shared.write copy ⟨some sendAt, .pending, deliveryStatus⟩) .idle
  | found {copy : Submission} (row : shared.row = some copy) :
      Reacts shared .find .idle shared (.canceling copy)
  | allowed {copy : Submission} {now : Nat} (checked : checkCancel copy now = .ok ()) :
      Reacts shared (.cancel now) (.canceling copy) shared (.allowed copy)
  | refused (copy : Submission) (now : Nat) :
      Reacts shared (.cancel now) (.canceling copy) shared .idle
  | canceled (copy : Submission) :
      Reacts shared .write (.allowed copy)
        { shared.write copy (markCanceled copy) with canceled := true } .idle
  | skipped {job : Job} (waiting : shared.job = some job)
      (available : job.state = .available) :
      Reacts shared .perform .idle (shared.changeJob (Job.complete ∘ Job.start)) .idle
  | loaded {job : Job} {copy : Submission} (waiting : shared.job = some job)
      (available : job.state = .available) (row : shared.row = some copy)
      (sends : skipReason copy = none) :
      Reacts shared .perform .idle (shared.changeJob Job.start) (.loaded copy)
  | sent (copy : Submission) (result : SendResult) :
      Reacts shared (.send (.ok result)) (.loaded copy)
        { shared.changeJob (fun job => { job with failed := false }) with
          sends := shared.sends + 1 } (.answered copy (.ok result))
  | unsent (copy : Submission) (reason : SendError) :
      Reacts shared (.send (.error reason)) (.loaded copy)
        (shared.changeJob fun job => { job with failed := true })
        (.answered copy (.error reason))
  | recorded (copy : Submission) (result : SendResult) :
      Reacts shared .record (.answered copy (.ok result))
        ((shared.write copy (reconcileSuccess copy result)).changeJob Job.complete) .idle
  | snoozed (copy : Submission) :
      Reacts shared .record (.answered copy (.error .rateLimitExceeded))
        (shared.changeJob Job.snooze) .idle
  | failed (copy : Submission) (reason : String) :
      Reacts shared .record (.answered copy (.error (.other reason)))
        ((shared.write copy (fail copy reason)).changeJob Job.retry) .idle
  | died {process : Process} (attempt : (∃ copy, process = .loaded copy) ∨
        ∃ copy answer, process = .answered copy answer) :
      Reacts shared .crash process (shared.changeJob Job.retry) .idle
  | stopped {process : Process} : Reacts shared .crash process shared .idle

theorem reacts_of_react {shared after : Shared} {action : Action} {process next : Process}
    (reaction : react shared action process = some (after, next)) :
    Reacts shared action process after next := by
  unfold react at reaction
  split at reaction
  · split at reaction
    · rename_i first
      cases reaction
      exact .created _ (Option.isNone_iff_eq_none.mp first)
    · cases reaction
  · cases reaction
    exact .enqueued _
  · cases reaction
    exact .unqueued _ _
  · cases reaction
    exact .scheduled _ _ _
  · obtain ⟨copy, row, same⟩ := Option.map_eq_some_iff.mp reaction
    cases same
    exact .found row
  · split at reaction
    · rename_i checked
      cases reaction
      exact .allowed checked
    · cases reaction
      exact .refused _ _
  · cases reaction
    exact .canceled _
  · unfold Shared.perform at reaction
    split at reaction
    · rename_i waiting
      split at reaction
      · cases reaction
        exact .skipped waiting rfl
      · rename_i row
        split at reaction
        · cases reaction
          exact .skipped waiting rfl
        · rename_i sends
          cases reaction
          exact .loaded waiting rfl row (by simpa using sends)
    · cases reaction
  · cases reaction
    exact .sent _ _
  · cases reaction
    exact .unsent _ _
  · cases reaction
    exact .recorded _ _
  · cases reaction
    exact .snoozed _
  · cases reaction
    exact .failed _ _
  · cases reaction
    exact .died (Or.inl ⟨_, rfl⟩)
  · cases reaction
    exact .died (Or.inr ⟨_, _, rfl⟩)
  · cases reaction
    exact .stopped
  · cases reaction

def Process.isAttempt : Process → Bool
  | .loaded _ => true
  | .answered _ _ => true
  | _ => false

def Process.hasSent : Process → Bool
  | .answered _ (.ok _) => true
  | _ => false

def Process.isCreator : Process → Bool
  | .created _ => true
  | _ => false

def Process.writes : Process → Option Submission
  | .created copy => some copy
  | .enqueued copy => some copy
  | .allowed copy => some copy
  | .loaded copy => some copy
  | .answered copy _ => some copy
  | _ => none

def Shared.status (shared : Shared) : Option UndoStatus :=
  shared.row.map Submission.undoStatus

def Shared.jobState (shared : Shared) : Option JobState := shared.job.map Job.state

structure Sound (system : System) : Prop where
  copies : ∀ id copy, (system.process id).writes = some copy → copy.undoStatus = .pending
  flight : ∀ id, (system.process id).isAttempt = true →
    system.shared.jobState = some .executing ∧ system.shared.status = some .pending
  single : Interleaving.AtMostOne (fun process => process.isAttempt = true) system
  creator : ∀ id, (system.process id).isCreator = true →
    system.shared.jobState = none ∧ system.shared.status ≠ none ∧
      system.shared.status ≠ some .final
  oneCreator : Interleaving.AtMostOne (fun process => process.isCreator = true) system
  absent : system.shared.status = none → system.shared.jobState = none ∧
    system.shared.sends = 0 ∧ system.shared.canceled = false
  sends : system.shared.sends = 0 ∨
    (system.shared.sends = 1 ∧ system.shared.canceled = false ∧
      (system.shared.status = some .final ∨
        ∃ id, (system.process id).hasSent = true))
  canceled : system.shared.canceled = true → system.shared.sends = 0 ∧
    system.shared.status ≠ some .pending
  statusCanceled : system.shared.status = some .canceled → system.shared.canceled = true
  waiting : system.shared.jobState = some .available → system.shared.status ≠ some .final

theorem lawful_of_sound {system : System} (sound : Sound system) : Lawful system.shared where
  neverSent canceled := (sound.canceled canceled).1
  canceledUnsent row stored status := by
    have canceled : system.shared.status = some .canceled := by
      rw [Shared.status, stored, Option.map_some, status]
    exact (sound.canceled (sound.statusCanceled canceled)).1
  once := by
    rcases sound.sends with none | one
    · rw [none]
      exact Nat.zero_le _
    · exact Nat.le_of_eq one.1
  retried job row waiting stored available _ uncanceled := by
    have status : system.shared.status = some row.undoStatus := by
      rw [Shared.status, stored, Option.map_some]
    have state : system.shared.jobState = some .available := by
      rw [Shared.jobState, waiting, Option.map_some, available]
    have notFinal := sound.waiting state
    have notCanceled : system.shared.status ≠ some .canceled := by
      intro canceled
      rw [sound.statusCanceled canceled] at uncanceled
      cases uncanceled
    rw [status] at notFinal notCanceled
    obtain ⟨sendAt, undoStatus, deliveryStatus⟩ := row
    cases undoStatus with
    | pending => rfl
    | final => exact absurd rfl notFinal
    | canceled => exact absurd rfl notCanceled

theorem sound_unsubmitted : Sound unsubmitted where
  copies _ _ writes := nomatch writes
  flight _ attempt := nomatch attempt
  single _ _ attempt := nomatch attempt
  creator _ created := nomatch created
  oneCreator _ _ created := nomatch created
  absent _ := ⟨rfl, rfl, rfl⟩
  sends := Or.inl rfl
  canceled canceled := nomatch canceled
  statusCanceled canceled := nomatch canceled
  waiting waiting := nomatch waiting

section Statuses

variable (shared : Shared) (copy changed : Submission)

theorem status_write : (shared.write copy changed).status =
    shared.status.map fun status => written status copy.undoStatus changed.undoStatus := by
  simp only [Shared.status, Shared.write, Option.map_map]
  rfl

@[simp] theorem jobState_write : (shared.write copy changed).jobState = shared.jobState := rfl

@[simp] theorem sends_write : (shared.write copy changed).sends = shared.sends := rfl

@[simp] theorem canceled_write : (shared.write copy changed).canceled = shared.canceled := rfl

@[simp] theorem status_changeJob (change : Job → Job) :
    (shared.changeJob change).status = shared.status := rfl

@[simp] theorem sends_changeJob (change : Job → Job) :
    (shared.changeJob change).sends = shared.sends := rfl

@[simp] theorem canceled_changeJob (change : Job → Job) :
    (shared.changeJob change).canceled = shared.canceled := rfl

theorem status_write_of_pending (pending : copy.undoStatus = .pending)
    (marks : changed.undoStatus ≠ .pending) :
    (shared.write copy changed).status =
      shared.status.map fun _ => changed.undoStatus := by
  rw [status_write, pending]
  congr 1
  funext status
  exact written_of_ne marks

theorem status_write_of_same (same : changed.undoStatus = copy.undoStatus) :
    (shared.write copy changed).status = shared.status := by
  rw [status_write, same]
  cases shared.status with
  | none => rfl
  | some status => rw [Option.map_some, written_copied]

end Statuses

theorem isAttempt_of_hasSent {process : Process} (sent : process.hasSent = true) :
    process.isAttempt = true := by
  cases process with
  | answered copy answer => rfl
  | _ => cases sent

section Moves

variable {system : System} {id : Nat} {shared : Shared} {next : Process}

theorem process_move (system : System) (id : Nat) (shared : Shared) (next : Process)
    (other : Nat) : (system.move id shared next).process other =
      if other = id then next else system.process other := by
  rw [Interleaving.move]
  exact Function.update_apply ..

theorem sound_leave (sound : Sound system)
    (status : shared.status = system.shared.status)
    (jobState : shared.jobState = system.shared.jobState)
    (sends : shared.sends = system.shared.sends)
    (canceled : shared.canceled = system.shared.canceled)
    (writes : ∀ copy, next.writes = some copy → copy.undoStatus = .pending)
    (quiet : next.isAttempt = false ∧ next.isCreator = false)
    (unsent : (system.process id).hasSent = false) :
    Sound (system.move id shared next) := by
  obtain ⟨copies, flight, single, creator, oneCreator, absent, sent, was, statusWas, waiting⟩ :=
    sound
  unfold Interleaving.AtMostOne at single oneCreator
  constructor
  all_goals
    simp only [process_move, Interleaving.shared_move, Interleaving.AtMostOne, status,
      jobState, sends, canceled]
    grind

theorem sound_create (sound : Sound system) {copy : Submission}
    (first : system.shared.status = none)
    (status : shared.status = some .pending)
    (jobState : shared.jobState = system.shared.jobState)
    (sends : shared.sends = system.shared.sends)
    (canceled : shared.canceled = system.shared.canceled)
    (pending : copy.undoStatus = .pending) :
    Sound (system.move id shared (.created copy)) := by
  obtain ⟨copies, flight, single, creator, oneCreator, absent, sent, was, statusWas, waiting⟩ :=
    sound
  unfold Interleaving.AtMostOne at single oneCreator
  constructor
  all_goals
    simp only [process_move, Interleaving.shared_move, Interleaving.AtMostOne, status,
      jobState, sends, canceled]
    grind [Process.writes, Process.isAttempt, Process.isCreator]

theorem sound_enqueue (sound : Sound system) (creates : (system.process id).isCreator = true)
    (decided : (shared.status = system.shared.status ∧ shared.jobState = some .available) ∨
      (shared.status = some .final ∧ shared.jobState = none))
    (sends : shared.sends = system.shared.sends)
    (canceled : shared.canceled = system.shared.canceled)
    (writes : ∀ copy, next.writes = some copy → copy.undoStatus = .pending)
    (quiet : next.isAttempt = false ∧ next.isCreator = false)
    (unsent : (system.process id).hasSent = false) :
    Sound (system.move id shared next) := by
  obtain ⟨copies, flight, single, creator, oneCreator, absent, sent, was, statusWas, waiting⟩ :=
    sound
  unfold Interleaving.AtMostOne at single oneCreator
  constructor
  all_goals
    simp only [process_move, Interleaving.shared_move, Interleaving.AtMostOne, sends,
      canceled]
    grind

theorem sound_cancel (sound : Sound system) (pending : system.shared.status = some .pending)
    (idle : system.shared.jobState ≠ some .executing)
    (status : shared.status = some .canceled)
    (jobState : shared.jobState = system.shared.jobState)
    (sends : shared.sends = system.shared.sends)
    (canceled : shared.canceled = true) :
    Sound (system.move id shared .idle) := by
  have sent_attempts := @isAttempt_of_hasSent
  obtain ⟨copies, flight, single, creator, oneCreator, absent, sent, was, statusWas, waiting⟩ :=
    sound
  unfold Interleaving.AtMostOne at single oneCreator
  constructor
  all_goals
    simp only [process_move, Interleaving.shared_move, Interleaving.AtMostOne, status,
      jobState, sends, canceled]
    grind [Process.writes, Process.isAttempt, Process.isCreator]

theorem sound_skip (sound : Sound system)
    (available : system.shared.jobState = some .available)
    (idle : (system.process id).hasSent = false)
    (status : shared.status = system.shared.status)
    (jobState : shared.jobState = some .completed)
    (sends : shared.sends = system.shared.sends)
    (canceled : shared.canceled = system.shared.canceled) :
    Sound (system.move id shared .idle) := by
  obtain ⟨copies, flight, single, creator, oneCreator, absent, sent, was, statusWas, waiting⟩ :=
    sound
  unfold Interleaving.AtMostOne at single oneCreator
  constructor
  all_goals
    simp only [process_move, Interleaving.shared_move, Interleaving.AtMostOne, status,
      jobState, sends, canceled]
    grind [Process.writes, Process.isAttempt, Process.isCreator]

theorem sound_start (sound : Sound system) {copy : Submission}
    (available : system.shared.jobState = some .available)
    (row : system.shared.status = some .pending) (pending : copy.undoStatus = .pending)
    (idle : (system.process id).hasSent = false)
    (status : shared.status = system.shared.status)
    (jobState : shared.jobState = some .executing)
    (sends : shared.sends = system.shared.sends)
    (canceled : shared.canceled = system.shared.canceled) :
    Sound (system.move id shared (.loaded copy)) := by
  obtain ⟨copies, flight, single, creator, oneCreator, absent, sent, was, statusWas, waiting⟩ :=
    sound
  unfold Interleaving.AtMostOne at single oneCreator
  constructor
  all_goals
    simp only [process_move, Interleaving.shared_move, Interleaving.AtMostOne, status,
      jobState, sends, canceled]
    grind [Process.writes, Process.isAttempt, Process.isCreator]

theorem sound_answer (sound : Sound system) {copy : Submission}
    {answer : Except SendError SendResult} (here : system.process id = .loaded copy)
    (status : shared.status = system.shared.status)
    (jobState : shared.jobState = system.shared.jobState)
    (sends : shared.sends = system.shared.sends +
      if (Process.answered copy answer).hasSent then 1 else 0)
    (canceled : shared.canceled = system.shared.canceled) :
    Sound (system.move id shared (.answered copy answer)) := by
  have sent_attempts := @isAttempt_of_hasSent
  obtain ⟨copies, flight, single, creator, oneCreator, absent, sent, was, statusWas, waiting⟩ :=
    sound
  unfold Interleaving.AtMostOne at single oneCreator
  have pending := (flight id (by rw [here]; rfl)).2
  have unsent : system.shared.sends = 0 := by
    grind [Process.isAttempt, Process.hasSent]
  constructor
  all_goals
    simp only [process_move, Interleaving.shared_move, Interleaving.AtMostOne, status,
      jobState, sends, canceled]
    grind [Process.writes, Process.isAttempt, Process.isCreator]

theorem sound_record (sound : Sound system)
    (attempts : (system.process id).isAttempt = true)
    (ended : (shared.status = some .final ∧
        (shared.jobState = some .completed ∨ shared.jobState = some .discarded)) ∨
      (shared.status = some .pending ∧ (system.process id).hasSent = false ∧
        (shared.jobState = some .available ∨ shared.jobState = some .discarded)))
    (sends : shared.sends = system.shared.sends)
    (canceled : shared.canceled = system.shared.canceled) :
    Sound (system.move id shared .idle) := by
  have sent_attempts := @isAttempt_of_hasSent
  obtain ⟨copies, flight, single, creator, oneCreator, absent, sent, was, statusWas, waiting⟩ :=
    sound
  unfold Interleaving.AtMostOne at single oneCreator
  constructor
  all_goals
    simp only [process_move, Interleaving.shared_move, Interleaving.AtMostOne, sends,
      canceled]
    grind [Process.writes, Process.isAttempt, Process.isCreator]

end Moves

section Steps

variable {system : System} {id : Nat}

theorem status_of_row {shared : Shared} {row : Submission} (stored : shared.row = some row) :
    shared.status = some row.undoStatus := by
  rw [Shared.status, stored, Option.map_some]

theorem jobState_of_job {shared : Shared} {job : Job} (waiting : shared.job = some job) :
    shared.jobState = some job.state := by
  rw [Shared.jobState, waiting, Option.map_some]

theorem jobState_changeJob {shared : Shared} {job : Job} {change : Job → Job}
    (waiting : shared.job = some job) :
    (shared.changeJob change).jobState = some (change job).state := by
  rw [Shared.jobState, Shared.changeJob, waiting]
  rfl

theorem jobState_changeJob_same (shared : Shared) {change : Job → Job}
    (same : ∀ job, (change job).state = job.state) :
    (shared.changeJob change).jobState = shared.jobState := by
  rw [Shared.jobState, Shared.changeJob, Shared.jobState, Option.map_map]
  congr 1
  funext job
  exact same job

theorem pending_of_not_skipped {copy : Submission} (sends : skipReason copy = none) :
    copy.undoStatus = .pending := by
  obtain ⟨sendAt, undoStatus, deliveryStatus⟩ := copy
  cases undoStatus with
  | pending => rfl
  | final => cases sends
  | canceled => cases sends

theorem pending_of_checked {copy : Submission} {now : Nat}
    (checked : checkCancel copy now = .ok ()) : copy.undoStatus = .pending := by
  unfold checkCancel at checked
  split at checked
  · assumption
  · cases checked

theorem job_of_flight (sound : Sound system)
    (attempts : (system.process id).isAttempt = true) :
    ∃ job, system.shared.job = some job ∧ job.state = .executing :=
  Option.map_eq_some_iff.mp (sound.flight id attempts).1

theorem retry_state (job : Job) :
    (job.retry.state = .available ∧ job.attempt < job.maxAttempts) ∨
      job.retry.state = .discarded := by
  unfold Job.retry
  dsimp only
  split
  · exact Or.inl ⟨rfl, by assumption⟩
  · exact Or.inr rfl

theorem sound_retry (sound : Sound system)
    (attempts : (system.process id).isAttempt = true)
    (unsent : (system.process id).hasSent = false) {change : Job → Job}
    (ended : ∀ job, (change job).state = .available ∨ (change job).state = .discarded) :
    Sound (system.move id (system.shared.changeJob change) .idle) := by
  obtain ⟨job, waiting, -⟩ := job_of_flight sound attempts
  have pending := (sound.flight id attempts).2
  apply sound_record sound attempts
  · right
    refine ⟨pending, unsent, ?_⟩
    rw [jobState_changeJob waiting]
    rcases ended job with available | discarded
    · exact Or.inl (by rw [available])
    · exact Or.inr (by rw [discarded])
  · rfl
  · rfl

theorem sound_mark (sound : Sound system) {copy changed : Submission}
    (attempts : (system.process id).isAttempt = true)
    (writes : (system.process id).writes = some copy)
    (marks : changed.undoStatus = .final) {change : Job → Job}
    (ended : ∀ job, system.shared.job = some job →
      (change job).state = .completed ∨ (change job).state = .discarded) :
    Sound (system.move id ((system.shared.write copy changed).changeJob change) .idle) := by
  obtain ⟨job, waiting, -⟩ := job_of_flight sound attempts
  have pending := (sound.flight id attempts).2
  have copied := sound.copies id copy writes
  apply sound_record sound attempts
  · left
    refine ⟨?_, ?_⟩
    · rw [status_changeJob, status_write_of_pending _ _ _ copied (by rw [marks]; decide),
        pending, Option.map_some, marks]
    · have written : (system.shared.write copy changed).job = some job := waiting
      rw [jobState_changeJob written]
      rcases ended job waiting with completed | discarded
      · exact Or.inl (by rw [completed])
      · exact Or.inr (by rw [discarded])
  · rfl
  · rfl

theorem sound_step (sound : Sound system) (label : Nat × Action)
    (guarded : careful system label = true) : Sound (step system label) := by
  obtain ⟨id, action⟩ := label
  rcases system.act_cases react (id, action) with ⟨-, still⟩ | ⟨shared, next, reaction, moved⟩
  · rw [step, still]
    exact sound
  · rw [step, moved]
    have reacts := reacts_of_react reaction
    dsimp only at reacts
    unfold careful at guarded
    dsimp only at guarded
    generalize here : system.process id = process at reacts guarded
    cases reacts with
    | created sendAt first =>
        have nothing : system.shared.status = none := by
          rw [Shared.status, first, Option.map_none]
        exact sound_create sound nothing rfl rfl rfl rfl rfl
    | enqueued copy =>
        apply sound_enqueue sound
        · rw [here]
          rfl
        · exact Or.inl ⟨rfl, rfl⟩
        · rfl
        · rfl
        · exact fun other writes => sound.copies id other (by rw [here]; exact writes)
        · exact ⟨rfl, rfl⟩
        · rw [here]
          rfl
    | unqueued copy reason =>
        have creates : (system.process id).isCreator = true := by
          rw [here]
          rfl
        obtain ⟨jobless, exists_row, -⟩ := sound.creator id creates
        have copied := sound.copies id copy (by rw [here]; rfl)
        apply sound_enqueue sound creates
        · right
          refine ⟨?_, jobless⟩
          rw [status_write_of_pending _ _ _ copied (by simp)]
          obtain ⟨status, stored⟩ := Option.ne_none_iff_exists'.mp exists_row
          rw [stored]
          rfl
        · rfl
        · rfl
        · exact fun other writes => nomatch writes
        · exact ⟨rfl, rfl⟩
        · rw [here]
          rfl
    | scheduled copy sendAt deliveryStatus =>
        have copied := sound.copies id copy (by rw [here]; rfl)
        apply sound_leave sound
        · exact status_write_of_same _ _ _ copied.symm
        · rfl
        · rfl
        · rfl
        · exact fun other writes => nomatch writes
        · exact ⟨rfl, rfl⟩
        · rw [here]
          rfl
    | found row =>
        apply sound_leave sound rfl rfl rfl rfl
        · exact fun other writes => nomatch writes
        · exact ⟨rfl, rfl⟩
        · rw [here]
          rfl
    | allowed checked =>
        apply sound_leave sound rfl rfl rfl rfl
        · intro other writes
          cases writes
          exact pending_of_checked checked
        · exact ⟨rfl, rfl⟩
        · rw [here]
          rfl
    | refused copy now =>
        apply sound_leave sound rfl rfl rfl rfl
        · exact fun other writes => nomatch writes
        · exact ⟨rfl, rfl⟩
        · rw [here]
          rfl
    | canceled copy =>
        have copied := sound.copies id copy (by rw [here]; rfl)
        obtain ⟨untouched, quiet⟩ := Bool.and_eq_true_iff.mp guarded
        have pending : system.shared.status = some .pending := by
          cases stored : system.shared.row with
          | none =>
              rw [stored] at untouched
              cases untouched
          | some row =>
              rw [stored, Option.any_some] at untouched
              rw [status_of_row stored, beq_iff_eq.mp untouched]
        have idle : system.shared.jobState ≠ some .executing := by
          intro executing
          obtain ⟨job, waiting, state⟩ := Option.map_eq_some_iff.mp executing
          rw [waiting, Option.all_some, state] at quiet
          cases quiet
        apply sound_cancel sound pending idle
        · refine (status_write_of_pending _ _ _ copied (by simp)).trans ?_
          rw [pending]
          rfl
        · rfl
        · rfl
        · rfl
    | skipped waiting available =>
        apply sound_skip sound
        · rw [jobState_of_job waiting, available]
        · rw [here]
          rfl
        · rfl
        · rw [jobState_changeJob waiting]
          rfl
        · rfl
        · rfl
    | loaded waiting available row sends =>
        have pending := pending_of_not_skipped sends
        apply sound_start sound
        · rw [jobState_of_job waiting, available]
        · rw [status_of_row row, pending]
        · exact pending
        · rw [here]
          rfl
        · rfl
        · rw [jobState_changeJob waiting]
          rfl
        · rfl
        · rfl
    | sent copy result =>
        apply sound_answer sound here
        · rfl
        · exact jobState_changeJob_same system.shared fun _ => rfl
        · rfl
        · rfl
    | unsent copy reason =>
        apply sound_answer sound here
        · rfl
        · exact jobState_changeJob_same system.shared fun _ => rfl
        · rfl
        · rfl
    | recorded copy result =>
        apply sound_mark sound
        · rw [here]
          rfl
        · rw [here]
          rfl
        · rfl
        · exact fun _ _ => Or.inl rfl
    | snoozed copy =>
        apply sound_retry sound
        · rw [here]
          rfl
        · rw [here]
          rfl
        · exact fun _ => Or.inl rfl
    | failed copy reason =>
        apply sound_mark sound
        · rw [here]
          rfl
        · rw [here]
          rfl
        · rfl
        · intro job waiting
          rw [waiting] at guarded
          have exhausted : job.maxAttempts ≤ job.attempt := of_decide_eq_true guarded
          rcases retry_state job with ⟨-, left⟩ | discarded
          · exact absurd left (Nat.not_lt.mpr exhausted)
          · exact Or.inr discarded
    | died attempt =>
        have unsent : (system.process id).hasSent = false := by
          rw [here]
          rcases attempt with ⟨copy, same⟩ | ⟨copy, answer, same⟩
          · rw [same]
            rfl
          · rw [same] at guarded ⊢
            cases answer with
            | error reason => rfl
            | ok result => cases guarded
        apply sound_retry sound _ unsent
        · intro job
          rcases retry_state job with ⟨available, -⟩ | discarded
          · exact Or.inl available
          · exact Or.inr discarded
        · rw [here]
          rcases attempt with ⟨copy, same⟩ | ⟨copy, answer, same⟩
          · rw [same]
            rfl
          · rw [same]
            rfl
    | stopped =>
        apply sound_leave sound rfl rfl rfl rfl
        · exact fun other writes => nomatch writes
        · exact ⟨rfl, rfl⟩
        · rw [here]
          cases process with
          | answered copy answer =>
              cases answer with
              | error reason => rfl
              | ok result => cases guarded
          | _ => rfl

end Steps

/-- In every run whose steps are careful, the submission lives as it should. -/
theorem lawful_of_careful (labels : List (Nat × Action))
    (guarded : Along step (fun system label => careful system label = true) unsubmitted
      labels) : Lawful (labels.foldl step unsubmitted).shared := by
  have kept : ∀ (before : System) (label : Nat × Action), Sound before →
      careful before label = true → Sound (step before label) :=
    fun before label sound guarded => sound_step sound label guarded
  exact lawful_of_sound (guarded.invariant kept sound_unsubmitted)

def diesThenSends : List (Nat × Action) :=
  [(0, .create (some 100)), (0, .enqueue none), (0, .schedule 100 [("status", some "scheduled")]),
    (1, .perform), (1, .crash), (2, .find), (2, .cancel 200), (3, .perform),
    (3, .send (.ok ⟨none, some "m", some 9⟩)), (3, .record), (4, .perform)]

theorem lawful_diesThenSends : Lawful (diesThenSends.foldl step unsubmitted).shared :=
  lawful_of_careful diesThenSends (along_of_check (by decide))

def failsOnce : List (Nat × Action) :=
  [(0, .create (some 100)), (0, .enqueue none), (1, .perform),
    (1, .send (.error (.other "timeout"))), (1, .record)]

/-- The next attempt is going to skip the submission, although four are left. -/
theorem not_lawful_failsOnce : ¬ Lawful (failsOnce.foldl step unsubmitted).shared := by
  intro lawful
  have shared : (failsOnce.foldl step unsubmitted).shared =
      ⟨some ⟨some 100, .final, [("error", some "timeout"), ("status", some "failed")]⟩,
        some ⟨1, 5, .available, true⟩, 0, false⟩ := by
    decide
  rw [shared] at lawful
  exact absurd (lawful.retried _ _ rfl rfl rfl rfl rfl) (by decide)

end Elektrine.JMAP.EmailSubmission
