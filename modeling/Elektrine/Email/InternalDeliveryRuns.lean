import Elektrine.Email.InternalDelivery

/-!
# Runs over one internal delivery

At most one message is created for a row, whatever the order of the steps.  While no mark
is written over a delivered row, a row whose message exists is not left behind as failed
or pending: some process is at work on it, or a job is waiting whose attempt delivers it.
-/

namespace Elektrine.Email.InternalDelivery

open Elektrine.Library

inductive Reacts (internal : Internal) : Action → Process → Internal → Process → Prop where
  | skipped {job : Nat} {waiting : Job} (there : internal.jobs[job]? = some waiting)
      (done : internal.row.status = .delivered) :
      Reacts internal (.perform job) .idle
        (internal.changeJob (some job) (Job.complete ∘ Job.start)) .idle
  | started {job : Nat} {waiting : Job} (there : internal.jobs[job]? = some waiting) :
      Reacts internal (.perform job) .idle (internal.changeJob (some job) Job.start)
        (.attempt (some job) internal.row)
  | taken : Reacts internal .deliverNow .idle internal (.attempt none internal.row)
  | marked (job : Option Nat) (delivery : Delivery) :
      Reacts internal .markDelivering (.attempt job delivery)
        (internal.write delivery (markDelivering delivery)) (.marked job delivery)
  | created (job : Option Nat) (delivery : Delivery) (refusal : Option String)
      (inspected : String) {messages : MailboxMessages} {message : MailboxMessage}
      (stored : internal.messages.insert delivery.params.storedMessageId
        delivery.params.mailboxId = some (messages, message)) :
      Reacts internal (.create refusal inspected) (.marked job delivery)
        { internal with messages, created := internal.created + 1 }
        (.answered job delivery (.ok message.id))
  | answered (job : Option Nat) (delivery : Delivery) (refusal : Option String)
      (inspected : String) (answer : Except String Nat) :
      Reacts internal (.create refusal inspected) (.marked job delivery) internal
        (.answered job delivery answer)
  | raised (job : Option Nat) (delivery : Delivery) (refusal : Option String)
      (inspected : String) :
      Reacts internal (.create refusal inspected) (.marked job delivery)
        (internal.changeJob job Job.fail) .idle
  | recorded (job : Option Nat) (delivery : Delivery) (messageId : Nat) :
      Reacts internal .finish (.answered job delivery (.ok messageId))
        ((internal.write (markDelivering delivery)
          (markDelivered (markDelivering delivery) messageId)).changeJob job Job.complete)
        .idle
  | failed (job : Option Nat) (delivery : Delivery) (reason : String) :
      Reacts internal .finish (.answered job delivery (.error reason))
        ((internal.write delivery (markFailed delivery reason)).changeJob job Job.fail)
        .idle
  | crashed (process : Process) :
      Reacts internal .crash process (internal.changeJob process.job Job.fail) .idle
  | found : Reacts internal .findRequeue .idle internal (.requeueing internal.row)
  | requeued (delivery : Delivery) :
      Reacts internal .requeue (.requeueing delivery)
        (internal.write delivery (requeue delivery)) .requeued
  | swallowed (recent : Nat → Bool) :
      Reacts internal (.enqueue recent) .requeued internal .idle
  | enqueued (recent : Nat → Bool) :
      Reacts internal (.enqueue recent) .requeued
        { internal with jobs := internal.jobs ++ [⟨0, .available⟩] } .idle

theorem reacts_create {internal after : Internal} {next : Process} {job : Option Nat}
    {delivery : Delivery} {refusal : Option String} {inspected : String}
    (creation : internal.create job delivery refusal inspected = (after, next)) :
    Reacts internal (.create refusal inspected) (.marked job delivery) after next := by
  unfold Internal.create createMessage at creation
  cases refusal with
  | some reason =>
      cases creation
      exact .answered job delivery _ inspected _
  | none =>
      dsimp only at creation
      by_cases blank : trim delivery.params.storedMessageId = ""
      · rw [if_pos blank] at creation
        cases creation
        exact .answered job delivery none inspected _
      · rw [if_neg blank] at creation
        cases stored : internal.messages.insert delivery.params.storedMessageId
            delivery.params.mailboxId with
        | some result =>
            rw [stored] at creation
            cases creation
            exact .created job delivery none inspected stored
        | none =>
            rw [stored] at creation
            dsimp only at creation
            cases looked : internal.messages.getMessageById
                delivery.params.storedMessageId delivery.params.mailboxId with
            | nil =>
                rw [looked] at creation
                cases creation
                exact .answered job delivery none inspected _
            | cons first rest =>
                rw [looked] at creation
                cases rest with
                | nil =>
                    cases creation
                    exact .answered job delivery none inspected _
                | cons second others =>
                    cases creation
                    exact .raised job delivery none inspected

theorem reacts_of_react {internal after : Internal} {action : Action}
    {process next : Process} (reaction : react internal action process = some (after, next)) :
    Reacts internal action process after next := by
  cases action with
  | perform job =>
      cases process with
      | idle =>
          dsimp only [react, Internal.perform] at reaction
          cases there : internal.jobs[job]? with
          | none =>
              rw [there] at reaction
              cases reaction
          | some waiting =>
              rw [there, Option.map_some] at reaction
              split at reaction
              · split at reaction
                · rename_i done
                  cases reaction
                  exact .skipped there done
                · cases reaction
                  exact .started there
              · cases reaction
      | _ => cases reaction
  | deliverNow =>
      cases process with
      | idle =>
          dsimp only [react] at reaction
          split at reaction
          · cases reaction
          · cases reaction
            exact .taken
      | _ => cases reaction
  | markDelivering =>
      cases process with
      | attempt job delivery =>
          cases reaction
          exact .marked job delivery
      | _ => cases reaction
  | create refusal inspected =>
      cases process with
      | marked job delivery => exact reacts_create (Option.some.inj reaction)
      | _ => cases reaction
  | finish =>
      cases process with
      | answered job delivery answer =>
          cases answer with
          | ok messageId =>
              cases reaction
              exact .recorded job delivery messageId
          | error reason =>
              cases reaction
              exact .failed job delivery reason
      | _ => cases reaction
  | crash =>
      cases reaction
      exact .crashed process
  | findRequeue =>
      cases process with
      | idle =>
          dsimp only [react] at reaction
          split at reaction
          · cases reaction
          · cases reaction
            exact .found
      | _ => cases reaction
  | requeue =>
      cases process with
      | requeueing delivery =>
          cases reaction
          exact .requeued delivery
      | _ => cases reaction
  | enqueue recent =>
      cases process with
      | requeued =>
          dsimp only [react] at reaction
          split at reaction
          · cases reaction
            exact .swallowed recent
          · cases reaction
            exact .enqueued recent
      | _ => cases reaction

theorem step_cases (system : System) (id : Nat) (action : Action) :
    step system (id, action) = system ∨
      ∃ after next, Reacts system.shared action (system.process id) after next ∧
        step system (id, action) = system.move id after next := by
  rcases system.act_cases react (id, action) with ⟨-, still⟩ | ⟨after, next, reaction, moved⟩
  · exact Or.inl still
  · exact Or.inr ⟨after, next, reacts_of_react reaction, moved⟩

def Internal.arrived (internal : Internal) : Bool :=
  internal.messages.taken internal.row.params.storedMessageId
    internal.row.params.mailboxId

/-- A job is waiting, and the attempt of any idle process at it, undisturbed and without
a refusal, ends with a delivered row. -/
def Awaited (system : System) : Prop :=
  ∃ job, (system.shared.jobs[job]?).map Job.state = some .available ∧
    ∀ id inspected, (system.process id).isIdle →
      (([.perform job, .markDelivering, .create none inspected, .finish].map
        fun action => (id, action)).foldl step system).shared.row.status = .delivered

/-- At most one message is created.  When it is there and the row is failed or pending
although attempts are left, then somebody is at work, or an attempt is waiting that
delivers the row. -/
structure Kept (system : System) : Prop where
  once : system.shared.created ≤ 1
  onward : system.shared.arrived →
    system.shared.row.status = .failed ∨ system.shared.row.status = .pending →
    (∃ job ∈ system.shared.jobs, job.attempt < maxAttempts) →
      (∃ id, (system.process id).isIdle = false) ∨ Awaited system

/-- The step does not put another status over a delivered row.  Such a mark comes from a
copy that was loaded before the row was delivered. -/
def Careful (system : System) (label : Nat × Action) : Prop :=
  system.shared.row.status = .delivered →
    match label.2, system.process label.1 with
    | .markDelivering, .attempt _ delivery => delivery.status = .delivering
    | .finish, .answered _ delivery (.error _) => delivery.status = .failed
    | .requeue, .requeueing delivery => delivery.status = .pending
    | _, _ => True

/-- The message of the parameters is found again under its identification, and no other
message of the mailbox is. -/
structure Retrievable (params : Params) (messages : MailboxMessages) : Prop where
  again : (messageIdLookupCandidates params.storedMessageId).contains params.storedMessageId
  alone : ∀ message ∈ messages.table.rows, message.mailboxId = params.mailboxId →
    (messageIdLookupCandidates params.storedMessageId).contains message.messageId →
      message.messageId = params.storedMessageId

def Process.copy : Process → Option Delivery
  | .attempt _ delivery | .marked _ delivery | .answered _ delivery _
  | .requeueing delivery => some delivery
  | .idle | .requeued => none

structure Grounded (system : System) : Prop where
  copied : ∀ id, ∀ copy ∈ (system.process id).copy,
    copy.params = system.shared.row.params
  once : system.shared.created = 0 ∨ system.shared.created = 1 ∧ system.shared.arrived
  discarded : ∀ job ∈ system.shared.jobs, job.state = .discarded →
    maxAttempts ≤ job.attempt
  executing : ∀ number job, system.shared.jobs[number]? = some job →
    job.state = .executing → ∃ id, (system.process id).job = some number

section
variable {internal after : Internal} {action : Action} {process next : Process}

@[simp] theorem row_changeJob (job : Option Nat) (change : Job → Job) :
    (internal.changeJob job change).row = internal.row := by
  cases job <;> rfl

@[simp] theorem messages_changeJob (job : Option Nat) (change : Job → Job) :
    (internal.changeJob job change).messages = internal.messages := by
  cases job <;> rfl

@[simp] theorem created_changeJob (job : Option Nat) (change : Job → Job) :
    (internal.changeJob job change).created = internal.created := by
  cases job <;> rfl

theorem status_recorded (delivery : Delivery) (messageId : Nat) :
    (internal.write (markDelivering delivery)
      (markDelivered (markDelivering delivery) messageId)).row.status = .delivered := by
  have recorded : written internal.row.status .delivering .delivered = .delivered :=
    written_of_ne (by decide)
  exact recorded

theorem getElem_changeJob {job : Option Nat} {change : Job → Job} {number : Nat}
    {changed : Job}
    (there : (internal.changeJob job change).jobs[number]? = some changed) :
    (internal.jobs[number]? = some changed ∧ job ≠ some number) ∨
      ∃ old, internal.jobs[number]? = some old ∧ changed = change old ∧
        job = some number := by
  cases job with
  | none =>
      left
      exact ⟨there, (Option.some_ne_none number).symm⟩
  | some other =>
      have modified : (internal.jobs.modify other change)[number]? = some changed := there
      rw [List.getElem?_modify] at modified
      by_cases same : other = number
      · right
        obtain ⟨old, found, rfl⟩ := Option.map_eq_some_iff.mp modified
        rw [if_pos same]
        exact ⟨old, found, rfl, congrArg some same⟩
      · left
        obtain ⟨old, found, rfl⟩ := Option.map_eq_some_iff.mp modified
        rw [if_neg same]
        exact ⟨found, fun equal => same (Option.some.inj equal)⟩

theorem params_of_reacts (reacts : Reacts internal action process after next) :
    after.row.params = internal.row.params := by
  cases reacts <;> simp [Internal.write]

theorem copy_of_reacts (reacts : Reacts internal action process after next)
    {copy : Delivery} (copied : copy ∈ next.copy) :
    copy = internal.row ∨ copy ∈ process.copy := by
  cases reacts with
  | started there => exact Or.inl (Option.some.inj copied).symm
  | taken => exact Or.inl (Option.some.inj copied).symm
  | found => exact Or.inl (Option.some.inj copied).symm
  | marked job delivery => exact Or.inr copied
  | created job delivery refusal inspected stored => exact Or.inr copied
  | answered job delivery refusal inspected answer => exact Or.inr copied
  | _ => cases copied

theorem taken_insert {messages stored : MailboxMessages} {messageId : String}
    {mailboxId : Nat} {message : MailboxMessage}
    (inserted : messages.insert messageId mailboxId = some (stored, message)) :
    ¬ messages.taken messageId mailboxId ∧ stored.taken messageId mailboxId ∧
      message.Named messageId mailboxId ∧
      ∀ other, other ∈ stored.table.rows ↔ other ∈ messages.table.rows ∨ other = message := by
  unfold MailboxMessages.insert at inserted
  split at inserted
  · rename_i free
    cases inserted
    refine ⟨free, ?_, ⟨rfl, rfl⟩, fun other => SerialRows.mem_append⟩
    exact MailboxMessages.taken_iff.mpr
      ⟨_, SerialRows.mem_append.mpr (Or.inr rfl), rfl, rfl⟩
  · cases inserted

theorem messages_of_reacts (reacts : Reacts internal action process after next) :
    (after.messages = internal.messages ∧ after.created = internal.created) ∨
      ∃ delivery ∈ process.copy, ∃ message,
        internal.messages.insert delivery.params.storedMessageId
          delivery.params.mailboxId = some (after.messages, message) ∧
        after.created = internal.created + 1 := by
  cases reacts with
  | created job delivery refusal inspected stored =>
      right
      exact ⟨delivery, rfl, _, stored, rfl⟩
  | _ =>
      left
      simp [Internal.write]

theorem executing_of_reacts (reacts : Reacts internal action process after next)
    {number : Nat} {job : Job} (there : after.jobs[number]? = some job)
    (executing : job.state = .executing) :
    next.job = some number ∨
      (process.job ≠ some number ∧ internal.jobs[number]? = some job) := by
  have kept : after.jobs = internal.jobs → next.job = process.job → next.job = some number ∨
      (process.job ≠ some number ∧ internal.jobs[number]? = some job) := by
    intro same held
    by_cases own : process.job = some number
    · exact Or.inl (held.trans own)
    · exact Or.inr ⟨own, same ▸ there⟩
  have dropped : ∀ (before : Internal) (change : Job → Job), before.jobs = internal.jobs →
      (∀ old, (change old).state ≠ .executing) →
      (before.changeJob process.job change).jobs[number]? = some job →
      process.job ≠ some number ∧ internal.jobs[number]? = some job := by
    intro before change same finished found
    rcases getElem_changeJob found with ⟨here, other⟩ | ⟨old, -, rfl, -⟩
    · exact ⟨other, same ▸ here⟩
    · exact absurd executing (finished old)
  have not_failed : ∀ old : Job, old.fail.state ≠ .executing := by
    intro old
    dsimp only [Job.fail]
    split <;> exact JobState.noConfusion
  cases reacts with
  | skipped waiting done =>
      rcases getElem_changeJob there with ⟨here, other⟩ | ⟨old, -, rfl, -⟩
      · exact Or.inr ⟨(Option.some_ne_none number).symm, here⟩
      · cases executing
  | started waiting =>
      rcases getElem_changeJob there with ⟨here, other⟩ | ⟨old, -, -, own⟩
      · exact Or.inr ⟨(Option.some_ne_none number).symm, here⟩
      · exact Or.inl own
  | taken => exact kept rfl rfl
  | marked job delivery => exact kept rfl rfl
  | created job delivery refusal inspected stored => exact kept rfl rfl
  | answered job delivery refusal inspected answer => exact kept rfl rfl
  | raised job delivery refusal inspected => exact Or.inr (dropped _ _ rfl not_failed there)
  | recorded job delivery messageId =>
      exact Or.inr (dropped (internal.write _ _) Job.complete rfl (fun _ => JobState.noConfusion) there)
  | failed job delivery reason =>
      exact Or.inr (dropped (internal.write _ _) _ rfl not_failed there)
  | crashed process => exact Or.inr (dropped _ _ rfl not_failed there)
  | found => exact kept rfl rfl
  | requeued delivery => exact kept rfl rfl
  | swallowed recent => exact kept rfl rfl
  | enqueued recent =>
      rw [List.getElem?_append] at there
      split at there
      · exact Or.inr ⟨(Option.some_ne_none number).symm, there⟩
      · rw [List.mem_singleton.mp (List.mem_of_getElem? there)] at executing
        cases executing

/-- A job of the state after a step was there before, was changed by a process that
starts, finishes or fails it, or is new. -/
theorem jobs_of_reacts (reacts : Reacts internal action process after next) {job : Job}
    (member : job ∈ after.jobs) :
    job ∈ internal.jobs ∨ job = ⟨0, .available⟩ ∨
      ∃ old : Job, job = old.start ∨ job = old.fail ∨
        (job.state = .completed ∧ after.row.status = .delivered) := by
  have changed : ∀ (before : Internal) {number : Option Nat} {change : Job → Job},
      before.jobs = internal.jobs → job ∈ (before.changeJob number change).jobs →
      job ∈ internal.jobs ∨ ∃ old, job = change old := by
    intro before number change same there
    obtain ⟨place, found⟩ := List.mem_iff_getElem?.mp there
    rcases getElem_changeJob found with ⟨here, -⟩ | ⟨old, -, equal, -⟩
    · left
      rw [← same]
      exact List.mem_of_getElem? here
    · exact Or.inr ⟨old, equal⟩
  cases reacts with
  | skipped waiting done =>
      rcases changed internal rfl member with here | ⟨old, rfl⟩
      · exact Or.inl here
      · exact Or.inr (Or.inr ⟨old, Or.inr (Or.inr ⟨rfl, by simpa using done⟩)⟩)
  | started waiting =>
      rcases changed internal rfl member with here | ⟨old, rfl⟩
      · exact Or.inl here
      · exact Or.inr (Or.inr ⟨old, Or.inl rfl⟩)
  | raised number delivery refusal inspected =>
      rcases changed internal rfl member with here | ⟨old, rfl⟩
      · exact Or.inl here
      · exact Or.inr (Or.inr ⟨old, Or.inr (Or.inl rfl)⟩)
  | recorded number delivery messageId =>
      rcases changed (internal.write _ _) rfl member with here | ⟨old, rfl⟩
      · exact Or.inl here
      · refine Or.inr (Or.inr ⟨old, Or.inr (Or.inr ⟨rfl, ?_⟩)⟩)
        rw [row_changeJob]
        exact status_recorded delivery messageId
  | failed number delivery reason =>
      rcases changed (internal.write _ _) rfl member with here | ⟨old, rfl⟩
      · exact Or.inl here
      · exact Or.inr (Or.inr ⟨old, Or.inr (Or.inl rfl)⟩)
  | crashed process =>
      rcases changed internal rfl member with here | ⟨old, rfl⟩
      · exact Or.inl here
      · exact Or.inr (Or.inr ⟨old, Or.inr (Or.inl rfl)⟩)
  | enqueued recent =>
      rcases List.mem_append.mp member with here | new
      · exact Or.inl here
      · exact Or.inr (Or.inl (List.mem_singleton.mp new))
  | _ => exact Or.inl member

theorem discarded_fail {old : Job} (discarded : old.fail.state = .discarded) :
    maxAttempts ≤ old.fail.attempt := by
  dsimp only [Job.fail] at discarded ⊢
  split at discarded
  · cases discarded
  · omega

theorem arrived_of_reacts (reacts : Reacts internal action process after next)
    (arrived : internal.arrived) : after.arrived := by
  unfold Internal.arrived at arrived ⊢
  rw [params_of_reacts reacts]
  rcases messages_of_reacts reacts with ⟨same, -⟩ | ⟨delivery, -, message, inserted, -⟩
  · rwa [same]
  · obtain ⟨there, member, named⟩ := MailboxMessages.taken_iff.mp arrived
    exact MailboxMessages.taken_iff.mpr
      ⟨there, ((taken_insert inserted).2.2.2 there).mpr (Or.inl member), named⟩

theorem delivered_of_reacts {system : System} {id : Nat}
    (careful : Careful system (id, action))
    (reacts : Reacts system.shared action (system.process id) after next)
    (delivered : system.shared.row.status = .delivered) :
    after.row.status = .delivered := by
  have allowed := careful delivered
  generalize system.process id = process at reacts allowed
  have kept : ∀ {copy value : Status}, copy = value →
      written system.shared.row.status copy value = .delivered := by
    intro copy value same
    rw [same, written_copied, delivered]
  cases reacts with
  | marked job delivery => exact kept allowed
  | recorded job delivery messageId =>
      rw [row_changeJob]
      exact status_recorded delivery messageId
  | failed job delivery reason =>
      rw [row_changeJob]
      exact kept allowed
  | requeued delivery => exact kept allowed
  | skipped waiting done => rwa [row_changeJob]
  | started waiting => rwa [row_changeJob]
  | raised job delivery refusal inspected => rwa [row_changeJob]
  | crashed process => rwa [row_changeJob]
  | _ => exact delivered

end

theorem grounded_step {system : System} (grounded : Grounded system)
    (label : Nat × Action) : Grounded (step system label) := by
  obtain ⟨id, action⟩ := label
  rcases step_cases system id action with still | ⟨after, next, reacts, moved⟩
  · rwa [still]
  · rw [moved]
    refine ⟨?_, ?_, ?_, ?_⟩
    · rw [Interleaving.shared_move, params_of_reacts reacts]
      apply @Interleaving.forall_move _ _ system id after next
        fun process => ∀ copy ∈ process.copy, copy.params = system.shared.row.params
      · exact grounded.copied
      · intro copy member
        rcases copy_of_reacts reacts member with rfl | before
        · rfl
        · exact grounded.copied id copy before
    · rw [Interleaving.shared_move]
      rcases messages_of_reacts reacts with
        ⟨-, same⟩ | ⟨delivery, copied, message, inserted, counted⟩
      · rw [same]
        rcases grounded.once with none_yet | ⟨one, arrived⟩
        · exact Or.inl none_yet
        · exact Or.inr ⟨one, arrived_of_reacts reacts arrived⟩
      · obtain ⟨free, taken, -⟩ := taken_insert inserted
        have params := grounded.copied id delivery copied
        rw [params] at free taken
        right
        constructor
        · rcases grounded.once with none_yet | ⟨-, arrived⟩
          · omega
          · exact absurd arrived free
        · unfold Internal.arrived
          rwa [params_of_reacts reacts]
    · intro job member discarded
      rw [Interleaving.shared_move] at member
      rcases jobs_of_reacts reacts member with here | rfl | ⟨old, rfl | rfl | ⟨done, -⟩⟩
      · exact grounded.discarded job here discarded
      · cases discarded
      · cases discarded
      · exact discarded_fail discarded
      · rw [done] at discarded
        cases discarded
    · intro number job there executing
      rw [Interleaving.shared_move] at there
      rcases executing_of_reacts reacts there executing with own | ⟨other, before⟩
      · refine ⟨id, ?_⟩
        rwa [Interleaving.process_move_self]
      · obtain ⟨holder, held⟩ := grounded.executing number job before executing
        refine ⟨holder, ?_⟩
        rw [Interleaving.process_move_other]
        · exact held
        · intro same
          rw [same] at held
          exact other held

section
variable {params : Params} {messages : MailboxMessages}

theorem retrievable_insert {stored : MailboxMessages} {message : MailboxMessage}
    (retrievable : Retrievable params messages)
    (inserted : messages.insert params.storedMessageId params.mailboxId =
      some (stored, message)) :
    Retrievable params stored where
  again := retrievable.again
  alone := by
    intro other member own candidate
    obtain ⟨-, -, named, rows⟩ := taken_insert inserted
    rcases (rows other).mp member with old | new
    · exact retrievable.alone other old own candidate
    · rw [new]
      exact named.1

theorem eq_singleton_of_nodup {α : Type} {elements : List α} {element : α}
    (distinct : elements.Nodup) (member : element ∈ elements)
    (only : ∀ other ∈ elements, other = element) : elements = [element] := by
  cases elements with
  | nil => cases member
  | cons first rest =>
      rw [only first List.mem_cons_self] at distinct ⊢
      cases rest with
      | nil => rfl
      | cons second others =>
          have same := only second (List.mem_cons_of_mem _ List.mem_cons_self)
          rw [same] at distinct
          exact absurd List.mem_cons_self (List.nodup_cons.mp distinct).1

theorem createMessage_of_taken (retrievable : Retrievable params messages)
    (taken : messages.taken params.storedMessageId params.mailboxId) (inspected : String) :
    ∃ message, createMessage params none inspected messages =
      (.existing message, messages) := by
  have filled : trim params.storedMessageId ≠ "" := by
    intro blank
    have again := retrievable.again
    rw [messageIdLookupCandidates, normalizeMessageId, blank] at again
    cases again
  have refused : messages.insert params.storedMessageId params.mailboxId = none := by
    rw [MailboxMessages.insert, dif_neg (not_not_intro taken)]
  obtain ⟨message, member, named⟩ := MailboxMessages.taken_iff.mp taken
  have looked : messages.getMessageById params.storedMessageId params.mailboxId =
      [message] := by
    apply eq_singleton_of_nodup
    · apply List.Nodup.filter
      exact (messages.table.ascending.imp fun below same => by
        rw [same] at below
        exact Nat.lt_irrefl _ below)
    · apply List.mem_filter.mpr
      refine ⟨member, ?_⟩
      rw [named.1, retrievable.again, Bool.and_true]
      exact decide_eq_true named.2
    · intro other found
      obtain ⟨there, found⟩ := List.mem_filter.mp found
      rw [Bool.and_eq_true, decide_eq_true_eq] at found
      exact messages.unique _ _ other there message member
        ⟨retrievable.alone other there found.1 found.2, found.1⟩ named
  refine ⟨message, ?_⟩
  dsimp only [createMessage]
  rw [if_neg filled, refused, looked]

end

theorem delivered_of_attempt {system : System} {job id : Nat}
    (retrievable : Retrievable system.shared.row.params system.shared.messages)
    (arrived : system.shared.arrived)
    (waiting : (system.shared.jobs[job]?).map Job.state = some .available)
    (unfinished : system.shared.row.status ≠ .delivered)
    (idle : (system.process id).isIdle) (inspected : String) :
    (([.perform job, .markDelivering, .create none inspected, .finish].map
      fun action => (id, action)).foldl step system).shared.row.status = .delivered := by
  have process : system.process id = .idle := by
    cases held : system.process id with
    | idle => rfl
    | _ =>
        rw [held] at idle
        cases idle
  obtain ⟨message, existing⟩ := createMessage_of_taken retrievable arrived inspected
  let started := system.shared.changeJob (some job) Job.start
  let marking := started.write system.shared.row (markDelivering system.shared.row)
  have first : step system (id, .perform job) =
      system.move id started (.attempt (some job) system.shared.row) := by
    apply Interleaving.act_of_reaction
    rw [process]
    dsimp only [react, Internal.perform]
    rw [waiting]
    dsimp only
    rw [if_neg unfinished]
  have second : step (system.move id started (.attempt (some job) system.shared.row))
      (id, .markDelivering) =
        (system.move id started (.attempt (some job) system.shared.row)).move id marking
          (.marked (some job) system.shared.row) := by
    apply Interleaving.act_of_reaction
    rw [Interleaving.process_move_self]
    rfl
  have third : ∀ before : System, before.shared = marking →
      before.process id = .marked (some job) system.shared.row →
        step before (id, .create none inspected) =
          before.move id marking
            (.answered (some job) system.shared.row (.ok message.id)) := by
    intro before shared held
    apply Interleaving.act_of_reaction
    rw [held, shared]
    have created : marking.create (some job) system.shared.row none inspected =
        (marking, .answered (some job) system.shared.row (.ok message.id)) := by
      have same : createMessage system.shared.row.params none inspected marking.messages =
          (.existing message, marking.messages) := existing
      rw [Internal.create, same]
    exact congrArg some created
  have fourth : ∀ before : System, before.shared = marking →
      before.process id = .answered (some job) system.shared.row (.ok message.id) →
        (step before (id, .finish)).shared.row.status = .delivered := by
    intro before shared held
    have finished : step before (id, .finish) = before.move id
        ((marking.write (markDelivering system.shared.row)
          (markDelivered (markDelivering system.shared.row) message.id)).changeJob
            (some job) Job.complete) .idle := by
      apply Interleaving.act_of_reaction
      rw [held, shared]
      rfl
    rw [finished, Interleaving.shared_move, row_changeJob]
    exact status_recorded _ _
  simp only [List.map_cons, List.map_nil, List.foldl_cons, List.foldl_nil]
  have found := third
    ((system.move id started (.attempt (some job) system.shared.row)).move id marking
      (.marked (some job) system.shared.row)) rfl Interleaving.process_move_self
  rw [first, second, found]
  exact fourth _ rfl Interleaving.process_move_self

structure Sound (system : System) : Prop where
  grounded : Grounded system
  completed : ∀ job ∈ system.shared.jobs, job.state = .completed →
    system.shared.row.status = .delivered
  retrievable : Retrievable system.shared.row.params system.shared.messages

theorem sound_inserted {row : Delivery} {messages : MailboxMessages}
    (retrievable : Retrievable row.params messages) : Sound (inserted row messages) where
  grounded :=
    { copied := fun _ _ member => by cases member
      once := Or.inl rfl
      discarded := fun _ member => absurd member List.not_mem_nil
      executing := fun _ _ there => by cases there }
  completed := fun _ member => absurd member List.not_mem_nil
  retrievable := retrievable

theorem sound_step {system : System} (sound : Sound system) (label : Nat × Action)
    (careful : Careful system label) : Sound (step system label) := by
  refine ⟨grounded_step sound.grounded label, ?_, ?_⟩
  · intro job member completed
    obtain ⟨id, action⟩ := label
    rcases step_cases system id action with still | ⟨after, next, reacts, moved⟩
    · rw [still] at member ⊢
      exact sound.completed job member completed
    · rw [moved, Interleaving.shared_move] at member ⊢
      rcases jobs_of_reacts reacts member with here | rfl | ⟨old, rfl | rfl | ⟨-, done⟩⟩
      · exact delivered_of_reacts careful reacts (sound.completed job here completed)
      · cases completed
      · cases completed
      · dsimp only [Job.fail] at completed
        split at completed <;> cases completed
      · exact done
  · obtain ⟨id, action⟩ := label
    rcases step_cases system id action with still | ⟨after, next, reacts, moved⟩
    · rw [still]
      exact sound.retrievable
    · rw [moved, Interleaving.shared_move, params_of_reacts reacts]
      rcases messages_of_reacts reacts with
        ⟨same, -⟩ | ⟨delivery, copied, message, inserted, -⟩
      · rw [same]
        exact sound.retrievable
      · rw [sound.grounded.copied id delivery copied] at inserted
        exact retrievable_insert sound.retrievable inserted

theorem kept_of_sound {system : System} (sound : Sound system) : Kept system where
  once := by
    rcases sound.grounded.once with none_yet | ⟨one, -⟩
    · omega
    · omega
  onward := by
    intro arrived unfinished left
    obtain ⟨job, member, attempts⟩ := left
    have open_row : system.shared.row.status ≠ .delivered := by
      intro delivered
      rw [delivered] at unfinished
      rcases unfinished with failed | pending
      · cases failed
      · cases pending
    obtain ⟨number, there⟩ := List.mem_iff_getElem?.mp member
    cases state : job.state with
    | available =>
        right
        have waiting : (system.shared.jobs[number]?).map Job.state = some .available := by
          rw [there, Option.map_some, state]
        exact ⟨number, waiting, fun _ inspected idle =>
          delivered_of_attempt sound.retrievable arrived waiting open_row idle inspected⟩
    | executing =>
        left
        obtain ⟨id, held⟩ := sound.grounded.executing number job there state
        refine ⟨id, ?_⟩
        cases process : system.process id with
        | idle =>
            rw [process] at held
            cases held
        | _ => rfl
    | completed => exact absurd (sound.completed job member state) open_row
    | discarded =>
        have used := sound.grounded.discarded job member state
        omega

/-- One message for a row, which is delivered in the end while attempts are left. -/
theorem internal_delivery_kept (row : Delivery) (messages : MailboxMessages)
    (retrievable : Retrievable row.params messages) (labels : List (Nat × Action))
    (careful : Along step Careful (inserted row messages) labels) :
    Kept (labels.foldl step (inserted row messages)) :=
  kept_of_sound
    (careful.invariant (fun _ label sound careful => sound_step sound label careful)
      (sound_inserted retrievable))

theorem unique_empty (messageId : String) (mailboxId : Nat) :
    ∀ first ∈ (SerialRows.empty MailboxMessage MailboxMessage.id).rows,
      ∀ second ∈ (SerialRows.empty MailboxMessage MailboxMessage.id).rows,
        first.Named messageId mailboxId → second.Named messageId mailboxId →
          first = second :=
  fun _ member => absurd member List.not_mem_nil

def emptyMailbox : MailboxMessages where
  table := .empty MailboxMessage MailboxMessage.id
  unique := unique_empty

def pendingRow : Delivery :=
  ⟨.pending, 0, none, none, ⟨"one@a.example", 7⟩⟩

theorem retrievable_pendingRow : Retrievable pendingRow.params emptyMailbox where
  again := by decide
  alone := fun _ member => absurd member List.not_mem_nil

def requeuedRun : List (Nat × Action) :=
  [(0, .deliverNow), (0, .markDelivering), (0, .create none ""), (0, .crash),
    (1, .findRequeue), (1, .requeue), (1, .enqueue fun _ => true)]

theorem internal_delivery_kept_requeued :
    Kept (requeuedRun.foldl step (inserted pendingRow emptyMailbox)) :=
  internal_delivery_kept pendingRow emptyMailbox retrievable_pendingRow requeuedRun
    (.cons (fun delivered => absurd delivered (by decide))
      (.cons (fun delivered => absurd delivered (by decide))
        (.cons (fun delivered => absurd delivered (by decide))
          (.cons (fun delivered => absurd delivered (by decide))
            (.cons (fun delivered => absurd delivered (by decide))
              (.cons (fun delivered => absurd delivered (by decide))
                (.cons (fun delivered => absurd delivered (by decide))
                  (Along.nil _ _ _))))))))

def staleRequeueRun : List (Nat × Action) :=
  [(0, .deliverNow), (0, .markDelivering),
    (0, .create (some "storage_limit_exceeded") ""), (0, .finish),
    (1, .findRequeue), (2, .findRequeue), (1, .requeue), (1, .enqueue fun _ => true),
    (3, .perform 0), (3, .markDelivering), (3, .create none ""), (3, .finish),
    (2, .requeue), (2, .enqueue fun _ => true)]

/-- The row of the delivered message is pending, and nothing is left to be done. -/
theorem not_internal_delivery_kept_stale :
    ¬∀ (row : Delivery) (messages : MailboxMessages), Retrievable row.params messages →
      ∀ labels : List (Nat × Action), Kept (labels.foldl step (inserted row messages)) := by
  intro kept
  have here := kept pendingRow emptyMailbox retrievable_pendingRow staleRequeueRun
  have jobs : (staleRequeueRun.foldl step (inserted pendingRow emptyMailbox)).shared.jobs =
      [⟨1, .completed⟩] := by decide
  have idle : ∀ id, ((staleRequeueRun.foldl step
      (inserted pendingRow emptyMailbox)).process id).isIdle = true := by
    intro id
    by_cases named : id < 4
    · have small : ∀ id < 4, ((staleRequeueRun.foldl step
          (inserted pendingRow emptyMailbox)).process id).isIdle = true := by
        decide
      exact small id named
    · have foreign : ∀ label ∈ staleRequeueRun, label.1 ≠ id := by
        intro label member same
        have below : ∀ label ∈ staleRequeueRun, label.1 < 4 := by
          simp [staleRequeueRun]
        exact named (same ▸ below label member)
      have still : (staleRequeueRun.foldl step
          (inserted pendingRow emptyMailbox)).process id = .idle :=
        Interleaving.process_foldl_act react (inserted pendingRow emptyMailbox) foreign
      rw [still]
      rfl
  have pending : (staleRequeueRun.foldl step
      (inserted pendingRow emptyMailbox)).shared.row.status = .pending := by decide
  rcases here.onward (by decide) (Or.inr pending)
      ⟨⟨1, .completed⟩, by rw [jobs]; exact List.mem_cons_self, by decide⟩ with work | waiting
  · obtain ⟨id, busy⟩ := work
    rw [idle id] at busy
    cases busy
  · obtain ⟨job, available, -⟩ := waiting
    rw [jobs] at available
    cases job with
    | zero => cases available
    | succ job => cases available

end Elektrine.Email.InternalDelivery
