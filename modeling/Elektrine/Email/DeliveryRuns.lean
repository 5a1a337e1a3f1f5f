import Elektrine.Email.SettledDeliveries

/-!
# Runs over one delivery

While the conditions on the steps hold, at most one attempt is under way, and once the
provider has accepted, either the row is final or the one attempt under way is about
to record the acceptance.  So no attempt hands the message over again.
-/

namespace Elektrine.Email.ExternalDelivery

open Elektrine.Library

/-- The process is about to record a response that `mark_sent` takes. -/
def Process.Recording : Process → Prop
  | .answered _ _ (.ok response) => recordable response = true
  | _ => False

/-- The copy that an attempt goes on with reads `sending`. -/
def Process.Copied : Process → Prop
  | .sending _ sendingDelivery | .answered _ sendingDelivery _ =>
      sendingDelivery.status = .sending
  | _ => True

structure Sound (system : System) : Prop where
  one : system.AtMostOne Process.UnderWay
  copied : ∀ id, (system.process id).Copied
  recording : system.shared.accepted →
    ∀ id, (system.process id).UnderWay → (system.process id).Recording
  recorded : system.shared.accepted →
    system.shared.final ∨ ∃ id, (system.process id).UnderWay

theorem Sound.created (row : Delivery) : Sound (created row) where
  one := fun _ _ underWay => underWay.elim
  copied := fun _ => trivial
  recording := fun accepted => Bool.noConfusion accepted
  recorded := fun accepted => Bool.noConfusion accepted

section

variable {row : Delivery} {action : Action} {process next : Process}

theorem underWay_of_continuation
    (continued : continuation row action process = some next)
    (later : action ≠ .perform) (underWay : next.UnderWay) : process.UnderWay := by
  cases action <;> cases process <;>
    first
      | exact trivial
      | exact absurd rfl later
      | (cases continued; exact underWay.elim)
      | cases continued

theorem copied_of_continuation
    (continued : continuation row action process = some next)
    (copied : process.Copied) : next.Copied := by
  cases action with
  | perform =>
      cases process with
      | idle =>
          simp only [continuation] at continued
          split_ifs at continued
          cases continued
          trivial
      | _ => cases continued
  | handOver accepted answer =>
      cases process with
      | sending delivery sendingDelivery =>
          cases continued
          exact copied
      | _ => cases continued
  | markSending =>
      cases process with
      | attempt delivery =>
          cases continued
          rfl
      | _ => cases continued
  | crash =>
      cases continued
      trivial
  | _ =>
      cases process <;> cases continued
      all_goals trivial

theorem idle_of_recording
    (continued : continuation row action process = some next)
    (recording : process.Recording) :
    next = .idle ∧ (action = .crash ∨ ∃ inspected, action = .finish inspected) := by
  cases process with
  | answered delivery sendingDelivery answer =>
      cases action <;> cases continued
      · exact ⟨rfl, .inr ⟨_, rfl⟩⟩
      · exact ⟨rfl, .inl rfl⟩
  | _ => exact recording.elim

theorem sending_of_handOver {accepted : Bool} {answer : Except Reason Json}
    (continued : continuation row (.handOver accepted answer) process = some next) :
    ∃ delivery sendingDelivery, process = .sending delivery sendingDelivery ∧
      next = .answered delivery sendingDelivery answer := by
  cases process with
  | sending delivery sendingDelivery =>
      cases continued
      exact ⟨delivery, sendingDelivery, rfl, rfl⟩
  | _ => cases continued

theorem perform_of_continuation
    (continued : continuation row .perform process = some next) :
    row.status.finishesJob = false ∧ process = .idle ∧ next = .attempt row := by
  cases process with
  | idle =>
      simp only [continuation] at continued
      split_ifs at continued with finished
      cases continued
      exact ⟨by simpa using finished, rfl, rfl⟩
  | _ => cases continued

theorem status_finish {outbound : Outbound} {inspected : String}
    (recording : process.Recording) (copied : process.Copied) :
    (outbound.write (change (.finish inspected) process)).row.status = .sent := by
  cases process with
  | answered delivery sendingDelivery answer =>
      cases answer with
      | ok response =>
          have recorded := isSome_markSent sendingDelivery response
          have taken : recordable response = true := recording
          rw [taken, Option.isSome_iff_exists] at recorded
          obtain ⟨marked, sent⟩ := recorded
          have status := status_markSent sent
          have reads : sendingDelivery.status = .sending := copied
          have changes : change (.finish inspected)
              (.answered delivery sendingDelivery (.ok response)) =
                some (sendingDelivery, marked) := by
            simp only [change, finishMark, sent]
          rw [changes]
          show written outbound.row.status sendingDelivery.status marked.status = .sent
          rw [status, reads]
          exact written_of_ne (by simp)
      | error reason => exact recording.elim
  | _ => exact recording.elim

end

theorem see_eq_self {outbound : Outbound} {action : Action}
    (other : ∀ accepted answer, action ≠ .handOver accepted answer) :
    outbound.see action = outbound := by
  cases action with
  | handOver accepted answer => exact absurd rfl (other accepted answer)
  | _ => rfl

section

variable {system : System} {id : Nat} {action : Action} {next : Process}

theorem not_perform_of_accepted (sound : Sound system) (met : Met system (id, action))
    (accepted : system.shared.accepted)
    (continued : continuation system.shared.row action (system.process id) = some next) :
    action ≠ .perform := by
  intro begins
  subst begins
  obtain ⟨unfinished, -, -⟩ := perform_of_continuation continued
  rcases sound.recorded accepted with final | ⟨other, underWay⟩
  · have finishes := finishesJob_of_final final
    rw [unfinished] at finishes
    cases finishes
  · exact met.alone rfl unfinished other underWay

theorem not_handOver_of_accepted (sound : Sound system)
    (accepted : system.shared.accepted)
    (continued : continuation system.shared.row action (system.process id) = some next)
    (taken : Bool) (answer : Except Reason Json) : action ≠ .handOver taken answer := by
  intro hands
  subst hands
  obtain ⟨delivery, sendingDelivery, process, -⟩ := sending_of_handOver continued
  have underWay : (system.process id).UnderWay := by
    rw [process]
    trivial
  have recording := sound.recording accepted id underWay
  rw [process] at recording
  exact recording

theorem one_step (sound : Sound system) (met : Met system (id, action)) :
    (step system (id, action)).AtMostOne Process.UnderWay := by
  rcases step_cases system id action with still | ⟨next, continued, moved⟩
  · rw [still]
    exact sound.one
  · rw [moved]
    by_cases begins : action = .perform
    · subst begins
      obtain ⟨unfinished, -, -⟩ := perform_of_continuation continued
      exact Interleaving.AtMostOne.enter (met.alone rfl unfinished)
    · exact sound.one.move (underWay_of_continuation continued begins)

theorem copied_step (sound : Sound system) (other : Nat) :
    ((step system (id, action)).process other).Copied := by
  rcases step_cases system id action with still | ⟨next, continued, moved⟩
  · rw [still]
    exact sound.copied other
  · rw [moved]
    apply Interleaving.forall_move sound.copied
    exact copied_of_continuation continued (sound.copied id)

theorem recording_step (sound : Sound system) (met : Met system (id, action))
    (accepted : (step system (id, action)).shared.accepted) (other : Nat)
    (underWay : ((step system (id, action)).process other).UnderWay) :
    ((step system (id, action)).process other).Recording := by
  rcases step_cases system id action with still | ⟨next, continued, moved⟩
  · rw [still] at accepted underWay ⊢
    exact sound.recording accepted other underWay
  rw [moved] at accepted underWay ⊢
  rw [Interleaving.shared_move] at accepted
  by_cases before : system.shared.accepted
  · -- accepted earlier: the process was under way already, and is about to record
    have others := sound.recording before
    by_cases same : other = id
    · subst same
      rw [Interleaving.process_move_self] at underWay
      have was := underWay_of_continuation continued
        (not_perform_of_accepted sound met before continued) underWay
      obtain ⟨idle, -⟩ := idle_of_recording continued (others other was)
      rw [idle] at underWay
      exact underWay.elim
    · rw [Interleaving.process_move_other same] at underWay ⊢
      exact others other underWay
  · -- accepted by this step: a hand-over of the only attempt under way
    cases action with
    | handOver taken answer =>
        obtain ⟨delivery, sendingDelivery, process, after⟩ :=
          sending_of_handOver continued
        have was : (system.process id).UnderWay := by
          rw [process]
          trivial
        have same : other = id := by
          by_contra distinct
          rw [Interleaving.process_move_other distinct] at underWay
          exact distinct (sound.one other id underWay was)
        subst same
        rw [Interleaving.process_move_self, after]
        have now : taken = true := by
          simpa [Outbound.see, before] using accepted
        subst now
        obtain ⟨response, rfl, recorded⟩ := met.reported answer rfl
        exact recorded
    | _ => exact absurd (by simpa [Outbound.see] using accepted) before

theorem recorded_step (sound : Sound system) (met : Met system (id, action))
    (accepted : (step system (id, action)).shared.accepted) :
    (step system (id, action)).shared.final ∨
      ∃ other, ((step system (id, action)).process other).UnderWay := by
  rcases step_cases system id action with still | ⟨next, continued, moved⟩
  · rw [still] at accepted ⊢
    exact sound.recorded accepted
  by_cases before : system.shared.accepted
  · rcases sound.recorded before with final | ⟨other, underWay⟩
    · exact .inl (final_step met final)
    · by_cases same : other = id
      · subst same
        have recording := sound.recording before other underWay
        left
        obtain ⟨-, rfl | ⟨inspected, rfl⟩⟩ := idle_of_recording continued recording
        · exact final_step met (met.survives rfl underWay before)
        · rw [final_iff]
          right
          refine ⟨accepted, ?_⟩
          rw [moved, Interleaving.shared_move, row_see]
          exact status_finish recording (sound.copied other)
      · right
        refine ⟨other, ?_⟩
        rwa [moved, Interleaving.process_move_other same]
  · right
    refine ⟨id, ?_⟩
    rw [moved] at accepted ⊢
    rw [Interleaving.process_move_self]
    cases action with
    | handOver taken answer =>
        obtain ⟨delivery, sendingDelivery, -, rfl⟩ := sending_of_handOver continued
        trivial
    | _ => exact absurd (by simpa [Outbound.see] using accepted) before

theorem Sound.step (sound : Sound system) (met : Met system (id, action)) :
    Sound (step system (id, action)) where
  one := one_step sound met
  copied := copied_step sound
  recording := recording_step sound met
  recorded := recorded_step sound met

theorem handOvers_step (sound : Sound system) (accepted : system.shared.accepted) :
    (ExternalDelivery.step system (id, action)).shared.handOvers =
      system.shared.handOvers := by
  rcases step_cases system id action with still | ⟨next, continued, moved⟩
  · rw [still]
  · rw [moved, Interleaving.shared_move,
      see_eq_self (not_handOver_of_accepted sound accepted continued), handOvers_write]

end

theorem sound_run {system : System} {labels : List (Nat × Action)}
    (along : Along step Met system labels) (sound : Sound system) :
    Sound (labels.foldl step system) :=
  along.invariant (fun _ _ sound met => sound.step met) sound

theorem settled_run {system : System} {labels : List (Nat × Action)}
    (along : Along step Met system labels)
    (settled : system.shared.row.status.isSettled) :
    (labels.foldl step system).shared.row.status.isSettled := by
  have kept : ∀ before label, before.shared.row.status.isSettled = true →
      Met before label → (step before label).shared.row.status.isSettled = true :=
    fun _ _ settled met => settled_step met settled
  exact along.invariant kept settled

theorem handOvers_run {system : System} {labels : List (Nat × Action)}
    (along : Along step Met system labels) (sound : Sound system)
    (accepted : system.shared.accepted) :
    (labels.foldl step system).shared.handOvers = system.shared.handOvers := by
  induction labels generalizing system with
  | nil => rfl
  | cons label labels ih =>
      obtain ⟨id, action⟩ := label
      rw [List.foldl_cons,
        ih along.tail (sound.step along.head) (accepted_step accepted)]
      exact handOvers_step sound accepted

/-- The status is monotone and an accepted message is not handed over again, in every
run whose steps meet the conditions. -/
theorem delivery_monotone (row : Delivery) (earlier later : List (Nat × Action))
    (along : Along step Met (created row) (earlier ++ later)) :
    Monotone (earlier.foldl step (created row))
      ((earlier ++ later).foldl step (created row)) := by
  rw [List.foldl_append]
  have sound := sound_run along.prefix_of (Sound.created row)
  constructor
  · intro settled
    have still := settled_run along.suffix_of settled
    refine ⟨?_, ?_, ?_⟩ <;> intro back <;> rw [back] at still <;> cases still
  · intro accepted
    exact handOvers_run along.suffix_of sound accepted

def pendingDelivery : Delivery where
  status := .pending
  attempts := 0
  providerMessageId := none
  responseCode := none
  error := none

def namedEvent (event : String) : ProviderEvent where
  event := some event
  status := none
  reason := none
  error := none
  response := .obj []

def acceptedAttempt : List (Nat × Action) :=
  [(0, .perform), (0, .markSending),
    (0, .handOver true (.ok (.obj [("message_id", .str "queued")]))), (0, .finish "")]

def appliedEvent (event : String) : List (Nat × Action) :=
  [(1, .findEvent (namedEvent event)), (1, .applyEvent)]

theorem met_of_unsettled {system : System} {id : Nat} {action : Action}
    (keeps : (asked action (system.process id)).all fun mark =>
      !system.shared.row.status.isSettled &&
        (mark.2 = .sent || mark.2.isSettled || !system.shared.accepted))
    (alone : action = .perform → ∀ id, ¬ (system.process id).UnderWay)
    (reported : ∀ answer, action = .handOver true answer →
      ∃ response, answer = .ok response ∧ recordable response)
    (lives : action ≠ .crash) : Met system (id, action) where
  keeps := by
    intro copy status asks
    right
    rw [asks] at keeps
    simp only [Option.all_some, Bool.and_eq_true, Bool.not_eq_true', Bool.or_eq_true,
      decide_eq_true_eq] at keeps
    obtain ⟨unsettled, safe⟩ := keeps
    rw [unsettled]
    constructor
    · intro settled
      cases settled
    · intro accepted _
      rw [accepted] at safe
      simpa using safe
  alone := fun begins _ => alone begins
  reported := reported
  survives := fun dies => absurd dies lives

theorem along_accepted_bounced :
    Along step Met (created pendingDelivery)
      (acceptedAttempt ++ appliedEvent "bounced") := by
  refine .cons ?_ (.cons ?_ (.cons ?_ (.cons ?_ (.cons ?_ (.cons ?_ (.nil _ _ _))))))
  all_goals apply met_of_unsettled
  case refine_1.alone =>
    intro _ id underWay
    exact underWay
  case refine_3.reported =>
    intro answer taken
    cases taken
    exact ⟨_, rfl, by decide⟩
  all_goals first
    | decide
    | (intro other; cases other; done)
    | (intro answer taken; cases taken)

theorem delivery_monotone_bounced :
    Monotone (acceptedAttempt.foldl step (created pendingDelivery))
      ((acceptedAttempt ++ appliedEvent "bounced").foldl step
        (created pendingDelivery)) :=
  delivery_monotone pendingDelivery acceptedAttempt (appliedEvent "bounced")
    along_accepted_bounced

/-- A deferral that arrives after the bounce moves the delivery back. -/
theorem not_delivery_monotone_deferred :
    ¬ Monotone ((appliedEvent "bounced").foldl step (created pendingDelivery))
      ((appliedEvent "bounced" ++ appliedEvent "deferred").foldl step
        (created pendingDelivery)) := by
  intro monotone
  exact (monotone.settled (by decide +kernel)).2.1 (by decide +kernel)

end Elektrine.Email.ExternalDelivery
