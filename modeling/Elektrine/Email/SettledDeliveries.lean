import Elektrine.Email.ExternalDelivery

/-!
# Settled and accepted deliveries

A bounced, complained or suppressed delivery should stay so, and an accepted message
should not be handed over again.  No mark looks at the status of the row, so this
depends on which marks are made when: the runs below are those in which no mark takes
a settled or accepted row back, attempts do not overlap, and the attempt whose message
the provider accepts comes to record it.
-/

namespace Elektrine.Email.ExternalDelivery

open Elektrine.Library

structure Monotone (earlier later : System) : Prop where
  settled : earlier.shared.row.status.isSettled →
    later.shared.row.status ≠ .sent ∧ later.shared.row.status ≠ .deferred ∧
      later.shared.row.status ≠ .pending
  accepted : earlier.shared.accepted →
    later.shared.handOvers = earlier.shared.handOvers

/-- `mark_sent` takes the response: its identifier and its code are texts or `nil`. -/
def recordable (response : Json) : Bool :=
  (castText (responseMessageId response)).isSome &&
    (castText (responseCodeField response)).isSome

/-- `mark_failed` takes the reason. -/
def reportable (reason : Reason) : Bool :=
  (castText (responseCode reason)).isSome

def eventStatus (attrs : ProviderEvent) : Option Status :=
  let event := normalizeEvent attrs.name
  if event = "sent" ∨ event = "accepted" ∨ event = "delivered" then
    if recordable attrs.response then some .sent else none
  else if event = "deferred" then
    some (classifyFailureStatus (.text ("450 " ++ attrs.because)))
  else if event = "bounced" then some .bounced
  else if event = "complained" ∨ event = "complaint" then some .complained
  else if event = "suppressed" then some .suppressed
  else none

def finishStatus (delivery sendingDelivery : Delivery) (answer : Except Reason Json) :
    Option (Delivery × Status) :=
  match answer with
  | .ok response =>
      if recordable response then some (sendingDelivery, .sent)
      else some (delivery, .failed)
  | .error reason =>
      if reportable reason then some (delivery, classifyFailureStatus reason) else none

def asked : Action → Process → Option (Delivery × Status)
  | .pause, .attempt delivery => some (delivery, .paused)
  | .markSending, .attempt delivery => some (delivery, .sending)
  | .finish _, .answered delivery sendingDelivery answer =>
      finishStatus delivery sendingDelivery answer
  | .applyEvent, .event delivery attrs =>
      (eventStatus attrs).map fun status => (delivery, status)
  | .requeue, .requeueing delivery => some (delivery, .pending)
  | _, _ => none

def Outbound.final (outbound : Outbound) : Bool :=
  outbound.row.status.isSettled ||
    (outbound.accepted && outbound.row.status = .sent)

/-- A mark of a status on the row: the copy reads the status already, or a settled row
gets a settled status, and an accepted one recorded as sent `sent` or a settled one. -/
def Allows (outbound : Outbound) (copy : Delivery) (status : Status) : Prop :=
  status = copy.status ∨
    ((outbound.row.status.isSettled → status.isSettled) ∧
      (outbound.accepted → outbound.row.status = .sent →
        status = .sent ∨ status.isSettled))

def Process.UnderWay : Process → Prop
  | .attempt _ | .sending _ _ | .answered _ _ _ => True
  | .idle | .event _ _ | .requeueing _ => False

structure Met (system : System) (label : Nat × Action) : Prop where
  keeps : ∀ copy status,
    asked label.2 (system.process label.1) = some (copy, status) →
      Allows system.shared copy status
  alone : label.2 = .perform → system.shared.row.status.finishesJob = false →
    ∀ id, ¬ (system.process id).UnderWay
  reported : ∀ answer, label.2 = .handOver true answer →
    ∃ response, answer = .ok response ∧ recordable response
  survives : label.2 = .crash → (system.process label.1).UnderWay →
    system.shared.accepted → system.shared.final

theorem isSome_bind_castText (first second : Json) {α : Type}
    (result : Option String → Option String → α) :
    (castText first >>= fun one => castText second >>= fun other =>
        some (result one other)).isSome =
      ((castText first).isSome && (castText second).isSome) := by
  cases castText first with
  | none => rfl
  | some one =>
      cases castText second with
      | none => rfl
      | some other => rfl

theorem isSome_markSent (delivery : Delivery) (response : Json) :
    (markSent delivery response).isSome = recordable response := by
  rw [markSent, recordable]
  exact isSome_bind_castText ..

theorem isSome_markFailed (delivery : Delivery) (reason : Reason) :
    (markFailed delivery reason).isSome = reportable reason := by
  rw [markFailed, reportable]
  cases castText (responseCode reason) with
  | none => rfl
  | some code => rfl

theorem asked_of_finishMark {delivery sendingDelivery copy changed : Delivery}
    {answer : Except Reason Json} {inspected : String}
    (marks : finishMark delivery sendingDelivery answer inspected =
      some (copy, changed)) :
    finishStatus delivery sendingDelivery answer = some (copy, changed.status) := by
  cases answer with
  | ok response =>
      simp only [finishMark] at marks
      have recorded := isSome_markSent sendingDelivery response
      cases marked : markSent sendingDelivery response with
      | some sent =>
          rw [marked] at marks recorded
          cases marks
          simp [finishStatus, ← recorded, status_markSent marked]
      | none =>
          rw [marked] at marks recorded
          simp only [Option.map_eq_some_iff, Prod.mk.injEq] at marks
          obtain ⟨failed, marked, rfl, rfl⟩ := marks
          simp [finishStatus, ← recorded, status_markFailed marked,
            classifyFailureStatus, responseCode, responseCodeField, Json.get,
            Json.orElse]
  | error reason =>
      simp only [finishMark, Option.map_eq_some_iff, Prod.mk.injEq] at marks
      obtain ⟨failed, marked, rfl, rfl⟩ := marks
      have reported := isSome_markFailed delivery reason
      rw [marked] at reported
      simp [finishStatus, ← reported, status_markFailed marked]

theorem eventStatus_of_applyProviderEvent {delivery changed : Delivery}
    {attrs : ProviderEvent}
    (applied : applyProviderEvent delivery attrs = some changed) :
    eventStatus attrs = some changed.status := by
  simp only [applyProviderEvent] at applied
  simp only [eventStatus]
  by_cases sent : normalizeEvent attrs.name = "sent" ∨
      normalizeEvent attrs.name = "accepted" ∨ normalizeEvent attrs.name = "delivered"
  · rw [if_pos sent] at applied ⊢
    have recorded : recordable attrs.response = true := by
      rw [← isSome_markSent delivery, applied]
      rfl
    rw [if_pos recorded, status_markSent applied]
  · rw [if_neg sent] at applied ⊢
    by_cases deferred : normalizeEvent attrs.name = "deferred"
    · rw [if_pos deferred] at applied ⊢
      rw [status_markFailed applied]
    · rw [if_neg deferred] at applied ⊢
      split_ifs at applied ⊢ <;> cases applied <;> rfl

theorem asked_of_change {action : Action} {process : Process} {copy changed : Delivery}
    (changes : change action process = some (copy, changed)) :
    asked action process = some (copy, changed.status) := by
  have written : ∀ {delivery marked : Delivery},
      some (delivery, marked) = some (copy, changed) →
        delivery = copy ∧ marked = changed := by
    intro delivery marked same
    simpa only [Option.some.injEq, Prod.mk.injEq] using same
  cases action with
  | pause =>
      cases process with
      | attempt delivery =>
          obtain ⟨rfl, rfl⟩ := written changes
          rfl
      | _ => simp [change] at changes
  | markSending =>
      cases process with
      | attempt delivery =>
          obtain ⟨rfl, rfl⟩ := written changes
          rfl
      | _ => simp [change] at changes
  | finish inspected =>
      cases process with
      | answered delivery sendingDelivery answer => exact asked_of_finishMark changes
      | _ => simp [change] at changes
  | applyEvent =>
      cases process with
      | event delivery attrs =>
          simp only [change, Option.map_eq_some_iff, Prod.mk.injEq] at changes
          obtain ⟨marked, applied, rfl, rfl⟩ := changes
          simp [asked, eventStatus_of_applyProviderEvent applied]
      | _ => simp [change] at changes
  | requeue =>
      cases process with
      | requeueing delivery =>
          obtain ⟨rfl, rfl⟩ := written changes
          rfl
      | _ => simp [change] at changes
  | _ => simp [change] at changes

theorem final_of_isSettled {outbound : Outbound}
    (settled : outbound.row.status.isSettled) : outbound.final := by
  simp [Outbound.final, settled]

theorem final_iff {outbound : Outbound} :
    outbound.final ↔
      outbound.row.status.isSettled ∨
        (outbound.accepted ∧ outbound.row.status = .sent) := by
  simp [Outbound.final]

theorem finishesJob_of_final {outbound : Outbound} (final : outbound.final) :
    outbound.row.status.finishesJob := by
  rcases final_iff.mp final with settled | ⟨-, sent⟩
  · cases status : outbound.row.status <;> simp_all [Status.isSettled, Status.finishesJob]
  · rw [sent]
    rfl

section

variable {system : System} {id : Nat} {action : Action}

theorem status_write_cases (met : Met system (id, action)) :
    (system.shared.write (change action (system.process id))).row.status =
        system.shared.row.status ∨
      ((system.shared.row.status.isSettled →
          (system.shared.write
            (change action (system.process id))).row.status.isSettled) ∧
        (system.shared.accepted → system.shared.row.status = .sent →
          (system.shared.write
              (change action (system.process id))).row.status = .sent ∨
            (system.shared.write
              (change action (system.process id))).row.status.isSettled)) := by
  cases changes : change action (system.process id) with
  | none =>
      left
      rfl
  | some pair =>
      obtain ⟨copy, changed⟩ := pair
      have allows := met.keeps copy changed.status (asked_of_change changes)
      have status : (system.shared.write (some (copy, changed))).row.status =
          written system.shared.row.status copy.status changed.status := rfl
      rw [status]
      rcases written_cases system.shared.row.status copy.status changed.status with
        ⟨-, kept⟩ | ⟨distinct, put⟩
      · left
        exact kept
      · right
        rw [put]
        exact allows.resolve_left distinct

theorem settled_step (met : Met system (id, action))
    (settled : system.shared.row.status.isSettled) :
    (step system (id, action)).shared.row.status.isSettled := by
  rcases step_cases system id action with still | ⟨next, -, moved⟩
  · rwa [still]
  · rw [moved, Interleaving.shared_move, row_see]
    rcases status_write_cases met with kept | ⟨keeps, -⟩
    · rwa [kept]
    · exact keeps settled

theorem accepted_see_of_accepted {outbound : Outbound} (action : Action)
    (accepted : outbound.accepted) : (outbound.see action).accepted := by
  cases action <;> simp [Outbound.see, accepted]

theorem accepted_step (accepted : system.shared.accepted) :
    (step system (id, action)).shared.accepted := by
  rcases step_cases system id action with still | ⟨next, -, moved⟩
  · rwa [still]
  · rw [moved, Interleaving.shared_move]
    apply accepted_see_of_accepted
    rwa [accepted_write]

theorem final_step (met : Met system (id, action)) (final : system.shared.final) :
    (step system (id, action)).shared.final := by
  rcases final_iff.mp final with settled | ⟨accepted, sent⟩
  · exact final_of_isSettled (settled_step met settled)
  · have stays : (step system (id, action)).shared.accepted := accepted_step accepted
    rw [final_iff]
    rcases step_cases system id action with still | ⟨next, -, moved⟩
    · right
      rw [still]
      exact ⟨accepted, sent⟩
    · have status : (step system (id, action)).shared.row.status =
          (system.shared.write (change action (system.process id))).row.status := by
        rw [moved, Interleaving.shared_move, row_see]
      rw [status]
      rcases status_write_cases met with kept | ⟨-, keeps⟩
      · right
        exact ⟨stays, kept.trans sent⟩
      · rcases keeps accepted sent with again | settled
        · exact .inr ⟨stays, again⟩
        · exact .inl settled

end

end Elektrine.Email.ExternalDelivery
