import Elektrine.Library.Places
import Elektrine.Subscriptions.RegistrationCheckouts

/-!
# One invite code

The committed invite codes are always the one the record links to: only the delivery that
has locked a pending record creates one, and it links it in the same transaction.
-/

namespace Elektrine.Subscriptions.Registration

open Elektrine.Library

structure RecordSound (record : Option Checkout) (inviteCodes : List InviteCode) : Prop where
  codes : inviteCodes.map InviteCode.id = (record.bind Checkout.inviteCodeId).toList
  fulfilled : ∀ checkout ∈ record,
    checkout.status = .fulfilled ↔ checkout.inviteCodeId.isSome = true

/-- What a delivery knows at its stage; `index` is its place. -/
def Delivery.Sound (record : Option Checkout) (lock : Option Nat) (index : Nat)
    (delivery : Delivery) : Prop :=
  match delivery.stage with
  | .requested | .returned .ignored | .returned .purchase | .returned .failed | .raised => True
  | .productFound _ | .inserted | .located => delivery.session.paid = true
  | .locked checkout =>
      delivery.session.paid = true ∧ lock = some index ∧ record = some checkout
  | .codeEnsured checkout id created =>
      delivery.session.paid = true ∧ lock = some index ∧ record = some checkout ∧
        checkout.status = .pending ∧ ∃ code, created = some code ∧ code.id = id
  | .committing answer written created =>
      delivery.session.paid = true ∧ lock = some index ∧ answer.status = .fulfilled ∧
        (record = some answer ∧ written = none ∧ created = none ∨
          (∃ checkout, record = some checkout ∧ checkout.status = .pending) ∧
            written = some answer ∧
              ∃ code, created = some code ∧ answer.inviteCodeId = some code.id)
  | .returned (.checkout answer) =>
      record = some answer ∧ answer.status = .fulfilled

structure Sound (state : State) : Prop where
  record : RecordSound state.record state.inviteCodes
  deliveries : ∀ (index : Nat) (delivery : Delivery), state.deliveries[index]? = some delivery →
    delivery.Sound state.record state.lock index
  paid : state.inviteCodes ≠ [] → ∃ delivery ∈ state.deliveries, delivery.session.paid = true

variable {state after : State} {index : Nat} {delivery : Delivery} {stage : Stage}

theorem exists_paid_set (found : state.deliveries[index]? = some delivery)
    (paid : ∃ delivery ∈ state.deliveries, delivery.session.paid = true) :
    ∃ other ∈ state.deliveries.set index { delivery with stage := stage },
      other.session.paid = true := by
  obtain ⟨other, member, its⟩ := paid
  rcases mem_set_or_eq found member with stays | same
  · exact ⟨other, stays, its⟩
  · rw [same] at its
    exact ⟨_, mem_set_self found, its⟩

theorem Sound.step_of (sound : Sound state) (found : state.deliveries[index]? = some delivery)
    (deliveries : after.deliveries = state.deliveries.set index { delivery with stage := stage })
    (record : RecordSound after.record after.inviteCodes)
    (knows : Delivery.Sound after.record after.lock index { delivery with stage := stage })
    (others : ∀ other waiting, other ≠ index → state.deliveries[other]? = some waiting →
      waiting.Sound after.record after.lock other)
    (paid : after.inviteCodes ≠ [] → state.inviteCodes ≠ [] ∨ delivery.session.paid = true) :
    Sound after where
  record := record
  deliveries := by
    intro other waiting at_other
    rw [deliveries] at at_other
    rcases getElem?_set_cases at_other with ⟨same, its⟩ | ⟨apart, before⟩
    · rw [same, its]
      exact knows
    · exact others other waiting apart before
  paid := by
    intro some_code
    rw [deliveries]
    rcases paid some_code with before | own
    · exact exists_paid_set found (sound.paid before)
    · exact ⟨_, mem_set_self found, own⟩

theorem Sound.goTo (sound : Sound state) (found : state.deliveries[index]? = some delivery)
    (nextInviteCode : Nat)
    (knows : Delivery.Sound state.record state.lock index { delivery with stage := stage }) :
    Sound
      { state with
        nextInviteCode := nextInviteCode
        deliveries := state.deliveries.set index { delivery with stage := stage } } := by
  apply sound.step_of found
  case deliveries => rfl
  case record => exact sound.record
  case knows => exact knows
  case others => exact fun other waiting _ before => sound.deliveries other waiting before
  case paid => exact Or.inl

theorem Delivery.Sound.unlocked {record : Option Checkout} {lock otherLock : Option Nat}
    {other : Nat} {waiting : Delivery} (before : waiting.Sound record lock other)
    (apart : lock ≠ some other) : waiting.Sound record otherLock other := by
  unfold Delivery.Sound at before ⊢
  split at before
  · trivial
  · trivial
  · trivial
  · trivial
  · trivial
  · exact before
  · exact before
  · exact before
  · exact absurd before.2.1 apart
  · exact absurd before.2.1 apart
  · exact absurd before.2.1 apart
  · exact before

theorem Delivery.Sound.insert {record : Option Checkout} {lock : Option Nat} {other : Nat}
    {waiting : Delivery} (before : waiting.Sound none lock other) :
    waiting.Sound record lock other := by
  unfold Delivery.Sound at before ⊢
  split at before
  · trivial
  · trivial
  · trivial
  · trivial
  · trivial
  · exact before
  · exact before
  · exact before
  · cases before.2.2
  · cases before.2.2.1
  · rcases before.2.2.2 with ⟨its, -⟩ | ⟨⟨checkout, its, -⟩, -⟩
    · cases its
    · cases its
  · cases before.1

theorem Delivery.Sound.write {record : Option Checkout} {lock otherLock : Option Nat}
    {other : Nat} {waiting : Delivery} {checkout : Checkout}
    (before : waiting.Sound (some checkout) lock other) (pending : checkout.status = .pending)
    (apart : lock ≠ some other) : waiting.Sound record otherLock other := by
  unfold Delivery.Sound at before ⊢
  split at before
  · trivial
  · trivial
  · trivial
  · trivial
  · trivial
  · exact before
  · exact before
  · exact before
  · exact absurd before.2.1 apart
  · exact absurd before.2.1 apart
  · exact absurd before.2.1 apart
  · obtain ⟨its, fulfilled⟩ := before
    cases its
    rw [pending] at fulfilled
    cases fulfilled

theorem RecordSound.of_pending {record : Option Checkout} {inviteCodes : List InviteCode}
    (sound : RecordSound record inviteCodes) {checkout : Checkout} (its : record = some checkout)
    (pending : checkout.status = .pending) : checkout.inviteCodeId = none ∧ inviteCodes = [] := by
  have linked := sound.fulfilled checkout its
  rw [pending] at linked
  have noCode : checkout.inviteCodeId = none := by
    cases code : checkout.inviteCodeId with
    | none => rfl
    | some id =>
        rw [code] at linked
        cases linked.mpr rfl
  have codes := sound.codes
  rw [its, Option.bind_some, noCode] at codes
  exact ⟨noCode, List.map_eq_nil_iff.mp codes⟩

theorem RecordSound.insert {inviteCodes : List InviteCode} (sound : RecordSound none inviteCodes)
    {new : Checkout} (pending : new.status = .pending) (noCode : new.inviteCodeId = none) :
    RecordSound (some new) inviteCodes where
  codes := by
    rw [Option.bind_some, noCode]
    exact sound.codes
  fulfilled := by
    intro checkout its
    cases its
    rw [pending, noCode]
    exact ⟨nofun, nofun⟩

theorem Sound.insertRecord (sound : Sound state) {new : Checkout} (pending : new.status = .pending)
    (noCode : new.inviteCodeId = none) : Sound (state.insertRecord new) := by
  cases its : state.record with
  | none =>
      have record := sound.record
      rw [its] at record
      refine ⟨?_, ?_, sound.paid⟩
      · rw [State.insertRecord, its]
        exact record.insert pending noCode
      · intro index delivery found
        have before := sound.deliveries index delivery found
        rw [its] at before
        exact before.insert
  | some checkout =>
      have same : state.insertRecord new = state := by
        rw [State.insertRecord, its, Option.getD_some, ← its]
      rw [same]
      exact sound

theorem Sound.release (sound : Sound state) (found : state.deliveries[index]? = some delivery)
    (locked : state.lock = some index)
    (ended : stage = .returned .failed ∨ stage = .raised) :
    Sound (state.release index delivery stage) := by
  apply sound.step_of found
  case deliveries => rfl
  case record => exact sound.record
  case knows =>
    rcases ended with its | its
    · rw [its]
      trivial
    · rw [its]
      trivial
  case others =>
    intro other waiting apart before
    apply (sound.deliveries other waiting before).unlocked
    rw [locked]
    exact fun same => apart (Option.some.inj same).symm
  case paid => exact Or.inl

theorem Sound.lockRecord (sound : Sound state) (found : state.deliveries[index]? = some delivery)
    (paid : delivery.session.paid = true) : Sound (state.lockRecord index delivery) := by
  unfold State.lockRecord
  cases free : state.lock with
  | some holder => exact sound
  | none =>
      cases its : state.record with
      | none => exact sound.goTo found state.nextInviteCode trivial
      | some checkout =>
          dsimp only
          rw [← its]
          apply sound.step_of found
          case deliveries => rfl
          case record => exact sound.record
          case knows => exact ⟨paid, rfl, its⟩
          case others =>
            intro other waiting _ before
            apply (sound.deliveries other waiting before).unlocked
            rw [free]
            exact Option.some_ne_none other |>.symm
          case paid => exact Or.inl

theorem Sound.ensureCode (sound : Sound state) (found : state.deliveries[index]? = some delivery)
    {checkout : Checkout} (its : delivery.stage = .locked checkout) :
    Sound (state.ensureCode index delivery checkout) := by
  have knows := sound.deliveries index delivery found
  rw [Delivery.Sound, its] at knows
  obtain ⟨paid, locked, record⟩ := knows
  have linked := sound.record.fulfilled checkout record
  unfold State.ensureCode
  dsimp only
  split
  · rename_i fulfilled code
    exact sound.goTo found state.nextInviteCode
      ⟨paid, locked, fulfilled, Or.inl ⟨record, rfl, rfl⟩⟩
  · rename_i fulfilled noCode
    rw [noCode] at linked
    cases linked.mp fulfilled
  · rename_i id pending code
    rw [code] at linked
    rw [linked.mpr rfl] at pending
    cases pending
  · rename_i pending noCode
    exact sound.goTo found _ ⟨paid, locked, record, pending, _, rfl, rfl⟩

theorem Sound.commit (sound : Sound state) (found : state.deliveries[index]? = some delivery)
    {answer : Checkout} {written : Option Checkout} {created : Option InviteCode}
    (its : delivery.stage = .committing answer written created) :
    Sound (state.commit index delivery answer written created) := by
  have knows := sound.deliveries index delivery found
  rw [Delivery.Sound, its] at knows
  obtain ⟨paid, locked, fulfilled, ready⟩ := knows
  have apart : ∀ other, other ≠ index → state.lock ≠ some other := by
    intro other different same
    rw [locked] at same
    exact different (Option.some.inj same).symm
  rcases ready with ⟨record, noWrite, noCode⟩ | ⟨⟨checkout, record, pending⟩, write, code, isNew, linked⟩
  · rw [noWrite, noCode]
    apply sound.step_of found
    case deliveries => rfl
    case record =>
      rw [State.commit, Option.none_or, Option.toList_none, List.append_nil]
      exact sound.record
    case knows => exact ⟨record, fulfilled⟩
    case others =>
      intro other waiting different before
      exact (sound.deliveries other waiting before).unlocked (apart other different)
    case paid =>
      intro some_code
      rw [State.commit, Option.toList_none, List.append_nil] at some_code
      exact Or.inl some_code
  · obtain ⟨-, noCodes⟩ := sound.record.of_pending record pending
    rw [write, isNew]
    apply sound.step_of found
    case deliveries => rfl
    case record =>
      constructor
      · rw [State.commit, noCodes, Option.some_or, Option.bind_some, linked]
        rfl
      · intro other same
        cases same
        rw [fulfilled, linked]
        exact ⟨fun _ => rfl, fun _ => rfl⟩
    case knows => exact ⟨rfl, fulfilled⟩
    case others =>
      intro other waiting different before
      have knows := sound.deliveries other waiting before
      rw [record] at knows
      exact knows.write pending (apart other different)
    case paid => exact fun _ => Or.inr paid

theorem Delivery.check_cases (delivery : Delivery) :
    (∃ slug, delivery.check = .productFound slug ∧ delivery.session.paid = true) ∨
      delivery.check = .returned .ignored ∨ delivery.check = .returned .purchase ∨
        delivery.check = .raised := by
  unfold Delivery.check
  dsimp only
  split
  · exact Or.inr (Or.inl rfl)
  split
  · exact Or.inr (Or.inl rfl)
  rename_i paid
  split
  · exact Or.inr (Or.inr (Or.inl rfl))
  split
  · exact Or.inr (Or.inr (Or.inr rfl))
  split
  · exact Or.inl ⟨_, rfl, by simpa using paid⟩
  · exact Or.inr (Or.inl rfl)

variable {hashLookupToken : String → String} {sessionId : String}

theorem Sound.ensureRecord (sound : Sound state)
    (found : state.deliveries[index]? = some delivery) (paid : delivery.session.paid = true)
    (slug : String) :
    Sound (state.ensureRecord hashLookupToken sessionId index delivery slug) := by
  unfold State.ensureRecord
  split
  · split
    · rename_i token _ _
      have inserted : Sound (state.insertRecord
          (newRecord hashLookupToken sessionId slug token delivery.session)) :=
        sound.insertRecord rfl rfl
      exact inserted.goTo found state.nextInviteCode paid
    · exact sound.goTo found state.nextInviteCode trivial
  · exact sound.goTo found state.nextInviteCode trivial

theorem Sound.succeed (sound : Sound state)
    (found : state.deliveries[index]? = some delivery) :
    Sound (state.succeed hashLookupToken sessionId index delivery) := by
  have knows := sound.deliveries index delivery found
  unfold State.succeed
  split
  · rcases delivery.check_cases with ⟨slug, its, paid⟩ | its | its | its
    · rw [its]
      exact sound.goTo found state.nextInviteCode paid
    · rw [its]
      exact sound.goTo found state.nextInviteCode trivial
    · rw [its]
      exact sound.goTo found state.nextInviteCode trivial
    · rw [its]
      exact sound.goTo found state.nextInviteCode trivial
  · rename_i slug its
    rw [Delivery.Sound, its] at knows
    exact sound.ensureRecord found knows slug
  · rename_i its
    rw [Delivery.Sound, its] at knows
    unfold State.locate
    split
    · exact sound.goTo found state.nextInviteCode trivial
    · exact sound.goTo found state.nextInviteCode knows
  · rename_i its
    rw [Delivery.Sound, its] at knows
    exact sound.lockRecord found knows
  · rename_i checkout its
    exact sound.ensureCode found its
  · rename_i checkout id created its
    rw [Delivery.Sound, its] at knows
    obtain ⟨paid, locked, record, pending, code, isNew, same⟩ := knows
    apply sound.goTo found state.nextInviteCode
    refine ⟨paid, locked, rfl, Or.inr ⟨⟨checkout, record, pending⟩, rfl, code, isNew, ?_⟩⟩
    rw [same]
    rfl
  · rename_i answer written created its
    exact sound.commit found its
  · exact sound
  · exact sound

theorem Delivery.Sound.locked {record : Option Checkout} {lock : Option Nat}
    (knows : delivery.Sound record lock index) (inside : delivery.stage.inTransaction = true) :
    lock = some index := by
  unfold Delivery.Sound at knows
  unfold Stage.inTransaction at inside
  split at inside
  · rename_i its
    rw [its] at knows
    exact knows.2.1
  · rename_i its
    rw [its] at knows
    exact knows.2.1
  · rename_i its
    rw [its] at knows
    exact knows.2.1
  · cases inside

theorem Sound.fail (sound : Sound state) (found : state.deliveries[index]? = some delivery) :
    Sound (state.fail index delivery) := by
  have knows := sound.deliveries index delivery found
  have rollback : delivery.stage.inTransaction = true →
      Sound (state.release index delivery (.returned .failed)) :=
    fun inside => sound.release found (knows.locked inside) (Or.inl rfl)
  unfold State.fail
  split
  · exact sound.goTo found state.nextInviteCode trivial
  · exact sound.goTo found state.nextInviteCode trivial
  · exact sound.goTo found state.nextInviteCode trivial
  · rename_i slug its
    rw [Delivery.Sound, its] at knows
    exact sound.goTo found state.nextInviteCode knows
  · rename_i its
    exact rollback (by rw [its]; rfl)
  · rename_i its
    exact rollback (by rw [its]; rfl)
  · rename_i its
    exact rollback (by rw [its]; rfl)
  · exact sound
  · exact sound

theorem Sound.raise (sound : Sound state) (found : state.deliveries[index]? = some delivery) :
    Sound (state.raise index delivery) := by
  have knows := sound.deliveries index delivery found
  have rollback : delivery.stage.inTransaction = true →
      Sound (state.release index delivery .raised) :=
    fun inside => sound.release found (knows.locked inside) (Or.inr rfl)
  unfold State.raise
  split
  · rename_i its
    exact rollback (by rw [its]; rfl)
  · rename_i its
    exact rollback (by rw [its]; rfl)
  · rename_i its
    exact rollback (by rw [its]; rfl)
  · exact sound
  · exact sound
  · exact sound.goTo found state.nextInviteCode trivial

theorem sound_start : Sound start where
  record := ⟨rfl, nofun⟩
  deliveries := fun _ _ found => nomatch found
  paid := fun some_code => absurd rfl some_code

theorem Sound.step (sound : Sound state) (move : Move) :
    Sound (step hashLookupToken sessionId state move) := by
  cases move with
  | recordCheckout productSlug lookupToken session =>
      simp only [Registration.step]
      split
      · exact sound.insertRecord rfl rfl
      · exact sound
  | deliver session products now =>
      refine ⟨sound.record, ?_, ?_⟩
      · intro other waiting at_other
        rcases getElem?_concat_cases at_other with before | new
        · exact sound.deliveries other waiting before
        · rw [new]
          trivial
      · intro some_code
        obtain ⟨other, member, paid⟩ := sound.paid some_code
        exact ⟨other, List.mem_append_left _ member, paid⟩
  | advance index outcome =>
      simp only [Registration.step]
      split
      · exact sound
      · rename_i delivery found
        cases outcome with
        | succeeds => exact sound.succeed found
        | fails => exact sound.fail found
        | raises => exact sound.raise found

theorem Sound.run (sound : Sound state) (moves : List Move) :
    Sound (moves.foldl (Registration.step hashLookupToken sessionId) state) := by
  induction moves generalizing state with
  | nil => exact sound
  | cons move moves ih => exact ih (sound.step move)

theorem Sound.atMostOne (sound : Sound state) : OneInvite state where
  single := by
    have codes := congrArg List.length sound.record.codes
    rw [List.length_map] at codes
    rw [codes]
    exact Option.length_toList_le
  paid := sound.paid
  linked := by
    intro delivery member checkout returned
    obtain ⟨index, found⟩ := List.mem_iff_getElem?.mp member
    have knows := sound.deliveries index delivery found
    rw [Delivery.Sound, returned] at knows
    obtain ⟨record, fulfilled⟩ := knows
    have linked := (sound.record.fulfilled checkout record).mp fulfilled
    obtain ⟨id, its⟩ := Option.isSome_iff_exists.mp linked
    have codes := sound.record.codes
    rw [record, Option.bind_some, its] at codes
    have member : id ∈ state.inviteCodes.map InviteCode.id := by
      rw [codes]
      exact List.mem_singleton_self id
    obtain ⟨code, isCode, same⟩ := List.mem_map.mp member
    exact ⟨record, fulfilled, code, isCode, by rw [its, same]⟩

/-- Whatever the deliveries of a session do, they create one invite code at most, none
unpaid, and return the record with its code. -/
theorem oneInvite (hashLookupToken : String → String) (sessionId : String)
    (moves : List Move) :
    OneInvite (moves.foldl (step hashLookupToken sessionId) start) :=
  (sound_start.run moves).atMostOne

end Elektrine.Subscriptions.Registration
