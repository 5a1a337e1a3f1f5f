import Elektrine.Library.Transaction
import Elektrine.Messaging.Federation.MessageEvents

/-!
# What events do to messages

An accepted event treats every mirrored message in one of three ways: it leaves the
row alone, it changes a row that is attributed to the sender, or it adds a row
that was not there.  A deleted row stays deleted in all of them.
-/

namespace Elektrine.Messaging.Federation

open Elektrine.Library
open Mirrors MirrorStore
open MirrorEvents (normalizeDomain)

variable {Rooms : Type}

structure RowStep (remoteDomain : String)
    (MayIntroduce : Option String → Prop) (before after : Option ChatMessage) :
    Prop where
  kept : ∀ message, before = some message →
    ∃ changed, after = some changed ∧
      changed.originDomain = message.originDomain ∧
      (message.deleted = true → changed.deleted = true)
  foreign : ∀ message, before = some message →
    normalizeDomain message.originDomain ≠ normalizeDomain (some remoteDomain) →
    after = before
  introduced : before = none → ∀ message, after = some message →
    MayIntroduce message.originDomain

namespace RowStep

variable {remoteDomain : String} {MayIntroduce : Option String → Prop}
  {first second third : Option ChatMessage}

theorem refl (row : Option ChatMessage) :
    RowStep remoteDomain MayIntroduce row row where
  kept message stored := ⟨message, stored, rfl, id⟩
  foreign _ _ _ := rfl
  introduced absent message present := by
    rw [absent] at present
    cases present

theorem trans (left : RowStep remoteDomain MayIntroduce first second)
    (right : RowStep remoteDomain MayIntroduce second third) :
    RowStep remoteDomain MayIntroduce first third where
  kept message stored := by
    obtain ⟨middle, reached, sameOrigin, stays⟩ := left.kept message stored
    obtain ⟨last, final, sameAgain, staysAgain⟩ := right.kept middle reached
    exact ⟨last, final, sameAgain.trans sameOrigin,
      fun deleted => staysAgain (stays deleted)⟩
  foreign message stored different := by
    have unchanged := left.foreign message stored different
    rw [unchanged] at right
    exact right.foreign message stored different
  introduced absent message present := by
    cases middle : second with
    | none => exact right.introduced middle message present
    | some added =>
        obtain ⟨last, final, sameOrigin, -⟩ := right.kept added middle
        cases present.symm.trans final
        rw [sameOrigin]
        exact left.introduced absent added middle

theorem mono {Weaker : Option String → Prop}
    (step : RowStep remoteDomain MayIntroduce first second)
    (weaker : ∀ originDomain, MayIntroduce originDomain → Weaker originDomain) :
    RowStep remoteDomain Weaker first second where
  kept := step.kept
  foreign := step.foreign
  introduced absent message present :=
    weaker _ (step.introduced absent message present)

theorem insert {message : ChatMessage}
    (allowed : MayIntroduce message.originDomain) :
    RowStep remoteDomain MayIntroduce none (some message) where
  kept _ stored := nomatch stored
  foreign _ stored := nomatch stored
  introduced _ added same := by
    cases same
    exact allowed

theorem update {message changed : ChatMessage}
    (own : normalizeDomain message.originDomain =
      normalizeDomain (some remoteDomain))
    (sameOrigin : changed.originDomain = message.originDomain)
    (stays : message.deleted = true → changed.deleted = true) :
    RowStep remoteDomain MayIntroduce (some message) (some changed) where
  kept stored same := by
    cases same
    exact ⟨changed, rfl, sameOrigin, stays⟩
  foreign stored same different := by
    cases same
    exact absurd own different
  introduced absent := nomatch absent

end RowStep

/-- What a domain may do to the messages; which ones it may add depends on their
key and attribution. -/
def StoreStep (remoteDomain : String)
    (MayIntroduce : String → Option String → Prop)
    (before after : MirrorStore Rooms) : Prop :=
  ∀ key, RowStep remoteDomain (MayIntroduce key.2) (before.chatMessages key)
    (after.chatMessages key)

namespace StoreStep

variable {remoteDomain : String} {MayIntroduce : String → Option String → Prop}

theorem refl (store : MirrorStore Rooms) :
    StoreStep remoteDomain MayIntroduce store store :=
  fun _ => RowStep.refl _

theorem trans (first second third : MirrorStore Rooms)
    (left : StoreStep remoteDomain MayIntroduce first second)
    (right : StoreStep remoteDomain MayIntroduce second third) :
    StoreStep remoteDomain MayIntroduce first third :=
  fun key => (left key).trans (right key)

theorem mono {Weaker : String → Option String → Prop}
    {before after : MirrorStore Rooms}
    (step : StoreStep remoteDomain MayIntroduce before after)
    (weaker : ∀ id originDomain, MayIntroduce id originDomain →
      Weaker id originDomain) :
    StoreStep remoteDomain Weaker before after :=
  fun key => (step key).mono (weaker key.2)

theorem inRooms {α : Type} (action : StoreAction Reason Rooms α) :
    StoreAction.Respects (StoreStep remoteDomain MayIntroduce)
      (MirrorStore.inRooms action) := by
  apply StoreAction.Respects.focus
  intro store rooms key
  exact RowStep.refl _

theorem write {before : MirrorStore Rooms} {key : Int × String}
    {message : ChatMessage}
    (step : RowStep remoteDomain (MayIntroduce key.2) (before.chatMessages key)
      (some message)) :
    StoreStep remoteDomain MayIntroduce before
      { before with
        chatMessages :=
          Function.update before.chatMessages key (some message) } := by
  intro other
  change RowStep _ _ _ (Function.update before.chatMessages key _ other)
  by_cases same : other = key
  · rw [same, Function.update_self]
    exact step
  · rw [Function.update_of_ne same]
    exact RowStep.refl _

end StoreStep

/-- The message is there and deleted. -/
def Tombstone (store : MirrorStore Rooms) (key : Int × String) : Prop :=
  ∃ message, store.chatMessages key = some message ∧ message.deleted = true

theorem Tombstone.stays {remoteDomain : String}
    {MayIntroduce : String → Option String → Prop}
    {before after : MirrorStore Rooms} {key : Int × String}
    (tombstone : Tombstone before key)
    (step : StoreStep remoteDomain MayIntroduce before after) :
    Tombstone after key := by
  obtain ⟨message, stored, deleted⟩ := tombstone
  obtain ⟨changed, present, -, stays⟩ := (step key).kept message stored
  exact ⟨changed, present, stays deleted⟩

section Mirrors

variable {context : MirrorContext Rooms} {now : DateTime}
  {channel : ChatConversation} {before after : MirrorStore Rooms}

theorem returns_saveMessage_iff {federationId : String}
    {changeset : Except Reason ChatMessage} {result : ChatMessage} :
    StoreAction.Returns (saveMessage channel federationId changeset)
        before result after ↔
      changeset = .ok result ∧
        after = { before with
          chatMessages :=
            Function.update before.chatMessages (channel.id, federationId)
              (some result) } := by
  rw [saveMessage, StoreAction.returns_lift_bind_iff]
  simp only [StoreAction.returns_bind_iff, StoreAction.returns_write_iff,
    StoreAction.returns_pure_iff]
  constructor
  · intro returned
    obtain ⟨message, cast, _, _, written, same, unchanged⟩ := returned
    subst same
    exact ⟨cast, unchanged.trans written⟩
  · intro returned
    obtain ⟨cast, written⟩ := returned
    exact ⟨result, cast, ⟨⟩, after, written, rfl, rfl⟩

theorem castMessageContent_keeps {payload : Json}
    {message changed : ChatMessage}
    (cast : castMessageContent context payload message = some changed) :
    changed.originDomain = message.originDomain ∧
      changed.deletedAt = message.deletedAt := by
  unfold castMessageContent at cast
  simp only [Option.bind_eq_bind, Option.bind_eq_some_iff] at cast
  obtain ⟨content, -, mediaUrls, -, same⟩ := cast
  cases same
  exact ⟨rfl, rfl⟩

theorem respects_recordMessageActivity {remoteDomain : String}
    {MayIntroduce : String → Option String → Prop} (message : ChatMessage) :
    StoreAction.Respects (StoreStep remoteDomain MayIntroduce)
      (recordMessageActivity context message) := by
  unfold recordMessageActivity
  split
  · exact StoreStep.inRooms _
  · exact StoreAction.Respects.pure StoreStep.refl _

theorem upsertMirrorMessage_step {payload : Json} {remoteDomain : String} :
    StoreAction.Respects
      (StoreStep remoteDomain fun id originDomain =>
        payload.get "id" = .str id ∧
          originDomain = messageOriginDomain payload remoteDomain)
      (upsertMirrorMessage context channel payload remoteDomain) := by
  intro before result after returned
  unfold upsertMirrorMessage at returned
  cases id : payload.get "id" with
  | str federationId =>
      rw [id] at returned
      simp only [StoreAction.returns_query_bind_iff] at returned
      cases stored : before.message channel federationId with
      | some message =>
          simp only [stored, Option.isSome_some, if_true,
            StoreAction.returns_pure_iff] at returned
          rw [returned.2]
          exact StoreStep.refl before
      | none =>
          simp only [stored, Option.isSome_none, Bool.false_eq_true, if_false]
            at returned
          rw [StoreAction.returns_query_bind_iff,
            StoreAction.returns_bind_iff] at returned
          obtain ⟨message, middle, saved, returned⟩ := returned
          rw [StoreAction.returns_bind_iff] at returned
          obtain ⟨⟨⟩, last, recorded, returned⟩ := returned
          obtain ⟨changed, written⟩ := returns_saveMessage_iff.mp saved
          obtain ⟨cast, -⟩ := ChatMessage.changeset_eq_ok_iff.mp changed
          have origin := (castMessageContent_keeps cast).1
          have absent : before.chatMessages (channel.id, federationId) = none :=
            stored
          have added : StoreStep remoteDomain
              (fun id originDomain => Json.str federationId = .str id ∧
                originDomain = messageOriginDomain payload remoteDomain)
              before middle := by
            rw [written]
            apply StoreStep.write
            rw [absent]
            exact RowStep.insert ⟨rfl, origin⟩
          rw [(StoreAction.returns_pure_iff.mp returned).2]
          exact StoreStep.trans _ _ _ added
            (respects_recordMessageActivity message _ _ _ recorded)
  | _ =>
      rw [id] at returned
      exact absurd returned StoreAction.not_returns_fail

theorem returns_ensureRemoteMessageAuthor_iff
    {federationMessageId remoteDomain : String} {result : PUnit} :
    StoreAction.Returns
        (ensureRemoteMessageAuthor channel federationMessageId remoteDomain)
        before result after ↔
      after = before ∧
        ((∃ message, before.message channel federationMessageId = some message ∧
            normalizeDomain message.originDomain =
              normalizeDomain (some remoteDomain)) ∨
          (before.message channel federationMessageId = none ∧
            channel.isFederatedMirror = true)) := by
  rw [ensureRemoteMessageAuthor, StoreAction.returns_query_bind_iff]
  cases stored : before.message channel federationMessageId with
  | some message =>
      by_cases own : normalizeDomain message.originDomain =
          normalizeDomain (some remoteDomain)
      · simp [own]
      · simp [own]
  | none =>
      cases mirror : channel.isFederatedMirror with
      | true => simp
      | false => simp

/-- An update of the sender's own message keeps its attribution and whether it
is deleted; one of a message that is not there adds it. -/
theorem upsertOrUpdateMirrorMessage_step {payload : Json}
    {messageId remoteDomain : String} {result : Option ChatMessage}
    (id : payload.get "id" = .str messageId)
    (author : ∀ message, before.message channel messageId = some message →
      normalizeDomain message.originDomain =
        normalizeDomain (some remoteDomain))
    (returned : StoreAction.Returns
      (upsertOrUpdateMirrorMessage context now channel payload remoteDomain)
      before result after) :
    StoreStep remoteDomain
      (fun id originDomain => payload.get "id" = .str id ∧
        originDomain = messageOriginDomain payload remoteDomain)
      before after := by
  unfold upsertOrUpdateMirrorMessage at returned
  rw [id] at returned
  simp only [StoreAction.returns_query_bind_iff] at returned
  cases stored : before.message channel messageId with
  | some existing =>
      rw [stored, StoreAction.returns_map_iff] at returned
      obtain ⟨changed, saved, -⟩ := returned
      obtain ⟨changeset, written⟩ := returns_saveMessage_iff.mp saved
      obtain ⟨cast, -⟩ := ChatMessage.changeset_eq_ok_iff.mp changeset
      obtain ⟨origin, deletedAt⟩ := castMessageContent_keeps cast
      have present : before.chatMessages (channel.id, messageId) =
          some existing := stored
      rw [written]
      apply StoreStep.write
      rw [present]
      apply RowStep.update (author existing stored) origin
      intro deleted
      rw [ChatMessage.deleted, deletedAt]
      exact deleted
  | none =>
      rw [stored] at returned
      by_cases mirror : channel.isFederatedMirror = true
      · rw [if_pos mirror] at returned
        exact upsertMirrorMessage_step before result after returned
      · rw [if_neg mirror] at returned
        exact absurd returned StoreAction.not_returns_fail

theorem softDeleteMirrorMessage_step {messageId remoteDomain : String}
    {deletedAt : Json} {result : ChatMessage}
    (author : ∀ message, before.message channel messageId = some message →
      normalizeDomain message.originDomain =
        normalizeDomain (some remoteDomain))
    (returned : StoreAction.Returns
      (softDeleteMirrorMessage now channel messageId deletedAt remoteDomain)
      before result after) :
    StoreStep remoteDomain
        (fun id originDomain => id = messageId ∧
          originDomain = castString (some (downcase remoteDomain)))
        before after ∧
      Tombstone after (channel.id, messageId) := by
  rw [softDeleteMirrorMessage, StoreAction.returns_query_bind_iff] at returned
  have marks : ∀ row : ChatMessage, row.deleted = true →
      after = { before with
        chatMessages :=
          Function.update before.chatMessages (channel.id, messageId)
            (some row) } →
      Tombstone after (channel.id, messageId) := by
    intro row deleted written
    refine ⟨row, ?_, deleted⟩
    rw [written]
    exact Function.update_self ..
  cases stored : before.message channel messageId with
  | some existing =>
      rw [stored] at returned
      obtain ⟨changeset, written⟩ := returns_saveMessage_iff.mp returned
      obtain ⟨same, -⟩ := ChatMessage.changeset_eq_ok_iff.mp changeset
      cases same
      have present : before.chatMessages (channel.id, messageId) =
          some existing := stored
      refine ⟨?_, marks _ rfl written⟩
      rw [written]
      apply StoreStep.write
      rw [present]
      exact RowStep.update (author existing stored) rfl fun _ => rfl
  | none =>
      rw [stored] at returned
      by_cases mirror : channel.isFederatedMirror = true
      · rw [if_pos mirror] at returned
        obtain ⟨changeset, written⟩ := returns_saveMessage_iff.mp returned
        obtain ⟨same, -⟩ := ChatMessage.changeset_eq_ok_iff.mp changeset
        cases same
        have absent : before.chatMessages (channel.id, messageId) = none :=
          stored
        refine ⟨?_, marks _ (by simp [ChatMessage.deleted, deletedMessage]) written⟩
        rw [written]
        apply StoreStep.write
        rw [absent]
        exact RowStep.insert ⟨rfl, by simp [deletedMessage]⟩
      · rw [if_neg mirror] at returned
        exact absurd returned StoreAction.not_returns_fail

end Mirrors

/-- The message an event adds when there is none, and its attribution. -/
def EventIntroduces (eventType : String) (data : Json) (remoteDomain id : String)
    (originDomain : Option String) : Prop :=
  ((normalizedEventName eventType = "message.create" ∨
      normalizedEventName eventType = "message.update") ∧
    (data.getIn ["message", "sender"]).isMap = true ∧
    data.getIn ["message", "id"] = .str id ∧
    originDomain = messageOriginDomain (data.get "message") remoteDomain) ∨
  (normalizedEventName eventType = "message.delete" ∧
    data.get "message_id" = .str id ∧
    originDomain = castString (some (downcase remoteDomain)))

/-- The room that an event is about, as some state of the other tables has it. -/
def Resolves (context : MirrorContext Rooms) (data : Json)
    (remoteDomain : String) (channel : ChatConversation) : Prop :=
  ∃ before server after,
    StoreAction.Returns (context.resolveChannelEventContext data remoteDomain)
      before (server, channel) after

section Events

variable {context : MirrorContext Rooms} {now : DateTime} {data : Json}
  {remoteDomain : String} {before after : MirrorStore Rooms}

theorem returns_inRooms_iff {α : Type} {action : StoreAction Reason Rooms α}
    {result : α} :
    StoreAction.Returns (inRooms action) before result after ↔
      ∃ rooms, StoreAction.Returns action before.rooms result rooms ∧
        after = { before with rooms } :=
  StoreAction.returns_focus_iff

theorem returns_ensureRemoteActorMembership {channel : ChatConversation}
    {remoteActorId : Int} {action : RoomACL.Action} {result : PUnit}
    (returned : StoreAction.Returns
      (ensureRemoteActorMembership context channel remoteActorId action)
      before result after) :
    after = before := by
  rw [ensureRemoteActorMembership, StoreAction.returns_query_bind_iff]
    at returned
  split at returned
  · exact (StoreAction.returns_lift_iff.mp returned).2
  · exact absurd returned StoreAction.not_returns_fail

theorem applyMessageCreate_step
    (returned : StoreAction.Returns
      (MirrorEvents.applyMessageCreate context data remoteDomain)
      before ⟨⟩ after) :
    (data.getIn ["message", "sender"]).isMap = true ∧
      StoreStep remoteDomain
        (fun id originDomain => data.getIn ["message", "id"] = .str id ∧
          originDomain = messageOriginDomain (data.get "message") remoteDomain)
        before after := by
  simp only [MirrorEvents.applyMessageCreate] at returned
  split at returned
  · rename_i maps
    refine ⟨(Bool.and_eq_true_iff.mp maps).2, ?_⟩
    rw [StoreAction.returns_bind_iff] at returned
    obtain ⟨⟨server, channel⟩, first, resolved, returned⟩ := returned
    rw [StoreAction.returns_bind_iff] at returned
    obtain ⟨remoteActorId, second, actor, returned⟩ := returned
    rw [StoreAction.returns_bind_iff] at returned
    obtain ⟨⟨⟩, third, member, returned⟩ := returned
    rw [StoreAction.returns_bind_iff] at returned
    obtain ⟨result, fourth, upserted, returned⟩ := returned
    have checked := returns_ensureRemoteActorMembership member
    subst checked
    rw [(StoreAction.returns_pure_iff.mp returned).2]
    exact StoreStep.trans _ _ _ (StoreStep.inRooms _ _ _ _ resolved)
      (StoreStep.trans _ _ _ (StoreStep.inRooms _ _ _ _ actor)
        (upsertMirrorMessage_step _ _ _ upserted))
  · exact absurd returned StoreAction.not_returns_fail

theorem own_of_ensured {channel : ChatConversation} {messageId : String}
    {result : PUnit}
    (returned : StoreAction.Returns
      (ensureRemoteMessageAuthor channel messageId remoteDomain)
      before result after) :
    after = before ∧
      ∀ message, before.message channel messageId = some message →
        normalizeDomain message.originDomain =
          normalizeDomain (some remoteDomain) := by
  obtain ⟨unchanged, author⟩ :=
    returns_ensureRemoteMessageAuthor_iff.mp returned
  refine ⟨unchanged, ?_⟩
  intro message stored
  rcases author with ⟨found, present, own⟩ | ⟨absent, -⟩
  · cases stored.symm.trans present
    exact own
  · rw [absent] at stored
    cases stored

theorem applyMessageUpdate_step
    (returned : StoreAction.Returns
      (MirrorEvents.applyMessageUpdate context now data remoteDomain)
      before ⟨⟩ after) :
    (data.getIn ["message", "sender"]).isMap = true ∧
      StoreStep remoteDomain
        (fun id originDomain => data.getIn ["message", "id"] = .str id ∧
          originDomain = messageOriginDomain (data.get "message") remoteDomain)
        before after := by
  simp only [MirrorEvents.applyMessageUpdate] at returned
  split at returned
  · rename_i maps
    refine ⟨(Bool.and_eq_true_iff.mp maps).2, ?_⟩
    rw [StoreAction.returns_bind_iff] at returned
    obtain ⟨⟨server, channel⟩, first, resolved, returned⟩ := returned
    rw [StoreAction.returns_bind_iff] at returned
    obtain ⟨remoteActorId, second, actor, returned⟩ := returned
    rw [StoreAction.returns_bind_iff] at returned
    obtain ⟨⟨⟩, third, member, returned⟩ := returned
    have checked := returns_ensureRemoteActorMembership member
    subst checked
    cases id : (data.get "message").get "id" with
    | str messageId =>
        rw [id] at returned
        simp only [StoreAction.returns_bind_iff] at returned
        obtain ⟨⟨⟩, fourth, ensured, result, fifth, updated, last⟩ := returned
        obtain ⟨unchanged, author⟩ := own_of_ensured ensured
        subst unchanged
        rw [(StoreAction.returns_pure_iff.mp last).2]
        exact StoreStep.trans _ _ _ (StoreStep.inRooms _ _ _ _ resolved)
          (StoreStep.trans _ _ _ (StoreStep.inRooms _ _ _ _ actor)
            (upsertOrUpdateMirrorMessage_step id author updated))
    | _ =>
        rw [id] at returned
        exact absurd returned StoreAction.not_returns_fail
  · exact absurd returned StoreAction.not_returns_fail

theorem applyMessageDelete_step
    (returned : StoreAction.Returns
      (MirrorEvents.applyMessageDelete context now data remoteDomain)
      before ⟨⟩ after) :
    ∃ messageId channel, data.get "message_id" = .str messageId ∧
      Resolves context data remoteDomain channel ∧
      StoreStep remoteDomain
        (fun id originDomain => id = messageId ∧
          originDomain = castString (some (downcase remoteDomain)))
        before after ∧
      Tombstone after (channel.id, messageId) := by
  unfold MirrorEvents.applyMessageDelete at returned
  cases id : data.get "message_id" with
  | str messageId =>
      rw [id] at returned
      simp only [StoreAction.returns_bind_iff] at returned
      obtain ⟨⟨server, channel⟩, first, resolved, ⟨⟩, second, ensured, result,
        third, deleted, last⟩ := returned
      obtain ⟨unchanged, author⟩ := own_of_ensured ensured
      subst unchanged
      rw [(StoreAction.returns_pure_iff.mp last).2]
      obtain ⟨step, tombstone⟩ := softDeleteMirrorMessage_step author deleted
      obtain ⟨rooms, found, -⟩ := returns_inRooms_iff.mp resolved
      exact ⟨messageId, channel, rfl, ⟨_, server, rooms, found⟩,
        StoreStep.trans _ _ _ (StoreStep.inRooms _ _ _ _ resolved) step,
        tombstone⟩
  | _ =>
      rw [id] at returned
      exact absurd returned StoreAction.not_returns_fail

end Events

end Elektrine.Messaging.Federation
