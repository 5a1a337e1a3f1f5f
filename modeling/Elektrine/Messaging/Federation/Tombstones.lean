import Elektrine.Library.Runs
import Elektrine.Messaging.Federation.MessageEffects
import Elektrine.Messaging.Federation.SnapshotPositions

/-!
# Tombstones

A deleted message stays deleted over every run of events and snapshots, and no
domain changes a message that is attributed to another one.  Which messages a
delivery may add is decided by the owner of the identifier; a snapshot may add
messages of any domain.
-/

namespace Elektrine.Messaging.Federation

open Elektrine.Library
open Mirrors MirrorStore
open MirrorEvents (normalizeDomain)

variable {Rooms : Type}

section Attribution

variable {domain remoteDomain : String}

theorem normalizeDomain_some (domain : String) :
    normalizeDomain (some domain) = (present domain).map downcase :=
  rfl

theorem normalizeDomain_downcase (domain : String) :
    normalizeDomain (some (downcase domain)) = normalizeDomain (some domain) := by
  simp only [normalizeDomain_some, present_downcase, Option.map_map]
  exact congrArg (fun lower => (present domain).map lower)
    (funext downcase_downcase)

theorem normalizeDomain_castString (domain : String) :
    normalizeDomain (castString (some domain)) = normalizeDomain (some domain) := by
  unfold castString Option.filter
  cases trimmed : present domain with
  | none => simp [normalizeDomain, trimmed]
  | some _ => simp [trimmed]

theorem normalizeDomain_eq_present_downcase (domain : String) :
    normalizeDomain (some domain) = present (downcase domain) := by
  rw [normalizeDomain_some, present_downcase]

theorem isSuffix_of_belongs {host : String}
    (belongs : hostBelongsToDomain host domain = true) :
    (downcase host).toList = (downcase domain).toList ∨
      ∃ front, (downcase host).toList =
        front ++ '.' :: (downcase domain).toList := by
  simp only [hostBelongsToDomain, Bool.or_eq_true, beq_iff_eq] at belongs
  rcases belongs with same | suffix
  · exact .inl (by rw [same])
  · obtain ⟨front, split⟩ := List.isSuffixOf_iff_suffix.mp suffix
    refine .inr ⟨front, ?_⟩
    rw [← split, String.toList_append]
    simp

theorem belongs_of_belongs {host : String}
    (solid : Solid (downcase domain).toList)
    (belongs : hostBelongsToDomain host domain = true) :
    (present host).isSome = true ∧
      Mirrors.hostBelongsToDomain (downcase host) (downcase domain) = true := by
  have domainKept : normalizeDomain (some (downcase domain)) =
      some (downcase domain) := by
    rw [normalizeDomain_downcase, normalizeDomain_eq_present_downcase,
      present_of_solid solid]
  have hostTrimmed : normalizeDomain (some (downcase host)) =
      present (downcase host) := by
    rw [normalizeDomain_downcase, normalizeDomain_eq_present_downcase]
  have filled : ∀ {trimmed : String}, present (downcase host) = some trimmed →
      (present host).isSome = true := by
    intro trimmed found
    rw [present_downcase, Option.map_eq_some_iff] at found
    obtain ⟨kept, present, -⟩ := found
    rw [present]
    rfl
  rcases isSuffix_of_belongs belongs with same | ⟨front, split⟩
  · have found : present (downcase host) = some (downcase domain) := by
      rw [String.toList_inj.mp same]
      exact present_of_solid solid
    refine ⟨filled found, ?_⟩
    rw [Mirrors.hostBelongsToDomain, hostTrimmed, found, domainKept]
    simp
  · have dotted : Solid ('.' :: (downcase domain).toList) :=
      solid.cons (by decide)
    have trimmed := toList_trim_append split dotted
    have found : present (downcase host) = some (trim (downcase host)) := by
      apply present_eq_some_iff.mpr
      refine ⟨rfl, ?_⟩
      intro blank
      rw [blank] at trimmed
      simp at trimmed
    refine ⟨filled found, ?_⟩
    rw [Mirrors.hostBelongsToDomain, hostTrimmed, found, domainKept]
    simp only [Bool.or_eq_true]
    right
    apply List.isSuffixOf_iff_suffix.mpr
    rw [trimmed]
    exact ⟨front.dropWhile isWhiteSpace, by simp [String.toList_append]⟩

theorem actorDomain_of_matches {actor : Json} (isMap : actor.isMap = true)
    (bound : actorDomainMatchesOrigin actor domain = true) :
    Solid (downcase domain).toList ∧
      actorDomainFromPayload actor = some (downcase domain) := by
  unfold actorDomainMatchesOrigin at bound
  have notNull : actor.isNull = false := by
    cases actor <;> simp_all [Json.isMap, Json.isNull]
  simp only [notNull, Bool.false_eq_true, if_false, isMap, if_true] at bound
  cases claimed : actor.get "domain" with
  | str raw =>
      cases trimmed : present raw with
      | none => simp [claimed, normalizeOptionalString, trimmed] at bound
      | some kept =>
          simp only [claimed, normalizeOptionalString, trimmed,
            Bool.and_eq_true, beq_iff_eq] at bound
          have same := bound.1
          refine ⟨same ▸ (solid_of_present trimmed).downcase, ?_⟩
          simp [actorDomainFromPayload, claimed, Json.orElse, Json.asString?,
            normalizeDomain, trimmed, same]
  | _ => simp [claimed, normalizeOptionalString] at bound

theorem uriHost_of_owned {id : String} (solid : Solid (downcase domain).toList)
    (owned : originOwnedAbsoluteUri id domain = true) :
    ∃ host, uriHost (.str id) = some host ∧
      Mirrors.hostBelongsToDomain host (downcase domain) = true := by
  obtain ⟨host, found, belongs⟩ := (Option.any_eq_true _ _).mp owned
  have parsed : (uriParse id).host = some host := by
    unfold httpHost at found
    split at found
    · rename_i parts
      rw [parts, found]
    · rename_i parts
      rw [parts, found]
    · cases found
  obtain ⟨filled, belongs⟩ := belongs_of_belongs solid belongs
  refine ⟨downcase host, ?_, belongs⟩
  obtain ⟨kept, trimmed⟩ := Option.isSome_iff_exists.mp filled
  simp [uriHost, parsed, trimmed]

theorem messageOriginDomain_of_owner {payload : Json} {id fallback : String}
    (isMap : (payload.get "sender").isMap = true)
    (bound : actorDomainMatchesOrigin (payload.get "sender") domain = true)
    (given : payload.get "id" = .str id)
    (owned : originOwnedAbsoluteUri id domain = true) :
    normalizeDomain (messageOriginDomain payload fallback) =
      normalizeDomain (some domain) := by
  obtain ⟨solid, sender⟩ := actorDomain_of_matches isMap bound
  obtain ⟨host, found, belongs⟩ := uriHost_of_owned solid owned
  have trimmed : normalizeDomain (some domain) = some (downcase domain) := by
    rw [normalizeDomain_eq_present_downcase, present_of_solid solid]
  simp only [messageOriginDomain, sender, given, found, belongs, if_true,
    normalizeDomain_downcase, trimmed]

end Attribution

section Events

variable {context : MirrorContext Rooms} {now : DateTime} {eventType : String}
  {data : Json} {remoteDomain : String}

theorem applyEvent_step :
    StoreAction.Respects
      (StoreStep remoteDomain (EventIntroduces eventType data remoteDomain))
      (EventRouter.applyEvent context now eventType data remoteDomain) := by
  intro before result after returned
  simp only [EventRouter.applyEvent] at returned
  split_ifs at returned with create update delete
  · obtain ⟨sender, step⟩ := applyMessageCreate_step returned
    exact step.mono fun id originDomain introduced =>
      .inl ⟨.inl create, sender, introduced⟩
  · obtain ⟨sender, step⟩ := applyMessageUpdate_step returned
    exact step.mono fun id originDomain introduced =>
      .inl ⟨.inr update, sender, introduced⟩
  · obtain ⟨messageId, channel, given, -, step, -⟩ :=
      applyMessageDelete_step returned
    refine step.mono fun id originDomain introduced => .inr ⟨delete, ?_⟩
    exact ⟨introduced.1 ▸ given, introduced.2⟩
  · exact StoreStep.inRooms _ _ _ _ returned

theorem tombstone_of_applyEvent {before after : MirrorStore Rooms}
    (isDelete : normalizedEventName eventType = "message.delete")
    (returned : StoreAction.Returns
      (EventRouter.applyEvent context now eventType data remoteDomain)
      before ⟨⟩ after) :
    ∃ messageId channel, data.get "message_id" = .str messageId ∧
      Resolves context data remoteDomain channel ∧
      Tombstone after (channel.id, messageId) := by
  have handled : EventRouter.applyEvent context now eventType data
      remoteDomain =
      MirrorEvents.applyMessageDelete context now data remoteDomain := by
    simp [EventRouter.applyEvent, isDelete]
  rw [handled] at returned
  obtain ⟨messageId, channel, given, resolved, -, tombstone⟩ :=
    applyMessageDelete_step returned
  exact ⟨messageId, channel, given, resolved, tombstone⟩

theorem owned_of_introduces {id : String} {originDomain : Option String}
    (introduces : EventIntroduces eventType data remoteDomain id originDomain)
    (valid : validateOriginOwnedIdentifiersInEventData eventType data
      remoteDomain = .ok ()) :
    originOwnedAbsoluteUri id remoteDomain = true := by
  rw [validateOriginOwnedIdentifiersInEventData, ensure_eq_ok_iff,
    List.all_eq_true] at valid
  apply valid
  rcases introduces with ⟨create | update, -, given, -⟩ | ⟨delete, given, -⟩
  · rw [create]
    exact List.mem_filterMap.mpr ⟨.str id, by
      simp [← given, multiOriginRoomEventType], rfl⟩
  · rw [update]
    exact List.mem_filterMap.mpr ⟨.str id, by
      simp [← given, multiOriginRoomEventType], rfl⟩
  · rw [delete]
    exact List.mem_filterMap.mpr ⟨.str id, by
      simp [← given, multiOriginRoomEventType], rfl⟩

theorem author_of_introduces {id : String} {originDomain : Option String}
    (introduces : EventIntroduces eventType data remoteDomain id originDomain)
    (bound : validateOriginBoundActorsInEventData eventType data
      remoteDomain = .ok ())
    (owned : originOwnedAbsoluteUri id remoteDomain = true) :
    normalizeDomain originDomain = normalizeDomain (some remoteDomain) := by
  rw [validateOriginBoundActorsInEventData, ensure_eq_ok_iff,
    List.all_eq_true] at bound
  rcases introduces with ⟨kind, sender, given, origin⟩ | ⟨-, -, origin⟩
  · have matching : actorDomainMatchesOrigin
        (data.getIn ["message", "sender"]) remoteDomain = true := by
      apply bound
      rcases kind with create | update
      · rw [create]
        exact List.mem_singleton_self _
      · rw [update]
        exact List.mem_singleton_self _
    rw [origin]
    exact messageOriginDomain_of_owner sender matching given owned
  · rw [origin, normalizeDomain_castString, normalizeDomain_downcase]

end Events

/-- The messages a snapshot adds: those whose identifier its signer hosts, and
those among its entries that pass the check of their origin. -/
def SnapshotIntroduces (payload : Json) (remoteDomain id : String)
    (originDomain : Option String) : Prop :=
  originOwnedAbsoluteUri id remoteDomain = true ∨
    ∃ message ∈ snapshotEntries payload "messages",
      message.get "id" = .str id ∧
      snapshotMessageOriginValid message remoteDomain = true ∧
      originDomain = messageOriginDomain message remoteDomain

section Snapshots

variable {context : MirrorContext Rooms} {now : DateTime} {payload : Json}
  {remoteDomain : String}

structure SnapshotValid (validation : ValidationContext) (payload : Json)
    (remoteDomain : String) : Prop where
  messages : ∀ message ∈ snapshotEntries payload "messages",
    snapshotMessageOriginValid message remoteDomain = true
  reactions : ∀ entry ∈ snapshotEntries payload "reactions",
    validateSnapshotEventEntry validation "reaction.add" entry remoteDomain =
      .ok ()
  readCursors : ∀ entry ∈ snapshotEntries payload "read_cursors",
    validateSnapshotEventEntry validation "read.cursor" entry remoteDomain =
      .ok ()
  deletions : ∀ entry ∈ snapshotEntries payload "message_deletions",
    validateSnapshotEventEntry validation "message.delete" entry remoteDomain =
      .ok ()
  extensions : ∀ entry ∈ snapshotEntries payload "extensions", ∀ eventType,
    entry.get "event_type" = .str eventType →
      (entry.get "payload").isMap = true →
      validateSnapshotEventEntry validation eventType (entry.get "payload")
        remoteDomain = .ok ()

theorem entries_of_eventList {validation : ValidationContext}
    {entries : List Json} {eventType : String} {reason : Reason}
    (valid : validateSnapshotEventList validation entries eventType remoteDomain
      reason = .ok ()) :
    ∀ entry ∈ entries,
      validateSnapshotEventEntry validation eventType entry remoteDomain =
        .ok () := by
  intro entry member
  have checked := validateEach_eq_ok_iff.mp valid entry member
  split at checked
  · rename_i passed
    exact passed
  · cases checked

theorem entries_of_extensions {validation : ValidationContext}
    {entries : List Json}
    (valid : validateSnapshotExtensions validation entries remoteDomain =
      .ok ()) :
    ∀ entry ∈ entries, ∀ eventType,
      entry.get "event_type" = .str eventType →
      (entry.get "payload").isMap = true →
      validateSnapshotEventEntry validation eventType (entry.get "payload")
        remoteDomain = .ok () := by
  intro entry member eventType type isMap
  have checked := validateEach_eq_ok_iff.mp valid entry member
  simpa only [type, isMap] using checked

theorem snapshotValid_of_validate {validation : ValidationContext}
    (valid : validateSnapshotPayload validation payload remoteDomain = .ok ()) :
    SnapshotValid validation payload remoteDomain := by
  simp only [validateSnapshotPayload, bind_eq_ok_iff] at valid
  obtain ⟨_, _, _, _, _, _, _, _, _, _, _, _, _, _, _, _, _, _, _, _, _,
    messages, _, _, _, _, _, _, _, reactions, _, readCursors, _, deletions,
    extensions⟩ := valid
  refine ⟨?_, entries_of_eventList reactions, entries_of_eventList readCursors,
    entries_of_eventList deletions, entries_of_extensions extensions⟩
  intro message member
  exact ensure_eq_ok_iff.mp (validateEach_eq_ok_iff.mp messages message member)

theorem snapshotEntry_step {eventType : String} {data : Json}
    (valid : validateOriginOwnedIdentifiersInEventData eventType data
      remoteDomain = .ok ()) :
    StoreAction.Respects
      (StoreStep remoteDomain (SnapshotIntroduces payload remoteDomain))
      (EventRouter.applyEvent context now eventType data remoteDomain) :=
  applyEvent_step.mono fun _ _ step => step.mono fun _ _ introduces =>
    .inl (owned_of_introduces introduces valid)

theorem owned_of_entry {validation : ValidationContext} {eventType : String}
    {data : Json}
    (valid : validateSnapshotEventEntry validation eventType data remoteDomain =
      .ok ()) :
    validateOriginOwnedIdentifiersInEventData eventType data remoteDomain =
      .ok () := by
  simp only [validateSnapshotEventEntry, bind_eq_ok_iff] at valid
  obtain ⟨_, _, _, _, owned⟩ := valid
  exact owned

theorem importSnapshotEvents_turn {eventType : String} {entries : List Json}
    (valid : ∀ entry ∈ entries,
      validateSnapshotEventEntry context.validation eventType entry
        remoteDomain = .ok ()) :
    ∀ entry ∈ entries, StoreAction.Respects
      (StoreStep remoteDomain (SnapshotIntroduces payload remoteDomain))
      (EventRouter.applyEvent context now eventType entry remoteDomain) :=
  fun entry member => snapshotEntry_step (owned_of_entry (valid entry member))

theorem upsertMirrorMessages_step {channelMap : ChannelMap}
    (valid : ∀ message ∈ snapshotEntries payload "messages",
      snapshotMessageOriginValid message remoteDomain = true) :
    StoreAction.Respects
      (StoreStep remoteDomain (SnapshotIntroduces payload remoteDomain))
      (upsertMirrorMessages context channelMap
        (snapshotEntries payload "messages") remoteDomain) := by
  apply StoreAction.Respects.forM StoreStep.refl StoreStep.trans
  intro message member
  split
  · apply StoreAction.Respects.bind StoreStep.trans
    · exact upsertMirrorMessage_step.mono fun _ _ step =>
        step.mono fun id originDomain introduced =>
          .inr ⟨message, member, introduced.1, valid message member,
            introduced.2⟩
    · intro _
      exact StoreAction.Respects.pure StoreStep.refl _
  · exact StoreAction.Respects.pure StoreStep.refl _

theorem importSnapshotGovernance_step {governance : Json} :
    StoreAction.Respects
      (StoreStep remoteDomain (SnapshotIntroduces payload remoteDomain))
      (Snapshots.importSnapshotGovernance context now governance
        remoteDomain) := by
  unfold Snapshots.importSnapshotGovernance
  split
  · apply StoreAction.Respects.forM StoreStep.refl StoreStep.trans
    intro entry member before result after returned
    obtain ⟨⟨⟩, valid, applied⟩ := StoreAction.returns_lift_bind_iff.mp returned
    unfold validateSnapshotGovernancePayload at valid
    split at valid
    · simp only [bind_eq_ok_iff] at valid
      obtain ⟨_, _, _, _, owned⟩ := valid
      exact snapshotEntry_step owned before result after applied
    · cases valid
  · exact StoreAction.Respects.fail _

theorem importSnapshotExtensions_turn {entries : List Json}
    (valid : ∀ entry ∈ entries, ∀ eventType,
      entry.get "event_type" = .str eventType →
        (entry.get "payload").isMap = true →
        validateSnapshotEventEntry context.validation eventType
          (entry.get "payload") remoteDomain = .ok ()) :
    ∀ entry ∈ entries, StoreAction.Respects
      (StoreStep remoteDomain (SnapshotIntroduces payload remoteDomain))
      (match entry.get "event_type", (entry.get "payload").isMap with
      | .str eventType, true =>
          EventRouter.applyEvent context now eventType (entry.get "payload")
            remoteDomain
      | _, _ => StoreAction.fail .invalidPayload) := by
  intro entry member
  split
  · rename_i eventType type isMap
    exact snapshotEntry_step
      (owned_of_entry (valid entry member eventType type isMap))
  · exact StoreAction.Respects.fail _

/-- The deletions a snapshot carries, also among its extension entries. -/
def SnapshotDeletes (payload data : Json) : Prop :=
  data ∈ snapshotEntries payload "message_deletions" ∨
    ∃ entry ∈ snapshotEntries payload "extensions", ∃ eventType,
      entry.get "event_type" = .str eventType ∧
      (entry.get "payload").isMap = true ∧
      normalizedEventName eventType = "message.delete" ∧
      data = entry.get "payload"

/-- The deletion has marked the message it names in a room it was resolved to. -/
def Marks (context : MirrorContext Rooms) (data : Json) (remoteDomain : String)
    (store : MirrorStore Rooms) : Prop :=
  ∃ messageId channel, data.get "message_id" = .str messageId ∧
    Resolves context data remoteDomain channel ∧
    Tombstone store (channel.id, messageId)

theorem Marks.stays {data : Json} {domain : String}
    {MayIntroduce : String → Option String → Prop}
    {before after : MirrorStore Rooms}
    (marks : Marks context data domain before)
    (step : StoreStep remoteDomain MayIntroduce before after) :
    Marks context data domain after := by
  obtain ⟨messageId, channel, given, resolved, tombstone⟩ := marks
  exact ⟨messageId, channel, given, resolved, tombstone.stays step⟩

theorem importSections_step {server : Server} {before after : MirrorStore Rooms}
    (valid : SnapshotValid context.validation payload remoteDomain)
    (returned : StoreAction.Returns
      (importSections (context.snapshot now) payload remoteDomain)
      before server after) :
    StoreStep remoteDomain (SnapshotIntroduces payload remoteDomain)
        before after ∧
      ∀ data, SnapshotDeletes payload data →
        Marks context data remoteDomain after := by
  simp only [importSections, MirrorContext.snapshot, StoreAction.returns_bind_iff]
    at returned
  obtain ⟨_, afterServer, toServer, channelMap, afterChannels, toChannels, ⟨⟩,
    afterMessages, toMessages, ⟨⟩, afterGovernance, toGovernance, ⟨⟩,
    afterExtensions, toExtensions, ⟨⟩, afterDeletions, toDeletions, ⟨⟩,
    afterReactions, toReactions, ⟨⟩, last, toLast, finished⟩ := returned
  rw [(StoreAction.returns_pure_iff.mp finished).2]
  have trans := @StoreStep.trans Rooms remoteDomain
    (SnapshotIntroduces payload remoteDomain)
  have extensionTurns := @importSnapshotExtensions_turn Rooms context now
    payload remoteDomain _ valid.extensions
  have deletionTurns := @importSnapshotEvents_turn Rooms context now
    payload remoteDomain _ _ valid.deletions
  have events : ∀ {eventType : String} {entries : List Json},
      (∀ entry ∈ entries, validateSnapshotEventEntry context.validation
        eventType entry remoteDomain = .ok ()) →
      StoreAction.Respects
        (StoreStep remoteDomain (SnapshotIntroduces payload remoteDomain))
        (Snapshots.importSnapshotEvents context now eventType entries
          remoteDomain) :=
    fun checked => StoreAction.Respects.forM StoreStep.refl StoreStep.trans
      (importSnapshotEvents_turn checked)
  have afterwards := trans _ _ _
    (events valid.reactions _ _ _ toReactions)
    (events valid.readCursors _ _ _ toLast)
  have fromExtensions := trans _ _ _
    (events valid.deletions _ _ _ toDeletions) afterwards
  refine ⟨trans _ _ _ (StoreStep.inRooms _ _ _ _ toServer)
    (trans _ _ _ (StoreStep.inRooms _ _ _ _ toChannels)
      (trans _ _ _ (upsertMirrorMessages_step valid.messages _ _ _ toMessages)
        (trans _ _ _ (importSnapshotGovernance_step _ _ _ toGovernance)
          (trans _ _ _ (StoreAction.Respects.forM StoreStep.refl StoreStep.trans
            extensionTurns _ _ _ toExtensions) fromExtensions)))), ?_⟩
  intro data deletes
  rcases deletes with member |
    ⟨entry, member, eventType, type, isMap, isDelete, same⟩
  · obtain ⟨start, finish, -, turn, left⟩ := StoreAction.returns_forM_turn
      StoreStep.refl StoreStep.trans deletionTurns toDeletions member
    have marks : Marks context data remoteDomain finish :=
      tombstone_of_applyEvent rfl turn
    exact marks.stays (trans _ _ _ left afterwards)
  · obtain ⟨start, finish, -, turn, left⟩ := StoreAction.returns_forM_turn
      StoreStep.refl StoreStep.trans extensionTurns toExtensions member
    simp only [type, isMap] at turn
    have marks : Marks context data remoteDomain finish := by
      rw [same]
      exact tombstone_of_applyEvent isDelete turn
    exact marks.stays (trans _ _ _ left fromExtensions)

end Snapshots

namespace MirrorAction

/-- The messages a delivery may add, with their attribution. -/
def Introduces (action : MirrorAction) (id : String)
    (originDomain : Option String) : Prop :=
  match action.delivery with
  | .event _ =>
      originOwnedAbsoluteUri id action.remoteDomain = true ∧
        normalizeDomain originDomain = normalizeDomain (some action.remoteDomain)
  | .snapshot payload =>
      SnapshotIntroduces payload action.remoteDomain id originDomain

/-- The deletions a delivery carries. -/
def Deletes (action : MirrorAction) (data : Json) : Prop :=
  match action.delivery with
  | .event payload =>
      normalizedEventName (ArblargSDK.canonicalEventType payload.eventType) =
          "message.delete" ∧
        data = payload.payload.orElse (.obj [])
  | .snapshot payload => SnapshotDeletes payload data

end MirrorAction

section Runs

variable {context : MirrorContext Rooms} {action : MirrorAction}
  {before after : Database (MirrorStore Rooms)}

theorem projections_of_importServerSnapshot {payload : Json}
    {remoteDomain : String} {now : DateTime} {server : Server}
    (imported : StoreAction.Returns
      (importServerSnapshot (context.snapshot now) payload remoteDomain)
      before server after) :
    validateSnapshotPayload context.validation payload remoteDomain = .ok () ∧
      StoreAction.Returns
        (importSections (context.snapshot now) payload remoteDomain)
        before.projections server after.projections := by
  have valid := (returns_importServerSnapshot imported).1
  refine ⟨valid, ?_⟩
  unfold importServerSnapshot at imported
  rw [valid] at imported
  have body := StoreAction.returns_transaction_iff.mp imported
  obtain ⟨_, sections, first, body⟩ := StoreAction.returns_bind_iff.mp body
  obtain ⟨projections, ran, rfl⟩ := StoreAction.returns_focus_iff.mp first
  obtain ⟨_, middle, stored, last⟩ := StoreAction.returns_bind_iff.mp body
  obtain ⟨same, rfl⟩ := StoreAction.returns_pure_iff.mp last
  rw [same, returns_storeSnapshotStreamPositions stored]
  exact ran

theorem acceptedDelivery_step
    (accepted : AcceptsDelivery context action before after) :
    StoreStep action.remoteDomain action.Introduces before.projections
        after.projections ∧
      ∀ data, action.Deletes data →
        Marks context data action.remoteDomain after.projections := by
  unfold AcceptsDelivery at accepted
  unfold MirrorAction.Introduces MirrorAction.Deletes
  cases delivered : action.delivery with
  | event payload =>
      simp only [delivered] at accepted ⊢
      obtain ⟨valid, received⟩ := returns_receiveEvent_iff.mp accepted
      cases received with
      | applied fresh next projection =>
          simp only [MirrorContext.ingress, MirrorContext.validateEventPayload,
            bind_eq_ok_iff] at valid
          obtain ⟨_, _, _, _, ⟨⟩, bound, ⟨⟩, owned, _⟩ := valid
          constructor
          · apply (applyEvent_step _ _ _ projection).mono
            intro id originDomain introduces
            have hosted := owned_of_introduces introduces owned
            exact ⟨hosted, author_of_introduces introduces bound hosted⟩
          · intro data deletes
            rw [deletes.2]
            exact tombstone_of_applyEvent deletes.1 projection
  | snapshot payload =>
      simp only [delivered] at accepted ⊢
      obtain ⟨server, imported⟩ := accepted
      obtain ⟨valid, sections⟩ := projections_of_importServerSnapshot imported
      exact importSections_step (snapshotValid_of_validate valid) sections

theorem deliver_cases (context : MirrorContext Rooms)
    (before : Database (MirrorStore Rooms)) (action : MirrorAction) :
    (deliver context before action).projections = before.projections ∨
      AcceptsDelivery context action before (deliver context before action) := by
  cases delivered : action.delivery with
  | event payload =>
      rcases outcome : (receiveEvent (context.ingress action.receivedAt) payload
        action.remoteDomain).perform before with ⟨reason | result, after⟩
      · have left : deliver context before action = after := by
          simp only [deliver, delivered, outcome]
        rw [left]
        exact .inl (congrArg Database.projections
          (receiveEvent_fails_unchanged outcome))
      · have left : deliver context before action = after := by
          simp only [deliver, delivered, outcome]
        rw [left]
        cases (returns_receiveEvent_iff.mp outcome).2 with
        | duplicate => exact .inl rfl
        | stale => exact .inl rfl
        | applied =>
            right
            simp only [AcceptsDelivery, delivered]
            exact outcome
  | snapshot payload =>
      rcases outcome : (importServerSnapshot (context.snapshot action.receivedAt)
        payload action.remoteDomain).perform before with ⟨reason | server, after⟩
      · have left : deliver context before action = after := by
          simp only [deliver, delivered, outcome]
        rw [left]
        exact .inl (congrArg Database.projections
          (importServerSnapshot_fails_unchanged outcome))
      · have left : deliver context before action = after := by
          simp only [deliver, delivered, outcome]
        rw [left]
        right
        simp only [AcceptsDelivery, delivered]
        exact ⟨server, outcome⟩

theorem deliver_step (context : MirrorContext Rooms)
    (before : Database (MirrorStore Rooms)) (action : MirrorAction) :
    StoreStep action.remoteDomain action.Introduces before.projections
      (deliver context before action).projections := by
  rcases deliver_cases context before action with unchanged | accepted
  · rw [unchanged]
    exact StoreStep.refl _
  · exact (acceptedDelivery_step accepted).1

theorem Marks.stays_run {data : Json} {remoteDomain : String}
    {before : Database (MirrorStore Rooms)} (actions : List MirrorAction)
    (marks : Marks context data remoteDomain before.projections) :
    Marks context data remoteDomain
      (actions.foldl (deliver context) before).projections := by
  induction actions generalizing before with
  | nil => exact marks
  | cons action rest ih => exact ih (marks.stays (deliver_step context before action))

end Runs

/-- In every run of events and snapshots, a message keeps its attribution, a
deleted one stays deleted and only the domain it is attributed to changes it.
One that is not there is added by the host of its identifier, or by a snapshot
that names a sender of that host.  An accepted deletion holds at the end. -/
theorem mirroredMessages_run (context : MirrorContext Rooms)
    (start : Database (MirrorStore Rooms)) (actions : List MirrorAction) :
    (∀ step ∈ transitions (deliver context) start actions, ∀ key,
      RowStep step.action.remoteDomain (step.action.Introduces key.2)
        (step.before.projections.chatMessages key)
        (step.after.projections.chatMessages key)) ∧
    ∀ front action back, actions = front ++ action :: back →
      AcceptsDelivery context action (front.foldl (deliver context) start)
        (deliver context (front.foldl (deliver context) start) action) →
      ∀ data, action.Deletes data →
        Marks context data action.remoteDomain
          (actions.foldl (deliver context) start).projections := by
  constructor
  · intro step member key
    have result := (mem_transitions member).2
    rw [result]
    exact deliver_step context step.before step.action key
  · intro front action back split accepted data deletes
    rw [split, List.foldl_append]
    exact Marks.stays_run back ((acceptedDelivery_step accepted).2 data deletes)

/-- The mirror of a room of `hub.example`. -/
def hubRoom : ChatConversation where
  id := 1
  type := "channel"
  serverId := some 1
  creatorId := none
  isPublic := true
  approvalModeEnabled := false
  isFederatedMirror := true

def hubRoomUri : String := "https://hub.example/_arblarg/channels/1"

def hubContext : MirrorContext Unit where
  validation := quietSnapshotContext.validation
  validateEventEnvelope _ _ := .ok ()
  resolveChannelEventContext _ _ := pure (⟨true, some "hub.example"⟩, hubRoom)
  resolveOrCreateRemoteActorId _ _ := pure 7
  serverExists _ _ := true
  authorizeRemoteActorAction _ _ _ _ := .ok ⟨⟩
  normalizeMessageAttachments _ := []
  attachmentStorageMetadata attachments :=
    .obj [("attachments", .arr attachments)]
  resolveThreadForMessageRef _ _ _ := none
  recordMessageActivity _ rooms := rooms
  applyOtherEvent _ _ _ := pure ⟨⟩
  upsertMirrorServer _ _ := pure ⟨true, some "hub.example"⟩
  upsertMirrorChannels _ _ := pure [(hubRoomUri, hubRoom)]

def emptyMirrors : Database (MirrorStore Unit) where
  federationEvents := []
  streamPositions _ := none
  projections := ⟨fun _ => none, ()⟩

def aliceMessageId : String := "https://e.example/_arblarg/messages/1"

def aliceMessage (content : String) : Json :=
  .obj [("id", .str aliceMessageId), ("channel_id", .str hubRoomUri),
    ("content", .str content), ("message_type", .str "text"),
    ("sender", .obj [("uri", .str "https://e.example/users/alice"),
      ("username", .str "alice"), ("domain", .str "e.example"),
      ("handle", .str "alice@e.example")])]

def aliceEvent (eventType : String) (sequence : Int) (data : Json) :
    MirrorAction where
  delivery := .event
    { protocolVersion := some "1.0"
      eventId := eventType
      idempotencyKey := none
      originDomain := "e.example"
      eventType := eventType
      streamId := "channel:" ++ hubRoomUri
      sequence := .int sequence
      payload := data }
  remoteDomain := "e.example"
  receivedAt := 0

def aliceCreate (sequence : Int) : MirrorAction :=
  aliceEvent "message.create" sequence
    (.obj [("message", aliceMessage "hello")])

def aliceDelete : MirrorAction :=
  aliceEvent "message.delete" 1
    (.obj [("message_id", .str aliceMessageId),
      ("deleted_at", .str "2026-01-01T00:00:00Z")])

def hubSnapshot : MirrorAction where
  delivery := .snapshot (.obj [("version", .int 1),
    ("origin_domain", .str "hub.example"),
    ("server", .obj [("id", .str "https://hub.example/_arblarg/servers/1"),
      ("name", .str "hub")]),
    ("messages", .arr [aliceMessage "written by the hub"]),
    ("governance", .obj [("memberships", .arr []), ("invites", .arr []),
      ("bans", .arr [])]),
    ("stream_positions", .arr [.obj [("stream_id", .str ("channel:" ++ hubRoomUri)),
      ("last_sequence", .int 0)]]),
    ("signature", .obj [("algorithm", .str "ed25519"), ("key_id", .str "k1"),
      ("value", .str "c2ln")])])
  remoteDomain := "hub.example"
  receivedAt := 0

def aliceContent (database : Database (MirrorStore Unit)) :
    Option (Option String × Bool) :=
  (database.projections.chatMessages (hubRoom.id, aliceMessageId)).map
    fun message => (message.content, message.deleted)

/-- A deletion that comes before its message is accepted and holds. -/
theorem mirroredMessages_run_deleteFirst :
    Marks hubContext (.obj [("message_id", .str aliceMessageId),
        ("deleted_at", .str "2026-01-01T00:00:00Z")]) "e.example"
      (([aliceDelete, aliceCreate 2] : List MirrorAction).foldl
        (deliver hubContext) emptyMirrors).projections := by
  refine (mirroredMessages_run hubContext emptyMirrors
    [aliceDelete, aliceCreate 2]).2 [] aliceDelete [aliceCreate 2] rfl ?_ _
    ⟨rfl, rfl⟩
  rcases deliver_cases hubContext emptyMirrors aliceDelete with
    unchanged | accepted
  · have marked : aliceContent (deliver hubContext emptyMirrors aliceDelete) =
        some (none, true) := by
      decide
    rw [aliceContent, unchanged] at marked
    cases marked
  · exact accepted

/-- The snapshot of another domain gives the message of alice a content, which
the event of alice then does not change. -/
theorem snapshot_writes_foreign_message :
    aliceContent (deliver hubContext emptyMirrors (aliceCreate 1)) =
        some (some "hello", false) ∧
      aliceContent (([hubSnapshot, aliceCreate 1] : List MirrorAction).foldl
          (deliver hubContext) emptyMirrors) =
        some (some "written by the hub", false) ∧
      ¬ ∀ step ∈ transitions (deliver hubContext) emptyMirrors
          [hubSnapshot, aliceCreate 1],
        normalizeDomain (some step.action.remoteDomain) ≠ some "e.example" →
        aliceContent step.after = aliceContent step.before := by
  refine ⟨by decide, by decide, ?_⟩
  intro never
  have foreign : normalizeDomain (some hubSnapshot.remoteDomain) ≠
      some "e.example" := by
    decide
  have kept := never _ List.mem_cons_self foreign
  have written : aliceContent (deliver hubContext emptyMirrors hubSnapshot) =
      some (some "written by the hub", false) := by
    decide
  rw [written] at kept
  cases kept

end Elektrine.Messaging.Federation
