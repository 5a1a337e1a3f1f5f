import Mathlib.Data.String.Basic
import Elektrine.Library.LastWriter
import Elektrine.Messaging.Federation.State

/-!
# Convergence of the projections of remote state

Every projection is a last-writer-wins register per key: the upserts compare the
stored timestamp with the incoming one.  The revision of an event is the tuple
`(updated_at, origin_domain, stream_id, sequence, event_id)`, with `sent_at` for
an absent `updated_at`; the upserts see only its first component, cut off to
seconds when stored and replaced by the local clock when absent.
-/

namespace Elektrine.Messaging.Federation

open Elektrine.Library
open Elektrine.Library.LastWriter

/-- An upsert as a function of its update: which updates it accepts, the row it
builds from the effective timestamp, and what of a written row the local clock
has no part in. -/
structure RemoteProjection (Update Key Row : Type) [DecidableEq Key] where
  schema : RemoteSchema Key Row
  key : Update → Key
  givenAt : Update → Option DateTime
  attrs : Update → DateTime → Row
  accepted : Update → Bool
  upsert : DateTime → Update → StoreAction Reason (Table Key Row) Row
  content : Row → Row
  key_attrs : ∀ update at', schema.key (attrs update at') = key update
  updatedAt_attrs : ∀ update at',
    schema.updatedAtRemote (attrs update at') = at'
  valid_attrs : ∀ update at', accepted update = true →
    schema.valid (attrs update at') = true
  upsert_accepted : ∀ now update, accepted update = true →
    upsert now update =
      upsertRemoteState schema (attrs update ((givenAt update).getD now))
  content_cast : ∀ update at' later,
    content (schema.cast (attrs update at')) =
      content (schema.cast (attrs update later))

def membershipProjection :
    RemoteProjection MembershipUpdate (Int × Int) FederationMembershipState where
  schema := membershipSchema
  key update := (update.conversationId, update.remoteActorId)
  givenAt := MembershipUpdate.updatedAt
  attrs := MembershipUpdate.attrs
  accepted update :=
    update.metadata.isMap && membershipSchema.valid (update.attrs 0)
  upsert := upsertMembershipState
  content row := { row with updatedAtRemote := 0 }
  key_attrs _ _ := rfl
  updatedAt_attrs _ _ := rfl
  valid_attrs _ _ accepted := (Bool.and_eq_true_iff.mp accepted).2
  upsert_accepted _ _ accepted := if_pos (Bool.and_eq_true_iff.mp accepted).1
  content_cast _ _ _ := rfl

def inviteProjection :
    RemoteProjection InviteUpdate (Int × Option String)
      FederationInviteState where
  schema := inviteSchema
  key update := (update.conversationId, actorUri update.targetPayload)
  givenAt := InviteUpdate.updatedAt
  attrs := InviteUpdate.attrs
  accepted update :=
    (update.actorPayload.isMap && update.targetPayload.isMap &&
      update.metadata.isMap) && inviteSchema.valid (update.attrs 0)
  upsert := upsertInviteState
  content row := { row with updatedAtRemote := 0 }
  key_attrs _ _ := rfl
  updatedAt_attrs _ _ := rfl
  valid_attrs _ _ accepted := (Bool.and_eq_true_iff.mp accepted).2
  upsert_accepted now update accepted := by
    obtain ⟨maps, valid⟩ := Bool.and_eq_true_iff.mp accepted
    have uris : ((update.attrs (update.updatedAt.getD now)).actorUri.isSome &&
        (update.attrs (update.updatedAt.getD now)).targetUri.isSome) = true := by
      simp only [inviteSchema, InviteUpdate.attrs, Bool.and_eq_true] at valid
      obtain ⟨⟨⟨⟨-, sender⟩, target⟩, -⟩, -⟩ := valid
      simp only [InviteUpdate.attrs, Bool.and_eq_true]
      exact ⟨Option.isSome_of_any sender, Option.isSome_of_any target⟩
    rw [upsertInviteState, if_pos maps]
    exact if_pos uris
  content_cast _ _ _ := rfl

def extensionProjection :
    RemoteProjection ExtensionUpdate ExtensionKey FederationExtensionEvent where
  schema := extensionSchema
  key := ExtensionUpdate.index
  givenAt := ExtensionUpdate.occurredAt
  attrs := ExtensionUpdate.attrs
  accepted update :=
    update.payload.isMap && extensionSchema.valid (update.attrs 0)
  upsert := upsertExtensionProjection
  content row := { row with occurredAt := 0 }
  key_attrs _ _ := rfl
  updatedAt_attrs _ _ := rfl
  valid_attrs _ _ accepted := (Bool.and_eq_true_iff.mp accepted).2
  upsert_accepted _ _ accepted := if_pos (Bool.and_eq_true_iff.mp accepted).1
  content_cast _ _ _ := rfl

def presenceProjection (Subject : Type) [DecidableEq Subject]
    (presenceTtlSeconds : Int) :
    RemoteProjection (PresenceUpdate Subject) Subject
      (PresenceState Subject) where
  schema := presenceSchema Subject
  key := PresenceUpdate.subject
  givenAt := PresenceUpdate.updatedAt
  attrs := PresenceUpdate.attrs presenceTtlSeconds
  accepted update :=
    (presenceSchema Subject).valid (update.attrs presenceTtlSeconds 0)
  upsert := upsertPresenceState presenceTtlSeconds
  content row := { row with updatedAtRemote := 0, expiresAtRemote := 0 }
  key_attrs _ _ := rfl
  updatedAt_attrs _ _ := rfl
  valid_attrs _ _ accepted := accepted
  upsert_accepted _ _ _ := rfl
  content_cast _ _ _ := rfl

def accountPresenceProjection (presenceTtlSeconds : Int) :
    RemoteProjection (PresenceUpdate Int) Int (PresenceState Int) :=
  { presenceProjection Int presenceTtlSeconds with
    upsert := upsertAccountPresenceState presenceTtlSeconds }

def roomPresenceProjection (presenceTtlSeconds : Int) :
    RemoteProjection (PresenceUpdate (Int × Int)) (Int × Int)
      (PresenceState (Int × Int)) :=
  { presenceProjection (Int × Int) presenceTtlSeconds with
    upsert := upsertRoomPresenceState presenceTtlSeconds }

structure GovernedEvent (Update : Type) where
  eventId : String
  originDomain : String
  streamId : String
  sequence : Int
  sentAt : DateTime
  update : Update

def originStreams (Update : Type) : StreamOrder (GovernedEvent Update) where
  before first second :=
    first.originDomain = second.originDomain ∧
      first.streamId = second.streamId ∧ first.sequence < second.sequence
  position := GovernedEvent.sequence
  before_trans front back :=
    ⟨front.1.trans back.1, front.2.1.trans back.2.1,
      front.2.2.trans back.2.2⟩
  position_lt before := before.2.2

/-- `(updated_at, origin_domain, stream_id, sequence, event_id)` -/
abbrev Revision : Type := DateTime ×ₗ String ×ₗ String ×ₗ Int ×ₗ String

namespace RemoteProjection

variable {Update Key Row : Type} [DecidableEq Key]
  (projection : RemoteProjection Update Key Row)

def revision (event : GovernedEvent Update) : Revision :=
  toLex ((projection.givenAt event.update).getD event.sentAt,
    toLex (event.originDomain, toLex (event.streamId,
      toLex (event.sequence, event.eventId))))

def incoming (event : GovernedEvent Update) (now : DateTime) : Row :=
  projection.attrs event.update ((projection.givenAt event.update).getD now)

def project (schedule : List (Arrival (GovernedEvent Update) DateTime)) :
    Table Key Row :=
  schedule.foldl
    (fun table arrival =>
      ((projection.upsert arrival.clock arrival.event.update).perform table).2)
    fun _ => none

structure Governed (key : Key) (events : List (GovernedEvent Update)) : Prop where
  accepted : ∀ event ∈ events, projection.accepted event.update = true
  sameObject : ∀ event ∈ events, projection.key event.update = key
  identified : ∀ first ∈ events, ∀ second ∈ events,
    first.originDomain = second.originDomain → first.eventId = second.eventId →
      first = second

/-- The projected row is the one of the greatest revision in every order that
respects the streams, and exactly an older event is superseded. -/
structure Convergent (key : Key) (events : List (GovernedEvent Update)) :
    Prop where
  orderIndependent :
    ∀ left right : List (Arrival (GovernedEvent Update) DateTime),
      Admissible (originStreams Update) events left →
      Admissible (originStreams Update) events right →
      (left.map Arrival.event).Perm (right.map Arrival.event) →
      (projection.project left key).map projection.content =
        (projection.project right key).map projection.content
  greatestRevisionWins :
    ∀ schedule : List (Arrival (GovernedEvent Update) DateTime),
      Admissible (originStreams Update) events schedule →
      ∀ arrival ∈ schedule,
        (∀ other ∈ schedule,
          ¬ projection.revision arrival.event < projection.revision other.event) →
        projection.project schedule key =
          some (projection.schema.cast
            (projection.incoming arrival.event arrival.clock))
  olderSuperseded :
    ∀ (front : List (Arrival (GovernedEvent Update) DateTime))
      (arrival : Arrival (GovernedEvent Update) DateTime),
      Admissible (originStreams Update) events (front ++ [arrival]) →
      (Superseded projection.schema
          (projection.incoming arrival.event arrival.clock)
          (projection.project front) ↔
        ∃ earlier ∈ front,
          projection.revision arrival.event <
            projection.revision earlier.event)

/-- The comparison of the upserts is the one of the revisions: a newer timestamp
stays ahead when cut off to seconds, an older event never follows a newer one of
the same second, and stamped and unstamped events do not mix. -/
def Resolves (first second : GovernedEvent Update) : Prop :=
  match projection.givenAt first.update, projection.givenAt second.update with
  | some firstAt, some secondAt =>
      projection.revision first < projection.revision second ∨
        secondAt < firstAt.truncate
  | none, none => projection.revision first < projection.revision second
  | _, _ => False

/-- Every two events that meet are resolved. -/
def Resolvable (events : List (GovernedEvent Update)) : Prop :=
  ∀ first second,
    Meets (originStreams Update) projection.revision events first second →
      projection.Resolves first second

def register : Register (GovernedEvent Update) DateTime Row where
  write event now := projection.schema.cast (projection.incoming event now)
  keeps row event now :=
    staleRemoteUpdate (projection.schema.updatedAtRemote row)
      (projection.schema.updatedAtRemote (projection.incoming event now))

variable {projection} {key : Key} {events : List (GovernedEvent Update)}

theorem perform_upsert
    {event : GovernedEvent Update} (now : DateTime) (table : Table Key Row)
    (accepted : projection.accepted event.update = true)
    (sameObject : projection.key event.update = key) :
    ((projection.upsert now event.update).perform table).2 key =
      projection.register.receive (table key) ⟨event, now⟩ := by
  have indexed : projection.schema.key (projection.incoming event now) = key :=
    (projection.key_attrs _ _).trans sameObject
  have valid : projection.schema.valid (projection.incoming event now) = true :=
    projection.valid_attrs _ _ accepted
  rw [projection.upsert_accepted now event.update accepted]
  obtain ⟨row, after, returned⟩ : ∃ row after,
      StoreAction.Returns
        (upsertRemoteState projection.schema (projection.incoming event now))
        table row after :=
    returns_upsertRemoteState_some_iff.mpr (.inr valid)
  have left : ((upsertRemoteState projection.schema
      (projection.incoming event now)).perform table).2 = after :=
    congrArg Prod.snd returned
  refine (congrFun left key).trans ?_
  rcases returns_upsertRemoteState_iff.mp returned with
    ⟨⟨stored, found, newer⟩, -, rfl⟩ | ⟨current, -, rfl, rfl⟩
  · rw [indexed] at found
    simp [Register.receive, register, staleRemoteUpdate, found, newer]
  · rw [indexed, Function.update_self]
    cases found : table key with
    | none => rfl
    | some stored =>
        have notNewer : ¬ projection.schema.updatedAtRemote
            (projection.incoming event now) <
              projection.schema.updatedAtRemote stored :=
          fun newer => current ⟨stored, indexed ▸ found, newer⟩
        simp [Register.receive, register, staleRemoteUpdate, notNewer]

theorem governed_nil : projection.Governed key [] := by
  constructor <;> simp

theorem Governed.cons
    {event : GovernedEvent Update}
    (accepted : projection.accepted event.update = true)
    (sameObject : projection.key event.update = key)
    (fresh : ∀ other ∈ events, event.eventId ≠ other.eventId)
    (governed : projection.Governed key events) :
    projection.Governed key (event :: events) := by
  constructor
  · exact List.forall_mem_cons.mpr ⟨accepted, governed.accepted⟩
  · exact List.forall_mem_cons.mpr ⟨sameObject, governed.sameObject⟩
  · intro first member second there sameOrigin sameId
    rcases List.mem_cons.mp member with head | inside
    · rcases List.mem_cons.mp there with same | present
      · rw [head, same]
      · exact absurd (head ▸ sameId) (fresh second present)
    · rcases List.mem_cons.mp there with same | present
      · exact absurd (same ▸ sameId).symm (fresh first inside)
      · exact governed.identified first inside second present sameOrigin sameId

theorem project_eq_after
    (governed : projection.Governed key events)
    {schedule : List (Arrival (GovernedEvent Update) DateTime)}
    (admissible : Admissible (originStreams Update) events schedule) :
    projection.project schedule key = projection.register.after schedule := by
  induction schedule using List.reverseRecOn with
  | nil => rfl
  | append_singleton front arrival ih =>
      obtain ⟨earlier, known, -⟩ := admissible.concat_inv
      rw [Register.after_concat, ← ih earlier,
        ← perform_upsert arrival.clock _ (governed.accepted _ known)
          (governed.sameObject _ known)]
      simp [project]

theorem superseded_iff_keeps
    (governed : projection.Governed key events)
    {event : GovernedEvent Update} (known : event ∈ events) (now : DateTime)
    (table : Table Key Row) :
    Superseded projection.schema (projection.incoming event now) table ↔
      ∃ row, table key = some row ∧
        projection.register.keeps row event now = true := by
  have indexed : projection.schema.key (projection.incoming event now) = key :=
    (projection.key_attrs _ _).trans (governed.sameObject event known)
  simp [Superseded, register, staleRemoteUpdate, indexed]

theorem revision_injective (governed : projection.Governed key events) :
    ∀ first ∈ events, ∀ second ∈ events,
      projection.revision first = projection.revision second →
        first = second := by
  intro first member second there same
  have parts := toLex.injective same
  simp only [Prod.mk.injEq, EmbeddingLike.apply_eq_iff_eq] at parts
  exact governed.identified first member second there parts.2.1 parts.2.2.2.2

theorem convergent_iff_converges
    (governed : projection.Governed key events) :
    projection.Convergent key events ↔
      Converges (originStreams Update) projection.revision projection.register
        projection.content events := by
  constructor
  · intro convergent
    constructor
    · intro left right leftAdmissible rightAdmissible permutation
      rw [← project_eq_after governed leftAdmissible,
        ← project_eq_after governed rightAdmissible]
      exact convergent.orderIndependent left right leftAdmissible
        rightAdmissible permutation
    · intro schedule admissible arrival member greatest
      rw [← project_eq_after governed admissible]
      exact convergent.greatestRevisionWins schedule admissible arrival member
        greatest
    · intro front arrival row admissible stored
      obtain ⟨earlier, known, -⟩ := admissible.concat_inv
      rw [← project_eq_after governed earlier] at stored
      rw [← convergent.olderSuperseded front arrival admissible,
        superseded_iff_keeps governed known, stored]
      simp
  · intro converges
    constructor
    · intro left right leftAdmissible rightAdmissible permutation
      rw [project_eq_after governed leftAdmissible,
        project_eq_after governed rightAdmissible]
      exact converges.agrees left right leftAdmissible rightAdmissible
        permutation
    · intro schedule admissible arrival member greatest
      rw [project_eq_after governed admissible]
      exact converges.newestWins schedule admissible arrival member greatest
    · intro front arrival admissible
      obtain ⟨earlier, known, -⟩ := admissible.concat_inv
      rw [superseded_iff_keeps governed known,
        project_eq_after governed earlier]
      rcases List.eq_nil_or_concat' front with rfl | ⟨body, last, rfl⟩
      · simp
      · cases stored : projection.register.after (body ++ [last]) with
        | none =>
            have some := Register.isSome_after_concat projection.register body last
            simp [stored] at some
        | some row =>
            rw [← converges.olderKeptOut _ arrival row admissible stored]
            simp

theorem keeps_write_iff
    {first second : GovernedEvent Update} {clock later : DateTime} :
    projection.register.keeps (projection.register.write first clock)
        second later = true ↔
      (projection.givenAt second.update).getD later <
        ((projection.givenAt first.update).getD clock).truncate := by
  simp [register, staleRemoteUpdate, projection.schema.updatedAtRemote_cast,
    incoming, projection.updatedAt_attrs]

theorem revision_lt_of_givenAt
    {first second : GovernedEvent Update} {firstAt secondAt : DateTime}
    (firstGiven : projection.givenAt first.update = some firstAt)
    (secondGiven : projection.givenAt second.update = some secondAt)
    (earlier : firstAt < secondAt) :
    projection.revision first < projection.revision second := by
  apply Prod.Lex.toLex_lt_toLex.mpr
  left
  simpa [firstGiven, secondGiven] using earlier

theorem resolves_iff
    {first second : GovernedEvent Update}
    (distinct : projection.revision first ≠ projection.revision second) :
    projection.Resolves first second ↔
      ∀ clock later : DateTime, clock ≤ later →
        (projection.register.keeps
            (projection.register.write first clock) second later = true ↔
          projection.revision second < projection.revision first) := by
  simp only [keeps_write_iff, Resolves]
  cases firstGiven : projection.givenAt first.update with
  | none =>
      cases secondGiven : projection.givenAt second.update with
      | none =>
          have current : ∀ clock later : DateTime, clock ≤ later →
              ¬ later < clock.truncate := by
            intro clock later forward
            exact ((DateTime.truncate_le clock).trans forward).not_gt
          constructor
          · intro older clock later forward
            exact iff_of_false (current clock later forward) older.not_gt
          · intro decides
            have notNewer := (decides 0 0 (le_refl _)).not.mp
              (current 0 0 (le_refl _))
            exact lt_of_le_of_ne (not_lt.mp notNewer) distinct
      | some secondAt =>
          constructor
          · intro impossible
            exact impossible.elim
          · intro decides
            -- a clock whose second has begun by `secondAt`, and one after it
            have kept := decides secondAt secondAt (le_refl _)
            have replaced := decides (secondAt.truncate + DateTime.second)
              (secondAt.truncate + DateTime.second) (le_refl _)
            have before := (DateTime.truncate_le secondAt).not_gt
            have after := DateTime.lt_truncate_next secondAt
            exact before (kept.mpr (replaced.mp after))
  | some firstAt =>
      cases secondGiven : projection.givenAt second.update with
      | none =>
          constructor
          · intro impossible
            exact impossible.elim
          · intro decides
            have kept := decides (firstAt.truncate - 1) (firstAt.truncate - 1)
              (le_refl _)
            have replaced := decides firstAt.truncate firstAt.truncate
              (le_refl _)
            exact lt_irrefl _ (replaced.mpr (kept.mp (Int.sub_lt_self _ (by decide))))
      | some secondAt =>
          have newer : secondAt < firstAt.truncate →
              projection.revision second < projection.revision first := by
            intro behind
            exact revision_lt_of_givenAt secondGiven firstGiven
              (behind.trans_le (DateTime.truncate_le firstAt))
          constructor
          · intro resolved clock later _
            constructor
            · exact newer
            · intro older
              exact resolved.resolve_left older.not_gt
          · intro decides
            rcases lt_or_gt_of_ne distinct with older | older
            · exact .inl older
            · exact .inr ((decides 0 0 (le_refl _)).mpr older)

theorem convergent_iff_resolvable
    (governed : projection.Governed key events) :
    projection.Convergent key events ↔ projection.Resolvable events := by
  rw [convergent_iff_converges governed,
    converges_iff (revision_injective governed)
      (fun event _ clock later => projection.content_cast event.update _ _)]
  have pairs : ∀ first second,
      Meets (originStreams Update) projection.revision events first second →
        projection.revision first ≠ projection.revision second := by
    intro first second meets same
    exact meets.distinct (revision_injective governed first meets.first_mem
      second meets.second_mem same)
  constructor
  · intro decides first second meets
    exact (resolves_iff (pairs first second meets)).mpr
      (decides first second meets)
  · intro resolvable first second meets
    exact (resolves_iff (pairs first second meets)).mp
      (resolvable first second meets)

end RemoteProjection

open RemoteProjection

/-- The five projections converge exactly on the sets of events that their
timestamps resolve. -/
theorem remoteProjections_convergent_iff (presenceTtlSeconds : Int) :
    (∀ key events, membershipProjection.Governed key events →
      (membershipProjection.Convergent key events ↔
        membershipProjection.Resolvable events)) ∧
    (∀ key events, inviteProjection.Governed key events →
      (inviteProjection.Convergent key events ↔
        inviteProjection.Resolvable events)) ∧
    (∀ key events, extensionProjection.Governed key events →
      (extensionProjection.Convergent key events ↔
        extensionProjection.Resolvable events)) ∧
    (∀ key events,
      (accountPresenceProjection presenceTtlSeconds).Governed key events →
      ((accountPresenceProjection presenceTtlSeconds).Convergent key events ↔
        (accountPresenceProjection presenceTtlSeconds).Resolvable events)) ∧
    (∀ key events,
      (roomPresenceProjection presenceTtlSeconds).Governed key events →
      ((roomPresenceProjection presenceTtlSeconds).Convergent key events ↔
        (roomPresenceProjection presenceTtlSeconds).Resolvable events)) := by
  refine ⟨?_, ?_, ?_, ?_, ?_⟩
  all_goals
    intro key events governed
    exact convergent_iff_resolvable governed

theorem resolvable_singleton
    {Update Key Row : Type} [DecidableEq Key]
    (projection : RemoteProjection Update Key Row)
    (event : GovernedEvent Update) : projection.Resolvable [event] := by
  intro first second meets
  have firstSame := List.mem_singleton.mp meets.first_mem
  have secondSame := List.mem_singleton.mp meets.second_mem
  exact absurd (firstSame.trans secondSame.symm) meets.distinct

theorem governed_singleton
    {Update Key Row : Type} [DecidableEq Key]
    {projection : RemoteProjection Update Key Row}
    {key : Key} {event : GovernedEvent Update}
    (accepted : projection.accepted event.update = true)
    (sameObject : projection.key event.update = key) :
    projection.Governed key [event] :=
  .cons accepted sameObject (by simp) governed_nil

def envelope {Update : Type} (eventId originDomain : String) (sentAt : DateTime)
    (update : Update) : GovernedEvent Update where
  eventId := eventId
  originDomain := originDomain
  streamId := "channel:https://room.example/channels/1"
  sequence := 1
  sentAt := sentAt
  update := update

/-- A membership event of `a.example`, 0.2 seconds after the epoch. -/
def earlyJoin : GovernedEvent MembershipUpdate :=
  envelope "join" "a.example" 200000
    ⟨1, 7, "a.example", "member", "active", none, some 200000, .obj []⟩

/-- The ban of the same actor by `b.example`, within the same second. -/
def lateBan : GovernedEvent MembershipUpdate :=
  envelope "ban" "b.example" 900000
    ⟨1, 7, "b.example", "member", "banned", none, some 900000, .obj []⟩

def laterBan : GovernedEvent MembershipUpdate :=
  envelope "ban" "b.example" 1900000
    ⟨1, 7, "b.example", "member", "banned", none, some 1900000, .obj []⟩

theorem governed_joinAndBan {ban : GovernedEvent MembershipUpdate}
    (accepted : membershipProjection.accepted ban.update = true)
    (sameObject : membershipProjection.key ban.update = (1, 7))
    (banned : ban.eventId = "ban") :
    membershipProjection.Governed (1, 7) [earlyJoin, ban] := by
  apply Governed.cons
  · decide
  · rfl
  · simp [earlyJoin, envelope, banned]
  · exact .cons accepted sameObject (by simp) governed_nil

theorem remoteProjections_convergent_iff_resolved :
    membershipProjection.Convergent (1, 7) [earlyJoin, laterBan] ∧
    inviteProjection.Convergent (1, some "https://a.example/users/ann")
      [envelope "invite" "a.example" 0
        ⟨1, "a.example", .obj [("uri", .str "https://a.example/users/bob")],
          .obj [("uri", .str "https://a.example/users/ann")], "member",
          "pending", none, none, .obj []⟩] ∧
    extensionProjection.Convergent
      ⟨"urn:arblarg:ext:roles:1#role.upsert", "a.example", "role:1"⟩
      [envelope "role" "a.example" 0
        ⟨"urn:arblarg:ext:roles:1#role.upsert", "role:1", .obj [],
          "a.example", none, some 1, some 0, none⟩] ∧
    (accountPresenceProjection 60).Convergent 7
      [envelope "presence" "a.example" 0
        ⟨7, "online", .arr [], some 0, "a.example", none⟩] ∧
    (roomPresenceProjection 60).Convergent (1, 7)
      [envelope "presence" "a.example" 0
        ⟨(1, 7), "online", .arr [], some 0, "a.example", none⟩] := by
  obtain ⟨memberships, invites, extensions, accounts, rooms⟩ :=
    remoteProjections_convergent_iff 60
  refine ⟨?_, ?_, ?_, ?_, ?_⟩
  · apply (memberships _ _ (governed_joinAndBan (by decide) rfl rfl)).mpr
    intro first second meets
    have members := And.intro meets.first_mem meets.second_mem
    simp only [List.mem_cons, List.not_mem_nil, or_false] at members
    rcases members with ⟨rfl | rfl, rfl | rfl⟩
    · exact absurd rfl meets.distinct
    · exact .inl (revision_lt_of_givenAt rfl rfl (by decide))
    · exact .inr (by decide)
    · exact absurd rfl meets.distinct
  · apply (invites _ _ ?_).mpr (resolvable_singleton _ _)
    apply governed_singleton <;> decide
  · apply (extensions _ _ ?_).mpr (resolvable_singleton _ _)
    apply governed_singleton <;> decide
  · apply (accounts _ _ ?_).mpr (resolvable_singleton _ _)
    apply governed_singleton <;> decide
  · apply (rooms _ _ ?_).mpr (resolvable_singleton _ _)
    apply governed_singleton <;> decide

theorem admissible_banThenJoin :
    Admissible (originStreams MembershipUpdate) [earlyJoin, lateBan]
      [(⟨lateBan, 1000000⟩ : Arrival _ DateTime), ⟨earlyJoin, 1000000⟩] := by
  apply Admissible.pair
  · simp
  · simp
  · intro same
    simpa [earlyJoin, lateBan, envelope] using congrArg GovernedEvent.eventId same
  · simp [originStreams, earlyJoin, lateBan, envelope]
  · simp [originStreams, earlyJoin, lateBan, envelope]
  · exact le_refl _

/-- The join is older than the ban and still replaces it when it arrives second. -/
theorem membershipProjection_diverges :
    membershipProjection.Governed (1, 7) [earlyJoin, lateBan] ∧
      (membershipProjection.project
        [⟨lateBan, 1000000⟩, ⟨earlyJoin, 1000000⟩] (1, 7)).map
          FederationMembershipState.state = some "active" ∧
      ¬ membershipProjection.Convergent (1, 7) [earlyJoin, lateBan] := by
  have joined : (membershipProjection.project
      [⟨lateBan, 1000000⟩, ⟨earlyJoin, 1000000⟩] (1, 7)).map
        FederationMembershipState.state = some "active" := rfl
  refine ⟨governed_joinAndBan (by decide) rfl rfl, joined, ?_⟩
  intro convergent
  have older : membershipProjection.revision earlyJoin <
      membershipProjection.revision lateBan :=
    revision_lt_of_givenAt rfl rfl (by decide)
  have row := convergent.greatestRevisionWins _ admissible_banThenJoin
    ⟨lateBan, 1000000⟩ (by simp) (by
      intro other member
      rcases List.mem_cons.mp member with rfl | member
      · exact lt_irrefl _
      · cases List.mem_singleton.mp member
        exact older.not_gt)
  rw [row] at joined
  simp [membershipProjection, membershipSchema, incoming, MembershipUpdate.attrs,
    lateBan, envelope] at joined

end Elektrine.Messaging.Federation
