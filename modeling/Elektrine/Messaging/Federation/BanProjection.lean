import Mathlib.Data.List.Induction
import Elektrine.Messaging.Federation.GovernanceEffects

/-!
# The order of bans

The ban of a local user is a row that every active ban overwrites and that a
lift deletes when it names the row's own origin domain.  Timestamps play no part,
so it is the arrival that decides.  The row left by a sequence of bans and lifts
is described first, for arbitrary sequences, and then compared with what the
newest event asks for.
-/

namespace Elektrine.Messaging.Federation

open Elektrine.Library
open MirrorEvents

inductive BanChange where
  | ban (row : CommunityBan)
  | lift (originDomain : String)

namespace BanChange

def projection : BanChange → Option CommunityBan
  | .ban row => some row
  | .lift _ => none

def apply (stored : Option CommunityBan) (change : BanChange) :
    Option CommunityBan :=
  match change with
  | .ban row => some row
  | .lift originDomain =>
      stored.filter fun row => row.originDomain ≠ some originDomain

def isLift : BanChange → Bool
  | .ban _ => false
  | .lift _ => true

def lifts (row : CommunityBan) : BanChange → Prop
  | .ban _ => False
  | .lift originDomain => row.originDomain = some originDomain

/-- The row is the one of the last ban, and nothing behind it lifts it. -/
def StandsLast (row : CommunityBan) (changes : List BanChange) : Prop :=
  ∃ front back, changes = front ++ .ban row :: back ∧
    ∀ change ∈ back, change.isLift = true ∧ ¬ change.lifts row

/-- There is no ban, or a lift behind the last one lifts it. -/
def LiftedLast (changes : List BanChange) : Prop :=
  (∀ change ∈ changes, change.isLift = true) ∨
    ∃ front row back, changes = front ++ .ban row :: back ∧
      (∀ change ∈ back, change.isLift = true) ∧
      ∃ change ∈ back, change.lifts row

def after (changes : List BanChange) : Option CommunityBan :=
  changes.foldl apply none

@[simp] theorem after_nil : after [] = none := rfl

@[simp] theorem after_concat (front : List BanChange) (change : BanChange) :
    after (front ++ [change]) = apply (after front) change := by
  simp [after]

theorem standsLast_concat_ban {row other : CommunityBan}
    {front : List BanChange} :
    StandsLast row (front ++ [.ban other]) ↔ other = row := by
  constructor
  · intro stands
    obtain ⟨start, back, split, lifted⟩ := stands
    rcases List.eq_nil_or_concat' back with rfl | ⟨body, last, rfl⟩
    · obtain ⟨-, same⟩ := List.append_inj' split rfl
      simpa using same
    · rw [← List.cons_append, ← List.append_assoc] at split
      obtain ⟨-, same⟩ := List.append_inj' split rfl
      have isLift := (lifted last (by simp)).1
      rw [← List.singleton_inj.mp same] at isLift
      exact absurd isLift Bool.false_ne_true
  · intro same
    subst same
    exact ⟨front, [], rfl, by simp⟩

theorem standsLast_concat_lift {row : CommunityBan} {originDomain : String}
    {front : List BanChange} :
    StandsLast row (front ++ [.lift originDomain]) ↔
      StandsLast row front ∧ row.originDomain ≠ some originDomain := by
  constructor
  · intro stands
    obtain ⟨start, back, split, lifted⟩ := stands
    rcases List.eq_nil_or_concat' back with rfl | ⟨body, last, rfl⟩
    · obtain ⟨-, same⟩ := List.append_inj' split rfl
      simp at same
    · rw [← List.cons_append, ← List.append_assoc] at split
      obtain ⟨frontSplit, same⟩ := List.append_inj' split rfl
      have kept := (lifted last (by simp)).2
      rw [← List.singleton_inj.mp same] at kept
      exact ⟨⟨start, body, frontSplit, fun change member =>
        lifted change (List.mem_append_left _ member)⟩, kept⟩
  · intro stands
    obtain ⟨⟨start, back, split, lifted⟩, kept⟩ := stands
    refine ⟨start, back ++ [.lift originDomain], by simp [split], ?_⟩
    intro change member
    rcases List.mem_append.mp member with member | member
    · exact lifted change member
    · cases List.mem_singleton.mp member
      exact ⟨rfl, kept⟩

theorem after_eq_some_iff {changes : List BanChange} {row : CommunityBan} :
    after changes = some row ↔ StandsLast row changes := by
  induction changes using List.reverseRecOn with
  | nil =>
      constructor
      · intro left
        simp at left
      · intro stands
        obtain ⟨front, back, split, -⟩ := stands
        simp at split
  | append_singleton front change ih =>
      rw [after_concat]
      cases change with
      | ban other =>
          rw [standsLast_concat_ban]
          simp [apply]
      | lift originDomain =>
          rw [standsLast_concat_lift, ← ih]
          simp [apply, Option.filter_eq_some_iff]

theorem not_liftedLast_concat_ban {row : CommunityBan}
    {front : List BanChange} :
    ¬ LiftedLast (front ++ [.ban row]) := by
  intro lifted
  rcases lifted with none | ⟨start, last, back, split, isLift, lifting⟩
  · exact absurd (none (.ban row) (by simp)) Bool.false_ne_true
  · rcases List.eq_nil_or_concat' back with rfl | ⟨body, final, rfl⟩
    · obtain ⟨change, member, -⟩ := lifting
      simp at member
    · rw [← List.cons_append, ← List.append_assoc] at split
      obtain ⟨-, same⟩ := List.append_inj' split rfl
      have lift := isLift final (by simp)
      rw [← List.singleton_inj.mp same] at lift
      exact absurd lift Bool.false_ne_true

theorem liftedLast_concat_lift {originDomain : String}
    {front : List BanChange} :
    LiftedLast (front ++ [.lift originDomain]) ↔
      LiftedLast front ∨
        ∃ row, StandsLast row front ∧ row.originDomain = some originDomain := by
  constructor
  · intro lifted
    rcases lifted with none | ⟨start, row, back, split, isLift, lifting⟩
    · exact .inl (.inl fun change member =>
        none change (List.mem_append_left _ member))
    · rcases List.eq_nil_or_concat' back with rfl | ⟨body, final, rfl⟩
      · obtain ⟨change, member, -⟩ := lifting
        simp at member
      · rw [← List.cons_append, ← List.append_assoc] at split
        obtain ⟨frontSplit, same⟩ := List.append_inj' split rfl
        have bodyLifts : ∀ change ∈ body, change.isLift = true :=
          fun change member => isLift change (List.mem_append_left _ member)
        by_cases earlier : ∃ change ∈ body, change.lifts row
        · exact .inl (.inr ⟨start, row, body, frontSplit, bodyLifts, earlier⟩)
        · obtain ⟨change, member, lifts⟩ := lifting
          rcases List.mem_append.mp member with member | member
          · exact absurd ⟨change, member, lifts⟩ earlier
          · rw [List.mem_singleton.mp member, ← List.singleton_inj.mp same]
              at lifts
            refine .inr ⟨row, ⟨start, body, frontSplit, ?_⟩, lifts⟩
            intro other there
            exact ⟨bodyLifts other there,
              fun lifted => earlier ⟨other, there, lifted⟩⟩
  · intro lifted
    rcases lifted with (none | ⟨start, row, back, split, isLift, lifting⟩) |
      ⟨row, ⟨start, back, split, stands⟩, same⟩
    · refine .inl ?_
      intro change member
      rcases List.mem_append.mp member with member | member
      · exact none change member
      · cases List.mem_singleton.mp member
        rfl
    · obtain ⟨change, member, lifts⟩ := lifting
      refine .inr ⟨start, row, back ++ [.lift originDomain], by simp [split], ?_,
        change, List.mem_append_left _ member, lifts⟩
      intro other there
      rcases List.mem_append.mp there with there | there
      · exact isLift other there
      · cases List.mem_singleton.mp there
        rfl
    · refine .inr ⟨start, row, back ++ [.lift originDomain], by simp [split], ?_,
        .lift originDomain, by simp, same⟩
      intro other there
      rcases List.mem_append.mp there with there | there
      · exact (stands other there).1
      · cases List.mem_singleton.mp there
        rfl

theorem after_eq_none_iff {changes : List BanChange} :
    after changes = none ↔ LiftedLast changes := by
  induction changes using List.reverseRecOn with
  | nil => exact iff_of_true rfl (.inl (by simp))
  | append_singleton front change ih =>
      rw [after_concat]
      cases change with
      | ban row => exact iff_of_false (by simp [apply]) not_liftedLast_concat_ban
      | lift originDomain =>
          rw [liftedLast_concat_lift, ← ih]
          simp only [apply, ← after_eq_some_iff]
          cases stored : after front with
          | none => simp
          | some row => simp [Option.filter]

def Decides (changes : List BanChange) : BanChange → Prop
  | .ban row => StandsLast row changes
  | .lift _ => LiftedLast changes

theorem after_eq_projection_iff {changes : List BanChange}
    {change : BanChange} :
    after changes = change.projection ↔ Decides changes change := by
  cases change with
  | ban row => exact after_eq_some_iff
  | lift originDomain => exact after_eq_none_iff

end BanChange

section Runs

variable {Local : Type} (context : MirrorEventsContext Local)
  (channel : ChatConversation) (localUser : Int)

/-- A step of a run of accepted events. -/
def Accepts (before : RoomStore Local) (event : GovernanceEvent)
    (after : RoomStore Local) : Prop :=
  StoreAction.Returns (applyEvent context event) before ⟨⟩ after

def Accepted (before : RoomStore Local) (event : GovernanceEvent) : Bool :=
  ((applyEvent context event).perform before).1.isOk

structure BanOf (event : GovernanceEvent) : Prop where
  isBan : event.eventType = .banUpsert
  room : ∃ server, context.resolveChannelEventContext event.data
    event.remoteDomain = .ok (server, channel)
  target : resolveLocalUserFromActorPayload context
    (event.data.getIn ["ban", "target"]) = some localUser

def banUpdatedAt (event : GovernanceEvent) : DateTime :=
  (parseDatetime (event.data.getIn ["ban", "updated_at"])).getD event.receivedAt

def banChange (event : GovernanceEvent) : BanChange :=
  let ban := event.data.get "ban"
  if (ban.get "state").asString? = some "active" then
    .ban (communityBanOf context event.receivedAt channel localUser ban
      ((castText (ban.get "reason")).getD none))
  else
    .lift (MirrorEvents.actorOriginDomain context (getActorPayload ban))

/-- The newest of the events by `updated_at`. -/
def NewestBan (events : List GovernanceEvent) (newest : GovernanceEvent) : Prop :=
  newest ∈ events ∧
    ∀ event ∈ events, event ≠ newest → banUpdatedAt event < banUpdatedAt newest

def ProjectsNewest (events : List GovernanceEvent) (store : RoomStore Local) :
    Prop :=
  ∀ newest, NewestBan events newest →
    store.communityBans (channel.id, localUser) =
      (banChange context channel localUser newest).projection

/-- The changes of the row in the order of arrival; a row that is there at the
beginning counts as the first one. -/
def arrivedChanges (start : RoomStore Local) (events : List GovernanceEvent) :
    List BanChange :=
  (start.communityBans (channel.id, localUser)).toList.map .ban ++
    events.map (banChange context channel localUser)

def NewestDecides (start : RoomStore Local) (events : List GovernanceEvent) :
    Prop :=
  ∀ newest, NewestBan events newest →
    BanChange.Decides (arrivedChanges context channel localUser start events)
      (banChange context channel localUser newest)

variable {context channel localUser}

theorem accepts_receive {before : RoomStore Local} {event : GovernanceEvent}
    (accepted : Accepted context before event = true) :
    Accepts context before event (receive context before event) := by
  unfold Accepted at accepted
  unfold Accepts StoreAction.Returns
  rw [receive, StoreAction.perform_transaction]
  rcases outcome : (applyEvent context event).perform before with
    ⟨reason | ⟨⟩, after⟩
  · rw [outcome] at accepted
    exact absurd accepted Bool.false_ne_true
  · rfl

theorem deleteLocalBan_own {bans : Table (Int × Int) CommunityBan}
    {conversationId : Int} {originDomain : String} :
    deleteLocalBan bans conversationId localUser originDomain
        (conversationId, localUser) =
      BanChange.apply (bans (conversationId, localUser)) (.lift originDomain) := by
  cases stored : bans (conversationId, localUser) with
  | none => simp [deleteLocalBan, stored, BanChange.apply]
  | some row =>
      by_cases same : row.originDomain = some originDomain
      · simp [deleteLocalBan, stored, BanChange.apply, same, Option.filter]
      · simp [deleteLocalBan, stored, BanChange.apply, same, Option.filter]

theorem communityBan_of_accepts {before after : RoomStore Local}
    {event : GovernanceEvent} (accepted : Accepts context before event after)
    (about : BanOf context channel localUser event) :
    after.communityBans (channel.id, localUser) =
      BanChange.apply (before.communityBans (channel.id, localUser))
        (banChange context channel localUser event) := by
  obtain ⟨isBan, ⟨server, resolved⟩, target⟩ := about
  simp only [Accepts, applyEvent, isBan] at accepted
  obtain ⟨state, author, -, stateGiven, -, -, projected⟩ :=
    (returns_applyBanUpsert_iff resolved).mp accepted
  have given : ((event.data.get "ban").get "state").asString? = some state :=
    Json.asString?_eq_some_iff.mpr stateGiven
  rcases localBan_effect ((returns_localBan_iff target).mp projected) with
    ⟨rfl, reason, localMembers, cast, -, written⟩ | ⟨rfl, written⟩
  · rw [written, banChange, if_pos given, cast]
    simp [BanChange.apply]
  · have notActive : ¬ ((event.data.get "ban").get "state").asString? =
        some "active" := by
      rw [given]
      simp
    rw [written, banChange, if_neg notActive]
    exact deleteLocalBan_own

theorem communityBan_of_run {start last : RoomStore Local}
    {events : List GovernanceEvent}
    (run : Run (Accepts context) start events last)
    (about : ∀ event ∈ events, BanOf context channel localUser event) :
    last.communityBans (channel.id, localUser) =
      (events.map (banChange context channel localUser)).foldl BanChange.apply
        (start.communityBans (channel.id, localUser)) := by
  induction run with
  | nil => rfl
  | cons accepted rest ih =>
      rw [ih fun event member => about event (List.mem_cons_of_mem _ member),
        communityBan_of_accepts accepted (about _ List.mem_cons_self)]
      rfl

/-- For every order of accepted ban events about a local user: the row is the
one of the newest event exactly when the newest event decides by arrival. -/
theorem localBan_projectsNewest_iff
    (context : MirrorEventsContext Local) (channel : ChatConversation)
    (localUser : Int) {start last : RoomStore Local}
    {events : List GovernanceEvent}
    (run : Run (Accepts context) start events last)
    (about : ∀ event ∈ events, BanOf context channel localUser event) :
    ProjectsNewest context channel localUser events last ↔
      NewestDecides context channel localUser start events := by
  have row : last.communityBans (channel.id, localUser) =
      BanChange.after (arrivedChanges context channel localUser start events) := by
    rw [communityBan_of_run run about, arrivedChanges, BanChange.after,
      List.foldl_append]
    cases start.communityBans (channel.id, localUser) <;> rfl
  constructor
  · intro projects newest isNewest
    rw [← BanChange.after_eq_projection_iff, ← row]
    exact projects newest isNewest
  · intro decides newest isNewest
    rw [row]
    exact BanChange.after_eq_projection_iff.mpr (decides newest isNewest)

end Runs

/-- A mirrored room with two remote moderators, of `a.example` and
`b.example`. -/
def moderatedRoom : ChatConversation where
  id := 1
  type := "channel"
  serverId := none
  creatorId := none
  isPublic := true
  approvalModeEnabled := false
  isFederatedMirror := true

def moderatorUri (domain : String) : String :=
  "https://" ++ domain ++ "/users/mod"

def bobUri : String := "https://home.example/users/bob"

def moderatedContext : MirrorEventsContext Unit where
  localDomain := "home.example"
  resolveChannelEventContext _ _ := .ok (⟨true, some "a.example"⟩, moderatedRoom)
  resolveOrCreateRemoteActorId actor _ :=
    match actor.get "domain" with
    | .str "a.example" => .ok 7
    | .str "b.example" => .ok 8
    | _ => .error .invalidEventPayload
  actorUriById actorId :=
    some (moderatorUri (if actorId = 7 then "a.example" else "b.example"))
  extensionEvents _ := []
  localUsernameFromUri uri := if uri = bobUri then some "bob" else none
  getUserByUsername username := if username = "bob" then some 3 else none
  ensureLocalMirrorServerMembership _ _ members := members
  addMemberToConversationWithoutFederation _ _ _ := pure .added
  removeLocalBannedMember _ _ := pure ⟨⟩

def moderatorRow (remoteActorId : Int) : FederationMembershipState where
  conversationId := 1
  remoteActorId := remoteActorId
  originDomain := "a.example"
  role := "moderator"
  state := "active"
  joinedAtRemote := none
  updatedAtRemote := 0
  metadata := .obj []

def moderatedStore : RoomStore Unit where
  memberships key :=
    if key.1 = 1 ∧ (key.2 = 7 ∨ key.2 = 8) then some (moderatorRow key.2)
    else none
  invites _ := none
  communityBans _ := none
  joinDecisions := []
  localMembers := ()

def banOfBob (domain state updatedAt : String) : GovernanceEvent where
  eventType := .banUpsert
  data := .obj [("ban", .obj [
    ("actor", .obj [("uri", .str (moderatorUri domain)),
      ("domain", .str domain)]),
    ("target", .obj [("uri", .str bobUri)]), ("state", .str state),
    ("banned_at", .str updatedAt), ("updated_at", .str updatedAt)])]
  remoteDomain := domain
  receivedAt := 0

theorem banOf_banOfBob (domain state updatedAt : String) :
    BanOf moderatedContext moderatedRoom 3 (banOfBob domain state updatedAt) :=
  ⟨rfl, ⟨_, rfl⟩, rfl⟩

theorem NewestBan.unique {events : List GovernanceEvent}
    {first second : GovernanceEvent} (left : NewestBan events first)
    (right : NewestBan events second) : first = second := by
  by_contra different
  have forward := right.2 first left.1 different
  have backward := left.2 second right.1 (Ne.symm different)
  exact absurd (Int.lt_trans forward backward) (Int.lt_irrefl _)

theorem newestBan_pair {first second : GovernanceEvent}
    (older : banUpdatedAt first < banUpdatedAt second) :
    NewestBan [first, second] second := by
  refine ⟨by simp, ?_⟩
  intro event member different
  rcases List.mem_cons.mp member with rfl | member
  · exact older
  · exact absurd (List.mem_singleton.mp member) different

/-- Bans of bob by the moderator of `a.example`, in the order of arrival. -/
def firstBan : GovernanceEvent :=
  banOfBob "a.example" "active" "2026-01-01T00:00:00Z"

def delayedBan : GovernanceEvent :=
  banOfBob "a.example" "active" "2026-01-01T00:01:00Z"

def ownLift : GovernanceEvent :=
  banOfBob "a.example" "lifted" "2026-01-01T00:02:00Z"

def foreignLift : GovernanceEvent :=
  banOfBob "b.example" "lifted" "2026-01-01T00:02:00Z"

theorem localBan_projectsNewest_iff_lifted :
    (receive moderatedContext (receive moderatedContext moderatedStore firstBan)
      ownLift).communityBans (1, 3) = none := by
  have run : Run (Accepts moderatedContext) moderatedStore [firstBan, ownLift]
      (receive moderatedContext
        (receive moderatedContext moderatedStore firstBan) ownLift) :=
    .cons (accepts_receive (by decide))
      (.cons (accepts_receive (by decide)) (.nil _))
  have newest : NewestBan [firstBan, ownLift] ownLift :=
    newestBan_pair (by decide)
  have projects := (localBan_projectsNewest_iff moderatedContext moderatedRoom 3
    run ?_).mpr ?_
  · exact projects _ newest
  · intro event member
    simp only [List.mem_cons, List.not_mem_nil, or_false] at member
    rcases member with rfl | rfl <;> exact banOf_banOfBob _ _ _
  · intro other isNewest
    rw [isNewest.unique newest]
    refine .inr ⟨[], _, [.lift "a.example"], rfl, ?_, .lift "a.example",
      List.mem_cons_self, rfl⟩
    intro change member
    cases List.mem_singleton.mp member
    rfl

/-- The row of bob survives the lift of the other moderator, and comes back with
a ban that is older than the lift. -/
theorem localBan_not_projectsNewest :
    (∃ last, Run (Accepts moderatedContext) moderatedStore
        [firstBan, ownLift, delayedBan] last ∧
      ¬ ProjectsNewest moderatedContext moderatedRoom 3
        [firstBan, ownLift, delayedBan] last) ∧
    ∃ last, Run (Accepts moderatedContext) moderatedStore
        [firstBan, foreignLift] last ∧
      ¬ ProjectsNewest moderatedContext moderatedRoom 3
        [firstBan, foreignLift] last := by
  refine ⟨⟨_, .cons (accepts_receive (by decide))
      (.cons (accepts_receive (by decide))
        (.cons (accepts_receive (by decide)) (.nil _))), ?_⟩,
    ⟨_, .cons (accepts_receive (by decide))
      (.cons (accepts_receive (by decide)) (.nil _)), ?_⟩⟩
  · intro projects
    have newest : NewestBan [firstBan, ownLift, delayedBan] ownLift := by
      refine ⟨by simp, ?_⟩
      simp only [List.mem_cons, List.not_mem_nil, or_false]
      intro event member different
      rcases member with rfl | rfl | rfl
      · exact (by decide :
          banUpdatedAt firstBan < banUpdatedAt ownLift)
      · exact absurd rfl different
      · exact (by decide :
          banUpdatedAt delayedBan < banUpdatedAt ownLift)
    have lifted := congrArg Option.isSome (projects ownLift newest)
    have banned : ((receive moderatedContext
        (receive moderatedContext
          (receive moderatedContext moderatedStore firstBan) ownLift)
        delayedBan).communityBans (1, 3)).isSome = true := by
      decide
    exact Bool.false_ne_true (lifted.symm.trans banned)
  · intro projects
    have newest : NewestBan [firstBan, foreignLift] foreignLift :=
      newestBan_pair (by decide)
    have lifted := congrArg Option.isSome (projects foreignLift newest)
    have banned : ((receive moderatedContext
        (receive moderatedContext moderatedStore firstBan)
        foreignLift).communityBans (1, 3)).isSome = true := by
      decide
    exact Bool.false_ne_true (lifted.symm.trans banned)

end Elektrine.Messaging.Federation
