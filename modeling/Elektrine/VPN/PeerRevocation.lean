import Elektrine.VPN.PeerSync
import Mathlib.Data.List.Nodup

/-!
# Revoked peers

What has been read before an operation may be stored after it.  Along careful steps, a
snapshot in the cache lists no config whose revoking operation has returned.
-/

namespace Elektrine.VPN.PeerSync

open Elektrine.Library

def ConfigTable.identities (table : ConfigTable) : List ConfigIdentity :=
  table.rows.map ConfigRow.identity

/-- The operation has made its config inactive or removed it, and no later one has lifted
that. -/
def Operation.Binding (operation : Operation) : Prop :=
  operation.revokes = true ∧ operation.lifted = false

/-- The rows come from a larger table. -/
def Shrinks (before after : List ConfigRow) : Prop :=
  ∀ row ∈ after, ∃ old ∈ before, old.identity = row.identity

structure Evolves (before after : List Operation) : Prop where
  length : before.length ≤ after.length
  older : ∀ index operation, index < before.length → after[index]? = some operation →
    ∃ old, before[index]? = some old ∧ old.config = operation.config ∧
      (operation.Binding → old.Binding)

/-- The listed keys are those of configs of the server. -/
def FromServer (table : ConfigTable) (serverId : Nat) (snapshot : Snapshot) : Prop :=
  ∀ key ∈ snapshot.listed, ∃ identity ∈ table.identities,
    identity.publicKey = key ∧ identity.vpnServerId = serverId

/-- The active configs that were read are configs of the server, and none that an operation
before has revoked. -/
structure ActiveRead (table : ConfigTable) (operations : List Operation) (server : SyncServer)
    (active : List ConfigRow) (seen : Nat) : Prop where
  bounded : seen ≤ operations.length
  known : ∀ row ∈ active, row.identity ∈ table.identities ∧ row.identity.vpnServerId = server.id
  apart : ∀ index operation, index < seen → operations[index]? = some operation →
    operation.Binding → ∀ row ∈ active, row.identity ≠ operation.config

/-- The configs of the server that an operation before has revoked are among the keys. -/
def RemovalRead (configs : List ConfigRow) (operations : List Operation) (server : SyncServer)
    (seen : Nat) (keys : List String) : Prop :=
  ∀ index operation, index < seen → operations[index]? = some operation → operation.Binding →
    server.id = operation.config.vpnServerId →
    (∃ row ∈ configs, row.identity = operation.config) → operation.config.publicKey ∈ keys

structure Building.Sound (table : ConfigTable) (configs : List ConfigRow)
    (operations : List Operation) (building : Building) : Prop where
  waiting : building.active = none → ∀ index ∈ building.returned, index < operations.length
  came : ∀ active seen, building.active = some (active, seen) →
    ∀ index ∈ building.returned, index < seen
  active : ∀ active seen, building.active = some (active, seen) →
    ActiveRead table operations building.server active seen
  removal : ∀ active seen keys, building.active = some (active, seen) →
    building.toRemove = some keys → RemovalRead configs operations building.server seen keys

structure Sound (table : ConfigTable) (state : State) : Prop where
  rows : ∀ row ∈ state.configs, row.identity ∈ table.identities
  known : ∀ operation ∈ state.operations, operation.revokes = true →
    operation.config ∈ table.identities
  inactive : ∀ operation ∈ state.operations, operation.Binding →
    ∀ row ∈ state.configs, row.identity = operation.config → row.status ≠ .active
  servers : ∀ cached ∈ state.cache, FromServer table cached.serverId cached.snapshot
  cached : ∀ cached ∈ state.cache, ∀ operation ∈ state.operations, operation.Binding →
    operation.returned = true →
    Excludes state.configs cached.serverId cached.snapshot operation.config
  building : ∀ building ∈ state.building,
    building.Sound table state.configs state.operations
  answered : ∀ answer ∈ state.answers, ∀ index ∈ answer.returned,
    index < state.operations.length ∧ ∀ operation, state.operations[index]? = some operation →
      operation.Binding → Excludes state.configs answer.serverId answer.snapshot operation.config

theorem Sound.revokedStaysOut {table : ConfigTable} {state : State} (sound : Sound table state) :
    RevokedStaysOut state := by
  intro answer given index came operation found revokes unlifted
  exact (sound.answered answer given index came).2 operation found ⟨revokes, unlifted⟩

variable {table : ConfigTable} {state : State}

theorem identity_unique {first second : ConfigIdentity} (one : first ∈ table.identities)
    (other : second ∈ table.identities) (same : first.publicKey = second.publicKey) :
    first = second := by
  obtain ⟨row, stored, rfl⟩ := List.mem_map.mp one
  obtain ⟨rival, kept, rfl⟩ := List.mem_map.mp other
  rw [List.inj_on_of_nodup_map table.unique stored kept same]

theorem evolves_append (operations : List Operation) (new : Operation) :
    Evolves operations (operations ++ [new]) := by
  refine ⟨by simp, ?_⟩
  intro index operation older found
  rw [List.getElem?_append_left older] at found
  exact ⟨operation, found, rfl, id⟩

theorem shrinks_writeRow {identity : ConfigIdentity} {write : ConfigRow → ConfigRow}
    (keeps : ∀ row, (write row).identity = row.identity) (configs : List ConfigRow) :
    Shrinks configs (writeRow identity write configs) := by
  intro row member
  obtain ⟨old, stored, rfl⟩ := List.mem_map.mp member
  refine ⟨old, stored, ?_⟩
  split
  · exact (keeps old).symm
  · rfl

theorem mem_writeRow {identity : ConfigIdentity} {write : ConfigRow → ConfigRow}
    {configs : List ConfigRow} {row : ConfigRow} (member : row ∈ writeRow identity write configs) :
    row ∈ configs ∧ row.identity ≠ identity ∨
      ∃ old ∈ configs, old.identity = identity ∧ row = write old := by
  obtain ⟨old, stored, rfl⟩ := List.mem_map.mp member
  by_cases same : old.identity = identity
  · right
    exact ⟨old, stored, same, if_pos same⟩
  · left
    rw [if_neg same]
    exact ⟨stored, same⟩

theorem Excludes.shrink {before after : List ConfigRow} (shrinks : Shrinks before after)
    {serverId : Nat} {snapshot : Snapshot} {config : ConfigIdentity}
    (excludes : Excludes before serverId snapshot config) :
    Excludes after serverId snapshot config := by
  refine ⟨excludes.unlisted, ?_⟩
  intro own kept
  obtain ⟨row, stored, itself⟩ := kept
  obtain ⟨old, older, same⟩ := shrinks row stored
  exact excludes.removed own ⟨old, older, same.trans itself⟩

theorem Building.Sound.evolve {before after : List ConfigRow} {earlier later : List Operation}
    {building : Building} (shrinks : Shrinks before after) (evolves : Evolves earlier later)
    (sound : building.Sound table before earlier) : building.Sound table after later := by
  refine ⟨?_, sound.came, ?_, ?_⟩
  · intro unread index came
    exact Nat.lt_of_lt_of_le (sound.waiting unread index came) evolves.length
  · intro active seen read
    have old := sound.active active seen read
    refine ⟨Nat.le_trans old.bounded evolves.length, old.known, ?_⟩
    intro index operation early found binding
    obtain ⟨prior, stored, same, bound⟩ :=
      evolves.older index operation (Nat.lt_of_lt_of_le early old.bounded) found
    rw [← same]
    exact old.apart index prior early stored (bound binding)
  · intro active seen keys read removal index operation early found binding own kept
    have bounded := (sound.active active seen read).bounded
    obtain ⟨prior, stored, same, bound⟩ :=
      evolves.older index operation (Nat.lt_of_lt_of_le early bounded) found
    obtain ⟨row, member, itself⟩ := kept
    obtain ⟨old, older, identical⟩ := shrinks row member
    rw [← same] at own itself ⊢
    exact sound.removal active seen keys read removal index prior early stored (bound binding) own
      ⟨old, older, identical.trans itself⟩

theorem Sound.answered_evolve {after : List ConfigRow} {later : List Operation}
    (sound : Sound table state) (shrinks : Shrinks state.configs after)
    (evolves : Evolves state.operations later) {answer : Answer} (given : answer ∈ state.answers)
    {index : Nat} (came : index ∈ answer.returned) :
    index < later.length ∧ ∀ operation, later[index]? = some operation →
      operation.Binding →
      Excludes after answer.serverId answer.snapshot operation.config := by
  obtain ⟨inside, excludes⟩ := sound.answered answer given index came
  refine ⟨Nat.lt_of_lt_of_le inside evolves.length, ?_⟩
  intro operation found binding
  obtain ⟨prior, stored, same, bound⟩ := evolves.older index operation inside found
  rw [← same]
  exact (excludes prior stored (bound binding)).shrink shrinks

theorem Sound.record (sound : Sound table state) {identity : ConfigIdentity}
    {configs : List ConfigRow} {revokes invalidates : Bool}
    (shrinks : Shrinks state.configs configs)
    (kept : ∀ operation ∈ state.operations, operation.Binding →
      ∀ row ∈ configs, row.identity = operation.config → row.status ≠ .active)
    (revoked : revokes = true → identity ∈ table.identities ∧ invalidates = true ∧
      ∀ row ∈ configs, row.identity = identity → row.status ≠ .active) :
    Sound table (state.record identity configs revokes invalidates) := by
  have evolves := evolves_append state.operations ⟨identity, revokes, false, !invalidates⟩
  constructor
  · intro row member
    obtain ⟨old, stored, same⟩ := shrinks row member
    rw [← same]
    exact sound.rows old stored
  · intro operation member itsRevokes
    rcases List.mem_append.mp member with older | new
    · exact sound.known operation older itsRevokes
    · cases List.mem_singleton.mp new
      exact (revoked itsRevokes).1
  · intro operation member binding
    rcases List.mem_append.mp member with older | new
    · exact kept operation older binding
    · cases List.mem_singleton.mp new
      exact (revoked binding.1).2.2
  · exact sound.servers
  · intro cached inCache operation member binding returned
    rcases List.mem_append.mp member with older | new
    · exact (sound.cached cached inCache operation older binding returned).shrink shrinks
    · cases List.mem_singleton.mp new
      rw [(revoked binding.1).2.1] at returned
      cases returned
  · intro building member
    exact (sound.building building member).evolve shrinks evolves
  · intro answer given index came
    exact sound.answered_evolve shrinks evolves given came

theorem mem_liftOperations {identity : ConfigIdentity} {operations : List Operation}
    {operation : Operation} (member : operation ∈ liftOperations identity operations)
    (binding : operation.Binding) :
    operation ∈ operations ∧ operation.config ≠ identity := by
  obtain ⟨old, stored, rfl⟩ := List.mem_map.mp member
  by_cases same : old.config = identity
  · rw [if_pos same] at binding
    cases binding.2
  · rw [if_neg same]
    exact ⟨stored, same⟩

theorem evolves_lift (identity : ConfigIdentity) (operations : List Operation) :
    Evolves operations (liftOperations identity operations) := by
  refine ⟨by simp [liftOperations], ?_⟩
  intro index operation inside found
  rw [liftOperations, List.getElem?_map, Option.map_eq_some_iff] at found
  obtain ⟨old, stored, lifted⟩ := found
  subst lifted
  refine ⟨old, stored, ?_⟩
  split
  · refine ⟨rfl, ?_⟩
    intro binding
    cases binding.2
  · exact ⟨rfl, id⟩

theorem shrinks_refl (configs : List ConfigRow) : Shrinks configs configs :=
  fun row member => ⟨row, member, rfl⟩

theorem Sound.lift (sound : Sound table state) (identity : ConfigIdentity) :
    Sound table (state.lift identity) := by
  have evolves := evolves_lift identity state.operations
  constructor
  · exact sound.rows
  · intro operation member revokes
    obtain ⟨old, stored, rfl⟩ := List.mem_map.mp member
    have same : (if old.config = identity then { old with lifted := true } else old).config =
        old.config ∧ (if old.config = identity then { old with lifted := true } else old).revokes =
        old.revokes := by
      split
      · exact ⟨rfl, rfl⟩
      · exact ⟨rfl, rfl⟩
    rw [same.1]
    rw [same.2] at revokes
    exact sound.known old stored revokes
  · intro operation member binding
    exact sound.inactive operation (mem_liftOperations member binding).1 binding
  · exact sound.servers
  · intro cached inCache operation member binding
    exact sound.cached cached inCache operation (mem_liftOperations member binding).1 binding
  · intro building member
    exact (sound.building building member).evolve (shrinks_refl _) evolves
  · intro answer given index came
    exact sound.answered_evolve (shrinks_refl _) evolves given came

theorem stored_iff {identity : ConfigIdentity} :
    state.stored identity = true ↔ ∃ row ∈ state.configs, row.identity = identity := by
  simp [State.stored]

theorem Sound.stored_known (sound : Sound table state) {identity : ConfigIdentity}
    (stored : state.stored identity = true) : identity ∈ table.identities := by
  obtain ⟨row, member, rfl⟩ := stored_iff.mp stored
  exact sound.rows row member

theorem status_apply {changes : Changes} {row : ConfigRow} :
    (changes.apply row).status = changes.status.getD row.status := rfl

theorem Sound.update (sound : Sound table state) {loaded : ConfigRow} {attrs : ConfigAttrs}
    {changes : Changes}
    (careful : revokesWith state loaded.identity changes.status = true →
      attrs.hasStatusKey = true) : Sound table (state.update loaded attrs changes) := by
  have shrinks : Shrinks state.configs
      (writeRow loaded.identity changes.apply state.configs) := by
    apply shrinks_writeRow
    intro _
    rfl
  have revoked : revokesWith state loaded.identity changes.status = true →
      loaded.identity ∈ table.identities ∧ attrs.hasStatusKey = true ∧
      ∀ row ∈ writeRow loaded.identity changes.apply state.configs,
        row.identity = loaded.identity → row.status ≠ .active := by
    intro revokes
    have itsKey := careful revokes
    rw [revokesWith, Bool.and_eq_true, Option.any_eq_true] at revokes
    obtain ⟨stored, status, given, inactive⟩ := revokes
    refine ⟨sound.stored_known stored, itsKey, ?_⟩
    intro row member itself
    rcases mem_writeRow member with ⟨-, apart⟩ | ⟨old, -, -, rfl⟩
    · exact absurd itself apart
    · rw [status_apply, given, Option.getD_some]
      exact of_decide_eq_true inactive
  rw [State.update]
  by_cases activates : changes.status = some .active
  · rw [if_pos activates]
    refine (sound.lift loaded.identity).record shrinks ?_ revoked
    intro operation member binding row written itself
    obtain ⟨older, apart⟩ := mem_liftOperations member binding
    rcases mem_writeRow written with ⟨old, -⟩ | ⟨old, -, same, rfl⟩
    · exact sound.inactive operation older binding row old itself
    · exact absurd (itself.symm.trans same) apart
  · rw [if_neg activates]
    refine sound.record shrinks ?_ revoked
    intro operation member binding row written itself
    rcases mem_writeRow written with ⟨old, -⟩ | ⟨old, stored, -, rfl⟩
    · exact sound.inactive operation member binding row old itself
    · have inactive := sound.inactive operation member binding old stored itself
      rw [status_apply]
      cases given : changes.status with
      | none => exact inactive
      | some status =>
          intro active
          apply activates
          rw [given]
          exact congrArg some active

theorem checkAndUpdateQuota_status (loaded : ConfigRow) (peer : PeerStats) (now : Nat)
    (bannedOrSuspended : Bool) (row : UserConfig) :
    (checkAndUpdateQuota loaded.usage peer now bannedOrSuspended row).status =
      quotaStatus loaded peer now bannedOrSuspended := by
  cases bannedOrSuspended <;> rfl

theorem quotaStatus_active {loaded : ConfigRow} {peer : PeerStats} {now : Nat}
    {bannedOrSuspended : Bool}
    (active : quotaStatus loaded peer now bannedOrSuspended = .active) :
    bannedOrSuspended = false ∧ loaded.status = .active := by
  cases bannedOrSuspended with
  | true => cases active
  | false =>
      refine ⟨rfl, ?_⟩
      rw [quotaStatus, if_neg (by decide), newStatus] at active
      split at active
      · cases active
      · exact active

theorem Sound.checkQuota (sound : Sound table state) {loaded : ConfigRow} {peer : PeerStats}
    {now : Nat} {bannedOrSuspended : Bool}
    (careful : Careful state (.checkQuota loaded peer now bannedOrSuspended)) :
    Sound table (state.checkQuota loaded peer now bannedOrSuspended) := by
  apply sound.record
  · apply shrinks_writeRow
    intro _
    rfl
  · intro operation member binding row written itself
    rcases mem_writeRow written with ⟨old, -⟩ | ⟨old, stored, same, rfl⟩
    · exact sound.inactive operation member binding row old itself
    · have inactive := sound.inactive operation member binding old stored itself
      intro active
      have given : quotaStatus loaded peer now bannedOrSuspended = .active :=
        (checkAndUpdateQuota_status loaded peer now bannedOrSuspended old.usage).symm.trans active
      obtain ⟨standing, itsStatus⟩ := quotaStatus_active given
      rcases careful with invalidates | current
      · rw [quotaInvalidates, standing, Bool.false_or, ← standing, given, itsStatus] at invalidates
        exact absurd rfl (of_decide_eq_true invalidates)
      · exact inactive ((current old stored same).trans itsStatus)
  · intro revokes
    rw [Bool.and_eq_true, Bool.and_eq_true, Bool.or_eq_true] at revokes
    obtain ⟨⟨stored, inactive⟩, changes⟩ := revokes
    refine ⟨sound.stored_known stored, ?_, ?_⟩
    · rcases changes with invalidates | wasActive
      · exact invalidates
      · rcases careful with invalidates | current
        · exact invalidates
        · obtain ⟨row, member, isActive⟩ := List.any_eq_true.mp wasActive
          obtain ⟨itself, active⟩ := of_decide_eq_true isActive
          have itsStatus := (current row member itself).symm.trans active
          rw [quotaInvalidates, Bool.or_eq_true]
          right
          rw [itsStatus]
          exact inactive
    · intro row member itself
      rcases mem_writeRow member with ⟨-, apart⟩ | ⟨old, -, -, rfl⟩
      · exact absurd itself apart
      · intro active
        have given := (checkAndUpdateQuota_status loaded peer now bannedOrSuspended
          old.usage).symm.trans active
        exact of_decide_eq_true inactive given

theorem Sound.delete (sound : Sound table state) {loaded : ConfigRow}
    (stored : state.stored loaded.identity = true) : Sound table (state.delete loaded) := by
  apply sound.record
  · intro row member
    exact ⟨row, (List.mem_filter.mp member).1, rfl⟩
  · intro operation member binding row kept
    exact sound.inactive operation member binding row (List.mem_filter.mp kept).1
  · intro _
    refine ⟨sound.stored_known stored, rfl, ?_⟩
    intro row kept itself
    exact absurd itself (of_decide_eq_true (List.mem_filter.mp kept).2)

theorem mem_dropCached {serverId : Nat} {cache : List Cached} {cached : Cached} :
    cached ∈ dropCached serverId cache ↔ cached ∈ cache ∧ cached.serverId ≠ serverId := by
  simp [dropCached]

theorem mem_returned {index : Nat} : index ∈ state.returned ↔
    ∃ operation, state.operations[index]? = some operation ∧ operation.returned = true := by
  rw [State.returned, List.mem_filter, Option.any_eq_true]
  constructor
  · intro kept
    exact kept.2
  · intro found
    obtain ⟨operation, stored, done⟩ := found
    have inside := (List.getElem?_eq_some_iff.mp stored).1
    exact ⟨List.mem_range.mpr inside, operation, stored, done⟩

theorem Sound.expire (sound : Sound table state) (serverId : Nat) :
    Sound table { state with cache := dropCached serverId state.cache } :=
  { rows := sound.rows
    known := sound.known
    inactive := sound.inactive
    servers := fun cached member => sound.servers cached (mem_dropCached.mp member).1
    cached := fun cached member => sound.cached cached (mem_dropCached.mp member).1
    building := sound.building
    answered := sound.answered }

theorem Sound.hit (sound : Sound table state) {serverId : Nat} {cached : Cached}
    (found : (state.cache.find? fun cached => decide (cached.serverId = serverId)) =
      some cached) :
    Sound table
      { state with
        answers := state.answers ++ [⟨serverId, cached.snapshot, state.returned⟩] } := by
  refine ⟨sound.rows, sound.known, sound.inactive, sound.servers, sound.cached, sound.building, ?_⟩
  intro answer given index came
  rcases List.mem_append.mp given with older | new
  · exact sound.answered answer older index came
  · cases List.mem_singleton.mp new
    obtain ⟨done, stored, returned⟩ := mem_returned.mp came
    refine ⟨(List.getElem?_eq_some_iff.mp stored).1, ?_⟩
    intro operation itself binding
    cases stored.symm.trans itself
    have itsServer : cached.serverId = serverId := by simpa using List.find?_some found
    rw [← itsServer]
    exact sound.cached cached (List.mem_of_find?_eq_some found) done
      (List.mem_of_getElem? stored) binding returned

theorem Sound.invalidate (sound : Sound table state) {index : Nat} {operation : Operation}
    (found : state.operations[index]? = some operation) :
    Sound table (state.invalidate index operation) := by
  have evolves : Evolves state.operations
      (state.operations.set index { operation with returned := true }) := by
    refine ⟨by simp, ?_⟩
    intro other later inside stored
    by_cases same : index = other
    · subst same
      rw [List.getElem?_set_self inside] at stored
      cases stored
      exact ⟨operation, found, rfl, id⟩
    · rw [List.getElem?_set_ne same] at stored
      exact ⟨later, stored, rfl, id⟩
  -- Every operation is one from before, but that one has returned now.
  have earlier : ∀ later ∈ state.operations.set index { operation with returned := true },
      ∃ old ∈ state.operations, old.config = later.config ∧ old.revokes = later.revokes ∧
        (later.Binding → old.Binding) ∧ (later = old ∨ later.config = operation.config) := by
    intro later member
    rcases List.mem_or_eq_of_mem_set member with old | rfl
    · exact ⟨later, old, rfl, rfl, id, Or.inl rfl⟩
    · exact ⟨operation, List.mem_of_getElem? found, rfl, rfl, id, Or.inr rfl⟩
  constructor
  · exact sound.rows
  · intro later member revokes
    obtain ⟨old, stored, same, itsRevokes, -, -⟩ := earlier later member
    rw [← same]
    exact sound.known old stored (itsRevokes.trans revokes)
  · intro later member binding
    obtain ⟨old, stored, same, -, bound, -⟩ := earlier later member
    rw [← same]
    exact sound.inactive old stored (bound binding)
  · intro cached member
    exact sound.servers cached (mem_dropCached.mp member).1
  · intro cached member later stored binding returned
    obtain ⟨inCache, apart⟩ := mem_dropCached.mp member
    obtain ⟨old, older, same, itsRevokes, bound, which⟩ := earlier later stored
    rcases which with rfl | its
    · exact sound.cached cached inCache later older binding returned
    · refine ⟨?_, fun own => absurd (own.trans (congrArg _ its)) apart⟩
      intro listed
      obtain ⟨identity, known, itsKey, itsServer⟩ := sound.servers cached inCache _ listed
      have config := sound.known old older (itsRevokes.trans binding.1)
      rw [same] at config
      cases identity_unique known config itsKey
      exact apart (itsServer.symm.trans (congrArg _ its))
  · intro building member
    exact (sound.building building member).evolve (shrinks_refl _) evolves
  · intro answer given other came
    exact sound.answered_evolve (shrinks_refl _) evolves given came

theorem mem_buildSyncSnapshot_listed {server : SyncServer} {active : List ConfigRow}
    {toRemove : List String} {key : String} :
    key ∈ (buildSyncSnapshot server active toRemove).listed ↔
      ∃ row ∈ active, row.identity.publicKey = key := by
  cases mode : server.mode with
  | peers => simp [buildSyncSnapshot, mode, Snapshot.listed, ConfigRow.peer]
  | clients => simp [buildSyncSnapshot, mode, Snapshot.listed, ConfigRow.client]

theorem buildSyncSnapshot_toRemove (server : SyncServer) (active : List ConfigRow)
    (toRemove : List String) :
    (buildSyncSnapshot server active toRemove).toRemove = toRemove := by
  cases mode : server.mode with
  | peers => simp [buildSyncSnapshot, mode, Snapshot.toRemove]
  | clients => simp [buildSyncSnapshot, mode, Snapshot.toRemove]

theorem mem_activeConfigs {minimumTrustLevel : Nat} {users : Nat → Option User}
    {server : SyncServer} {configs : List ConfigRow} {row : ConfigRow}
    (member : row ∈ activeConfigs minimumTrustLevel users server configs) :
    row ∈ configs ∧ row.identity.vpnServerId = server.id ∧ row.status = .active := by
  rw [activeConfigs, List.mem_filter, Bool.and_eq_true, Bool.and_eq_true] at member
  exact ⟨member.1, of_decide_eq_true member.2.1.1, of_decide_eq_true member.2.1.2⟩

theorem mem_configsToRemove {minimumTrustLevel : Nat} {users : Nat → Option User}
    {server : SyncServer} {configs : List ConfigRow} {row : ConfigRow} (member : row ∈ configs)
    (itsServer : row.identity.vpnServerId = server.id) (inactive : row.status ≠ .active) :
    row.identity.publicKey ∈ configsToRemove minimumTrustLevel users server configs := by
  apply List.mem_map.mpr
  refine ⟨row, List.mem_filter.mpr ⟨member, ?_⟩, rfl⟩
  have barred : row.status = .suspended ∨ row.status = .revoked := by
    cases status : row.status with
    | active => exact absurd status inactive
    | suspended => exact Or.inl rfl
    | revoked => exact Or.inr rfl
  rw [decide_eq_true itsServer, decide_eq_true barred]
  rfl

theorem Sound.request (sound : Sound table state) (server : SyncServer) :
    Sound table
      { state with
        building := state.building ++ [⟨server, state.returned, none, none⟩] } := by
  refine ⟨sound.rows, sound.known, sound.inactive, sound.servers, sound.cached, ?_,
    sound.answered⟩
  intro building member
  rcases List.mem_append.mp member with older | new
  · exact sound.building building older
  · cases List.mem_singleton.mp new
    refine ⟨?_, nofun, nofun, nofun⟩
    intro _ index came
    obtain ⟨_, stored, -⟩ := mem_returned.mp came
    exact (List.getElem?_eq_some_iff.mp stored).1

theorem Sound.set_building (sound : Sound table state) {index : Nat} {building : Building}
    (next : building.Sound table state.configs state.operations) :
    Sound table { state with building := state.building.set index building } := by
  refine ⟨sound.rows, sound.known, sound.inactive, sound.servers, sound.cached, ?_,
    sound.answered⟩
  intro other member
  rcases List.mem_or_eq_of_mem_set member with older | rfl
  · exact sound.building other older
  · exact next

theorem Sound.readActive (sound : Sound table state) {minimumTrustLevel index : Nat}
    {server : SyncServer} {returned : List Nat}
    (found : state.building[index]? = some ⟨server, returned, none, none⟩) :
    Sound table
      (state.readActive minimumTrustLevel index ⟨server, returned, none, none⟩) := by
  have old := sound.building _ (List.mem_of_getElem? found)
  apply sound.set_building
  refine ⟨nofun, ?_, ?_, ?_⟩
  · intro active seen read index came
    cases read
    exact old.waiting rfl index came
  · intro active seen read
    cases read
    refine ⟨Nat.le_refl _, ?_, ?_⟩
    · intro row member
      obtain ⟨stored, itsServer, -⟩ := mem_activeConfigs member
      exact ⟨sound.rows row stored, itsServer⟩
    · intro index operation _ kept binding row member itself
      obtain ⟨stored, -, active⟩ := mem_activeConfigs member
      exact sound.inactive operation (List.mem_of_getElem? kept) binding row stored itself active
  · intro active seen keys _ removal
    cases removal

theorem Sound.readToRemove (sound : Sound table state) {minimumTrustLevel index : Nat}
    {server : SyncServer} {returned : List Nat} {active : List ConfigRow × Nat}
    (found : state.building[index]? = some ⟨server, returned, some active, none⟩) :
    Sound table
      (state.readToRemove minimumTrustLevel index ⟨server, returned, some active, none⟩) := by
  have old := sound.building _ (List.mem_of_getElem? found)
  apply sound.set_building
  refine ⟨nofun, old.came, old.active, ?_⟩
  intro active seen keys _ removal index operation _ kept binding own stored
  cases removal
  obtain ⟨row, member, itself⟩ := stored
  have inactive :=
    sound.inactive operation (List.mem_of_getElem? kept) binding row member itself
  rw [← itself] at own ⊢
  exact mem_configsToRemove member own.symm inactive

theorem Sound.built (sound : Sound table state) {building : Building}
    (member : building ∈ state.building) {active : List ConfigRow} {seen : Nat}
    {toRemove : List String} (read : building.active = some (active, seen))
    (removal : building.toRemove = some toRemove) {index : Nat} (early : index < seen)
    {operation : Operation} (found : state.operations[index]? = some operation)
    (binding : operation.Binding) :
    Excludes state.configs building.server.id
      (buildSyncSnapshot building.server active toRemove) operation.config := by
  have own := sound.building building member
  have reading := own.active active seen read
  refine ⟨?_, ?_⟩
  · intro listed
    obtain ⟨row, isActive, itsKey⟩ := mem_buildSyncSnapshot_listed.mp listed
    have config := sound.known operation (List.mem_of_getElem? found) binding.1
    have same := identity_unique (reading.known row isActive).1 config itsKey
    exact reading.apart index operation early found binding row isActive same
  · intro itsServer kept
    rw [buildSyncSnapshot_toRemove]
    exact own.removal active seen toRemove read removal index operation early found binding
      itsServer kept

theorem Sound.put (sound : Sound table state) {index : Nat} {server : SyncServer}
    {returned : List Nat} {active : List ConfigRow} {seen : Nat} {toRemove : List String}
    (found : state.building[index]? =
      some ⟨server, returned, some (active, seen), some toRemove⟩)
    (careful : Careful state (.put index)) :
    Sound table (state.put index ⟨server, returned, some (active, seen), some toRemove⟩
      (buildSyncSnapshot server active toRemove)) := by
  have member := List.mem_of_getElem? found
  have own := sound.building _ member
  have reading := own.active active seen rfl
  have origin : FromServer table server.id (buildSyncSnapshot server active toRemove) := by
    intro key listed
    obtain ⟨row, isActive, itsKey⟩ := mem_buildSyncSnapshot_listed.mp listed
    obtain ⟨known, itsServer⟩ := reading.known row isActive
    exact ⟨row.identity, known, itsKey, itsServer⟩
  refine ⟨sound.rows, sound.known, sound.inactive, ?_, ?_, ?_, ?_⟩
  · intro cached inCache
    rcases List.mem_cons.mp inCache with rfl | older
    · exact origin
    · exact sound.servers cached (mem_dropCached.mp older).1
  · intro cached inCache operation performed binding done
    rcases List.mem_cons.mp inCache with rfl | older
    · obtain ⟨position, stored⟩ := List.getElem?_of_mem performed
      by_cases early : position < seen
      · exact sound.built member rfl rfl early stored binding
      · -- A later operation of another server changes nothing here.
        have apart : server.id ≠ operation.config.vpnServerId := by
          intro itsServer
          have waits := careful server returned active seen toRemove found position operation
            (Nat.not_lt.mp early) stored binding.1 binding.2 itsServer.symm
          rw [done] at waits
          cases waits
        refine ⟨?_, fun same => absurd same apart⟩
        intro listed
        obtain ⟨identity, known, itsKey, itsServer⟩ := origin _ listed
        have config := sound.known operation performed binding.1
        cases identity_unique known config itsKey
        exact apart itsServer.symm
    · exact sound.cached cached (mem_dropCached.mp older).1 operation performed binding done
  · intro building kept
    exact sound.building building (List.mem_of_mem_eraseIdx kept)
  · intro answer given position came
    rcases List.mem_append.mp given with older | new
    · exact sound.answered answer older position came
    · cases List.mem_singleton.mp new
      have early := own.came active seen rfl position came
      refine ⟨Nat.lt_of_lt_of_le early reading.bounded, ?_⟩
      intro operation stored binding
      exact sound.built member rfl rfl early stored binding

theorem sound_start (table : ConfigTable) (users : Nat → Option User)
    (servers : List SyncServer) : Sound table (start table users servers) where
  rows := fun _ member => List.mem_map_of_mem member
  known := List.forall_mem_nil _
  inactive := List.forall_mem_nil _
  servers := List.forall_mem_nil _
  cached := List.forall_mem_nil _
  building := List.forall_mem_nil _
  answered := List.forall_mem_nil _

theorem Sound.step (sound : Sound table state) {minimumTrustLevel : Nat} {move : Move}
    (careful : Careful state move) : Sound table (step minimumTrustLevel state move) := by
  cases move with
  | hit serverId =>
      simp only [PeerSync.step]
      split
      · rename_i cached found
        exact sound.hit found
      · exact sound
  | request serverId =>
      simp only [PeerSync.step]
      split
      · exact sound.request _
      · exact sound
  | readActive index =>
      simp only [PeerSync.step]
      split
      · rename_i found
        exact sound.readActive found
      · exact sound
  | readToRemove index =>
      simp only [PeerSync.step]
      split
      · rename_i found
        exact sound.readToRemove found
      · exact sound
  | put index =>
      simp only [PeerSync.step]
      split
      · rename_i found
        exact sound.put found careful
      · exact sound
  | updateUserConfig loaded attrs =>
      simp only [PeerSync.step]
      split
      · rename_i changes valid
        split
        · exact sound.update (careful changes valid)
        · exact sound
      · exact sound
  | checkQuota loaded peer now bannedOrSuspended => exact sound.checkQuota careful
  | deleteUserConfig loaded =>
      simp only [PeerSync.step]
      split
      · rename_i stored
        exact sound.delete stored
      · exact sound
  | invalidate index =>
      simp only [PeerSync.step]
      split
      · rename_i operation found
        exact sound.invalidate found
      · exact sound
  | expire serverId => exact sound.expire serverId
  | surround users servers =>
      exact ⟨sound.rows, sound.known, sound.inactive, sound.servers, sound.cached,
        sound.building, sound.answered⟩

/-- Along careful steps, no snapshot that is asked for after a revoking operation has
returned lists the config. -/
theorem revokedStaysOut_of_careful {minimumTrustLevel : Nat} {users : Nat → Option User}
    {servers : List SyncServer} {moves : List Move}
    (along : Along (PeerSync.step minimumTrustLevel) Careful (start table users servers) moves) :
    RevokedStaysOut (moves.foldl (PeerSync.step minimumTrustLevel) (start table users servers)) := by
  have sound := along.invariant
    (fun _ _ (sound : Sound table _) careful => sound.step careful)
    (sound_start table users servers)
  exact sound.revokedStaysOut

def configRow : ConfigRow :=
  { identity := ⟨1, 7, 3, "key", none, "10.8.0.2/32", none, none⟩
    allowedIps := "0.0.0.0/0, ::/0"
    persistentKeepalive := 25
    rateLimitMbps := 50
    usage := ⟨.active, none, 0, 0, 10737418240, none, 0⟩ }

def configTable : ConfigTable where
  rows := [configRow]
  unique := by decide

def someUser (_ : Nat) : Option User :=
  some ⟨false, false, false, 2⟩

def someServer : SyncServer :=
  ⟨3, "one", .peers, 51820, "10.8.0.0/24", "1.1.1.1", "", "", 0⟩

def suspending : Move :=
  .updateUserConfig configRow ⟨.atoms, some "suspended", none, none, none⟩

def lateSnapshot : List Move :=
  [.request 3, .readActive 0, .readToRemove 0, suspending, .invalidate 0, .put 0, .hit 3]

/-- The suspended config is still a peer. -/
theorem not_revokedStaysOut_lateSnapshot :
    ¬ RevokedStaysOut (lateSnapshot.foldl (PeerSync.step 0)
      (start configTable someUser [someServer])) := by
  intro staysOut
  have listed : ∃ answer ∈ (lateSnapshot.foldl (PeerSync.step 0)
      (start configTable someUser [someServer])).answers,
      0 ∈ answer.returned ∧ "key" ∈ answer.snapshot.listed := by decide
  obtain ⟨answer, given, came, isPeer⟩ := listed
  have excludes := staysOut answer given 0 came ⟨configRow.identity, true, false, true⟩
    (by decide) rfl rfl
  exact excludes.unlisted isPeer

def freshSnapshot : List Move :=
  [.request 3, .readActive 0, .readToRemove 0, .put 0, suspending, .invalidate 0, .request 3,
    .readActive 0, .readToRemove 0, .put 0, .hit 3]

theorem revokedStaysOut_freshSnapshot :
    RevokedStaysOut (freshSnapshot.foldl (PeerSync.step 0)
      (start configTable someUser [someServer])) := by
  have unchanged : ∀ state : State, state.operations = [] → Careful state (.put 0) := by
    intro state none server returned active seen toRemove _ later operation _ stored
    rw [none] at stored
    cases stored
  apply revokedStaysOut_of_careful
  refine .cons trivial (.cons trivial (.cons trivial (.cons (unchanged _ rfl) (.cons ?suspends
    (.cons trivial (.cons trivial (.cons trivial (.cons trivial (.cons ?stores (.cons trivial
      (.nil _ _ _)))))))))))
  case suspends =>
    intro changes _ _
    rfl
  case stores =>
    intro server returned active seen toRemove found later operation unseen stored
    cases found
    have beyond := List.getElem?_eq_none unseen
    cases beyond.symm.trans stored

end Elektrine.VPN.PeerSync
