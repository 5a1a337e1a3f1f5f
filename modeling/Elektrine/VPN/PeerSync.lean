import Elektrine.Library.Runs
import Elektrine.VPN.Quota

/-!
# Peer synchronisation

A VPN node asks for the peers of its server.  Where the cache has none, two queries are run
one after the other, their result is put into the cache, and the node is answered.  A
change of a config writes the row and then deletes the cached peers of its server, or
leaves them.
-/

namespace Elektrine.VPN.PeerSync

open Elektrine.Library

/-- The columns of a config that none of the operations changes; the private key is the
decrypted one. -/
structure ConfigIdentity where
  id : Nat
  userId : Nat
  vpnServerId : Nat
  publicKey : String
  privateKey : Option String
  allocatedIp : String
  cipher : Option String
  port : Option Nat
deriving DecidableEq, Repr

structure ConfigRow where
  identity : ConfigIdentity
  allowedIps : String
  persistentKeepalive : Int
  rateLimitMbps : Int
  usage : UserConfig
deriving DecidableEq, Repr

def ConfigRow.status (row : ConfigRow) : ConfigStatus :=
  row.usage.status

structure ConfigTable where
  rows : List ConfigRow
  unique : (rows.map fun row => row.identity.publicKey).Nodup

structure User where
  banned : Bool
  suspended : Bool
  isAdmin : Bool
  trustLevel : Nat
deriving DecidableEq, Repr

inductive SyncMode where
  | peers
  | clients
deriving DecidableEq, Repr

structure SyncServer where
  id : Nat
  name : String
  mode : SyncMode
  endpointPort : Nat
  internalIpRange : String
  dnsServers : String
  cipher : String
  portRange : String
  minimumTrustLevel : Nat
deriving DecidableEq, Repr

structure Peer where
  publicKey : String
  allocatedIp : String
  allowedIps : String
  persistentKeepalive : Int
  rateLimitMbps : Int
deriving DecidableEq, Repr

structure Client where
  clientId : String
  password : Option String
  cipher : String
  port : Option Nat
  rateLimitMbps : Int
deriving DecidableEq, Repr

inductive Snapshot where
  | wireguard (server : SyncServer) (peers : List Peer) (removePeers : List String)
  | shadowsocks (server : SyncServer) (clients : List Client) (removeClients : List String)
deriving DecidableEq, Repr

def Snapshot.listed : Snapshot → List String
  | .wireguard _ peers _ => peers.map Peer.publicKey
  | .shadowsocks _ clients _ => clients.map Client.clientId

def Snapshot.toRemove : Snapshot → List String
  | .wireguard _ _ removePeers => removePeers
  | .shadowsocks _ _ removeClients => removeClients

section Queries

variable (minimumTrustLevel : Nat)

def requiredTrustLevel (server : SyncServer) : Nat :=
  max server.minimumTrustLevel minimumTrustLevel

def User.passes (required : Nat) (user : User) : Bool :=
  !user.banned && !user.suspended && (user.isAdmin || decide (required ≤ user.trustLevel))

def User.barred (required : Nat) (user : User) : Bool :=
  user.banned || user.suspended || (!user.isAdmin && decide (user.trustLevel < required))

def activeConfigs (users : Nat → Option User) (server : SyncServer) (configs : List ConfigRow) :
    List ConfigRow :=
  configs.filter fun row =>
    decide (row.identity.vpnServerId = server.id) && decide (row.status = .active) &&
      (users row.identity.userId).any (User.passes (requiredTrustLevel minimumTrustLevel server))

def configsToRemove (users : Nat → Option User) (server : SyncServer)
    (configs : List ConfigRow) : List String :=
  (configs.filter fun row =>
    decide (row.identity.vpnServerId = server.id) &&
      (decide (row.status = .suspended ∨ row.status = .revoked) ||
        (users row.identity.userId).any
          (User.barred (requiredTrustLevel minimumTrustLevel server)))).map
    fun row => row.identity.publicKey

end Queries

def ConfigRow.peer (row : ConfigRow) : Peer :=
  { publicKey := row.identity.publicKey
    allocatedIp := row.identity.allocatedIp
    allowedIps := row.allowedIps
    persistentKeepalive := row.persistentKeepalive
    rateLimitMbps := row.rateLimitMbps }

def ConfigRow.client (server : SyncServer) (row : ConfigRow) : Client :=
  { clientId := row.identity.publicKey
    password := row.identity.privateKey
    cipher := row.identity.cipher.getD server.cipher
    port := row.identity.port
    rateLimitMbps := row.rateLimitMbps }

/-- `build_sync_snapshot`, of what the two queries have found. -/
def buildSyncSnapshot (server : SyncServer) (active : List ConfigRow) (remove : List String) :
    Snapshot :=
  match server.mode with
  | .clients => .shadowsocks server (active.map (ConfigRow.client server)) remove
  | .peers => .wireguard server (active.map ConfigRow.peer) remove

def statusText : ConfigStatus → String
  | .active => "active"
  | .suspended => "suspended"
  | .revoked => "revoked"

/-- `validate_inclusion` of the status. -/
def parseStatus (text : String) : Option ConfigStatus :=
  [ConfigStatus.active, .suspended, .revoked].find? fun status =>
    decide (statusText status = text)

inductive KeyForm where
  | atoms
  | strings
deriving DecidableEq, Repr

structure ConfigAttrs where
  keys : KeyForm
  status : Option String
  allowedIps : Option String
  persistentKeepalive : Option Int
  rateLimitMbps : Option Int
deriving DecidableEq, Repr

structure Changes where
  status : Option ConfigStatus
  allowedIps : Option String
  persistentKeepalive : Option Int
  rateLimitMbps : Option Int
deriving DecidableEq, Repr

/-- The changed value that `cast` keeps: one that the loaded config does not have. -/
def changed {α : Type} [DecidableEq α] (loaded : α) (given : Option α) : Option α :=
  given.filter fun value => decide (value ≠ loaded)

/-- `UserConfig.changeset`, where it is valid. -/
def changeset (loaded : ConfigRow) (attrs : ConfigAttrs) : Option Changes :=
  let status := changed (statusText loaded.status) attrs.status
  let keepalive := changed loaded.persistentKeepalive attrs.persistentKeepalive
  let rateLimit := changed loaded.rateLimitMbps attrs.rateLimitMbps
  if (status.all fun text => (parseStatus text).isSome) &&
      (keepalive.all fun value => decide (0 ≤ value)) &&
      (rateLimit.all fun value => decide (0 < value ∧ value ≤ 1000)) then
    some ⟨status.bind parseStatus, changed loaded.allowedIps attrs.allowedIps, keepalive, rateLimit⟩
  else none

def Changes.isEmpty (changes : Changes) : Bool :=
  decide (changes = ⟨none, none, none, none⟩)

def Changes.apply (changes : Changes) (row : ConfigRow) : ConfigRow :=
  { identity := row.identity
    allowedIps := changes.allowedIps.getD row.allowedIps
    persistentKeepalive := changes.persistentKeepalive.getD row.persistentKeepalive
    rateLimitMbps := changes.rateLimitMbps.getD row.rateLimitMbps
    usage := { row.usage with status := changes.status.getD row.usage.status } }

/-- `Map.has_key?(attrs, :status)`. -/
def ConfigAttrs.hasStatusKey (attrs : ConfigAttrs) : Bool :=
  decide (attrs.keys = .atoms) && attrs.status.isSome

/-- A call that has written a row: whether it has made the config inactive or removed it,
whether the config was made active again by a later call, and whether it has returned. -/
structure Operation where
  config : ConfigIdentity
  revokes : Bool
  lifted : Bool
  returned : Bool
deriving DecidableEq, Repr

/-- A snapshot that is being built.  The operations that had returned when it was asked for
are kept with it, and how many had written when the active configs were read. -/
structure Building where
  server : SyncServer
  returned : List Nat
  active : Option (List ConfigRow × Nat)
  toRemove : Option (List String)
deriving DecidableEq, Repr

structure Cached where
  serverId : Nat
  snapshot : Snapshot
deriving DecidableEq, Repr

structure Answer where
  serverId : Nat
  snapshot : Snapshot
  returned : List Nat
deriving DecidableEq, Repr

structure State where
  configs : List ConfigRow
  users : Nat → Option User
  servers : List SyncServer
  cache : List Cached
  building : List Building
  operations : List Operation
  answers : List Answer

def start (table : ConfigTable) (users : Nat → Option User)
    (servers : List SyncServer) : State :=
  { configs := table.rows
    users := users
    servers := servers
    cache := []
    building := []
    operations := []
    answers := [] }

inductive Move where
  /-- `peer_sync_snapshot` that finds the server's peers in the cache. -/
  | hit (serverId : Nat)
  | request (serverId : Nat)
  | readActive (index : Nat)
  | readToRemove (index : Nat)
  | put (index : Nat)
  | updateUserConfig (loaded : ConfigRow) (attrs : ConfigAttrs)
  | checkQuota (loaded : ConfigRow) (peer : PeerStats) (now : Nat) (bannedOrSuspended : Bool)
  | deleteUserConfig (loaded : ConfigRow)
  | invalidate (index : Nat)
  | expire (serverId : Nat)
  | surround (users : Nat → Option User) (servers : List SyncServer)

def State.returned (state : State) : List Nat :=
  (List.range state.operations.length).filter fun index =>
    (state.operations[index]?).any Operation.returned

def dropCached (serverId : Nat) (cache : List Cached) : List Cached :=
  cache.filter fun cached => decide (cached.serverId ≠ serverId)

def State.stored (state : State) (identity : ConfigIdentity) : Bool :=
  state.configs.any fun row => decide (row.identity = identity)

def State.isActive (state : State) (identity : ConfigIdentity) : Bool :=
  state.configs.any fun row => decide (row.identity = identity ∧ row.status = .active)

def writeRow (identity : ConfigIdentity) (write : ConfigRow → ConfigRow)
    (configs : List ConfigRow) : List ConfigRow :=
  configs.map fun row => if row.identity = identity then write row else row

def liftOperations (identity : ConfigIdentity) (operations : List Operation) : List Operation :=
  operations.map fun operation =>
    if operation.config = identity then { operation with lifted := true } else operation

def State.record (state : State) (identity : ConfigIdentity) (configs : List ConfigRow)
    (revokes invalidates : Bool) : State :=
  { state with
    configs := configs
    operations := state.operations ++ [⟨identity, revokes, false, !invalidates⟩] }

def revokesWith (state : State) (identity : ConfigIdentity) (given : Option ConfigStatus) : Bool :=
  state.stored identity && given.any fun status => decide (status ≠ .active)

def State.lift (state : State) (identity : ConfigIdentity) : State :=
  { state with operations := liftOperations identity state.operations }

def State.update (state : State) (loaded : ConfigRow) (attrs : ConfigAttrs)
    (changes : Changes) : State :=
  (if changes.status = some .active then state.lift loaded.identity else state).record
    loaded.identity (writeRow loaded.identity changes.apply state.configs)
    (revokesWith state loaded.identity changes.status) attrs.hasStatusKey

/-- The status that `check_and_update_quota` writes. -/
def quotaStatus (loaded : ConfigRow) (peer : PeerStats) (now : Nat)
    (bannedOrSuspended : Bool) : ConfigStatus :=
  if bannedOrSuspended then .revoked
  else newStatus loaded.usage (quotaUsedBytes loaded.usage peer.counters now)

def quotaInvalidates (loaded : ConfigRow) (peer : PeerStats) (now : Nat)
    (bannedOrSuspended : Bool) : Bool :=
  bannedOrSuspended || decide (quotaStatus loaded peer now bannedOrSuspended ≠ loaded.status)

def State.checkQuota (state : State) (loaded : ConfigRow) (peer : PeerStats) (now : Nat)
    (bannedOrSuspended : Bool) : State :=
  let status := quotaStatus loaded peer now bannedOrSuspended
  let invalidates := quotaInvalidates loaded peer now bannedOrSuspended
  let write := fun row : ConfigRow =>
    { row with usage := checkAndUpdateQuota loaded.usage peer now bannedOrSuspended row.usage }
  state.record loaded.identity (writeRow loaded.identity write state.configs)
    (state.stored loaded.identity && decide (status ≠ .active) &&
      (invalidates || state.isActive loaded.identity))
    invalidates

def State.delete (state : State) (loaded : ConfigRow) : State :=
  state.record loaded.identity
    (state.configs.filter fun row => decide (row.identity ≠ loaded.identity)) true true

def State.invalidate (state : State) (index : Nat) (operation : Operation) : State :=
  { state with
    cache := dropCached operation.config.vpnServerId state.cache
    operations := state.operations.set index { operation with returned := true } }

section Steps

variable (minimumTrustLevel : Nat)

def State.readActive (state : State) (index : Nat) (building : Building) : State :=
  { state with
    building := state.building.set index
      { building with
        active := some (activeConfigs minimumTrustLevel state.users building.server state.configs,
          state.operations.length) } }

def State.readToRemove (state : State) (index : Nat) (building : Building) : State :=
  { state with
    building := state.building.set index
      { building with
        toRemove :=
          some (configsToRemove minimumTrustLevel state.users building.server state.configs) } }

def State.put (state : State) (index : Nat) (building : Building) (snapshot : Snapshot) : State :=
  { state with
    cache := ⟨building.server.id, snapshot⟩ :: dropCached building.server.id state.cache
    building := state.building.eraseIdx index
    answers := state.answers ++ [⟨building.server.id, snapshot, building.returned⟩] }

def step (state : State) : Move → State
  | .hit serverId =>
      match state.cache.find? fun cached => decide (cached.serverId = serverId) with
      | some cached =>
          { state with answers := state.answers ++ [⟨serverId, cached.snapshot, state.returned⟩] }
      | none => state
  | .request serverId =>
      match state.servers.find? fun server => decide (server.id = serverId) with
      | some server =>
          { state with building := state.building ++ [⟨server, state.returned, none, none⟩] }
      | none => state
  | .readActive index =>
      match state.building[index]? with
      | some ⟨server, returned, none, none⟩ =>
          state.readActive minimumTrustLevel index ⟨server, returned, none, none⟩
      | _ => state
  | .readToRemove index =>
      match state.building[index]? with
      | some ⟨server, returned, some active, none⟩ =>
          state.readToRemove minimumTrustLevel index ⟨server, returned, some active, none⟩
      | _ => state
  | .put index =>
      match state.building[index]? with
      | some ⟨server, returned, some (active, seen), some toRemove⟩ =>
          state.put index ⟨server, returned, some (active, seen), some toRemove⟩
            (buildSyncSnapshot server active toRemove)
      | _ => state
  | .updateUserConfig loaded attrs =>
      match changeset loaded attrs with
      | some changes =>
          -- A change of a row that is gone raises; without changes no query is sent.
          if changes.isEmpty || state.stored loaded.identity then state.update loaded attrs changes
          else state
      | none => state
  | .checkQuota loaded peer now bannedOrSuspended =>
      state.checkQuota loaded peer now bannedOrSuspended
  | .deleteUserConfig loaded =>
      if state.stored loaded.identity then state.delete loaded else state
  | .invalidate index =>
      match state.operations[index]? with
      | some operation => state.invalidate index operation
      | none => state
  | .expire serverId => { state with cache := dropCached serverId state.cache }
  | .surround users servers => { state with users := users, servers := servers }

end Steps

/-- A snapshot does not list a config, and the config's own server is told to remove it as
long as it has a row. -/
structure Excludes (configs : List ConfigRow) (serverId : Nat) (snapshot : Snapshot)
    (config : ConfigIdentity) : Prop where
  unlisted : config.publicKey ∉ snapshot.listed
  removed : serverId = config.vpnServerId → (∃ row ∈ configs, row.identity = config) →
    config.publicKey ∈ snapshot.toRemove

/-- A snapshot that was asked for after an operation has returned excludes the config that
the operation has made inactive or removed, unless it was made active again. -/
def RevokedStaysOut (state : State) : Prop :=
  ∀ answer ∈ state.answers, ∀ index ∈ answer.returned, ∀ operation,
    state.operations[index]? = some operation →
    operation.revokes = true → operation.lifted = false →
    Excludes state.configs answer.serverId answer.snapshot operation.config

/-- The condition on a step and the state before it.  A change to an inactive status has
atom keys; a stats report that writes the status it has loaded finds it in the row; and a
snapshot is stored only when every operation that has revoked a config of the server since
the active configs were read has still to invalidate. -/
def Careful (state : State) : Move → Prop
  | .updateUserConfig loaded attrs =>
      ∀ changes, changeset loaded attrs = some changes →
        revokesWith state loaded.identity changes.status = true → attrs.hasStatusKey = true
  | .checkQuota loaded peer now bannedOrSuspended =>
      quotaInvalidates loaded peer now bannedOrSuspended = true ∨
        ∀ row ∈ state.configs, row.identity = loaded.identity → row.status = loaded.status
  | .put index =>
      ∀ server returned active seen toRemove,
        state.building[index]? = some ⟨server, returned, some (active, seen), some toRemove⟩ →
        ∀ later operation, seen ≤ later → state.operations[later]? = some operation →
          operation.revokes = true → operation.lifted = false →
          operation.config.vpnServerId = server.id → operation.returned = false
  | _ => True

end Elektrine.VPN.PeerSync
