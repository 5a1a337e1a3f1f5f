import Elektrine.Messaging.Federation.Ingress
import Elektrine.Messaging.Federation.Snapshots

/-!
# Which positions a snapshot moves

An import raises the positions its entries name and touches no other row.  The
entries choose their own origin domain, so whether a position outside the
authority of the sender moves depends on the entries alone.
-/

namespace Elektrine.Messaging.Federation

open Elektrine.Library

variable {Projections Server ChannelMap : Type}

def raisePosition (positions : StreamPositions) (entry : SnapshotPosition) :
    StreamPositions :=
  if entry.lastSequence > lastSequence positions entry.key then
    Function.update positions entry.key (some entry.lastSequence)
  else
    positions

def snapshotPositions (payload : Json) (remoteDomain : String) :
    List SnapshotPosition :=
  (snapshotEntries payload "stream_positions").filterMap
    (readSnapshotPosition remoteDomain)

theorem raisePosition_other {positions : StreamPositions}
    {entry : SnapshotPosition} {key : StreamKey} (different : entry.key ≠ key) :
    raisePosition positions entry key = positions key := by
  unfold raisePosition
  split
  · exact Function.update_of_ne (Ne.symm different) ..
  · rfl

theorem raisePosition_kept {positions : StreamPositions}
    {entry : SnapshotPosition}
    (reached : entry.lastSequence ≤ lastSequence positions entry.key) :
    raisePosition positions entry = positions := by
  unfold raisePosition
  rw [if_neg (by omega)]

theorem raisePosition_raised {positions : StreamPositions}
    {entry : SnapshotPosition}
    (above : lastSequence positions entry.key < entry.lastSequence) :
    raisePosition positions entry entry.key = some entry.lastSequence := by
  unfold raisePosition
  rw [if_pos above]
  exact Function.update_self ..

theorem le_lastSequence_raisePosition (positions : StreamPositions)
    (entry : SnapshotPosition) (key : StreamKey) :
    lastSequence positions key ≤
      lastSequence (raisePosition positions entry) key := by
  by_cases same : entry.key = key
  · subst same
    by_cases reached : entry.lastSequence ≤ lastSequence positions entry.key
    · exact Int.le_of_eq (by rw [raisePosition_kept reached])
    · have above := Int.not_le.mp reached
      have raised : lastSequence (raisePosition positions entry) entry.key =
          entry.lastSequence := by
        simp [lastSequence, raisePosition_raised above]
      omega
  · simp [lastSequence, raisePosition_other same]

theorem le_lastSequence_foldl (entries : List SnapshotPosition)
    (positions : StreamPositions) (key : StreamKey) :
    lastSequence positions key ≤
      lastSequence (entries.foldl raisePosition positions) key := by
  induction entries generalizing positions with
  | nil => exact Int.le_refl _
  | cons entry rest ih =>
      exact Int.le_trans (le_lastSequence_raisePosition positions entry key)
        (ih _)

theorem foldl_raisePosition_unchanged_iff (entries : List SnapshotPosition)
    (positions : StreamPositions) (key : StreamKey) :
    entries.foldl raisePosition positions key = positions key ↔
      ∀ entry ∈ entries, entry.key = key →
        entry.lastSequence ≤ lastSequence positions key := by
  induction entries generalizing positions with
  | nil => simp
  | cons entry rest ih =>
      rw [List.foldl_cons]
      constructor
      · intro unchanged
        have reached : entry.key = key →
            entry.lastSequence ≤ lastSequence positions key := by
          intro same
          subst same
          by_contra above
          have raised := raisePosition_raised (Int.not_le.mp above)
          have grown := le_lastSequence_foldl rest
            (raisePosition positions entry) entry.key
          rw [lastSequence, lastSequence, unchanged, raised] at grown
          exact above grown
        intro other member
        rcases List.mem_cons.mp member with equality | later
        · subst equality
          exact reached
        · have first : raisePosition positions entry key = positions key := by
            by_cases same : entry.key = key
            · subst same
              rw [raisePosition_kept (reached rfl)]
            · exact raisePosition_other same
          have kept := (ih (raisePosition positions entry)).mp
            (unchanged.trans first.symm) other later
          rwa [lastSequence, first] at kept
      · intro reached
        have first : raisePosition positions entry key = positions key := by
          by_cases same : entry.key = key
          · have bound := reached entry List.mem_cons_self same
            subst same
            rw [raisePosition_kept bound]
          · exact raisePosition_other same
        rw [(ih (raisePosition positions entry)).mpr ?_, first]
        intro other member same
        rw [lastSequence, first]
        exact reached other (List.mem_cons_of_mem _ member) same

theorem returns_storeSnapshotStreamPositions
    {remoteDomain : String} {positions : List Json} {result : PUnit}
    {before after : Database Projections}
    (stored : StoreAction.Returns
      (storeSnapshotStreamPositions remoteDomain positions) before result after) :
    after = { before with
      streamPositions :=
        (positions.filterMap (readSnapshotPosition remoteDomain)).foldl
          raisePosition before.streamPositions } := by
  induction positions generalizing before with
  | nil => exact (StoreAction.returns_pure_iff.mp stored).2
  | cons position rest ih =>
      rw [storeSnapshotStreamPositions] at stored
      cases read : readSnapshotPosition remoteDomain position with
      | none =>
          rw [read] at stored
          exact (StoreAction.not_returns_fail stored).elim
      | some entry =>
          rw [read] at stored
          simp only [StoreAction.returns_bind_iff,
            StoreAction.returns_query_iff] at stored
          obtain ⟨_, _, ⟨rfl, rfl⟩, stored⟩ := stored
          rw [List.filterMap_cons_some read, List.foldl_cons]
          split at stored
          · rename_i above
            obtain ⟨_, middle, first, stored⟩ :=
              StoreAction.returns_bind_iff.mp stored
            obtain rfl := returns_storeStreamPosition_iff.mp first
            rw [ih stored, raisePosition, if_pos above]
            rfl
          · rename_i reached
            rw [ih stored, raisePosition, if_neg reached]

theorem returns_importServerSnapshot
    {context : SnapshotContext Projections Server ChannelMap} {payload : Json}
    {remoteDomain : String} {server : Server}
    {before after : Database Projections}
    (imported : StoreAction.Returns
      (importServerSnapshot context payload remoteDomain) before server after) :
    validateSnapshotPayload context.validation payload remoteDomain = .ok () ∧
      after.streamPositions =
        (snapshotPositions payload remoteDomain).foldl raisePosition
          before.streamPositions := by
  unfold importServerSnapshot at imported
  split at imported
  · exact (StoreAction.not_returns_fail imported).elim
  · rename_i valid
    refine ⟨valid, ?_⟩
    have body := StoreAction.returns_transaction_iff.mp imported
    obtain ⟨_, sections, first, body⟩ := StoreAction.returns_bind_iff.mp body
    obtain ⟨projections, _, rfl⟩ := StoreAction.returns_focus_iff.mp first
    obtain ⟨_, middle, stored, last⟩ := StoreAction.returns_bind_iff.mp body
    obtain ⟨-, rfl⟩ := StoreAction.returns_pure_iff.mp last
    rw [returns_storeSnapshotStreamPositions stored]
    rfl

theorem importServerSnapshot_fails_unchanged
    {context : SnapshotContext Projections Server ChannelMap} {payload : Json}
    {remoteDomain : String} {reason : Reason}
    {before after : Database Projections}
    (failed : StoreAction.Fails
      (importServerSnapshot context payload remoteDomain) before reason after) :
    after = before := by
  unfold importServerSnapshot at failed
  split at failed
  · exact (StoreAction.fails_fail_iff.mp failed).2
  · exact (StoreAction.fails_transaction_iff.mp failed).1

/-- Whatever the sender of a snapshot is authoritative for, the positions outside
of it stay unchanged exactly when every entry that names one of them carries a
sequence not above the stored one. -/
theorem importServerSnapshot_unchanged_iff
    (context : SnapshotContext Projections Server ChannelMap) (payload : Json)
    (remoteDomain : String) (authority : StreamKey → Prop) (server : Server)
    (before after : Database Projections)
    (imported : StoreAction.Returns
      (importServerSnapshot context payload remoteDomain) before server after) :
    (∀ key, ¬ authority key →
        after.streamPositions key = before.streamPositions key) ↔
      ∀ entry ∈ snapshotPositions payload remoteDomain, ¬ authority entry.key →
        entry.lastSequence ≤ lastSequence before.streamPositions entry.key := by
  have positions := (returns_importServerSnapshot imported).2
  constructor
  · intro unchanged entry member outside
    have kept := unchanged entry.key outside
    rw [positions, foldl_raisePosition_unchanged_iff] at kept
    exact kept entry member rfl
  · intro reached key outside
    rw [positions, foldl_raisePosition_unchanged_iff]
    intro entry member same
    subst same
    exact reached entry member outside

def senderAuthority (remoteDomain : String) (key : StreamKey) : Bool :=
  key.originDomain == remoteDomain ||
    (splitFirst ':' key.streamId).any fun (_, identifier) =>
      originOwnedAbsoluteUri identifier remoteDomain

def quietSnapshotContext : SnapshotContext Nat Unit Unit where
  validation := {
    validateEventPayload := fun _ _ => .ok ()
    incomingPeer := fun domain => some (.obj [("domain", .str domain)])
    incomingVerificationMaterialsForKeyId := fun _ keyId => [.str keyId]
    verifySnapshotSignature := fun _ _ _ => true
    snapshotChannelLimit := 500
    snapshotMessageLimit := 5000
    snapshotGovernanceLimit := 5000 }
  upsertMirrorServer _ _ := pure ()
  upsertMirrorChannels _ _ := pure ()
  upsertMirrorMessages _ _ _ := pure ⟨⟩
  importSnapshotGovernance _ _ _ := pure ⟨⟩
  importSnapshotExtensions _ _ := pure ⟨⟩
  importSnapshotMessageDeletions _ _ := pure ⟨⟩
  importSnapshotReactions _ _ := pure ⟨⟩
  importSnapshotReadCursors _ _ := pure ⟨⟩

def victimStream : StreamKey where
  originDomain := "victim.example"
  streamId := "server:https://victim.example/_arblarg/servers/9"

/-- A snapshot of a server of `evil.example` with one position entry. -/
def evilSnapshot (entry : Json) : Json :=
  .obj [("version", .int 1), ("origin_domain", .str "evil.example"),
    ("server", .obj [("id", .str "https://evil.example/_arblarg/servers/1"),
      ("name", .str "lair")]),
    ("governance", .obj [("memberships", .arr []), ("invites", .arr []),
      ("bans", .arr [])]),
    ("stream_positions", .arr [entry]),
    ("signature", .obj [("algorithm", .str "ed25519"),
      ("key_id", .str "k1"), ("value", .str "c2ln")])]

def positionEntry (key : StreamKey) (sequence : Int) : Json :=
  .obj [("origin_domain", .str key.originDomain),
    ("stream_id", .str key.streamId), ("last_sequence", .int sequence)]

def victimDatabase : Database Nat where
  federationEvents := []
  streamPositions := Function.update (fun _ => none) victimStream (some 4)
  projections := 0

def victimEvent : EventEnvelope where
  protocolVersion := some "1.0"
  eventId := "victim-5"
  idempotencyKey := none
  originDomain := victimStream.originDomain
  eventType := "server.upsert"
  streamId := victimStream.streamId
  sequence := .int 5
  payload := .obj []

def trustingIngressContext : IngressContext Nat where
  validateEventPayload payload remoteDomain :=
    validateStreamOrigin payload.streamId remoteDomain
  applyEvent _ _ _ := StoreAction.write (· + 1)

def afterEvilSnapshot (entry : Json) : Database Nat :=
  ((importServerSnapshot quietSnapshotContext (evilSnapshot entry)
    "evil.example").perform victimDatabase).2

theorem importServerSnapshot_unchanged_old :
    (afterEvilSnapshot (positionEntry victimStream 3)).streamPositions
        victimStream =
      victimDatabase.streamPositions victimStream := by
  refine (importServerSnapshot_unchanged_iff quietSnapshotContext
    (evilSnapshot (positionEntry victimStream 3)) "evil.example"
    (fun key => senderAuthority "evil.example" key) () victimDatabase _
    rfl).mpr ?_ victimStream (by decide)
  decide

/-- An accepted snapshot advances a foreign origin's position on that origin's
own server stream, and the next event of that origin is judged stale. -/
theorem importServerSnapshot_advances_foreign :
    StoreAction.Returns
        (importServerSnapshot quietSnapshotContext
          (evilSnapshot (positionEntry victimStream 1000)) "evil.example")
        victimDatabase ()
        (afterEvilSnapshot (positionEntry victimStream 1000)) ∧
      senderAuthority "evil.example" victimStream = false ∧
      (victimDatabase.streamPositions victimStream,
        (afterEvilSnapshot
          (positionEntry victimStream 1000)).streamPositions victimStream) =
        (some 4, some 1000) ∧
      ∃ last, StoreAction.Returns
        (receiveEvent trustingIngressContext victimEvent "victim.example")
        (afterEvilSnapshot (positionEntry victimStream 1000)) .stale last :=
  ⟨rfl, by decide, by decide, _, rfl⟩

end Elektrine.Messaging.Federation
