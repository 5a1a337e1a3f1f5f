import Elektrine.Messaging.Federation.SnapshotPositions

/-!
# Limits of snapshots

A snapshot is refused where it has too many channels or messages.  Its governance entries are
cut at their limit before they are counted, and whoever builds a snapshot cuts what does not
fit.
-/

namespace Elektrine.Messaging.Federation.SnapshotLimits

open Elektrine.Library

def governanceEntries (governance : Json) : List (String × Json) :=
  if governance.isMap then
    ((listWrap (governance.get "memberships")).map (Prod.mk "membership.upsert") ++
      (listWrap (governance.get "invites")).map (Prod.mk "invite.upsert")) ++
      (listWrap (governance.get "bans")).map (Prod.mk "ban.upsert")
  else
    []

theorem snapshotGovernanceEntries_eq (governance : Json) (limit : Nat) :
    snapshotGovernanceEntries governance limit = (governanceEntries governance).take limit := by
  by_cases map : governance.isMap = true
  · rw [snapshotGovernanceEntries, governanceEntries, if_pos map, if_pos map]
  · rw [snapshotGovernanceEntries, governanceEntries, if_neg map, if_neg map, List.take_nil]

section
variable {Projections Server ChannelMap : Type}
  (applyEvent : String → Json → String → StoreAction Reason Projections PUnit)

def importGovernanceEntries (validation : ValidationContext) (remoteDomain : String)
    (entries : List (String × Json)) : StoreAction Reason Projections PUnit :=
  entries.forM fun entry => do
    StoreAction.lift
      (validateSnapshotGovernancePayload validation entry.1 entry.2 remoteDomain)
    applyEvent entry.1 entry.2 remoteDomain

def importSnapshotGovernance (validation : ValidationContext) (governance : Json)
    (remoteDomain : String) : StoreAction Reason Projections PUnit :=
  if governance.isMap then
    importGovernanceEntries applyEvent validation remoteDomain
      (snapshotGovernanceEntries governance validation.snapshotGovernanceLimit)
  else
    StoreAction.fail .invalidSnapshotGovernance

def importWholeGovernance (validation : ValidationContext) (governance : Json)
    (remoteDomain : String) : StoreAction Reason Projections PUnit :=
  if governance.isMap then
    importGovernanceEntries applyEvent validation remoteDomain (governanceEntries governance)
  else
    StoreAction.fail .invalidSnapshotGovernance

def importing (context : SnapshotContext Projections Server ChannelMap) :
    SnapshotContext Projections Server ChannelMap :=
  { context with
    importSnapshotGovernance := fun _ =>
      importSnapshotGovernance applyEvent context.validation }

def importingWhole (context : SnapshotContext Projections Server ChannelMap) :
    SnapshotContext Projections Server ChannelMap :=
  { context with
    importSnapshotGovernance := fun _ => importWholeGovernance applyEvent context.validation }

end

/-- The payload has more entries than the limits allow. -/
def Exceeds (validation : ValidationContext) (payload : Json) : Prop :=
  validation.snapshotChannelLimit < (snapshotEntries payload "channels").length ∨
    validation.snapshotMessageLimit < (snapshotEntries payload "messages").length ∨
    validation.snapshotGovernanceLimit < (governanceEntries (payload.get "governance")).length

/-- Whatever the projections do, a payload beyond the limits is refused and leaves nothing
behind, and of an accepted one all entries are imported. -/
structure ImportedWhole (validation : ValidationContext) (payload : Json)
    (remoteDomain : String) : Prop where
  refused : Exceeds validation payload →
    ∀ (Projections Server ChannelMap : Type)
      (context : SnapshotContext Projections Server ChannelMap)
      (applyEvent : String → Json → String → StoreAction Reason Projections PUnit),
      context.validation = validation → ∀ before, ∃ reason, StoreAction.Fails
        (importServerSnapshot (importing applyEvent context) payload remoteDomain)
        before reason before
  kept : ∀ (Projections Server ChannelMap : Type)
      (context : SnapshotContext Projections Server ChannelMap)
      (applyEvent : String → Json → String → StoreAction Reason Projections PUnit),
      context.validation = validation → ∀ before server after, StoreAction.Returns
        (importServerSnapshot (importing applyEvent context) payload remoteDomain)
        before server after →
      StoreAction.Returns
        (importServerSnapshot (importingWhole applyEvent context) payload remoteDomain)
        before server after

theorem counts_of_valid {validation : ValidationContext} {payload : Json}
    {remoteDomain : String}
    (valid : validateSnapshotPayload validation payload remoteDomain = .ok ()) :
    (snapshotEntries payload "channels").length ≤ validation.snapshotChannelLimit ∧
      (snapshotEntries payload "messages").length ≤ validation.snapshotMessageLimit := by
  simp only [validateSnapshotPayload, ensure_bind_eq_ok_iff] at valid
  obtain ⟨-, -, -, -, -, -, channels, messages, -⟩ := valid
  exact ⟨of_decide_eq_true channels, of_decide_eq_true messages⟩

/-- Another check refuses the payload: validation, or the store of the positions. -/
def OtherwiseRefused (validation : ValidationContext) (payload : Json)
    (remoteDomain : String) : Prop :=
  validateSnapshotPayload validation payload remoteDomain ≠ .ok () ∨
    ∃ position ∈ snapshotEntries payload "stream_positions",
      readSnapshotPosition remoteDomain position = none

section
variable {Projections Server ChannelMap : Type} {remoteDomain : String}
  {before after : Database Projections}

theorem read_of_stored {positions : List Json} {result : PUnit}
    (stored : StoreAction.Returns
      (storeSnapshotStreamPositions remoteDomain positions) before result after) :
    ∀ position ∈ positions, readSnapshotPosition remoteDomain position ≠ none := by
  induction positions generalizing before with
  | nil => exact fun position member => absurd member List.not_mem_nil
  | cons position rest ih =>
      rw [storeSnapshotStreamPositions] at stored
      cases read : readSnapshotPosition remoteDomain position with
      | none =>
          rw [read] at stored
          exact (StoreAction.not_returns_fail stored).elim
      | some entry =>
          rw [read] at stored
          simp only [StoreAction.returns_bind_iff, StoreAction.returns_query_iff] at stored
          obtain ⟨_, _, ⟨rfl, rfl⟩, stored⟩ := stored
          have others : ∀ other ∈ rest, readSnapshotPosition remoteDomain other ≠ none := by
            split at stored
            · obtain ⟨_, middle, -, stored⟩ := StoreAction.returns_bind_iff.mp stored
              exact ih stored
            · exact ih stored
          refine List.forall_mem_cons.mpr ⟨?_, others⟩
          rw [read]
          exact Option.some_ne_none entry

theorem stored_of_read {positions : List Json}
    (readable : ∀ position ∈ positions, readSnapshotPosition remoteDomain position ≠ none)
    (before : Database Projections) :
    ∃ after, StoreAction.Returns (storeSnapshotStreamPositions remoteDomain positions)
      before ⟨⟩ after := by
  induction positions generalizing before with
  | nil => exact ⟨before, StoreAction.returns_pure_iff.mpr ⟨rfl, rfl⟩⟩
  | cons position rest ih =>
      have others := ih fun other member => readable other (List.mem_cons_of_mem _ member)
      cases read : readSnapshotPosition remoteDomain position with
      | none => exact absurd read (readable position List.mem_cons_self)
      | some entry =>
          rw [storeSnapshotStreamPositions, read]
          simp only [StoreAction.returns_query_bind_iff]
          by_cases above : entry.lastSequence > lastSequence before.streamPositions entry.key
          · obtain ⟨after, stored⟩ := others { before with
              streamPositions := Function.update before.streamPositions
                ⟨entry.key.originDomain, entry.key.streamId⟩ (some entry.lastSequence) }
            refine ⟨after, ?_⟩
            rw [if_pos above]
            exact StoreAction.returns_bind_iff.mpr
              ⟨⟨⟩, _, StoreAction.returns_write_iff.mpr rfl, stored⟩
          · obtain ⟨after, stored⟩ := others before
            refine ⟨after, ?_⟩
            rw [if_neg above]
            exact stored

theorem not_otherwiseRefused_of_returns
    {context : SnapshotContext Projections Server ChannelMap} {payload : Json}
    {server : Server} (imported : StoreAction.Returns
      (importServerSnapshot context payload remoteDomain) before server after) :
    ¬ OtherwiseRefused context.validation payload remoteDomain := by
  have valid := (returns_importServerSnapshot imported).1
  intro refused
  rcases refused with invalid | unread
  · exact invalid valid
  · obtain ⟨position, member, read⟩ := unread
    rw [importServerSnapshot, valid] at imported
    have body := StoreAction.returns_transaction_iff.mp imported
    obtain ⟨_, sections, -, body⟩ := StoreAction.returns_bind_iff.mp body
    obtain ⟨_, middle, stored, -⟩ := StoreAction.returns_bind_iff.mp body
    exact read_of_stored stored position member read

theorem fails_of_otherwiseRefused
    {context : SnapshotContext Projections Server ChannelMap} {payload : Json}
    (refused : OtherwiseRefused context.validation payload remoteDomain)
    (before : Database Projections) : ∃ reason, StoreAction.Fails
      (importServerSnapshot context payload remoteDomain) before reason before := by
  rcases run : StoreAction.perform (importServerSnapshot context payload remoteDomain) before
    with ⟨reason | server, after⟩
  · have unchanged := importServerSnapshot_fails_unchanged
      (show StoreAction.Fails _ before reason after from run)
    rw [unchanged] at run
    exact ⟨reason, run⟩
  · exact absurd refused (not_otherwiseRefused_of_returns
      (show StoreAction.Returns _ before server after from run))

end

theorem forM_eq_ok_iff {α : Type} {check : α → Except Reason Unit} {items : List α} :
    items.forM check = .ok () ↔ ∀ item ∈ items, check item = .ok () := by
  induction items with
  | nil =>
      constructor
      · exact fun done item member => absurd member List.not_mem_nil
      · exact fun all => rfl
  | cons item items ih =>
      change (check item >>= fun _ => items.forM check) = .ok () ↔ _
      rw [bind_eq_ok_iff, List.forall_mem_cons, ← ih]
      constructor
      · intro done
        obtain ⟨⟨⟩, first, others⟩ := done
        exact ⟨first, others⟩
      · intro done
        exact ⟨(), done.1, done.2⟩

theorem entries_of_valid {validation : ValidationContext} {payload : Json}
    {remoteDomain : String}
    (valid : validateSnapshotPayload validation payload remoteDomain = .ok ()) :
    (payload.get "governance").isMap = true ∧
      ∀ entry ∈ snapshotGovernanceEntries (payload.get "governance")
          validation.snapshotGovernanceLimit,
        validateSnapshotGovernancePayload validation entry.1 entry.2 remoteDomain =
          .ok () := by
  simp only [validateSnapshotPayload, ensure_bind_eq_ok_iff] at valid
  obtain ⟨-, -, -, -, governance, -, -, -, -, rest⟩ := valid
  simp only [Bool.and_eq_true] at governance
  obtain ⟨⟨⟩, -, rest⟩ := bind_eq_ok_iff.mp rest
  obtain ⟨⟨⟩, -, rest⟩ := bind_eq_ok_iff.mp rest
  obtain ⟨⟨⟩, -, rest⟩ := bind_eq_ok_iff.mp rest
  obtain ⟨⟨⟩, -, rest⟩ := bind_eq_ok_iff.mp rest
  obtain ⟨⟨⟩, entries, -⟩ := bind_eq_ok_iff.mp rest
  exact ⟨governance.1.1.1, forM_eq_ok_iff.mp entries⟩

theorem taken_governance {validation : ValidationContext} {remoteDomain : String}
    {entries : List (String × Json)}
    (valid : ∀ entry ∈ entries,
      validateSnapshotGovernancePayload validation entry.1 entry.2 remoteDomain = .ok ())
    (before : Unit) :
    StoreAction.Returns
      (importGovernanceEntries (fun _ _ _ => pure ⟨⟩) validation remoteDomain entries)
      before ⟨⟩ before := by
  induction entries with
  | nil => exact StoreAction.returns_pure_iff.mpr ⟨rfl, rfl⟩
  | cons entry entries ih =>
      apply StoreAction.returns_bind_iff.mpr
      refine ⟨⟨⟩, before, ?_, ih fun other member => valid other (List.mem_cons_of_mem _ member)⟩
      exact StoreAction.returns_lift_bind_iff.mpr ⟨(), valid entry List.mem_cons_self,
        StoreAction.returns_pure_iff.mpr ⟨rfl, rfl⟩⟩

def takingContext (validation : ValidationContext) : SnapshotContext Unit Unit Unit where
  validation := validation
  upsertMirrorServer _ _ := pure ()
  upsertMirrorChannels _ _ := pure ()
  upsertMirrorMessages _ _ _ := pure ⟨⟩
  importSnapshotGovernance _ _ _ := pure ⟨⟩
  importSnapshotExtensions _ _ := pure ⟨⟩
  importSnapshotMessageDeletions _ _ := pure ⟨⟩
  importSnapshotReactions _ _ := pure ⟨⟩
  importSnapshotReadCursors _ _ := pure ⟨⟩

theorem accepted_of_not_otherwiseRefused {validation : ValidationContext} {payload : Json}
    {remoteDomain : String}
    (passes : ¬ OtherwiseRefused validation payload remoteDomain) (before : Database Unit) :
    ∃ after, StoreAction.Returns (importServerSnapshot
      (importing (fun _ _ _ => pure ⟨⟩) (takingContext validation)) payload remoteDomain)
      before () after := by
  have valid : validateSnapshotPayload validation payload remoteDomain = .ok () :=
    Decidable.not_not.mp fun invalid => passes (.inl invalid)
  have readable : ∀ position ∈ snapshotEntries payload "stream_positions",
      readSnapshotPosition remoteDomain position ≠ none :=
    fun position member unread => passes (.inr ⟨position, member, unread⟩)
  obtain ⟨map, entries⟩ := entries_of_valid valid
  have governance : (payload.get "governance").orElse (.obj []) = payload.get "governance" := by
    cases section_value : payload.get "governance" with
    | obj fields => rfl
    | _ =>
        rw [section_value] at map
        cases map
  have done : ∀ {α : Type} (value : α), StoreAction.Returns
      (pure value : StoreAction Reason Unit α) () value () :=
    fun value => StoreAction.returns_pure_iff.mpr ⟨rfl, rfl⟩
  have imported : StoreAction.Returns (importSections
      (importing (fun _ _ _ => pure ⟨⟩) (takingContext validation)) payload remoteDomain)
      () () () := by
    apply StoreAction.returns_bind_iff.mpr ⟨(), (), done (), ?_⟩
    apply StoreAction.returns_bind_iff.mpr ⟨(), (), done (), ?_⟩
    apply StoreAction.returns_bind_iff.mpr ⟨PUnit.unit, (), done _, ?_⟩
    apply StoreAction.returns_bind_iff.mpr ⟨⟨⟩, (), ?_, ?_⟩
    · have taken : StoreAction.Returns (importSnapshotGovernance (fun _ _ _ => pure ⟨⟩)
          validation (payload.get "governance") remoteDomain) () ⟨⟩ () := by
        rw [importSnapshotGovernance, if_pos map]
        exact taken_governance entries ()
      rw [governance]
      exact taken
    · apply StoreAction.returns_bind_iff.mpr ⟨PUnit.unit, (), done _, ?_⟩
      apply StoreAction.returns_bind_iff.mpr ⟨PUnit.unit, (), done _, ?_⟩
      apply StoreAction.returns_bind_iff.mpr ⟨PUnit.unit, (), done _, ?_⟩
      exact StoreAction.returns_bind_iff.mpr ⟨PUnit.unit, (), done _, done ()⟩
  obtain ⟨after, stored⟩ := stored_of_read readable before
  refine ⟨after, ?_⟩
  have same : validateSnapshotPayload (importing (fun _ _ _ => pure ⟨⟩)
      (takingContext validation)).validation payload remoteDomain = .ok () := valid
  rw [importServerSnapshot, same]
  apply StoreAction.returns_transaction_iff.mpr
  apply StoreAction.returns_bind_iff.mpr ⟨(), before, ?_, ?_⟩
  · exact StoreAction.returns_focus_iff.mpr ⟨(), imported, rfl⟩
  · exact StoreAction.returns_bind_iff.mpr
      ⟨⟨⟩, after, stored, StoreAction.returns_pure_iff.mpr ⟨rfl, rfl⟩⟩

theorem importing_eq_importingWhole {Projections Server ChannelMap : Type}
    {applyEvent : String → Json → String → StoreAction Reason Projections PUnit}
    {context : SnapshotContext Projections Server ChannelMap} {payload : Json}
    {remoteDomain : String}
    (within : (governanceEntries (payload.get "governance")).length ≤
      context.validation.snapshotGovernanceLimit) :
    importServerSnapshot (importing applyEvent context) payload remoteDomain =
      importServerSnapshot (importingWhole applyEvent context) payload remoteDomain := by
  have sections : importSections (importing applyEvent context) payload remoteDomain =
      importSections (importingWhole applyEvent context) payload remoteDomain := by
    have governance : importSnapshotGovernance applyEvent context.validation
        ((payload.get "governance").orElse (.obj [])) remoteDomain =
        importWholeGovernance applyEvent context.validation
          ((payload.get "governance").orElse (.obj [])) remoteDomain := by
      have kept : snapshotGovernanceEntries ((payload.get "governance").orElse (.obj []))
          context.validation.snapshotGovernanceLimit =
          governanceEntries ((payload.get "governance").orElse (.obj [])) := by
        rw [snapshotGovernanceEntries_eq, Json.orElse_eq]
        by_cases given : (payload.get "governance").truthy
        · rw [if_pos given, List.take_of_length_le within]
        · rw [if_neg given]
          exact List.take_nil
      rw [importSnapshotGovernance, importWholeGovernance, kept]
    unfold importSections
    simp only [importing, importingWhole, governance]
  rw [importServerSnapshot, importServerSnapshot, sections]
  rfl

theorem importedWhole_iff {validation : ValidationContext} {payload : Json}
    {remoteDomain : String} :
    ImportedWhole validation payload remoteDomain ↔
      (governanceEntries (payload.get "governance")).length ≤
          validation.snapshotGovernanceLimit ∨
        OtherwiseRefused validation payload remoteDomain := by
  constructor
  · intro whole
    by_cases within : (governanceEntries (payload.get "governance")).length ≤
        validation.snapshotGovernanceLimit
    · exact .inl within
    · refine .inr (by_contra fun passes => ?_)
      let before : Database Unit := ⟨[], fun _ => none, ()⟩
      obtain ⟨after, accepted⟩ := accepted_of_not_otherwiseRefused passes before
      obtain ⟨reason, refused⟩ := whole.refused (.inr (.inr (Nat.not_le.mp within)))
        Unit Unit Unit (takingContext validation) (fun _ _ _ => pure ⟨⟩) rfl before
      have both := accepted.symm.trans refused
      cases both
  · intro condition
    refine ⟨?_, ?_⟩
    · intro exceeds Projections Server ChannelMap context applyEvent same before
      subst same
      apply fails_of_otherwiseRefused
      rcases condition with within | refused
      · rcases exceeds with channels | messages | governance
        · exact .inl fun valid => Nat.not_le.mpr channels (counts_of_valid valid).1
        · exact .inl fun valid => Nat.not_le.mpr messages (counts_of_valid valid).2
        · exact absurd within (Nat.not_le.mpr governance)
      · exact refused
    · intro Projections Server ChannelMap context applyEvent same before server after imported
      subst same
      rcases condition with within | refused
      · rwa [importing_eq_importingWhole within] at imported
      · have passes : ¬ OtherwiseRefused (importing applyEvent context).validation payload
            remoteDomain := not_otherwiseRefused_of_returns imported
        exact absurd refused passes

/-- `snapshot_channel_limit`, `snapshot_message_limit` and `snapshot_governance_limit`. -/
structure Limits where
  channels : Nat
  messages : Nat
  governance : Nat

structure ServerRow where
  isFederatedMirror : Bool
  isPublic : Bool
  payload : Json

structure ChannelRow where
  id : Nat
  payload : Json

/-- A row about a channel and its entry in a snapshot, where it has one: rows without an actor
are left out. -/
structure EntryRow (Entry : Type) where
  conversationId : Nat
  entry : Option Entry

structure Ban where
  key : Option String × Option String
  payload : Json

structure Exports where
  server : Option ServerRow
  channels : Option Json → List ChannelRow
  messages : Nat → List Json
  localMemberships : List (EntryRow Json)
  remoteMemberships : List (EntryRow Json)
  invites : List (EntryRow Json)
  localBans : List (EntryRow Ban)
  federatedBans : List (EntryRow Ban)
  messageDeletions : List (EntryRow Json)
  reactions : List ChannelRow → List Json
  readCursors : List ChannelRow → List Json
  extensions : List ChannelRow → Option Json → List Json
  streamPositions : List ChannelRow → List Json

structure Request where
  peer : Option Json
  messagesPerChannel : Json

structure ServerSnapshot where
  server : Json
  channels : List Json
  messages : List Json
  memberships : List Json
  invites : List Json
  bans : List Json
  messageDeletions : List Json
  reactions : List Json
  readCursors : List Json
  extensions : List Json
  streamPositions : List Json

inductive ExportRefusal where
  | notFound
  | federatedMirror
  | notAuthorized
  deriving DecidableEq

def rowsOf {Entry : Type} (channels : List ChannelRow) (rows : List (EntryRow Entry)) :
    List (EntryRow Entry) :=
  rows.filter fun row => (channels.map ChannelRow.id).contains row.conversationId

def entriesOf {Entry : Type} (rows : List (EntryRow Entry)) : List Entry :=
  rows.filterMap EntryRow.entry

/-- The bounds of `messages_per_channel`. -/
def messagesPerChannel (request : Request) : Nat :=
  (min (max (parseInt request.messagesPerChannel 25) 1) 250).toNat

section
variable (limits : Limits) (exports : Exports) (request : Request)

def channelMessages (channels : List ChannelRow) : List Json :=
  channels.flatMap fun channel =>
    ((exports.messages channel.id).take (messagesPerChannel request)).reverse

def membershipPayloads (channels : List ChannelRow) : List Json :=
  entriesOf (rowsOf channels exports.localMemberships) ++
    entriesOf (rowsOf channels exports.remoteMemberships)

/-- `Enum.uniq_by` keeps the first ban of a key. -/
def banEntries (channels : List ChannelRow) : List Ban :=
  (entriesOf (rowsOf channels exports.localBans) ++
    entriesOf (rowsOf channels exports.federatedBans)).eraseDupsBy fun ban other =>
      ban.key == other.key

def snapshotOf (server : ServerRow) (channels : List ChannelRow) : ServerSnapshot :=
  let memberships := (membershipPayloads exports channels).take limits.governance
  let remainingSlots := limits.governance - memberships.length
  let invites := entriesOf ((rowsOf channels exports.invites).take remainingSlots)
  let remainingSlots := remainingSlots - invites.length
  { server := server.payload
    channels := channels.map ChannelRow.payload
    messages := (channelMessages exports request channels).take limits.messages
    memberships := memberships
    invites := invites
    bans := ((banEntries exports channels).take remainingSlots).map Ban.payload
    messageDeletions :=
      entriesOf ((rowsOf channels exports.messageDeletions).take limits.messages)
    reactions := exports.reactions channels
    readCursors := exports.readCursors channels
    extensions := exports.extensions channels request.peer
    streamPositions := exports.streamPositions channels }

def buildServerSnapshot : Except ExportRefusal ServerSnapshot :=
  match exports.server with
  | none => .error .notFound
  | some server =>
      let channels := (exports.channels request.peer).take limits.channels
      if server.isFederatedMirror then .error .federatedMirror
      else if !channels.isEmpty || request.peer.isNone || server.isPublic then
        .ok (snapshotOf limits exports request server channels)
      else .error .notAuthorized

def completeSnapshot (server : ServerRow) : ServerSnapshot :=
  let channels := exports.channels request.peer
  { server := server.payload
    channels := channels.map ChannelRow.payload
    messages := channelMessages exports request channels
    memberships := membershipPayloads exports channels
    invites := entriesOf (rowsOf channels exports.invites)
    bans := (banEntries exports channels).map Ban.payload
    messageDeletions := entriesOf (rowsOf channels exports.messageDeletions)
    reactions := exports.reactions channels
    readCursors := exports.readCursors channels
    extensions := exports.extensions channels request.peer
    streamPositions := exports.streamPositions channels }

/-- A snapshot has no mark for what it leaves out, so none is built that leaves out
something. -/
def EmittedWhole : Prop :=
  ∀ server snapshot, exports.server = some server →
    buildServerSnapshot limits exports request = .ok snapshot →
      snapshot = completeSnapshot exports request server

/-- The server is exported to whoever asks. -/
def Exported : Prop :=
  ∃ server, exports.server = some server ∧ server.isFederatedMirror = false ∧
    ((exports.channels request.peer).take limits.channels ≠ [] ∨ request.peer = none ∨
      server.isPublic = true)

structure Within : Prop where
  channels : (exports.channels request.peer).length ≤ limits.channels
  messages : (channelMessages exports request (exports.channels request.peer)).length ≤
    limits.messages
  memberships : (membershipPayloads exports (exports.channels request.peer)).length ≤
    limits.governance
  invites : entriesOf ((rowsOf (exports.channels request.peer) exports.invites).drop
    (limits.governance - (membershipPayloads exports (exports.channels request.peer)).length)) = []
  bans : (banEntries exports (exports.channels request.peer)).length ≤
    limits.governance - (membershipPayloads exports (exports.channels request.peer)).length -
      (entriesOf (rowsOf (exports.channels request.peer) exports.invites)).length
  messageDeletions : entriesOf ((rowsOf (exports.channels request.peer)
    exports.messageDeletions).drop limits.messages) = []

end

section
variable {limits : Limits} {exports : Exports} {request : Request}

theorem buildServerSnapshot_eq_ok_iff {snapshot : ServerSnapshot} :
    buildServerSnapshot limits exports request = .ok snapshot ↔
      ∃ server, exports.server = some server ∧ server.isFederatedMirror = false ∧
        ((exports.channels request.peer).take limits.channels ≠ [] ∨ request.peer = none ∨
          server.isPublic = true) ∧
        snapshotOf limits exports request server
          ((exports.channels request.peer).take limits.channels) = snapshot := by
  rw [buildServerSnapshot]
  cases found : exports.server with
  | none => simp
  | some server =>
      by_cases mirror : server.isFederatedMirror = true
      · simp [mirror]
      · by_cases visible : (exports.channels request.peer).take limits.channels ≠ [] ∨
            request.peer = none ∨ server.isPublic = true
        · have shown : (!((exports.channels request.peer).take limits.channels).isEmpty ||
              request.peer.isNone || server.isPublic) = true := by
            simpa [or_assoc] using visible
          simp only [if_neg mirror, if_pos shown]
          constructor
          · intro built
            exact ⟨server, rfl, eq_false_of_ne_true mirror, visible, Except.ok.inj built⟩
          · intro built
            obtain ⟨_, same, -, -, rfl⟩ := built
            cases same
            rfl
        · have hidden : ¬ (!((exports.channels request.peer).take limits.channels).isEmpty ||
              request.peer.isNone || server.isPublic) = true := by
            simpa [or_assoc] using visible
          simp only [if_neg mirror, if_neg hidden]
          constructor
          · intro built
            cases built
          · intro built
            obtain ⟨_, same, -, shown, -⟩ := built
            cases same
            exact absurd shown visible

theorem entriesOf_take_eq_iff {Entry : Type} {rows : List (EntryRow Entry)} {count : Nat} :
    entriesOf (rows.take count) = entriesOf rows ↔ entriesOf (rows.drop count) = [] := by
  have split : entriesOf rows = entriesOf (rows.take count) ++ entriesOf (rows.drop count) := by
    rw [entriesOf, entriesOf, entriesOf, ← List.filterMap_append, List.take_append_drop]
  rw [split]
  exact List.self_eq_append_right

theorem map_take_eq_iff {Entry Value : Type} {entries : List Entry} {value : Entry → Value}
    {count : Nat} :
    (entries.take count).map value = entries.map value ↔ entries.length ≤ count := by
  constructor
  · intro same
    have lengths := congrArg List.length same
    rw [List.length_map, List.length_map, List.length_take] at lengths
    omega
  · intro within
    rw [List.take_of_length_le within]

theorem take_eq_iff {Entry : Type} {entries : List Entry} {count : Nat} :
    entries.take count = entries ↔ entries.length ≤ count := by
  have same := @map_take_eq_iff _ _ entries id count
  rwa [List.map_id, List.map_id] at same

theorem snapshotOf_eq_complete_iff {server : ServerRow} :
    snapshotOf limits exports request server
        ((exports.channels request.peer).take limits.channels) =
      completeSnapshot exports request server ↔ Within limits exports request := by
  constructor
  · intro same
    have channels := map_take_eq_iff.mp (congrArg ServerSnapshot.channels same)
    rw [List.take_of_length_le channels] at same
    have memberships := take_eq_iff.mp (congrArg ServerSnapshot.memberships same)
    have invites := congrArg ServerSnapshot.invites same
    have bans := congrArg ServerSnapshot.bans same
    simp only [snapshotOf, completeSnapshot, List.take_of_length_le memberships]
      at invites bans
    rw [invites] at bans
    exact
      { channels := channels
        messages := take_eq_iff.mp (congrArg ServerSnapshot.messages same)
        memberships := memberships
        invites := entriesOf_take_eq_iff.mp invites
        bans := map_take_eq_iff.mp bans
        messageDeletions :=
          entriesOf_take_eq_iff.mp (congrArg ServerSnapshot.messageDeletions same) }
  · intro within
    have invites := entriesOf_take_eq_iff.mpr within.invites
    rw [List.take_of_length_le within.channels, snapshotOf, completeSnapshot]
    simp only [List.take_of_length_le within.memberships,
      List.take_of_length_le within.messages, invites, List.take_of_length_le within.bans,
      entriesOf_take_eq_iff.mpr within.messageDeletions]

theorem emittedWhole_iff :
    EmittedWhole limits exports request ↔
      (Exported limits exports request → Within limits exports request) := by
  constructor
  · intro whole exported
    obtain ⟨server, found, local_server, visible⟩ := exported
    exact snapshotOf_eq_complete_iff.mp (whole server _ found
      (buildServerSnapshot_eq_ok_iff.mpr ⟨server, found, local_server, visible, rfl⟩))
  · intro condition server snapshot found built
    obtain ⟨other, found', local_server, visible, rfl⟩ := buildServerSnapshot_eq_ok_iff.mp built
    have same := Option.some.inj (found.symm.trans found')
    subst same
    exact snapshotOf_eq_complete_iff.mpr (condition ⟨server, found, local_server, visible⟩)

/-- A snapshot is imported whole exactly where its governance entries are within the limit or
another check refuses it, and it is built whole exactly where nothing is beyond the limits. -/
theorem limits_whole_iff (validation : ValidationContext) (payload : Json)
    (remoteDomain : String) (limits : Limits) (exports : Exports) (request : Request) :
    (ImportedWhole validation payload remoteDomain ∧ EmittedWhole limits exports request) ↔
      ((governanceEntries (payload.get "governance")).length ≤
          validation.snapshotGovernanceLimit ∨
        OtherwiseRefused validation payload remoteDomain) ∧
      (Exported limits exports request → Within limits exports request) :=
  and_congr importedWhole_iff emittedWhole_iff

end

def oneEntry : ValidationContext :=
  { quietSnapshotContext.validation with snapshotGovernanceLimit := 1 }

def membershipEntry (username uri : String) : Json :=
  .obj [("membership", .obj [
    ("actor", .obj [("uri", .str uri), ("username", .str username),
      ("domain", .str "shop.example")]),
    ("role", .str "member"), ("state", .str "active")])]

def twoMembers : Json :=
  .obj [("version", .int 1), ("origin_domain", .str "shop.example"),
    ("server", .obj [("id", .str "https://shop.example/_arblarg/servers/1"),
      ("name", .str "Shop")]),
    ("governance", .obj [
      ("memberships", .arr [membershipEntry "ann" "https://shop.example/users/ann",
        membershipEntry "bob" "https://shop.example/users/bob"]),
      ("invites", .arr []), ("bans", .arr [])]),
    ("stream_positions", .arr [.obj [("origin_domain", .str "shop.example"),
      ("stream_id", .str "server:https://shop.example/_arblarg/servers/1"),
      ("last_sequence", .int 7)]]),
    ("signature", .obj [("algorithm", .str "ed25519"), ("key_id", .str "k1"),
      ("value", .str "c2ln")])]

def twoChannels : Exports where
  server := some ⟨false, true, .obj []⟩
  channels _ := [⟨1, .obj []⟩, ⟨2, .obj []⟩]
  messages _ := []
  localMemberships := []
  remoteMemberships := []
  invites := []
  localBans := []
  federatedBans := []
  messageDeletions := []
  reactions _ := []
  readCursors _ := []
  extensions _ _ := []
  streamPositions _ := []

theorem not_limits_whole :
    ¬ ImportedWhole oneEntry twoMembers "shop.example" ∧
      ¬ EmittedWhole ⟨1, 5000, 5000⟩ twoChannels ⟨none, .null⟩ := by
  constructor
  · intro whole
    rcases importedWhole_iff.mp whole with within | invalid | unread
    · exact absurd within (by decide)
    · exact invalid (by decide)
    · obtain ⟨position, member, read⟩ := unread
      rw [List.mem_singleton.mp member] at read
      exact absurd read (by decide)
  · intro whole
    have within := emittedWhole_iff.mp whole
      ⟨⟨false, true, .obj []⟩, rfl, rfl, .inr (.inl rfl)⟩
    exact absurd within.channels (by decide)

end Elektrine.Messaging.Federation.SnapshotLimits
