import Mathlib.Data.List.Perm.Basic
import Elektrine.Messaging.Federation.State
import Elektrine.Messaging.RoomACL

/-!
# Permissions as a function of governance facts

The governance projections of a room are rows without an order, one for each
origin and object.  Permissions are folded from them in the order in which the
database returns them.
-/

namespace Elektrine.Messaging.RoomACL

open Federation

def aclEventTypes : List String :=
  [ArblargSDK.rolesRoleUpsertEventType,
    ArblargSDK.rolesRoleAssignmentUpsertEventType,
    ArblargSDK.permissionsOverwriteUpsertEventType]

def aclEvents (conversationId : Int) (rows : List FederationExtensionEvent) :
    List (String × Json) :=
  (rows.filter fun row =>
    row.conversationId == some conversationId &&
      aclEventTypes.contains row.index.eventType).map fun row =>
    (row.index.eventType, row.payload)

/-- `effective_permissions` over the rows in the order in which they are read. -/
def roomPermissions (conversationId : Int) (rows : List FederationExtensionEvent)
    (baseRole actorUri : String) : Permissions :=
  effectivePermissions (loadAclState (aclEvents conversationId rows)) baseRole
    actorUri

def definitionOf (event : String × Json) : Option (String × Permissions) :=
  if event.1 = ArblargSDK.rolesRoleUpsertEventType then
    match event.2.getIn ["role", "id"] with
    | .str roleId =>
        some (roleId, normalizePermissions (event.2.getIn ["role", "permissions"]))
    | _ => none
  else none

def assignmentOf (event : String × Json) : Option RoleAssignment :=
  if event.1 = ArblargSDK.rolesRoleAssignmentUpsertEventType then
    match event.2.getIn ["assignment", "role_id"],
        event.2.getIn ["assignment", "target", "type"],
        event.2.getIn ["assignment", "target", "id"],
        event.2.getIn ["assignment", "state"] with
    | .str roleId, .str targetType, .str targetId, .str state =>
        some ⟨roleId, targetType, targetId, state⟩
    | _, _, _, _ => none
  else none

def overwriteOf (event : String × Json) : Option PermissionOverwrite :=
  if event.1 = ArblargSDK.permissionsOverwriteUpsertEventType then
    match event.2.getIn ["overwrite", "target", "type"],
        event.2.getIn ["overwrite", "target", "id"] with
    | .str targetType, .str targetId =>
        some ⟨targetType, targetId,
          normalizePermissions (event.2.getIn ["overwrite", "allow"]),
          normalizePermissions (event.2.getIn ["overwrite", "deny"])⟩
    | _, _ => none
  else none

theorem loadAclEvent_eq (state : AclState) (event : String × Json) :
    loadAclEvent state event =
      ⟨(definitionOf event).toList ++ state.roleDefinitions,
        (assignmentOf event).toList ++ state.roleAssignments,
        (overwriteOf event).toList ++ state.permissionOverwrites⟩ := by
  obtain ⟨eventType, payload⟩ := event
  unfold loadAclEvent definitionOf assignmentOf overwriteOf
  dsimp only
  by_cases role : eventType = ArblargSDK.rolesRoleUpsertEventType
  · subst role
    rw [if_pos rfl, if_pos rfl, if_neg (by decide), if_neg (by decide)]
    cases payload.getIn ["role", "id"] <;> rfl
  · rw [if_neg role, if_neg role]
    by_cases assignment : eventType = ArblargSDK.rolesRoleAssignmentUpsertEventType
    · subst assignment
      rw [if_pos rfl, if_pos rfl, if_neg (by decide)]
      cases payload.getIn ["assignment", "role_id"] <;>
        cases payload.getIn ["assignment", "target", "type"] <;>
          cases payload.getIn ["assignment", "target", "id"] <;>
            cases payload.getIn ["assignment", "state"] <;> rfl
    · rw [if_neg assignment, if_neg assignment]
      by_cases overwrite : eventType = ArblargSDK.permissionsOverwriteUpsertEventType
      · subst overwrite
        rw [if_pos rfl, if_pos rfl]
        cases payload.getIn ["overwrite", "target", "type"] <;>
          cases payload.getIn ["overwrite", "target", "id"] <;> rfl
      · rw [if_neg overwrite, if_neg overwrite]
        rfl

theorem reverse_filterMap_cons {α β : Type} (fact : α → Option β) (first : α)
    (others : List α) (rest : List β) :
    ((first :: others).filterMap fact).reverse ++ rest =
      (others.filterMap fact).reverse ++ ((fact first).toList ++ rest) := by
  cases found : fact first <;> simp [found]

theorem foldl_loadAclEvent (events : List (String × Json)) (state : AclState) :
    events.foldl loadAclEvent state =
      ⟨(events.filterMap definitionOf).reverse ++ state.roleDefinitions,
        (events.filterMap assignmentOf).reverse ++ state.roleAssignments,
        (events.filterMap overwriteOf).reverse ++ state.permissionOverwrites⟩ := by
  induction events generalizing state with
  | nil => rfl
  | cons event events ih =>
      rw [List.foldl_cons, ih, loadAclEvent_eq]
      simp only [reverse_filterMap_cons]

theorem roleDefinitions_loadAclState (events : List (String × Json)) :
    (loadAclState events).roleDefinitions =
      (events.filterMap definitionOf).reverse := by
  rw [loadAclState, foldl_loadAclEvent]
  exact List.append_nil _

theorem mem_roleAssignments_iff {events : List (String × Json)}
    {assignment : RoleAssignment} :
    assignment ∈ (loadAclState events).roleAssignments ↔
      ∃ event ∈ events, assignmentOf event = some assignment := by
  rw [loadAclState, foldl_loadAclEvent]
  simp [AclState.empty]

theorem mem_permissionOverwrites_iff {events : List (String × Json)}
    {overwrite : PermissionOverwrite} :
    overwrite ∈ (loadAclState events).permissionOverwrites ↔
      ∃ event ∈ events, overwriteOf event = some overwrite := by
  rw [loadAclState, foldl_loadAclEvent]
  simp [AclState.empty]

/-- What the events define a role to be, in the order in which they are read; a
built-in role is what it is. -/
def definitionsOf (events : List (String × Json)) (roleId : String) :
    List Permissions :=
  match builtinRole roleId with
  | some role => [role.permissions]
  | none =>
      ((events.filterMap definitionOf).filter fun definition =>
        roleId == definition.1).map Prod.snd

theorem lookup_reverse {roleId : String}
    (definitions : List (String × Permissions)) :
    definitions.reverse.lookup roleId =
      ((definitions.filter fun definition => roleId == definition.1).map
        Prod.snd).getLast? := by
  induction definitions using List.reverseRecOn with
  | nil => rfl
  | append_singleton front last ih =>
      rw [List.reverse_append, List.reverse_singleton, List.singleton_append,
        List.lookup_cons, List.filter_append, List.map_append, List.getLast?_append]
      cases same : roleId == last.1 <;> simp [same, ih]

/-- The definition of the role that is read last has the permission. -/
def LastGives (events : List (String × Json)) (roleId permission : String) : Prop :=
  ∃ last ∈ (definitionsOf events roleId).getLast?, permission ∈ last

theorem mem_rolePermissions_iff {events : List (String × Json)}
    {roleId permission : String} :
    permission ∈ rolePermissions roleId (loadAclState events).roleDefinitions ↔
      LastGives events roleId permission := by
  rw [roleDefinitions_loadAclState]
  unfold rolePermissions LastGives definitionsOf
  cases builtinRole roleId with
  | some role => simp
  | none =>
      dsimp only
      rw [lookup_reverse]
      cases List.getLast? _ <;> simp

theorem mem_assignedRoleIds_iff {actorUri roleId : String}
    {assignments : List RoleAssignment} :
    roleId ∈ assignedRoleIds actorUri assignments ↔
      ∃ assignment ∈ assignments, assignment.state = "assigned" ∧
        targetsActor assignment.targetType assignment.targetId actorUri = true ∧
        assignment.roleId = roleId := by
  simp [assignedRoleIds, and_assoc]

theorem highestRole_mem (first : String) (rest : List String) :
    highestRole first rest ∈ first :: rest := by
  induction rest generalizing first with
  | nil => exact List.mem_cons_self
  | cons next rest ih =>
      rw [highestRole, List.foldl_cons]
      rcases List.mem_cons.mp
        (ih (if rolePosition first < rolePosition next then next else first)) with
        here | later
      · rw [highestRole] at here
        rw [here]
        split_ifs <;> simp
      · exact List.mem_cons_of_mem _ (List.mem_cons_of_mem _ later)

theorem rolePosition_le_highestRole {first roleId : String} {rest : List String}
    (member : roleId ∈ first :: rest) :
    rolePosition roleId ≤ rolePosition (highestRole first rest) := by
  induction rest generalizing first roleId with
  | nil => rw [List.mem_singleton.mp member]; exact Nat.le_refl _
  | cons next rest ih =>
      rw [highestRole, List.foldl_cons]
      by_cases higher : rolePosition first < rolePosition next
      · rw [if_pos higher]
        rcases List.mem_cons.mp member with rfl | later
        · exact higher.le.trans (ih List.mem_cons_self)
        · exact ih later
      · rw [if_neg higher]
        rcases List.mem_cons.mp member with rfl | later
        · exact ih List.mem_cons_self
        · rcases List.mem_cons.mp later with rfl | later
          · exact (Nat.le_of_not_lt higher).trans (ih List.mem_cons_self)
          · exact ih (List.mem_cons_of_mem _ later)

theorem eq_of_rolePosition_eq {first second : String}
    (isBuiltin : (builtinRole first).isSome = true)
    (isBuiltin' : (builtinRole second).isSome = true)
    (same : rolePosition first = rolePosition second) : first = second := by
  have listed : ∀ roleId, (builtinRole roleId).isSome = true →
      roleId ∈ builtinRoles.map BuiltinRole.id := by
    intro roleId found
    rw [builtinRole, List.find?_isSome] at found
    obtain ⟨role, member, named⟩ := found
    exact List.mem_map.mpr ⟨role, member, eq_of_beq named⟩
  have distinct : ∀ one ∈ builtinRoles.map BuiltinRole.id,
      ∀ other ∈ builtinRoles.map BuiltinRole.id,
        rolePosition one = rolePosition other → one = other := by
    decide
  exact distinct first (listed first isBuiltin) second (listed second isBuiltin') same

theorem highestRole_congr {first first' : String} {rest rest' : List String}
    (builtins : ∀ roleId ∈ first :: rest, (builtinRole roleId).isSome = true)
    (same : ∀ roleId, roleId ∈ first :: rest ↔ roleId ∈ first' :: rest') :
    highestRole first rest = highestRole first' rest' := by
  have here := highestRole_mem first rest
  have there := (same _).mpr (highestRole_mem first' rest')
  apply eq_of_rolePosition_eq (builtins _ here) (builtins _ there)
  apply Nat.le_antisymm
  · exact rolePosition_le_highestRole ((same _).mp here)
  · exact rolePosition_le_highestRole there

theorem mem_effectiveRoleIds_congr {baseRole roleId : String}
    {assigned assigned' : List String}
    (same : ∀ role, role ∈ assigned ↔ role ∈ assigned') :
    roleId ∈ effectiveRoleIds baseRole assigned ↔
      roleId ∈ effectiveRoleIds baseRole assigned' := by
  have builtins : ∀ role,
      role ∈ (assigned.filter fun role => (builtinRole role).isSome) ↔
        role ∈ (assigned'.filter fun role => (builtinRole role).isSome) := by
    intro role
    simp only [List.mem_filter, same]
  have isBuiltin : ∀ role ∈ assigned.filter fun role => (builtinRole role).isSome,
      (builtinRole role).isSome = true :=
    fun role member => (List.mem_filter.mp member).2
  unfold effectiveRoleIds
  simp only [List.mem_eraseDups, List.mem_cons, List.mem_filter, same]
  apply or_congr_left
  generalize (assigned.filter fun role => (builtinRole role).isSome) = chosen
    at builtins isBuiltin
  generalize (assigned'.filter fun role => (builtinRole role).isSome) = chosen'
    at builtins
  cases chosen with
  | nil =>
      cases chosen' with
      | nil => rfl
      | cons first rest => exact absurd ((builtins first).mpr List.mem_cons_self) (by simp)
  | cons first rest =>
      cases chosen' with
      | nil => exact absurd ((builtins first).mp List.mem_cons_self) (by simp)
      | cons first' rest' =>
          dsimp only
          rw [highestRole_congr isBuiltin builtins]

def roomRoleIds (events : List (String × Json)) (baseRole actorUri : String) :
    List String :=
  effectiveRoleIds baseRole
    (assignedRoleIds actorUri (loadAclState events).roleAssignments)

/-- The overwrite is for the actor or for one of its roles. -/
def Applies (events : List (String × Json)) (baseRole actorUri : String)
    (overwrite : PermissionOverwrite) : Prop :=
  targetsActor overwrite.targetType overwrite.targetId actorUri = true ∨
    overwrite.targetType = "role" ∧
      overwrite.targetId ∈ roomRoleIds events baseRole actorUri

def LeftOpen (events : List (String × Json)) (baseRole actorUri permission : String) :
    Prop :=
  ∀ event ∈ events, ∀ overwrite, overwriteOf event = some overwrite →
    Applies events baseRole actorUri overwrite →
      permission ∉ overwrite.allow ∧ permission ∉ overwrite.deny

section Events

variable {events : List (String × Json)} {baseRole actorUri permission : String}

theorem mem_effectivePermissions_of_leftOpen
    (isOpen : LeftOpen events baseRole actorUri permission) :
    permission ∈ effectivePermissions (loadAclState events) baseRole actorUri ↔
      ∃ roleId ∈ roomRoleIds events baseRole actorUri,
        LastGives events roleId permission := by
  have unnamed : ∀ overwrite ∈ (loadAclState events).permissionOverwrites,
      Applies events baseRole actorUri overwrite →
        permission ∉ overwrite.allow ∧ permission ∉ overwrite.deny := by
    intro overwrite member
    obtain ⟨event, there, found⟩ := mem_permissionOverwrites_iff.mp member
    exact isOpen event there overwrite found
  have byRole : ∀ overwrite : PermissionOverwrite,
      (overwrite.targetType == "role" &&
          (roomRoleIds events baseRole actorUri).contains overwrite.targetId) = true →
        Applies events baseRole actorUri overwrite := by
    intro overwrite selected
    simp only [Bool.and_eq_true, beq_iff_eq, List.contains_iff_mem] at selected
    exact .inr selected
  unfold effectivePermissions applyMemberOverwrites applyRoleOverwrites
  dsimp only
  rw [← roomRoleIds, mem_applyOverwrites_iff, mem_applyOverwrites_iff]
  simp only [List.mem_flatMap, mem_rolePermissions_iff]
  constructor
  · rintro (⟨⟨given, -⟩ | ⟨overwrite, member, selected, allowed⟩, -⟩ |
      ⟨overwrite, member, selected, allowed⟩)
    · exact given
    · exact absurd allowed (unnamed overwrite member (byRole overwrite selected)).1
    · exact absurd allowed (unnamed overwrite member (.inl selected)).1
  · intro given
    refine .inl ⟨.inl ⟨given, ?_⟩, ?_⟩
    · intro overwrite member selected
      exact (unnamed overwrite member (byRole overwrite selected)).2
    · intro overwrite member selected
      exact (unnamed overwrite member (.inl selected)).2

variable {events' : List (String × Json)}

theorem mem_roomRoleIds_congr (read : events'.Perm events) {roleId : String} :
    roleId ∈ roomRoleIds events' baseRole actorUri ↔
      roleId ∈ roomRoleIds events baseRole actorUri := by
  apply mem_effectiveRoleIds_congr
  intro role
  simp only [mem_assignedRoleIds_iff, mem_roleAssignments_iff, read.mem_iff]

theorem applies_congr (read : events'.Perm events) {overwrite : PermissionOverwrite} :
    Applies events' baseRole actorUri overwrite ↔
      Applies events baseRole actorUri overwrite := by
  simp only [Applies, mem_roomRoleIds_congr read]

theorem leftOpen_congr (read : events'.Perm events) :
    LeftOpen events' baseRole actorUri permission ↔
      LeftOpen events baseRole actorUri permission := by
  simp only [LeftOpen, read.mem_iff, applies_congr read]

theorem mem_effectivePermissions_congr_of_not_leftOpen
    (read : events'.Perm events)
    (named : ¬ LeftOpen events baseRole actorUri permission) :
    permission ∈ effectivePermissions (loadAclState events') baseRole actorUri ↔
      permission ∈ effectivePermissions (loadAclState events) baseRole actorUri := by
  have overwrites : ∀ overwrite,
      overwrite ∈ (loadAclState events').permissionOverwrites ↔
        overwrite ∈ (loadAclState events).permissionOverwrites := by
    intro overwrite
    simp only [mem_permissionOverwrites_iff, read.mem_iff]
  have roles : ∀ roleId, (roomRoleIds events' baseRole actorUri).contains roleId =
      (roomRoleIds events baseRole actorUri).contains roleId := by
    intro roleId
    rw [Bool.eq_iff_iff, List.contains_iff_mem, List.contains_iff_mem]
    exact mem_roomRoleIds_congr read
  unfold effectivePermissions applyMemberOverwrites applyRoleOverwrites
  dsimp only
  rw [← roomRoleIds, ← roomRoleIds]
  simp only [mem_applyOverwrites_iff, overwrites, roles]
  simp only [LeftOpen, not_forall] at named
  obtain ⟨event, there, overwrite, found, applies, names⟩ := named
  have member : overwrite ∈ (loadAclState events).permissionOverwrites :=
    mem_permissionOverwrites_iff.mpr ⟨event, there, found⟩
  have mentions : permission ∈ overwrite.allow ∨ permission ∈ overwrite.deny := by
    by_contra neither
    exact names (not_or.mp neither)
  rcases applies with own | ⟨role, mine⟩
  · rcases mentions with allowed | denied
    · exact iff_of_true (.inr ⟨overwrite, member, own, allowed⟩)
        (.inr ⟨overwrite, member, own, allowed⟩)
    · apply or_congr_left
      have undecided : ¬ ∀ other ∈ (loadAclState events).permissionOverwrites,
          targetsActor other.targetType other.targetId actorUri = true →
            permission ∉ other.deny :=
        fun kept => kept overwrite member own denied
      simp only [undecided, and_false]
  · have selected : (overwrite.targetType == "role" &&
        (roomRoleIds events baseRole actorUri).contains overwrite.targetId) = true := by
      simp only [role, mine, List.contains_iff_mem.mpr, beq_self_eq_true,
        Bool.and_self]
    apply or_congr_left
    apply and_congr_left'
    rcases mentions with allowed | denied
    · exact iff_of_true (.inr ⟨overwrite, member, selected, allowed⟩)
        (.inr ⟨overwrite, member, selected, allowed⟩)
    · apply or_congr_left
      have undecided : ¬ ∀ other ∈ (loadAclState events).permissionOverwrites,
          (other.targetType == "role" &&
              (roomRoleIds events baseRole actorUri).contains other.targetId) = true →
            permission ∉ other.deny :=
        fun kept => kept overwrite member selected denied
      simp only [undecided, and_false]

end Events

section Definitions

variable {events events' front back : List (String × Json)}
  {roleId permission : String}

def SomeGives (events : List (String × Json)) (roleId permission : String) : Prop :=
  ∃ definition ∈ definitionsOf events roleId, permission ∈ definition

/-- The role is defined, always with the permission. -/
def EveryGives (events : List (String × Json)) (roleId permission : String) : Prop :=
  SomeGives events roleId permission ∧
    ∀ definition ∈ definitionsOf events roleId, permission ∈ definition

theorem LastGives.someGives (last : LastGives events roleId permission) :
    SomeGives events roleId permission := by
  obtain ⟨definition, found, given⟩ := last
  exact ⟨definition, List.mem_of_getLast? found, given⟩

theorem EveryGives.lastGives (every : EveryGives events roleId permission) :
    LastGives events roleId permission := by
  obtain ⟨⟨definition, member, -⟩, all⟩ := every
  have defined : definitionsOf events roleId ≠ [] := List.ne_nil_of_mem member
  exact ⟨_, List.getLast?_eq_getLast_of_ne_nil defined, all _ (List.getLast_mem defined)⟩

theorem mem_definitionsOf_iff (custom : builtinRole roleId = none)
    {permissions : Permissions} :
    permissions ∈ definitionsOf events roleId ↔
      ∃ event ∈ events, definitionOf event = some (roleId, permissions) := by
  simp only [definitionsOf, custom, List.mem_map, List.mem_filter,
    List.mem_filterMap, beq_iff_eq, Prod.exists, exists_eq_right]
  constructor
  · intro defined
    obtain ⟨named, ⟨event, member, found⟩, rfl⟩ := defined
    exact ⟨event, member, found⟩
  · intro defined
    obtain ⟨event, member, found⟩ := defined
    exact ⟨roleId, ⟨event, member, found⟩, rfl⟩

theorem definitionsOf_append (custom : builtinRole roleId = none) :
    definitionsOf (front ++ back) roleId =
      definitionsOf front roleId ++ definitionsOf back roleId := by
  simp only [definitionsOf, custom, List.filterMap_append, List.filter_append,
    List.map_append]

theorem mem_definitionsOf_congr (read : events'.Perm events)
    {permissions : Permissions} :
    permissions ∈ definitionsOf events' roleId ↔
      permissions ∈ definitionsOf events roleId := by
  cases builtin : builtinRole roleId with
  | some role => simp only [definitionsOf, builtin]
  | none => simp only [mem_definitionsOf_iff builtin, read.mem_iff]

theorem someGives_congr (read : events'.Perm events) :
    SomeGives events' roleId permission ↔ SomeGives events roleId permission := by
  simp only [SomeGives, mem_definitionsOf_congr read]

theorem everyGives_congr (read : events'.Perm events) :
    EveryGives events' roleId permission ↔ EveryGives events roleId permission := by
  simp only [EveryGives, someGives_congr read, mem_definitionsOf_congr read]

def gives (permission : String) (event : String × Json) : Bool :=
  match definitionOf event with
  | some definition => definition.2.contains permission
  | none => false

theorem everyGives_of_lacking_last
    (giving : ∀ event ∈ front, ∀ definition, definitionOf event = some definition →
      permission ∈ definition.2)
    (lacking : ∀ event ∈ back, ∀ definition, definitionOf event = some definition →
      permission ∉ definition.2)
    (last : LastGives (front ++ back) roleId permission) :
    EveryGives (front ++ back) roleId permission := by
  refine ⟨last.someGives, ?_⟩
  obtain ⟨final, found, given⟩ := last
  cases builtin : builtinRole roleId with
  | some role =>
      simp only [definitionsOf, builtin] at found ⊢
      intro definition member
      rw [List.mem_singleton.mp member]
      have same : role.permissions = final := by simpa using found
      rw [same]
      exact given
  | none =>
      have none_behind : definitionsOf back roleId = [] := by
        apply List.eq_nil_iff_forall_not_mem.mpr
        intro definition member
        have defined : definitionsOf back roleId ≠ [] := List.ne_nil_of_mem member
        rw [definitionsOf_append builtin, List.getLast?_append_of_ne_nil _ defined]
          at found
        obtain ⟨event, there, named⟩ :=
          (mem_definitionsOf_iff builtin).mp (List.mem_of_getLast? found)
        exact lacking event there _ named given
      rw [definitionsOf_append builtin, none_behind, List.append_nil]
      intro definition member
      obtain ⟨event, there, named⟩ := (mem_definitionsOf_iff builtin).mp member
      exact giving event there _ named

theorem lastGives_of_giving_last
    (lacking : ∀ event ∈ front, ∀ definition, definitionOf event = some definition →
      permission ∉ definition.2)
    (giving : ∀ event ∈ back, ∀ definition, definitionOf event = some definition →
      permission ∈ definition.2)
    (some_gives : SomeGives (front ++ back) roleId permission) :
    LastGives (front ++ back) roleId permission := by
  obtain ⟨definition, member, given⟩ := some_gives
  unfold LastGives
  cases builtin : builtinRole roleId with
  | some role =>
      simp only [definitionsOf, builtin] at member ⊢
      rw [List.mem_singleton.mp member] at given
      exact ⟨_, rfl, given⟩
  | none =>
      rw [definitionsOf_append builtin, List.mem_append] at member
      have behind : definition ∈ definitionsOf back roleId := by
        rcases member with early | late
        · obtain ⟨event, there, named⟩ := (mem_definitionsOf_iff builtin).mp early
          exact absurd given (lacking event there _ named)
        · exact late
      have defined : definitionsOf back roleId ≠ [] := List.ne_nil_of_mem behind
      rw [definitionsOf_append builtin, List.getLast?_append_of_ne_nil _ defined]
      refine ⟨_, List.getLast?_eq_getLast_of_ne_nil defined, ?_⟩
      obtain ⟨event, there, named⟩ :=
        (mem_definitionsOf_iff builtin).mp (List.getLast_mem defined)
      exact giving event there _ named

end Definitions

variable {conversationId : Int} {rows : List FederationExtensionEvent}

def rowEvent (row : FederationExtensionEvent) : String × Json :=
  (row.index.eventType, row.payload)

/-- The row is about the assignment of the role to the actor in the room. -/
def AssignsRole (conversationId : Int) (roleId actorUri state : String)
    (row : FederationExtensionEvent) : Prop :=
  row.conversationId = some conversationId ∧
    ∃ assignment, assignmentOf (rowEvent row) = some assignment ∧
      targetsActor assignment.targetType assignment.targetId actorUri = true ∧
      assignment.roleId = roleId ∧ assignment.state = state

/-- The row says that the assignment is removed, and it is later than every
other row about it. -/
def RemovedLast (conversationId : Int) (rows : List FederationExtensionEvent)
    (roleId actorUri : String) : Prop :=
  ∃ row ∈ rows, AssignsRole conversationId roleId actorUri "removed" row ∧
    ∀ other ∈ rows, other.index ≠ row.index →
      ∀ state, AssignsRole conversationId roleId actorUri state other →
        other.occurredAt < row.occurredAt

/-- Permissions are a function of the set of the rows, and a role whose
assignment is removed last is not assigned. -/
structure FunctionOfFacts (conversationId : Int)
    (rows : List FederationExtensionEvent) : Prop where
  anyOrder : ∀ baseRole actorUri read, read.Perm rows → ∀ permission,
    permission ∈ roomPermissions conversationId read baseRole actorUri ↔
      permission ∈ roomPermissions conversationId rows baseRole actorUri
  removedGrantsNothing : ∀ roleId actorUri,
    RemovedLast conversationId rows roleId actorUri →
      roleId ∉ assignedRoleIds actorUri
        (loadAclState (aclEvents conversationId rows)).roleAssignments

/-- What the overwrites leave open is settled by a role that is always defined
with it, or given by no role; an assignment that is removed last is nowhere
still assigned. -/
structure Settled (conversationId : Int) (rows : List FederationExtensionEvent) :
    Prop where
  definitions : ∀ baseRole actorUri permission,
    LeftOpen (aclEvents conversationId rows) baseRole actorUri permission →
    (∃ roleId ∈ roomRoleIds (aclEvents conversationId rows) baseRole actorUri,
      SomeGives (aclEvents conversationId rows) roleId permission) →
    ∃ roleId ∈ roomRoleIds (aclEvents conversationId rows) baseRole actorUri,
      EveryGives (aclEvents conversationId rows) roleId permission
  assignments : ∀ roleId actorUri,
    RemovedLast conversationId rows roleId actorUri →
      ∀ row ∈ rows, ¬ AssignsRole conversationId roleId actorUri "assigned" row

theorem mem_aclEvents_iff {event : String × Json} :
    event ∈ aclEvents conversationId rows ↔
      ∃ row ∈ rows, row.conversationId = some conversationId ∧
        row.index.eventType ∈ aclEventTypes ∧ rowEvent row = event := by
  simp [aclEvents, rowEvent, and_assoc]

theorem perm_aclEvents (conversationId : Int)
    {read : List FederationExtensionEvent} (same : read.Perm rows) :
    (aclEvents conversationId read).Perm (aclEvents conversationId rows) :=
  (same.filter _).map _

theorem aclEvents_append (front back : List FederationExtensionEvent) :
    aclEvents conversationId (front ++ back) =
      aclEvents conversationId front ++ aclEvents conversationId back := by
  simp only [aclEvents, List.filter_append, List.map_append]

theorem aclEvents_filter (selected : String × Json → Bool) :
    aclEvents conversationId (rows.filter fun row => selected (rowEvent row)) =
      (aclEvents conversationId rows).filter selected := by
  simp only [aclEvents, List.filter_map, List.filter_filter, Function.comp_def,
    rowEvent, Bool.and_comm]

theorem mem_of_gives {permission : String} {events : List (String × Json)} :
    ∀ event ∈ events.filter (gives permission), ∀ definition,
      definitionOf event = some definition → permission ∈ definition.2 := by
  intro event member definition found
  have given := (List.mem_filter.mp member).2
  simpa [gives, found] using given

theorem not_mem_of_not_gives {permission : String} {events : List (String × Json)} :
    ∀ event ∈ events.filter fun event => !gives permission event, ∀ definition,
      definitionOf event = some definition → permission ∉ definition.2 := by
  intro event member definition found
  have lacking := (List.mem_filter.mp member).2
  simpa [gives, found] using lacking

theorem mem_assignedRoleIds_aclEvents_iff {roleId actorUri : String} :
    roleId ∈ assignedRoleIds actorUri
        (loadAclState (aclEvents conversationId rows)).roleAssignments ↔
      ∃ row ∈ rows, AssignsRole conversationId roleId actorUri "assigned" row := by
  have isAcl : ∀ {event assignment}, assignmentOf event = some assignment →
      event.1 ∈ aclEventTypes := by
    intro event assignment found
    unfold assignmentOf at found
    split_ifs at found with type
    rw [type]
    decide
  simp only [mem_assignedRoleIds_iff, mem_roleAssignments_iff, mem_aclEvents_iff]
  constructor
  · intro assigned
    obtain ⟨assignment, ⟨event, ⟨row, member, here, -, rfl⟩, found⟩, state, target,
      role⟩ := assigned
    exact ⟨row, member, here, assignment, found, target, role, state⟩
  · intro assigned
    obtain ⟨row, member, here, assignment, found, target, role, state⟩ := assigned
    exact ⟨assignment, ⟨rowEvent row, ⟨row, member, here, isAcl found, rfl⟩, found⟩,
      state, target, role⟩

/-- Two readings of the rows, one with the definitions that lack a permission
last and one with those that give it last, agree on it only when it is settled. -/
theorem definitions_of_anyOrder {baseRole actorUri permission : String}
    (anyOrder : ∀ read, read.Perm rows →
      (permission ∈ roomPermissions conversationId read baseRole actorUri ↔
        permission ∈ roomPermissions conversationId rows baseRole actorUri))
    (isOpen : LeftOpen (aclEvents conversationId rows) baseRole actorUri permission)
    (given : ∃ roleId ∈ roomRoleIds (aclEvents conversationId rows) baseRole actorUri,
      SomeGives (aclEvents conversationId rows) roleId permission) :
    ∃ roleId ∈ roomRoleIds (aclEvents conversationId rows) baseRole actorUri,
      EveryGives (aclEvents conversationId rows) roleId permission := by
  let giving := rows.filter fun row => gives permission (rowEvent row)
  let lacking := rows.filter fun row => !gives permission (rowEvent row)
  have lackingLast : (giving ++ lacking).Perm rows := List.filter_append_perm _ rows
  have givingLast : (lacking ++ giving).Perm rows :=
    List.perm_append_comm.trans lackingLast
  have givingEvents : aclEvents conversationId giving =
      (aclEvents conversationId rows).filter (gives permission) :=
    aclEvents_filter _
  have lackingEvents : aclEvents conversationId lacking =
      (aclEvents conversationId rows).filter fun event => !gives permission event :=
    aclEvents_filter fun event => !gives permission event
  have events := perm_aclEvents conversationId lackingLast
  have events' := perm_aclEvents conversationId givingLast
  have agree := (anyOrder _ givingLast).trans (anyOrder _ lackingLast).symm
  unfold roomPermissions at agree
  rw [mem_effectivePermissions_of_leftOpen ((leftOpen_congr events).mpr isOpen),
    mem_effectivePermissions_of_leftOpen ((leftOpen_congr events').mpr isOpen)]
    at agree
  simp only [mem_roomRoleIds_congr events, mem_roomRoleIds_congr events'] at agree
  obtain ⟨roleId, effective, someGives⟩ := given
  have last : LastGives (aclEvents conversationId (lacking ++ giving)) roleId
      permission := by
    rw [← someGives_congr events'] at someGives
    rw [aclEvents_append] at someGives ⊢
    apply lastGives_of_giving_last _ _ someGives
    · rw [lackingEvents]
      exact not_mem_of_not_gives
    · rw [givingEvents]
      exact mem_of_gives
  obtain ⟨always, effective', last'⟩ := agree.mp ⟨roleId, effective, last⟩
  refine ⟨always, effective', ?_⟩
  rw [← everyGives_congr events]
  rw [aclEvents_append] at last' ⊢
  apply everyGives_of_lacking_last _ _ last'
  · rw [givingEvents]
    exact mem_of_gives
  · rw [lackingEvents]
    exact not_mem_of_not_gives

theorem functionOfFacts_iff (conversationId : Int)
    (rows : List FederationExtensionEvent) :
    FunctionOfFacts conversationId rows ↔ Settled conversationId rows := by
  constructor
  · intro facts
    refine ⟨?_, ?_⟩
    · intro baseRole actorUri permission isOpen given
      apply definitions_of_anyOrder _ isOpen given
      intro read same
      exact facts.anyOrder baseRole actorUri read same permission
    · intro roleId actorUri removed row member assigned
      apply facts.removedGrantsNothing roleId actorUri removed
      exact mem_assignedRoleIds_aclEvents_iff.mpr ⟨row, member, assigned⟩
  · intro settled
    refine ⟨?_, ?_⟩
    · intro baseRole actorUri read same permission
      have events : (aclEvents conversationId read).Perm
          (aclEvents conversationId rows) := perm_aclEvents _ same
      unfold roomPermissions
      by_cases isOpen : LeftOpen (aclEvents conversationId rows) baseRole actorUri
          permission
      · rw [mem_effectivePermissions_of_leftOpen isOpen,
          mem_effectivePermissions_of_leftOpen ((leftOpen_congr events).mpr isOpen)]
        simp only [mem_roomRoleIds_congr events]
        have always := settled.definitions baseRole actorUri permission isOpen
        constructor
        · intro given
          obtain ⟨roleId, effective, last⟩ := given
          obtain ⟨role, effective', every⟩ :=
            always ⟨roleId, effective, (someGives_congr events).mp last.someGives⟩
          exact ⟨role, effective', every.lastGives⟩
        · intro given
          obtain ⟨roleId, effective, last⟩ := given
          obtain ⟨role, effective', every⟩ :=
            always ⟨roleId, effective, last.someGives⟩
          exact ⟨role, effective', ((everyGives_congr events).mpr every).lastGives⟩
      · exact mem_effectivePermissions_congr_of_not_leftOpen events isOpen
    · intro roleId actorUri removed assigned
      obtain ⟨row, member, assigns⟩ := mem_assignedRoleIds_aclEvents_iff.mp assigned
      exact settled.assignments roleId actorUri removed row member assigns

def governanceRow (eventType originDomain eventKey : String) (occurredAt : Int)
    (payload : Json) : FederationExtensionEvent where
  index := ⟨eventType, originDomain, eventKey⟩
  payload := payload
  status := none
  occurredAt := occurredAt
  serverId := some 1
  conversationId := some 1

def roleRow (originDomain : String) (occurredAt : Int) (permissions : List Json) :
    FederationExtensionEvent :=
  governanceRow ArblargSDK.rolesRoleUpsertEventType originDomain "role:ops:channel:1"
    occurredAt (.obj [("role", .obj [("id", .str "ops"),
      ("permissions", .arr permissions)])])

def assignmentRow (originDomain : String) (occurredAt : Int) (state : String) :
    FederationExtensionEvent :=
  governanceRow ArblargSDK.rolesRoleAssignmentUpsertEventType originDomain
    "role_assignment:ops:member:https://a.example/users/u:channel:1" occurredAt
    (.obj [("assignment", .obj [("role_id", .str "ops"),
      ("target", .obj [("type", .str "member"),
        ("id", .str "https://a.example/users/u")]),
      ("state", .str state)])])

def contestedRows : List FederationExtensionEvent :=
  [roleRow "a.example" 1 [.str "manage_messages"], roleRow "b.example" 2 [],
    assignmentRow "a.example" 3 "assigned", assignmentRow "b.example" 4 "removed"]

theorem permissions_follow_the_reading :
    ¬ ∀ conversationId rows, FunctionOfFacts conversationId rows := by
  intro claim
  have swapped := (claim 1 contestedRows).anyOrder "member" "https://a.example/users/u"
    [roleRow "b.example" 2 [], roleRow "a.example" 1 [.str "manage_messages"],
      assignmentRow "a.example" 3 "assigned", assignmentRow "b.example" 4 "removed"]
    (.swap _ _ _) "manage_messages"
  revert swapped
  decide

end Elektrine.Messaging.RoomACL
