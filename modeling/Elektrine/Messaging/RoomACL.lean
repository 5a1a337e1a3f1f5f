import Elektrine.Data.Json
import Elektrine.Messaging.ArblargSDK

/-!
# Permissions in a room

The permissions of an active actor come from its role, from the roles assigned
to it and from the overwrites of the room, all of which are kept as extension
events.
-/

namespace Elektrine.Messaging.RoomACL

abbrev Permissions := List String

structure BuiltinRole where
  id : String
  position : Nat
  permissions : Permissions

def builtinRoles : List BuiltinRole :=
  [{ id := "builtin:owner"
     position := 100
     permissions :=
      ["manage_roles", "manage_permissions", "manage_moderation",
        "manage_messages", "manage_channels", "manage_threads",
        "create_threads", "view_audit_log", "manage_webhooks", "manage_server",
        "invite_members", "send_messages", "send_tts_messages",
        "send_voice_signaling", "attach_files", "embed_links",
        "mention_everyone", "use_external_emoji"] },
   { id := "builtin:admin"
     position := 80
     permissions :=
      ["manage_roles", "manage_permissions", "manage_moderation",
        "manage_messages", "manage_channels", "manage_threads",
        "create_threads", "view_audit_log", "manage_webhooks",
        "invite_members", "send_messages", "send_tts_messages",
        "send_voice_signaling", "attach_files", "embed_links",
        "mention_everyone", "use_external_emoji"] },
   { id := "builtin:moderator"
     position := 60
     permissions :=
      ["manage_moderation", "manage_messages", "manage_threads",
        "invite_members", "send_messages", "attach_files", "embed_links",
        "use_external_emoji"] },
   { id := "builtin:member"
     position := 10
     permissions :=
      ["send_messages", "attach_files", "embed_links", "use_external_emoji"] },
   { id := "builtin:readonly"
     position := 0
     permissions := ["read_messages"] }]

def baseRoleIds : List (String × String) :=
  [("owner", "builtin:owner"), ("admin", "builtin:admin"),
    ("moderator", "builtin:moderator"), ("member", "builtin:member"),
    ("readonly", "builtin:readonly")]

structure RoleAssignment where
  roleId : String
  targetType : String
  targetId : String
  state : String
  deriving DecidableEq, Repr

structure PermissionOverwrite where
  targetType : String
  targetId : String
  allow : Permissions
  deny : Permissions
  deriving DecidableEq, Repr

structure AclState where
  roleDefinitions : List (String × Permissions)
  roleAssignments : List RoleAssignment
  permissionOverwrites : List PermissionOverwrite

def AclState.empty : AclState := ⟨[], [], []⟩

def normalizePermissions (values : Json) : Permissions :=
  (values.asList?.getD []).filterMap Json.asString?

def loadAclEvent (state : AclState) (event : String × Json) : AclState :=
  let (eventType, payload) := event
  if eventType = ArblargSDK.rolesRoleUpsertEventType then
    match payload.getIn ["role", "id"] with
    | .str roleId =>
        { state with
          roleDefinitions :=
            (roleId, normalizePermissions (payload.getIn ["role", "permissions"]))
              :: state.roleDefinitions }
    | _ => state
  else if eventType = ArblargSDK.rolesRoleAssignmentUpsertEventType then
    match payload.getIn ["assignment", "role_id"],
        payload.getIn ["assignment", "target", "type"],
        payload.getIn ["assignment", "target", "id"],
        payload.getIn ["assignment", "state"] with
    | .str roleId, .str targetType, .str targetId, .str assigned =>
        { state with
          roleAssignments :=
            ⟨roleId, targetType, targetId, assigned⟩ :: state.roleAssignments }
    | _, _, _, _ => state
  else if eventType = ArblargSDK.permissionsOverwriteUpsertEventType then
    match payload.getIn ["overwrite", "target", "type"],
        payload.getIn ["overwrite", "target", "id"] with
    | .str targetType, .str targetId =>
        { state with
          permissionOverwrites :=
            ⟨targetType, targetId,
              normalizePermissions (payload.getIn ["overwrite", "allow"]),
              normalizePermissions (payload.getIn ["overwrite", "deny"])⟩
              :: state.permissionOverwrites }
    | _, _ => state
  else
    state

def loadAclState (events : List (String × Json)) : AclState :=
  events.foldl loadAclEvent .empty

def builtinRole (roleId : String) : Option BuiltinRole :=
  builtinRoles.find? fun role => role.id == roleId

def rolePosition (roleId : String) : Nat :=
  ((builtinRole roleId).map BuiltinRole.position).getD 0

def targetsActor (targetType targetId actorUri : String) : Bool :=
  ["member", "user"].contains targetType && targetId == actorUri

def assignedRoleIds (actorUri : String) (assignments : List RoleAssignment) :
    List String :=
  ((assignments.filter fun assignment =>
    assignment.state == "assigned" &&
      targetsActor assignment.targetType assignment.targetId actorUri).map
    RoleAssignment.roleId).eraseDups

/-- `Enum.max_by` over role positions: the first of the highest ones. -/
def highestRole (first : String) (rest : List String) : String :=
  rest.foldl
    (fun highest roleId =>
      if rolePosition highest < rolePosition roleId then roleId else highest)
    first

def effectiveRoleIds (baseRole : String) (assigned : List String) :
    List String :=
  let effectiveBuiltinId :=
    match assigned.filter fun roleId => (builtinRole roleId).isSome with
    | [] => (baseRoleIds.lookup baseRole).getD "builtin:member"
    | first :: rest => highestRole first rest
  (effectiveBuiltinId ::
    assigned.filter fun roleId => (builtinRole roleId).isNone).eraseDups

def rolePermissions (roleId : String)
    (definitions : List (String × Permissions)) : Permissions :=
  match builtinRole roleId with
  | some role => role.permissions
  | none => (definitions.lookup roleId).getD []

def applyOverwrites (selected : PermissionOverwrite → Bool)
    (permissions : Permissions) (overwrites : List PermissionOverwrite) :
    Permissions :=
  let chosen := overwrites.filter selected
  (permissions.filter fun permission =>
    !(chosen.flatMap PermissionOverwrite.deny).contains permission) ++
    chosen.flatMap PermissionOverwrite.allow

def applyRoleOverwrites (permissions : Permissions) (roleIds : List String)
    (overwrites : List PermissionOverwrite) : Permissions :=
  applyOverwrites
    (fun overwrite =>
      overwrite.targetType == "role" && roleIds.contains overwrite.targetId)
    permissions overwrites

def applyMemberOverwrites (permissions : Permissions) (actorUri : String)
    (overwrites : List PermissionOverwrite) : Permissions :=
  applyOverwrites
    (fun overwrite =>
      targetsActor overwrite.targetType overwrite.targetId actorUri)
    permissions overwrites

def effectivePermissions (state : AclState) (baseRole actorUri : String) :
    Permissions :=
  let roleIds :=
    effectiveRoleIds baseRole (assignedRoleIds actorUri state.roleAssignments)
  applyMemberOverwrites
    (applyRoleOverwrites
      (roleIds.flatMap fun roleId => rolePermissions roleId state.roleDefinitions)
      roleIds state.permissionOverwrites)
    actorUri state.permissionOverwrites

inductive Action where
  | participate
  | write
  | sendMessages
  | sendVoiceSignaling
  | attachFiles
  | embedLinks
  | mentionEveryone
  | manageMessages
  | manageChannels
  | manageWebhooks
  | manageServer
  | invite
  | ban
  | moderationAction
  | roleUpsert
  | roleAssignment
  | permissionOverwrite
  | threadUpsert
  | threadArchive
  | createThreads
  | manageThreads
  deriving DecidableEq, Repr

structure Options where
  ownerActorUri : Option String
  threadOwnerActorUri : Option String
  ownerRemoteActorId : Option Int
  threadOwnerRemoteActorId : Option Int
  remoteActorId : Option Int

def ownerMatches (options : Options) (actorUri : String) : Bool :=
  options.ownerActorUri == some actorUri ||
    options.threadOwnerActorUri == some actorUri ||
    options.ownerRemoteActorId == options.remoteActorId ||
    options.threadOwnerRemoteActorId == options.remoteActorId

def channelAllows (permissions : Permissions) (actorUri : String)
    (options : Options) (action : Action) : Bool :=
  let has (permission : String) := permissions.contains permission
  match action with
  | .participate => true
  | .write | .sendMessages => has "send_messages"
  | .sendVoiceSignaling => false
  | .attachFiles => has "attach_files"
  | .embedLinks => has "embed_links"
  | .mentionEveryone => has "mention_everyone"
  | .manageMessages => has "manage_messages"
  | .manageChannels => has "manage_channels"
  | .manageWebhooks => has "manage_webhooks"
  | .manageServer => has "manage_server"
  | .invite => has "invite_members"
  | .ban | .moderationAction => has "manage_moderation"
  | .roleUpsert | .roleAssignment => has "manage_roles"
  | .permissionOverwrite => has "manage_permissions"
  | .threadUpsert | .threadArchive =>
      has "manage_threads" || has "manage_moderation" ||
        ownerMatches options actorUri
  | .createThreads =>
      has "create_threads" || has "manage_threads" || has "manage_moderation"
  | .manageThreads => has "manage_threads" || has "manage_moderation"

/-- `allowed?` for a room of the given type. -/
def allowed (conversationType : String) (state : AclState)
    (baseRole actorUri : String) (action : Action) (options : Options) : Bool :=
  if conversationType = "voice_channel" then
    action == .participate || action == .sendVoiceSignaling
  else if conversationType = "channel" then
    channelAllows (effectivePermissions state baseRole actorUri) actorUri options
      action
  else
    action == .participate || action == .write || action == .sendMessages

section Overwrites

variable {selected : PermissionOverwrite → Bool} {permissions : Permissions}
  {overwrites : List PermissionOverwrite} {permission : String}

theorem mem_applyOverwrites_iff :
    permission ∈ applyOverwrites selected permissions overwrites ↔
      (permission ∈ permissions ∧
        ∀ overwrite ∈ overwrites, selected overwrite = true →
          permission ∉ overwrite.deny) ∨
      ∃ overwrite ∈ overwrites, selected overwrite = true ∧
        permission ∈ overwrite.allow := by
  simp only [applyOverwrites, List.mem_append, List.mem_filter,
    List.contains_eq_mem, List.mem_flatMap, Bool.not_eq_true',
    decide_eq_false_iff_not, not_exists, not_and, and_assoc]

end Overwrites

end Elektrine.Messaging.RoomACL
