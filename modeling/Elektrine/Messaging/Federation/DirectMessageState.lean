import Elektrine.Messaging.Federation.Validation

/-!
# Parties of a direct message

Remote parties are known by their handle.  The actors a payload names are read
into a normalized identity, and a stored identity is written out as a payload.
-/

namespace Elektrine.Messaging.Federation

structure DmHandle where
  username : String
  domain : String
  deriving DecidableEq, Repr

def DmHandle.handle (identity : DmHandle) : String :=
  identity.username ++ "@" ++ identity.domain

structure DmActor where
  uri : String
  identity : DmHandle
  displayName : String
  avatarUrl : Option String
  deriving DecidableEq, Repr

def DmActor.ofHandle (identity : DmHandle) : DmActor where
  uri := "https://" ++ identity.domain ++ "/users/" ++ identity.username
  identity := identity
  displayName := identity.username
  avatarUrl := none

namespace DirectMessageState

/-- `[a-z0-9][a-z0-9_.-]{0,63}` -/
def validHandleUsername (username : String) : Bool :=
  match username.toList with
  | [] => false
  | first :: rest =>
      (first.isLower || first.isDigit) && rest.length ≤ 63 &&
        rest.all fun character =>
          character.isLower || character.isDigit || character == '_' ||
            character == '.' || character == '-'

/-- `[a-z0-9.-]+\.[a-z]{2,}` -/
def validHandleDomain (domain : String) : Bool :=
  let (topLevel, rest) := domain.toList.reverse.span (· != '.')
  2 ≤ topLevel.length && topLevel.all Char.isLower &&
    match rest with
    | '.' :: front =>
        !front.isEmpty && front.all fun character =>
          character.isLower || character.isDigit || character == '.' ||
            character == '-'
    | _ => false

def normalizeRemoteDmHandle (handle : String) : Except Reason DmHandle :=
  let trimmed := (trim handle).toList.dropWhile (· == '@')
  match splitFirst '@' (downcase (String.ofList trimmed)) with
  | some (username, domain) =>
      if validHandleUsername username && validHandleDomain domain then
        .ok ⟨username, domain⟩
      else
        .error .invalidRemoteHandle
  | none => .error .invalidRemoteHandle

example : normalizeRemoteDmHandle " @Mallory@Alice.dev" =
    .ok ⟨"mallory", "alice.dev"⟩ := by
  decide

/-- `dm_actor_payload` of a party. -/
def dmActorPayload (actor : DmActor) : Json :=
  .obj ([("id", .str actor.uri), ("uri", .str actor.uri),
    ("username", .str actor.identity.username),
    ("display_name", .str actor.displayName),
    ("domain", .str actor.identity.domain),
    ("handle", .str actor.identity.handle)] ++
    ((actor.avatarUrl.bind present).map fun _ =>
      ("avatar_url", Json.str (actor.avatarUrl.getD ""))).toList)

def normalizeDmActorPayload (payload : Json) (fallbackDomain : String) :
    Except Reason DmActor := do
  let identity ←
    match normalizeOptionalString (payload.get "handle"),
        normalizeOptionalString (payload.get "username") with
    | some handle, _ => normalizeRemoteDmHandle handle
    | none, some username =>
        normalizeRemoteDmHandle (username ++ "@" ++
          (normalizeOptionalString (payload.get "domain")).getD
            (downcase fallbackDomain))
    | none, none => .error .invalidEventPayload
  match normalizeOptionalString (payload.get "uri") with
  | some uri =>
      if absoluteHttpUri uri then
        .ok
          { uri := uri
            identity := identity
            displayName := (normalizeOptionalString
              (payload.get "display_name")).getD identity.username
            avatarUrl := normalizeOptionalString
              ((payload.get "avatar_url").orElse (payload.get "avatar")) }
      else
        .error .invalidEventPayload
  | none => .error .invalidEventPayload

def resolveRemoteDmSender (senderPayload : Json) (remoteDomain : String) :
    Except Reason DmActor :=
  if senderPayload.isMap then
    match normalizeDmActorPayload senderPayload (downcase remoteDomain) with
    | .ok sender =>
        if sender.identity.domain = downcase remoteDomain then .ok sender
        else .error .originDomainMismatch
    | .error _ => .error .invalidEventPayload
  else
    .error .invalidEventPayload

end DirectMessageState

end Elektrine.Messaging.Federation
