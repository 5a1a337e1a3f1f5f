import Elektrine.Library.Runs
import Elektrine.Library.SerialRows

/-!
# OAuth grants

Authorization codes that are consumed and exchanged for tokens, and tokens that are
refreshed and revoked.  A code and a token are locked by the transaction that consumes or
refreshes them, and whoever wants the row waits for it; the user is read before the new
token is inserted.
-/

namespace Elektrine.OAuth

open Elektrine.Library

structure User where
  id : Nat
  banned : Bool
  suspended : Bool
  suspendedUntil : Option Nat
  authValidAfter : Option Nat
deriving DecidableEq, Repr

structure App where
  id : Nat
  scopes : List String
deriving DecidableEq, Repr

structure Identity where
  subject : Option String
  domain : Option String
  did : Option String
deriving DecidableEq, Repr

structure Authorization where
  id : Nat
  appId : Nat
  userId : Option Nat
  token : String
  scopes : List String
  validUntil : Nat
  used : Bool
  nonce : Option String
  identity : Identity
  insertedAt : Nat
deriving DecidableEq, Repr

structure Token where
  id : Nat
  appId : Nat
  userId : Option Nat
  token : String
  refreshToken : String
  scopes : List String
  validUntil : Nat
  oidcNonce : Option String
  oidcAuthTime : Option Nat
  identity : Identity
  insertedAt : Nat
deriving DecidableEq, Repr

inductive Refusal where
  | notFound
  | accountBanned
  | accountSuspended
  | codeInvalidated
  | appMismatch
  | invalidScope
  | taken
deriving DecidableEq, Repr

def userSuspended (user : User) (now : Nat) : Bool :=
  user.suspended && user.suspendedUntil.all fun suspendedUntil => decide (now < suspendedUntil)

/-- `ensure_active_user`; a grant without a user has an active one. -/
def ensureActiveUser (user : Option User) (now : Nat) : Except Refusal Unit :=
  match user with
  | none => .ok ()
  | some user =>
      if user.banned then .error .accountBanned
      else if userSuspended user now then .error .accountSuspended
      else .ok ()

/-- `token_older_than_auth_boundary?`, for the time of a code or of a token. -/
def olderThanAuthBoundary (user : Option User) (insertedAt : Nat) : Bool :=
  (user.bind User.authValidAfter).any fun validAfter => decide (insertedAt < validAfter)

def validateRequestedScopes (requested allowed : List String) : Except Refusal Unit :=
  if requested.all allowed.contains then .ok () else .error .invalidScope

structure TokenAttrs where
  scopes : Option (List String)
  oidcNonce : Option String
  oidcAuthTime : Option Nat
  identity : Identity
deriving DecidableEq, Repr

abbrev Tokens := SerialRows Token Token.id

abbrev Authorizations := SerialRows Authorization Authorization.id

/-- The digest function, the random secrets of the rows with an id, and the lifetimes of
codes and tokens. -/
structure Secrets where
  hashSecret : String → String
  code : Nat → String
  access : Nat → String
  refresh : Nat → String
  authorizationLifetime : Nat
  tokenLifetime : Nat

section Calls

variable (secrets : Secrets)

def buildToken (app : App) (user : Option User) (attrs : TokenAttrs) (now id : Nat) : Token :=
  { id := id
    appId := app.id
    userId := user.map User.id
    token := secrets.hashSecret (secrets.access id)
    refreshToken := secrets.hashSecret (secrets.refresh id)
    scopes := attrs.scopes.getD app.scopes
    validUntil := now + secrets.tokenLifetime
    oidcNonce := attrs.oidcNonce
    oidcAuthTime := attrs.oidcAuthTime
    identity := attrs.identity
    insertedAt := now }

theorem id_buildToken (app : App) (user : Option User) (attrs : TokenAttrs) (now id : Nat) :
    (buildToken secrets app user attrs now id).id = id := rfl

def insertToken (tokens : Tokens) (make : Nat → Token) (keyed : ∀ id, (make id).id = id) :
    Except Refusal (Token × Tokens) :=
  let token := make tokens.next
  if tokens.rows.any fun other =>
      decide (other.token = token.token) || decide (other.refreshToken = token.refreshToken) then
    .error .taken
  else .ok (token, tokens.append make keyed)

def create (app : App) (user : Option User) (attrs : TokenAttrs) (now : Nat) (tokens : Tokens) :
    Except Refusal (Token × Tokens) := do
  ensureActiveUser user now
  validateRequestedScopes (attrs.scopes.getD app.scopes) app.scopes
  insertToken tokens (buildToken secrets app user attrs now)
    (id_buildToken secrets app user attrs now)

/-- What `exchange_token` hands to `create`. -/
def exchangeAttrs (authorization : Authorization) : TokenAttrs :=
  { scopes := some authorization.scopes
    oidcNonce := authorization.nonce
    oidcAuthTime := some authorization.insertedAt
    identity := authorization.identity }

/-- What `refresh` hands to `create`. -/
def refreshAttrs (old : Token) : TokenAttrs :=
  { scopes := some old.scopes
    oidcNonce := old.oidcNonce
    oidcAuthTime := old.oidcAuthTime
    identity := old.identity }

/-- A call of `exchange_token` that has read the user and not yet created the token. -/
structure Exchanging where
  app : App
  authorization : Authorization
  user : Option User
deriving DecidableEq, Repr

/-- A transaction of `refresh` that holds the lock on the row of a token. -/
structure Refreshing where
  app : App
  old : Token
  user : Option User
deriving DecidableEq, Repr

inductive Outcome where
  | consumed (authorization : Authorization)
  | exchanged (authorization : Authorization) (token : Token) (user : Option User)
  | refreshed (old token : Token) (user : Option User)
  | revoked
  | refused (reason : Refusal)
  | raised
deriving DecidableEq, Repr

/-- `consuming` are the locked codes. -/
structure State where
  authorizations : Authorizations
  tokens : Tokens
  users : List User
  consuming : List Authorization
  exchanging : List Exchanging
  refreshing : List Refreshing
  outcomes : List Outcome

def start (users : List User) : State :=
  { authorizations := .empty _ _
    tokens := .empty _ _
    users := users
    consuming := []
    exchanging := []
    refreshing := []
    outcomes := [] }

def State.user (state : State) (userId : Option Nat) : Option User :=
  userId.bind fun id => state.users.find? fun user => decide (user.id = id)

def State.finish (state : State) (outcome : Outcome) : State :=
  { state with outcomes := state.outcomes ++ [outcome] }

inductive Move where
  /-- `create_authorization`. -/
  | authorize (app : App) (userId : Option Nat) (scopes : List String) (nonce : Option String)
      (identity : Identity) (now : Nat)
  /-- `consume_token` asks for the row of a code. -/
  | lockCode (appId : Nat) (code : String) (now : Nat)
  | useCode (index : Nat)
  /-- `exchange_token` up to the user. -/
  | readUser (app : App) (authorization : Authorization)
  | createToken (index now : Nat)
  /-- `refresh` asks for the row of a token and reads its user. -/
  | lockToken (app : App) (refreshToken : String) (now : Nat)
  | replaceToken (index now : Nat)
  /-- `revoke`, for one app or for all. -/
  | revoke (appId : Option Nat) (token : String)
  | changeUsers (users : List User)

def buildAuthorization (app : App) (userId : Option Nat) (scopes : List String)
    (nonce : Option String) (identity : Identity) (now id : Nat) : Authorization :=
  { id := id
    appId := app.id
    userId := userId
    token := secrets.hashSecret (secrets.code id)
    scopes := scopes
    validUntil := now + secrets.authorizationLifetime
    used := false
    nonce := nonce
    identity := identity
    insertedAt := now }

/-- The query of `consume_token`. -/
def State.findCode (state : State) (appId : Nat) (code : String) (now : Nat) :
    Option Authorization :=
  state.authorizations.rows.find? fun row =>
    decide (row.appId = appId) && decide (row.token = secrets.hashSecret code) && !row.used &&
      decide (now < row.validUntil)

def State.lockCode (state : State) (appId : Nat) (code : String) (now : Nat) : State :=
  match state.findCode secrets appId code now with
  | none => state.finish (.refused .notFound)
  | some row =>
      if state.consuming.any fun locked => decide (locked.id = row.id) then state
      else { state with consuming := state.consuming ++ [row] }

def useAuthorization (authorization : Authorization) : Authorization :=
  { authorization with used := true }

theorem id_useAuthorization (authorization : Authorization) :
    (useAuthorization authorization).id = authorization.id := rfl

/-- The update and the commit of `consume_token`. -/
def State.useCode (state : State) (index : Nat) (row : Authorization) : State :=
  { state with
    authorizations := state.authorizations.modify row.id useAuthorization id_useAuthorization
    consuming := state.consuming.eraseIdx index
    outcomes := state.outcomes ++ [.consumed (useAuthorization row)] }

def State.readUser (state : State) (app : App) (authorization : Authorization) : State :=
  if authorization.appId = app.id then
    let user := state.user authorization.userId
    if olderThanAuthBoundary user authorization.insertedAt then
      state.finish (.refused .codeInvalidated)
    else { state with exchanging := state.exchanging ++ [⟨app, authorization, user⟩] }
  else state.finish (.refused .appMismatch)

def State.createToken (state : State) (index : Nat) (call : Exchanging) (now : Nat) : State :=
  let returned := { state with exchanging := state.exchanging.eraseIdx index }
  match create secrets call.app call.user (exchangeAttrs call.authorization) now state.tokens with
  | .error reason => returned.finish (.refused reason)
  | .ok (token, tokens) =>
      { returned with
        tokens := tokens
        outcomes := state.outcomes ++
          [.exchanged call.authorization token (state.user call.authorization.userId)] }

/-- The query of `refresh`. -/
def State.findToken (state : State) (app : App) (refreshToken : String) (now : Nat) :
    Option Token :=
  state.tokens.rows.find? fun row =>
    decide (row.appId = app.id) && decide (row.refreshToken = secrets.hashSecret refreshToken) &&
      decide (now < row.validUntil)

def State.lockToken (state : State) (app : App) (refreshToken : String) (now : Nat) : State :=
  match state.findToken secrets app refreshToken now with
  | none => state.finish (.refused .notFound)
  | some old =>
      if state.refreshing.any fun transaction => decide (transaction.old.id = old.id) then state
      else
        match ensureActiveUser (state.user old.userId) now with
        | .error reason => state.finish (.refused reason)
        | .ok () =>
            -- No clause of the `else` takes `true`.
            if olderThanAuthBoundary (state.user old.userId) old.insertedAt then
              state.finish .raised
            else
              { state with
                refreshing := state.refreshing ++ [⟨app, old, state.user old.userId⟩] }

/-- The rest of the transaction: where the old row is not deleted or the new one is refused,
it is rolled back. -/
def State.replaceToken (state : State) (index : Nat) (transaction : Refreshing) (now : Nat) :
    State :=
  let ended := { state with refreshing := state.refreshing.eraseIdx index }
  let deleted := state.tokens.delete transaction.old.id
  if state.tokens.rows.length - deleted.rows.length = 1 then
    match create secrets transaction.app transaction.user (refreshAttrs transaction.old) now
        deleted with
    | .error reason => ended.finish (.refused reason)
    | .ok (token, tokens) =>
        { ended with
          tokens := tokens
          outcomes := state.outcomes ++
            [.refreshed transaction.old token (state.user transaction.old.userId)] }
  else ended.finish (.refused .notFound)

def matchesRevoked (appId : Option Nat) (token : String) (row : Token) : Bool :=
  (appId.all fun id => decide (row.appId = id)) &&
    (decide (row.token = secrets.hashSecret token) ||
      decide (row.refreshToken = secrets.hashSecret token))

def State.revoke (state : State) (appId : Option Nat) (token : String) : State :=
  if state.refreshing.any fun transaction =>
      matchesRevoked secrets appId token transaction.old then state
  else if state.tokens.rows.any (matchesRevoked secrets appId token) then
    { state with
      tokens := state.tokens.retain fun row => !matchesRevoked secrets appId token row
      outcomes := state.outcomes ++ [.revoked] }
  else state.finish (.refused .notFound)

def step (state : State) : Move → State
  | .authorize app userId scopes nonce identity now =>
      { state with
        authorizations := state.authorizations.append
          (buildAuthorization secrets app userId scopes nonce identity now) fun _ => rfl }
  | .lockCode appId code now => state.lockCode secrets appId code now
  | .useCode index =>
      match state.consuming[index]? with
      | some row => state.useCode index row
      | none => state
  | .readUser app authorization => state.readUser app authorization
  | .createToken index now =>
      match state.exchanging[index]? with
      | some call => state.createToken secrets index call now
      | none => state
  | .lockToken app refreshToken now => state.lockToken secrets app refreshToken now
  | .replaceToken index now =>
      match state.refreshing[index]? with
      | some transaction => state.replaceToken secrets index transaction now
      | none => state
  | .revoke appId token => state.revoke secrets appId token
  | .changeUsers users => { state with users := users }

end Calls

def Outcome.consumedCode : Outcome → Option Nat
  | .consumed authorization => some authorization.id
  | _ => none

def Outcome.refreshedToken : Outcome → Option Nat
  | .refreshed old _ _ => some old.id
  | _ => none

inductive Descends (outcomes : List Outcome) (authorization : Authorization) : Token → Prop where
  | exchanged {token : Token} {user : Option User} :
      .exchanged authorization token user ∈ outcomes → Descends outcomes authorization token
  | refreshed {old token : Token} {user : Option User} :
      Descends outcomes authorization old → .refreshed old token user ∈ outcomes →
      Descends outcomes authorization token

/-- A code is consumed once and a refresh token exchanged once, which ends it; the scopes of a
token are among those of its authorization; no token was issued past the boundary of its
user; and no call has raised. -/
structure SingleUse (state : State) : Prop where
  codes : (state.outcomes.filterMap Outcome.consumedCode).Nodup
  refreshes : (state.outcomes.filterMap Outcome.refreshedToken).Nodup
  ended : ∀ old token user, .refreshed old token user ∈ state.outcomes →
    ∀ row ∈ state.tokens.rows, row.refreshToken ≠ old.refreshToken
  scopes : ∀ authorization token, Descends state.outcomes authorization token →
    ∀ scope ∈ token.scopes, scope ∈ authorization.scopes
  exchangedInTime : ∀ authorization token user,
    .exchanged authorization token user ∈ state.outcomes →
    olderThanAuthBoundary user authorization.insertedAt = false
  refreshedInTime : ∀ old token user, .refreshed old token user ∈ state.outcomes →
    olderThanAuthBoundary user old.insertedAt = false
  answered : .raised ∉ state.outcomes

/-- The condition on a step and the state before it.  A refresh that finds its token, with
the row not locked and the user active, finds it not older than the user's boundary; and
where a token is created, the user's boundary is still what the call has read. -/
def Careful (secrets : Secrets) (state : State) : Move → Prop
  | .lockToken app refreshToken now =>
      ∀ old, state.findToken secrets app refreshToken now = some old →
        (∀ transaction ∈ state.refreshing, transaction.old.id ≠ old.id) →
        ensureActiveUser (state.user old.userId) now = .ok () →
        olderThanAuthBoundary (state.user old.userId) old.insertedAt = false
  | .createToken index _ =>
      ∀ call, state.exchanging[index]? = some call →
        (state.user call.authorization.userId).bind User.authValidAfter =
          call.user.bind User.authValidAfter
  | .replaceToken index _ =>
      ∀ transaction, state.refreshing[index]? = some transaction →
        (state.user transaction.old.userId).bind User.authValidAfter =
          transaction.user.bind User.authValidAfter
  | _ => True

end Elektrine.OAuth
