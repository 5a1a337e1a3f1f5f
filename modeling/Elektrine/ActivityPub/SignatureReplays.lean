import Elektrine.ActivityPub.HttpSignatures
import Mathlib.Order.Basic

/-!
# Requests that are sent again

A nonce is kept for the longest age and the clock skew together.  It is taken of what is
signed and also of parameters and headers that may not be, and a signature whose only signed
time stamp says when it expires can outlive its nonce.
-/

namespace Elektrine.ActivityPub

open Elektrine.Library

structure Window where
  opens : Option Int
  closes : Option Int

namespace Window

def Holds (window : Window) (time : Int) : Prop :=
  (∀ first, window.opens = some first → first ≤ time) ∧
    ∀ last, window.closes = some last → time ≤ last

/-- No time from this one on is in the window. -/
def OverBy (window : Window) (time : Int) : Prop :=
  ∃ last, window.closes = some last ∧
    (last < time ∨ ∃ first, window.opens = some first ∧ last < first)

def ClosesBy (window : Window) (time : Int) : Prop :=
  ∃ last, window.closes = some last ∧ last ≤ time

variable {window : Window} {time bound : Int}

theorem not_overBy (holds : window.Holds bound) (later : time ≤ bound) :
    ¬ window.OverBy time := by
  intro ⟨last, closes, early⟩
  have within := holds.2 last closes
  rcases early with before | ⟨first, opens, empty⟩
  · omega
  · have reached := holds.1 first opens
    omega

theorem exists_holds_after (notOver : ¬ window.OverBy time) (short : ¬ window.ClosesBy bound) :
    ∃ moment, time ≤ moment ∧ bound < moment ∧ window.Holds moment := by
  obtain ⟨opens, closes⟩ := window
  cases closes with
  | none =>
      have endless : ∀ moment, (∀ first, opens = some first → first ≤ moment) →
          (⟨opens, none⟩ : Window).Holds moment := by
        intro moment reached
        refine ⟨reached, ?_⟩
        intro last closes
        cases closes
      cases opens with
      | none =>
          refine ⟨max time (bound + 1), by omega, by omega, endless _ ?_⟩
          intro first starts
          cases starts
      | some start =>
          refine ⟨max (max time start) (bound + 1), by omega, by omega, endless _ ?_⟩
          intro first starts
          cases starts
          omega
  | some last =>
      -- the last time of the window itself
      refine ⟨last, ?_, ?_, ?_, ?_⟩
      · by_contra early
        exact notOver ⟨last, rfl, .inl (by omega)⟩
      · by_contra closed
        exact short ⟨last, rfl, by omega⟩
      · intro first starts
        by_contra empty
        exact notOver ⟨last, rfl, .inr ⟨first, starts, by omega⟩⟩
      · intro other same
        cases same
        exact Int.le_refl _

theorem exists_holds (notOver : ¬ window.OverBy time) :
    ∃ moment, time ≤ moment ∧ window.Holds moment := by
  have short : ¬ window.ClosesBy (time - 1) := by
    intro ⟨last, closes, early⟩
    exact notOver ⟨last, closes, .inl (by omega)⟩
  obtain ⟨moment, later, _, holds⟩ := exists_holds_after notOver short
  exact ⟨moment, later, holds⟩

end Window

variable (environment : Environment)

def expiresBound (createdAt expiresAt : Option Int) : Option Int :=
  match createdAt, expiresAt with
  | none, none => none
  | some createdAt, none => some (createdAt + environment.signatureMaxAgeSeconds)
  | none, some expiresAt => some (expiresAt + environment.signatureClockSkewSeconds)
  | some createdAt, some expiresAt =>
      some (min (createdAt + environment.signatureMaxAgeSeconds)
        (expiresAt + environment.signatureClockSkewSeconds))

def createdExpiresWindow (params : SignatureParams) : Option Window :=
  match parseOptionalUnixTimestamp params.created, parseOptionalUnixTimestamp params.expires with
  | .ok createdAt, .ok expiresAt =>
      match validateCreatedBeforeExpires createdAt expiresAt with
      | .ok () =>
          some ⟨createdAt.map (· - environment.signatureClockSkewSeconds),
            expiresBound environment createdAt expiresAt⟩
      | .error _ => none
  | _, _ => none

def dateWindow (conn : Conn) : Option Window :=
  match (conn.getReqHeader "date").head? with
  | none => none
  | some dateHeader =>
      match environment.httpDate dateHeader with
      | none => none
      | some dateTime =>
          some ⟨some (dateTime - environment.signatureClockSkewSeconds),
            some (dateTime + environment.signatureMaxAgeSeconds)⟩

def timingWindow (conn : Conn) (names : List String) (params : SignatureParams) : Option Window :=
  if "(created)" ∈ names ∨ "(expires)" ∈ names then createdExpiresWindow environment params
  else if "date" ∈ names then dateWindow environment conn
  else none

variable {environment} {now : Int}

theorem createdExpires_holds_iff {createdAt expiresAt : Option Int} :
    (⟨createdAt.map (· - environment.signatureClockSkewSeconds),
      expiresBound environment createdAt expiresAt⟩ : Window).Holds now ↔
      validateCreatedTimestamp environment now createdAt = .ok () ∧
        validateExpiresTimestamp environment now expiresAt = .ok () := by
  rw [validateCreatedTimestamp_ok_iff, validateExpiresTimestamp_ok_iff, Window.Holds]
  cases createdAt with
  | none =>
      cases expiresAt with
      | none => simp [expiresBound]
      | some expires => simp [expiresBound]
  | some created =>
      cases expiresAt with
      | none => simp [expiresBound]
      | some expires =>
          simp only [expiresBound, Option.map_some, Option.some.injEq, forall_eq']
          omega

theorem validateCreatedExpires_ok_iff {params : SignatureParams} :
    validateCreatedExpires environment now params = .ok () ↔
      ∃ window, createdExpiresWindow environment params = some window ∧ window.Holds now := by
  unfold validateCreatedExpires createdExpiresWindow
  cases parseOptionalUnixTimestamp params.created with
  | error reason => simp [Bind.bind, Except.bind]
  | ok createdAt =>
      cases parseOptionalUnixTimestamp params.expires with
      | error reason => simp [Bind.bind, Except.bind]
      | ok expiresAt =>
          change (validateCreatedTimestamp environment now createdAt >>= fun _ =>
            validateExpiresTimestamp environment now expiresAt >>= fun _ =>
              validateCreatedBeforeExpires createdAt expiresAt) = .ok () ↔ _
          rw [unit_bind_ok_iff, unit_bind_ok_iff, ← and_assoc, ← createdExpires_holds_iff]
          simp only
          cases validateCreatedBeforeExpires createdAt expiresAt with
          | error reason => simp
          | ok passed => simp

theorem validateDateHeader_ok_iff {conn : Conn} :
    validateDateHeader environment now conn = .ok () ↔
      ∃ window, dateWindow environment conn = some window ∧ window.Holds now := by
  unfold validateDateHeader dateWindow
  cases (conn.getReqHeader "date").head? with
  | none => simp
  | some dateHeader =>
      simp only
      cases environment.httpDate dateHeader with
      | none => simp
      | some dateTime =>
          simp only [Option.some.injEq, exists_eq_left', Window.Holds, forall_eq']
          split_ifs with timely
          · simp only [true_iff]
            omega
          · simp only [false_iff]
            omega

theorem validateSignatureTiming_ok_iff {conn : Conn} {names : List String}
    {params : SignatureParams} :
    validateSignatureTiming environment now conn names params = .ok () ↔
      ∃ window, timingWindow environment conn names params = some window ∧
        window.Holds now := by
  unfold validateSignatureTiming timingWindow
  split_ifs
  · exact validateCreatedExpires_ok_iff
  · exact validateDateHeader_ok_iff
  · simp

variable (environment) in
def signatureWindow (request : SignedConn) : Option Window :=
  let names := parseSignedHeaders request.headersString
  match validateRequiredSignedHeaders names,
      validateRequestDigest environment request.conn names with
  | .ok (), .ok () => timingWindow environment request.conn names request.params
  | _, _ => none

theorem constraints_ok_iff {request : SignedConn} :
    validateSignatureConstraints environment now request.conn
        (parseSignedHeaders request.headersString) request.params = .ok () ↔
      ∃ window, signatureWindow environment request = some window ∧ window.Holds now := by
  rw [validateSignatureConstraints, unit_bind_ok_iff, unit_bind_ok_iff,
    validateSignatureTiming_ok_iff, signatureWindow]
  cases validateRequiredSignedHeaders (parseSignedHeaders request.headersString) with
  | error reason => simp
  | ok first =>
      cases validateRequestDigest environment request.conn
          (parseSignedHeaders request.headersString) with
      | error reason => simp
      | ok second => simp

inductive ReplayEvent where
  | prune (time : Int)
  | request (time : Int) (keys : KeyAnswers) (request : SignedConn)

def ReplayEvent.time : ReplayEvent → Int
  | .prune time => time
  | .request time _ _ => time

variable (environment) in
def cacheStep (replays : List RequestReplay) : ReplayEvent → List RequestReplay
  | .prune time => pruneExpired time replays
  | .request time keys request => (verifyWithKey environment time keys request replays).2

theorem verifyWithKey_keeps {time : Int} {keys : KeyAnswers} {request : SignedConn}
    {replays : List RequestReplay} {row : RequestReplay} (member : row ∈ replays) :
    row ∈ (verifyWithKey environment time keys request replays).2 := by
  have claimed : ∀ keyId names,
      row ∈ (claim environment time request keyId names replays).2 := by
    intro keyId names
    unfold claim
    simp only
    split_ifs
    · exact member
    · exact List.mem_append_left _ member
  have constrained : ∀ signingKey names,
      row ∈ (acceptConstrained environment time request signingKey names replays).2 := by
    intro signingKey names
    unfold acceptConstrained
    cases validateSignatureConstraints environment time request.conn names request.params with
    | error reason => exact member
    | ok passed =>
        have stored := claimed signingKey.keyId names
        simp only [acceptVerifiedSignature]
        revert stored
        cases claim environment time request signingKey.keyId names replays with
        | mk outcome after =>
            intro stored
            cases outcome with
            | error reason => exact stored
            | ok passed => exact stored
  unfold verifyWithKey
  cases keys.stored with
  | none => exact member
  | some publicKey =>
      simp only [verifySignatureWithKey]
      cases built : buildSigningString request.conn
          (parseSignedHeaders request.headersString) request.params with
      | error reason => exact member
      | ok signingString =>
          simp only
          split_ifs
          · exact constrained _ _
          · unfold retryWithRefreshedKey
            cases keys.refreshed with
            | none => exact member
            | some other =>
                simp only [built]
                split_ifs
                · exact constrained _ _
                · exact member

theorem row_stays {row : RequestReplay} {events : List ReplayEvent}
    {replays : List RequestReplay} (member : row ∈ replays)
    (early : ∀ event ∈ events, event.time ≤ row.expiresAt) :
    row ∈ events.foldl (cacheStep environment) replays := by
  induction events generalizing replays with
  | nil => exact member
  | cons event events ih =>
      apply ih
      · cases event with
        | prune time =>
            have timely := early _ List.mem_cons_self
            apply List.mem_filter.mpr
            exact ⟨member, decide_eq_true timely⟩
        | request time keys request => exact verifyWithKey_keeps member
      · intro other later
        exact early other (List.mem_cons_of_mem event later)

structure SameSigned (first second : SignedConn) : Prop where
  method : first.conn.method = second.conn.method
  path : first.conn.requestPath = second.conn.requestPath
  query : first.conn.queryString = second.conn.queryString
  serverHost : first.conn.host = second.conn.host
  host : first.conn.signedHost = second.conn.signedHost
  keyId : first.keyId = second.keyId
  signature : first.signature = second.signature
  names : parseSignedHeaders first.headersString = parseSignedHeaders second.headersString
  values : ∀ name ∈ parseSignedHeaders first.headersString,
    getHeaderValue first.conn name first.params = getHeaderValue second.conn name second.params

structure SameRest (first second : SignedConn) : Prop where
  created : first.params.created = second.params.created
  expires : first.params.expires = second.params.expires
  date : (first.conn.getReqHeader "date").head? = (second.conn.getReqHeader "date").head?
  digest : (first.conn.getReqHeader "digest").head? = (second.conn.getReqHeader "digest").head?

def nonceFields (request : SignedConn) : ReplayFields :=
  replayFields request request.keyId (parseSignedHeaders request.headersString)

theorem hostHeader_eq (conn : Conn) :
    hostHeader conn = if conn.signedHost = "" then conn.host else conn.signedHost := by
  unfold hostHeader Conn.signedHost
  cases (conn.getReqHeader "host").head? with
  | none => simp
  | some value => rfl

variable {first second : SignedConn}

theorem SameSigned.fields_iff (same : SameSigned first second) :
    nonceFields first = nonceFields second ↔ SameRest first second := by
  constructor
  · intro fields
    exact ⟨congrArg ReplayFields.created fields, congrArg ReplayFields.expires fields,
      congrArg ReplayFields.date fields, congrArg ReplayFields.digest fields⟩
  · intro rest
    have hosts : hostHeader first.conn = hostHeader second.conn := by
      rw [hostHeader_eq, hostHeader_eq, same.host, same.serverHost]
    simp only [nonceFields, replayFields, same.keyId, same.method, same.path, same.query,
      hosts, same.names, rest.created, rest.expires, rest.date, rest.digest, same.signature]

theorem SameSigned.signingString (same : SameSigned first second) :
    buildSigningString first.conn (parseSignedHeaders first.headersString) first.params =
      buildSigningString second.conn (parseSignedHeaders second.headersString)
        second.params := by
  have missing : (parseSignedHeaders first.headersString).filter
      (fun name => (getHeaderValue first.conn name first.params).isNone) =
      (parseSignedHeaders first.headersString).filter
        fun name => (getHeaderValue second.conn name second.params).isNone := by
    apply List.filter_congr
    intro name member
    rw [same.values name member]
  have lines : signingLines first.conn first.params (parseSignedHeaders first.headersString) =
      signingLines second.conn second.params (parseSignedHeaders first.headersString) := by
    apply List.filterMap_congr
    intro name member
    rw [same.values name member]
  unfold buildSigningString
  rw [missing, lines, same.names]

variable (environment) in
/-- The second request is not let in after the first one, whatever happens in between. -/
def AcceptedOnce (time : Int) (first second : SignedConn) : Prop :=
  ∀ keys signingKey replays after,
    verifyWithKey environment time keys first replays = (.ok signingKey, after) →
    ∀ later, time ≤ later → ∀ events : List ReplayEvent,
      (∀ event ∈ events, time ≤ event.time ∧ event.time ≤ later) →
      ∀ otherKeys signer, (verifyWithKey environment later otherKeys second
        (events.foldl (cacheStep environment) after)).1 ≠ .ok signer

variable (environment) in
/-- The second request has the same nonce and a window that closes before the nonce may go,
or its window is over. -/
def ReplayCovered (time : Int) (first second : SignedConn) : Prop :=
  ∀ window, signatureWindow environment second = some window →
    window.OverBy time ∨
      (SameRest first second ∧ window.ClosesBy (time + replayTtlSeconds environment))

theorem acceptedOnce_of_covered {time : Int} (same : SameSigned first second)
    (covered : ReplayCovered environment time first second) :
    AcceptedOnce environment time first second := by
  intro keys signingKey replays after ended later since events between otherKeys signer again
  have accepted := verifyWithKey_accepted ended
  obtain ⟨rest, repeated⟩ : ∃ rest, verifyWithKey environment later otherKeys second
      (events.foldl (cacheStep environment) after) = (.ok signer, rest) :=
    ⟨_, Prod.ext again rfl⟩
  have second_accepted := verifyWithKey_accepted repeated
  obtain ⟨window, found, holds⟩ := constraints_ok_iff.mp second_accepted.constraints
  rcases covered window found with ended | ⟨unsigned, last, closes, early⟩
  · exact Window.not_overBy holds since ended
  · have timely : later ≤ time + replayTtlSeconds environment :=
      Int.le_trans (holds.2 last closes) early
    have stored : replayRow environment time first first.keyId
        (parseSignedHeaders first.headersString) ∈ after := by
      rw [accepted.stored]
      exact List.mem_append_right _ (List.mem_singleton_self _)
    have stays : replayRow environment time first first.keyId
        (parseSignedHeaders first.headersString) ∈
          events.foldl (cacheStep environment) after := by
      apply row_stays stored
      intro event member
      exact Int.le_trans (between event member).2 timely
    have fields := same.fields_iff.mpr unsigned
    apply second_accepted.unseen _ stays
    exact congrArg (replayNonce environment) fields

theorem covered_of_acceptedOnce {time : Int} (same : SameSigned first second)
    {keys : KeyAnswers} {signingKey : SigningKey} {after : List RequestReplay}
    (ended : verifyWithKey environment time keys first [] = (.ok signingKey, after))
    (apart : replayNonce environment (nonceFields first) =
      replayNonce environment (nonceFields second) → nonceFields first = nonceFields second)
    (once : AcceptedOnce environment time first second) :
    ReplayCovered environment time first second := by
  have accepted := verifyWithKey_accepted ended
  obtain ⟨signingString, built, verified⟩ := accepted.verified
  rw [same.signingString] at built
  rw [same.signature] at verified
  have rows : after = [replayRow environment time first first.keyId
      (parseSignedHeaders first.headersString)] := accepted.stored
  intro window found
  by_contra uncovered
  obtain ⟨notOver, notClosed⟩ := not_or.mp uncovered
  have lets_in : ∀ later, window.Holds later → ∀ replays : List RequestReplay,
      (∀ other ∈ replays, other.nonce ≠ replayNonce environment (nonceFields second)) →
      (verifyWithKey environment later ⟨some signingKey.publicKey, none⟩ second replays).1 =
        .ok ⟨second.keyId, signingKey.publicKey⟩ := by
    intro later holds replays unseen
    exact verifyWithKey_of_verified built verified
      (constraints_ok_iff.mpr ⟨window, found, holds⟩) unseen
  by_cases unsigned : SameRest first second
  · have short : ¬ window.ClosesBy (time + replayTtlSeconds environment) :=
      fun closes => notClosed ⟨unsigned, closes⟩
    obtain ⟨later, since, past, holds⟩ := Window.exists_holds_after notOver short
    have pruned : [ReplayEvent.prune later].foldl (cacheStep environment) after = [] := by
      rw [rows]
      change pruneExpired later _ = []
      apply List.filter_eq_nil_iff.mpr
      intro row member
      cases List.mem_singleton.mp member
      intro kept
      have timely : later ≤ time + replayTtlSeconds environment := of_decide_eq_true kept
      omega
    apply once keys signingKey [] after ended later since [.prune later]
    · intro event member
      cases List.mem_singleton.mp member
      exact ⟨since, Int.le_refl later⟩
    · rw [pruned]
      apply lets_in later holds
      intro other member
      cases member
  · obtain ⟨later, since, holds⟩ := Window.exists_holds notOver
    apply once keys signingKey [] after ended later since []
    · intro event member
      cases member
    · apply lets_in later holds
      intro other member nonce
      rw [List.foldl_nil, rows] at member
      cases List.mem_singleton.mp member
      exact unsigned (same.fields_iff.mp (apart nonce))

/-- A request is let in once, for requests with one signature of which the first is let in,
exactly when the other's nonce is the same and outlives its window. -/
theorem accepted_once_iff {time : Int} (same : SameSigned first second)
    {keys : KeyAnswers} {signingKey : SigningKey} {after : List RequestReplay}
    (ended : verifyWithKey environment time keys first [] = (.ok signingKey, after))
    (apart : replayNonce environment (nonceFields first) =
      replayNonce environment (nonceFields second) → nonceFields first = nonceFields second) :
    AcceptedOnce environment time first second ↔
      ReplayCovered environment time first second :=
  ⟨covered_of_acceptedOnce same ended apart, acceptedOnce_of_covered same⟩

/-- Every signature verifies, every date is the time 1000, and a nonce tells one `created`
parameter from another. -/
def lenient : Environment where
  sha256 bytes := bytes
  verify _ _ _ := true
  httpDate _ := some 1000
  jason fields := (fields.created.getD "").toList.map fun character =>
    UInt8.ofNat character.toNat
  signatureMaxAgeSeconds := 300
  signatureClockSkewSeconds := 300

def datedRequest (created : Option String) (single : ∀ text, created = some text → OneLine text) :
    SignedConn where
  conn :=
    { method := "GET"
      requestPath := "/users/alice"
      queryString := ""
      host := "local.example"
      headers := [("host", "local.example"), ("date", "Thu, 01 Jan 1970 00:16:40 GMT")]
      rawBody := none
      single := by decide
      apart := by decide }
  keyId := "https://remote.example/users/bob#main-key"
  headersString := "(request-target) host date"
  signature := "c2lnbmF0dXJl"
  params := ⟨created, none⟩
  single := ⟨by decide, single, by simp⟩

def plainRequest : SignedConn :=
  datedRequest none (by simp)

def stampedRequest : SignedConn :=
  datedRequest (some "0") (by decide)

theorem accepted_once_iff_plainRequest :
    AcceptedOnce lenient 1000 plainRequest plainRequest ↔
      ReplayCovered lenient 1000 plainRequest plainRequest := by
  have same : SameSigned plainRequest plainRequest :=
    ⟨rfl, rfl, rfl, rfl, rfl, rfl, rfl, rfl, fun _ _ => rfl⟩
  have ended : verifyWithKey lenient 1000 ⟨some "key", none⟩ plainRequest [] = (.ok _, _) := rfl
  exact accepted_once_iff same ended fun _ => rfl

/-- The first request and the same with an unsigned parameter are both let in. -/
theorem unsigned_parameter_replays :
    SameSigned plainRequest stampedRequest ∧
      ¬ AcceptedOnce lenient 1000 plainRequest stampedRequest := by
  constructor
  · refine ⟨rfl, rfl, rfl, rfl, rfl, rfl, rfl, rfl, ?_⟩
    decide
  · intro once
    have ended : verifyWithKey lenient 1000 ⟨some "key", none⟩ plainRequest [] =
      (.ok _, _) := rfl
    have again := once _ _ _ _ ended 1000 (Int.le_refl 1000) [] (by simp) ⟨some "key", none⟩
      ⟨"https://remote.example/users/bob#main-key", "key"⟩
    apply again
    rfl

end Elektrine.ActivityPub
