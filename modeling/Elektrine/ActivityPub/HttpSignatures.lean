import Elektrine.Data.Bytes
import Elektrine.Data.Uri
import Elektrine.Library.Separated

/-!
# HTTP signatures

A request names the headers that its signature is over, and the receiver writes them down
line by line, verifies the signature on that text, checks the time stamps and the digest of
the body, and keeps a nonce of what it has let in.  Times are whole seconds.
-/

namespace Elektrine.ActivityPub

open Elektrine.Library

/-- The text stays on one line. -/
def OneLine (text : String) : Prop :=
  '\n' ∉ text.toList

instance (text : String) : Decidable (OneLine text) :=
  inferInstanceAs (Decidable (¬ _))

/-- A request as the server hands it on: what it has read from the request line and from the
headers is on one line, a method has no space and a path no question mark. -/
structure Conn where
  method : String
  requestPath : String
  queryString : String
  host : String
  headers : List (String × String)
  rawBody : Option (List UInt8)
  single : OneLine method ∧ OneLine requestPath ∧ OneLine queryString ∧ OneLine host ∧
    ∀ header ∈ headers, OneLine header.2
  apart : ' ' ∉ method.toList ∧ '?' ∉ requestPath.toList

structure SignatureParams where
  created : Option String
  expires : Option String
deriving DecidableEq, Repr

structure SignedConn where
  conn : Conn
  keyId : String
  headersString : String
  signature : String
  params : SignatureParams
  single : OneLine headersString ∧ (∀ text, params.created = some text → OneLine text) ∧
    ∀ text, params.expires = some text → OneLine text

structure SigningKey where
  keyId : String
  publicKey : String
deriving DecidableEq, Repr

inductive SignatureError where
  | keyFetchFailed
  | missingHeaders (names : List String)
  | invalidSignature
  | missingSignedRequestTarget
  | missingSignedHost
  | missingSignatureTimestamp
  | invalidSignatureTimestamp
  | invalidUnixTime
  | invalidSignatureDate
  | signatureNotYetValid
  | staleSignature
  | signatureExpired
  | invalidSignatureWindow
  | missingDigestInSignature
  | missingDigestHeader
  | unsupportedDigestAlgorithm
  | missingRawBody
  | digestMismatch
  | replayedRequest
deriving DecidableEq, Repr

structure ReplayFields where
  keyId : String
  method : String
  path : String
  query : String
  host : String
  signedHeaders : List String
  created : Option String
  expires : Option String
  date : Option String
  digest : Option String
  signature : String
deriving DecidableEq, Repr

structure Environment where
  sha256 : List UInt8 → List UInt8
  /-- `SigningKey.verify`: of a public key, a text and an encoded signature. -/
  verify : String → String → String → Bool
  /-- `:httpd_util.convert_request_date`, as the seconds since 1970. -/
  httpDate : String → Option Int
  /-- `Jason.encode!`. -/
  jason : ReplayFields → List UInt8
  signatureMaxAgeSeconds : Int
  signatureClockSkewSeconds : Int

def Conn.getReqHeader (conn : Conn) (name : String) : List String :=
  (conn.headers.filter fun header => header.1 == name).map Prod.snd

def parseSignedHeaders (headersString : String) : List String :=
  (pieces ' ' headersString.toList).map fun name => downcase (String.ofList name)

def signatureParamValue (value : Option String) : Option String :=
  match value with
  | some text => if text = "" then none else some text
  | none => none

def Conn.requestTarget (conn : Conn) : String :=
  downcase conn.method ++ " " ++ conn.requestPath ++
    if conn.queryString = "" then "" else "?" ++ conn.queryString

def Conn.signedHost (conn : Conn) : String :=
  (conn.getReqHeader "host").head?.getD conn.host

def getHeaderValue (conn : Conn) (name : String) (params : SignatureParams) : Option String :=
  if name = "(request-target)" then some conn.requestTarget
  else if name = "(created)" then signatureParamValue params.created
  else if name = "(expires)" then signatureParamValue params.expires
  else if name = "host" then some conn.signedHost
  else (conn.getReqHeader name).head?

def signingLine (name value : String) : String :=
  name ++ ": " ++ value

def signingLines (conn : Conn) (params : SignatureParams) (names : List String) : List String :=
  names.filterMap fun name => (getHeaderValue conn name params).map (signingLine name)

def joinLines (lines : List String) : String :=
  String.ofList (['\n'].intercalate (lines.map String.toList))

def buildSigningString (conn : Conn) (names : List String) (params : SignatureParams) :
    Except SignatureError String :=
  let missing := names.filter fun name => (getHeaderValue conn name params).isNone
  if missing = [] then .ok (joinLines (signingLines conn params names))
  else .error (.missingHeaders missing)

/-- `DateTime.from_unix`: the years -9999 to 9999. -/
def fromUnix (seconds : Int) : Except SignatureError Int :=
  if -377705116800 ≤ seconds ∧ seconds ≤ 253402300799 then .ok seconds
  else .error .invalidUnixTime

def parseUnixTimestamp (value : String) : Except SignatureError Int :=
  match integerParseExact value with
  | some seconds => fromUnix seconds
  | none => .error .invalidSignatureTimestamp

def parseOptionalUnixTimestamp (value : Option String) : Except SignatureError (Option Int) :=
  match value with
  | none => .ok none
  | some text => (parseUnixTimestamp text).map some

variable (environment : Environment)

def validateCreatedTimestamp (now : Int) (createdAt : Option Int) : Except SignatureError Unit :=
  match createdAt with
  | none => .ok ()
  | some createdAt =>
      if environment.signatureClockSkewSeconds < createdAt - now then
        .error .signatureNotYetValid
      else if environment.signatureMaxAgeSeconds < now - createdAt then .error .staleSignature
      else .ok ()

def validateExpiresTimestamp (now : Int) (expiresAt : Option Int) : Except SignatureError Unit :=
  match expiresAt with
  | none => .ok ()
  | some expiresAt =>
      if environment.signatureClockSkewSeconds < now - expiresAt then .error .signatureExpired
      else .ok ()

def validateCreatedBeforeExpires (createdAt expiresAt : Option Int) :
    Except SignatureError Unit :=
  match createdAt, expiresAt with
  | some createdAt, some expiresAt =>
      if expiresAt < createdAt then .error .invalidSignatureWindow else .ok ()
  | _, _ => .ok ()

def validateCreatedExpires (now : Int) (params : SignatureParams) :
    Except SignatureError Unit := do
  let createdAt ← parseOptionalUnixTimestamp params.created
  let expiresAt ← parseOptionalUnixTimestamp params.expires
  validateCreatedTimestamp environment now createdAt
  validateExpiresTimestamp environment now expiresAt
  validateCreatedBeforeExpires createdAt expiresAt

def validateDateHeader (now : Int) (conn : Conn) : Except SignatureError Unit :=
  match (conn.getReqHeader "date").head? with
  | none => .error .missingSignatureTimestamp
  | some dateHeader =>
      match environment.httpDate dateHeader with
      | none => .error .invalidSignatureDate
      | some dateTime =>
          if now - dateTime ≤ environment.signatureMaxAgeSeconds ∧
              -environment.signatureClockSkewSeconds ≤ now - dateTime then .ok ()
          else .error .staleSignature

def validateSignatureTiming (now : Int) (conn : Conn) (names : List String)
    (params : SignatureParams) : Except SignatureError Unit :=
  if "(created)" ∈ names ∨ "(expires)" ∈ names then
    validateCreatedExpires environment now params
  else if "date" ∈ names then validateDateHeader environment now conn
  else .error .missingSignatureTimestamp

def requestBodyExpected (conn : Conn) : Bool :=
  ["POST", "PUT", "PATCH"].contains conn.method

def extractSha256Digest (headerValue : String) : Option String :=
  let entries := (pieces ',' headerValue.toList).map fun entry => trim (String.ofList entry)
  let found := entries.findSome? fun entry =>
    match splitFirst '=' entry with
    | some (algorithm, value) =>
        if upcase (trim algorithm) = "SHA-256" then some (trim value) else none
    | none => none
  match found with
  | some digest => if digest = "" then none else some digest
  | none => none

def validateDigestHeader (conn : Conn) : Except SignatureError Unit :=
  match (conn.getReqHeader "digest").head? with
  | none => .error .missingDigestHeader
  | some digestHeader =>
      match extractSha256Digest digestHeader, conn.rawBody with
      | none, _ => .error .unsupportedDigestAlgorithm
      | some _, none => .error .missingRawBody
      | some expectedDigest, some rawBody =>
          if expectedDigest = encode64 (environment.sha256 rawBody) then .ok ()
          else .error .digestMismatch

def validateRequestDigest (conn : Conn) (names : List String) : Except SignatureError Unit :=
  if requestBodyExpected conn = true ∨ "digest" ∈ names then
    if "digest" ∈ names then validateDigestHeader environment conn
    else .error .missingDigestInSignature
  else .ok ()

def validateRequiredSignedHeaders (names : List String) : Except SignatureError Unit :=
  if "(request-target)" ∉ names then .error .missingSignedRequestTarget
  else if "host" ∉ names then .error .missingSignedHost
  else .ok ()

def validateSignatureConstraints (now : Int) (conn : Conn) (names : List String)
    (params : SignatureParams) : Except SignatureError Unit := do
  validateRequiredSignedHeaders names
  validateSignatureTiming environment now conn names params
  validateRequestDigest environment conn names

structure RequestReplay where
  nonce : String
  keyId : String
  actorUri : String
  httpMethod : String
  requestPath : String
  queryString : String
  signatureTimestamp : Option String
  digest : Option String
  seenAt : Int
  expiresAt : Int
deriving DecidableEq, Repr

def hostHeader (conn : Conn) : String :=
  match (conn.getReqHeader "host").head? with
  | some value => if value = "" then conn.host else value
  | none => conn.host

def replayFields (request : SignedConn) (keyId : String) (names : List String) : ReplayFields where
  keyId := keyId
  method := request.conn.method
  path := request.conn.requestPath
  query := request.conn.queryString
  host := hostHeader request.conn
  signedHeaders := names
  created := request.params.created
  expires := request.params.expires
  date := (request.conn.getReqHeader "date").head?
  digest := (request.conn.getReqHeader "digest").head?
  signature := request.signature

def replayNonce (fields : ReplayFields) : String :=
  urlEncode64 (environment.sha256 (environment.jason fields))

def replayTtlSeconds : Int :=
  environment.signatureMaxAgeSeconds + environment.signatureClockSkewSeconds

def replayRow (now : Int) (request : SignedConn) (keyId : String) (names : List String) :
    RequestReplay where
  nonce := replayNonce environment (replayFields request keyId names)
  keyId := keyId
  actorUri := ((splitFirst '#' keyId).map Prod.fst).getD keyId
  httpMethod := request.conn.method
  requestPath := request.conn.requestPath
  queryString := request.conn.queryString
  signatureTimestamp :=
    request.params.created.or
      (request.params.expires.or (request.conn.getReqHeader "date").head?)
  digest := (request.conn.getReqHeader "digest").head?
  seenAt := now
  expiresAt := now + replayTtlSeconds environment

def claim (now : Int) (request : SignedConn) (keyId : String) (names : List String)
    (replays : List RequestReplay) : Except SignatureError Unit × List RequestReplay :=
  let row := replayRow environment now request keyId names
  if replays.any fun other => other.nonce == row.nonce then (.error .replayedRequest, replays)
  else (.ok (), replays ++ [row])

def pruneExpired (now : Int) (replays : List RequestReplay) : List RequestReplay :=
  replays.filter fun replay => decide (now ≤ replay.expiresAt)

/-- What the key store gives for the request's key id: a key, perhaps fetched, and the key
after another fetch, unless that is too soon or fails. -/
structure KeyAnswers where
  stored : Option String
  refreshed : Option String
deriving DecidableEq, Repr

abbrev Verdict := Except SignatureError SigningKey

def acceptVerifiedSignature (now : Int) (request : SignedConn) (signingKey : SigningKey)
    (names : List String) (replays : List RequestReplay) : Verdict × List RequestReplay :=
  match claim environment now request signingKey.keyId names replays with
  | (.ok (), after) => (.ok signingKey, after)
  | (.error reason, after) => (.error reason, after)

def acceptConstrained (now : Int) (request : SignedConn) (signingKey : SigningKey)
    (names : List String) (replays : List RequestReplay) : Verdict × List RequestReplay :=
  match validateSignatureConstraints environment now request.conn names request.params with
  | .ok () => acceptVerifiedSignature environment now request signingKey names replays
  | .error reason => (.error reason, replays)

def retryWithRefreshedKey (now : Int) (request : SignedConn) (refreshed : Option String)
    (replays : List RequestReplay) : Verdict × List RequestReplay :=
  match refreshed with
  | none => (.error .invalidSignature, replays)
  | some publicKey =>
      let names := parseSignedHeaders request.headersString
      match buildSigningString request.conn names request.params with
      | .error reason => (.error reason, replays)
      | .ok signingString =>
          if environment.verify publicKey signingString request.signature then
            acceptConstrained environment now request ⟨request.keyId, publicKey⟩ names replays
          else (.error .invalidSignature, replays)

def verifySignatureWithKey (now : Int) (request : SignedConn) (publicKey : String)
    (refreshed : Option String) (replays : List RequestReplay) :
    Verdict × List RequestReplay :=
  let names := parseSignedHeaders request.headersString
  match buildSigningString request.conn names request.params with
  | .error reason => (.error reason, replays)
  | .ok signingString =>
      if environment.verify publicKey signingString request.signature then
        acceptConstrained environment now request ⟨request.keyId, publicKey⟩ names replays
      else retryWithRefreshedKey environment now request refreshed replays

def verifyWithKey (now : Int) (keys : KeyAnswers) (request : SignedConn)
    (replays : List RequestReplay) : Verdict × List RequestReplay :=
  match keys.stored with
  | none => (.error .keyFetchFailed, replays)
  | some publicKey =>
      verifySignatureWithKey environment now request publicKey keys.refreshed replays

structure Accepted (now : Int) (request : SignedConn) (signingKey : SigningKey)
    (replays after : List RequestReplay) : Prop where
  keyId : signingKey.keyId = request.keyId
  verified : ∃ signingString,
    buildSigningString request.conn (parseSignedHeaders request.headersString) request.params =
      .ok signingString ∧
    environment.verify signingKey.publicKey signingString request.signature = true
  constraints : validateSignatureConstraints environment now request.conn
    (parseSignedHeaders request.headersString) request.params = .ok ()
  unseen : ∀ other ∈ replays, other.nonce ≠ replayNonce environment
    (replayFields request request.keyId (parseSignedHeaders request.headersString))
  stored : after = replays ++ [replayRow environment now request request.keyId
    (parseSignedHeaders request.headersString)]

variable {environment} {now : Int} {request : SignedConn} {signingKey : SigningKey}
  {replays after : List RequestReplay}

theorem claim_ok_iff {keyId : String} {names : List String} :
    claim environment now request keyId names replays = (.ok (), after) ↔
      (∀ other ∈ replays,
        other.nonce ≠ replayNonce environment (replayFields request keyId names)) ∧
      after = replays ++ [replayRow environment now request keyId names] := by
  have nonce : (replayRow environment now request keyId names).nonce =
      replayNonce environment (replayFields request keyId names) := rfl
  unfold claim
  simp only
  split_ifs with seen
  · constructor
    · intro same
      cases same
    · intro ⟨unseen, _⟩
      obtain ⟨other, member, same⟩ := List.any_eq_true.mp seen
      exact absurd ((eq_of_beq same).trans nonce) (unseen other member)
  · constructor
    · intro same
      cases same
      refine ⟨?_, rfl⟩
      intro other member same
      apply seen
      exact List.any_eq_true.mpr ⟨other, member, beq_iff_eq.mpr (same.trans nonce.symm)⟩
    · intro ⟨_, result⟩
      rw [result]

theorem acceptConstrained_ok_iff {names : List String} {verdict : SigningKey} :
    acceptConstrained environment now request signingKey names replays = (.ok verdict, after) ↔
      verdict = signingKey ∧
      validateSignatureConstraints environment now request.conn names request.params = .ok () ∧
      claim environment now request signingKey.keyId names replays = (.ok (), after) := by
  unfold acceptConstrained
  cases validateSignatureConstraints environment now request.conn names request.params with
  | error reason => simp
  | ok passed =>
      simp only [acceptVerifiedSignature, true_and]
      cases claim environment now request signingKey.keyId names replays with
      | mk outcome store =>
          cases outcome with
          | error reason => simp
          | ok claimed =>
              simp only [Prod.mk.injEq, Except.ok.injEq, true_and]
              constructor
              · intro ⟨same, stored⟩
                exact ⟨same.symm, stored⟩
              · intro ⟨same, stored⟩
                exact ⟨same.symm, stored⟩

theorem accepted_of_verified {publicKey signingString : String}
    (built : buildSigningString request.conn (parseSignedHeaders request.headersString)
      request.params = .ok signingString)
    (verified : environment.verify publicKey signingString request.signature = true)
    (ended : acceptConstrained environment now request ⟨request.keyId, publicKey⟩
      (parseSignedHeaders request.headersString) replays = (.ok signingKey, after)) :
    Accepted environment now request signingKey replays after := by
  obtain ⟨same, constraints, claimed⟩ := acceptConstrained_ok_iff.mp ended
  obtain ⟨unseen, stored⟩ := claim_ok_iff.mp claimed
  rw [same]
  exact ⟨rfl, ⟨signingString, built, verified⟩, constraints, unseen, stored⟩

theorem verifyWithKey_accepted {keys : KeyAnswers}
    (ended : verifyWithKey environment now keys request replays = (.ok signingKey, after)) :
    Accepted environment now request signingKey replays after := by
  unfold verifyWithKey at ended
  cases stored : keys.stored with
  | none =>
      rw [stored] at ended
      cases ended
  | some publicKey =>
      simp only [stored, verifySignatureWithKey] at ended
      cases built : buildSigningString request.conn
          (parseSignedHeaders request.headersString) request.params with
      | error reason =>
          rw [built] at ended
          cases ended
      | ok signingString =>
          simp only [built] at ended
          split_ifs at ended with verified
          · exact accepted_of_verified built verified ended
          · -- the second path, with the key that was fetched again
            unfold retryWithRefreshedKey at ended
            cases refreshed : keys.refreshed with
            | none =>
                rw [refreshed] at ended
                cases ended
            | some other =>
                simp only [refreshed, built] at ended
                split_ifs at ended with again
                · exact accepted_of_verified built again ended
                · cases ended

theorem verifyWithKey_of_verified {publicKey signingString : String}
    (built : buildSigningString request.conn (parseSignedHeaders request.headersString)
      request.params = .ok signingString)
    (verified : environment.verify publicKey signingString request.signature = true)
    (constraints : validateSignatureConstraints environment now request.conn
      (parseSignedHeaders request.headersString) request.params = .ok ())
    (unseen : ∀ other ∈ replays, other.nonce ≠ replayNonce environment
      (replayFields request request.keyId (parseSignedHeaders request.headersString))) :
    (verifyWithKey environment now ⟨some publicKey, none⟩ request replays).1 =
      .ok ⟨request.keyId, publicKey⟩ := by
  have claimed : claim environment now request request.keyId
      (parseSignedHeaders request.headersString) replays = (.ok (), _) :=
    claim_ok_iff.mpr ⟨unseen, rfl⟩
  have ended : acceptConstrained environment now request ⟨request.keyId, publicKey⟩
      (parseSignedHeaders request.headersString) replays = (.ok ⟨request.keyId, publicKey⟩, _) :=
    acceptConstrained_ok_iff.mpr ⟨rfl, constraints, claimed⟩
  simp only [verifyWithKey, verifySignatureWithKey, built, verified, if_true]
  rw [ended]

theorem validateCreatedTimestamp_ok_iff {createdAt : Option Int} :
    validateCreatedTimestamp environment now createdAt = .ok () ↔
      ∀ time, createdAt = some time → time - environment.signatureClockSkewSeconds ≤ now ∧
        now ≤ time + environment.signatureMaxAgeSeconds := by
  unfold validateCreatedTimestamp
  cases createdAt with
  | none => simp
  | some time =>
      simp only [Option.some.injEq, forall_eq']
      split_ifs with early stale
      · simp
        omega
      · simp
        omega
      · simp
        omega

theorem validateExpiresTimestamp_ok_iff {expiresAt : Option Int} :
    validateExpiresTimestamp environment now expiresAt = .ok () ↔
      ∀ time, expiresAt = some time → now ≤ time + environment.signatureClockSkewSeconds := by
  unfold validateExpiresTimestamp
  cases expiresAt with
  | none => simp
  | some time =>
      simp only [Option.some.injEq, forall_eq']
      split_ifs with expired
      · simp
        omega
      · simp
        omega

theorem unit_bind_ok_iff {Failure : Type} {first : Except Failure Unit}
    {next : Unit → Except Failure Unit} :
    (first >>= next) = .ok () ↔ first = .ok () ∧ next () = .ok () := by
  cases first with
  | error reason => simp [Bind.bind, Except.bind]
  | ok passed => simp [Bind.bind, Except.bind]

theorem validateSignatureConstraints_ok_iff {conn : Conn} {names : List String}
    {params : SignatureParams} :
    validateSignatureConstraints environment now conn names params = .ok () ↔
      ("(request-target)" ∈ names ∧ "host" ∈ names) ∧
      validateSignatureTiming environment now conn names params = .ok () ∧
      validateRequestDigest environment conn names = .ok () := by
  have required : validateRequiredSignedHeaders names = .ok () ↔
      "(request-target)" ∈ names ∧ "host" ∈ names := by
    unfold validateRequiredSignedHeaders
    split_ifs <;> simp_all
  rw [← required, validateSignatureConstraints, unit_bind_ok_iff, unit_bind_ok_iff]

end Elektrine.ActivityPub
