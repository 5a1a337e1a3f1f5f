import Elektrine.Library.Runs
import Elektrine.Messaging.ArblargSDK
import Elektrine.Messaging.ArblargSDK.RequestSignatures

/-!
# Replayed requests

A signed request is let in once: the receiver keeps a digest of it until a window
has passed and turns away what has the same digest.  The digest is taken of the
text of the signature header, the signature is checked on the bytes that this
text stands for.
-/

namespace Elektrine.Messaging.Federation

open Elektrine.Library ArblargSDK

structure PeerKey where
  id : String
  publicKey : Option PublicKey
  deriving DecidableEq

structure PeerIdentity where
  keys : List PeerKey
  dynamic : Bool
  allowIncoming : Bool
  deriving DecidableEq

variable (crypto : Crypto)

def incomingVerificationMaterialsForKeyId (peer : PeerIdentity) (keyId : String) :
    List PublicKey :=
  match present keyId with
  | none => peer.keys.filterMap PeerKey.publicKey
  | some requested =>
      (peer.keys.filter fun key => key.id == requested).filterMap PeerKey.publicKey

def verifySignatureWithPeer (peer : PeerIdentity) (request : SignedRequest) : Bool :=
  (incomingVerificationMaterialsForKeyId peer request.keyId.text).any fun key =>
    verifyPayloadSignature crypto (canonicalRequestSignaturePayload crypto request)
      key request.signature.text

/-- A peer known by discovery is looked up again before its request is refused;
`refreshed` is what that lookup gives. -/
def verifyPeerSignature (peer : PeerIdentity) (refreshed : Option PeerIdentity)
    (request : SignedRequest) : Bool :=
  verifySignatureWithPeer crypto peer request ||
    (peer.dynamic &&
      match refreshed with
      | some refreshed =>
          refreshed.allowIncoming && verifySignatureWithPeer crypto refreshed request
      | none => false)

def requestReplayFields (request : SignedRequest) : List String :=
  [downcase request.domain.text,
    request.keyId.text,
    upcase request.method.text,
    canonicalPath request.requestPath.text,
    canonicalQueryString request.queryString.text,
    trim request.timestamp.text,
    canonicalContentDigest crypto request.contentDigest.text,
    trim request.requestId.text,
    trim request.signature.text]

def requestReplayBase (request : SignedRequest) : String :=
  "\n".intercalate (requestReplayFields crypto request)

def requestReplayNonce (request : SignedRequest) : String :=
  urlEncode64 (crypto.sha256 (textBytes (requestReplayBase crypto request)))

structure FederationRequestReplay where
  nonce : String
  originDomain : String
  keyId : Option String
  httpMethod : String
  requestPath : String
  timestamp : Int
  seenAt : Int
  expiresAt : Int
  deriving DecidableEq

structure Replays where
  rows : List FederationRequestReplay
  nonce_unique : (rows.map FederationRequestReplay.nonce).Nodup

def Replays.empty : Replays := ⟨[], List.nodup_nil⟩

structure RequestSettings where
  enabled : Bool
  clockSkewSeconds : Int

variable (settings : RequestSettings)

def replayNonceTtlSeconds : Int :=
  max (settings.clockSkewSeconds * 2) 600

inductive Rejection where
  | disabled
  | missingDomain
  | missingTimestamp
  | missingContentDigest
  | missingKeyId
  | missingRequestId
  | missingSignatureAlgorithm
  | invalidSignatureAlgorithm
  | missingSignature
  | invalidTimestamp
  | invalidContentDigest
  | unknownPeer (domain : String)
  | invalidSignature
  | replayedRequest
  deriving DecidableEq, Repr

def replayRow (request : SignedRequest) (now : Int) : FederationRequestReplay where
  nonce := requestReplayNonce crypto request
  originDomain := request.domain.text
  keyId := present request.keyId.text
  httpMethod := upcase request.method.text
  requestPath := canonicalPath request.requestPath.text
  timestamp := (integerParse request.timestamp.text).getD 0
  seenAt := now
  expiresAt := now + replayNonceTtlSeconds settings

def claimRequestNonce (replays : Replays) (request : SignedRequest) (now : Int) :
    Except Rejection Replays :=
  let row := replayRow crypto settings request now
  if new : row.nonce ∉ replays.rows.map FederationRequestReplay.nonce then
    .ok {
      rows := row :: replays.rows
      nonce_unique := List.nodup_cons.mpr ⟨new, replays.nonce_unique⟩ }
  else
    .error .replayedRequest

def pruneRequestReplays (replays : Replays) (now : Int) : Replays where
  rows := replays.rows.filter fun row => now ≤ row.expiresAt
  nonce_unique := replays.nonce_unique.sublist (List.filter_sublist.map _)

structure IncomingRequest where
  domain : Option Line
  keyId : Option Line
  timestamp : Option Line
  contentDigest : Option Line
  requestId : Option Line
  signatureAlgorithm : Option Line
  signature : Option Line
  method : Line
  requestPath : Line
  queryString : Line
  rawBody : List UInt8

/-- A request at the moment it is worked on: the two readings of the clock and
what the lookups of the peer give. -/
structure Presentation where
  request : IncomingRequest
  checkedAt : Int
  claimedAt : Int
  incomingPeer : Option PeerIdentity
  refreshed : Option PeerIdentity

def requireHeader (header : Option Line) (missing : Rejection) :
    Except Rejection Line :=
  match header with
  | some line => .ok line
  | none => .error missing

def rejectUnless (passed : Bool) (rejection : Rejection) : Except Rejection Unit :=
  if passed then .ok () else .error rejection

def validTimestamp (timestamp : String) (skewSeconds now : Int) : Bool :=
  match integerParseExact timestamp with
  | some seconds => 0 ≤ skewSeconds && (now - seconds).natAbs ≤ skewSeconds
  | none => false

def verifyRequest (presentation : Presentation) : Except Rejection SignedRequest := do
  let incoming := presentation.request
  rejectUnless settings.enabled .disabled
  let domain ← requireHeader incoming.domain .missingDomain
  let timestamp ← requireHeader incoming.timestamp .missingTimestamp
  let contentDigest ← requireHeader incoming.contentDigest .missingContentDigest
  let keyId ← requireHeader incoming.keyId .missingKeyId
  let requestId ← requireHeader incoming.requestId .missingRequestId
  let algorithm ←
    requireHeader incoming.signatureAlgorithm .missingSignatureAlgorithm
  rejectUnless (downcase (trim algorithm.text) == signatureAlgorithm)
    .invalidSignatureAlgorithm
  let signature ← requireHeader incoming.signature .missingSignature
  rejectUnless
    (validTimestamp timestamp.text settings.clockSkewSeconds presentation.checkedAt)
    .invalidTimestamp
  rejectUnless (trim contentDigest.text == bodyDigest crypto incoming.rawBody)
    .invalidContentDigest
  match presentation.incomingPeer with
  | none => .error (.unknownPeer domain.text)
  | some peer =>
      let request : SignedRequest := {
        domain := domain
        keyId := keyId
        method := incoming.method
        requestPath := incoming.requestPath
        queryString := incoming.queryString
        timestamp := timestamp
        contentDigest := contentDigest
        requestId := requestId
        signature := signature }
      rejectUnless (verifyPeerSignature crypto peer presentation.refreshed request)
        .invalidSignature
      .ok request

def authenticate (replays : Replays) (presentation : Presentation) :
    Except Rejection Replays := do
  let request ← verifyRequest crypto settings presentation
  claimRequestNonce crypto settings replays request presentation.claimedAt

inductive ReplayStep where
  | present (presentation : Presentation)
  | prune (now : Int)

def ReplayStep.now : ReplayStep → Int
  | present presentation => presentation.claimedAt
  | prune now => now

def Replays.step (replays : Replays) : ReplayStep → Replays
  | .present presentation =>
      match authenticate crypto settings replays presentation with
      | .ok claimed => claimed
      | .error _ => replays
  | .prune now => pruneRequestReplays replays now

/-- A row with this nonce is in the store. -/
def Replays.Holds (replays : Replays) (nonce : String) : Prop :=
  nonce ∈ replays.rows.map FederationRequestReplay.nonce

variable {crypto settings} {replays : Replays} {request : SignedRequest} {now : Int}

theorem claimRequestNonce_of_holds
    (held : replays.Holds (requestReplayNonce crypto request)) :
    claimRequestNonce crypto settings replays request now =
      .error .replayedRequest :=
  dif_neg (not_not_intro held)

theorem claimRequestNonce_of_not_holds
    (new : ¬ replays.Holds (requestReplayNonce crypto request)) :
    ∃ claimed,
      claimRequestNonce crypto settings replays request now = .ok claimed ∧
        claimed.rows = replayRow crypto settings request now :: replays.rows :=
  ⟨_, dif_pos new, rfl⟩

theorem claimRequestNonce_eq_error_iff :
    claimRequestNonce crypto settings replays request now = .error .replayedRequest ↔
      replays.Holds (requestReplayNonce crypto request) := by
  constructor
  · intro rejected
    by_contra new
    obtain ⟨claimed, claim, -⟩ := claimRequestNonce_of_not_holds new
    rw [claim] at rejected
    cases rejected
  · exact claimRequestNonce_of_holds

theorem authenticate_of_verified {presentation : Presentation}
    (verified : verifyRequest crypto settings presentation = .ok request) :
    authenticate crypto settings replays presentation =
      claimRequestNonce crypto settings replays request presentation.claimedAt := by
  unfold authenticate
  rw [verified]
  rfl

theorem holds_of_present {presentation : Presentation}
    (verified : verifyRequest crypto settings presentation = .ok request) :
    (replays.step crypto settings (.present presentation)).Holds
      (requestReplayNonce crypto request) := by
  rw [Replays.step, authenticate_of_verified verified]
  by_cases held : replays.Holds (requestReplayNonce crypto request)
  · rw [claimRequestNonce_of_holds held]
    exact held
  · obtain ⟨claimed, claim, rows⟩ := claimRequestNonce_of_not_holds held
    rw [claim, Replays.Holds, rows]
    exact List.mem_cons_self

theorem mem_step_of_mem {row : FederationRequestReplay} {step : ReplayStep}
    (member : row ∈ replays.rows) (alive : step.now ≤ row.expiresAt) :
    row ∈ (replays.step crypto settings step).rows := by
  cases step with
  | present presentation =>
      simp only [Replays.step, authenticate]
      cases verifyRequest crypto settings presentation with
      | error rejection => exact member
      | ok request =>
          simp only [bind, Except.bind]
          by_cases held : replays.Holds (requestReplayNonce crypto request)
          · rw [claimRequestNonce_of_holds held]
            exact member
          · obtain ⟨claimed, claim, rows⟩ := claimRequestNonce_of_not_holds held
            rw [claim, rows]
            exact List.mem_cons_of_mem _ member
  | prune now =>
      apply List.mem_filter.mpr
      exact ⟨member, decide_eq_true alive⟩

theorem mem_run_of_mem {row : FederationRequestReplay} {steps : List ReplayStep}
    (member : row ∈ replays.rows)
    (alive : ∀ step ∈ steps, step.now ≤ row.expiresAt) :
    row ∈ (steps.foldl (Replays.step crypto settings) replays).rows := by
  induction steps generalizing replays with
  | nil => exact member
  | cons step steps ih =>
      apply ih
      · exact mem_step_of_mem member (alive step List.mem_cons_self)
      · intro later there
        exact alive later (List.mem_cons_of_mem _ there)

structure SameHeaderTexts (first second : SignedRequest) : Prop where
  keyId : first.keyId.text = second.keyId.text
  signature : trim first.signature.text = trim second.signature.text

variable {first second : SignedRequest}

theorem newline_not_mem_requestReplayFields (request : SignedRequest) :
    ∀ field ∈ requestReplayFields crypto request, '\n' ∉ field.toList := by
  simp only [requestReplayFields, List.forall_mem_cons]
  exact ⟨newline_not_mem_downcase request.domain.single, request.keyId.single,
    newline_not_mem_upcase request.method.single,
    newline_not_mem_canonicalPath request.requestPath,
    request.queryString.newline_not_mem_trim,
    request.timestamp.newline_not_mem_trim,
    newline_not_mem_canonicalContentDigest crypto request.contentDigest,
    request.requestId.newline_not_mem_trim,
    request.signature.newline_not_mem_trim, List.forall_mem_nil _⟩

theorem requestReplayBase_eq_iff
    (same : canonicalRequestSignaturePayload crypto first =
      canonicalRequestSignaturePayload crypto second) :
    requestReplayBase crypto first = requestReplayBase crypto second ↔
      SameHeaderTexts first second := by
  constructor
  · intro bases
    have fields : requestReplayFields crypto first =
        requestReplayFields crypto second := by
      apply eq_of_intercalate_eq _ (newline_not_mem_requestReplayFields first)
        (newline_not_mem_requestReplayFields second) bases
      simp only [requestReplayFields, List.length_cons]
    simp only [requestReplayFields, List.cons.injEq] at fields
    obtain ⟨-, keyId, -, -, -, -, -, -, signature, -⟩ := fields
    exact ⟨keyId, signature⟩
  · intro texts
    have fields := requestSignatureFields_eq_of_payload_eq crypto same
    simp only [requestSignatureFields, List.cons.injEq] at fields
    obtain ⟨domain, method, path, query, timestamp, digest, requestId, -⟩ := fields
    have methods : upcase first.method.text = upcase second.method.text := by
      rw [← upcase_downcase, method, upcase_downcase]
    rw [requestReplayBase, requestReplayBase, requestReplayFields,
      requestReplayFields, domain, texts.keyId, methods, path, query, timestamp,
      digest, requestId, texts.signature]

/-- In every run in which the first request is presented, the second one is
turned away as a replay as long as the row of the first has not expired. -/
def ReplayProtected (crypto : Crypto) (settings : RequestSettings)
    (first : SignedRequest) (presented second : Presentation) : Prop :=
  ∀ (before : Replays) (between : List ReplayStep),
    (∀ row ∈ (before.step crypto settings (.present presented)).rows,
      row.nonce = requestReplayNonce crypto first →
        second.claimedAt ≤ row.expiresAt) →
    (∀ step ∈ between, step.now ≤ second.claimedAt) →
    authenticate crypto settings
        (between.foldl (Replays.step crypto settings)
          (before.step crypto settings (.present presented))) second =
      .error .replayedRequest

theorem requestReplayNonce_eq_of_replayProtected {presented later : Presentation}
    (firstVerifies : verifyRequest crypto settings presented = .ok first)
    (secondVerifies : verifyRequest crypto settings later = .ok second)
    (within : later.claimedAt ≤
      presented.claimedAt + replayNonceTtlSeconds settings)
    (isProtected : ReplayProtected crypto settings first presented later) :
    requestReplayNonce crypto first = requestReplayNonce crypto second := by
  have rows : (Replays.empty.step crypto settings (.present presented)).rows =
      [replayRow crypto settings first presented.claimedAt] := by
    rw [Replays.step, authenticate_of_verified firstVerifies]
    rfl
  have window : ∀ row ∈
      (Replays.empty.step crypto settings (.present presented)).rows,
      row.nonce = requestReplayNonce crypto first →
        later.claimedAt ≤ row.expiresAt := by
    intro row member _
    rw [rows, List.mem_singleton] at member
    rw [member]
    exact within
  have rejected := isProtected .empty [] window (by simp)
  rw [authenticate_of_verified secondVerifies, claimRequestNonce_eq_error_iff,
    Replays.Holds, List.foldl_nil, rows] at rejected
  exact (List.mem_singleton.mp rejected).symm

theorem replayProtected_iff {crypto : Crypto} {settings : RequestSettings}
    {presented later : Presentation} {first second : SignedRequest}
    (firstVerifies : verifyRequest crypto settings presented = .ok first)
    (secondVerifies : verifyRequest crypto settings later = .ok second)
    (same : canonicalRequestSignaturePayload crypto first =
      canonicalRequestSignaturePayload crypto second)
    (within : later.claimedAt ≤
      presented.claimedAt + replayNonceTtlSeconds settings)
    (noCollision :
      crypto.sha256 (textBytes (requestReplayBase crypto first)) =
          crypto.sha256 (textBytes (requestReplayBase crypto second)) →
        requestReplayBase crypto first = requestReplayBase crypto second) :
    ReplayProtected crypto settings first presented later ↔
      SameHeaderTexts first second := by
  rw [← requestReplayBase_eq_iff same]
  constructor
  · intro isProtected
    apply noCollision
    apply urlEncode64_inj.mp
    exact requestReplayNonce_eq_of_replayProtected firstVerifies secondVerifies within
      isProtected
  · intro bases before between window clock
    have nonces : requestReplayNonce crypto first =
        requestReplayNonce crypto second := by
      rw [requestReplayNonce, requestReplayNonce, bases]
    obtain ⟨row, member, nonce⟩ :=
      List.mem_map.mp (holds_of_present firstVerifies)
    have alive := window row member nonce
    rw [authenticate_of_verified secondVerifies, claimRequestNonce_eq_error_iff,
      ← nonces, ← nonce]
    apply List.mem_map_of_mem
    apply mem_run_of_mem member
    intro step there
    exact Int.le_trans (clock step there) alive

def plainLine (text : String) (single : '\n' ∉ text.toList := by decide +kernel) : Line :=
  ⟨text, single⟩

def eventRequest (signature : Line) : SignedRequest where
  domain := plainLine "peer.example"
  keyId := plainLine "k1"
  method := plainLine "POST"
  requestPath := plainLine "/_arblarg/events"
  queryString := plainLine ""
  timestamp := plainLine "1767225600"
  contentDigest := plainLine "RBNvo1WzZ4oRRq0W9-hknpT7T8If536DEMBg9hyq_4o"
  requestId := plainLine "6f1d0c1e-8f57-4d0c-9f62-0d2a5f8f3c11"
  signature := signature

def unpaddedSignature : Line := plainLine
  "2RAmVL6tVmdKucJwBl9i9sKdzRde-QztPDCKbz9n-xRSb2L6i2U79BcVZI2QbK3FvRkh6DoAztkvjogV9g9-Bg"

def paddedSignature : Line := plainLine
  "2RAmVL6tVmdKucJwBl9i9sKdzRde-QztPDCKbz9n-xRSb2L6i2U79BcVZI2QbK3FvRkh6DoAztkvjogV9g9-Bg=="

def decoded (text : String) : List UInt8 :=
  (urlDecode64 text).getD []

def eventKey : PublicKey where
  bytes := decoded "11qYAYKxCrfVS_7TyWQHOg7hcvPapiMlrwIaaPcHURo"
  size := by decide

def eventText : String :=
  "\n".intercalate ["peer.example", "post", "/_arblarg/events", "", "1767225600",
    "RBNvo1WzZ4oRRq0W9-hknpT7T8If536DEMBg9hyq_4o",
    "6f1d0c1e-8f57-4d0c-9f62-0d2a5f8f3c11"]

def eventCrypto : Crypto where
  sha256 bytes :=
    match bytes.length with
    | 2 => decoded "RBNvo1WzZ4oRRq0W9-hknpT7T8If536DEMBg9hyq_4o"
    | 217 => decoded "rHp1H6lS9LgNFwvLOefuNTpnS6sb9XrtTfXJL3pnA0M"
    | 219 => decoded "bd6ZO2GrnkolVmt2lv9kmi4sBCc_zXtRaKywfDk9vUQ"
    | _ => []
  verify payload signature key :=
    payload = textBytes eventText ∧
      signature = decoded unpaddedSignature.text ∧ key = eventKey

def eventSettings : RequestSettings := ⟨true, 300⟩

def eventPresentation (signature : Line) : Presentation where
  request := {
    domain := some (eventRequest signature).domain
    keyId := some (eventRequest signature).keyId
    timestamp := some (eventRequest signature).timestamp
    contentDigest := some (eventRequest signature).contentDigest
    requestId := some (eventRequest signature).requestId
    signatureAlgorithm := some (plainLine "ed25519")
    signature := some signature
    method := (eventRequest signature).method
    requestPath := (eventRequest signature).requestPath
    queryString := (eventRequest signature).queryString
    rawBody := textBytes "\x7b\x7d" }
  checkedAt := 1767225601
  claimedAt := 1767225601
  incomingPeer := some ⟨[⟨"k1", some eventKey⟩], false, true⟩
  refreshed := none

theorem payload_eventRequest (signature : Line) :
    canonicalRequestSignaturePayload eventCrypto (eventRequest signature) =
      eventText := by
  have unpadded : canonicalRequestSignaturePayload eventCrypto
      (eventRequest unpaddedSignature) = eventText := by decide +kernel
  rw [← unpadded]
  simp only [canonicalRequestSignaturePayload, requestSignatureFields, eventRequest]

theorem verifyRequest_eventPresentation {signature : Line}
    (decodes : urlDecode64 (trim signature.text) =
      some (decoded unpaddedSignature.text)) :
    verifyRequest eventCrypto eventSettings (eventPresentation signature) =
      .ok (eventRequest signature) := by
  have verifies : verifyPayloadSignature eventCrypto eventText eventKey
      signature.text = true := by
    simp [verifyPayloadSignature, decodes, eventCrypto]
  have keys : incomingVerificationMaterialsForKeyId
      ⟨[⟨"k1", some eventKey⟩], false, true⟩ "k1" = [eventKey] := by
    decide
  have digest : (trim "RBNvo1WzZ4oRRq0W9-hknpT7T8If536DEMBg9hyq_4o" ==
      bodyDigest eventCrypto (textBytes "\x7b\x7d")) = true := by
    decide
  have algorithm : (downcase (trim "ed25519") == signatureAlgorithm) = true := by
    decide
  have timestamp : validTimestamp "1767225600" 300 1767225601 = true := by
    decide +kernel
  have peer : verifyPeerSignature eventCrypto ⟨[⟨"k1", some eventKey⟩], false, true⟩
      none (eventRequest signature) = true := by
    rw [verifyPeerSignature, verifySignatureWithPeer, payload_eventRequest,
      show (eventRequest signature).keyId.text = "k1" from rfl, keys]
    simp only [List.any_cons, eventRequest, verifies, Bool.true_or]
  simp only [eventRequest, plainLine] at peer
  simp only [verifyRequest, eventPresentation, eventSettings, eventRequest, plainLine,
    requireHeader, rejectUnless, bind, Except.bind, digest, algorithm, timestamp, peer,
    if_true]

theorem trim_ofList (characters : List Char) :
    trim (String.ofList characters) =
      String.ofList ((characters.dropWhile isWhiteSpace).rdropWhile isWhiteSpace) := by
  rw [trim, String.toList_ofList]
  rfl

theorem decodes_unpadded : urlDecode64 (trim unpaddedSignature.text) =
    some (decoded unpaddedSignature.text) := by
  have same : unpaddedSignature.text = String.ofList _ := rfl
  rw [decoded, urlDecode64, urlDecode64, same, trim_ofList, String.toList_ofList,
    String.toList_ofList]
  decide

theorem decodes_padded : urlDecode64 (trim paddedSignature.text) =
    some (decoded unpaddedSignature.text) := by
  have same : unpaddedSignature.text = String.ofList _ := rfl
  have same' : paddedSignature.text = String.ofList _ := rfl
  rw [decoded, urlDecode64, urlDecode64, same, same', trim_ofList, String.toList_ofList,
    String.toList_ofList]
  decide

theorem padded_signature_replays :
    ¬ ∀ crypto settings presented later first second,
        verifyRequest crypto settings presented = .ok first →
        verifyRequest crypto settings later = .ok second →
        canonicalRequestSignaturePayload crypto first =
          canonicalRequestSignaturePayload crypto second →
        later.claimedAt ≤ presented.claimedAt + replayNonceTtlSeconds settings →
        ReplayProtected crypto settings first presented later := by
  intro claim
  have first := verifyRequest_eventPresentation decodes_unpadded
  have second := verifyRequest_eventPresentation decodes_padded
  have isProtected := claim _ _ _ _ _ _ first second
    ((payload_eventRequest _).trans (payload_eventRequest _).symm) (by decide)
  have nonces := requestReplayNonce_eq_of_replayProtected first second (by decide)
    isProtected
  revert nonces
  decide +kernel

theorem replayProtected_iff_unpadded :
    ReplayProtected eventCrypto eventSettings (eventRequest unpaddedSignature)
        (eventPresentation unpaddedSignature)
        (eventPresentation unpaddedSignature) ↔
      SameHeaderTexts (eventRequest unpaddedSignature)
        (eventRequest unpaddedSignature) :=
  have verified := verifyRequest_eventPresentation decodes_unpadded
  replayProtected_iff verified verified rfl (by decide) fun _ => rfl

end Elektrine.Messaging.Federation
