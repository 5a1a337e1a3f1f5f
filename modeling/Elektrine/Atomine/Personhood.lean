import Elektrine.Atomine.Proof
import Elektrine.Security.IpAddresses
import Elektrine.Data.Text
import Elektrine.Library.Attempts
import Mathlib.Data.List.Infix

/-!
# Personhood proofs

`create_proof` stores a challenge that the user has to publish, and `check_proof` looks for it
in the place that the verification method asks for.  What the name servers, the web and the
code host answer is given by a `Published`.
-/

namespace Elektrine.Atomine

open Elektrine.Security

inductive Reason where
  | statement (error : StatementError)
  | invalidDnsSubject
  | notGithubProfileUrl
  | unsupportedUrlScheme
  | missingHost
  | blockedPrivateHost
  | invalidGistResponse
  | githubStatus (status : Nat)
  | httpStatus (status : Nat)
  | outside (text : String)
  deriving DecidableEq, Repr

/-- `inspect(reason)`. -/
def Reason.inspect : Reason → String
  | .statement .invalidProofStatement => ":invalid_proof_statement"
  | .statement .unsupportedProofStatement => ":unsupported_proof_statement"
  | .statement .proofUserMismatch => ":proof_user_mismatch"
  | .statement .proofKindMismatch => ":proof_kind_mismatch"
  | .statement .proofSubjectMismatch => ":proof_subject_mismatch"
  | .statement .invalidProofSignature => ":invalid_proof_signature"
  | .invalidDnsSubject => ":invalid_dns_subject"
  | .notGithubProfileUrl => ":not_github_profile_url"
  | .unsupportedUrlScheme => ":unsupported_url_scheme"
  | .missingHost => ":missing_host"
  | .blockedPrivateHost => ":blocked_private_host"
  | .invalidGistResponse => ":invalid_gist_response"
  | .githubStatus status => "\x7b:github_status, " ++ status.repr ++ "\x7d"
  | .httpStatus status => "\x7b:http_status, " ++ status.repr ++ "\x7d"
  | .outside text => text

structure WebAnswer (α : Type) where
  status : Nat
  body : α

structure Published where
  txtRecords : String → Except Reason (List Bytes)
  addresses : String → List IpAddress
  page : String → Except Reason (WebAnswer Bytes)
  gists : String → Except Reason (WebAnswer (Except Reason Json))

variable (published : Published)

def blockedAddress : IpAddress → Bool
  | .v4 ⟨a, b, c, _⟩ =>
      a == 10 || a == 127 || a == 0 || (a == 169 && b == 254) ||
        (a == 172 && 16 ≤ b && b ≤ 31) || (a == 192 && b == 168) ||
        (a == 100 && 64 ≤ b && b ≤ 127) || (a == 192 && b == 0 && c == 0) ||
        (a == 192 && b == 0 && c == 2) || (a == 198 && b == 18) || (a == 198 && b == 19) ||
        (a == 198 && b == 51 && c == 100) || (a == 203 && b == 0 && c == 113) || 224 ≤ a
  | .v6 ⟨a, b, c, d, e, f, g, h⟩ =>
      ([a, b, c, d, e, f, g].all (· == 0) && (h == 0 || h == 1)) || a == 0xFE80 ||
        (0xFC00 ≤ a && a ≤ 0xFDFF) || (a == 0x2001 && (b == 0 || b == 0x0DB8))

def trimTrailingDots (host : String) : String :=
  String.ofList (host.toList.reverse.dropWhile (· == '.')).reverse

def blockedProofHost (host : String) : Bool :=
  let name := downcase (trimTrailingDots host)
  ["localhost", "localhost.localdomain"].contains name ||
    ".local".toList.isSuffixOf name.toList || (published.addresses name).isEmpty ||
    (published.addresses name).any blockedAddress

def safeWebProofUri (url : String) : Except Reason String :=
  let uri := uriParse (trim url)
  if uri.scheme ≠ some "http" ∧ uri.scheme ≠ some "https" then .error .unsupportedUrlScheme
  else
    match uri.host with
    | none => .error .missingHost
    | some host => if blockedProofHost published host then .error .blockedPrivateHost else .ok host

def fetchWebProof (url : String) : Except Reason Bytes :=
  match published.page (trim url) with
  | .ok answer =>
      if 200 ≤ answer.status ∧ answer.status ≤ 299 then .ok answer.body
      else .error (.httpStatus answer.status)
  | .error reason => .error reason

def pathParts (path : String) : List String :=
  (Library.pieces '/' path.toList).map String.ofList

def githubProfileUsername (url : String) : Except Reason String :=
  let uri := uriText (trim url)
  match pathParts (uri.path.getD "") with
  | username :: _ =>
      if (uri.scheme = some "http" ∨ uri.scheme = some "https") ∧
          uri.host.map downcase = some "github.com" then .ok username
      else .error .notGithubProfileUrl
  | [] => .error .notGithubProfileUrl

def gistFileRawUrls (gist : Json) : List String :=
  match gist.get "files" with
  | .obj files => files.filterMap fun file => (file.2.get "raw_url").asString?
  | _ => []

def fetchGistRawFile (rawUrl : String) : List Bytes :=
  match safeWebProofUri published rawUrl with
  | .ok host =>
      if downcase host = "gist.githubusercontent.com" then
        match fetchWebProof published rawUrl with
        | .ok body => [body]
        | .error _ => []
      else []
  | .error _ => []

def decodeUserGistsBody : Except Reason Json → Except Reason Bytes
  | .ok (.arr gists) =>
      .ok ([10].intercalate ((gists.flatMap gistFileRawUrls).flatMap
        (fetchGistRawFile published)))
  | .ok _ => .error .invalidGistResponse
  | .error reason => .error reason

def fetchGithubUserGists (username : String) : Except Reason Bytes :=
  match published.gists username with
  | .ok answer =>
      if 200 ≤ answer.status ∧ answer.status ≤ 299 then
        decodeUserGistsBody published answer.body
      else .error (.githubStatus answer.status)
  | .error reason => .error reason

def proofWeight (kind : String) : Int :=
  ([("web", 20), ("dns", 25), ("social", 15), ("vouch", 30), ("payment", 25), ("passkey", 20),
    ("manual", 100)].lookup kind).getD 0

/-- `Map.get(attrs, name, default)`. -/
def attrOr (attrs : Json) (name : String) (fallback : Json) : Json :=
  if attrs.has name then attrs.get name else fallback

def normalizeKind : Json → String
  | .str kind => downcase (trim kind)
  | _ => ""

def normalizeProofMode : Json → String
  | .str "live" => "live"
  | _ => "snapshot"

def normalizeSubjectForKind (subject : Json) (kind : String) : Json :=
  match subject with
  | .str text => .str (normalizeSubject kind text)
  | other => other

def normalizeMethod : Json → String
  | .str method => downcase (trim method)
  | _ => "manual"

def socialMethodForSubject : Json → String
  | .str subject =>
      match githubProfileUsername subject with
      | .ok _ => "github_gist"
      | .error _ => "page"
  | _ => "page"

def defaultMethodForKind (kind : String) (subject : Json) : String :=
  if kind = "dns" then "dns"
  else if kind = "web" then "page"
  else if kind = "social" then socialMethodForSubject subject
  else "manual"

def castChallenge (given : Json) (generated : Bytes) : Cast Bytes :=
  match given with
  | .null | .bool false => .given generated
  | other => (castString other).map utf8

def proofChanges (mac : Mac) (user : User) (attrs : Json) (token : String) : ProofChanges :=
  let kind := normalizeKind (attrOr attrs "kind" (.str ""))
  let proofMode := normalizeProofMode (attrOr attrs "proof_mode" (.str "snapshot"))
  let subject := normalizeSubjectForKind (attrs.get "subject") kind
  { userId := user.id
    kind := castString (.str kind)
    proofMode
    liveStatus := if proofMode = "live" then some "stale" else none
    verificationMethod := castString (.str (normalizeMethod
      (attrOr attrs "verification_method" (.str (defaultMethodForKind kind subject)))))
    subject := castString subject
    challenge := castChallenge (attrs.get "challenge")
      (generateChallenge mac user kind (subject.asString?.getD "") token)
    evidenceUrl := castString (attrs.get "evidence_url")
    scoreWeight := castInteger ((attrs.get "score_weight").orElse (.int (proofWeight kind))) }

def createProof (mac : Mac) (proofs : List Proof) (user : User) (attrs : Json)
    (token : String) : Except (List FieldError) Proof :=
  insertProof proofs (proofChanges mac user attrs token)

/-- `String.contains?`. -/
def containsBytes (text part : Bytes) : Bool :=
  text.tails.any part.isPrefixOf

def dnsTxtHost (proof : Proof) : String :=
  "_atomine." ++ trim proof.subject

def dnsChallengePresent (mac : Mac) (proof : Proof) : Except Reason Bool := do
  (proofStatementValid mac proof.challenge proof.claimed).mapError .statement
  let records ← published.txtRecords (trimTrailingDots (dnsTxtHost proof))
  .ok (records.any fun record => containsBytes record proof.challenge)

def webChallengePresent (mac : Mac) (proof : Proof) : Except Reason Bool := do
  let url := proof.evidenceUrl.getD proof.subject
  (proofStatementValid mac proof.challenge proof.claimed).mapError .statement
  let _ ← safeWebProofUri published url
  let body ← fetchWebProof published url
  .ok (containsBytes body proof.challenge)

def githubGistChallengePresent (mac : Mac) (proof : Proof) : Except Reason Bool := do
  (proofStatementValid mac proof.challenge proof.claimed).mapError .statement
  let username ← githubProfileUsername proof.subject
  let body ← fetchGithubUserGists published username
  .ok (containsBytes body proof.challenge)

inductive CheckResult where
  | verified (proof : Proof)
  | notFound (proof : Proof)
  | closed
  | notCheckable
  | manualReviewRequired
  deriving DecidableEq, Repr

/-- `verify_proof(proof, nil, notes)`. -/
def verifyProof (proof : Proof) (notes : String) : Proof :=
  { proof with
    status := "verified"
    liveStatus := if proof.proofMode = "live" then some "active" else proof.liveStatus
    failedCheckCount := 0
    reviewNotes := some notes }

def markCheckFailed (proof : Proof) (notes : String) : Proof :=
  if proof.proofMode = "live" then
    { proof with
      liveStatus := some "stale"
      failedCheckCount := proof.failedCheckCount + 1
      reviewNotes := some notes }
  else { proof with reviewNotes := some notes }

def checkOutcome (proof : Proof) (found absent failed : String) :
    Except Reason Bool → CheckResult
  | .ok true => .verified (verifyProof proof found)
  | .ok false => .notFound (markCheckFailed proof absent)
  | .error reason =>
      .notFound (markCheckFailed proof (failed ++ " check failed: " ++ reason.inspect))

def checkProof (mac : Mac) (proof : Proof) : CheckResult :=
  if proof.claimType = "negative" then .notCheckable
  else if proof.status = "rejected" ∨ proof.status = "revoked" then .closed
  else if proof.verificationMethod = "dns" then
    checkOutcome proof "DNS TXT record matched" "DNS TXT record did not contain the challenge"
      "DNS" (dnsChallengePresent published mac proof)
  else if proof.verificationMethod = "page" then
    checkOutcome proof "Web page contained challenge" "Web page did not contain the challenge"
      "Web" (webChallengePresent published mac proof)
  else if proof.verificationMethod = "github_gist" then
    checkOutcome proof "GitHub gist contained challenge"
      "GitHub gist did not contain the challenge" "GitHub gist"
      (githubGistChallengePresent published mac proof)
  else .manualReviewRequired

end Elektrine.Atomine

/-!
## What a verified proof shows

A check succeeds only for a challenge that is published where the method looks.  A challenge
in the format of a statement has to be signed for the user, the kind and the subject of the
row; an older one has no signature to check.
-/

namespace Elektrine.Atomine

open Elektrine.Library

/-- The challenge has the head of a statement. -/
def IsStatement (challenge : Bytes) : Prop :=
  (afterHead challenge).isSome = true

def statementValue (challenge : Bytes) (name : String) : Option Bytes :=
  (afterHead challenge).bind fun rest =>
    fieldValue ((pieces 32 rest).tail.map statementField) name

structure SignedFor (mac : Mac) (challenge : Bytes) (claimed : Claimed) : Prop where
  userId : statementValue challenge "user_id" = some (utf8 claimed.userId.repr)
  kind : statementValue challenge "kind" = some (utf8 claimed.kind)
  subject : statementValue challenge "subject" = some (utf8 claimed.subject)
  signed : ∃ handle nonce, statementValue challenge "sig" = some (signProofPayload mac
    (signedProofPayload (utf8 claimed.userId.repr) handle (utf8 claimed.kind)
      (utf8 claimed.subject) nonce))

theorem SignedFor.eq_of_same {mac : Mac} {challenge : Bytes} {first second : Claimed}
    (one : SignedFor mac challenge first) (other : SignedFor mac challenge second) :
    first = second := by
  have userIds : first.userId = second.userId :=
    repr_inj (utf8_inj (Option.some.inj (one.userId.symm.trans other.userId)))
  have kinds : first.kind = second.kind :=
    utf8_inj (Option.some.inj (one.kind.symm.trans other.kind))
  have subjects : first.subject = second.subject :=
    utf8_inj (Option.some.inj (one.subject.symm.trans other.subject))
  cases first
  cases second
  simp_all

theorem parseSignedProofStatementFields_ok {rest : Bytes} {fields : StatementFields}
    (parsed : parseSignedProofStatementFields rest = .ok fields) :
    fields = (pieces 32 rest).tail.map statementField ∧
      ∀ name ∈ ["user", "user_id", "kind", "subject", "nonce", "sig"],
        presentField fields name = true := by
  unfold parseSignedProofStatementFields at parsed
  split at parsed
  · cases parsed
  · rename_i version encodedFields cut
    simp only at parsed
    split_ifs at parsed with versioned complete
    cases parsed
    rw [cut]
    exact ⟨rfl, List.all_eq_true.mp complete⟩

theorem signedFieldsMatchProof_ok {fields : StatementFields} {claimed : Claimed}
    (matched : signedFieldsMatchProof fields claimed = .ok ()) :
    fieldValue fields "user_id" = some (utf8 claimed.userId.repr) ∧
      fieldValue fields "kind" = some (utf8 claimed.kind) ∧
        fieldValue fields "subject" = some (utf8 claimed.subject) := by
  unfold signedFieldsMatchProof at matched
  split_ifs at matched with user kind subject
  exact ⟨not_not.mp user, not_not.mp kind, not_not.mp subject⟩

theorem exists_of_presentField {fields : StatementFields} {name : String}
    (present : presentField fields name = true) : ∃ value, fieldValue fields name = some value := by
  unfold presentField at present
  cases found : fieldValue fields name with
  | none => simp [found] at present
  | some value => exact ⟨value, rfl⟩

theorem signedFor_of_valid {mac : Mac} {challenge : Bytes} {claimed : Claimed}
    (valid : proofStatementValid mac challenge claimed = .ok ())
    (statement : IsStatement challenge) : SignedFor mac challenge claimed := by
  obtain ⟨rest, headed⟩ := Option.isSome_iff_exists.mp statement
  obtain ⟨outcome, parsed, valid⟩ := bind_ok_iff.mp valid
  unfold parseSignedProofStatement at parsed
  rw [headed] at parsed
  cases read : parseSignedProofStatementFields rest with
  | error reason =>
      simp only [read] at parsed
      cases parsed
  | ok fields =>
      simp only [read] at parsed
      cases parsed
      obtain ⟨cut, complete⟩ := parseSignedProofStatementFields_ok read
      obtain ⟨_, matched, valid⟩ := bind_ok_iff.mp valid
      obtain ⟨userId, kind, subject⟩ := signedFieldsMatchProof_ok matched
      obtain ⟨handle, handled⟩ := exists_of_presentField (complete "user" (by simp))
      obtain ⟨nonce, drawn⟩ := exists_of_presentField (complete "nonce" (by simp))
      obtain ⟨signature, signed⟩ := exists_of_presentField (complete "sig" (by simp))
      have own : ∀ name, statementValue challenge name = fieldValue fields name := by
        intro name
        rw [statementValue, headed, Option.bind_some, cut]
      simp only [signatureValid, userId, handled, kind, subject, drawn, signed,
        Option.getD_some] at valid
      split_ifs at valid with same
      refine ⟨(own _).trans userId, (own _).trans kind, (own _).trans subject,
        handle.dropWhile (· == 64), nonce, ?_⟩
      rw [own, signed, ← eq_of_beq same]

inductive Place where
  | dnsName (host : String)
  | page (url : String)
  | account (username : String)
  deriving DecidableEq, Repr

/-- The DNS name or the account of the subject; the page of the evidence, or without evidence
that of the subject. -/
def placeOf (proof : Proof) : Option Place :=
  if proof.verificationMethod = "dns" then some (.dnsName (dnsTxtHost proof))
  else if proof.verificationMethod = "page" then
    some (.page (proof.evidenceUrl.getD proof.subject))
  else if proof.verificationMethod = "github_gist" then
    match githubProfileUsername proof.subject with
    | .ok username => some (.account username)
    | .error _ => none
  else none

def Found (published : Published) (challenge : Bytes) : Place → Prop
  | .dnsName host => ∃ records, published.txtRecords (trimTrailingDots host) = .ok records ∧
      ∃ record ∈ records, containsBytes record challenge = true
  | .page url => ∃ body, fetchWebProof published url = .ok body ∧
      containsBytes body challenge = true
  | .account username => ∃ body, fetchGithubUserGists published username = .ok body ∧
      containsBytes body challenge = true

/-- The statement is valid, and the challenge is at the place. -/
def Shown (published : Published) (mac : Mac) (proof : Proof) : Prop :=
  proofStatementValid mac proof.challenge proof.claimed = .ok () ∧
    ∃ place, placeOf proof = some place ∧ Found published proof.challenge place

variable {published : Published} {mac : Mac} {proof : Proof}

theorem shown_of_dns (method : proof.verificationMethod = "dns")
    (present : dnsChallengePresent published mac proof = .ok true) :
    Shown published mac proof := by
  obtain ⟨_, valid, present⟩ := mapError_bind_ok_iff.mp present
  obtain ⟨records, listed, present⟩ := bind_ok_iff.mp present
  have found : records.any (containsBytes · proof.challenge) = true := Except.ok.inj present
  refine ⟨valid, .dnsName (dnsTxtHost proof), by rw [placeOf, if_pos method], records, listed, ?_⟩
  exact List.any_eq_true.mp found

theorem shown_of_page (method : proof.verificationMethod = "page")
    (present : webChallengePresent published mac proof = .ok true) :
    Shown published mac proof := by
  obtain ⟨_, valid, present⟩ := mapError_bind_ok_iff.mp present
  obtain ⟨_, _, present⟩ := bind_ok_iff.mp present
  obtain ⟨body, fetched, present⟩ := bind_ok_iff.mp present
  refine ⟨valid, .page (proof.evidenceUrl.getD proof.subject), ?_, body, fetched,
    Except.ok.inj present⟩
  rw [placeOf, if_neg (by rw [method]; simp), if_pos method]

theorem shown_of_gist (method : proof.verificationMethod = "github_gist")
    (present : githubGistChallengePresent published mac proof = .ok true) :
    Shown published mac proof := by
  obtain ⟨_, valid, present⟩ := mapError_bind_ok_iff.mp present
  obtain ⟨username, named, present⟩ := bind_ok_iff.mp present
  obtain ⟨body, fetched, present⟩ := bind_ok_iff.mp present
  refine ⟨valid, .account username, ?_, body, fetched, Except.ok.inj present⟩
  rw [placeOf, if_neg (by rw [method]; simp), if_neg (by rw [method]; simp), if_pos method, named]

theorem present_of_verified {found absent failed : String} {outcome : Except Reason Bool}
    {updated : Proof}
    (verified : checkOutcome proof found absent failed outcome = .verified updated) :
    outcome = .ok true := by
  cases outcome with
  | error reason => cases verified
  | ok present =>
      cases present with
      | false => cases verified
      | true => rfl

theorem shown_of_checkProof {updated : Proof}
    (checked : checkProof published mac proof = .verified updated) :
    Shown published mac proof := by
  unfold checkProof at checked
  split_ifs at checked with negative closed dns page gist
  · exact shown_of_dns dns (present_of_verified checked)
  · exact shown_of_page page (present_of_verified checked)
  · exact shown_of_gist gist (present_of_verified checked)

/-- A verified proof has its challenge published at its place; a challenge in the format of a
statement is signed for the row's user, kind and subject, and for no other. -/
theorem verified_proof_bound {updated : Proof}
    (checked : checkProof published mac proof = .verified updated) :
    (IsStatement proof.challenge → SignedFor mac proof.challenge proof.claimed ∧
      ∀ claimed, SignedFor mac proof.challenge claimed → claimed = proof.claimed) ∧
    ∃ place, placeOf proof = some place ∧ Found published proof.challenge place := by
  obtain ⟨valid, found⟩ := shown_of_checkProof checked
  refine ⟨?_, found⟩
  intro statement
  have signed := signedFor_of_valid valid statement
  exact ⟨signed, fun claimed other => other.eq_of_same signed⟩

theorem containsBytes_self (text : Bytes) : containsBytes text text = true := by
  apply List.any_eq_true.mpr
  refine ⟨text, (List.mem_tails _ _).mpr (List.suffix_refl _), ?_⟩
  exact List.isPrefixOf_iff_prefix.mpr (List.prefix_refl _)

def publishing (text : Bytes) : Published :=
  { txtRecords := fun _ => .ok [text]
    addresses := fun _ => [.v4 ⟨93, 184, 216, 34⟩]
    page := fun url => if url = "https://m.example/p" then .ok ⟨200, text⟩ else .ok ⟨404, []⟩
    gists := fun _ => .ok ⟨404, .error .invalidGistResponse⟩ }

def owner : User :=
  ⟨1, some "m", none⟩

def domainProof : Proof :=
  { userId := 1
    kind := "dns"
    claimType := "positive"
    proofMode := "snapshot"
    liveStatus := none
    verificationMethod := "dns"
    subject := "v.example"
    status := "pending"
    challenge := generateChallenge (fun _ => [1]) owner "dns" "v.example" "n"
    evidenceUrl := none
    scoreWeight := 25
    failedCheckCount := 0
    reviewNotes := none }

theorem checkProof_dns (positive : proof.claimType ≠ "negative")
    (pending : proof.status = "pending") (method : proof.verificationMethod = "dns")
    (present : dnsChallengePresent published mac proof = .ok true) :
    checkProof published mac proof = .verified (verifyProof proof "DNS TXT record matched") := by
  rw [checkProof, if_neg positive, if_neg (by rw [pending]; simp), if_pos method, present]
  rfl

theorem checkProof_page (positive : proof.claimType ≠ "negative")
    (pending : proof.status = "pending") (method : proof.verificationMethod = "page")
    (present : webChallengePresent published mac proof = .ok true) :
    checkProof published mac proof =
      .verified (verifyProof proof "Web page contained challenge") := by
  rw [checkProof, if_neg positive, if_neg (by rw [pending]; simp),
    if_neg (by rw [method]; simp), if_pos method, present]
  rfl

theorem domainProof_present :
    dnsChallengePresent (publishing domainProof.challenge) (fun _ => [1]) domainProof =
      .ok true := by
  have valid : proofStatementValid (fun _ => [1]) domainProof.challenge domainProof.claimed =
      .ok () := by
    apply generateChallenge_valid
    · intro payload
      exact List.cons_ne_nil _ _
    · have member : 'd' ∈ "dns".toList := by decide
      exact notBlank_utf8 member (by decide)
    · have member : 'v' ∈ "v.example".toList := by decide
      exact notBlank_utf8 member (by decide)
    · have member : 'n' ∈ "n".toList := by decide
      exact notBlank_utf8 member (by decide)
    · decide
  refine mapError_bind_ok_iff.mpr ⟨(), valid, bind_ok_iff.mpr ⟨_, rfl, ?_⟩⟩
  rw [List.any_cons, containsBytes_self]
  rfl

theorem verified_proof_bound_domainProof :
    (IsStatement domainProof.challenge →
      SignedFor (fun _ => [1]) domainProof.challenge domainProof.claimed ∧
        ∀ claimed, SignedFor (fun _ => [1]) domainProof.challenge claimed →
          claimed = domainProof.claimed) ∧
      ∃ place, placeOf domainProof = some place ∧
        Found (publishing domainProof.challenge) domainProof.challenge place := by
  have checked : checkProof (publishing domainProof.challenge) (fun _ => [1]) domainProof =
      .verified (verifyProof domainProof "DNS TXT record matched") := by
    exact checkProof_dns (by simp [domainProof]) rfl rfl domainProof_present
  exact verified_proof_bound checked

def subjectPlace (proof : Proof) : Option Place :=
  placeOf { proof with evidenceUrl := none }

def copiedAttrs : Json :=
  .obj [("kind", .str "web"), ("subject", .str "https://v.example/about"),
    ("challenge", .str "proof of another"), ("evidence_url", .str "https://m.example/p")]

def copiedChanges : ProofChanges :=
  { userId := 1
    kind := .given "web"
    proofMode := "snapshot"
    liveStatus := none
    verificationMethod := .given "page"
    subject := .given "https://v.example/about"
    challenge := .given (utf8 "proof of another")
    evidenceUrl := .given "https://m.example/p"
    scoreWeight := .given 20 }

def copiedProof : Proof :=
  { userId := 1
    kind := "web"
    claimType := "positive"
    proofMode := "snapshot"
    liveStatus := none
    verificationMethod := "page"
    subject := "https://v.example/about"
    status := "pending"
    challenge := utf8 "proof of another"
    evidenceUrl := some "https://m.example/p"
    scoreWeight := 20
    failedCheckCount := 0
    reviewNotes := none }

theorem proofChanges_copiedAttrs (mac : Mac) (token : String) :
    proofChanges mac owner copiedAttrs token = copiedChanges := by
  rfl

theorem copiedChanges_valid : copiedChanges.errors = [] := by
  have length : binaryLength (utf8 "proof of another") = 16 := by
    rw [binaryLength, fromUTF8?_utf8]
    rfl
  simp only [ProofChanges.errors, copiedChanges, Cast.check, Cast.get?, length]
  rfl

theorem createProof_copied (mac : Mac) (token : String) :
    createProof mac [] owner copiedAttrs token = .ok copiedProof := by
  have row : copiedChanges.row = some copiedProof := by rfl
  rw [createProof, proofChanges_copiedAttrs, insertProof, copiedChanges_valid, row]
  rfl

theorem copied_unsigned : afterHead (utf8 "proof of another") = none := by
  decide

theorem copiedProof_present (mac : Mac) :
    webChallengePresent (publishing copiedProof.challenge) mac copiedProof = .ok true := by
  have valid : proofStatementValid mac copiedProof.challenge copiedProof.claimed = .ok () := by
    refine bind_ok_iff.mpr ⟨none, ?_, rfl⟩
    rw [parseSignedProofStatement, copiedProof, copied_unsigned]
  have safe : safeWebProofUri (publishing copiedProof.challenge) "https://m.example/p" =
      .ok "m.example" := by
    rfl
  refine mapError_bind_ok_iff.mpr ⟨(), valid, bind_ok_iff.mpr ⟨_, safe, ?_⟩⟩
  refine bind_ok_iff.mpr ⟨copiedProof.challenge, rfl, ?_⟩
  exact congrArg Except.ok (containsBytes_self copiedProof.challenge)

/-- The row is verified by a text that nobody has signed, on a page of the user's choice. -/
theorem copied_text_verifies :
    ¬ ∀ (published : Published) (mac : Mac) (proofs : List Proof) (user : User) (attrs : Json)
        (token : String) (proof updated : Proof),
      createProof mac proofs user attrs token = .ok proof →
        checkProof published mac proof = .verified updated →
          SignedFor mac proof.challenge proof.claimed ∧
            ∃ place, subjectPlace proof = some place ∧
              Found published proof.challenge place := by
  intro bound
  have checked : checkProof (publishing copiedProof.challenge) id copiedProof =
      .verified (verifyProof copiedProof "Web page contained challenge") :=
    checkProof_page (by simp [copiedProof]) rfl rfl (copiedProof_present id)
  obtain ⟨signed, -⟩ := bound (publishing copiedProof.challenge) id [] owner copiedAttrs ""
    copiedProof _ (createProof_copied id "") checked
  have userId := signed.userId
  rw [statementValue, copiedProof, copied_unsigned] at userId
  cases userId

end Elektrine.Atomine
