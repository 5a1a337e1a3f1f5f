import Elektrine.Data.Bytes
import Elektrine.Data.Text
import Elektrine.Data.Uri
import Elektrine.Library.Attempts
import Elektrine.Library.Separated
import Elektrine.Data.Json

/-!
# Signed proof statements

The challenge of a proof names a user, a kind and a subject, and it ends with the server's
signature over them.  A text with neither of the two heads is taken for an older challenge,
which carries no signature.
-/

namespace Elektrine.Atomine

open Elektrine.Library

/-- What `generate_challenge` reads of a user. -/
structure User where
  id : Nat
  handle : Option String
  username : Option String
  deriving DecidableEq, Repr

inductive StatementError where
  | invalidProofStatement
  | unsupportedProofStatement
  | proofUserMismatch
  | proofKindMismatch
  | proofSubjectMismatch
  | invalidProofSignature
  deriving DecidableEq, Repr

/-- `:crypto.mac(:hmac, :sha256, secret, payload)`. -/
abbrev Mac := Bytes → Bytes

variable (mac : Mac)

def signedProofPayload (userId handle kind subject nonce : Bytes) : Bytes :=
  [10].intercalate
    [utf8 "atomine-proof:v1", utf8 "user_id=" ++ userId, utf8 "user=" ++ handle,
      utf8 "kind=" ++ kind, utf8 "subject=" ++ subject, utf8 "nonce=" ++ nonce]

def signProofPayload (payload : Bytes) : Bytes :=
  utf8 (urlEncode64 (mac payload))

def User.claimedHandle (user : User) : String :=
  (user.handle <|> user.username).getD ("user-" ++ user.id.repr)

def statementVersion : Bytes := utf8 "v1"

/-- `generate_challenge`, from a random token. -/
def generateChallenge (user : User) (kind subject token : String) : Bytes :=
  let payload := signedProofPayload (utf8 user.id.repr) (utf8 user.claimedHandle) (utf8 kind)
    (utf8 subject) (utf8 token)
  utf8 "Atomine identity claim " ++ [32].intercalate
    [statementVersion,
      utf8 "user=" ++ encodeWwwForm (utf8 ("@" ++ user.claimedHandle)),
      utf8 "user_id=" ++ utf8 user.id.repr,
      utf8 "kind=" ++ encodeWwwForm (utf8 kind),
      utf8 "subject=" ++ encodeWwwForm (utf8 subject),
      utf8 "nonce=" ++ encodeWwwForm (utf8 token),
      utf8 "sig=" ++ encodeWwwForm (signProofPayload mac payload)]

abbrev StatementFields := List (Bytes × Bytes)

/-- `String.split(field, "=", parts: 2)`, with the value decoded. -/
def statementField (field : Bytes) : Bytes × Bytes :=
  match field.dropWhile (· != 61) with
  | [] => (field, [])
  | _ :: value => (field.takeWhile (· != 61), decodeWwwForm value)

def fieldValue (fields : StatementFields) (name : String) : Option Bytes :=
  fields.reverse.lookup (utf8 name)

/-- `String.trim(value) != ""`, which holds of every binary that is no text. -/
def notBlank (value : Bytes) : Bool :=
  match String.fromUTF8? ⟨value.toArray⟩ with
  | some text => trim text != ""
  | none => true

def presentField (fields : StatementFields) (name : String) : Bool :=
  (fieldValue fields name).any notBlank

def parseSignedProofStatementFields (rest : Bytes) : Except StatementError StatementFields :=
  match pieces 32 rest with
  | [] => .error .unsupportedProofStatement
  | version :: encodedFields =>
      if version = statementVersion then
        let fields := encodedFields.map statementField
        if ["user", "user_id", "kind", "subject", "nonce", "sig"].all (presentField fields) then
          .ok fields
        else .error .invalidProofStatement
      else .error .unsupportedProofStatement

def statementHeads : List Bytes :=
  ["Atomine identity claim ", "Atomine personhood proof "].map utf8

def afterHead (challenge : Bytes) : Option Bytes :=
  statementHeads.findSome? fun head =>
    if head.isPrefixOf challenge then some (challenge.drop head.length) else none

/-- `none` stands for `:older`. -/
def parseSignedProofStatement (challenge : Bytes) :
    Except StatementError (Option StatementFields) :=
  match afterHead challenge with
  | some rest => (parseSignedProofStatementFields rest).map some
  | none => .ok none

structure Claimed where
  userId : Nat
  kind : String
  subject : String
  deriving DecidableEq, Repr

def signedFieldsMatchProof (fields : StatementFields) (claimed : Claimed) :
    Except StatementError Unit :=
  if fieldValue fields "user_id" ≠ some (utf8 claimed.userId.repr) then
    .error .proofUserMismatch
  else if fieldValue fields "kind" ≠ some (utf8 claimed.kind) then .error .proofKindMismatch
  else if fieldValue fields "subject" ≠ some (utf8 claimed.subject) then
    .error .proofSubjectMismatch
  else .ok ()

def signatureValid (fields : StatementFields) : Bool :=
  let value name := (fieldValue fields name).getD []
  signProofPayload mac (signedProofPayload (value "user_id")
    ((value "user").dropWhile (· == 64)) (value "kind") (value "subject") (value "nonce")) ==
      value "sig"

def proofStatementValid (challenge : Bytes) (claimed : Claimed) :
    Except StatementError Unit := do
  match ← parseSignedProofStatement challenge with
  | some fields =>
      signedFieldsMatchProof fields claimed
      if signatureValid mac fields then .ok () else .error .invalidProofSignature
  | none => .ok ()

theorem notBlank_utf8 {text : String} {character : Char} (member : character ∈ text.toList)
    (visible : isWhiteSpace character = false) : notBlank (utf8 text) = true := by
  rw [notBlank, fromUTF8?_utf8]
  apply bne_iff_ne.mpr
  intro blank
  have empty : (text.toList.dropWhile isWhiteSpace).rdropWhile isWhiteSpace = [] := by
    rw [← toList_trim, blank]
    rfl
  have front : ∀ other ∈ text.toList.dropWhile isWhiteSpace, isWhiteSpace other = true :=
    List.rdropWhile_eq_nil_iff.mp empty
  cases rest : text.toList.dropWhile isWhiteSpace with
  | nil =>
      have all := List.dropWhile_eq_nil_iff.mp rest character member
      rw [visible] at all
      cases all
  | cons first others =>
      have head := List.head_dropWhile_not isWhiteSpace
        (show text.toList.dropWhile isWhiteSpace ≠ [] by rw [rest]; simp)
      have white := front first (by rw [rest]; exact List.mem_cons_self)
      simp only [rest, List.head_cons, white] at head
      cases head

theorem statementField_encode {key value : Bytes} (plain : 61 ∉ key) :
    statementField (key ++ 61 :: encodeWwwForm value) = (key, value) := by
  have kept : ∀ byte ∈ key, (byte != 61) = true := by
    intro byte member
    apply bne_iff_ne.mpr
    intro same
    rw [same] at member
    exact plain member
  have rest : (key ++ 61 :: encodeWwwForm value).dropWhile (· != 61) =
      61 :: encodeWwwForm value := by
    rw [List.dropWhile_append_of_pos kept]
    rfl
  have front : (key ++ 61 :: encodeWwwForm value).takeWhile (· != 61) = key := by
    rw [List.takeWhile_append_of_pos kept]
    simp
  rw [statementField, rest]
  simp only [front, decodeWwwForm_encodeWwwForm]

def generatedFields (user : User) (kind subject token : String) : StatementFields :=
  [(utf8 "user", utf8 ("@" ++ user.claimedHandle)),
    (utf8 "user_id", utf8 user.id.repr),
    (utf8 "kind", utf8 kind),
    (utf8 "subject", utf8 subject),
    (utf8 "nonce", utf8 token),
    (utf8 "sig", signProofPayload mac (signedProofPayload (utf8 user.id.repr)
      (utf8 user.claimedHandle) (utf8 kind) (utf8 subject) (utf8 token)))]

def encodedField (field : Bytes × Bytes) : Bytes :=
  field.1 ++ 61 :: encodeWwwForm field.2

theorem encodeWwwForm_repr (number : Nat) :
    encodeWwwForm (utf8 number.repr) = utf8 number.repr := by
  apply encodeWwwForm_of_unreserved
  intro byte member
  have digits : ∀ character ∈ number.repr.toList, 48 ≤ character.toNat ∧ character.toNat ≤ 57 := by
    intro character inside
    have digit := isDigit_of_mem_repr inside
    rw [Char.isDigit, Bool.and_eq_true, decide_eq_true_eq, decide_eq_true_eq] at digit
    exact ⟨UInt32.le_iff_toNat_le.mp digit.1, UInt32.le_iff_toNat_le.mp digit.2⟩
  obtain ⟨character, inside, same⟩ := exists_of_mem_utf8 (fun character inside =>
    UInt32.le_iff_toNat_le.mpr (Nat.le_trans (digits character inside).2 (by decide))) member
  obtain ⟨low, high⟩ := digits character inside
  have code : byte.toNat = character.toNat := by
    rw [same, UInt32.toNat_toUInt8]
    exact Nat.mod_eq_of_lt (Nat.lt_of_le_of_lt high (by decide))
  have digit : 48 ≤ byte ∧ byte ≤ 57 :=
    ⟨UInt8.le_iff_toNat_le.mpr (code ▸ low), UInt8.le_iff_toNat_le.mpr (code ▸ high)⟩
  simp [isUnreserved, digit]

theorem generateChallenge_eq (user : User) (kind subject token : String) :
    generateChallenge mac user kind subject token =
      utf8 "Atomine identity claim " ++ [32].intercalate
        (statementVersion :: (generatedFields mac user kind subject token).map encodedField) := by
  have id := encodeWwwForm_repr user.id
  simp only [generatedFields, List.map_cons, List.map_nil, encodedField, id]
  rfl

theorem afterHead_identityClaim (rest : Bytes) :
    afterHead (utf8 "Atomine identity claim " ++ rest) = some rest := by
  have headed : (utf8 "Atomine identity claim ").isPrefixOf
      (utf8 "Atomine identity claim " ++ rest) = true :=
    List.isPrefixOf_iff_prefix.mpr (List.prefix_append _ _)
  rw [afterHead, statementHeads, List.map_cons, List.findSome?_cons, if_pos headed,
    List.drop_left]

theorem plain_of_generated {user : User} {kind subject token : String} {field : Bytes × Bytes}
    (generated : field ∈ generatedFields mac user kind subject token) :
    32 ∉ field.1 ∧ 61 ∉ field.1 := by
  have every : ∀ key ∈ ["user", "user_id", "kind", "subject", "nonce", "sig"].map utf8,
      32 ∉ key ∧ 61 ∉ key := by
    decide
  exact every field.1 (List.mem_map_of_mem (f := Prod.fst) generated)

theorem pieces_generated (user : User) (kind subject token : String) :
    pieces 32 ([32].intercalate
      (statementVersion :: (generatedFields mac user kind subject token).map encodedField)) =
        statementVersion :: (generatedFields mac user kind subject token).map encodedField := by
  apply pieces_intercalate_of_pieces
  intro part member
  rcases List.mem_cons.mp member with version | encoded
  · rw [version]
    decide
  · obtain ⟨field, generated, same⟩ := List.mem_map.mp encoded
    rw [← same, encodedField]
    refine ⟨by simp, ?_⟩
    intro inside
    rcases List.mem_append.mp inside with key | value
    · exact (plain_of_generated mac generated).1 key
    · rcases List.mem_cons.mp value with equals | value
      · cases equals
      · exact space_not_mem_encodeWwwForm _ value

theorem statementField_generated (user : User) (kind subject token : String) :
    ((generatedFields mac user kind subject token).map encodedField).map statementField =
      generatedFields mac user kind subject token := by
  have read : ∀ field ∈ generatedFields mac user kind subject token,
      (statementField ∘ encodedField) field = id field := by
    intro field generated
    exact statementField_encode (plain_of_generated mac generated).2
  rw [List.map_map, List.map_congr_left read, List.map_id]

theorem notBlank_urlEncode64 {bytes : List UInt8} (some_byte : bytes ≠ []) :
    notBlank (utf8 (urlEncode64 bytes)) = true := by
  have letters : ∀ bits : Fin 64, isWhiteSpace (sextetCharacter bits) = false := by decide
  cases bytes with
  | nil => exact absurd rfl some_byte
  | cons first rest =>
      have small : first.toNat / 4 < 64 := by
        have bound := first.toNat_lt
        omega
      have head : sextetCharacter (first.toNat / 4) ∈ (urlEncode64 (first :: rest)).toList := by
        rw [urlEncode64, String.toList_ofList]
        cases rest with
        | nil => exact List.mem_cons_self
        | cons second rest =>
            cases rest with
            | nil => exact List.mem_cons_self
            | cons third rest => exact List.mem_cons_self
      exact notBlank_utf8 head (letters ⟨first.toNat / 4, small⟩)

theorem notBlank_repr (number : Nat) : notBlank (utf8 number.repr) = true := by
  cases digits : number.repr.toList with
  | nil =>
      rw [Nat.toList_repr] at digits
      exact absurd digits Nat.toDigits_ne_nil
  | cons first rest =>
      have member : first ∈ number.repr.toList := by
        rw [digits]
        exact List.mem_cons_self
      exact notBlank_utf8 member (isWhiteSpace_of_isDigit (isDigit_of_mem_repr member))

theorem notBlank_generated {user : User} {kind subject token : String}
    (full : ∀ payload, mac payload ≠ []) (kinded : notBlank (utf8 kind) = true)
    (subjected : notBlank (utf8 subject) = true) (drawn : notBlank (utf8 token) = true) :
    ∀ field ∈ generatedFields mac user kind subject token, notBlank field.2 = true := by
  have named : notBlank (utf8 ("@" ++ user.claimedHandle)) = true := by
    have member : '@' ∈ ("@" ++ user.claimedHandle).toList := by
      rw [String.toList_append]
      exact List.mem_append_left _ (by decide)
    exact notBlank_utf8 member (by decide)
  intro field generated
  simp only [generatedFields, List.mem_cons, List.not_mem_nil, or_false] at generated
  rcases generated with rfl | rfl | rfl | rfl | rfl | rfl
  · exact named
  · exact notBlank_repr user.id
  · exact kinded
  · exact subjected
  · exact drawn
  · exact notBlank_urlEncode64 (full _)

def generatedSignature (user : User) (kind subject token : String) : Bytes :=
  signProofPayload mac (signedProofPayload (utf8 user.id.repr) (utf8 user.claimedHandle)
    (utf8 kind) (utf8 subject) (utf8 token))

theorem fieldValue_generated (user : User) (kind subject token : String) :
    let value := fieldValue (generatedFields mac user kind subject token)
    value "user" = some (utf8 ("@" ++ user.claimedHandle)) ∧
      value "user_id" = some (utf8 user.id.repr) ∧ value "kind" = some (utf8 kind) ∧
      value "subject" = some (utf8 subject) ∧ value "nonce" = some (utf8 token) ∧
      value "sig" = some (generatedSignature mac user kind subject token) :=
  ⟨rfl, rfl, rfl, rfl, rfl, rfl⟩

theorem parse_generated {user : User} {kind subject token : String}
    (visible : ∀ field ∈ generatedFields mac user kind subject token, notBlank field.2 = true) :
    parseSignedProofStatement (generateChallenge mac user kind subject token) =
      .ok (some (generatedFields mac user kind subject token)) := by
  have complete : (["user", "user_id", "kind", "subject", "nonce", "sig"].all
      (presentField (generatedFields mac user kind subject token))) = true := by
    obtain ⟨userValue, idValue, kindValue, subjectValue, nonceValue, sigValue⟩ :=
      fieldValue_generated mac user kind subject token
    simp only [generatedFields, List.forall_mem_cons] at visible
    obtain ⟨named, numbered, kinded, subjected, drawn, signed, -⟩ := visible
    simp only [List.all_cons, List.all_nil, presentField, userValue, idValue, kindValue,
      subjectValue, nonceValue, sigValue, Option.any_some, named, numbered, kinded, subjected,
      drawn, generatedSignature, signed, Bool.and_self]
  rw [parseSignedProofStatement, generateChallenge_eq, afterHead_identityClaim]
  simp only [parseSignedProofStatementFields, pieces_generated, statementField_generated,
    complete, if_true]
  rfl

/-- A statement that the server has made is valid for its user, kind and subject; the name of
the user has no at sign in front. -/
theorem generateChallenge_valid {user : User} {kind subject token : String}
    (full : ∀ payload, mac payload ≠ []) (kinded : notBlank (utf8 kind) = true)
    (subjected : notBlank (utf8 subject) = true) (drawn : notBlank (utf8 token) = true)
    (named : (utf8 user.claimedHandle).head? ≠ some 64) :
    proofStatementValid mac (generateChallenge mac user kind subject token)
      ⟨user.id, kind, subject⟩ = .ok () := by
  have visible : ∀ field ∈ generatedFields mac user kind subject token,
      notBlank field.2 = true := notBlank_generated mac full kinded subjected drawn
  obtain ⟨userValue, idValue, kindValue, subjectValue, nonceValue, sigValue⟩ :=
    fieldValue_generated mac user kind subject token
  have matched : signedFieldsMatchProof (generatedFields mac user kind subject token)
      ⟨user.id, kind, subject⟩ = .ok () := by
    simp [signedFieldsMatchProof, idValue, kindValue, subjectValue]
  have handle : (utf8 ("@" ++ user.claimedHandle)).dropWhile (· == 64) =
      utf8 user.claimedHandle := by
    have at_sign : utf8 "@" = [64] := by decide
    rw [utf8_append, at_sign, List.singleton_append, List.dropWhile_cons_of_pos (by decide)]
    cases rest : utf8 user.claimedHandle with
    | nil => rfl
    | cons first others =>
        rw [rest] at named
        have other : first ≠ 64 := fun same => named (congrArg some same)
        exact List.dropWhile_cons_of_neg (by simpa using other)
  have signed : signatureValid mac (generatedFields mac user kind subject token) = true := by
    simp only [signatureValid, userValue, idValue, kindValue, subjectValue, nonceValue,
      sigValue, Option.getD_some, handle]
    exact beq_self_eq_true _
  exact bind_ok_iff.mpr ⟨_, parse_generated mac visible,
    bind_ok_iff.mpr ⟨(), matched, if_pos signed⟩⟩

end Elektrine.Atomine

/-!
## Proof rows

A proof row and the changeset that a new one passes.  Times, the metadata and the reviewer of
a row are left out.
-/

namespace Elektrine.Atomine

structure Proof where
  userId : Nat
  kind : String
  claimType : String
  proofMode : String
  liveStatus : Option String
  verificationMethod : String
  subject : String
  status : String
  challenge : Bytes
  evidenceUrl : Option String
  scoreWeight : Int
  failedCheckCount : Nat
  reviewNotes : Option String
  deriving DecidableEq, Repr

def Proof.claimed (proof : Proof) : Claimed :=
  ⟨proof.userId, proof.kind, proof.subject⟩

def proofKinds : List String := ["web", "dns", "social", "vouch", "payment", "passkey", "manual"]

def verificationMethods : List String :=
  ["page", "dns", "github_gist", "email", "oauth", "manual", "none"]

def Proof.active (proof : Proof) : Bool :=
  proof.status = "pending" || proof.status = "verified"

abbrev FieldError := String × String

inductive Cast (α : Type) where
  | given (value : α)
  | missing
  | invalid

namespace Cast

variable {α β : Type}

def get? : Cast α → Option α
  | .given value => some value
  | _ => none

def map (change : α → β) : Cast α → Cast β
  | .given value => .given (change value)
  | .missing => .missing
  | .invalid => .invalid

/-- `validate_required`, behind the error of the cast. -/
def required (name : String) : Cast α → List FieldError
  | .given _ => []
  | .missing => [(name, "can't be blank")]
  | .invalid => [(name, "is invalid")]

def optional (name : String) : Cast α → List FieldError
  | .invalid => [(name, "is invalid")]
  | _ => []

def check (test : α → Bool) (error : FieldError) (field : Cast α) : List FieldError :=
  match field.get? with
  | some value => if test value then [] else [error]
  | none => []

end Cast

def castString : Json → Cast String
  | .str text => if trim text = "" then .missing else .given text
  | .null => .missing
  | _ => .invalid

def castInteger : Json → Cast Int
  | .int number => .given number
  | .str text =>
      if trim text = "" then .missing
      else
        match integerParseExact text with
        | some number => .given number
        | none => .invalid
  | .null => .missing
  | _ => .invalid

/-- `String.length`, with every byte of a binary that is no text as a character. -/
def binaryLength (value : Bytes) : Nat :=
  match String.fromUTF8? ⟨value.toArray⟩ with
  | some text => text.length
  | none => value.length

def isControlCharacter (character : Char) : Bool :=
  character.toNat ≤ 31 || character.toNat == 127

def normalizeHref (url : String) : Option String :=
  let normalized := trim url
  let uri := uriText normalized
  if normalized.toList.any isControlCharacter then none
  else if (uri.scheme = some "http" ∨ uri.scheme = some "https") ∧ uri.host.isSome ∧
      uri.userinfo = none then
    some uri.toText
  else none

/-- `normalize_string`, as the changeset does it to the evidence too. -/
def normalizeString (text : String) : String :=
  downcase (trim text)

def normalizeSubject (kind subject : String) : String :=
  if kind = "dns" then
    downcase (String.ofList
      ((trim subject).toList.reverse.dropWhile (· == '.')).reverse)
  else trim subject

/-- What `create_proof` gives to the changeset. -/
structure ProofChanges where
  userId : Nat
  kind : Cast String
  proofMode : String
  liveStatus : Option String
  verificationMethod : Cast String
  subject : Cast String
  challenge : Cast Bytes
  evidenceUrl : Cast String
  scoreWeight : Cast Int

def ProofChanges.evidence (changes : ProofChanges) : Cast String :=
  changes.evidenceUrl.map normalizeString

def ProofChanges.subjectText (changes : ProofChanges) : Cast String :=
  match changes.subject.map (normalizeSubject (changes.kind.get?.getD "")) with
  | .given text => if trim text = "" then .missing else .given text
  | other => other

def ProofChanges.errors (changes : ProofChanges) : List FieldError :=
  changes.kind.required "kind" ++
    changes.verificationMethod.required "verification_method" ++
    changes.subjectText.required "subject" ++
    changes.challenge.required "challenge" ++
    changes.scoreWeight.required "score_weight" ++
    changes.evidence.optional "evidence_url" ++
    changes.kind.check (proofKinds.contains ·) ("kind", "is invalid") ++
    changes.verificationMethod.check (verificationMethods.contains ·)
      ("verification_method", "is invalid") ++
    changes.subjectText.check (1 ≤ ·.length)
      ("subject", "should be at least 1 character(s)") ++
    changes.subjectText.check (·.length ≤ 500)
      ("subject", "should be at most 500 character(s)") ++
    changes.challenge.check (16 ≤ binaryLength ·)
      ("challenge", "should be at least 16 character(s)") ++
    changes.challenge.check (binaryLength · ≤ 2000)
      ("challenge", "should be at most 2000 character(s)") ++
    changes.evidence.check (·.length ≤ 2000)
      ("evidence_url", "should be at most 2000 character(s)") ++
    changes.evidence.check (fun url => (normalizeHref url).isSome)
      ("evidence_url", "must be a safe http:// or https:// URL") ++
    changes.scoreWeight.check (0 ≤ ·) ("score_weight", "must be greater than or equal to 0") ++
    changes.scoreWeight.check (· ≤ 100) ("score_weight", "must be less than or equal to 100")

def ProofChanges.row (changes : ProofChanges) : Option Proof := do
  some
    { userId := changes.userId
      kind := ← changes.kind.get?
      claimType := "positive"
      proofMode := changes.proofMode
      liveStatus := changes.liveStatus
      verificationMethod := ← changes.verificationMethod.get?
      subject := ← changes.subjectText.get?
      status := "pending"
      challenge := ← changes.challenge.get?
      evidenceUrl := changes.evidence.get?.bind normalizeHref
      scoreWeight := ← changes.scoreWeight.get?
      failedCheckCount := 0
      reviewNotes := none }

def uniqueErrors (proofs : List Proof) (proof : Proof) : List FieldError :=
  let sameSubject := proofs.filter fun other =>
    other.active && other.kind = proof.kind && other.subject = proof.subject
  if sameSubject.any (·.userId = proof.userId) then
    [("subject", "already has an active proof for this subject")]
  else if proof.kind = "dns" && !sameSubject.isEmpty then
    [("subject", "domain already has an active DNS proof")]
  else []

/-- `Repo.insert` of the changeset. -/
def insertProof (proofs : List Proof) (changes : ProofChanges) :
    Except (List FieldError) Proof :=
  match changes.errors, changes.row with
  | [], some proof =>
      match uniqueErrors proofs proof with
      | [] => .ok proof
      | errors => .error errors
  | errors, _ => .error errors

end Elektrine.Atomine
