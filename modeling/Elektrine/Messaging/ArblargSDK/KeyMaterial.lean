import Elektrine.Messaging.ArblargSDK.RequestSignatures

/-!
# Key material

Keys are configured as bytes: a raw key, a key in Base64, or any text, of which the hash is
the seed of a key.  The signer and the verifier read the bytes by functions of their own.
-/

namespace Elektrine.Messaging.ArblargSDK

/-- The code points with the property `White_Space`, in UTF-8. -/
def whiteSpaceBytes : List Bytes :=
  [[0x09], [0x0A], [0x0B], [0x0C], [0x0D], [0x20], [0xC2, 0x85], [0xC2, 0xA0],
    [0xE1, 0x9A, 0x80], [0xE2, 0x80, 0x80], [0xE2, 0x80, 0x81], [0xE2, 0x80, 0x82],
    [0xE2, 0x80, 0x83], [0xE2, 0x80, 0x84], [0xE2, 0x80, 0x85], [0xE2, 0x80, 0x86],
    [0xE2, 0x80, 0x87], [0xE2, 0x80, 0x88], [0xE2, 0x80, 0x89], [0xE2, 0x80, 0x8A],
    [0xE2, 0x80, 0xA8], [0xE2, 0x80, 0xA9], [0xE2, 0x80, 0xAF], [0xE2, 0x81, 0x9F],
    [0xE3, 0x80, 0x80]]

def dropPieces (pieces : List Bytes) : Nat → Bytes → Bytes
  | 0, bytes => bytes
  | fuel + 1, bytes =>
      match pieces.find? fun piece => piece.isPrefixOf bytes with
      | some piece => dropPieces pieces fuel (bytes.drop piece.length)
      | none => bytes

/-- `String.trim` on bytes that need not be a text. -/
def trimBytes (bytes : Bytes) : Bytes :=
  let front := dropPieces whiteSpaceBytes bytes.length bytes
  (dropPieces (whiteSpaceBytes.map List.reverse) front.length front.reverse).reverse

example : trimBytes (utf8 " a key\u2003\n") = utf8 "a key" := by decide

/-- `Elektrine.Strings.present?`. -/
def presentBytes (bytes : Bytes) : Bool :=
  !(trimBytes bytes).isEmpty

structure Seed where
  bytes : Bytes
  size : bytes.length = 32
  deriving DecidableEq

structure Ed25519 extends Crypto where
  sha256_size : ∀ bytes, (sha256 bytes).length = 32
  publicKey : Seed → PublicKey
  sign : Bytes → Seed → Bytes
  verify_sign : ∀ payload seed, verify payload (sign payload seed) (publicKey seed) = true

def byteCharacters (bytes : Bytes) : List Char :=
  bytes.map fun byte => Char.ofNat byte.toNat

/-- `Base.decode64(encoded)`, which asks for the padding. -/
def decode64 (characters : List Char) : Option Bytes :=
  if characters.length % 4 = 0 ∧ '-' ∉ characters ∧ '_' ∉ characters then
    decodeGroups (characters.map urlCharacter)
  else none

def key32 (raw : Bytes) : Option Seed :=
  if size : raw.length = 32 then some ⟨raw, size⟩ else none

def decode32ByteKeyStandard (encoded : Bytes) : Option Seed :=
  (decode64 (byteCharacters encoded)).bind key32

def decode32ByteKey (encoded : Bytes) : Option Seed :=
  match (decodeGroups (byteCharacters encoded)).bind key32 with
  | some raw => some raw
  | none => decode32ByteKeyStandard encoded

variable (ed25519 : Ed25519)

/-- The pair of `derive_keypair_from_secret`. -/
def deriveKeypairFromSecret (secret : Bytes) : PublicKey × Seed :=
  let seed : Seed := ⟨ed25519.sha256 secret, ed25519.sha256_size secret⟩
  (ed25519.publicKey seed, seed)

def normalizePrivateKey (key : Bytes) : Option Seed :=
  match key32 key with
  | some seed => some seed
  | none =>
      let trimmed := trimBytes key
      if presentBytes trimmed then
        match decode32ByteKey trimmed with
        | some decoded => some decoded
        | none => some (deriveKeypairFromSecret ed25519 trimmed).2
      else none

def normalizePublicKey (key : Bytes) : Option PublicKey :=
  match key32 key with
  | some raw => some ⟨raw.bytes, raw.size⟩
  | none =>
      let trimmed := trimBytes key
      if presentBytes trimmed then
        match decode32ByteKey trimmed with
        | some decoded => some ⟨decoded.bytes, decoded.size⟩
        | none => none
      else none

def signPayload (payload privateKeyMaterial : Bytes) : String :=
  match normalizePrivateKey ed25519 privateKeyMaterial with
  | some privateKey => urlEncode64 (ed25519.sign payload privateKey)
  | none => ""

/-- `verify_payload_signature`, from the bytes that a key is configured or published as. -/
def verifyMaterialSignature (payload publicKeyMaterial : Bytes) (signature : String) : Bool :=
  match normalizePublicKey publicKeyMaterial, urlDecode64 (trim signature) with
  | some publicKey, some rawSignature => ed25519.verify payload rawSignature publicKey
  | _, _ => false

/-- The public key that the discovery document has for a secret: the configuration derives
the pair from the secret as it is. -/
def publishedKey (secret : Bytes) : Bytes :=
  (deriveKeypairFromSecret ed25519 secret).1.bytes

section
variable {ed25519}

theorem key32_of_size {raw : Bytes} (size : raw.length = 32) : key32 raw = some ⟨raw, size⟩ :=
  dif_pos size

theorem key32_eq_none {raw : Bytes} (size : raw.length ≠ 32) : key32 raw = none :=
  dif_neg size

theorem isWhiteSpace_sextetCharacter (bits : Nat) :
    isWhiteSpace (sextetCharacter bits) = false := by
  have every : ∀ value : Fin 64, isWhiteSpace (sextetCharacter value) = false := by decide
  by_cases small : bits < 64
  · exact every ⟨bits, small⟩
  · rw [sextetCharacter_large (Nat.le_of_not_lt small)]
    exact every 63

theorem trim_urlEncode64 (bytes : Bytes) : trim (urlEncode64 bytes) = urlEncode64 bytes := by
  apply trim_of_visible
  intro character member
  rw [urlEncode64, String.toList_ofList] at member
  obtain ⟨bits, rfl⟩ := sextetCharacter_of_mem_encodeGroups bytes character member
  exact isWhiteSpace_sextetCharacter bits

theorem normalizePublicKey_publicKey (key : PublicKey) :
    normalizePublicKey key.bytes = some key := by
  rw [normalizePublicKey, key32_of_size key.size]

theorem verifyMaterialSignature_signPayload (payload material : Bytes) (key : PublicKey) :
    verifyMaterialSignature ed25519 payload key.bytes
        (signPayload ed25519 payload material) =
      ed25519.verify payload
        (match normalizePrivateKey ed25519 material with
          | some seed => ed25519.sign payload seed
          | none => []) key := by
  rw [verifyMaterialSignature, normalizePublicKey_publicKey, signPayload]
  cases normalizePrivateKey ed25519 material with
  | none => rfl
  | some seed =>
      dsimp only
      rw [trim_urlEncode64, urlDecode64_urlEncode64]

theorem normalizePrivateKey_of_undecoded {secret : Bytes} (size : secret.length ≠ 32)
    (undecoded : decode32ByteKey (trimBytes secret) = none)
    (nonblank : presentBytes (trimBytes secret) = true) :
    normalizePrivateKey ed25519 secret =
      some (deriveKeypairFromSecret ed25519 (trimBytes secret)).2 := by
  unfold normalizePrivateKey
  rw [key32_eq_none size]
  dsimp only
  rw [if_pos nonblank, undecoded]

end

/-- What a secret signs is verified by the key that is published for it, whatever the
primitives are. -/
def SignsForPublishedKey (secret : Bytes) : Prop :=
  ∀ (ed25519 : Ed25519) (payload : Bytes),
    verifyMaterialSignature ed25519 payload (publishedKey ed25519 secret)
      (signPayload ed25519 payload secret) = true

/-- The secret is neither 32 bytes long nor the Base64 text of 32 bytes, and has no white
space at its ends. -/
structure FreeText (secret : Bytes) : Prop where
  size : secret.length ≠ 32
  undecoded : decode32ByteKey (trimBytes secret) = none
  trimmed : trimBytes secret = secret

theorem signsForPublishedKey_of_freeText {secret : Bytes} (free : FreeText secret)
    (nonblank : presentBytes secret = true) : SignsForPublishedKey secret := by
  intro ed25519 payload
  have present : presentBytes (trimBytes secret) = true := by
    rw [free.trimmed]
    exact nonblank
  have read := @normalizePrivateKey_of_undecoded ed25519 secret free.size free.undecoded
    present
  rw [free.trimmed] at read
  rw [publishedKey, verifyMaterialSignature_signPayload, read]
  exact ed25519.verify_sign payload (deriveKeypairFromSecret ed25519 secret).2

/-- Primitives with the hash as a parameter; a key is its own public key, and signs every
payload with itself. -/
def plainEd25519 (hash : Bytes → Seed) : Ed25519 where
  sha256 bytes := (hash bytes).bytes
  verify _ signature key := signature == key.bytes
  sha256_size bytes := (hash bytes).size
  publicKey seed := ⟨seed.bytes, seed.size⟩
  sign _ seed := seed.bytes
  verify_sign _ _ := beq_self_eq_true _

def repeatedSeed (byte : UInt8) : Seed where
  bytes := List.replicate 32 byte
  size := List.length_replicate

theorem exists_ne_seed (seed : Seed) : ∃ other : Seed, other ≠ seed := by
  by_cases zero : repeatedSeed 0 = seed
  · refine ⟨repeatedSeed 1, ?_⟩
    rw [← zero]
    decide
  · exact ⟨repeatedSeed 0, zero⟩

theorem normalizePrivateKey_of_signs {secret : Bytes} (signs : SignsForPublishedKey secret)
    (hash : Bytes → Seed) :
    normalizePrivateKey (plainEd25519 hash) secret = some (hash secret) := by
  have verified := signs (plainEd25519 hash) []
  rw [publishedKey, verifyMaterialSignature_signPayload] at verified
  have same := eq_of_beq verified
  cases read : normalizePrivateKey (plainEd25519 hash) secret with
  | none =>
      rw [read] at same
      have size := (hash secret).size
      have empty : (hash secret).bytes = [] := same.symm
      rw [empty] at size
      cases size
  | some seed =>
      rw [read] at same
      have bytes : seed.bytes = (hash secret).bytes := same
      cases seed
      cases hashed : hash secret
      rw [hashed] at bytes
      subst bytes
      rfl

theorem not_constant_of_signs {secret : Bytes} (signs : SignsForPublishedKey secret)
    {seed : Seed}
    (found : ∀ hash, normalizePrivateKey (plainEd25519 hash) secret = some seed) : False := by
  obtain ⟨other, different⟩ := exists_ne_seed seed
  have read := normalizePrivateKey_of_signs signs fun _ => other
  rw [found] at read
  exact different (Option.some.inj read).symm

theorem freeText_of_signs {secret : Bytes} (signs : SignsForPublishedKey secret) :
    FreeText secret := by
  have size : secret.length ≠ 32 := by
    intro size
    apply @not_constant_of_signs secret signs ⟨secret, size⟩
    intro hash
    rw [normalizePrivateKey, key32_of_size size]
  have read : ∀ hash, normalizePrivateKey (plainEd25519 hash) secret =
      if presentBytes (trimBytes secret) then
        match decode32ByteKey (trimBytes secret) with
        | some decoded => some decoded
        | none => some (hash (trimBytes secret))
      else none := by
    intro hash
    rw [normalizePrivateKey, key32_eq_none size]
    rfl
  have present : presentBytes (trimBytes secret) = true := by
    by_contra blank
    have none_read := normalizePrivateKey_of_signs signs fun _ => repeatedSeed 0
    rw [read, if_neg blank] at none_read
    cases none_read
  have undecoded : decode32ByteKey (trimBytes secret) = none := by
    cases decoded : decode32ByteKey (trimBytes secret) with
    | none => rfl
    | some seed =>
        exfalso
        apply @not_constant_of_signs secret signs seed
        intro hash
        rw [read, if_pos present, decoded]
  refine ⟨size, undecoded, ?_⟩
  by_contra spaced
  -- the hashes of the two texts have nothing to do with each other
  have hashed := normalizePrivateKey_of_signs signs fun bytes =>
    if bytes = secret then repeatedSeed 0 else repeatedSeed 1
  rw [read, if_pos present, undecoded] at hashed
  dsimp only at hashed
  rw [if_neg spaced, if_pos rfl] at hashed
  exact absurd (Option.some.inj hashed) (by decide)

/-- A secret signs for the key that is published for it just when both sides read it as a
free text, and the same one. -/
theorem signsForPublishedKey_iff (secret : Bytes) (nonblank : presentBytes secret = true) :
    SignsForPublishedKey secret ↔ FreeText secret :=
  ⟨freeText_of_signs, fun free => signsForPublishedKey_of_freeText free nonblank⟩

def sharedTestSecret : Bytes :=
  utf8 "shared-test-secret"

theorem signsForPublishedKey_iff_sharedTestSecret :
    SignsForPublishedKey sharedTestSecret ↔ FreeText sharedTestSecret :=
  signsForPublishedKey_iff sharedTestSecret (by decide)

/-- A raw key of 32 bytes is signed with as it is, but published by its hash. -/
theorem not_signs_rawSecret :
    ¬∀ (ed25519 : Ed25519) (secret payload : Bytes), presentBytes secret = true →
      verifyMaterialSignature ed25519 payload (publishedKey ed25519 secret)
        (signPayload ed25519 payload secret) = true := by
  intro all
  have verified := all (plainEd25519 fun _ => repeatedSeed 0) (List.replicate 32 97) []
    (by decide)
  revert verified
  decide

end Elektrine.Messaging.ArblargSDK
