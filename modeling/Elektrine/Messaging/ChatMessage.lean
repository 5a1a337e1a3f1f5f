import Elektrine.Data.DateTime
import Elektrine.Data.Json
import Elektrine.Data.Uri
import Elektrine.Messaging.Federation.Utils

/-!
# Chat messages

A message of a room that other nodes know under a federated identifier, and the
checks of its changeset.  Such a message has no local sender, so the only media
it may point to are those of the trusted hosts.
-/

namespace Elektrine.Messaging

/-- A row of `chat_messages` with a federated source. -/
structure ChatMessage where
  conversationId : Int
  threadId : Option Int
  content : Option String
  clientEncryptedPayload : Option Json
  messageType : String
  mediaUrls : List String
  mediaMetadata : Json
  federatedSource : String
  originDomain : Option String
  isFederatedMirror : Bool
  editedAt : Option DateTime
  deletedAt : Option DateTime

namespace ChatMessage

def blank (conversationId : Int) (federatedSource : String) : ChatMessage where
  conversationId := conversationId
  threadId := none
  content := none
  clientEncryptedPayload := none
  messageType := "text"
  mediaUrls := []
  mediaMetadata := .obj []
  federatedSource := federatedSource
  originDomain := none
  isFederatedMirror := false
  editedAt := none
  deletedAt := none

def deleted (message : ChatMessage) : Bool :=
  message.deletedAt.isSome

def messageTypes : List String :=
  ["text", "image", "file", "voice", "system"]

/-- `validate_content_or_media` -/
def hasContentOrMedia (message : ChatMessage) : Bool :=
  message.deleted || message.messageType == "system" ||
    (message.messageType == "voice" && !message.mediaUrls.isEmpty) ||
    (message.content.any fun content => (present content).isSome) ||
    message.clientEncryptedPayload.isSome || !message.mediaUrls.isEmpty

def isBase64Character (character : Char) : Bool :=
  character.isAlphanum || character == '+' || character == '/'

/-- The number of bytes that `Base.decode64` gives. -/
def base64Size (text : String) : Option Nat :=
  let size := text.toList.length
  let padding := text.toList.dropWhile isBase64Character
  if size % 4 = 0 ∧ padding ∈ [[], ['='], ['=', '=']] then
    some (size / 4 * 3 - padding.length)
  else none

def validBase64Bytes (value : Json) (minSize : Nat) : Bool :=
  (value.asString?.bind base64Size).any (minSize ≤ ·)

/-- `validate_client_encrypted_payload` -/
def validClientEncryptedPayload (payload : Json) : Bool :=
  (match payload.get "version" with
    | .int version => version == 1
    | .str version => version == "1"
    | _ => false) &&
    (payload.get "content_algorithm").asString? == some "AES-256-GCM" &&
    ((payload.get "key_uid").asString?.any fun uid => uid.utf8ByteSize ≤ 128) &&
    validBase64Bytes (payload.get "iv") 12 &&
    validBase64Bytes (payload.get "ciphertext") 1

def isWordCharacter (character : Char) : Bool :=
  character.isAlphanum || character == '_'

def startsElement (name : String) (text : List Char) : Bool :=
  let opening := '<' :: name.toList
  let closing := ("</" ++ name ++ ">").toList
  let rest := text.drop opening.length
  opening.isPrefixOf text && !(rest.head?.any isWordCharacter) &&
    rest.tails.any closing.isPrefixOf

/-- `validate_content_security`: what the cleaning would take out. -/
def unsafeContent (content : String) : Bool :=
  (downcase content).toList.tails.any fun text =>
    startsElement "script" text || startsElement "iframe" text ||
      "javascript:".toList.isPrefixOf text

/-- `trusted_media_url?` for a message without a local sender. -/
def trustedMediaUrl (url : String) : Bool :=
  let stored := ["/uploads/", "chat-attachments/", "attachments/"].any
    fun key => key.toList.isPrefixOf url.toList
  let uri := uriParse url
  !stored && uri.scheme == some "https" &&
    uri.host.any ["i.imgur.com", "imgur.com"].contains

def validChange (before after : ChatMessage) : Bool :=
  (after.messageType == before.messageType ||
      messageTypes.contains after.messageType) &&
    (after.content == before.content ||
      after.content.all fun content =>
        content.toList.length ≤ 4000 && !unsafeContent content) &&
    hasContentOrMedia after &&
    after.clientEncryptedPayload.all validClientEncryptedPayload &&
    (after.mediaUrls == before.mediaUrls ||
      after.mediaUrls.all trustedMediaUrl)

def changeset (message : ChatMessage) (cast : Option ChatMessage) :
    Except Federation.Reason ChatMessage :=
  match cast with
  | some changed =>
      if validChange message changed then .ok changed
      else .error .invalidChangeset
  | none => .error .invalidChangeset

example : base64Size "AAAAAAAAAAAAAAAA" = some 12 := by decide

example : unsafeContent "<SCRIPT src=x>alert(1)</script>" = true := by
  decide

theorem changeset_eq_ok_iff {message changed : ChatMessage}
    {cast : Option ChatMessage} :
    changeset message cast = .ok changed ↔
      cast = some changed ∧ validChange message changed = true := by
  cases cast with
  | none => simp [changeset]
  | some row =>
      by_cases valid : validChange message row = true
      · simp only [changeset, valid, if_true, Except.ok.injEq, Option.some.injEq]
        constructor
        · intro same
          subst same
          exact ⟨rfl, valid⟩
        · exact And.left
      · simp only [changeset, valid, Option.some.injEq]
        constructor
        · intro impossible
          cases impossible
        · intro passed
          obtain ⟨same, validChanged⟩ := passed
          subst same
          exact absurd validChanged valid

end ChatMessage

end Elektrine.Messaging
