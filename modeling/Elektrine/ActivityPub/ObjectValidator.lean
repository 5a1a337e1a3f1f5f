import Elektrine.Data.Json
import Elektrine.Data.Uri
import Elektrine.Security.UrlValidator

/-!
# Origin containment

An activity and the object that it embeds each have an id and an actor, and the two have to
be on one host.  The actor is read from `actor`, or else from `attributedTo`.
-/

namespace Elektrine.ActivityPub

inductive ContainmentError where
  | originContainmentFailed
deriving DecidableEq, Repr

def actorTypes : List String :=
  ["Person", "Group", "Application", "Service", "Organization"]

/-- `type in @actor_types`. -/
def isActorType : Json → Bool
  | .str text => actorTypes.contains text
  | _ => false

def typedActor (item : Json) : Option String :=
  if isActorType (item.get "type") then (item.get "id").asString? else none

def normalizeActor : Json → Option String
  | .str text => some text
  | .obj fields => ((Json.obj fields).get "id").asString?
  | .arr (.str text :: _) => some text
  | .arr items => items.findSome? typedActor
  | _ => none

def actorUri (object : Json) : Option String :=
  if object.has "actor" then normalizeActor (object.get "actor")
  else if object.has "attributedTo" then normalizeActor (object.get "attributedTo")
  else typedActor object

def sameOrigin (left right : String) : Bool :=
  match (uriParse left).host, (uriParse right).host with
  | some leftHost, some rightHost => downcase leftHost == downcase rightHost
  | _, _ => false

def sameOriginResult (left right : String) : Except ContainmentError Unit :=
  if sameOrigin left right then .ok () else .error .originContainmentFailed

def containOrigin (object : Json) : Except ContainmentError Unit :=
  match object.get "id" with
  | .str id =>
      match actorUri object with
      | some actor => sameOriginResult actor id
      | none => .error .originContainmentFailed
  | _ => .ok ()

def containChild (object : Json) : Except ContainmentError Unit :=
  if (object.get "object").isMap && ((object.get "object").get "id").isString then
    containOrigin (object.get "object")
  else .ok ()

def containOriginFromId (id : Option String) (object : Json) : Except ContainmentError Unit :=
  match id, object.get "id", object.get "object" with
  | some id, .str other, _ => sameOriginResult id other
  | some id, _, .str other => sameOriginResult id other
  | _, _, _ => .ok ()

def validateActivity (activity : Json) : Except ContainmentError Unit :=
  let embeds := (activity.get "object").isMap
  match activity.get "type" with
  | .str type =>
      if (type == "Create" || type == "Update") && embeds then do
        containOrigin activity
        containOrigin (activity.get "object")
        containChild activity
      else if actorTypes.contains type then
        containOriginFromId (actorUri activity) activity
      else containOrigin activity
  | _ => if activity.has "type" then containOrigin activity else .error .originContainmentFailed

theorem sameOrigin_iff {left right : String} :
    sameOrigin left right = true ↔ ∃ leftHost rightHost,
      (uriParse left).host = some leftHost ∧ (uriParse right).host = some rightHost ∧
        downcase leftHost = downcase rightHost := by
  unfold sameOrigin
  cases (uriParse left).host with
  | none => simp
  | some leftHost =>
      cases (uriParse right).host with
      | none => simp
      | some rightHost => simp

theorem sameOrigin_trans {first second third : String} (left : sameOrigin first second = true)
    (right : sameOrigin second third = true) : sameOrigin first third = true := by
  obtain ⟨firstHost, middleHost, firstParsed, middleParsed, same⟩ := sameOrigin_iff.mp left
  obtain ⟨otherHost, thirdHost, otherParsed, thirdParsed, also⟩ := sameOrigin_iff.mp right
  rw [middleParsed] at otherParsed
  cases otherParsed
  exact sameOrigin_iff.mpr ⟨firstHost, thirdHost, firstParsed, thirdParsed, same.trans also⟩

theorem containOrigin_ok {object : Json} {id : String} (identified : object.get "id" = .str id)
    (contained : containOrigin object = .ok ()) :
    ∃ actor, actorUri object = some actor ∧ sameOrigin actor id = true := by
  simp only [containOrigin, identified] at contained
  cases found : actorUri object with
  | none =>
      rw [found] at contained
      cases contained
  | some actor =>
      simp only [found, sameOriginResult] at contained
      split_ifs at contained with same
      exact ⟨actor, rfl, same⟩

end Elektrine.ActivityPub

/-!
## The validator of activities

What an activity passes before it is processed, as far as it creates or updates an object:
its own shape and actor, the containment of its origin, the shape of the embedded object, and
that the object's authors and recipients fit the activity.
-/

namespace Elektrine.ActivityPub

open Elektrine.Security

variable (resolver : Resolver)

def isWebScheme (scheme : Option String) : Bool :=
  scheme == some "http" || scheme == some "https"

def validUri (text : String) : Bool :=
  isWebScheme (uriParse text).scheme && (uriParse text).host.isSome

def safeUri : Json → Bool
  | .str text =>
      match uriParse text with
      | ⟨scheme, some host⟩ =>
          isWebScheme scheme && !privateIp resolver host && !isPrivateDomain host
      | _ => false
  | _ => false

/-- `[a-z0-9!#$&^_.+-]` without regard to case. -/
def isMimeCharacter (character : Char) : Bool :=
  character.isAlphanum || "!#$&^_.+-".toList.contains character

/-- `\s`. -/
def isRegexSpace (character : Char) : Bool :=
  [' ', '\t', '\n', '\x0b', '\x0c', '\r'].contains character

def endsMatch (characters : List Char) : Bool :=
  characters == [] || characters == ['\n']

def mimeTypeValid : Json → Bool
  | .str text =>
      let type := text.toList.takeWhile isMimeCharacter
      match text.toList.dropWhile isMimeCharacter with
      | '/' :: rest =>
          let subtype := rest.takeWhile isMimeCharacter
          let tail := rest.dropWhile isMimeCharacter
          (type.head?.any Char.isAlphanum && subtype.head?.any Char.isAlphanum) &&
            (endsMatch tail ||
              match tail.dropWhile isRegexSpace with
              | ';' :: parameters => endsMatch (parameters.dropWhile (· != '\n'))
              | _ => false)
      | _ => false
  | _ => false

def validateBasicStructure (activity : Json) : Except String Json :=
  let identified :=
    match activity.get "id" with
    | .str id => id != ""
    | _ => false
  if !(activity.get "type").isString then .error "Missing or invalid type"
  else if !(identified || (activity.get "type").asString? == some "Delete") then
    .error "Missing or invalid id"
  else if ((activity.get "id").asString?.any fun id => !validUri id) then
    .error "Invalid activity id"
  else .ok activity

def validateActor (activity : Json) : Except String Json :=
  match activity.get "actor" with
  | .str actor =>
      match uriParse actor with
      | ⟨scheme, some host⟩ =>
          if isWebScheme scheme then
            if privateIp resolver host || isPrivateDomain host then .error "Invalid actor URI"
            else .ok activity
          else .error "Invalid actor URI"
      | _ => .error "Invalid actor URI"
  | _ =>
      if isActorType (activity.get "type") then .ok activity
      else .error "Missing or invalid actor"

/-- `Map.delete(value, name)`. -/
def deleteField (value : Json) (name : String) : Json :=
  match value with
  | .obj fields => .obj (fields.filter fun field => field.1 != name)
  | other => other

def normalizeQuoteUrl (object : Json) : Json :=
  if object.has "quoteUrl" then object
  else if object.has "quoteUri" then object.put "quoteUrl" (object.get "quoteUri")
  else if object.has "quoteURL" then object.put "quoteUrl" (object.get "quoteURL")
  else if object.has "_misskey_quote" then object.put "quoteUrl" (object.get "_misskey_quote")
  else object

def normalizeMapListField (object : Json) (field : String) : Json :=
  match object.get field with
  | .obj fields => object.put field (.arr [.obj fields])
  | .arr items => object.put field (.arr (items.filter Json.isMap))
  | .null => object
  | _ => deleteField object field

def normalizeEmbeddedObject (object : Json) : Json :=
  normalizeMapListField (normalizeMapListField (normalizeQuoteUrl object) "attachment") "tag"

def urlValueValid (value : Json) : Bool :=
  match value with
  | .str text => safeUri resolver (.str text)
  | .obj fields => ((Json.obj fields).get "href").isString &&
      safeUri resolver ((Json.obj fields).get "href")
  | _ => false

def objectIdentityValid (object : Json) : Bool :=
  ["id", "url"].all fun field =>
    match object.get field with
    | .null => true
    | .arr values => values.all (urlValueValid resolver)
    | value => urlValueValid resolver value

mutual

def attachmentUrlValid : Json → Bool
  | .null => true
  | .arr urls => attachmentUrlsValid urls
  | .str text => safeUri resolver (.str text)
  | .obj fields => ((Json.obj fields).get "href").isString &&
      safeUri resolver ((Json.obj fields).get "href")
  | _ => false

def attachmentUrlsValid : List Json → Bool
  | [] => true
  | url :: urls => attachmentUrlValid url && attachmentUrlsValid urls

end

def attachmentValid (attachment : Json) : Bool :=
  let type := (attachment.get "type").orElse (.str "Document")
  let mediaType := ((attachment.get "mediaType").orElse (attachment.get "mimeType")).orElse
    (.str "application/octet-stream")
  let url := (attachment.get "url").orElse (attachment.get "href")
  attachment.isMap &&
    (type.asString?.any (["Document", "Audio", "Image", "Video", "Link"].contains ·) &&
      mimeTypeValid mediaType && attachmentUrlValid resolver url)

def attachmentsValid : Json → Bool
  | .null => true
  | .arr attachments => attachments.all (attachmentValid resolver)
  | _ => false

def visibleText : Json → Bool
  | .str text => trim text != ""
  | _ => false

def tagValid (tag : Json) : Bool :=
  match tag.get "type" with
  | .str type =>
      if type == "Mention" && tag.has "href" then safeUri resolver (tag.get "href")
      else if type == "Hashtag" && tag.has "name" then visibleText (tag.get "name")
      else if type == "Emoji" && tag.has "name" && (tag.get "icon").has "url" then
        (tag.get "name").isString && safeUri resolver ((tag.get "icon").get "url")
      else if type == "Link" && tag.has "href" then
        safeUri resolver (tag.get "href") &&
          mimeTypeValid ((tag.get "mediaType").orElse (.str "application/activity+json"))
      else true
  | _ => false

def tagsValid : Json → Bool
  | .null => true
  | .arr tags => tags.all (tagValid resolver)
  | _ => false

def pollOptionsValid (options : List Json) : Bool :=
  !options.isEmpty && options.all fun option => visibleText (option.get "name")

def questionOptionsValid (object : Json) : Bool :=
  match object.get "oneOf", object.get "anyOf" with
  | .arr options, _ => pollOptionsValid options
  | _, .arr options => pollOptionsValid options
  | _, _ => false

def validateContentObject (object : Json) : Except String Json :=
  if !((object.get "content").isString || (object.get "summary").isString ||
      (object.get "name").isString || (object.get "attachment").isList) then
    .error "Content object has no content"
  else if !objectIdentityValid resolver object then
    .error "Content object has invalid id or url"
  else if !attachmentsValid resolver (object.get "attachment") then
    .error "Content object has invalid attachment"
  else if !tagsValid resolver (object.get "tag") then .error "Content object has invalid tag"
  else if (object.get "type").asString? == some "Question" && !questionOptionsValid object then
    .error "Question object has invalid options"
  else .ok object

def validateObject (object : Json) : Except String Json :=
  match object.get "type" with
  | .str type =>
      if ["Note", "Article", "Page", "Question", "Event", "Audio", "Video", "Image"].contains type
      then validateContentObject resolver object
      else .ok object
  | _ => .error "Object missing type"

mutual

def actorRefs : Json → List String
  | .str text => [text]
  | .arr values => actorRefsOf values
  | .obj fields =>
      match (Json.obj fields).get "id", (Json.obj fields).get "href" with
      | .str id, _ => [id]
      | _, .str href => [href]
      | _, _ => []
  | _ => []

def actorRefsOf : List Json → List String
  | [] => []
  | value :: values => actorRefs value ++ actorRefsOf values

end

def objectActors (object : Json) : List String :=
  actorRefs (object.get "actor") ++ actorRefs (object.get "attributedTo")

def validateObjectAuthorMatchesActivity (activity object : Json) : Except String Unit :=
  match activity.get "actor" with
  | .str actor =>
      if objectActors object = [] ∨ actor ∈ objectActors object then .ok ()
      else .error "Object actor does not match activity actor"
  | _ => .ok ()

def recipientSet : Json → List String
  | .arr values => values.filterMap Json.asString?
  | .str text => [text]
  | _ => []

def sameRecipients (first second : List String) : Bool :=
  first.all second.contains && second.all first.contains

def recipientsMatch (activity object : Json) (field : String) : Bool :=
  (activity.get field).isNull || (object.get field).isNull ||
    sameRecipients (recipientSet (activity.get field)) (recipientSet (object.get field))

def validateObjectAddressingMatchesActivity (activity object : Json) : Except String Unit :=
  match ["to", "cc", "bto", "bcc"].find? fun field => !recipientsMatch activity object field with
  | some field => .error ("Object " ++ field ++ " does not match activity " ++ field)
  | none => .ok ()

/-- `validate_create` and `validate_update`, which differ in the texts of two errors. -/
def validateEmbedding (kind : String) (activity : Json) : Except String Json :=
  match activity.get "object" with
  | .obj fields => do
      let object ← validateObject resolver (normalizeEmbeddedObject (.obj fields))
      validateObjectAuthorMatchesActivity activity object
      validateObjectAddressingMatchesActivity activity object
      .ok (activity.put "object" object)
  | .str objectUri =>
      if validUri objectUri then .ok activity else .error (kind ++ " object URI invalid")
  | _ => .error (kind ++ " activity missing object")

def validateCreate (activity : Json) : Except String Json :=
  validateEmbedding resolver "Create" activity

def validateUpdate (activity : Json) : Except String Json :=
  validateEmbedding resolver "Update" activity

/-- `other` has the validators of the other types. -/
def validateTypeSpecific (other : Json → Except String Json) (activity : Json) :
    Except String Json :=
  match activity.get "type" with
  | .str "Create" => validateCreate resolver activity
  | .str "Update" => validateUpdate resolver activity
  | _ => other activity

inductive ValidatorError where
  | message (text : String)
  | containment (error : ContainmentError)
deriving DecidableEq, Repr

def validate (other : Json → Except String Json) (activity : Json) :
    Except ValidatorError Json := do
  if !activity.isMap then throw (.message "Activity must be a map")
  let activity ← (validateBasicStructure activity).mapError .message
  let activity ← (validateActor resolver activity).mapError .message
  (validateActivity activity).mapError .containment
  (validateTypeSpecific resolver other activity).mapError .message

end Elektrine.ActivityPub
