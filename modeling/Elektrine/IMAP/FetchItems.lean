import Elektrine.Data.Bytes
import Elektrine.Data.Text

/-!
# Sections of a fetched message

The message that `FETCH` builds from the stored fields: the whole one, its header, its
text and its parts, the partial sections, the size and the body structure.  The whole
message is built anew for each command, with fresh boundaries, and attachments may have
to be downloaded.
-/

namespace Elektrine.IMAP

structure Attachment where
  filename : Option String
  contentType : Option String
  storageType : Option String
  data : Option String
  size : Option Nat
  contentId : Option String
  deriving DecidableEq

/-- A message as it is loaded and decrypted.  `date` is the formatted time of its
arrival, and the attachments stand in the order of their keys. -/
structure FullMessage where
  fromAddress : Option String
  toAddress : Option String
  cc : Option String
  bcc : Option String
  subject : Option String
  messageId : Option String
  inReplyTo : Option String
  references : Option String
  date : String
  textBody : Option String
  htmlBody : Option String
  hasAttachments : Bool
  attachments : List Attachment
  deriving DecidableEq

/-- What one command draws: the boundaries, and the contents of the attachments that are
stored elsewhere. -/
structure Draw where
  outerBoundary : String
  innerBoundary : String
  download : Attachment → Option Bytes

/-- A character of `[\x00-\x1F\x7F]`. -/
def isControl (character : Char) : Bool :=
  character.toNat ≤ 0x1F || character.toNat == 0x7F

def safeHeaderValue (value : Option String) : String :=
  trim (String.ofList ((value.getD "").toList.map fun character =>
    if isControl character then ' ' else character))

/-- `String.replace(content, ~r/\r?\n/, "\r\n")`. -/
def crlfLines : List Char → List Char
  | '\r' :: '\n' :: rest => '\r' :: '\n' :: crlfLines rest
  | '\n' :: rest => '\r' :: '\n' :: crlfLines rest
  | character :: rest => character :: crlfLines rest
  | [] => []

def encodeAs8bit (content : String) : String :=
  String.ofList (crlfLines content.toList)

example : encodeAs8bit "a\nb\r\n" = "a\r\nb\r\n" := by decide

/-- `Base.encode64` in lines of 76 characters. -/
def base64EncodeWrapped (data : Bytes) : String :=
  let standard := (encodeGroups data).map fun character =>
    if character = '-' then '+' else if character = '_' then '/' else character
  let padded := standard ++ List.replicate ((4 - standard.length % 4) % 4) '='
  "\r\n".intercalate ((padded.toChunks 76).map String.ofList)

/-- `Path.basename`. -/
def pathBasename (path : String) : String :=
  String.ofList
    (((path.toList.splitOn '/').filter fun part => !part.isEmpty).getLastD [])

def safeMimeQuotedValue (value : Option String) (fallback : String) : String :=
  let replaced := (pathBasename (value.getD "")).toList.map fun character =>
    if isControl character || character = '"' || character = '\\' then '_' else character
  let name := String.ofList ((trim (String.ofList replaced)).toList.take 180)
  if name = "" then fallback else name

def isMediaCharacter (character : Char) : Bool :=
  character.isLower || character.isDigit ||
    ['!', '#', '$', '&', '^', '_', '.', '+', '-'].contains character

def safeContentType (value : Option String) : String :=
  match value with
  | none => "application/octet-stream"
  | some value =>
      let normalized := downcase (trim value)
      match normalized.toList.splitOn '/' with
      | [type, subtype] =>
          if !type.isEmpty && !subtype.isEmpty && type.all isMediaCharacter &&
              subtype.all isMediaCharacter then
            normalized
          else "application/octet-stream"
      | _ => "application/octet-stream"

def safeContentId (value : Option String) : Option String :=
  match value with
  | none => none
  | some value =>
      let kept := value.toList.filter fun character =>
        !(isControl character || character = '<' || character = '>')
      match trim (String.ofList kept) with
      | "" => none
      | contentId => some contentId

def commonHeaders (message : FullMessage) : String :=
  "From: " ++ safeHeaderValue message.fromAddress ++ "\r\n" ++
  "To: " ++ safeHeaderValue message.toAddress ++ "\r\n" ++
  "Subject: " ++ safeHeaderValue message.subject ++ "\r\n" ++
  "Date: " ++ message.date ++ "\r\n" ++
  "Message-ID: <" ++ safeHeaderValue message.messageId ++ ">\r\n" ++
  "MIME-Version: 1.0\r\n"

def textPart (subtype body : String) : String :=
  "Content-Type: text/" ++ subtype ++ "; charset=\"UTF-8\"\r\n" ++
  "Content-Transfer-Encoding: 8bit\r\n" ++ "\r\n" ++ encodeAs8bit body ++ "\r\n"

def multipartHeader (subtype boundary : String) : String :=
  "Content-Type: multipart/" ++ subtype ++ "; boundary=\"" ++ boundary ++ "\"\r\n\r\n"

def alternativeParts (boundary textBody htmlBody : String) : String :=
  "--" ++ boundary ++ "\r\n" ++ textPart "plain" textBody ++ "\r\n" ++
  "--" ++ boundary ++ "\r\n" ++ textPart "html" htmlBody ++ "\r\n" ++
  "--" ++ boundary ++ "--\r\n"

def attachmentData (draw : Draw) (attachment : Attachment) : String :=
  match attachment.storageType with
  | some "local" | some "s3" =>
      match draw.download attachment with
      | some content => base64EncodeWrapped content
      | none => attachment.data.getD ""
  | _ => attachment.data.getD ""

def attachmentPart (draw : Draw) (attachment : Attachment) : String :=
  let filename := safeMimeQuotedValue attachment.filename "attachment"
  let contentId := safeContentId attachment.contentId
  let disposition := if contentId.isSome then "inline" else "attachment"
  let cidHeader :=
    match contentId with
    | some contentId => "Content-ID: <" ++ contentId ++ ">\r\n"
    | none => ""
  "--" ++ draw.outerBoundary ++ "\r\n" ++
  "Content-Type: " ++ safeContentType attachment.contentType ++ "; name=\"" ++ filename ++
    "\"\r\n" ++
  "Content-Transfer-Encoding: base64\r\n" ++
  "Content-Disposition: " ++ disposition ++ "; filename=\"" ++ filename ++ "\"\r\n" ++
  cidHeader ++ "\r\n" ++ attachmentData draw attachment ++ "\r\n"

def mixedBody (draw : Draw) (message : FullMessage) : String :=
  "--" ++ draw.outerBoundary ++ "\r\n" ++
    match message.textBody, message.htmlBody with
    | some textBody, some htmlBody =>
        multipartHeader "alternative" draw.innerBoundary ++
          alternativeParts draw.innerBoundary textBody htmlBody
    | none, some htmlBody => textPart "html" htmlBody
    | textBody, none => textPart "plain" (textBody.getD "")

/-- `build_rfc822_with_attachments`, behind the common header lines. -/
def mixedMessage (draw : Draw) (message : FullMessage) : String :=
  multipartHeader "mixed" draw.outerBoundary ++ mixedBody draw message ++
    String.join (message.attachments.map (attachmentPart draw)) ++
    "--" ++ draw.outerBoundary ++ "--\r\n"

def FullMessage.withAttachments (message : FullMessage) : Bool :=
  message.hasAttachments && !message.attachments.isEmpty

/-- What `build_rfc822_message` puts behind the common header lines. -/
def messageRest (draw : Draw) (message : FullMessage) : String :=
  if message.withAttachments then mixedMessage draw message
  else
    match message.textBody, message.htmlBody with
    | some textBody, some htmlBody =>
        multipartHeader "alternative" draw.outerBoundary ++
          alternativeParts draw.outerBoundary textBody htmlBody
    | none, some htmlBody => textPart "html" htmlBody
    | textBody, none => textPart "plain" (textBody.getD "")

def buildRfc822Message (draw : Draw) (message : FullMessage) : String :=
  commonHeaders message ++ messageRest draw message

def formatMessageIdHeader (messageId : Option String) : Option String :=
  match trim (messageId.getD "") with
  | "" => none
  | trimmed =>
      if "<".toList.isPrefixOf trimmed.toList && ">".toList.isSuffixOf trimmed.toList then
        some trimmed
      else some ("<" ++ trimmed ++ ">")

def allMessageHeaders (message : FullMessage) : List (String × Option String) :=
  [("From", message.fromAddress), ("To", message.toAddress), ("Cc", message.cc),
    ("Bcc", message.bcc), ("Subject", message.subject), ("Date", some message.date),
    ("Message-ID", formatMessageIdHeader message.messageId),
    ("In-Reply-To", formatMessageIdHeader message.inReplyTo),
    ("References", message.references), ("MIME-Version", some "1.0"),
    ("Content-Type", some "text/plain; charset=\"UTF-8\""),
    ("Content-Transfer-Encoding", some "8bit")]

def headerLine (header : String × Option String) : Option String :=
  match header.2 with
  | none => none
  | some value => if value = "" then none else some (header.1 ++ ": " ++ value ++ "\r\n")

def renderHeaders (headers : List (String × Option String)) : String :=
  String.join (headers.filterMap headerLine) ++ "\r\n"

def buildFullHeaders (message : FullMessage) : String :=
  renderHeaders (allMessageHeaders message)

def buildSelectedHeaders (message : FullMessage) (fields : List String) : String :=
  renderHeaders ((allMessageHeaders message).filter fun header =>
    fields.contains (upcase header.1))

def buildHeadersExcludingFields (message : FullMessage) (fields : List String) : String :=
  renderHeaders ((allMessageHeaders message).filter fun header =>
    !fields.contains (upcase header.1))

/-- `text_body || html_body || ""`. -/
def FullMessage.body (message : FullMessage) : String :=
  (message.textBody.or message.htmlBody).getD ""

def buildBodyText (message : FullMessage) : String :=
  encodeAs8bit message.body

/-- `extract_mime_part`, which does not look at the part. -/
def extractMimePart (message : FullMessage) : String :=
  message.body

end Elektrine.IMAP

/-!
## Items of a fetch about the content of a message

The items that send the message, a section of it or a part of a section, its size, and
its body structure.  An answer is kept as data: its name, its literal and the origin of a
partial one.
-/

namespace Elektrine.IMAP

inductive BodyStructure where
  | text (subtype : String) (size lines : Nat)
  | attachment (type subtype filename : String) (size : Nat) (disposition : String)
  | multipart (parts : List BodyStructure) (subtype boundary : String)

/-- `count_lines`: the pieces between line ends, none of them in an empty text. -/
def countLines (text : String) : Nat :=
  if text = "" then 0 else text.toList.countP (· = '\n') + 1

def textStructure (subtype body : String) : BodyStructure :=
  .text subtype (utf8 body).length (countLines body)

def attachmentStructure (attachment : Attachment) : BodyStructure :=
  let contentType := (safeContentType attachment.contentType).toList
  let type := contentType.takeWhile (· ≠ '/')
  let subtype := (contentType.dropWhile (· ≠ '/')).drop 1
  .attachment (upcase (String.ofList type)) (upcase (String.ofList subtype))
    (safeMimeQuotedValue attachment.filename "attachment")
    (attachment.size.getD (utf8 (attachment.data.getD "")).length)
    (if attachment.contentId.isSome then "INLINE" else "ATTACHMENT")

def leadingStructure (message : FullMessage) : BodyStructure :=
  match message.textBody, message.htmlBody with
  | some textBody, some htmlBody =>
      .multipart [textStructure "PLAIN" textBody, textStructure "HTML" htmlBody]
        "ALTERNATIVE" "alternative_boundary"
  | none, some htmlBody => textStructure "HTML" htmlBody
  | textBody, none => textStructure "PLAIN" (textBody.getD "")

def buildBodystructure (message : FullMessage) : BodyStructure :=
  if message.withAttachments then
    .multipart (leadingStructure message :: message.attachments.map attachmentStructure)
      "MIXED" "mixed_boundary"
  else
    match message.htmlBody with
    | some htmlBody => textStructure "HTML" htmlBody
    | none => textStructure "PLAIN" (message.textBody.getD "")

mutual

def BodyStructure.sizes (path : List Nat) : BodyStructure → List (List Nat × Nat)
  | .text _ size _ => [(path, size)]
  | .attachment _ _ _ size _ => [(path, size)]
  | .multipart parts _ _ => sizesFrom path 1 parts

def sizesFrom (path : List Nat) (number : Nat) :
    List BodyStructure → List (List Nat × Nat)
  | [] => []
  | part :: parts => part.sizes (path ++ [number]) ++ sizesFrom path (number + 1) parts

end

def BodyStructure.partSizes : BodyStructure → List (List Nat × Nat)
  | .multipart parts _ _ => sizesFrom [] 1 parts
  | single => single.sizes [1]

inductive FetchAnswer where
  | literal (name : String) (content : Bytes) (origin : Option Nat)
  | size (octets : Nat)
  | structure (name : String) (body : BodyStructure)

def maybeSliceLiteral (content : Bytes) (range : Option (Nat × Nat)) :
    Bytes × Option Nat :=
  match range with
  | none => (content, none)
  | some (startOffset, length) =>
      if content.length ≤ startOffset then ([], some startOffset)
      else ((content.drop startOffset).take (min length (content.length - startOffset)),
        some startOffset)

def literalOf (name : String) (content : String) (range : Option (Nat × Nat)) :
    FetchAnswer :=
  let sliced := maybeSliceLiteral (utf8 content) range
  .literal name sliced.1 sliced.2

/-- The characters of `~r/\(([^)]*)\)/` between the first brackets that match. -/
def insideBrackets : List Char → Option (List Char)
  | [] => none
  | first :: rest =>
      if first = '(' && rest.contains ')' then some (rest.takeWhile (· ≠ ')'))
      else insideBrackets rest

/-- `String.split` at white space. -/
def words (text : List Char) : List String :=
  ((text.splitOnP isWhiteSpace).filter fun word => !word.isEmpty).map String.ofList

def parseHeaderFields (item : String) : List String :=
  match insideBrackets item.toList with
  | some fields => (words fields).map upcase
  | none => ["DATE", "FROM", "TO", "CC", "BCC", "SUBJECT", "MESSAGE-ID"]

/-- `~r/^\d+(?:\.\d+)*$/`. -/
def isPartNumber (sectionText : List Char) : Bool :=
  (sectionText.splitOn '.').all fun number => !number.isEmpty && number.all Char.isDigit

/-- `~r/^\d+(?:\.\d+)*\.MIME$/`. -/
def isMimePart (sectionText : List Char) : Bool :=
  ".MIME".toList.isSuffixOf sectionText && isPartNumber (sectionText.take (sectionText.length - 5))

def mimeHeaders : String :=
  "Content-Type: text/plain; charset=\"UTF-8\"\r\nContent-Transfer-Encoding: 8bit\r\n\r\n"

def buildBodySectionResponse (draw : Draw) (message : FullMessage) (sectionText : String)
    (range : Option (Nat × Nat)) : Option FetchAnswer :=
  if sectionText = "" then
    some (literalOf "BODY[]" (buildRfc822Message draw message) range)
  else if sectionText = "HEADER" then
    some (literalOf "BODY[HEADER]" (buildFullHeaders message) range)
  else if sectionText = "TEXT" then
    some (literalOf "BODY[TEXT]" (buildBodyText message) range)
  else if "HEADER.FIELDS.NOT".toList.isPrefixOf sectionText.toList then
    let fields := parseHeaderFields sectionText
    some (literalOf ("BODY[HEADER.FIELDS.NOT (" ++ " ".intercalate fields ++ ")]")
      (buildHeadersExcludingFields message fields) range)
  else if "HEADER.FIELDS".toList.isPrefixOf sectionText.toList then
    let fields := parseHeaderFields sectionText
    some (literalOf ("BODY[HEADER.FIELDS (" ++ " ".intercalate fields ++ ")]")
      (buildSelectedHeaders message fields) range)
  else if isMimePart sectionText.toList then
    some (literalOf ("BODY[" ++ sectionText ++ "]") mimeHeaders range)
  else if isPartNumber sectionText.toList then
    some (literalOf ("BODY[" ++ sectionText ++ "]") (extractMimePart message) range)
  else none

/-- The optional `<start.length>` behind a section, to the end of the item. -/
def parseRange : List Char → Option (Option (Nat × Nat))
  | [] => some none
  | '<' :: rest =>
      let start := rest.takeWhile Char.isDigit
      match start, rest.dropWhile Char.isDigit with
      | _ :: _, '.' :: rest =>
          let length := rest.takeWhile Char.isDigit
          match length, rest.dropWhile Char.isDigit with
          | _ :: _, ['>'] =>
              some (some (Nat.ofDigitChars 10 start 0, Nat.ofDigitChars 10 length 0))
          | _, _ => none
      | _, _ => none
  | _ => none

/-- `parse_body_item`: the section between the brackets, and the range. -/
def parseBodyItem (item : String) : Option (String × Option (Nat × Nat)) :=
  let body := "BODY".toList
  let peek := ".PEEK".toList
  if body.isPrefixOf item.toList then
    let rest := item.toList.drop body.length
    let rest := if peek.isPrefixOf rest then rest.drop peek.length else rest
    match rest with
    | '[' :: rest =>
        match rest.dropWhile (· ≠ ']') with
        | ']' :: range =>
            (parseRange range).map fun range =>
              (String.ofList (rest.takeWhile (· ≠ ']')), range)
        | _ => none
    | _ => none
  else none

example : parseBodyItem "BODY.PEEK[HEADER]<10.20>" = some ("HEADER", some (10, 20)) := by
  decide

/-- The branches of `build_fetch_item` about the content of the message. -/
def buildFetchItem (draw : Draw) (message : FullMessage) (item : String) :
    Option FetchAnswer :=
  let itemUpper := upcase (trim item)
  if itemUpper = "RFC822" then
    some (literalOf "RFC822" (buildRfc822Message draw message) none)
  else if itemUpper = "RFC822.SIZE" then
    some (.size (utf8 (buildRfc822Message draw message)).length)
  else if itemUpper = "RFC822.HEADER" then
    some (literalOf "RFC822.HEADER" (buildFullHeaders message) none)
  else if itemUpper = "RFC822.TEXT" then
    some (literalOf "RFC822.TEXT" (buildBodyText message) none)
  else if itemUpper = "BODYSTRUCTURE" then
    some (.structure "BODYSTRUCTURE" (buildBodystructure message))
  else if itemUpper = "BODY" then
    some (.structure "BODY" (buildBodystructure message))
  else
    match parseBodyItem itemUpper with
    | some (sectionText, range) => buildBodySectionResponse draw message sectionText range
    | none => none

end Elektrine.IMAP
