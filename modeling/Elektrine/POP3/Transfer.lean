import Elektrine.Data.Bytes
import Elektrine.IMAP.FetchItems
import Elektrine.Library.DotStuffing
import Elektrine.Library.Separated
import Elektrine.POP3.Server

/-!
# The transfer of messages

What `RETR` and `TOP` send of a message, and the octets that `STAT`, `LIST` and `RETR`
report.  A message is written out anew for each command, with boundaries drawn for it; its
size is estimated at the login and replaced by the octets of what a `RETR` sent.
-/

namespace Elektrine.POP3

open Elektrine.Library
open Elektrine.IMAP (isControl isMediaCharacter)

inductive AttachmentSize where
  | number (size : Int)
  | text (size : String)
  | missing
  deriving DecidableEq

structure Attachment where
  filename : Option String
  contentType : Option String
  storageType : Option String
  data : Option String
  size : AttachmentSize
  deriving DecidableEq

/-- A message as it is loaded and decrypted.  `date` is the formatted time of its arrival,
and the attachments stand in the order of their keys. -/
structure Mail where
  fromAddress : Option String
  toAddress : Option String
  subject : Option String
  messageId : Option String
  date : String
  textBody : Option String
  htmlBody : Option String
  hasAttachments : Bool
  attachments : List Attachment

/-- A boundary of `generate_boundary`. -/
structure Boundary where
  text : String
  length_eq : text.length = 32
  hexadecimal : ∀ character ∈ text.toList, character.isDigit ∨
    character ∈ ['a', 'b', 'c', 'd', 'e', 'f']

/-- What one writing of a message draws: the boundaries, and the contents of the attachments
that are stored elsewhere. -/
structure Draw where
  outerBoundary : Boundary
  innerBoundary : Boundary
  download : Attachment → Option (List UInt8)

def Mail.withAttachments (mail : Mail) : Bool :=
  mail.hasAttachments && !mail.attachments.isEmpty

def commonHeaders (mail : Mail) : String :=
  "From: " ++ mail.fromAddress.getD "" ++ "\n" ++
  "To: " ++ mail.toAddress.getD "" ++ "\n" ++
  "Subject: " ++ mail.subject.getD "" ++ "\n" ++
  "Date: " ++ mail.date ++ "\n" ++
  "Message-ID: <" ++ mail.messageId.getD "" ++ ">\n" ++
  "MIME-Version: 1.0\n"

def textPart (contentType content : String) : String :=
  "Content-Type: " ++ contentType ++ "; charset=\"UTF-8\"\n" ++
  "Content-Transfer-Encoding: 8bit\n\n" ++ content ++ "\n"

def alternativeParts (boundary textBody htmlBody : String) : String :=
  "--" ++ boundary ++ "\n" ++ textPart "text/plain" textBody ++ "\n" ++
  "--" ++ boundary ++ "\n" ++ textPart "text/html" htmlBody ++ "\n" ++
  "--" ++ boundary ++ "--\n"

def buildSimpleEmail (draw : Draw) (mail : Mail) : String :=
  commonHeaders mail ++
    match mail.textBody, mail.htmlBody with
    | some textBody, some htmlBody =>
        "Content-Type: multipart/alternative; boundary=\"" ++ draw.outerBoundary.text ++
          "\"\n\n" ++ alternativeParts draw.outerBoundary.text textBody htmlBody
    | none, some htmlBody => textPart "text/html" htmlBody
    | textBody, none => textPart "text/plain" (textBody.getD "")

def buildMultipartBody (draw : Draw) (mail : Mail) : String :=
  "--" ++ draw.outerBoundary.text ++ "\n" ++
    match mail.textBody, mail.htmlBody with
    | some textBody, some htmlBody =>
        "Content-Type: multipart/alternative; boundary=\"" ++ draw.innerBoundary.text ++
          "\"\n\n" ++ alternativeParts draw.innerBoundary.text textBody htmlBody
    | none, some htmlBody => textPart "text/html" htmlBody
    | textBody, none => textPart "text/plain" (textBody.getD "")

def safeMimeQuotedValue (value : Option String) (fallback : String) : String :=
  let replaced := (value.getD "").toList.map fun character =>
    if isControl character || character = '"' || character = '\\' then '_' else character
  match String.ofList (replaced.take 255) with
  | "" => fallback
  | sanitized => sanitized

def safeContentType (value : Option String) : String :=
  match value with
  | none => "application/octet-stream"
  | some value =>
      let normalized := downcase (trim value)
      let isName := fun text : List Char => !text.isEmpty && text.all isMediaCharacter
      let isParameter := fun text : List Char =>
        !text.isEmpty && text.all fun character =>
          isMediaCharacter character || character = ' ' || character = '='
      match normalized.toList.splitOn '/' with
      | [type, rest] =>
          match rest.splitOn ';' with
          | [subtype] =>
              if isName type && isName subtype then normalized
              else "application/octet-stream"
          | [subtype, parameter] =>
              if isName type && isName subtype && isParameter parameter then normalized
              else "application/octet-stream"
          | _ => "application/octet-stream"
      | _ => "application/octet-stream"

def attachmentData (draw : Draw) (attachment : Attachment) : String :=
  match attachment.storageType with
  | some "local" | some "s3" =>
      match draw.download attachment with
      | some content => encode64 content
      | none => attachment.data.getD ""
  | _ => attachment.data.getD ""

/-- One part of `build_attachment_parts`. -/
def attachmentPart (draw : Draw) (attachment : Attachment) : String :=
  let filename := safeMimeQuotedValue attachment.filename "attachment"
  "--" ++ draw.outerBoundary.text ++ "\n" ++
  "Content-Type: " ++ safeContentType attachment.contentType ++ "; name=\"" ++ filename ++
    "\"\n" ++
  "Content-Transfer-Encoding: base64\n" ++
  "Content-Disposition: attachment; filename=\"" ++ filename ++ "\"\n\n" ++
  attachmentData draw attachment ++ "\n"

def buildEmailWithAttachments (draw : Draw) (mail : Mail) : String :=
  commonHeaders mail ++
  "Content-Type: multipart/mixed; boundary=\"" ++ draw.outerBoundary.text ++ "\"\n" ++
  "\r\n" ++ buildMultipartBody draw mail ++
  "\r\n".intercalate (mail.attachments.map (attachmentPart draw)) ++
  "\r\n--" ++ draw.outerBoundary.text ++ "--\r\n"

def rawEmail (draw : Draw) (mail : Mail) : String :=
  if mail.withAttachments then buildEmailWithAttachments draw mail
  else buildSimpleEmail draw mail

/-- `String.replace(data, "\r\n", "\n")`. -/
def replaceCrlf : List Char → List Char
  | [] => []
  | [character] => [character]
  | first :: second :: rest =>
      if first = '\r' ∧ second = '\n' then '\n' :: replaceCrlf rest
      else first :: replaceCrlf (second :: rest)

/-- The first two replacements of `normalize_crlf`. -/
def unixText (data : List Char) : List Char :=
  (replaceCrlf data).map fun character => if character = '\r' then '\n' else character

def normalizeCrlf (data : List Char) : List Char :=
  (unixText data).flatMap fun character =>
    if character = '\n' then ['\r', '\n'] else [character]

def dotStuffPop3 (data : List Char) : List Char :=
  lineEnd.intercalate ((splitLines data).map stuffLine)

def messageText (draw : Draw) (mail : Mail) : List Char :=
  normalizeCrlf (rawEmail draw mail).toList

def buildRawEmail (draw : Draw) (mail : Mail) : List Char :=
  dotStuffPop3 (messageText draw mail)

def parseAttachmentSize (attachment : Attachment) : Nat :=
  let stored := (attachment.data.getD "").utf8ByteSize
  match attachment.size with
  | .number (.ofNat size) => size
  | .number (.negSucc _) => stored
  | .text size =>
      match integerParseExact size with
      | some (.ofNat parsed) => parsed
      | _ => stored
  | .missing => stored

def estimateMessageSizeWithAttachments (mail : Mail) : Nat :=
  let headerSize := (mail.fromAddress.getD "").utf8ByteSize +
    (mail.toAddress.getD "").utf8ByteSize + (mail.subject.getD "").utf8ByteSize +
    (mail.messageId.getD "").utf8ByteSize + 220
  let bodySize := (mail.textBody.getD "").utf8ByteSize + (mail.htmlBody.getD "").utf8ByteSize
  let attachmentsSize := mail.attachments.foldl (fun size attachment =>
    size + ((parseAttachmentSize attachment * 4 + 2) / 3 +
      ((attachment.filename.getD "attachment").utf8ByteSize +
        (attachment.contentType.getD "application/octet-stream").utf8ByteSize + 180))) 0
  let boundaryOverhead := mail.attachments.length * 80 + 120
  headerSize + bodySize + attachmentsSize + boundaryOverhead

def estimateMessageSize (draw : Draw) (mail : Mail) : Nat :=
  if mail.withAttachments then estimateMessageSizeWithAttachments mail
  else octets (buildRawEmail draw mail)

/-- `Enum.take`: a negative count takes from the end. -/
def enumTake {α : Type} (items : List α) : Int → List α
  | .ofNat count => items.take count
  | .negSucc count => items.drop (items.length - (count + 1))

/-- What `format_message_top` makes of the content. -/
def formatTop (content : List Char) (lineCount : Int) : List Char :=
  let lines := splitLines content
  let headers := lines.takeWhile fun line => line != []
  let body := lines.dropWhile fun line => line != []
  lineEnd.intercalate (headers ++ enumTake body (lineCount + 1))

def formatMessageTop (draw : Draw) (mail : Mail) (lineCount : Int) : List Char :=
  formatTop (buildRawEmail draw mail) lineCount

def sendRaw (data : List Char) : List Char :=
  if lineEnd.isSuffixOf data then data else data ++ lineEnd

def messageLines (draw : Draw) (mail : Mail) : List (List Char) :=
  (splitLines (messageText draw mail)).dropLast

def headerLines (lines : List (List Char)) : List (List Char) :=
  lines.takeWhile fun line => line != []

def bodyLines (lines : List (List Char)) : List (List Char) :=
  (lines.dropWhile fun line => line != []).tail

theorem replaceCrlf_cons {character : Char} (no_return : character ≠ '\r')
    (rest : List Char) : replaceCrlf (character :: rest) = character :: replaceCrlf rest := by
  cases rest with
  | nil => rfl
  | cons second rest => rw [replaceCrlf, if_neg (fun both => no_return both.1)]

theorem exists_replaceCrlf_append (front rest : List Char) :
    ∃ before, replaceCrlf (front ++ '\n' :: rest) = before ++ '\n' :: replaceCrlf rest := by
  induction front using replaceCrlf.induct with
  | case1 => exact ⟨[], replaceCrlf_cons (by decide) rest⟩
  | case2 character =>
      by_cases carriage : character = '\r'
      · refine ⟨[], ?_⟩
        rw [carriage, List.singleton_append, replaceCrlf, if_pos ⟨rfl, rfl⟩]
        rfl
      · refine ⟨[character], ?_⟩
        rw [List.singleton_append, replaceCrlf_cons carriage, replaceCrlf_cons (by decide)]
        rfl
  | case3 first second front pair ih =>
      obtain ⟨before, split⟩ := ih
      refine ⟨'\n' :: before, ?_⟩
      rw [List.cons_append, List.cons_append, replaceCrlf, if_pos pair, split]
      rfl
  | case4 first second front apart ih =>
      obtain ⟨before, split⟩ := ih
      refine ⟨first :: before, ?_⟩
      rw [List.cons_append, List.cons_append, replaceCrlf, if_neg apart, ← List.cons_append,
        split]
      rfl

theorem exists_unixText_append (front rest : List Char) :
    ∃ before, unixText (front ++ '\n' :: rest) = before ++ '\n' :: unixText rest := by
  obtain ⟨before, split⟩ := exists_replaceCrlf_append front rest
  refine ⟨before.map fun character => if character = '\r' then '\n' else character, ?_⟩
  rw [unixText, split, List.map_append, List.map_cons]
  rfl

theorem return_not_mem_unixText (data : List Char) : '\r' ∉ unixText data := by
  intro member
  obtain ⟨character, -, same⟩ := List.mem_map.mp member
  by_cases carriage : character = '\r'
  · rw [if_pos carriage] at same
    cases same
  · rw [if_neg carriage] at same
    exact carriage same

theorem flatMap_newline {text : List Char} (no_return : '\r' ∉ text) :
    (text ++ ['\n']).flatMap (fun character =>
      if character = '\n' then ['\r', '\n'] else [character]) =
      unlines (text.splitOn '\n') := by
  induction text with
  | nil => rfl
  | cons character text ih =>
      rw [List.mem_cons, not_or] at no_return
      rw [List.cons_append, List.flatMap_cons, ih no_return.2,
        List.splitOn_cons_eq_if_modifyHead]
      by_cases feed : character = '\n'
      · rw [if_pos feed, if_pos (by simpa using feed)]
        rfl
      · rw [if_neg feed, if_neg (by simpa using feed)]
        cases split : text.splitOn '\n' with
        | nil => exact absurd split (List.splitOn_ne_nil _ _)
        | cons line lines =>
            rw [List.modifyHead_cons, unlines_cons, unlines_cons]
            rfl

theorem oneLine_of_mem_splitOn {text : List Char} (no_return : '\r' ∉ text)
    {line : List Char} (member : line ∈ text.splitOn '\n') : OneLine line := by
  refine ⟨?_, not_mem_of_mem_splitOn member⟩
  intro inside
  have part : line.Sublist (['\n'].intercalate (text.splitOn '\n')) :=
    sublist_intercalate member
  rw [List.intercalate_splitOn] at part
  exact no_return (part.subset inside)

/-- The text ends with a line feed. -/
def EndsLine (text : String) : Prop :=
  ∃ front, text.toList = front ++ ['\n']

/-- The text has an empty line. -/
def HasBlankLine (text : String) : Prop :=
  ∃ front back, text.toList = front ++ '\n' :: '\n' :: back ∨
    text.toList = front ++ '\n' :: '\r' :: '\n' :: back

theorem EndsLine.append_left {text : String} (ends : EndsLine text) (front : String) :
    EndsLine (front ++ text) := by
  obtain ⟨rest, split⟩ := ends
  exact ⟨front.toList ++ rest, by rw [String.toList_append, split, List.append_assoc]⟩

theorem HasBlankLine.append_left {text : String} (blank : HasBlankLine text)
    (front : String) : HasBlankLine (front ++ text) := by
  obtain ⟨before, back, split⟩ := blank
  refine ⟨front.toList ++ before, back, ?_⟩
  rw [String.toList_append, List.append_assoc, List.append_assoc]
  rcases split with feeds | carriage
  · exact Or.inl (congrArg _ feeds)
  · exact Or.inr (congrArg _ carriage)

theorem HasBlankLine.append_right {text : String} (blank : HasBlankLine text)
    (rest : String) : HasBlankLine (text ++ rest) := by
  obtain ⟨before, back, split⟩ := blank
  refine ⟨before, back ++ rest.toList, ?_⟩
  rw [String.toList_append]
  rcases split with feeds | carriage
  · exact Or.inl (by rw [feeds]; simp)
  · exact Or.inr (by rw [carriage]; simp)

theorem endsLine_textPart (contentType content : String) :
    EndsLine (textPart contentType content) :=
  EndsLine.append_left ⟨[], rfl⟩ _

theorem hasBlankLine_textPart (contentType content : String) :
    HasBlankLine (textPart contentType content) := by
  have part : HasBlankLine "Content-Transfer-Encoding: 8bit\n\n" :=
    ⟨"Content-Transfer-Encoding: 8bit".toList, [], Or.inl (by decide)⟩
  exact ((part.append_left _).append_right _).append_right _

theorem endsLine_alternativeParts (boundary textBody htmlBody : String) :
    EndsLine (alternativeParts boundary textBody htmlBody) :=
  EndsLine.append_left ⟨['-', '-'], rfl⟩ _

theorem hasBlankLine_alternativeParts (boundary textBody htmlBody : String) :
    HasBlankLine (alternativeParts boundary textBody htmlBody) := by
  have part := hasBlankLine_textPart "text/html" htmlBody
  exact ((((part.append_left _).append_right _).append_right _).append_right _).append_right _

theorem endsLine_rawEmail (draw : Draw) (mail : Mail) : EndsLine (rawEmail draw mail) := by
  unfold rawEmail
  by_cases attached : mail.withAttachments
  · rw [if_pos attached]
    exact EndsLine.append_left ⟨['-', '-', '\r'], rfl⟩ _
  · rw [if_neg attached]
    apply EndsLine.append_left
    cases textBody : mail.textBody with
    | none =>
        cases htmlBody : mail.htmlBody with
        | none => exact endsLine_textPart _ _
        | some html => exact endsLine_textPart _ _
    | some text =>
        cases htmlBody : mail.htmlBody with
        | none => exact endsLine_textPart _ _
        | some html => exact (endsLine_alternativeParts _ _ _).append_left _

theorem hasBlankLine_rawEmail (draw : Draw) (mail : Mail) :
    HasBlankLine (rawEmail draw mail) := by
  unfold rawEmail
  by_cases attached : mail.withAttachments
  · have part : ∀ front : String, HasBlankLine (front ++ "\"\n" ++ "\r\n") := by
      intro front
      refine ⟨front.toList ++ ['"'], [], Or.inr ?_⟩
      rw [String.toList_append, String.toList_append, List.append_assoc, List.append_assoc]
      rfl
    rw [if_pos attached]
    exact (((((part _).append_right _).append_right _).append_right _).append_right
      _).append_right _
  · rw [if_neg attached]
    apply HasBlankLine.append_left
    cases textBody : mail.textBody with
    | none =>
        cases htmlBody : mail.htmlBody with
        | none => exact hasBlankLine_textPart _ _
        | some html => exact hasBlankLine_textPart _ _
    | some text =>
        cases htmlBody : mail.htmlBody with
        | none => exact hasBlankLine_textPart _ _
        | some html => exact (hasBlankLine_alternativeParts _ _ _).append_left _

structure Lines (text : List Char) (lines : List (List Char)) : Prop where
  closed : text = unlines lines
  one : ∀ line ∈ lines, OneLine line
  blank : [] ∈ lines
  header : headerLines lines ≠ []

theorem lines_unixText {data text : List Char} (ends : unixText data = text ++ ['\n']) :
    normalizeCrlf data = unlines (text.splitOn '\n') ∧
      ∀ line ∈ text.splitOn '\n', OneLine line := by
  have no_return : '\r' ∉ text := by
    intro member
    apply return_not_mem_unixText data
    rw [ends]
    exact List.mem_append_left _ member
  constructor
  · rw [normalizeCrlf, ends, flatMap_newline no_return]
  · exact fun line member => oneLine_of_mem_splitOn no_return member

theorem nil_mem_splitOn {data text : List Char} (ends : unixText data = text ++ ['\n'])
    {front back : List Char} (blank : data = front ++ '\n' :: '\n' :: back ∨
      data = front ++ '\n' :: '\r' :: '\n' :: back) : [] ∈ text.splitOn '\n' := by
  have feeds : ∃ before behind, unixText data = before ++ '\n' :: '\n' :: behind := by
    rcases blank with feeds | carriage
    · obtain ⟨before, split⟩ := exists_unixText_append front ('\n' :: back)
      refine ⟨before, unixText back, ?_⟩
      rw [feeds, split]
      have next : unixText ('\n' :: back) = '\n' :: unixText back := by
        rw [unixText, replaceCrlf_cons (by decide)]
        rfl
      rw [next]
    · obtain ⟨before, split⟩ := exists_unixText_append front ('\r' :: '\n' :: back)
      exact ⟨before, unixText back, by rw [carriage, split]; rfl⟩
  obtain ⟨before, behind, split⟩ := feeds
  rw [ends] at split
  have cut := congrArg List.dropLast split
  rw [List.dropLast_concat, List.dropLast_append_of_ne_nil (List.cons_ne_nil _ _),
    List.dropLast_cons_of_ne_nil (List.cons_ne_nil _ _)] at cut
  rw [cut, List.splitOn_append_cons_self]
  apply List.mem_append_right
  cases behind with
  | nil => exact List.mem_singleton_self []
  | cons character behind =>
      rw [List.dropLast_cons_of_ne_nil (List.cons_ne_nil _ _),
        List.splitOn_cons_eq_if_modifyHead, if_pos (beq_self_eq_true _)]
      exact List.mem_cons_self

theorem rawEmail_front (draw : Draw) (mail : Mail) :
    ∃ rest, (rawEmail draw mail).toList = 'F' :: rest := by
  have front : ∀ first second : String, (∃ rest, first.toList = 'F' :: rest) →
      ∃ rest, (first ++ second).toList = 'F' :: rest := by
    intro first second begins
    obtain ⟨rest, split⟩ := begins
    refine ⟨rest ++ second.toList, ?_⟩
    rw [String.toList_append, split]
    rfl
  have headers : ∃ rest, (commonHeaders mail).toList = 'F' :: rest := by
    have sender : ∃ rest, "From: ".toList = 'F' :: rest := ⟨['r', 'o', 'm', ':', ' '], rfl⟩
    unfold commonHeaders
    iterate 15 refine front _ _ ?_
    exact sender
  unfold rawEmail
  by_cases attached : mail.withAttachments
  · rw [if_pos attached]
    unfold buildEmailWithAttachments
    iterate 9 refine front _ _ ?_
    exact headers
  · rw [if_neg attached]
    exact front _ _ headers

theorem lines_message (draw : Draw) (mail : Mail) :
    Lines (messageText draw mail) (messageLines draw mail) := by
  obtain ⟨front, raw_ends⟩ := endsLine_rawEmail draw mail
  obtain ⟨before, back, blank⟩ := hasBlankLine_rawEmail draw mail
  obtain ⟨rest, begins⟩ := rawEmail_front draw mail
  obtain ⟨text, split⟩ := exists_unixText_append front []
  have ends : unixText (rawEmail draw mail).toList = text ++ ['\n'] := by
    rw [raw_ends, split]
    rfl
  obtain ⟨closed, one⟩ := lines_unixText ends
  have lines : messageLines draw mail = text.splitOn '\n' := by
    have whole := splitLines_unlines one []
    rw [List.append_nil, ← closed] at whole
    rw [messageLines, messageText, whole]
    exact List.dropLast_concat
  rw [lines]
  refine ⟨closed, one, nil_mem_splitOn ends blank, ?_⟩
  -- the first line begins with the field of the sender
  have first : ∃ other, text = 'F' :: other := by
    rw [begins, unixText, replaceCrlf_cons (by decide), List.map_cons] at ends
    cases text with
    | nil => cases ends
    | cons character other => exact ⟨other, by rw [← (List.cons.inj ends).1]; rfl⟩
  obtain ⟨other, text_eq⟩ := first
  rw [text_eq, List.splitOn_cons_eq_if_modifyHead, if_neg (by decide)]
  cases pieces : other.splitOn '\n' with
  | nil => exact absurd pieces (List.splitOn_ne_nil _ _)
  | cons line pieces =>
      intro empty
      cases empty

section
variable {text : List Char} {lines : List (List Char)}

theorem Lines.dotStuffPop3 (shape : Lines text lines) :
    dotStuffPop3 text = unlines (lines.map stuffLine) := by
  have split := splitLines_unlines shape.one []
  rw [List.append_nil, ← shape.closed] at split
  rw [POP3.dotStuffPop3, split, List.map_append]
  exact (intercalate_append_singleton _ _).trans (List.append_nil _)

theorem sendRaw_unlines {lines : List (List Char)} (some_line : lines ≠ []) :
    sendRaw (unlines lines) = unlines lines := by
  rw [sendRaw, if_pos]
  rw [List.isSuffixOf_iff_suffix, ← List.dropLast_append_getLast some_line, unlines_append,
    unlines_cons, unlines_nil, List.append_nil, ← List.append_assoc]
  exact List.suffix_append _ _

theorem sendRaw_intercalate (front : List (List Char)) {last : List Char}
    (one : OneLine last) (nonempty : last ≠ []) :
    sendRaw (lineEnd.intercalate (front ++ [last])) = unlines (front ++ [last]) := by
  rw [intercalate_append_singleton, sendRaw, if_neg]
  · rw [unlines_append, unlines_cons, unlines_nil, List.append_nil, List.append_assoc]
  · rw [List.isSuffixOf_iff_suffix]
    intro ends
    have feed : (unlines front ++ last).getLast? = some '\n' := by
      obtain ⟨rest, split⟩ := ends
      rw [← split, List.getLast?_append]
      rfl
    rw [List.getLast?_append_of_ne_nil _ nonempty] at feed
    exact one.2 (List.mem_of_getLast? feed)

theorem Lines.stuffed_one (shape : Lines text lines) :
    ∀ line ∈ lines.map stuffLine, OneLine line := by
  intro line member
  obtain ⟨origin, inside, rfl⟩ := List.mem_map.mp member
  exact (shape.one origin inside).stuffLine

theorem Lines.received_retr (shape : Lines text lines) (later : List Char) :
    received (sendRaw (POP3.dotStuffPop3 text) ++ ('.' :: lineEnd ++ later)) = text := by
  have some_line : lines.map stuffLine ≠ [] := by
    intro empty
    rw [List.map_eq_nil_iff] at empty
    exact shape.header (by rw [empty]; rfl)
  rw [shape.dotStuffPop3, sendRaw_unlines some_line, received_stuffed shape.one,
    ← shape.closed]

theorem Lines.split (shape : Lines text lines) :
    lines = headerLines lines ++ [] :: bodyLines lines := by
  have whole := List.takeWhile_append_dropWhile (p := fun line : List Char => line != [])
    (l := lines)
  rw [headerLines, bodyLines]
  cases rest : lines.dropWhile fun line => line != [] with
  | nil =>
      have kept := List.dropWhile_eq_nil_iff.mp rest [] shape.blank
      cases kept
  | cons line others =>
      have stopped := List.head?_dropWhile_not (fun line : List Char => line != []) lines
      simp only [rest, List.head?_cons] at stopped
      rw [rest, bne_eq_false_iff_eq.mp stopped] at whole
      exact whole.symm

theorem mem_headerLines {line : List Char} (member : line ∈ headerLines lines) :
    line ≠ [] := by
  have kept : (line != []) = true :=
    @List.mem_takeWhile_imp _ (fun line => line != []) _ _ member
  exact bne_iff_ne.mp kept

theorem stuffed_ne_nil {line : List Char} {front : List (List Char)}
    (nonempty : ∀ line ∈ front, line ≠ []) (member : line ∈ front.map stuffLine) :
    (line != []) = true := by
  obtain ⟨origin, inside, rfl⟩ := List.mem_map.mp member
  rw [bne_iff_ne]
  exact fun empty => nonempty origin inside (stuffLine_eq_nil_iff.mp empty)

theorem Lines.formatTop (shape : Lines text lines) (count : Nat) :
    formatTop (POP3.dotStuffPop3 text) count =
      lineEnd.intercalate ((headerLines lines).map stuffLine ++
        [] :: ((bodyLines lines).map stuffLine ++ [[]]).take count) := by
  have split := splitLines_unlines shape.stuffed_one []
  rw [List.append_nil, ← shape.dotStuffPop3] at split
  have parts : lines.map stuffLine ++ splitLines [] =
      (headerLines lines).map stuffLine ++ [] ::
        ((bodyLines lines).map stuffLine ++ [[]]) := by
    conv_lhs => rw [shape.split]
    rw [List.map_append, List.append_assoc]
    rfl
  have kept : ∀ line ∈ (headerLines lines).map stuffLine, (line != []) = true :=
    fun line member => stuffed_ne_nil (fun _ inside => mem_headerLines inside) member
  rw [POP3.formatTop, split, parts, List.takeWhile_append_of_pos kept,
    List.dropWhile_append_of_pos kept, List.takeWhile_cons_of_neg (by simp),
    List.dropWhile_cons_of_neg (by simp), List.append_nil]
  rfl

theorem received_blank_end {front : List (List Char)} (one : ∀ line ∈ front, OneLine line)
    (some_line : front ≠ []) (later : List Char) :
    received (sendRaw (lineEnd.intercalate (front.map stuffLine ++ [[]])) ++
      ('.' :: lineEnd ++ later)) = unlines front := by
  rw [intercalate_append_singleton, List.append_nil, sendRaw_unlines (by simpa using some_line),
    received_stuffed one]

theorem received_line_end {front : List (List Char)} {last : List Char}
    (one : ∀ line ∈ front ++ [last], OneLine line) (nonempty : last ≠ [])
    (later : List Char) :
    received (sendRaw (lineEnd.intercalate ((front ++ [last]).map stuffLine)) ++
      ('.' :: lineEnd ++ later)) = unlines (front ++ [last]) := by
  have last_one : OneLine (stuffLine last) :=
    (one last (List.mem_append_right _ (List.mem_singleton_self last))).stuffLine
  have stuffed : (front ++ [last]).map stuffLine = front.map stuffLine ++ [stuffLine last] := by
    rw [List.map_append]
    rfl
  rw [stuffed, sendRaw_intercalate _ last_one fun empty =>
    nonempty (stuffLine_eq_nil_iff.mp empty), ← stuffed, received_stuffed one]

theorem unlines_ne_append_blank (front : List (List Char)) :
    unlines front ≠ unlines (front ++ [[]]) := by
  intro same
  have lengths := congrArg List.length same
  rw [unlines_append, List.length_append] at lengths
  have two : (unlines [[]]).length = 2 := rfl
  omega

/-- `TOP` arrives as the header, the empty line and the first lines of the body where the
last of these is not empty, and where there are fewer. -/
theorem Lines.received_top_iff (shape : Lines text lines) (count : Nat)
    (later : List Char) :
    received (sendRaw (POP3.formatTop (POP3.dotStuffPop3 text) count) ++
        ('.' :: lineEnd ++ later)) =
        unlines (headerLines lines ++ [] :: (bodyLines lines).take count) ↔
      0 < count ∧ (bodyLines lines)[count - 1]? ≠ some [] := by
  have one : ∀ line ∈ headerLines lines ++ [] :: (bodyLines lines).take count,
      OneLine line := by
    intro line member
    apply shape.one
    rw [shape.split]
    rcases List.mem_append.mp member with header | rest
    · exact List.mem_append_left _ header
    · rcases List.mem_cons.mp rest with blank | body
      · exact List.mem_append_right _ (List.mem_cons.mpr (Or.inl blank))
      · exact List.mem_append_right _ (List.mem_cons_of_mem _ (List.mem_of_mem_take body))
  rw [shape.formatTop]
  by_cases beyond : (bodyLines lines).length < count
  · -- there are fewer lines than asked for
    have whole : ((bodyLines lines).map stuffLine ++ [[]]).take count =
        (bodyLines lines).map stuffLine ++ [[]] := by
      apply List.take_of_length_le
      rw [List.length_append, List.length_map]
      exact beyond
    have all : (bodyLines lines).take count = bodyLines lines :=
      List.take_of_length_le (Nat.le_of_lt beyond)
    have none_there : (bodyLines lines)[count - 1]? = none :=
      List.getElem?_eq_none (by omega)
    have stuffed : (headerLines lines).map stuffLine ++
        [] :: ((bodyLines lines).map stuffLine ++ [[]]) =
        (headerLines lines ++ [] :: bodyLines lines).map stuffLine ++ [[]] := by
      rw [List.map_append, List.append_assoc]
      rfl
    rw [all] at one ⊢
    rw [whole, stuffed, received_blank_end one (by simp)]
    exact iff_of_true rfl ⟨by omega, by rw [none_there]; simp⟩
  · have within : count ≤ (bodyLines lines).length := Nat.le_of_not_lt beyond
    have cut : ((bodyLines lines).map stuffLine ++ [[]]).take count =
        ((bodyLines lines).take count).map stuffLine := by
      rw [List.take_append_of_le_length (by rw [List.length_map]; exact within),
        List.map_take]
    rw [cut]
    cases count with
    | zero =>
        have header_one : ∀ line ∈ headerLines lines, OneLine line :=
          fun line member => one line (List.mem_append_left _ member)
        have arrives := received_blank_end header_one shape.header later
        refine iff_of_false ?_ (fun both => Nat.lt_irrefl 0 both.1)
        intro same
        exact unlines_ne_append_blank (headerLines lines) (arrives.symm.trans same)
    | succ count =>
        obtain ⟨last, there⟩ : ∃ last, (bodyLines lines)[count]? = some last :=
          ⟨(bodyLines lines)[count], List.getElem?_eq_getElem within⟩
        have taken : (bodyLines lines).take (count + 1) =
            (bodyLines lines).take count ++ [last] := by
          rw [List.take_add_one, there]
          rfl
        have front : headerLines lines ++ [] :: (bodyLines lines).take (count + 1) =
            (headerLines lines ++ [] :: (bodyLines lines).take count) ++ [last] := by
          rw [taken, List.append_assoc]
          rfl
        have stuffed : (headerLines lines).map stuffLine ++
            [] :: ((bodyLines lines).take (count + 1)).map stuffLine =
            ((headerLines lines ++ [] :: (bodyLines lines).take count) ++ [last]).map
              stuffLine := by
          rw [← front, List.map_append]
          rfl
        rw [front] at one ⊢
        rw [stuffed, Nat.add_sub_cancel, there]
        by_cases empty : last = []
        · have front_one : ∀ line ∈ headerLines lines ++ [] :: (bodyLines lines).take count,
              OneLine line := fun line member => one line (List.mem_append_left _ member)
          have arrives := received_blank_end front_one (by simp) later
          refine iff_of_false ?_ (fun both => both.2 (by rw [empty]))
          intro same
          rw [empty, List.map_append] at same
          exact unlines_ne_append_blank _ (arrives.symm.trans same)
        · refine iff_of_true (received_line_end one empty later) ⟨Nat.succ_pos count, ?_⟩
          intro same
          exact empty (Option.some.inj same)

end

def blur (character : Char) : Char :=
  if character.isDigit ∨ character ∈ ['a', 'b', 'c', 'd', 'e', 'f'] then '0' else character

theorem blur_eq_iff {mark : Char} (kept : blur mark = mark) (visible : mark ≠ '0')
    {character : Char} : blur character = mark ↔ character = mark := by
  constructor
  · intro same
    unfold blur at same
    split_ifs at same
    · exact absurd same.symm visible
    · exact same
  · intro same
    rw [same, kept]

theorem octets_cons (character : Char) (text : List Char) :
    octets (character :: text) = character.utf8Size + octets text := by
  have split := octets_append [character] text
  have single : octets [character] = character.utf8Size := by simp [octets]
  rw [single] at split
  exact split

theorem utf8Size_of_lt {character : Char} (small : character.toNat < 128) :
    character.utf8Size = 1 := by
  rw [Char.utf8Size, if_pos]
  exact UInt32.le_iff_toNat_le.mpr (Nat.le_of_lt_succ small)

theorem utf8Size_blur (character : Char) : (blur character).utf8Size = character.utf8Size := by
  unfold blur
  split_ifs with hexadecimal
  · rcases hexadecimal with digit | letter
    · have bound : character.toNat < 128 := by
        rw [Char.isDigit, Bool.and_eq_true, decide_eq_true_eq, decide_eq_true_eq] at digit
        exact Nat.lt_of_le_of_lt (UInt32.le_iff_toNat_le.mp digit.2) (by decide)
      rw [utf8Size_of_lt bound]
      rfl
    · simp only [List.mem_cons, List.not_mem_nil, or_false] at letter
      rcases letter with rfl | rfl | rfl | rfl | rfl | rfl <;> rfl
  · rfl

theorem octets_map_blur (text : List Char) : octets (text.map blur) = octets text := by
  induction text with
  | nil => rfl
  | cons character text ih =>
      rw [List.map_cons, octets_cons, octets_cons, utf8Size_blur, ih]

theorem replaceCrlf_map_blur (data : List Char) :
    replaceCrlf (data.map blur) = (replaceCrlf data).map blur := by
  induction data using replaceCrlf.induct with
  | case1 => rfl
  | case2 character => rfl
  | case3 first second rest pair ih =>
      have blurred : blur first = '\r' ∧ blur second = '\n' := by
        rw [pair.1, pair.2]
        exact ⟨rfl, rfl⟩
      rw [List.map_cons, List.map_cons, replaceCrlf, if_pos blurred, replaceCrlf,
        if_pos pair, ih]
      rfl
  | case4 first second rest apart ih =>
      have blurred : ¬(blur first = '\r' ∧ blur second = '\n') := by
        rw [blur_eq_iff rfl (by decide), blur_eq_iff rfl (by decide)]
        exact apart
      rw [List.map_cons] at ih
      rw [List.map_cons, List.map_cons, replaceCrlf, if_neg blurred, ih, replaceCrlf,
        if_neg apart, List.map_cons]

theorem normalizeCrlf_map_blur (data : List Char) :
    normalizeCrlf (data.map blur) = (normalizeCrlf data).map blur := by
  rw [normalizeCrlf, unixText, replaceCrlf_map_blur, normalizeCrlf, unixText, List.map_flatMap,
    List.flatMap_map, List.flatMap_map, List.flatMap_map]
  congr 1
  funext character
  by_cases carriage : character = '\r'
  · rw [carriage]
    rfl
  · by_cases feed : character = '\n'
    · rw [feed]
      rfl
    · have no_return : blur character ≠ '\r' :=
        fun same => carriage ((blur_eq_iff rfl (by decide)).mp same)
      have no_feed : blur character ≠ '\n' :=
        fun same => feed ((blur_eq_iff rfl (by decide)).mp same)
      rw [if_neg no_return, if_neg no_feed, if_neg carriage, if_neg feed]
      rfl

theorem splitLines_map_blur (text : List Char) :
    splitLines (text.map blur) = (splitLines text).map (List.map blur) := by
  induction text using splitLines.induct with
  | case1 => rfl
  | case2 character => rfl
  | case3 first second rest pair ih =>
      have blurred : blur first = '\r' ∧ blur second = '\n' := by
        rw [pair.1, pair.2]
        exact ⟨rfl, rfl⟩
      rw [List.map_cons, List.map_cons, splitLines, if_pos blurred, splitLines,
        if_pos pair, ih]
      rfl
  | case4 first second rest apart ih =>
      have blurred : ¬(blur first = '\r' ∧ blur second = '\n') := by
        rw [blur_eq_iff rfl (by decide), blur_eq_iff rfl (by decide)]
        exact apart
      rw [List.map_cons] at ih
      rw [List.map_cons, List.map_cons, splitLines, if_neg blurred, ih, splitLines,
        if_neg apart]
      cases splitLines (second :: rest) with
      | nil => rfl
      | cons line lines => rfl

theorem stuffLine_map_blur (line : List Char) :
    stuffLine (line.map blur) = (stuffLine line).map blur := by
  cases line with
  | nil => rfl
  | cons character line =>
      by_cases dot : character = '.'
      · rw [dot]
        rfl
      · have no_dot : blur character ≠ '.' :=
          fun same => dot ((blur_eq_iff rfl (by decide)).mp same)
        rw [stuffLine, if_neg (by simpa using no_dot), stuffLine, if_neg (by simpa using dot)]

theorem dotStuffPop3_map_blur (data : List Char) :
    dotStuffPop3 (data.map blur) = (dotStuffPop3 data).map blur := by
  have joined : ∀ lines : List (List Char),
      (lineEnd.intercalate lines).map blur = lineEnd.intercalate (lines.map (List.map blur)) := by
    intro lines
    induction lines with
    | nil => rfl
    | cons line lines ih =>
        cases lines with
        | nil => simp
        | cons next lines =>
            rw [List.map_cons, List.map_cons, List.intercalate_cons_cons,
              List.intercalate_cons_cons, List.map_append, List.map_append, ih]
            rfl
  rw [dotStuffPop3, splitLines_map_blur, dotStuffPop3, joined, List.map_map, List.map_map]
  congr 1
  exact List.map_congr_left fun line _ => stuffLine_map_blur line

theorem map_blur_boundary (boundary : Boundary) :
    boundary.text.toList.map blur = List.replicate 32 '0' := by
  rw [List.eq_replicate_iff]
  constructor
  · rw [List.length_map, String.length_toList, boundary.length_eq]
  · intro character member
    obtain ⟨digit, inside, rfl⟩ := List.mem_map.mp member
    exact if_pos (boundary.hexadecimal digit inside)

/-- Two texts that differ in the digits of the boundaries only. -/
def Alike (first second : String) : Prop :=
  first.toList.map blur = second.toList.map blur

theorem Alike.append {first second front back : String} (fronts : Alike first second)
    (backs : Alike front back) : Alike (first ++ front) (second ++ back) := by
  unfold Alike at *
  rw [String.toList_append, String.toList_append, List.map_append, List.map_append, fronts,
    backs]

theorem Alike.right {first second : String} (alike : Alike first second) (back : String) :
    Alike (first ++ back) (second ++ back) :=
  alike.append rfl

theorem Alike.boundary {first second : String} (alike : Alike first second)
    (one other : Boundary) : Alike (first ++ one.text) (second ++ other.text) :=
  alike.append ((map_blur_boundary one).trans (map_blur_boundary other).symm)

theorem alike_alternativeParts (first second : Boundary) (textBody htmlBody : String) :
    Alike (alternativeParts first.text textBody htmlBody)
      (alternativeParts second.text textBody htmlBody) := by
  have opened : Alike "--" "--" := rfl
  unfold alternativeParts
  exact ((((((((((((opened.boundary first second).right _).right _).right _).right
    _).boundary first second).right _).right _).right _).right _).boundary first second).right
    _)

theorem map_blur_rawEmail (first second : Draw) {mail : Mail}
    (plain : mail.withAttachments = false) :
    (rawEmail first mail).toList.map blur = (rawEmail second mail).toList.map blur := by
  have simple : ∀ draw, rawEmail draw mail = buildSimpleEmail draw mail := by
    intro draw
    rw [rawEmail, if_neg (by rw [plain]; exact Bool.false_ne_true)]
  rw [simple, simple]
  unfold buildSimpleEmail
  cases textBody : mail.textBody with
  | none =>
      cases htmlBody : mail.htmlBody with
      | none => rfl
      | some html => rfl
  | some text =>
      cases htmlBody : mail.htmlBody with
      | none => rfl
      | some html =>
          have headers : Alike (commonHeaders mail) (commonHeaders mail) := rfl
          have opened : Alike "Content-Type: multipart/alternative; boundary=\""
              "Content-Type: multipart/alternative; boundary=\"" := rfl
          exact headers.append (((opened.boundary first.outerBoundary
            second.outerBoundary).right _).append (alike_alternativeParts _ _ text html))

theorem octets_buildRawEmail_draw (first second : Draw) {mail : Mail}
    (plain : mail.withAttachments = false) :
    octets (buildRawEmail first mail) = octets (buildRawEmail second mail) := by
  rw [← octets_map_blur, ← octets_map_blur (buildRawEmail second mail), buildRawEmail,
    buildRawEmail, messageText, messageText, ← dotStuffPop3_map_blur, ← dotStuffPop3_map_blur,
    ← normalizeCrlf_map_blur, ← normalizeCrlf_map_blur, map_blur_rawEmail first second plain]

def rendering (mailOf : Message → Mail) (draw : Draw) (around : Surroundings) :
    Surroundings :=
  { around with
    content := fun message => String.ofList (buildRawEmail draw (mailOf message))
    top := fun message lineCount =>
      String.ofList (formatMessageTop draw (mailOf message) lineCount) }

structure Command where
  draw : Draw
  name : String
  args : Option String

section
variable (mailOf : Message → Mail) (around : Surroundings)

def served (state : State) : List Command → State
  | [] => state
  | command :: commands =>
      match (handleTransactionCommand (rendering mailOf command.draw around) command.name
        command.args state).next with
      | .going next => served next commands
      | .quit | .commit => state

def textOctets (draw : Draw) (message : Message) : Nat :=
  octets (messageText draw (mailOf message))

/-- The reported octets are those of the texts, `RETR` transfers the texts, and `TOP` the
asked number of lines. -/
structure TransfersRightly (draw : Draw) (state : State) (lines : Int) : Prop where
  stat : (handleTransactionCommand (rendering mailOf draw around) "STAT" none state).replies =
    ["+OK " ++ toString state.active.length ++ " " ++
      toString ((state.active.map fun entry => textOctets mailOf draw entry.1).foldl
        (· + ·) 0)]
  listing : (handleTransactionCommand (rendering mailOf draw around) "LIST" none
      state).replies =
    "+OK Message list follows" :: state.active.map (fun entry =>
      toString entry.2 ++ " " ++ toString (textOctets mailOf draw entry.1)) ++ ["."]
  listed : ∀ entry ∈ state.active,
    (handleTransactionCommand (rendering mailOf draw around) "LIST"
      (some (toString entry.2)) state).replies =
      ["+OK " ++ toString entry.2 ++ " " ++ toString (textOctets mailOf draw entry.1)]
  retrieved : ∀ entry ∈ state.active, ∃ content,
    (handleTransactionCommand (rendering mailOf draw around) "RETR"
      (some (toString entry.2)) state).replies =
      ["+OK " ++ toString (textOctets mailOf draw entry.1) ++ " octets", content, "."] ∧
    ∀ later, received (sendRaw content.toList ++ ('.' :: lineEnd ++ later)) =
      messageText draw (mailOf entry.1)
  extracted : 0 ≤ lines → ∀ entry ∈ state.active, ∃ content,
    (handleTransactionCommand (rendering mailOf draw around) "TOP"
      (some (toString entry.2 ++ " " ++ toString lines)) state).replies =
      ["+OK", content, "."] ∧
    ∀ later, received (sendRaw content.toList ++ ('.' :: lineEnd ++ later)) =
      unlines (headerLines (messageLines draw (mailOf entry.1)) ++
        [] :: (bodyLines (messageLines draw (mailOf entry.1))).take lines.toNat)
  refused : lines < 0 → ∀ entry ∈ state.active, ∃ reason,
    (handleTransactionCommand (rendering mailOf draw around) "TOP"
      (some (toString entry.2 ++ " " ++ toString lines)) state).replies =
      ["-ERR " ++ reason]

structure TransferFits (draw : Draw) (state : State) (lines : Int)
    (entry : Message × Nat) : Prop where
  dotless : ∀ line ∈ messageLines draw (mailOf entry.1), line.head? ≠ some '.'
  counted : (mailOf entry.1).withAttachments = true →
    state.messageSize entry.2 = textOctets mailOf draw entry.1
  positive : 0 < lines
  filled : (bodyLines (messageLines draw (mailOf entry.1)))[lines.toNat - 1]? ≠ some []

/-- The sizes in the cache are estimates, or octets that a `RETR` has sent. -/
def Counted (state : State) : Prop :=
  ∀ entry ∈ state.messageSizeCache, 0 < entry.1 ∧ ∃ message,
    state.messages[entry.1 - 1]? = some message ∧
    (entry.2 = message.size ∨
      ∃ draw, entry.2 = octets (buildRawEmail draw (mailOf message)))

theorem counted_buildSizeCache {state : State}
    (fresh : state.messageSizeCache = buildSizeCache state.messages) :
    Counted mailOf state := by
  intro entry member
  rw [fresh, buildSizeCache] at member
  obtain ⟨place, inside, rfl⟩ := List.mem_map.mp member
  rw [List.mem_zipIdx_iff_le_and_getElem?_sub] at inside
  exact ⟨by omega, place.1, inside.2, Or.inl rfl⟩

/-- The next state has the messages, and a size more at most. -/
def Reaction.Caching (draw : Draw) (state : State) (reaction : Reaction) : Prop :=
  ∀ next, reaction.next = .going next → next.messages = state.messages ∧
    (next.messageSizeCache = state.messageSizeCache ∨
      ∃ number size message, 0 < number ∧ state.messages[number - 1]? = some message ∧
        size = octets (buildRawEmail draw (mailOf message)) ∧
        next.messageSizeCache = (number, size) :: state.messageSizeCache)

section
variable {mailOf} {draw : Draw} {state : State}

theorem caching_reply (text : String) :
    (state.reply text).Caching mailOf draw state := by
  intro next goes
  cases goes
  exact ⟨rfl, Or.inl rfl⟩

theorem caching_replies (replies : List String) :
    (Reaction.mk replies (.going state)).Caching mailOf draw state := by
  intro next goes
  cases goes
  exact ⟨rfl, Or.inl rfl⟩

theorem caching_onMessage {text : String} {found : Nat → Message → Reaction}
    (answers : ∀ number message, 0 < number → state.messages[number - 1]? = some message →
      (found number message).Caching mailOf draw state) :
    (state.onMessage text found).Caching mailOf draw state := by
  unfold State.onMessage
  cases named : state.messageNumber text with
  | none => exact caching_reply _
  | some number =>
      have positive : 0 < number := by
        unfold State.messageNumber at named
        split at named
        · split_ifs at named with valid
          cases named
          omega
        · cases named
      by_cases marked : state.deletedMessages.contains number = true
      · simp only [marked, if_true]
        exact caching_reply _
      · simp only [marked]
        cases there : state.messages[number - 1]? with
        | none => exact caching_reply _
        | some message => exact answers number message positive there

end

theorem caching_transactionCommand (draw : Draw) (name : String) (args : Option String)
    (state : State) :
    (handleTransactionCommand (rendering mailOf draw around) name args state).Caching mailOf
      draw state := by
  unfold handleTransactionCommand
  split
  · exact caching_reply _
  · exact caching_replies _
  · exact caching_onMessage fun number message _ _ => caching_reply _
  · exact caching_reply _
  · apply caching_onMessage
    intro number message positive there next goes
    cases goes
    exact ⟨rfl, Or.inr ⟨number, _, message, positive, there, rfl, rfl⟩⟩
  · exact caching_reply _
  · unfold handleDele
    split
    · split
      · exact caching_reply _
      · intro next goes
        cases goes
        exact ⟨rfl, Or.inl rfl⟩
    · exact caching_reply _
  · exact caching_reply _
  · intro next goes
    cases goes
    exact ⟨rfl, Or.inl rfl⟩
  · unfold handleTop
    split
    · split
      · exact caching_reply _
      · split
        · exact caching_replies _
        · exact caching_reply _
    · exact caching_reply _
  · exact caching_replies _
  · exact caching_onMessage fun number message _ _ => caching_reply _
  · intro next goes
    cases goes
  · exact caching_replies _
  · exact caching_reply _

theorem counted_next {draw : Draw} {state next : State} {reaction : Reaction}
    (counted : Counted mailOf state) (caching : reaction.Caching mailOf draw state)
    (goes : reaction.next = .going next) :
    Counted mailOf next ∧ next.messages = state.messages := by
  obtain ⟨messages, cache⟩ := caching next goes
  refine ⟨?_, messages⟩
  intro entry member
  rw [messages]
  rcases cache with same | ⟨number, size, message, positive, there, sent, grown⟩
  · rw [same] at member
    exact counted entry member
  · rw [grown] at member
    rcases List.mem_cons.mp member with new | old
    · rw [new]
      exact ⟨positive, message, there, Or.inr ⟨draw, sent⟩⟩
    · exact counted entry old

theorem counted_served {state : State} (counted : Counted mailOf state)
    (commands : List Command) :
    Counted mailOf (served mailOf around state commands) ∧
      (served mailOf around state commands).messages = state.messages := by
  induction commands generalizing state with
  | nil => exact ⟨counted, rfl⟩
  | cons command commands ih =>
      have caching := caching_transactionCommand mailOf around command.draw command.name
        command.args state
      rw [served]
      generalize handleTransactionCommand (rendering mailOf command.draw around)
        command.name command.args state = reaction at caching ⊢
      cases goes : reaction.next with
      | going next =>
          obtain ⟨next_counted, messages⟩ := counted_next mailOf counted caching goes
          obtain ⟨kept, same⟩ := ih next_counted
          exact ⟨kept, same.trans messages⟩
      | quit => exact ⟨counted, rfl⟩
      | commit => exact ⟨counted, rfl⟩

theorem integerParseExact_toString (value : Int) :
    integerParseExact (toString value) = some value := by
  cases value with
  | ofNat number => exact integerParseExact_repr number
  | negSucc number =>
      have text : (toString (Int.negSucc number)).toList = '-' :: (number + 1).repr.toList := by
        change ("-" ++ (number + 1).repr).toList = _
        rw [String.toList_append]
        rfl
      have digits : ∀ character ∈ (number + 1).repr.toList, character.isDigit :=
        fun _ member => isDigit_of_mem_repr member
      have counted := leadingDigits_of_isDigit digits 0
      rw [Nat.toList_repr] at counted digits text
      rw [Nat.ofDigitChars_ten_toDigits] at counted
      unfold integerParseExact integerParse
      rw [text]
      cases characters : Nat.toDigits 10 (number + 1) with
      | nil => exact absurd characters Nat.toDigits_ne_nil
      | cons first rest =>
          rw [characters] at counted digits
          have all_digits : (first :: rest).all Char.isDigit = true := by
            rw [List.all_eq_true]
            exact digits
          simp only [counted, List.length_cons, all_digits, if_true]
          rfl

theorem mem_active {state : State} {entry : Message × Nat} (active : entry ∈ state.active) :
    0 < entry.2 ∧ entry.2 ≤ state.messages.length ∧
      state.messages[entry.2 - 1]? = some entry.1 ∧
      state.deletedMessages.contains entry.2 = false := by
  obtain ⟨inside, unmarked⟩ := List.mem_filter.mp active
  rw [List.mem_zipIdx_iff_le_and_getElem?_sub] at inside
  have bound := List.getElem?_eq_some_iff.mp inside.2
  obtain ⟨small, -⟩ := bound
  refine ⟨by omega, by omega, inside.2, ?_⟩
  simpa using unmarked

theorem messageNumber_toString {state : State} {number : Nat} (positive : 0 < number)
    (within : number ≤ state.messages.length) :
    state.messageNumber (toString number) = some number := by
  have parsed : integerParseExact (toString number) = some (number : Int) :=
    integerParseExact_repr number
  rw [State.messageNumber, parsed]
  exact if_pos ⟨by omega, by omega⟩

theorem onMessage_active {state : State} {entry : Message × Nat}
    (active : entry ∈ state.active) (found : Nat → Message → Reaction) :
    state.onMessage (toString entry.2) found = found entry.2 entry.1 := by
  obtain ⟨positive, within, there, unmarked⟩ := mem_active active
  rw [State.onMessage, messageNumber_toString positive within]
  simp only [unmarked, there]
  rfl

theorem topArgs_toString {state : State} {number : Nat} (positive : 0 < number)
    (within : number ≤ state.messages.length) (lines : Int) :
    state.topArgs (toString number ++ " " ++ toString lines) = some (number, lines) := by
  have no_space : ∀ text : String, (∃ value, integerParseExact text = some value) →
      ' ' ∉ text.toList := by
    intro text parsed member
    obtain ⟨value, parsed⟩ := parsed
    rcases isDigit_of_integerParseExact parsed member with digit | sign | sign
    · cases digit
    · cases sign
    · cases sign
  have number_text := no_space (toString number) ⟨number, integerParseExact_repr number⟩
  have lines_text := no_space (toString lines) ⟨lines, integerParseExact_toString lines⟩
  have words : Elektrine.IMAP.splitAll ' ' (toString number ++ " " ++ toString lines) =
      [toString number, toString lines] := by
    have text : (toString number ++ " " ++ toString lines).toList =
        (toString number).toList ++ ' ' :: (toString lines).toList := by
      rw [String.toList_append, String.toList_append, List.append_assoc]
      rfl
    rw [Elektrine.IMAP.splitAll, text, List.splitOn_append_cons_self,
      List.splitOn_eq_singleton number_text, List.splitOn_eq_singleton lines_text]
    simp only [List.singleton_append, List.map_cons, List.map_nil, String.ofList_toList]
  rw [State.topArgs, words]
  simp only [messageNumber_toString positive within, integerParseExact_toString]

theorem toString_inj {first second : Nat} (same : toString first = toString second) :
    first = second :=
  repr_inj same

theorem octets_of_reply {front back : String} {first second : Nat}
    (same : front ++ toString first ++ back = front ++ toString second ++ back) :
    first = second := by
  apply toString_inj
  have characters := congrArg String.toList same
  simp only [String.toList_append, List.append_assoc] at characters
  exact String.toList_inj.mp (List.append_cancel_right (List.append_cancel_left characters))

section
variable {draw : Draw} {state : State} {entry : Message × Nat}

theorem retr_replies (active : entry ∈ state.active) :
    (handleTransactionCommand (rendering mailOf draw around) "RETR"
      (some (toString entry.2)) state).replies =
      ["+OK " ++ toString (octets (buildRawEmail draw (mailOf entry.1))) ++ " octets",
        String.ofList (buildRawEmail draw (mailOf entry.1)), "."] := by
  change (handleRetr (rendering mailOf draw around) (toString entry.2) state).replies = _
  rw [handleRetr, onMessage_active active]
  rfl

theorem list_replies (active : entry ∈ state.active) :
    (handleTransactionCommand (rendering mailOf draw around) "LIST"
      (some (toString entry.2)) state).replies =
      ["+OK " ++ toString entry.2 ++ " " ++ toString (state.messageSize entry.2)] := by
  change (state.onMessage (toString entry.2) fun number _ =>
    state.reply ("+OK " ++ toString number ++ " " ++
      toString (state.messageSize number))).replies = _
  rw [onMessage_active active]
  rfl

theorem top_replies (active : entry ∈ state.active) (lines : Int) :
    (handleTransactionCommand (rendering mailOf draw around) "TOP"
      (some (toString entry.2 ++ " " ++ toString lines)) state).replies =
      ["+OK", String.ofList (formatMessageTop draw (mailOf entry.1) lines), "."] := by
  obtain ⟨positive, within, there, unmarked⟩ := mem_active active
  change (handleTop (rendering mailOf draw around)
    (toString entry.2 ++ " " ++ toString lines) state).replies = _
  rw [handleTop, topArgs_toString positive within]
  simp only [unmarked, there]
  rfl

theorem octets_buildRawEmail_eq_iff (draw : Draw) (mail : Mail) :
    octets (buildRawEmail draw mail) = octets (messageText draw mail) ↔
      ∀ line ∈ messageLines draw mail, line.head? ≠ some '.' := by
  have shape := lines_message draw mail
  rw [buildRawEmail, shape.dotStuffPop3]
  conv_lhs => rw [shape.closed]
  exact octets_stuffed_eq_iff

theorem messageSize_of_fits (active : entry ∈ state.active) (counted : Counted mailOf state)
    (estimated : ∀ message ∈ state.messages, ∃ draw,
      message.size = estimateMessageSize draw (mailOf message)) {lines : Int}
    (fits : TransferFits mailOf draw state lines entry) :
    state.messageSize entry.2 = textOctets mailOf draw entry.1 := by
  by_cases attached : (mailOf entry.1).withAttachments = true
  · exact fits.counted attached
  · have plain : (mailOf entry.1).withAttachments = false := by simpa using attached
    obtain ⟨-, -, there, -⟩ := mem_active active
    have text := (octets_buildRawEmail_eq_iff draw (mailOf entry.1)).mpr fits.dotless
    have written : ∀ other, octets (buildRawEmail other (mailOf entry.1)) =
        textOctets mailOf draw entry.1 :=
      fun other => (octets_buildRawEmail_draw other draw plain).trans text
    have estimate : entry.1.size = textOctets mailOf draw entry.1 := by
      obtain ⟨other, size⟩ := estimated entry.1 (List.mem_of_getElem? there)
      rw [size, estimateMessageSize, if_neg attached]
      exact written other
    rw [State.messageSize]
    cases cached : state.messageSizeCache.lookup entry.2 with
    | none =>
        simp only [there]
        exact estimate
    | some size =>
        have member : (entry.2, size) ∈ state.messageSizeCache := by
          obtain ⟨before, after, split, -⟩ := List.lookup_eq_some_iff.mp cached
          rw [split]
          exact List.mem_append_right _ List.mem_cons_self
        obtain ⟨-, message, same, size_eq⟩ := counted _ member
        rw [there] at same
        cases same
        rcases size_eq with estimate_size | ⟨other, sent⟩
        · exact estimate_size.trans estimate
        · exact sent.trans (written other)

theorem fits_of_transfersRightly {lines : Int}
    (rightly : TransfersRightly mailOf around draw state lines)
    (active : entry ∈ state.active) : TransferFits mailOf draw state lines entry := by
  have shape := lines_message draw (mailOf entry.1)
  have dotless : ∀ line ∈ messageLines draw (mailOf entry.1), line.head? ≠ some '.' := by
    obtain ⟨content, replies, -⟩ := rightly.retrieved entry active
    rw [retr_replies mailOf around active] at replies
    apply (octets_buildRawEmail_eq_iff draw (mailOf entry.1)).mp
    exact octets_of_reply (List.cons.inj replies).1
  have counted : state.messageSize entry.2 = textOctets mailOf draw entry.1 := by
    have replies := rightly.listed entry active
    rw [list_replies mailOf around active] at replies
    have reply := (List.cons.inj replies).1
    apply @octets_of_reply ("+OK " ++ toString entry.2 ++ " ") ""
    rw [reply]
  by_cases negative : lines < 0
  · obtain ⟨reason, replies⟩ := rightly.refused negative entry active
    rw [top_replies mailOf around active] at replies
    have reply := congrArg List.length replies
    exact absurd reply (by simp)
  · obtain ⟨count, rfl⟩ := Int.eq_ofNat_of_zero_le (Int.not_lt.mp negative)
    obtain ⟨content, replies, arrives⟩ := rightly.extracted (Int.not_lt.mp negative) entry active
    rw [top_replies mailOf around active] at replies
    have content_eq := (List.cons.inj (List.cons.inj replies).2).1
    have extract := arrives []
    rw [← content_eq, String.toList_ofList] at extract
    obtain ⟨positive, filled⟩ := (shape.received_top_iff count []).mp extract
    exact ⟨dotless, fun _ => counted, Int.ofNat_lt.mpr positive, filled⟩

theorem transfersRightly_of_fits (counted : Counted mailOf state)
    (estimated : ∀ message ∈ state.messages, ∃ draw,
      message.size = estimateMessageSize draw (mailOf message)) {lines : Int}
    (fits : ∀ entry ∈ state.active, TransferFits mailOf draw state lines entry) :
    TransfersRightly mailOf around draw state lines := by
  have sizes : ∀ entry ∈ state.active,
      state.messageSize entry.2 = textOctets mailOf draw entry.1 := fun entry active =>
    messageSize_of_fits mailOf active counted estimated (fits entry active)
  constructor
  · change ["+OK " ++ toString state.stats.1 ++ " " ++ toString state.stats.2] = _
    rw [State.stats, List.map_congr_left sizes]
  · change "+OK Message list follows" :: state.active.map (fun entry =>
      toString entry.2 ++ " " ++ toString (state.messageSize entry.2)) ++ ["."] = _
    rw [List.map_congr_left fun entry active => by rw [sizes entry active]]
  · intro entry active
    rw [list_replies mailOf around active, sizes entry active]
  · intro entry active
    refine ⟨String.ofList (buildRawEmail draw (mailOf entry.1)), ?_, ?_⟩
    · have same : octets (buildRawEmail draw (mailOf entry.1)) =
          textOctets mailOf draw entry.1 :=
        (octets_buildRawEmail_eq_iff draw (mailOf entry.1)).mpr (fits entry active).dotless
      rw [retr_replies mailOf around active, same]
    · intro later
      rw [String.toList_ofList]
      exact (lines_message draw (mailOf entry.1)).received_retr later
  · intro positive entry active
    obtain ⟨count, rfl⟩ := Int.eq_ofNat_of_zero_le positive
    refine ⟨String.ofList (formatMessageTop draw (mailOf entry.1) count),
      top_replies mailOf around active count, ?_⟩
    intro later
    rw [String.toList_ofList]
    apply ((lines_message draw (mailOf entry.1)).received_top_iff count later).mpr
    exact ⟨Int.ofNat_lt.mp (fits entry active).positive, (fits entry active).filled⟩
  · intro negative entry active
    have positive := (fits entry active).positive
    omega

end

/-- After any commands of a session the transfer is right exactly for messages without dots
in front of a line, with sizes that are not mere estimates, and for counts of lines whose
last line is not empty. -/
theorem transfersRightly_iff (draw : Draw) (lines : Int) (state : State)
    (commands : List Command) (fresh : state.messageSizeCache = buildSizeCache state.messages)
    (estimated : ∀ message ∈ state.messages, ∃ draw,
      message.size = estimateMessageSize draw (mailOf message)) :
    TransfersRightly mailOf around draw (served mailOf around state commands) lines ↔
      ∀ entry ∈ (served mailOf around state commands).active,
        TransferFits mailOf draw (served mailOf around state commands) lines entry := by
  obtain ⟨counted, messages⟩ :=
    counted_served mailOf around (counted_buildSizeCache mailOf fresh) commands
  rw [← messages] at estimated
  constructor
  · exact fun rightly entry active => fits_of_transfersRightly mailOf around rightly active
  · exact transfersRightly_of_fits mailOf around counted estimated

end

def zeroBoundary : Boundary where
  text := String.ofList (List.replicate 32 '0')
  length_eq := by decide
  hexadecimal := by
    intro character member
    rw [String.toList_ofList] at member
    rw [List.eq_of_mem_replicate member]
    exact Or.inl rfl

def zeroDraw : Draw where
  outerBoundary := zeroBoundary
  innerBoundary := zeroBoundary
  download := fun _ => none

def greeting : Mail where
  fromAddress := none
  toAddress := none
  subject := none
  messageId := none
  date := ""
  textBody := some "Hello\nBob"
  htmlBody := none
  hasAttachments := false
  attachments := []

def greetingMessage : Message where
  id := 7
  size := estimateMessageSize zeroDraw greeting

def greeted : State :=
  { State.greet true true false with
    authenticated := true
    messages := [greetingMessage]
    messageSizeCache := buildSizeCache [greetingMessage]
    transactionState := .transaction }

def quietSurroundings : Surroundings where
  accountInactive := false
  rateLimit := .ok
  authenticate := fun _ _ => none
  handshake := false
  content := fun _ => ""
  top := fun _ _ => ""

theorem size_greetingMessage :
    greetingMessage.size = estimateMessageSize zeroDraw greeting := by
  simp only [greetingMessage]

set_option maxRecDepth 10000 in
theorem greeting_plain :
    ((messageLines zeroDraw greeting).all fun line => line.head? != some '.') = true ∧
      (bodyLines (messageLines zeroDraw greeting))[1]? ≠ some [] := by
  decide

/-- Two lines of the greeting, after its retrieval. -/
theorem transfersRightly_greeting :
    TransfersRightly (fun _ => greeting) quietSurroundings zeroDraw
      (served (fun _ => greeting) quietSurroundings greeted [⟨zeroDraw, "RETR", some "1"⟩])
      2 := by
  apply (transfersRightly_iff (fun _ => greeting) quietSurroundings zeroDraw 2 greeted
    [⟨zeroDraw, "RETR", some "1"⟩] rfl ?_).mpr
  · intro entry active
    refine ⟨?_, ?_, by decide, greeting_plain.2⟩
    · intro line member
      exact bne_iff_ne.mp (List.all_eq_true.mp greeting_plain.1 line member)
    · intro attached
      cases attached
  · intro message member
    rw [List.mem_singleton.mp member]
    exact ⟨zeroDraw, size_greetingMessage⟩

/-- `TOP` with no lines leaves out the empty line. -/
theorem not_transfersRightly_no_lines :
    ¬TransfersRightly (fun _ => greeting) quietSurroundings zeroDraw greeted 0 := by
  intro rightly
  have active : (greetingMessage, 1) ∈ greeted.active := by
    rw [State.active]
    exact List.mem_singleton_self _
  exact Int.lt_irrefl 0
    (fits_of_transfersRightly (fun _ => greeting) quietSurroundings rightly active).positive

end Elektrine.POP3
