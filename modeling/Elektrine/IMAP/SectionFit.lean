import Elektrine.IMAP.FetchItems

/-!
# How the sections of a message fit together

The whole message and the header section come from two builders.  What they print is
compared field by field: a field of one is followed by the same rest as that field of the
other, until the fields or the ends of the two differ.
-/

namespace Elektrine.IMAP

def isVisible (character : Char) : Bool :=
  !isControl character && !isWhiteSpace character

def ink (characters : List Char) : Nat :=
  characters.countP isVisible

theorem ink_append (front back : List Char) : ink (front ++ back) = ink front + ink back :=
  List.countP_append

theorem ink_dropWhile (characters : List Char) :
    ink (characters.dropWhile isWhiteSpace) = ink characters := by
  induction characters with
  | nil => rfl
  | cons first rest ih =>
      by_cases white : isWhiteSpace first
      · have unseen : ¬ isVisible first := by simp [isVisible, white]
        rw [List.dropWhile_cons_of_pos white, ih]
        exact (List.countP_cons_of_neg unseen).symm
      · rw [List.dropWhile_cons_of_neg white]

theorem ink_reverse (characters : List Char) : ink characters.reverse = ink characters :=
  List.countP_reverse

theorem ink_trim (text : String) : ink (trim text).toList = ink text.toList := by
  rw [trim, String.toList_ofList, ink_reverse, ink_dropWhile, ink_reverse, ink_dropWhile]

theorem ink_safeHeaderValue (value : Option String) :
    ink (safeHeaderValue value).toList = ink (value.getD "").toList := by
  rw [safeHeaderValue, ink_trim, String.toList_ofList, ink, ink, List.countP_map]
  apply List.countP_congr
  intro character _
  by_cases control : isControl character
  · have blank : isVisible ' ' = false := by decide
    have unseen : isVisible character = false := by simp [isVisible, control]
    rw [Function.comp_apply, if_pos control, blank, unseen]
  · simp [control]

theorem carriage_not_mem_safeHeaderValue (value : Option String) :
    '\r' ∉ (safeHeaderValue value).toList := by
  intro member
  have kept := (toList_trim_sublist _).subset member
  rw [String.toList_ofList] at kept
  obtain ⟨character, -, cleaned⟩ := List.mem_map.mp kept
  split_ifs at cleaned with control
  · cases cleaned
  · rw [cleaned] at control
    exact control (by decide)

def crlf : List Char := ['\r', '\n']

/-- The value of a field as it is and the clean one are followed by the same rest, if the
clean one has no less to be seen and the rest behind it can be seen at once. -/
theorem rest_of_values {raw clean rest rest' : List Char} {first : Char}
    (same : raw ++ (crlf ++ rest) = clean ++ (crlf ++ first :: rest'))
    (single : '\r' ∉ clean) (less : ink raw ≤ ink clean) (seen : isVisible first) :
    rest = first :: rest' := by
  rcases List.append_eq_append_iff.mp same with ⟨more, longer, ends⟩ | ⟨more, longer, ends⟩
  · -- The clean value cannot reach into the end of the line.
    cases more with
    | nil => exact List.append_cancel_left ends
    | cons head more =>
        injection ends with head_eq
        rw [longer, ← head_eq] at single
        exact absurd (List.mem_append_right _ List.mem_cons_self) single
  · rw [longer, ink_append] at less
    have unseen : ink more = 0 := by omega
    match more, ends with
    | [], ends => exact (List.append_cancel_left ends).symm
    | [_], ends =>
        injection ends with _ ends
        injection ends with newline
        exact absurd newline (by decide)
    | _ :: _ :: [], ends =>
        injection ends with _ ends
        injection ends with _ ends
        injection ends with carriage
        rw [carriage] at seen
        exact absurd seen (by decide)
    | _ :: _ :: third :: _, ends =>
        injection ends with _ ends
        injection ends with _ ends
        injection ends with third_eq
        rw [ink, List.countP_eq_zero] at unseen
        have hidden := unseen third (by simp)
        rw [third_eq] at seen
        exact absurd seen hidden

@[irreducible] def line (header : String × Option String) : List Char :=
  ((headerLine header).getD "").toList

@[irreducible] def field (name value : String) (rest : List Char) : List Char :=
  name.toList ++ (": ".toList ++ (value.toList ++ (crlf ++ rest)))

theorem line_eq (name : String) (value : Option String) (rest : List Char) :
    line (name, value) ++ rest = rest ∨
      ∃ text, value = some text ∧ line (name, value) ++ rest = field name text rest := by
  cases value with
  | none =>
      left
      rw [line, headerLine]
      rfl
  | some text =>
      by_cases empty : text = ""
      · left
        simp [line, headerLine, empty]
      · right
        refine ⟨text, rfl, ?_⟩
        simp [line, headerLine, empty, field, String.toList_append, crlf]

@[irreducible] def lines (headers : List (String × Option String)) (rest : List Char) : List Char :=
  headers.flatMap line ++ (crlf ++ rest)

theorem lines_cons (header : String × Option String)
    (headers : List (String × Option String)) (rest : List Char) :
    lines (header :: headers) rest = line header ++ lines headers rest := by
  rw [lines, lines, List.flatMap_cons, List.append_assoc]

theorem toList_renderHeaders (headers : List (String × Option String)) (rest : String) :
    (renderHeaders headers ++ rest).toList = lines headers rest.toList := by
  induction headers with
  | nil => simp [renderHeaders, lines, crlf, String.toList_append]
  | cons header headers ih =>
      rw [lines_cons, ← ih, line]
      cases found : headerLine header with
      | none => simp [renderHeaders, found]
      | some text => simp [renderHeaders, found, String.toList_append, String.append_assoc]

def heads (names : List String) : List (List Char) :=
  crlf :: names.map fun name => name.toList.take 2

/-- The names are no shorter than two characters, and the first one begins unlike the
others and unlike the empty line. -/
def Apart (name : String) (names : List String) : Prop :=
  (∀ other ∈ name :: names, 2 ≤ other.toList.length) ∧ name.toList.take 2 ∉ heads names

instance (name : String) (names : List String) : Decidable (Apart name names) :=
  inferInstanceAs (Decidable (_ ∧ _))

theorem take_field {name : String} (long : 2 ≤ name.toList.length) (value : String)
    (rest : List Char) : (field name value rest).take 2 = name.toList.take 2 := by
  rw [field, List.take_append_of_le_length long]

theorem take_lines {headers : List (String × Option String)}
    (long : ∀ other ∈ headers.map Prod.fst, 2 ≤ other.toList.length) (rest : List Char) :
    (lines headers rest).take 2 ∈ heads (headers.map Prod.fst) := by
  induction headers with
  | nil =>
      rw [lines]
      exact List.mem_cons_self
  | cons header headers ih =>
      have further := ih fun other member => long other (List.mem_cons_of_mem _ member)
      rw [lines_cons]
      rcases line_eq header.1 header.2 (lines headers rest) with absent | ⟨text, -, present⟩
      · rw [absent]
        rcases List.mem_cons.mp further with ends | later
        · exact List.mem_cons.mpr (Or.inl ends)
        · exact List.mem_cons_of_mem _ (List.mem_cons_of_mem _ later)
      · rw [present, take_field (long header.1 List.mem_cons_self)]
        exact List.mem_cons_of_mem _ List.mem_cons_self

theorem skip_line {name value other : String} {header : Option String}
    {headers : List (String × Option String)} {rest text : List Char}
    (same : lines ((other, header) :: headers) rest = field name value text)
    (apart : Apart name [other]) : lines headers rest = field name value text := by
  rw [lines_cons] at same
  rcases line_eq other header (lines headers rest) with absent | ⟨printed, -, present⟩
  · rw [← same]
    exact absent.symm
  · have begins := congrArg (List.take 2) same
    rw [present, take_field (apart.1 other (by simp)), take_field (apart.1 name (by simp))]
      at begins
    exact absurd begins.symm fun same => apart.2 (by simp [heads, same])

theorem strip_line {name value : String} {header : Option String}
    {headers : List (String × Option String)} {rest text : List Char}
    (same : lines ((name, header) :: headers) rest = field name value text)
    (apart : Apart name (headers.map Prod.fst)) :
    ∃ printed, header = some printed ∧
      printed.toList ++ (crlf ++ lines headers rest) = value.toList ++ (crlf ++ text) := by
  rw [lines_cons] at same
  rcases line_eq name header (lines headers rest) with absent | ⟨printed, found, present⟩
  · have begins := take_lines
      (fun other member => apart.1 other (List.mem_cons_of_mem _ member)) rest
    rw [← absent, same, take_field (apart.1 name List.mem_cons_self)] at begins
    exact absurd begins apart.2
  · rw [present, field, field] at same
    exact ⟨printed, found, List.append_cancel_left (List.append_cancel_left same)⟩

theorem toList_field (name value rest : String) :
    (name ++ (": " ++ (value ++ ("\r\n" ++ rest)))).toList = field name value rest.toList := by
  have ends : "\r\n".toList = crlf := by decide
  rw [field, ← ends, ← String.toList_append, ← String.toList_append, ← String.toList_append,
    ← String.toList_append]

theorem append_split {whole front back : String} (split : whole = front ++ back)
    (rest : String) : whole ++ rest = front ++ (back ++ rest) := by
  rw [split, String.append_assoc]

theorem toList_commonHeaders (message : FullMessage) (rest : String) :
    (commonHeaders message ++ rest).toList =
      field "From" (safeHeaderValue message.fromAddress)
        (field "To" (safeHeaderValue message.toAddress)
          (field "Subject" (safeHeaderValue message.subject)
            (field "Date" message.date
              (field "Message-ID" ("<" ++ safeHeaderValue message.messageId ++ ">")
                (field "MIME-Version" "1.0" rest.toList))))) := by
  have sender := append_split (by decide : "From: " = "From" ++ ": ")
  have receiver := append_split (by decide : "To: " = "To" ++ ": ")
  have subject := append_split (by decide : "Subject: " = "Subject" ++ ": ")
  have date := append_split (by decide : "Date: " = "Date" ++ ": ")
  have messageId := append_split (by decide : "Message-ID: <" = "Message-ID: " ++ "<")
  have messageId' := append_split (by decide : "Message-ID: " = "Message-ID" ++ ": ")
  have closing := append_split (by decide : ">\r\n" = ">" ++ "\r\n")
  have version := append_split
    (by decide : "MIME-Version: 1.0\r\n" = "MIME-Version: " ++ "1.0\r\n")
  have version' := append_split (by decide : "MIME-Version: " = "MIME-Version" ++ ": ")
  have one := append_split (by decide : "1.0\r\n" = "1.0" ++ "\r\n")
  have enclosed : ∀ rest, "<" ++ (safeHeaderValue message.messageId ++ (">" ++ rest)) =
      ("<" ++ (safeHeaderValue message.messageId ++ ">")) ++ rest := by
    intro rest
    rw [String.append_assoc, String.append_assoc]
  unfold commonHeaders
  simp only [String.append_assoc]
  rw [sender, receiver, subject, date, messageId, messageId', closing, version, version',
    one, enclosed, toList_field, toList_field, toList_field, toList_field, toList_field,
    toList_field]

/-- The first character of the name can be seen. -/
def Begins (name : String) : Prop :=
  ∃ first ∈ name.toList.head?, isVisible first

instance (name : String) : Decidable (Begins name) :=
  @Option.decidableExistsMem _ _ _ name.toList.head?

theorem rest_of_field {raw clean rest text : List Char} {name value : String}
    (same : raw ++ (crlf ++ rest) = clean ++ (crlf ++ field name value text))
    (single : '\r' ∉ clean) (less : ink raw ≤ ink clean) (begins : Begins name) :
    rest = field name value text := by
  obtain ⟨first, found, seen⟩ := begins
  obtain ⟨others, shape⟩ := List.head?_eq_some_iff.mp found
  rw [field, shape, List.cons_append] at same ⊢
  exact rest_of_values same single less seen

theorem rest_of_safe {value : Option String} {printed name next : String}
    {rest text : List Char} (found : value = some printed)
    (same : printed.toList ++ (crlf ++ rest) =
      (safeHeaderValue value).toList ++ (crlf ++ field name next text))
    (begins : Begins name) : rest = field name next text := by
  apply rest_of_field same (carriage_not_mem_safeHeaderValue value) _ begins
  rw [ink_safeHeaderValue, found, Option.getD_some]

theorem ink_formatMessageIdHeader {value : Option String} {printed : String}
    (found : formatMessageIdHeader value = some printed) :
    ink printed.toList ≤ ink ("<" ++ safeHeaderValue value ++ ">").toList := by
  have safe := ink_safeHeaderValue value
  have trimmed := ink_trim (value.getD "")
  have wrapped : ∀ text : String, ink ("<" ++ text ++ ">").toList = ink text.toList + 2 := by
    intro text
    have opening : ink "<".toList = 1 := by decide
    have closing : ink ">".toList = 1 := by decide
    rw [String.toList_append, String.toList_append, ink_append, ink_append, opening, closing]
    omega
  rw [wrapped, safe]
  unfold formatMessageIdHeader at found
  split at found
  · cases found
  · split_ifs at found
    · injection found with found
      rw [← found, trimmed]
      omega
    · injection found with found
      rw [← found, wrapped, trimmed]

theorem carriage_not_mem_messageId (value : Option String) :
    '\r' ∉ ("<" ++ safeHeaderValue value ++ ">").toList := by
  have clean := carriage_not_mem_safeHeaderValue value
  simp [String.toList_append, clean]

def contentHeaders : List (String × Option String) :=
  [("Content-Type", some "text/plain; charset=\"UTF-8\""),
    ("Content-Transfer-Encoding", some "8bit")]

def headerNames : List String :=
  ["From", "To", "Cc", "Bcc", "Subject", "Date", "Message-ID", "In-Reply-To", "References",
    "MIME-Version", "Content-Type", "Content-Transfer-Encoding"]

/-- If a text begins with the header section and also as the whole message does, the rest
of the header section comes right behind the common header lines. -/
theorem contentHeaders_of_whole {message : FullMessage} {text rest : String}
    (whole : commonHeaders message ++ rest = buildFullHeaders message ++ text) :
    rest.toList = lines contentHeaders text.toList := by
  have same := congrArg String.toList whole.symm
  rw [toList_commonHeaders, buildFullHeaders, toList_renderHeaders, allMessageHeaders] at same
  obtain ⟨sender, hasFrom, same⟩ := strip_line same
    (by change Apart _ (headerNames.drop 1); decide)
  have same := rest_of_safe hasFrom same (by decide)
  obtain ⟨receiver, hasTo, same⟩ := strip_line same
    (by change Apart _ (headerNames.drop 2); decide)
  have same := rest_of_safe hasTo same (by decide)
  have same := skip_line same (by decide)
  have same := skip_line same (by decide)
  obtain ⟨subject, hasSubject, same⟩ := strip_line same
    (by change Apart _ (headerNames.drop 5); decide)
  have same := rest_of_safe hasSubject same (by decide)
  obtain ⟨date, hasDate, same⟩ := strip_line same
    (by change Apart _ (headerNames.drop 6); decide)
  injection hasDate with hasDate
  rw [hasDate] at same
  have same := List.append_cancel_left (List.append_cancel_left same)
  obtain ⟨messageId, hasMessageId, same⟩ := strip_line same
    (by change Apart _ (headerNames.drop 7); decide)
  have same := rest_of_field same (carriage_not_mem_messageId message.messageId)
    (ink_formatMessageIdHeader hasMessageId) (by decide)
  have same := skip_line same (by decide)
  have same := skip_line same (by decide)
  obtain ⟨version, hasVersion, same⟩ := strip_line same
    (by change Apart _ (headerNames.drop 10); decide)
  injection hasVersion with hasVersion
  rw [← hasVersion] at same
  have same := List.append_cancel_left (List.append_cancel_left same)
  exact same.symm

theorem renderHeaders_contentHeaders : renderHeaders contentHeaders = mimeHeaders := by
  decide

theorem textPart_plain (body : String) :
    textPart "plain" body = mimeHeaders ++ (encodeAs8bit body ++ "\r\n") := by
  have head : "Content-Type: text/" ++ "plain" ++ "; charset=\"UTF-8\"\r\n" ++
      "Content-Transfer-Encoding: 8bit\r\n" ++ "\r\n" = mimeHeaders := by decide
  unfold textPart
  rw [head, String.append_assoc]

theorem textPart_html (body : String) :
    textPart "html" body = "Content-Type: text/" ++ "html" ++
      ("; charset=\"UTF-8\"\r\n" ++ ("Content-Transfer-Encoding: 8bit\r\n" ++
        ("\r\n" ++ (encodeAs8bit body ++ "\r\n")))) := by
  unfold textPart
  rw [String.append_assoc, String.append_assoc, String.append_assoc, String.append_assoc]

theorem multipartHeader_append (subtype boundary rest : String) :
    multipartHeader subtype boundary ++ rest = "Content-Type: multipart/" ++
      (subtype ++ ("; boundary=\"" ++ (boundary ++ ("\"\r\n\r\n" ++ rest)))) := by
  unfold multipartHeader
  rw [String.append_assoc, String.append_assoc, String.append_assoc, String.append_assoc]

theorem ne_of_heads {first second : String} (count : Nat)
    (heads : first.toList.take count ≠ second.toList.take count)
    (long : count ≤ first.toList.length ∧ count ≤ second.toList.length) (rest rest' : String) :
    first ++ rest ≠ second ++ rest' := by
  intro same
  have begins := congrArg (List.take count) (congrArg String.toList same)
  rw [String.toList_append, String.toList_append, List.take_append_of_le_length long.1,
    List.take_append_of_le_length long.2] at begins
  exact heads begins

theorem messageRest_cases (draw : Draw) (message : FullMessage) :
    (∃ behind, messageRest draw message = "Content-Type: multipart/" ++ behind) ∨
      (∃ behind, messageRest draw message = "Content-Type: text/" ++ "html" ++ behind) ∨
        messageRest draw message = textPart "plain" message.body := by
  unfold messageRest
  by_cases attached : message.withAttachments
  · left
    rw [if_pos attached]
    unfold mixedMessage
    simp only [multipartHeader_append, String.append_assoc]
    exact ⟨_, Eq.refl _⟩
  · rewrite [if_neg attached, FullMessage.body]
    cases message.textBody with
    | none =>
        cases message.htmlBody with
        | none => exact Or.inr (Or.inr (Eq.refl _))
        | some htmlBody =>
            right
            left
            exact ⟨_, textPart_html htmlBody⟩
    | some textBody =>
        cases message.htmlBody with
        | none => exact Or.inr (Or.inr (Eq.refl _))
        | some htmlBody =>
            left
            exact ⟨_, multipartHeader_append _ _ _⟩

theorem whole_ne (draw : Draw) (message : FullMessage) :
    buildRfc822Message draw message ≠ buildFullHeaders message ++ buildBodyText message := by
  intro whole
  have behind := contentHeaders_of_whole whole
  rw [← toList_renderHeaders, renderHeaders_contentHeaders] at behind
  have behind := String.toList_inj.mp behind
  rcases messageRest_cases draw message with ⟨rest, shape⟩ | ⟨rest, shape⟩ | shape
  · rw [shape] at behind
    exact ne_of_heads 15 (by decide) (by decide) _ _ behind
  · rw [shape] at behind
    exact ne_of_heads 20 (by decide) (by decide) _ _ behind
  · rewrite [shape, textPart_plain] at behind
    have longer := congrArg String.length behind
    rewrite [buildBodyText, String.length_append, String.length_append, String.length_append]
      at longer
    have ends : "\r\n".length = 2 := by decide
    omega

theorem maybeSliceLiteral_some (content : Bytes) (start length : Nat) :
    (maybeSliceLiteral content (some (start, length))).1 =
      (content.drop start).take length := by
  rw [maybeSliceLiteral]
  split_ifs with behind
  · rw [List.drop_eq_nil_of_le behind, List.take_nil]
  · rw [List.take_eq_take_iff, List.length_drop]
    omega

theorem slices_concatenate (content : Bytes) (length count : Nat) :
    ((List.range count).flatMap fun number =>
      (maybeSliceLiteral content (some (number * length, length))).1) =
        content.take (count * length) := by
  induction count with
  | zero => rw [List.range_zero, List.flatMap_nil, Nat.zero_mul, List.take_zero]
  | succ count ih =>
      rw [List.range_succ, List.flatMap_append, ih, List.flatMap_cons, List.flatMap_nil,
        List.append_nil, maybeSliceLiteral_some, Nat.succ_mul, List.take_add]

def FetchAnswer.content : FetchAnswer → Option Bytes
  | .literal _ content _ => some content
  | _ => none

def fetched (draw : Draw) (message : FullMessage) (item : String) : Option Bytes :=
  (buildFetchItem draw message item).bind FetchAnswer.content

def bodySection (draw : Draw) (message : FullMessage) (sectionText : String)
    (range : Option (Nat × Nat)) : Option Bytes :=
  (buildBodySectionResponse draw message sectionText range).bind FetchAnswer.content

/-- The item of a body part, such as `BODY[1.2]`. -/
def partItem (path : List Nat) : String :=
  "BODY[" ++ ".".intercalate (path.map Nat.repr) ++ "]"

structure SectionsFit (message : FullMessage) : Prop where
  whole : ∀ one two three : Draw, ∃ header text,
    fetched two message "BODY[HEADER]" = some header ∧
      fetched three message "BODY[TEXT]" = some text ∧
        fetched one message "BODY[]" = some (header ++ text)
  slices : ∀ (sectionText : String) (one : Draw) (others : Nat → Draw) (content : Bytes)
    (length count : Nat), bodySection one message sectionText none = some content →
      0 < length → content.length ≤ count * length →
        ((List.range count).flatMap fun number =>
          (bodySection (others number) message sectionText
            (some (number * length, length))).getD []) = content
  size : ∀ one two : Draw, ∃ content, fetched two message "BODY[]" = some content ∧
    buildFetchItem one message "RFC822.SIZE" = some (.size content.length)
  parts : ∀ one : Draw, ∀ part ∈ (buildBodystructure message).partSizes,
    ∃ content, fetched one message (partItem part.1) = some content ∧
      content.length = part.2

theorem bind_content_literalOf (name text : String) (range : Option (Nat × Nat)) :
    (some (literalOf name text range)).bind FetchAnswer.content =
      (some text).map fun text => (maybeSliceLiteral (utf8 text) range).1 := rfl

theorem bodySection_eq (message : FullMessage) {sectionText : String}
    (proper : sectionText ≠ "") :
    ∃ source : Option String, ∀ draw range,
      bodySection draw message sectionText range =
        source.map fun text => (maybeSliceLiteral (utf8 text) range).1 := by
  unfold bodySection buildBodySectionResponse
  simp only [if_neg proper]
  split_ifs
  · exact ⟨_, fun _ _ => bind_content_literalOf _ _ _⟩
  · exact ⟨_, fun _ _ => bind_content_literalOf _ _ _⟩
  · exact ⟨_, fun _ _ => bind_content_literalOf _ _ _⟩
  · exact ⟨_, fun _ _ => bind_content_literalOf _ _ _⟩
  · exact ⟨_, fun _ _ => bind_content_literalOf _ _ _⟩
  · exact ⟨_, fun _ _ => bind_content_literalOf _ _ _⟩
  · exact ⟨none, fun _ _ => rfl⟩

/-- The slices of every section but the whole message fit, across all commands. -/
theorem slices_of_section (message : FullMessage) {sectionText : String}
    (proper : sectionText ≠ "") (one : Draw) (others : Nat → Draw) {content : Bytes}
    {length count : Nat} (answered : bodySection one message sectionText none = some content)
    (enough : content.length ≤ count * length) :
    ((List.range count).flatMap fun number =>
      (bodySection (others number) message sectionText
        (some (number * length, length))).getD []) = content := by
  obtain ⟨source, cut⟩ := bodySection_eq message proper
  rw [cut] at answered
  obtain ⟨text, found, same⟩ := Option.map_eq_some_iff.mp answered
  have same : utf8 text = content := same
  simp only [cut, found, Option.map_some, Option.getD_some, same]
  rw [slices_concatenate, List.take_of_length_le enough]

theorem buildFetchItem_section {item sectionText : String} {range : Option (Nat × Nat)}
    (parsed : parseBodyItem (upcase (trim item)) = some (sectionText, range))
    (other : upcase (trim item) ∉ ["RFC822", "RFC822.SIZE", "RFC822.HEADER", "RFC822.TEXT",
      "BODYSTRUCTURE", "BODY"])
    (draw : Draw) (message : FullMessage) :
    buildFetchItem draw message item =
      buildBodySectionResponse draw message sectionText range := by
  simp only [List.mem_cons, List.not_mem_nil, or_false, not_or] at other
  obtain ⟨whole, size, header, text, structure', body⟩ := other
  rw [buildFetchItem, if_neg whole, if_neg size, if_neg header, if_neg text,
    if_neg structure', if_neg body, parsed]

theorem fetched_whole (draw : Draw) (message : FullMessage) :
    fetched draw message "BODY[]" = some (utf8 (buildRfc822Message draw message)) := by
  rw [fetched, @buildFetchItem_section _ "" none (by decide) (by decide)]
  rfl

theorem fetched_header (draw : Draw) (message : FullMessage) :
    fetched draw message "BODY[HEADER]" = some (utf8 (buildFullHeaders message)) := by
  rw [fetched, @buildFetchItem_section _ "HEADER" none (by decide) (by decide)]
  rfl

theorem fetched_text (draw : Draw) (message : FullMessage) :
    fetched draw message "BODY[TEXT]" = some (utf8 (buildBodyText message)) := by
  rw [fetched, @buildFetchItem_section _ "TEXT" none (by decide) (by decide)]
  rfl

theorem SectionsFit.whole_text {message : FullMessage} (fit : SectionsFit message)
    (draw : Draw) :
    buildRfc822Message draw message = buildFullHeaders message ++ buildBodyText message := by
  obtain ⟨header, text, headerIs, textIs, whole⟩ := fit.whole draw draw draw
  rw [fetched_header] at headerIs
  rw [fetched_text] at textIs
  rw [fetched_whole] at whole
  injection headerIs with headerIs
  injection textIs with textIs
  injection whole with whole
  rw [← headerIs, ← textIs, ← utf8_append] at whole
  exact utf8_inj whole

/-- The sections of no message fit together: the message and its header section are built
apart, and where they agree the message ends with one more line end than its text. -/
theorem sections_never_fit (message : FullMessage) : ¬ SectionsFit message := by
  intro fit
  let draw : Draw := ⟨"", "", fun _ => none⟩
  exact whole_ne draw message (fit.whole_text draw)

def greeting : FullMessage where
  fromAddress := some "ann@example.com"
  toAddress := some "bob@example.com"
  cc := none
  bcc := none
  subject := some "Hello"
  messageId := some "1@example.com"
  inReplyTo := none
  references := none
  date := "Mon, 01 Jan 2024 00:00:00 +0000"
  textBody := some "Hi"
  htmlBody := none
  hasAttachments := false
  attachments := []

theorem slices_of_section_greeting :
    ((List.range 2).flatMap fun number =>
      (bodySection ⟨"", "", fun _ => none⟩ greeting "TEXT" (some (number * 1, 1))).getD []) =
      utf8 "Hi" := by
  have answered : bodySection ⟨"", "", fun _ => none⟩ greeting "TEXT" none = some (utf8 "Hi") := by
    decide
  exact slices_of_section greeting (by decide) _ _ answered (by decide)

/-- The text section of the greeting lacks the line end that the message ends with. -/
theorem not_sectionsFit_greeting : ¬ SectionsFit greeting := by
  intro fit
  have whole := fit.whole_text ⟨"", "", fun _ => none⟩
  revert whole
  decide +kernel

end Elektrine.IMAP
