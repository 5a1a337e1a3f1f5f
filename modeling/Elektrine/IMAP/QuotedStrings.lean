import Elektrine.IMAP.FetchItems
import Elektrine.IMAP.Session
import Mathlib.Data.List.Infix
import Mathlib.Data.List.TakeDrop

/-!
# Quoted strings

The quoted form in which `LIST` prints the names of folders, the quoted form that clients
write, and the argument parsers that read them.  Every parser has an expression of its own
for a quoted string; `none` stands for the arguments it refuses.
-/

namespace Elektrine.IMAP

def escapeImapString (text : String) : String :=
  let visible := text.toList.map fun character =>
    if isControl character then ' ' else character
  let slashed := visible.flatMap fun character =>
    if character = '\\' then ['\\', '\\'] else [character]
  String.ofList (slashed.flatMap fun character =>
    if character = '"' then ['\\', '"'] else [character])

/-- A folder name as `LIST` prints it. -/
def listForm (name : String) : String :=
  String.ofList ('"' :: (escapeImapString name).toList ++ ['"'])

def quotedCharacter (character : Char) : List Char :=
  if character = '"' ∨ character = '\\' then ['\\', character] else [character]

def quoted (characters : List Char) : List Char :=
  '"' :: (characters.flatMap quotedCharacter ++ ['"'])

def quotedForm (text : String) : String :=
  String.ofList (quoted text.toList)

def firstMatch {β : Type} (expression : List Char → Option β) : List Char → Option β
  | [] => expression []
  | character :: rest =>
      match expression (character :: rest) with
      | some found => some found
      | none => firstMatch expression rest

def upTo (delimiter : Char) : List Char → Option (List Char × List Char)
  | [] => none
  | character :: rest =>
      if character = delimiter then some ([], rest)
      else (upTo delimiter rest).map fun found => (character :: found.1, found.2)

/-- `"([^"]+)"`, with what is behind it. -/
def simpleQuoted : List Char → Option (List Char × List Char)
  | '"' :: rest => (upTo '"' rest).filter fun found => !found.1.isEmpty
  | _ => none

/-- `"([^"]+)"\s+"([^"]+)"`. -/
def twoSimpleQuoted (text : List Char) : Option (List Char × List Char) :=
  match simpleQuoted text with
  | some (first, character :: behind) =>
      if isSpace character then
        (simpleQuoted (behind.dropWhile isSpace)).map fun second => (first, second.1)
      else none
  | _ => none

/-- `\s*\(([^)]+)\)\s*$`. -/
def statusItems (text : List Char) : Option (List Char) :=
  match text.dropWhile isSpace with
  | '(' :: rest =>
      ((upTo ')' rest).filter fun found =>
        !found.1.isEmpty && found.2.all isSpace).map Prod.fst
  | _ => none

/-- `([^\s]+)` and the items of a `STATUS` behind it: the longest word that leaves some. -/
def wordThenItems (text : List Char) : Option (List Char × List Char) :=
  let word := text.takeWhile fun character => !isSpace character
  (List.range word.length).reverse.findSome? fun place =>
    (statusItems (text.drop (place + 1))).map fun items => (text.take (place + 1), items)

def skipFlags : List Char → Option (List Char)
  | '(' :: rest => (upTo ')' rest).map Prod.snd
  | text => some text

def skipDate : List Char → Option (List Char)
  | '"' :: rest => (simpleQuoted ('"' :: rest)).map Prod.snd
  | text => some text

/-- `\+?\}`. -/
def closesLiteral : List Char → Bool
  | '\x7d' :: _ => true
  | '+' :: '\x7d' :: _ => true
  | _ => false

/-- `\{(\d+)\+?\}`. -/
def literalSize : List Char → Option (List Char)
  | '\x7b' :: rest =>
      let digits := rest.takeWhile Char.isDigit
      if digits ≠ [] ∧ closesLiteral (rest.dropWhile Char.isDigit) then some digits else none
  | _ => none

/-- The expression of `APPEND`: a quoted name, flags and a date where given, the size of the
literal. -/
def appendExpression (text : List Char) : Option (List Char × List Char) :=
  match simpleQuoted text with
  | none => none
  | some (folder, behind) =>
      (skipFlags (behind.dropWhile isSpace)).bind fun dated =>
        (skipDate (dated.dropWhile isSpace)).bind fun rest =>
          (literalSize (rest.dropWhile isSpace)).map fun digits => (folder, digits)

/-- The strings of a `LOGIN`, each quoted with its backslashes or a word.  Every one takes a
character at least, so that the length of the text is fuel enough. -/
def scanStrings : Nat → List Char → List (List Char)
  | 0, _ => []
  | _ + 1, [] => []
  | fuel + 1, character :: rest =>
      let word := (character :: rest).takeWhile fun other => !isSpace other
      let behind := (character :: rest).dropWhile fun other => !isSpace other
      if isSpace character then scanStrings fuel rest
      else if character = '"' then
        match quotedBody rest with
        | some body => body :: scanStrings fuel (rest.drop (body.length + 1))
        | none => word :: scanStrings fuel behind
      else word :: scanStrings fuel behind

def parseLoginArgs : Option String → Option (String × String)
  | none => none
  | some args =>
      match scanStrings args.toList.length args.toList with
      | [username, password] => some (String.ofList username, String.ofList password)
      | _ => splitFirst args

def parseStatusArgs : Option String → Option (String × List String)
  | none => none
  | some args =>
      let text := args.toList.dropWhile isSpace
      let quotedFolder := (simpleQuoted text).bind fun found =>
        (statusItems found.2).map fun items => (found.1, items)
      (quotedFolder.orElse fun _ => wordThenItems text).map fun found =>
        (String.ofList found.1, splitAll ' ' (String.ofList found.2))

/-- `String.split(text, ~r/\s+/, parts: 2)` where there are two parts. -/
def splitAtSpaces (text : String) : Option (String × String) :=
  match text.toList.span fun character => !isSpace character with
  | (_, []) => none
  | (front, back) =>
      some (String.ofList front, String.ofList (back.dropWhile isSpace))

def parseRenameArguments (args : Option String) : Option (String × String) :=
  let trimmed := trim (args.getD "")
  match firstMatch twoSimpleQuoted trimmed.toList with
  | some (oldName, newName) =>
      some (trim (String.ofList oldName), trim (String.ofList newName))
  | none =>
      (splitAtSpaces trimmed).map fun names =>
        (trimCharacter '"' names.1, trimCharacter '"' names.2)

/-- The parsed arguments of an `APPEND`. -/
structure AppendArgs where
  folder : String
  flags : List String
  size : Int
  literalPlus : Bool
  deriving DecidableEq

def parseAppendArgs (args : Option String) : Option AppendArgs :=
  let text := (args.getD "").toList
  match firstMatch appendExpression text with
  | none => none
  | some (folder, digits) =>
      (integerParseExact (String.ofList digits)).map fun size =>
        { folder := String.ofList folder, flags := [], size,
          literalPlus := decide (['+', '\x7d'] <:+: text) }

/-- A form in which a folder name is written: the printed one, or the prescribed one where
the name has no line break. -/
inductive WrittenAs (name : String) : String → Prop
  | printed : WrittenAs name (listForm name)
  | prescribed (one_line : '\r' ∉ name.toList ∧ '\n' ∉ name.toList) :
      WrittenAs name (quotedForm name)

/-- What stands behind the name in the arguments of `APPEND`. -/
structure AppendRest where
  flags : Option (List Char)
  flags_closed : ∀ names, flags = some names → ')' ∉ names
  date : Option (List Char)
  date_quoted : ∀ day, date = some day → day ≠ [] ∧ '"' ∉ day
  size : Nat
  plus : Bool

namespace AppendRest

def flagsText (rest : AppendRest) : List Char :=
  match rest.flags with
  | none => []
  | some names => ' ' :: '(' :: (names ++ [')'])

def dateText (rest : AppendRest) : List Char :=
  match rest.date with
  | none => []
  | some day => ' ' :: '"' :: (day ++ ['"'])

def sizeText (rest : AppendRest) : List Char :=
  ' ' :: '\x7b' :: (rest.size.repr.toList ++
    if rest.plus then ['+', '\x7d'] else ['\x7d'])

def text (rest : AppendRest) : List Char :=
  rest.flagsText ++ (rest.dateText ++ rest.sizeText)

end AppendRest

structure ReadBack (name form : String) : Prop where
  selected : parseMailboxArg (some form) = some name
  created : parseFolderNameArgument (some form) = some name
  status : ∀ items : List Char, items ≠ [] → ')' ∉ items →
    parseStatusArgs (some (String.ofList (form.toList ++ ' ' :: '(' :: (items ++ [')'])))) =
      some (name, splitAll ' ' (String.ofList items))
  copied : ∀ set : List Char, ' ' ∉ set →
    parseCopyArgs (some (String.ofList (set ++ ' ' :: form.toList))) =
      some (String.ofList set, name)
  appended : ∀ rest : AppendRest,
    (parseAppendArgs (some (String.ofList (form.toList ++ rest.text)))).map
      AppendArgs.folder = some name

structure StringsSurvive (oldName newName username password : String) : Prop where
  old_read : ∀ form, WrittenAs oldName form → ReadBack oldName form
  new_read : ∀ form, WrittenAs newName form → ReadBack newName form
  renamed : ∀ oldForm newForm, WrittenAs oldName oldForm → WrittenAs newName newForm →
    parseRenameArguments (some (String.ofList (oldForm.toList ++ ' ' :: newForm.toList))) =
      some (oldName, newName)
  logged_in :
    parseLoginArgs (some (String.ofList
      ((quotedForm username).toList ++ ' ' :: (quotedForm password).toList))) =
      some (username, password)

/-- A text without the characters that are escaped. -/
def Unescaped (text : String) : Prop :=
  '"' ∉ text.toList ∧ '\\' ∉ text.toList

structure PlainName (name : String) : Prop where
  unescaped : Unescaped name
  visible : ∀ character ∈ name.toList, isControl character = false
  nonempty : name ≠ ""
  trimmed : trim name = name

@[simp] theorem toList_quotedForm (text : String) :
    (quotedForm text).toList = quoted text.toList :=
  String.toList_ofList

theorem quotedCharacter_of_plain {character : Char} (no_quote : character ≠ '"')
    (no_slash : character ≠ '\\') : quotedCharacter character = [character] := by
  rw [quotedCharacter, if_neg]
  intro special
  rcases special with same | same
  · exact no_quote same
  · exact no_slash same

theorem toList_escapeImapString (text : String) :
    (escapeImapString text).toList =
      (text.toList.map fun character =>
        if isControl character then ' ' else character).flatMap quotedCharacter := by
  rw [escapeImapString, String.toList_ofList, List.flatMap_assoc]
  congr 1
  funext character
  by_cases slash : character = '\\'
  · rw [slash]
    rfl
  · by_cases quote : character = '"'
    · rw [quote]
      rfl
    · rw [if_neg slash, List.flatMap_singleton, if_neg quote,
        quotedCharacter_of_plain quote slash]

theorem toList_listForm (name : String) :
    (listForm name).toList =
      quoted (name.toList.map fun character =>
        if isControl character then ' ' else character) := by
  rw [listForm, String.toList_ofList, toList_escapeImapString]
  rfl

theorem listForm_eq_quotedForm {name : String}
    (visible : ∀ character ∈ name.toList, isControl character = false) :
    listForm name = quotedForm name := by
  apply String.toList_inj.mp
  have same : (name.toList.map fun character =>
      if isControl character then ' ' else character) = name.toList := by
    conv_rhs => rw [← List.map_id name.toList]
    apply List.map_congr_left
    intro character member
    rw [visible character member]
    rfl
  rw [toList_listForm, toList_quotedForm, same]

theorem flatMap_quotedCharacter {characters : List Char}
    (plain : '"' ∉ characters ∧ '\\' ∉ characters) :
    characters.flatMap quotedCharacter = characters := by
  induction characters with
  | nil => rfl
  | cons character characters ih =>
      obtain ⟨no_quote, no_slash⟩ := plain
      rw [List.mem_cons, not_or] at no_quote no_slash
      rw [List.flatMap_cons, ih ⟨no_quote.2, no_slash.2⟩,
        quotedCharacter_of_plain (Ne.symm no_quote.1) (Ne.symm no_slash.1)]
      rfl

theorem count_flatMap_quotedCharacter (characters : List Char) :
    (characters.flatMap quotedCharacter).count '\\' =
      2 * characters.count '\\' + characters.count '"' := by
  induction characters with
  | nil => rfl
  | cons character characters ih =>
      rw [List.flatMap_cons, List.count_append, ih, List.count_cons, List.count_cons]
      by_cases slash : character = '\\'
      · rw [slash]
        have two : (quotedCharacter '\\').count '\\' = 2 := by decide
        simp [two]
        omega
      · by_cases quote : character = '"'
        · rw [quote]
          have one : (quotedCharacter '"').count '\\' = 1 := by decide
          simp [one]
          omega
        · have none : (quotedCharacter character).count '\\' = 0 := by
            rw [quotedCharacter_of_plain quote slash]
            simp [slash]
          simp [none, slash, quote]

theorem unescaped_of_count {text : String}
    (same : (text.toList.flatMap quotedCharacter).count '\\' = text.toList.count '\\') :
    Unescaped text := by
  rw [count_flatMap_quotedCharacter] at same
  constructor
  · apply List.count_eq_zero.mp
    omega
  · apply List.count_eq_zero.mp
    omega

theorem solid_quote : Solid ['"'] :=
  ⟨List.cons_ne_nil _ _, rfl, rfl⟩

theorem trim_of_quotes {text : String} {front : List Char}
    (split : text.toList = '"' :: (front ++ ['"'])) : trim text = text := by
  apply String.toList_inj.mp
  rw [← List.cons_append] at split
  rw [toList_trim_append split solid_quote, split]
  rfl

theorem trim_quotedForm (text : String) : trim (quotedForm text) = quotedForm text :=
  trim_of_quotes (toList_quotedForm text)

theorem quotedBody_plain {character : Char} (no_quote : character ≠ '"')
    (no_slash : character ≠ '\\') (rest : List Char) :
    quotedBody (character :: rest) = (quotedBody rest).map (character :: ·) := by
  rw [quotedBody]
  · intro same
    exact no_quote same
  · intro rest' same
    exact absurd same no_slash
  · intro other rest' same
    exact absurd same no_slash
  · intro same
    exact absurd same no_slash

theorem quotedBody_quoted (characters behind : List Char) :
    quotedBody (characters.flatMap quotedCharacter ++ '"' :: behind) =
      some (characters.flatMap quotedCharacter) := by
  induction characters with
  | nil => rfl
  | cons character characters ih =>
      rw [List.flatMap_cons, List.append_assoc]
      by_cases quote : character = '"'
      · rw [quote]
        change (quotedBody (characters.flatMap quotedCharacter ++ '"' :: behind)).map
          (fun body => '\\' :: '"' :: body) = _
        rw [ih]
        rfl
      · by_cases slash : character = '\\'
        · rw [slash]
          change (quotedBody (characters.flatMap quotedCharacter ++ '"' :: behind)).map
            (fun body => '\\' :: '\\' :: body) = _
          rw [ih]
          rfl
        · rw [quotedCharacter_of_plain quote slash, List.singleton_append,
            quotedBody_plain quote slash, ih]
          rfl

theorem unescape_quote_quoted (characters : List Char) :
    unescape '"' (characters.flatMap quotedCharacter) =
      characters.flatMap fun character =>
        if character = '\\' then ['\\', '\\'] else [character] := by
  have skip : ∀ (character : Char) (rest : List Char), character ≠ '\\' ∨ rest.head? ≠ some '"' →
      unescape '"' (character :: rest) = character :: unescape '"' rest := by
    intro character rest apart
    cases rest with
    | nil => rfl
    | cons next rest =>
        rw [unescape, if_neg]
        intro pair
        rcases apart with no_slash | no_quote
        · exact no_slash pair.1
        · exact no_quote (congrArg some pair.2)
  have head : ∀ rest : List Char, (rest.flatMap quotedCharacter).head? ≠ some '"' := by
    intro rest
    cases rest with
    | nil => simp
    | cons character rest =>
        rw [List.flatMap_cons, quotedCharacter]
        split_ifs with special
        · simp
        · intro same
          exact special (Or.inl (Option.some.inj same))
  induction characters with
  | nil => rfl
  | cons character characters ih =>
      rw [List.flatMap_cons, List.flatMap_cons]
      by_cases quote : character = '"'
      · rw [quote]
        change '"' :: unescape '"' (characters.flatMap quotedCharacter) = _
        rw [ih]
        rfl
      · by_cases slash : character = '\\'
        · rw [slash]
          change unescape '"' ('\\' :: '\\' :: characters.flatMap quotedCharacter) = _
          rw [skip _ _ (Or.inr (by simp)), skip _ _ (Or.inr (head characters)), ih]
          rfl
        · rw [quotedCharacter_of_plain quote slash, List.singleton_append,
            skip _ _ (Or.inl slash), ih, if_neg slash]
          rfl

theorem unescape_slash_doubled (characters : List Char) :
    unescape '\\' (characters.flatMap fun character =>
      if character = '\\' then ['\\', '\\'] else [character]) = characters := by
  induction characters with
  | nil => rfl
  | cons character characters ih =>
      rw [List.flatMap_cons]
      by_cases slash : character = '\\'
      · rw [if_pos slash, slash]
        exact congrArg ('\\' :: ·) ih
      · rw [if_neg slash, List.singleton_append]
        cases rest : characters.flatMap fun character =>
            if character = '\\' then ['\\', '\\'] else [character] with
        | nil =>
            rw [rest] at ih
            rw [← ih]
            rfl
        | cons next others =>
            rw [rest] at ih
            rw [unescape, if_neg (fun pair => slash pair.1), ih]

theorem parseMailboxArg_quotedForm (text : String) :
    parseMailboxArg (some (quotedForm text)) = some text := by
  have body : quotedBody (text.toList.flatMap quotedCharacter ++ ['"']) =
      some (text.toList.flatMap quotedCharacter) := quotedBody_quoted text.toList []
  have read : parseMailboxArg (some (quotedForm text)) =
      (match quotedBody (text.toList.flatMap quotedCharacter ++ ['"']) with
      | some quoted => some (String.ofList (unescape '\\' (unescape '"' quoted)))
      | none =>
          some (trimCharacter '"'
            (String.ofList ((quoted text.toList).takeWhile fun character =>
              !isSpace character)))) := by
    rw [parseMailboxArg, Option.map_some, trim_quotedForm, toList_quotedForm]
    rfl
  rw [read, body]
  change some (String.ofList (unescape '\\' (unescape '"' _))) = _
  rw [unescape_quote_quoted, unescape_slash_doubled, String.ofList_toList]

theorem span_stops {keep : Char → Bool} {front back : List Char} {stop : Char}
    (kept : ∀ character ∈ front, keep character = true) (stops : keep stop = false) :
    (front ++ stop :: back).span keep = (front, stop :: back) := by
  rw [List.span_eq_takeWhile_dropWhile, List.takeWhile_append_of_pos kept,
    List.dropWhile_append_of_pos kept, List.takeWhile_cons_of_neg (by simp [stops]),
    List.dropWhile_cons_of_neg (by simp [stops]), List.append_nil]

theorem parseCopyArgs_form {set : List Char} (one_word : ' ' ∉ set) (form : List Char) :
    parseCopyArgs (some (String.ofList (set ++ ' ' :: form))) =
      some (String.ofList set, trimCharacter '"' (String.ofList form)) := by
  have split : splitFirst (String.ofList (set ++ ' ' :: form)) =
      some (String.ofList set, String.ofList form) := by
    rw [splitFirst, String.toList_ofList, span_stops _ rfl]
    intro character member
    rw [bne_iff_ne]
    intro same
    rw [same] at member
    exact one_word member
  rw [parseCopyArgs, Option.bind_some, split]

theorem count_dropWhile {drop : Char → Bool} {kept : Char} (keeps : drop kept = false)
    (characters : List Char) : (characters.dropWhile drop).count kept = characters.count kept := by
  induction characters with
  | nil => rfl
  | cons character characters ih =>
      cases dropped : drop character with
      | false => rw [List.dropWhile_cons_of_neg (by simp [dropped])]
      | true =>
          rw [List.dropWhile_cons_of_pos dropped, ih, List.count_cons_of_ne]
          intro same
          rw [same, keeps] at dropped
          cases dropped

theorem count_trimCharacter (text : String) :
    (trimCharacter '"' text).toList.count '\\' = text.toList.count '\\' := by
  rw [trimCharacter, String.toList_ofList, List.count_reverse, count_dropWhile (by decide),
    List.count_reverse, count_dropWhile (by decide)]

theorem trimCharacter_quotedForm {text : String} (plain : Unescaped text) :
    trimCharacter '"' (quotedForm text) = text := by
  apply String.toList_inj.mp
  have front : (quotedForm text).toList.dropWhile (· == '"') =
      (text.toList ++ ['"']).dropWhile (· == '"') := by
    rw [toList_quotedForm, quoted, flatMap_quotedCharacter plain]
    rfl
  have free : ∀ characters : List Char, '"' ∉ characters →
      characters.dropWhile (· == '"') = characters := by
    intro characters outside
    cases characters with
    | nil => rfl
    | cons character characters =>
        apply List.dropWhile_cons_of_neg
        intro same
        rw [beq_iff_eq.mp same] at outside
        exact outside List.mem_cons_self
  have outside : '"' ∉ text.toList.reverse := by
    rw [List.mem_reverse]
    exact plain.1
  rw [trimCharacter, String.toList_ofList, front]
  cases characters : text.toList with
  | nil => rfl
  | cons character rest =>
      have kept : (character :: rest ++ ['"']).dropWhile (· == '"') =
          character :: rest ++ ['"'] := by
        apply List.dropWhile_cons_of_neg
        intro same
        apply plain.1
        rw [characters, beq_iff_eq.mp same]
        exact List.mem_cons_self
      rw [kept, List.reverse_append, ← characters]
      change (text.toList.reverse.dropWhile (· == '"')).reverse = text.toList
      rw [free _ outside, List.reverse_reverse]

theorem upTo_stops {delimiter : Char} {front : List Char} (free : delimiter ∉ front)
    (behind : List Char) :
    upTo delimiter (front ++ delimiter :: behind) = some (front, behind) := by
  induction front with
  | nil => rw [List.nil_append, upTo, if_pos rfl]
  | cons character front ih =>
      rw [List.mem_cons, not_or] at free
      rw [List.cons_append, upTo, if_neg (Ne.symm free.1), ih free.2]
      rfl

theorem simpleQuoted_stops {body : List Char} (nonempty : body ≠ []) (free : '"' ∉ body)
    (behind : List Char) :
    simpleQuoted ('"' :: (body ++ '"' :: behind)) = some (body, behind) := by
  rw [simpleQuoted, upTo_stops free, Option.filter_some, if_pos]
  simpa using nonempty

theorem firstMatch_of_match {β : Type} {expression : List Char → Option β}
    {text : List Char} {found : β} (matched : expression text = some found) :
    firstMatch expression text = some found := by
  cases text with
  | nil => exact matched
  | cons character rest => rw [firstMatch, matched]

theorem quoted_of_unescaped {text : String} (plain : Unescaped text) (behind : List Char) :
    (quotedForm text).toList ++ behind = '"' :: (text.toList ++ '"' :: behind) := by
  rw [toList_quotedForm, quoted, flatMap_quotedCharacter plain, List.cons_append,
    List.append_assoc]
  rfl

theorem simpleQuoted_quotedForm {name : String} (plain : PlainName name)
    (behind : List Char) :
    simpleQuoted ((quotedForm name).toList ++ behind) = some (name.toList, behind) := by
  rw [quoted_of_unescaped plain.unescaped]
  exact simpleQuoted_stops (by simpa using plain.nonempty) plain.unescaped.1 behind

theorem quotedForm_ne_empty (text : String) : quotedForm text ≠ "" := by
  intro same
  have characters := congrArg String.toList same
  rw [toList_quotedForm] at characters
  cases characters

theorem firstQuoted_quotedForm {name : String} (plain : PlainName name) :
    firstQuoted (quotedForm name).toList = some name.toList := by
  have shape := quoted_of_unescaped plain.unescaped []
  rw [List.append_nil] at shape
  have kept : ∀ character ∈ name.toList, (character != '"') = true := by
    intro character member
    rw [bne_iff_ne]
    intro same
    rw [same] at member
    exact plain.unescaped.1 member
  rw [shape, firstQuoted, span_stops kept rfl]
  exact if_pos (by simpa using plain.nonempty)

theorem parseFolderNameArgument_quotedForm {name : String} (plain : PlainName name) :
    parseFolderNameArgument (some (quotedForm name)) = some name := by
  rw [parseFolderNameArgument, Option.getD_some, trim_quotedForm,
    if_neg (quotedForm_ne_empty name), firstQuoted_quotedForm plain]
  change some (trim (String.ofList name.toList)) = some name
  rw [String.ofList_toList, plain.trimmed]

theorem trim_of_parseFolderNameArgument {args : Option String} {name : String}
    (read : parseFolderNameArgument args = some name) : trim name = name := by
  rw [parseFolderNameArgument] at read
  split at read
  · cases read
  · split at read
    · rw [← Option.some.inj read, trim_trim]
    · rw [← Option.some.inj read, trim_trim]

theorem parseRenameArguments_quotedForms {oldName newName : String}
    (old_plain : PlainName oldName) (new_plain : PlainName newName) :
    parseRenameArguments (some (String.ofList
      ((quotedForm oldName).toList ++ ' ' :: (quotedForm newName).toList))) =
      some (oldName, newName) := by
  have ends : trim (String.ofList
      ((quotedForm oldName).toList ++ ' ' :: (quotedForm newName).toList)) =
      String.ofList ((quotedForm oldName).toList ++ ' ' :: (quotedForm newName).toList) := by
    apply @trim_of_quotes _ (oldName.toList.flatMap quotedCharacter ++
      '"' :: ' ' :: '"' :: newName.toList.flatMap quotedCharacter)
    rw [String.toList_ofList, toList_quotedForm, toList_quotedForm]
    simp [quoted]
  have matched : twoSimpleQuoted
      ((quotedForm oldName).toList ++ ' ' :: (quotedForm newName).toList) =
      some (oldName.toList, newName.toList) := by
    have second := simpleQuoted_quotedForm new_plain []
    rw [List.append_nil] at second
    have first : (quotedForm newName).toList.dropWhile isSpace =
        (quotedForm newName).toList := by
      rw [toList_quotedForm]
      rfl
    have space : isSpace ' ' = true := rfl
    rw [twoSimpleQuoted, simpleQuoted_quotedForm old_plain]
    simp only [space, first, second]
    rfl
  rw [parseRenameArguments, Option.getD_some, ends, String.toList_ofList,
    firstMatch_of_match matched]
  simp only [String.ofList_toList, old_plain.trimmed, new_plain.trimmed]

theorem statusItems_stops {items : List Char} (nonempty : items ≠ []) (free : ')' ∉ items) :
    statusItems (' ' :: '(' :: (items ++ [')'])) = some items := by
  change ((upTo ')' (items ++ [')'])).filter fun found =>
    !found.1.isEmpty && found.2.all isSpace).map Prod.fst = some items
  rw [upTo_stops free, Option.filter_some, if_pos]
  · rfl
  · simpa using nonempty

theorem parseStatusArgs_quotedForm {name : String} (plain : PlainName name)
    {items : List Char} (nonempty : items ≠ []) (free : ')' ∉ items) :
    parseStatusArgs (some (String.ofList
      ((quotedForm name).toList ++ ' ' :: '(' :: (items ++ [')'])))) =
      some (name, splitAll ' ' (String.ofList items)) := by
  have start : ((quotedForm name).toList ++ ' ' :: '(' :: (items ++ [')'])).dropWhile isSpace =
      (quotedForm name).toList ++ ' ' :: '(' :: (items ++ [')']) := by
    rw [toList_quotedForm]
    rfl
  rw [parseStatusArgs]
  simp only [String.toList_ofList, start, simpleQuoted_quotedForm plain, Option.bind_some,
    statusItems_stops nonempty free, Option.map_some, Option.orElse_some, String.ofList_toList]

theorem literalSize_digits (size : Nat) (plus : Bool) :
    literalSize ('\x7b' :: (size.repr.toList ++
      if plus then ['+', '\x7d'] else ['\x7d'])) = some size.repr.toList := by
  have digits : ∀ character ∈ size.repr.toList, character.isDigit = true :=
    fun _ member => isDigit_of_mem_repr member
  have some_digit : size.repr.toList ≠ [] := by
    rw [Nat.toList_repr]
    exact Nat.toDigits_ne_nil
  have front : (size.repr.toList ++ if plus then ['+', '\x7d'] else ['\x7d']).takeWhile
      Char.isDigit = size.repr.toList := by
    rw [List.takeWhile_append_of_pos digits]
    cases plus with
    | false => exact List.append_nil _
    | true => exact List.append_nil _
  have back : closesLiteral ((size.repr.toList ++
      if plus then ['+', '\x7d'] else ['\x7d']).dropWhile Char.isDigit) = true := by
    rw [List.dropWhile_append_of_pos digits]
    cases plus with
    | false => rfl
    | true => rfl
  rw [literalSize, front, if_pos ⟨some_digit, back⟩]

theorem skipDate_dateText (rest : AppendRest) :
    ∃ behind, skipDate ((rest.dateText ++ rest.sizeText).dropWhile isSpace) = some behind ∧
      behind.dropWhile isSpace = rest.sizeText.dropWhile isSpace := by
  unfold AppendRest.dateText
  cases date : rest.date with
  | none => exact ⟨rest.sizeText.dropWhile isSpace, rfl, rfl⟩
  | some day =>
      obtain ⟨nonempty, free⟩ := rest.date_quoted day date
      refine ⟨rest.sizeText, ?_, rfl⟩
      have text : (' ' :: '"' :: (day ++ ['"']) ++ rest.sizeText).dropWhile isSpace =
          '"' :: (day ++ '"' :: rest.sizeText) := by
        change '"' :: ((day ++ ['"']) ++ rest.sizeText) = _
        rw [List.append_assoc]
        rfl
      change skipDate ((' ' :: '"' :: (day ++ ['"']) ++ rest.sizeText).dropWhile isSpace) = _
      rw [text, skipDate, simpleQuoted_stops nonempty free]
      rfl

theorem skipFlags_flagsText (rest : AppendRest) :
    ∃ behind, skipFlags ((rest.flagsText ++ (rest.dateText ++ rest.sizeText)).dropWhile
        isSpace) = some behind ∧
      behind.dropWhile isSpace = (rest.dateText ++ rest.sizeText).dropWhile isSpace := by
  unfold AppendRest.flagsText
  cases flags : rest.flags with
  | none =>
      refine ⟨(rest.dateText ++ rest.sizeText).dropWhile isSpace, ?_, ?_⟩
      · unfold AppendRest.dateText
        cases rest.date with
        | none => rfl
        | some day => rfl
      · unfold AppendRest.dateText
        cases rest.date with
        | none => rfl
        | some day => rfl
  | some names =>
      refine ⟨rest.dateText ++ rest.sizeText, ?_, rfl⟩
      have text : (' ' :: '(' :: (names ++ [')']) ++
          (rest.dateText ++ rest.sizeText)).dropWhile isSpace =
          '(' :: (names ++ ')' :: (rest.dateText ++ rest.sizeText)) := by
        change '(' :: ((names ++ [')']) ++ (rest.dateText ++ rest.sizeText)) = _
        rw [List.append_assoc]
        rfl
      change skipFlags ((' ' :: '(' :: (names ++ [')']) ++
        (rest.dateText ++ rest.sizeText)).dropWhile isSpace) = _
      rw [text, skipFlags, upTo_stops (rest.flags_closed names flags)]
      rfl

theorem parseAppendArgs_quotedForm {name : String} (plain : PlainName name)
    (rest : AppendRest) :
    (parseAppendArgs (some (String.ofList ((quotedForm name).toList ++ rest.text)))).map
      AppendArgs.folder = some name := by
  obtain ⟨dated, flags_skipped, dated_eq⟩ := skipFlags_flagsText rest
  obtain ⟨sized, date_skipped, sized_eq⟩ := skipDate_dateText rest
  have size : literalSize (rest.sizeText.dropWhile isSpace) = some rest.size.repr.toList :=
    literalSize_digits rest.size rest.plus
  have matched : appendExpression ((quotedForm name).toList ++ rest.text) =
      some (name.toList, rest.size.repr.toList) := by
    rw [appendExpression, simpleQuoted_quotedForm plain]
    simp only [AppendRest.text, flags_skipped, Option.bind_some, dated_eq, date_skipped,
      sized_eq, size, Option.map_some]
  have digits : String.ofList rest.size.repr.toList = rest.size.repr := String.ofList_toList
  rw [parseAppendArgs, Option.getD_some]
  simp only [String.toList_ofList, firstMatch_of_match matched, digits,
    integerParseExact_repr, Option.map_some, String.ofList_toList]

theorem scanStrings_quoted (fuel : Nat) (text : String) (behind : List Char) :
    scanStrings (fuel + 1) ((quotedForm text).toList ++ behind) =
      text.toList.flatMap quotedCharacter :: scanStrings fuel behind := by
  have shape : (quotedForm text).toList ++ behind =
      '"' :: (text.toList.flatMap quotedCharacter ++ '"' :: behind) := by
    rw [toList_quotedForm, quoted, List.cons_append, List.append_assoc]
    rfl
  have left : (text.toList.flatMap quotedCharacter ++ '"' :: behind).drop
      ((text.toList.flatMap quotedCharacter).length + 1) = behind := by
    rw [List.drop_append]
    simp
  have blank : isSpace '"' = false := rfl
  rw [shape, scanStrings, if_neg (by rw [blank]; exact Bool.false_ne_true), if_pos rfl,
    quotedBody_quoted]
  simp only [left]

theorem parseLoginArgs_quotedForms (username password : String) :
    parseLoginArgs (some (String.ofList
      ((quotedForm username).toList ++ ' ' :: (quotedForm password).toList))) =
      some (String.ofList (username.toList.flatMap quotedCharacter),
        String.ofList (password.toList.flatMap quotedCharacter)) := by
  have scanned : ∀ fuel, scanStrings (fuel + 3)
      ((quotedForm username).toList ++ ' ' :: (quotedForm password).toList) =
      [username.toList.flatMap quotedCharacter, password.toList.flatMap quotedCharacter] := by
    intro fuel
    have second := scanStrings_quoted fuel password []
    rw [List.append_nil] at second
    have space : isSpace ' ' = true := rfl
    rw [scanStrings_quoted, scanStrings, if_pos space, second]
    cases fuel with
    | zero => rfl
    | succ fuel => rfl
  have long : 3 ≤ ((quotedForm username).toList ++ ' ' :: (quotedForm password).toList).length := by
    rw [toList_quotedForm, toList_quotedForm]
    simp [quoted]
    omega
  obtain ⟨fuel, length⟩ := Nat.exists_eq_add_of_le' long
  rw [parseLoginArgs, String.toList_ofList, length, scanned]

theorem readBack_quotedForm {name : String} (plain : PlainName name) :
    ReadBack name (quotedForm name) := by
  constructor
  · exact parseMailboxArg_quotedForm name
  · exact parseFolderNameArgument_quotedForm plain
  · exact fun items nonempty free => parseStatusArgs_quotedForm plain nonempty free
  · intro set one_word
    rw [parseCopyArgs_form one_word, String.ofList_toList,
      trimCharacter_quotedForm plain.unescaped]
  · exact parseAppendArgs_quotedForm plain

theorem PlainName.written {name form : String} (plain : PlainName name)
    (written : WrittenAs name form) : form = quotedForm name := by
  cases written with
  | printed => exact listForm_eq_quotedForm plain.visible
  | prescribed one_line => rfl

theorem visible_of_selected {name : String}
    (selected : parseMailboxArg (some (listForm name)) = some name) :
    ∀ character ∈ name.toList, isControl character = false := by
  have shown : listForm name = quotedForm (String.ofList (name.toList.map fun character =>
      if isControl character then ' ' else character)) := by
    apply String.toList_inj.mp
    rw [toList_listForm, toList_quotedForm, String.toList_ofList]
  rw [shown, parseMailboxArg_quotedForm] at selected
  have same := congrArg String.toList (Option.some.inj selected)
  rw [String.toList_ofList] at same
  conv_rhs at same => rw [← List.map_id name.toList]
  intro character member
  have fixed := List.map_inj_left.mp same character member
  cases control : isControl character with
  | false => rfl
  | true =>
      rw [if_pos control] at fixed
      rw [← show ' ' = character from fixed] at control
      exact control.symm.trans rfl

theorem plainName_of_readBack {name : String}
    (read : ∀ form, WrittenAs name form → ReadBack name form) : PlainName name := by
  have printed := read _ .printed
  have visible := visible_of_selected printed.selected
  have same := listForm_eq_quotedForm visible
  refine ⟨?_, visible, ?_, trim_of_parseFolderNameArgument printed.created⟩
  · have copied := printed.copied ['1'] (by decide)
    rw [same, parseCopyArgs_form (by decide), String.ofList_toList] at copied
    have kept := congrArg Prod.snd (Option.some.inj copied)
    have count := count_trimCharacter (quotedForm name)
    rw [show trimCharacter '"' (quotedForm name) = name from kept, toList_quotedForm] at count
    apply unescaped_of_count
    rw [count, quoted, List.count_cons_of_ne (by decide), List.count_append]
    rfl
  · intro empty
    have status := printed.status ['x'] (List.cons_ne_nil _ _) (by decide)
    rw [empty] at status
    have read_empty : parseStatusArgs (some (String.ofList
        ((listForm "").toList ++ ' ' :: '(' :: (['x'] ++ [')'])))) =
        some ("\"\"", ["x"]) := by decide
    rw [read_empty] at status
    exact absurd (congrArg Prod.fst (Option.some.inj status)) (by decide)

theorem unescaped_of_read {text : String}
    (same : String.ofList (text.toList.flatMap quotedCharacter) = text) : Unescaped text := by
  apply unescaped_of_count
  have characters := congrArg String.toList same
  rw [String.toList_ofList] at characters
  rw [characters]

/-- The strings that survive the trip are those that need no escape; a name moreover has no
control character and no blank at an end. -/
theorem strings_survive_iff (oldName newName username password : String) :
    StringsSurvive oldName newName username password ↔
      PlainName oldName ∧ PlainName newName ∧ Unescaped username ∧ Unescaped password := by
  constructor
  · intro survive
    have logged_in := survive.logged_in
    rw [parseLoginArgs_quotedForms] at logged_in
    have both := Option.some.inj logged_in
    exact ⟨plainName_of_readBack survive.old_read, plainName_of_readBack survive.new_read,
      unescaped_of_read (congrArg Prod.fst both), unescaped_of_read (congrArg Prod.snd both)⟩
  · intro plain
    obtain ⟨old_plain, new_plain, user_plain, password_plain⟩ := plain
    constructor
    · intro form written
      rw [old_plain.written written]
      exact readBack_quotedForm old_plain
    · intro form written
      rw [new_plain.written written]
      exact readBack_quotedForm new_plain
    · intro oldForm newForm old_written new_written
      rw [old_plain.written old_written, new_plain.written new_written]
      exact parseRenameArguments_quotedForms old_plain new_plain
    · rw [parseLoginArgs_quotedForms, flatMap_quotedCharacter user_plain,
        flatMap_quotedCharacter password_plain, String.ofList_toList, String.ofList_toList]

/-- `CREATE` reads the form of a name with a quote up to that quote. -/
theorem not_strings_survive_quote :
    ¬StringsSurvive "My \"old\" mail" "Archive" "joe" "secret" := by
  intro survive
  have created := (survive.old_read _ .printed).created
  have read : parseFolderNameArgument (some (listForm "My \"old\" mail")) =
      some "My \\" := by decide
  rw [read] at created
  exact absurd (Option.some.inj created) (by decide)

end Elektrine.IMAP
