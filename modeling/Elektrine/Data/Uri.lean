import Elektrine.Data.Text
import Elektrine.Data.Bytes

/-!
# The parts of a URI

`uriParse` reads the scheme and the host the way `URI.parse` does: the scheme is
lower-cased, the authority ends at the first `/`, `?` or `#`, everything up to the
last `@` of the authority is user information, and the host ends at the port.
-/

namespace Elektrine

structure Uri where
  scheme : Option String
  host : Option String
  deriving DecidableEq, Repr

def isSchemeCharacter (character : Char) : Bool :=
  character.isAlphanum || character == '+' || character == '-' ||
    character == '.'

def splitScheme (characters : List Char) : Option (List Char) × List Char :=
  match characters with
  | [] => (none, [])
  | first :: _ =>
      let (scheme, rest) := characters.span isSchemeCharacter
      match first.isAlpha, rest with
      | true, ':' :: after => (some scheme, after)
      | _, _ => (none, characters)

def splitAuthority : List Char → Option (List Char)
  | '/' :: '/' :: rest =>
      some (rest.takeWhile fun character =>
        character != '/' && character != '?' && character != '#')
  | _ => none

def isAddressCharacter (character : Char) : Bool :=
  character.isAlphanum || character == ':' || character == '.'

/-- Leading `[` and trailing `]` are not part of a host. -/
def trimBrackets (characters : List Char) : List Char :=
  let front := characters.dropWhile (· == '[')
  (front.reverse.dropWhile (· == ']')).reverse

def authorityHost (authority : List Char) : List Char :=
  let host := (authority.reverse.takeWhile (· != '@')).reverse
  let (_, bracketed) := host.tail.span isAddressCharacter
  match host.head?, bracketed.head? with
  | some '[', some ']' => trimBrackets (host.takeWhile (· != ']'))
  | _, _ => trimBrackets (host.takeWhile (· != ':'))

/-- `URI.parse`, as far as the callers look at its result. -/
def uriParse (text : String) : Uri :=
  let (scheme, rest) := splitScheme text.toList
  let host := (splitAuthority rest).map authorityHost
  { scheme := scheme.map fun characters => downcase (String.ofList characters)
    host :=
      match host with
      | none | some [] => none
      | some characters => some (String.ofList characters) }

example : uriParse "HTTPS://user@Remote.Example:8443/users/alice" =
    ⟨some "https", some "Remote.Example"⟩ := by
  decide

/-- `String.split(text, separator, parts: 2)` when the separator occurs. -/
def splitFirst (separator : Char) (text : String) : Option (String × String) :=
  let (front, rest) := text.toList.span (· != separator)
  match rest with
  | [] => none
  | _ :: back => some (String.ofList front, String.ofList back)

end Elektrine

/-!
## URIs with all their parts

`URI.parse` and `URI.to_string` for URIs of the schemes `http` and `https`, whose default
port is left out of the text.
-/

namespace Elektrine

structure UriText where
  scheme : Option String
  userinfo : Option String
  host : Option String
  port : Option Nat
  path : Option String
  query : Option String
  fragment : Option String
  deriving DecidableEq, Repr

def nillify (characters : List Char) : Option String :=
  if characters = [] then none else some (String.ofList characters)

def markedPart (mark : Char) : List Char → Option String
  | first :: rest => if first = mark then some (String.ofList rest) else none
  | [] => none

def authorityUserinfo (authority : List Char) : Option String :=
  if '@' ∈ authority then
    nillify (authority.reverse.dropWhile (· != '@')).tail.reverse
  else none

def authorityPort (authority : List Char) : Option Nat :=
  let address := (authority.reverse.takeWhile (· != '@')).reverse
  let bracketed := address.tail.dropWhile isAddressCharacter
  let rest :=
    match address.head?, bracketed.head? with
    | some '[', some ']' => bracketed.tail
    | _, _ => address.dropWhile (· != ':')
  match rest with
  | ':' :: digits =>
      match leadingDigits digits 0 with
      | (_, 0) => none
      | (value, _) => some value
  | _ => none

def defaultPort (scheme : String) : Option Nat :=
  if scheme = "http" then some 80
  else if scheme = "https" then some 443
  else none

def uriText (text : String) : UriText :=
  let (_, rest) := splitScheme text.toList
  let authority := splitAuthority rest
  let behind :=
    match authority with
    | some characters => rest.drop (characters.length + 2)
    | none => rest
  let path := behind.takeWhile fun character => character != '?' && character != '#'
  let ending := behind.dropWhile fun character => character != '?' && character != '#'
  let scheme := (uriParse text).scheme
  { scheme
    userinfo := authority.bind authorityUserinfo
    host := (uriParse text).host
    port := (authority.bind authorityPort) <|> scheme.bind defaultPort
    path := nillify path
    query := markedPart '?' (ending.takeWhile (· != '#'))
    fragment := markedPart '#' (ending.dropWhile (· != '#')) }

/-- `URI.to_string`. -/
def UriText.toText (uri : UriText) : String :=
  let host := (uri.host.getD "")
  let address := if ':' ∈ host.toList then "[" ++ host ++ "]" else host
  let port :=
    match uri.port with
    | some number => if uri.scheme.bind defaultPort = some number then "" else ":" ++ number.repr
    | none => ""
  (uri.scheme.map (· ++ ":")).getD "" ++
    (if uri.host.isSome then
      "//" ++ (uri.userinfo.map (· ++ "@")).getD "" ++ address ++ port
    else "") ++
    uri.path.getD "" ++ (uri.query.map ("?" ++ ·)).getD "" ++
    (uri.fragment.map ("#" ++ ·)).getD ""

example : (uriText "HTTPS://me.example:443/p/?q#f").toText = "https://me.example/p/?q#f" := by
  decide

end Elektrine

/-!
## Form encoding

`URI.encode_www_form` and `URI.decode_www_form`.  The decoder keeps a percent sign that no
two hexadecimal digits follow.
-/

namespace Elektrine

/-- Letters, digits and `~_-.`. -/
def isUnreserved (byte : UInt8) : Bool :=
  (48 ≤ byte && byte ≤ 57) || (65 ≤ byte && byte ≤ 90) || (97 ≤ byte && byte ≤ 122) ||
    [126, 95, 45, 46].contains byte

def hexCode (number : Nat) : UInt8 :=
  if number < 10 then UInt8.ofNat (48 + number) else UInt8.ofNat (55 + number)

def encodeByte (byte : UInt8) : Bytes :=
  if isUnreserved byte then [byte]
  else if byte == 32 then [43]
  else [37, hexCode (byte.toNat / 16), hexCode (byte.toNat % 16)]

def encodeWwwForm (value : Bytes) : Bytes :=
  value.flatMap encodeByte

def escapedByte : Bytes → Option UInt8
  | high :: low :: _ =>
      match hexDigit high, hexDigit low with
      | some first, some second => some (UInt8.ofNat (first * 16 + second))
      | _, _ => none
  | _ => none

def decodeAfter (used : Nat) : Bytes → Bytes
  | [] => []
  | byte :: rest =>
      match used with
      | left + 1 => decodeAfter left rest
      | 0 =>
          if byte == 43 then 32 :: decodeAfter 0 rest
          else if byte == 37 then
            match escapedByte rest with
            | some value => value :: decodeAfter 2 rest
            | none => 37 :: decodeAfter 0 rest
          else byte :: decodeAfter 0 rest

def decodeWwwForm (text : Bytes) : Bytes :=
  decodeAfter 0 text

example : decodeWwwForm (utf8 "%40me+%") = utf8 "@me %" := by decide

theorem hexDigit_hexCode {number : Nat} (small : number < 16) :
    hexDigit (hexCode number) = some number := by
  revert number
  decide

theorem decodeAfter_encodeByte (byte : UInt8) (rest : Bytes) :
    decodeAfter 0 (encodeByte byte ++ rest) = byte :: decodeAfter 0 rest := by
  unfold encodeByte
  split_ifs with kept space
  · have plus : byte ≠ 43 := by
      intro same
      rw [same] at kept
      cases kept
    have percent : byte ≠ 37 := by
      intro same
      rw [same] at kept
      cases kept
    simp [decodeAfter, plus, percent]
  · simp [decodeAfter, eq_of_beq space]
  · have bound := byte.toNat_lt
    have high : hexDigit (hexCode (byte.toNat / 16)) = some (byte.toNat / 16) :=
      hexDigit_hexCode (by omega)
    have low : hexDigit (hexCode (byte.toNat % 16)) = some (byte.toNat % 16) :=
      hexDigit_hexCode (by omega)
    have whole : byte.toNat / 16 * 16 + byte.toNat % 16 = byte.toNat := by omega
    simp [decodeAfter, escapedByte, high, low, whole]

theorem decodeWwwForm_encodeWwwForm (value : Bytes) :
    decodeWwwForm (encodeWwwForm value) = value := by
  induction value with
  | nil => rfl
  | cons byte rest ih =>
      rw [encodeWwwForm, List.flatMap_cons, decodeWwwForm, decodeAfter_encodeByte]
      exact congrArg (byte :: ·) ih

theorem encodeWwwForm_of_unreserved {value : Bytes}
    (unreserved : ∀ byte ∈ value, isUnreserved byte = true) : encodeWwwForm value = value := by
  induction value with
  | nil => rfl
  | cons byte rest ih =>
      have kept : encodeByte byte = [byte] := if_pos (unreserved byte List.mem_cons_self)
      rw [encodeWwwForm, List.flatMap_cons, kept, List.singleton_append]
      exact congrArg (byte :: ·) (ih fun other member =>
        unreserved other (List.mem_cons_of_mem _ member))

theorem hexCode_ne_space {number : Nat} (small : number < 16) : hexCode number ≠ 32 := by
  revert number
  decide

theorem space_not_mem_encodeWwwForm (value : Bytes) : 32 ∉ encodeWwwForm value := by
  intro member
  obtain ⟨byte, _, encoded⟩ := List.mem_flatMap.mp member
  unfold encodeByte at encoded
  split_ifs at encoded with kept space
  · rw [← List.mem_singleton.mp encoded] at kept
    cases kept
  · simp at encoded
  · have bound := byte.toNat_lt
    simp only [List.mem_cons, List.not_mem_nil, or_false] at encoded
    rcases encoded with percent | high | low
    · cases percent
    · exact hexCode_ne_space (by omega) high.symm
    · exact hexCode_ne_space (by omega) low.symm

end Elektrine
