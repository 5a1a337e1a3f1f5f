import Elektrine.Data.Bytes
import Elektrine.Data.Text

/-!
# SMTP command arguments

What the server reads out of the arguments of `AUTH`, `MAIL` and `RCPT`.  The regular
expressions of the source are written out over the characters of the argument.
-/

namespace Elektrine.SMTP

/-- The characters of `\s` in a regular expression. -/
def isSpace (character : Char) : Bool :=
  [' ', '\t', '\n', '\x0b', '\x0c', '\r'].contains character

/-- `String.split(text, " ", parts: 2)`. -/
def splitCommand (text : String) : String × Option String :=
  match text.toList.span (· != ' ') with
  | (front, []) => (String.ofList front, none)
  | (front, _ :: back) => (String.ofList front, some (String.ofList back))

def dropPrefix? : List Char → List Char → Option (List Char)
  | [], text => some text
  | _ :: _, [] => none
  | first :: rest, character :: text =>
      if first.toLower = character.toLower then dropPrefix? rest text else none

/-- `Base.decode64`: the alphabet with `+` and `/`, padded. -/
def decode64 (line : String) : Option Bytes :=
  if line.length % 4 = 0 ∧ line.toList.all fun character =>
      character != '-' && character != '_' then
    urlDecode64 <| String.ofList <| line.toList.map fun character =>
      if character = '+' then '-' else if character = '/' then '_' else character
  else none

def maybePadBase64 (line : String) : String :=
  match line.length % 4 with
  | 2 => line ++ "=="
  | 3 => line ++ "="
  | _ => line

def decodeBase64WithoutPadding (line : String) : Option Bytes :=
  match decode64 line with
  | some decoded => some decoded
  | none =>
      let padded := maybePadBase64 line
      if padded = line then none else decode64 padded

inductive Credential where
  | cancelled
  | decoded (value : Bytes)
  | invalid
  deriving DecidableEq, Repr

def decodeBase64Line (line : String) : Credential :=
  if trim line = "*" then .cancelled
  else
    match decodeBase64WithoutPadding (trim line) with
    | some decoded => .decoded decoded
    | none => .invalid

def decodeAuthPlain (credentials : String) : Option (Bytes × Bytes) :=
  match (decodeBase64WithoutPadding credentials).map (·.splitOn 0) with
  | some [_, username, password] => some (username, password)
  | _ => none

inductive Mechanism where
  | plain (credentials : Option String)
  | login (username : Option String)
  deriving DecidableEq, Repr

def parseAuth (args : Option String) : Option Mechanism :=
  match args with
  | none => none
  | some args =>
      let (mechanism, value) := splitCommand (trim args)
      if upcase mechanism = "PLAIN" then some (.plain value)
      else if upcase mechanism = "LOGIN" then some (.login value)
      else none

inductive MailError where
  | invalidFormat
  | unsupportedParameter
  | messageTooLarge
  deriving DecidableEq, Repr

/-- `(?:\s+(.*))?\z`: the parameters behind a path. -/
def pathParameters (text : List Char) : Option String :=
  match text with
  | [] => some ""
  | first :: rest =>
      if isSpace first ∧ '\n' ∉ rest.dropWhile isSpace then
        some (trim (String.ofList rest))
      else none

/-- `\AFROM:\s*<([^>]*)>(?:\s+(.*))?\z`. -/
def bracketedPath (text : List Char) : Option (String × String) :=
  match text.dropWhile isSpace with
  | '<' :: rest =>
      match rest.span (· != '>') with
      | (address, _ :: after) =>
          (pathParameters after).map fun params => (trim (String.ofList address), params)
      | _ => none
  | _ => none

/-- `\AFROM:\s*([^\s<>]+)(?:\s+(.*))?\z`. -/
def barePath (text : List Char) : Option (String × String) :=
  match (text.dropWhile isSpace).span fun character =>
      !isSpace character && character != '<' && character != '>' with
  | ([], _) => none
  | (address, after) =>
      (pathParameters after).map fun params => (trim (String.ofList address), params)

def parseReversePath (args : String) : Option (String × String) :=
  match dropPrefix? "FROM:".toList args.toList with
  | none => none
  | some text =>
      match bracketedPath text with
      | some path => some path
      | none => barePath text

structure MailParameters where
  size : Option Int
  body : Option String
  deriving DecidableEq, Repr

def parseMailParameter (params : MailParameters) (parameter : String) :
    Except MailError MailParameters :=
  match parameter.toList.span (· != '=') with
  | (_, []) => .error .unsupportedParameter
  | (key, _ :: value) =>
      let value := String.ofList value
      if upcase (String.ofList key) = "SIZE" then
        match integerParseExact value with
        | some size =>
            if 0 ≤ size then .ok { params with size := some size }
            else .error .invalidFormat
        | none => .error .invalidFormat
      else if upcase (String.ofList key) = "BODY" then
        if upcase value = "7BIT" ∨ upcase value = "8BITMIME" then
          .ok { params with body := some (upcase value) }
        else .error .unsupportedParameter
      else .error .unsupportedParameter

def parseMailParameters (rawParams : String) : Except MailError MailParameters :=
  (((rawParams.toList.splitOnP isSpace).filter fun word => !word.isEmpty).map
    String.ofList).foldlM parseMailParameter ⟨none, none⟩

def smtpMaxDataSize : Nat := 50 * 1024 * 1024

def validateDeclaredSize (params : MailParameters) : Except MailError Unit :=
  match params.size with
  | some size => if size > smtpMaxDataSize then .error .messageTooLarge else .ok ()
  | none => .ok ()

/-- The envelope sender of a `MAIL` command. -/
def parseMailFrom (args : Option String) : Except MailError String :=
  match args with
  | none => .error .invalidFormat
  | some args =>
      match parseReversePath (trim args) with
      | none => .error .invalidFormat
      | some (address, rawParams) => do
          let params ← parseMailParameters rawParams
          validateDeclaredSize params
          return address

/-- `\s*<?([^>]+)>?` behind `TO:`; when nothing is left to capture, the match gives
back the opening bracket, or else the last space. -/
def captureRecipient (text : List Char) : Option (List Char) :=
  let path := text.dropWhile isSpace
  let inside := (if path.head? = some '<' then path.tail else path).takeWhile (· != '>')
  if inside ≠ [] then some inside
  else if path.head? = some '<' then some ['<']
  else (text.takeWhile isSpace).getLast?.map fun space => [space]

/-- The first match of `TO:\s*<?([^>]+)>?`, letters in either case. -/
def findRecipient : List Char → Option (List Char)
  | [] => none
  | character :: rest =>
      match (dropPrefix? "TO:".toList (character :: rest)).bind captureRecipient with
      | some address => some address
      | none => findRecipient rest

/-- `parse_rcpt_to` of a text. -/
def parseRcptTo (args : String) : Option String :=
  (findRecipient args.toList).map fun address => trim (String.ofList address)

example : parseRcptTo "TO:<one@a.org> NOTIFY=NEVER" = some "one@a.org" := by
  decide

example : parseRcptTo "to:<>" = some "<" := by decide

def addUniqueRecipient (recipients : List String) (recipient : String) : List String :=
  if recipients.any fun other => downcase (trim other) = downcase (trim recipient) then
    recipients
  else recipient :: recipients

end Elektrine.SMTP
