import Elektrine.Data.Bytes
import Elektrine.DNS.Zone
import Elektrine.IMAP.Helpers
import Elektrine.Library.Codecs
import Mathlib.Data.List.Sort

/-!
# Service bindings

The content of an `SVCB` or `HTTPS` record: a target and parameters, written as a text and
encoded into the data of the record.  The parameters are decoded here as the format of the
data has them.
-/

namespace Elektrine.DNS

open Elektrine.IMAP (isSpace trimCharacter)
open Elektrine.Library

namespace ServiceBinding

/-- A key with its value; only `no-default-alpn` may stand without one. -/
abbrev Param := String × Option String

structure Binding where
  target : String
  params : List Param
  deriving DecidableEq

/-- `Enum.reduce_while` that collects results up to the first error. -/
def collect {α β : Type} (step : α → Except String β) : List α → Except String (List β)
  | [] => .ok []
  | item :: items =>
      match step item with
      | .error reason => .error reason
      | .ok result =>
          match collect step items with
          | .error reason => .error reason
          | .ok results => .ok (result :: results)

/-- `@param_keys`. -/
def paramKeys : List (String × Nat) :=
  [("mandatory", 0), ("alpn", 1), ("no-default-alpn", 2), ("port", 3), ("ipv4hint", 4),
    ("ech", 5), ("ipv6hint", 6)]

/-- `String.split(text, ~r/\s+/, trim: true)`, by characters. -/
def words (text : List Char) : List (List Char) :=
  (text.splitOnP isSpace).filter fun word => !word.isEmpty

def normalizeTarget (target : String) : String :=
  if target = "." then "." else downcase (trimTrailingDots (trim target))

def validateTarget (target : String) : Except String String :=
  if target = "." then .ok "."
  else if normalizeTarget target = "" then .error "must include a target hostname"
  else .ok (normalizeTarget target)

def normalizeParamKey (key : String) : String :=
  downcase (trim key)

def normalizeParamValue (value : String) : String :=
  trimCharacter '"' (trim value)

def parseParam (token : List Char) : Except String Param :=
  match token.span (· != '=') with
  | (key, []) =>
      if normalizeParamKey (String.ofList key) = "no-default-alpn" then
        .ok (normalizeParamKey (String.ofList key), none)
      else .error ("parameter " ++ String.ofList key ++ " must use key=value format")
  | (key, _ :: value) =>
      if normalizeParamKey (String.ofList key) = "" then
        .error "parameter names cannot be empty"
      else if normalizeParamKey (String.ofList key) = "no-default-alpn" ∧
          trim (String.ofList value) ≠ "" then
        .error "no-default-alpn does not take a value"
      else
        .ok (normalizeParamKey (String.ofList key),
          some (normalizeParamValue (String.ofList value)))

def parseContent (content : String) : Except String Binding :=
  match words (trim content).toList with
  | [] => .error "must include a target hostname"
  | target :: params =>
      match validateTarget (String.ofList target) with
      | .error reason => .error reason
      | .ok target => (collect parseParam params).map fun params => { target, params }

def paramText : Param → String
  | (key, none) => key
  | (key, some value) => key ++ "=" ++ value

def normalizeContent (content : String) : Except String String :=
  (parseContent content).map fun binding =>
    trim (normalizeTarget binding.target ++ " " ++
      " ".intercalate (binding.params.map paramText))

def paramCode (key : String) : Except String Nat :=
  match paramKeys.lookup key with
  | some code => .ok code
  | none =>
      if "key".toList.isPrefixOf key.toList ∧ key.toList.drop 3 ≠ [] ∧
          (key.toList.drop 3).all Char.isDigit then
        .ok (Nat.ofDigitChars 10 (key.toList.drop 3) 0)
      else .error ("unsupported parameter " ++ key)

def splitCsvValues (value : String) : List String :=
  (((value.toList.splitOn ',').filter fun part => !part.isEmpty).map fun part =>
    trim (String.ofList part)).filter fun part => part != ""

/-- `:inet.parse_address`: four bytes or eight words. -/
structure AddressParser where
  parse : String → Option (List Nat)
  bytes : ∀ text address, parse text = some address → address.length = 4 →
    ∀ part ∈ address, part < 256
  words : ∀ text address, parse text = some address → address.length = 8 →
    ∀ part ∈ address, part < 65536

inductive Family where
  | ipv4
  | ipv6
  deriving DecidableEq

/-- `family_label`. -/
def Family.label : Family → String
  | .ipv4 => "ipv4hint"
  | .ipv6 => "ipv6hint"

def Family.parts : Family → Nat
  | .ipv4 => 4
  | .ipv6 => 8

def Family.write : Family → Nat → Bytes
  | .ipv4, part => byte part
  | .ipv6, part => word part

section
variable (inet : AddressParser)

def parseIpHint (family : Family) (ip : String) : Except String (List Nat) :=
  match inet.parse ip with
  | some address =>
      if address.length = family.parts then .ok address
      else .error (family.label ++ " parameter must contain valid " ++ family.label ++
        " addresses")
  | none => .error (family.label ++ " parameter must contain valid " ++ family.label ++
      " addresses")

def encodeIpHints (family : Family) (value : String) : Except String Bytes :=
  (collect (parseIpHint inet family) (splitCsvValues value)).map fun addresses =>
    addresses.flatMap fun address => address.flatMap family.write

/-- `Base.decode64(value, padding: false)`. -/
def decodeUnpadded64 (value : String) : Option Bytes :=
  if '-' ∈ value.toList ∨ '_' ∈ value.toList then none
  else decodeGroups (value.toList.map urlCharacter)

def encodeParamValue : Nat → Option String → Except String Bytes
  | 0, some value =>
      (collect paramCode (splitCsvValues value)).map fun codes =>
        codes.flatMap fun (code : Nat) => word code
  | 1, some value =>
      .ok ((splitCsvValues value).flatMap fun protocol =>
        byte (utf8 protocol).length ++ utf8 protocol)
  | 3, some value =>
      match integerParseExact value with
      | some port =>
          if 0 ≤ port ∧ port ≤ 65535 then .ok (word port)
          else .error "port parameter must be an integer between 0 and 65535"
      | none => .error "port parameter must be an integer between 0 and 65535"
  | 4, some value => encodeIpHints inet .ipv4 value
  | 5, some value =>
      match decodeUnpadded64 value with
      | some decoded => .ok decoded
      | none => .error "ech parameter must be base64 data"
  | 6, some value => encodeIpHints inet .ipv6 value
  | _, some value => .ok (utf8 value)
  | _, none => .ok []

/-- One parameter of `encode_params`: its code and its bytes. -/
def encodeParam (param : Param) : Except String (Nat × Bytes) :=
  match paramCode param.1 with
  | .error reason => .error reason
  | .ok code =>
      (encodeParamValue inet code param.2).map fun value =>
        (code, word code ++ (word value.length ++ value))

/-- `encode_params`: the collected list is in reverse before it is sorted. -/
def encodeParams (params : List Param) : Except String Bytes :=
  (collect (encodeParam inet) params).map fun encoded =>
    (encoded.reverse.insertionSort (·.1 ≤ ·.1)).flatMap Prod.snd

/-- `encode_rdata`; none where the encoder of names raises. -/
def encodeRdata (encodeName : String → Option Bytes) (priority : Int) (content : String) :
    Except String (Option Bytes) :=
  match parseContent content with
  | .error reason => .error reason
  | .ok binding =>
      (encodeParams inet binding.params).map fun encoded =>
        (encodeName binding.target).map fun name => word priority ++ (name ++ encoded)

end

theorem toNat_lowByte_of_lt {number : Nat} (fits : number < 256) :
    (lowByte number).toNat = number := by
  rw [toNat_lowByte]
  omega

def byteCodec : Codec UInt8 Nat where
  write number := byte number
  read
    | [] => none
    | first :: rest => some (first.toNat, rest)
  Fits number := number < 256
  write_ne_nil := fun _ _ => List.cons_ne_nil _ _
  read_write := by
    intro number rest fits
    rw [byte, List.singleton_append]
    exact congrArg (fun value => some (value, rest)) (toNat_lowByte_of_lt fits)

def wordCodec : Codec UInt8 Nat where
  write number := word number
  read
    | high :: low :: rest => some (wordOf high low, rest)
    | _ => none
  Fits number := number < 65536
  write_ne_nil := fun _ _ => List.cons_ne_nil _ _
  read_write := by
    intro number rest fits
    rw [word]
    exact congrArg (fun value => some (value, rest)) (wordOf_lowByte number fits)

/-- The protocols of `alpn`, each behind its length. -/
def protocolCodec : Codec UInt8 Bytes :=
  byteCodec.prefixed

def paramCodec : Codec UInt8 (Nat × Bytes) :=
  wordCodec.pair wordCodec.prefixed

def Family.codec : Family → Codec UInt8 (List Nat)
  | .ipv4 => byteCodec.times 4 (by decide)
  | .ipv6 => wordCodec.times 8 (by decide)

inductive Meaning where
  | keys (codes : List Nat)
  | protocols (names : List Bytes)
  | port (number : Nat)
  | addresses (family : Family) (hints : List (List Nat))
  | data (bytes : Bytes)
  deriving DecidableEq

namespace Meaning

def bytes : Meaning → Bytes
  | .keys codes => wordCodec.writeAll codes
  | .protocols names => protocolCodec.writeAll names
  | .port number => word number
  | .addresses family hints => family.codec.writeAll hints
  | .data bytes => bytes

def Fits : Meaning → Prop
  | .keys codes => ∀ code ∈ codes, code < 65536
  | .protocols names => ∀ name ∈ names, name.length < 256
  | .port number => number < 65536
  | .addresses family hints => ∀ address ∈ hints, family.codec.Fits address
  | .data _ => True

end Meaning

def decodeValue (code : Nat) (bytes : Bytes) : Option Meaning :=
  match code with
  | 0 => (wordCodec.readAll bytes).map .keys
  | 1 => (protocolCodec.readAll bytes).map .protocols
  | 3 =>
      match wordCodec.read bytes with
      | some (number, []) => some (.port number)
      | _ => none
  | 4 => ((Family.codec .ipv4).readAll bytes).map (.addresses .ipv4)
  | 6 => ((Family.codec .ipv6).readAll bytes).map (.addresses .ipv6)
  | _ => some (.data bytes)

inductive Says (inet : AddressParser) : Nat → Option String → Meaning → Prop
  | mandatory {value : String} {codes : List Nat}
      (named : collect paramCode (splitCsvValues value) = .ok codes) :
      Says inet 0 (some value) (.keys codes)
  | alpn (value : String) :
      Says inet 1 (some value) (.protocols ((splitCsvValues value).map utf8))
  | port {value : String} {number : Nat}
      (parsed : integerParseExact value = some (number : Int)) (valid : number ≤ 65535) :
      Says inet 3 (some value) (.port number)
  | ipv4hint {value : String} {hints : List (List Nat)}
      (parsed : collect (parseIpHint inet .ipv4) (splitCsvValues value) = .ok hints) :
      Says inet 4 (some value) (.addresses .ipv4 hints)
  | ech {value : String} {decoded : Bytes} (valid : decodeUnpadded64 value = some decoded) :
      Says inet 5 (some value) (.data decoded)
  | ipv6hint {value : String} {hints : List (List Nat)}
      (parsed : collect (parseIpHint inet .ipv6) (splitCsvValues value) = .ok hints) :
      Says inet 6 (some value) (.addresses .ipv6 hints)
  | raw {code : Nat} (free : code ∉ [0, 1, 3, 4, 5, 6]) (value : String) :
      Says inet code (some value) (.data (utf8 value))
  | lone : Says inet 2 none (.data [])

theorem decodeValue_bytes {inet : AddressParser} {code : Nat} {value : Option String}
    {meaning : Meaning} (valid : Says inet code value meaning) (fits : meaning.Fits) :
    decodeValue code meaning.bytes = some meaning := by
  cases valid with
  | mandatory named =>
      exact congrArg (Option.map _) (wordCodec.readAll_writeAll fits)
  | alpn value =>
      exact congrArg (Option.map _) (protocolCodec.readAll_writeAll fits)
  | @port value number parsed valid =>
      have read := wordCodec.read_write number [] fits
      rw [List.append_nil] at read
      have read' : wordCodec.read (Meaning.port number).bytes = some (number, []) := read
      rw [decodeValue, read']
  | ipv4hint parsed =>
      exact congrArg (Option.map _) ((Family.codec .ipv4).readAll_writeAll fits)
  | ech valid => rfl
  | ipv6hint parsed =>
      exact congrArg (Option.map _) ((Family.codec .ipv6).readAll_writeAll fits)
  | @raw code free value =>
      unfold decodeValue
      split
      all_goals first | exact absurd (by decide) free | rfl
  | lone => rfl

/-- A parameter and what it says under the code of its key. -/
def Wrote (inet : AddressParser) (param : Param) (entry : Nat × Meaning) : Prop :=
  paramCode param.1 = .ok entry.1 ∧ Says inet entry.1 param.2 entry.2

theorem collect_eq_ok_iff {α β : Type} {step : α → Except String β} {items : List α}
    {results : List β} : collect step items = .ok results ↔
      List.Forall₂ (fun item result => step item = .ok result) items results := by
  induction items generalizing results with
  | nil =>
      constructor
      · intro done
        cases done
        exact .nil
      · intro all
        cases all
        rfl
  | cons item items ih =>
      rw [collect]
      cases first : step item with
      | error reason =>
          constructor
          · intro done
            cases done
          · intro all
            cases all with
            | cons here others =>
                rw [first] at here
                cases here
      | ok result =>
          cases rest : collect step items with
          | error reason =>
              constructor
              · intro done
                cases done
              · intro all
                cases all with
                | cons here others =>
                    rw [ih.mpr others] at rest
                    cases rest
          | ok values =>
              constructor
              · intro done
                cases done
                exact .cons first (ih.mp rest)
              · intro all
                cases all with
                | cons here others =>
                    rw [first] at here
                    rw [ih.mpr others] at rest
                    cases here
                    cases rest
                    rfl

theorem collect_of_step {α β γ : Type} {step : α → Except String β} {relation : α → γ → Prop}
    {result : γ → β} {items : List α} {results : List β}
    (each : ∀ item ∈ items, ∀ found, step item = .ok found ↔
      ∃ value, relation item value ∧ result value = found) :
    collect step items = .ok results ↔
      ∃ values, List.Forall₂ relation items values ∧ values.map result = results := by
  rw [collect_eq_ok_iff]
  induction items generalizing results with
  | nil =>
      constructor
      · intro all
        cases all
        exact ⟨[], .nil, rfl⟩
      · intro some_values
        obtain ⟨values, all, rfl⟩ := some_values
        cases all
        exact .nil
  | cons item items ih =>
      have here := each item List.mem_cons_self
      have later := fun results => @ih results
        fun other member => each other (List.mem_cons_of_mem item member)
      constructor
      · intro all
        cases all with
        | cons first others =>
            obtain ⟨value, related, rfl⟩ := (here _).mp first
            obtain ⟨values, all, rfl⟩ := (later _).mp others
            exact ⟨value :: values, .cons related all, rfl⟩
      · intro some_values
        obtain ⟨values, all, rfl⟩ := some_values
        cases all with
        | cons related others =>
            exact .cons ((here _).mpr ⟨_, related, rfl⟩) ((later _).mpr ⟨_, others, rfl⟩)

theorem encodeIpHints_eq_ok_iff {inet : AddressParser} {family : Family} {value : String}
    {bytes : Bytes} : encodeIpHints inet family value = .ok bytes ↔
      ∃ hints, collect (parseIpHint inet family) (splitCsvValues value) = .ok hints ∧
        (Meaning.addresses family hints).bytes = bytes := by
  have same : ∀ hints : List (List Nat), (Meaning.addresses family hints).bytes =
      hints.flatMap fun address => address.flatMap family.write := by
    intro hints
    cases family with
    | ipv4 => rfl
    | ipv6 => rfl
  simp only [same]
  rw [encodeIpHints]
  cases collect (parseIpHint inet family) (splitCsvValues value) with
  | error reason => simp [Except.map]
  | ok hints => simp [Except.map]

theorem encodeParamValue_eq_ok_iff {inet : AddressParser} {code : Nat} {value : Option String}
    (lone : value = none → code = 2) {bytes : Bytes} :
    encodeParamValue inet code value = .ok bytes ↔
      ∃ meaning, Says inet code value meaning ∧ meaning.bytes = bytes := by
  have protocols : ∀ value : String, (splitCsvValues value).flatMap (fun protocol =>
      byte (utf8 protocol).length ++ utf8 protocol) =
      (Meaning.protocols ((splitCsvValues value).map utf8)).bytes := by
    intro value
    rw [Meaning.bytes, Codec.writeAll, List.flatMap_map]
    rfl
  constructor
  · intro encoded
    unfold encodeParamValue at encoded
    split at encoded
    · rename_i value
      cases named : collect paramCode (splitCsvValues value) with
      | error reason =>
          rw [named] at encoded
          cases encoded
      | ok codes =>
          rw [named] at encoded
          cases encoded
          exact ⟨_, .mandatory named, rfl⟩
    · rename_i value
      cases encoded
      exact ⟨_, .alpn value, (protocols value).symm⟩
    · rename_i value
      cases parsed : integerParseExact value with
      | none =>
          rw [parsed] at encoded
          cases encoded
      | some port =>
          rw [parsed] at encoded
          by_cases valid : 0 ≤ port ∧ port ≤ 65535
          · obtain ⟨number, rfl⟩ := Int.eq_ofNat_of_zero_le valid.1
            simp only [if_pos valid] at encoded
            cases encoded
            exact ⟨.port number, .port parsed (by omega), rfl⟩
          · simp only [if_neg valid] at encoded
            cases encoded
    · obtain ⟨hints, parsed, written⟩ := encodeIpHints_eq_ok_iff.mp encoded
      exact ⟨_, .ipv4hint parsed, written⟩
    · rename_i value
      cases decoded : decodeUnpadded64 value with
      | none =>
          rw [decoded] at encoded
          cases encoded
      | some bytes =>
          rw [decoded] at encoded
          cases encoded
          exact ⟨_, .ech decoded, rfl⟩
    · obtain ⟨hints, parsed, written⟩ := encodeIpHints_eq_ok_iff.mp encoded
      exact ⟨_, .ipv6hint parsed, written⟩
    · rename_i value mandatory alpn port ipv4 ech ipv6
      cases encoded
      refine ⟨_, .raw ?_ value, rfl⟩
      simp only [List.mem_cons, List.not_mem_nil, or_false, not_or]
      exact ⟨mandatory, alpn, port, ipv4, ech, ipv6⟩
    · cases encoded
      rw [lone rfl]
      exact ⟨_, .lone, rfl⟩
  · intro valid
    obtain ⟨meaning, valid, rfl⟩ := valid
    cases valid with
    | mandatory named => rw [encodeParamValue, named]; rfl
    | alpn value => rw [encodeParamValue, protocols]
    | @port value number parsed valid =>
        rw [encodeParamValue, parsed]
        exact if_pos ⟨by omega, by omega⟩
    | ipv4hint parsed => exact encodeIpHints_eq_ok_iff.mpr ⟨_, parsed, rfl⟩
    | ech valid => rw [encodeParamValue, valid]; rfl
    | ipv6hint parsed => exact encodeIpHints_eq_ok_iff.mpr ⟨_, parsed, rfl⟩
    | @raw code free value =>
        simp only [List.mem_cons, List.not_mem_nil, or_false, not_or] at free
        obtain ⟨mandatory, alpn, port, ipv4, ech, ipv6⟩ := free
        rw [encodeParamValue]
        · rfl
        · exact mandatory
        · exact alpn
        · exact port
        · exact ipv4
        · exact ech
        · exact ipv6
    | lone => rfl

def entry (written : Nat × Meaning) : Nat × Bytes :=
  (written.1, written.2.bytes)

def entries (written : List (Nat × Meaning)) : List (Nat × Bytes) :=
  (written.map entry).reverse.insertionSort (·.1 ≤ ·.1)

theorem encodeParam_eq_ok_iff {inet : AddressParser} {param : Param} {encoded : Nat × Bytes}
    (lone : param.2 = none → param.1 = "no-default-alpn") :
    encodeParam inet param = .ok encoded ↔
      ∃ written, Wrote inet param written ∧
        (written.1, paramCodec.write (entry written)) = encoded := by
  have second : ∀ {code : Nat}, paramCode param.1 = .ok code → param.2 = none → code = 2 := by
    intro code named none_given
    rw [lone none_given] at named
    exact (Except.ok.inj named).symm
  rw [encodeParam]
  cases named : paramCode param.1 with
  | error reason =>
      constructor
      · intro done
        cases done
      · intro wrote
        obtain ⟨written, wrote, -⟩ := wrote
        rw [wrote.1] at named
        cases named
  | ok code =>
      constructor
      · intro done
        cases value : encodeParamValue inet code param.2 with
        | error reason =>
            simp only [value] at done
            cases done
        | ok bytes =>
            simp only [value] at done
            obtain ⟨meaning, said, same⟩ :=
              (encodeParamValue_eq_ok_iff (second named)).mp value
            refine ⟨(code, meaning), ⟨named, said⟩, ?_⟩
            rw [entry, same]
            exact Except.ok.inj done
      · intro wrote
        obtain ⟨⟨key, meaning⟩, ⟨named', said⟩, same⟩ := wrote
        rw [named'] at named
        cases named
        have value := (encodeParamValue_eq_ok_iff (second named')).mpr ⟨meaning, said, rfl⟩
        simp only [value, ← same]
        rfl

theorem encodeParams_eq_ok_iff {inet : AddressParser} {params : List Param} {encoded : Bytes}
    (lone : ∀ param ∈ params, param.2 = none → param.1 = "no-default-alpn") :
    encodeParams inet params = .ok encoded ↔
      ∃ written, List.Forall₂ (Wrote inet) params written ∧
        paramCodec.writeAll (entries written) = encoded := by
  have sorted : ∀ written : List (Nat × Meaning),
      ((written.map fun one => (one.1, paramCodec.write (entry one))).reverse.insertionSort
        (·.1 ≤ ·.1)).flatMap Prod.snd = paramCodec.writeAll (entries written) := by
    intro written
    have again := List.map_insertionSort (fun one other : Nat × Bytes => one.1 ≤ other.1)
      (fun one other : Nat × Bytes => one.1 ≤ other.1)
      (fun one => (one.1, paramCodec.write one)) (written.map entry).reverse
      (fun _ _ _ _ => Iff.rfl)
    rw [List.map_reverse, List.map_map] at again
    rw [entries, Codec.writeAll, ← List.flatMap_map (fun one => (one.1, paramCodec.write one))
      Prod.snd, again]
    rfl
  have steps := fun results => @collect_of_step _ _ _ (encodeParam inet) (Wrote inet)
    (fun one => (one.1, paramCodec.write (entry one))) params results
    (fun param member result => encodeParam_eq_ok_iff (lone param member))
  rw [encodeParams]
  constructor
  · intro done
    cases collected : collect (encodeParam inet) params with
    | error reason =>
        rw [collected] at done
        cases done
    | ok results =>
        rw [collected] at done
        obtain ⟨written, wrote, rfl⟩ := (steps results).mp collected
        exact ⟨written, wrote, (sorted written).symm.trans (Except.ok.inj done)⟩
  · intro wrote
    obtain ⟨written, wrote, same⟩ := wrote
    rw [(steps _).mpr ⟨written, wrote, rfl⟩, ← same, ← sorted written]
    rfl

end ServiceBinding

end Elektrine.DNS
