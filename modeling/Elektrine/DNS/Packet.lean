import Elektrine.Data.Bytes
import Elektrine.Data.Enum
import Elektrine.DNS.Query
import Elektrine.Library.Separated

/-!
# DNS packets

`Elektrine.DNS.Packet`: a query is decoded from a binary and a response is encoded
to one.  A decoder gives a value, gives an error, or raises; an encoder raises where
its result is none.
-/

namespace Elektrine.DNS.Packet

open Elektrine.Library

inductive DecodeError where
  | formatError | compressionLoop | nameTooLong | badPointer | badLabel | badName
  deriving DecidableEq, Repr

inductive Decoded (α : Type) where
  | ok (value : α)
  | error (reason : DecodeError)
  | raised
  deriving DecidableEq, Repr

/-- `String.split(name, ".", trim: true)`. -/
def labelsOf (name : Bytes) : List Bytes :=
  pieces 46 name

/-- `Enum.join(labels, ".")`. -/
def join (labels : List Bytes) : Bytes :=
  [46].intercalate labels

/-! ## Types and response codes -/

/-- `@type_map`. -/
def typeMap : List (QType × String × Nat) :=
  [(.a, "a", 1), (.ns, "ns", 2), (.cname, "cname", 5), (.soa, "soa", 6),
    (.hinfo, "hinfo", 13), (.mx, "mx", 15), (.txt, "txt", 16), (.aaaa, "aaaa", 28),
    (.srv, "srv", 33), (.sshfp, "sshfp", 44), (.ds, "ds", 43), (.dnskey, "dnskey", 48),
    (.tlsa, "tlsa", 52), (.svcb, "svcb", 64), (.https, "https", 65),
    (.caa, "caa", 257), (.any, "any", 255)]

def decodeType (type : Nat) : QType :=
  ((typeMap.find? fun entry => entry.2.2 == type).map fun entry => entry.1).getD
    (.number type)

/-- `encode_type` of an integer or of an atom. -/
def encodeType : QType → Nat
  | .number type => type
  | type =>
      ((typeMap.find? fun entry => entry.1 == type).map fun entry => entry.2.2).getD 255

inductive RecordType where
  | text (name : Bytes)
  | atom (type : QType)
  deriving DecidableEq, Repr

def normalizeType : RecordType → QType
  | .text name =>
      ((typeMap.find? fun entry => utf8 entry.2.1 == downcaseBytes name).map
        fun entry => entry.1).getD (.number 255)
  | .atom type => type

def encodeRecordType : RecordType → Nat
  | .text name =>
      ((typeMap.find? fun entry => utf8 entry.2.1 == downcaseBytes name).map
        fun entry => entry.2.2).getD 255
  | .atom type => encodeType type

/-- `@rcode_map`. -/
def rcodeNumber : Rcode → Nat
  | .noerror => 0
  | .formerr => 1
  | .servfail => 2
  | .nxdomain => 3
  | .notimp => 4
  | .refused => 5

/-! ## Decoding -/

structure Header where
  id : Nat
  flags : Nat
  qdcount : Nat
  ancount : Nat
  nscount : Nat
  arcount : Nat
  deriving DecidableEq, Repr

def readHeader : Bytes → Option (Header × Bytes)
  | i :: i' :: f :: f' :: q :: q' :: a :: a' :: n :: n' :: r :: r' :: rest =>
      some ({ id := wordOf i i', flags := wordOf f f', qdcount := wordOf q q',
              ancount := wordOf a a', nscount := wordOf n n',
              arcount := wordOf r r' }, rest)
  | _ => none

/-- The labels in front of the first byte that begins no complete label, and what
begins with that byte.  A label takes at least two bytes, so the length of the data
is enough fuel. -/
def readLabels : Nat → Bytes → List Bytes × Bytes
  | fuel + 1, len :: rest =>
      if len ≠ 0 ∧ len < 64 ∧ len.toNat ≤ rest.length then
        let (labels, behind) := readLabels fuel (rest.drop len.toNat)
        (rest.take len.toNat :: labels, behind)
      else ([], len :: rest)
  | _, data => ([], data)

def pointerOffset (high low : UInt8) : Nat :=
  wordOf high low % 16384

/-- `decode_name`.  The first argument is what is left of the twenty levels of
pointers; the second one is the packet that pointers point into. -/
def decodeName : Nat → Bytes → Bytes → Decoded (Bytes × Bytes)
  | 0, _, _ => .error .compressionLoop
  | depth + 1, packet, data =>
      match readLabels data.length data with
      | (_, []) => .error .badName
      | (labels, high :: rest) =>
          if high = 0 then
            if (join labels).length ≤ 253 then .ok (join labels, rest)
            else .error .nameTooLong
          else if 192 ≤ high then
            match rest with
            -- `<<ptr::16, rest::binary>> = data` has no second byte to match.
            | [] => .raised
            | low :: rest =>
                if pointerOffset high low < packet.length then
                  match decodeName depth packet
                      (packet.drop (pointerOffset high low)) with
                  | .ok (pointed, _) => .ok (join (labels ++ labelsOf pointed), rest)
                  | .error _ => .error .badPointer
                  | .raised => .raised
                else .error .badPointer
          else if 64 ≤ high then .error .badLabel
          else .error .badName

structure Question where
  qname : Bytes
  qtype : QType
  qclass : Nat
  deriving DecidableEq, Repr

/-- `decode_question/2`: the question that begins the data, and what follows it. -/
def decodeQuestionAt (packet data : Bytes) : Decoded (Question × Bytes) :=
  match decodeName 20 packet data with
  | .ok (qname, t :: t' :: c :: c' :: rest) =>
      .ok ({ qname := qname, qtype := decodeType (wordOf t t'), qclass := wordOf c c' },
        rest)
  | .raised => .raised
  | _ => .error .formatError

def decodeQuestion (packet : Bytes) : Decoded Question :=
  match readHeader packet with
  | none => .error .formatError
  | some (header, body) =>
      if header.qdcount = 1 then
        match decodeQuestionAt packet body with
        | .ok (question, _) => .ok question
        | .error _ => .error .formatError
        | .raised => .raised
      else .error .formatError

/-- What a resolver and the packet encoder take from outside: the application
setting, `:inet.parse_address`, and `ServiceBinding.encode_rdata`, which is handed the
encoder of names. -/
structure Outside where
  maxUdpPayload : Nat := 1232
  parseAddress : Bytes → Option (List Nat) := fun _ => none
  serviceBinding : (Bytes → Option Bytes) → Int → Bytes → Option Bytes :=
    fun _ _ _ => none

section

variable (outside : Outside)

def clampUdpSize (size : Nat) : Nat :=
  if size < 512 then 512 else min size (max outside.maxUdpPayload 512)

structure QueryOptions where
  udpSize : Nat := 512
  dnssecOk : Bool := false
  edns : Bool := false
  deriving DecidableEq, Repr

structure AdditionalRecord where
  name : Bytes
  type : Nat
  qclass : Nat
  ttl : Nat
  deriving DecidableEq, Repr

def decodeAdditionalRecord (packet data : Bytes) : Decoded (AdditionalRecord × Bytes) :=
  match decodeName 20 packet data with
  | .ok (name, t :: t' :: c :: c' :: l₁ :: l₂ :: l₃ :: l₄ :: r :: r' :: rest) =>
      if wordOf r r' ≤ rest.length then
        .ok ({ name := name, type := wordOf t t', qclass := wordOf c c',
               ttl := wordOf l₁ l₂ * 65536 + wordOf l₃ l₄ },
          rest.drop (wordOf r r'))
      else .error .formatError
  | .raised => .raised
  | _ => .error .formatError

def QueryOptions.take (options : QueryOptions) (record : AdditionalRecord) :
    QueryOptions :=
  if record.type = 41 ∧ record.name = [] then
    { udpSize := clampUdpSize outside record.qclass
      dnssecOk := record.ttl &&& 0x8000 != 0
      edns := true }
  else options

def decodeAdditionalRecords (packet : Bytes) :
    Nat → Bytes → QueryOptions → Decoded QueryOptions
  | 0, _, options => .ok options
  | remaining + 1, data, options =>
      match decodeAdditionalRecord packet data with
      | .ok (record, rest) =>
          decodeAdditionalRecords packet remaining rest (options.take outside record)
      | .error reason => .error reason
      | .raised => .raised

/-- A query as `decode_query` gives it. -/
structure ReceivedQuery extends Question, QueryOptions where
  id : Nat
  flags : Nat
  rd : Nat
  deriving DecidableEq, Repr

/-- `opcode(flags)`. -/
def opcode (flags : Nat) : Nat :=
  flags / 2048 % 16

def Header.queries (header : Header) : Bool :=
  header.qdcount == 1 && opcode header.flags == 0 && header.ancount == 0 &&
    header.nscount == 0

def decodeQuery (packet : Bytes) : Decoded ReceivedQuery :=
  match readHeader packet with
  | none => .error .formatError
  | some (header, body) =>
      if header.queries then
        match decodeQuestionAt packet body with
        | .ok (question, rest) =>
            if question.qclass = 1 then
              match decodeAdditionalRecords outside packet header.arcount rest {} with
              | .ok options =>
                  .ok { question, options with
                    id := header.id, flags := header.flags,
                    rd := header.flags / 256 % 2 }
              | .error _ => .error .formatError
              | .raised => .raised
            else .error .formatError
        | .error _ => .error .formatError
        | .raised => .raised
      else .error .formatError

end

/-! ## Encoding -/

inductive FieldValue where
  | nil
  | number (value : Int)
  | text (value : Bytes)
  deriving DecidableEq, Repr

namespace FieldValue

/-- `to_string`. -/
def toBytes : FieldValue → Bytes
  | .nil => []
  | .number value => utf8 (toString value)
  | .text value => value

def text? : FieldValue → Option Bytes
  | .text value => some value
  | _ => none

def number? : FieldValue → Option Int
  | .number value => some value
  | _ => none

/-- `value || default`, then an integer segment, which raises for anything else. -/
def numberOr (default : Int) : FieldValue → Option Int
  | .nil => some default
  | value => value.number?

end FieldValue

/-- A record as a map: a row of a zone, or one of the maps that the query code and the
resolver build.  A field is none where the map does not have the key. -/
structure ResourceRecord where
  type : RecordType
  host : Option FieldValue := none
  name : Option FieldValue := none
  ttl : Option FieldValue := none
  content : Option FieldValue := none
  value : Option FieldValue := none
  priority : Option FieldValue := none
  weight : Option FieldValue := none
  port : Option FieldValue := none
  flags : Option FieldValue := none
  tag : Option FieldValue := none
  protocol : Option FieldValue := none
  algorithm : Option FieldValue := none
  keyTag : Option FieldValue := none
  digestType : Option FieldValue := none
  usage : Option FieldValue := none
  selector : Option FieldValue := none
  matchingType : Option FieldValue := none
  cpu : Option FieldValue := none
  os : Option FieldValue := none
  mname : Option FieldValue := none
  rname : Option FieldValue := none
  serial : Option FieldValue := none
  refresh : Option FieldValue := none
  retry : Option FieldValue := none
  expire : Option FieldValue := none
  minimum : Option FieldValue := none
  deriving DecidableEq, Repr

/-- `String.trim_trailing(name, ".")`. -/
def trimDots (name : Bytes) : Bytes :=
  name.rdropWhile (· == 46)

def encodeLabels (labels : List Bytes) : Bytes :=
  labels.flatMap fun label => byte label.length ++ label

def encodeName (name : Bytes) : Option Bytes :=
  let normalized := trimDots name
  let labels := labelsOf normalized
  if normalized.length > 253 ∨ labels.any (fun label => label.length > 63) then none
  else some (encodeLabels labels ++ [0])

def normalizeOwner (name : Bytes) : Bytes :=
  downcaseBytes (trimDots name)

/-- `encode_owner`: a pointer to the question where the names are the same. -/
def encodeOwner (name : Bytes) (qnameNorm : Bytes) : Option Bytes :=
  if normalizeOwner name = qnameNorm then some (word 0xC00C)
  else encodeName name

def encodeTxt (content : Bytes) : Bytes :=
  (chunkEvery 255 content).flatMap fun chunk => byte chunk.length ++ chunk

/-- `Base.decode64`, padded or not; the alphabet differs from the URL safe one in two
characters. -/
def decodeBase64Data (content : Bytes) : Option Bytes :=
  if content.any fun letter => letter == 45 || letter == 95 then none
  else urlDecode64 (String.ofList (content.map fun letter =>
    if letter = 43 then '-' else if letter = 47 then '_'
    else Char.ofNat letter.toNat))

section

variable (outside : Outside)

/-- The clause of `encode_rdata` for a type; none where no such clause matches the
record, some none where the clause raises. -/
def encodeTypedRdata (type : QType) (record : ResourceRecord) :
    Option (Option Bytes) :=
  match type with
  | .a => do
      let content ← record.content
      some (do
        let address ← outside.parseAddress (← content.text?)
        if address.length = 4 then some (address.flatMap fun part => byte part)
        else none)
  | .aaaa => do
      let content ← record.content
      some (do
        let address ← outside.parseAddress (← content.text?)
        some (address.flatMap fun part => word part))
  | .ns => do
      let value ← record.value
      some (encodeName value.toBytes)
  | .cname => do
      let content ← record.content
      some (encodeName content.toBytes)
  | .mx => do
      let content ← record.content
      let priority ← record.priority
      some (do
        let priority ← priority.numberOr 10
        let target ← encodeName content.toBytes
        some (word priority ++ target))
  | .txt => do
      let content ← record.content.or record.value
      some (some (encodeTxt content.toBytes))
  | .hinfo => do
      let cpu ← record.cpu
      let os ← record.os
      some (do
        let cpu ← cpu.text?
        let os ← os.text?
        some (byte cpu.length ++ cpu ++ byte os.length ++ os))
  | .srv => do
      let content ← record.content
      let priority ← record.priority
      let weight ← record.weight
      let port ← record.port
      some (do
        let priority ← priority.numberOr 0
        let weight ← weight.numberOr 0
        let port ← port.numberOr 0
        let target ← encodeName content.toBytes
        some (word priority ++ word weight ++ word port ++ target))
  | .caa => do
      let flags ← record.flags
      let tag ← record.tag
      let content ← record.content
      some (do
        let flags ← flags.numberOr 0
        let tag ← if tag = .nil then some (utf8 "issue") else tag.text?
        let content ← content.text?
        some (byte flags ++ byte tag.length ++ tag ++ content))
  | .dnskey => do
      let content ← record.content
      let flags ← record.flags
      let protocol ← record.protocol
      let algorithm ← record.algorithm
      some (do
        let flags ← flags.numberOr 0
        let protocol ← protocol.numberOr 3
        let algorithm ← algorithm.numberOr 0
        let key ← decodeBase64Data (← content.text?)
        some (word flags ++ byte protocol ++ byte algorithm ++ key))
  | .ds => do
      let content ← record.content
      let keyTag ← record.keyTag
      let algorithm ← record.algorithm
      let digestType ← record.digestType
      some (do
        let keyTag ← keyTag.numberOr 0
        let algorithm ← algorithm.numberOr 0
        let digestType ← digestType.numberOr 0
        let digest ← decode16 (← content.text?)
        some (word keyTag ++ byte algorithm ++ byte digestType ++ digest))
  | .tlsa => do
      let content ← record.content
      let usage ← record.usage
      let selector ← record.selector
      let matchingType ← record.matchingType
      some (do
        let usage ← usage.numberOr 0
        let selector ← selector.numberOr 0
        let matchingType ← matchingType.numberOr 0
        let digest ← decode16 (← content.text?)
        some (byte usage ++ byte selector ++ byte matchingType ++ digest))
  | .sshfp => do
      let content ← record.content
      let algorithm ← record.algorithm
      let digestType ← record.digestType
      some (do
        let algorithm ← algorithm.numberOr 0
        let digestType ← digestType.numberOr 0
        let digest ← decode16 (← content.text?)
        some (byte algorithm ++ byte digestType ++ digest))
  | .svcb | .https => do
      let priority ← record.priority
      let content ← record.content
      some (do
        let priority ← priority.numberOr 0
        outside.serviceBinding encodeName priority (← content.text?))
  | _ => none

/-- The last clause of `encode_rdata`. -/
def encodeSoa (record : ResourceRecord) : Option Bytes := do
  let mname ← encodeName (← record.mname).toBytes
  let rname ← encodeName (← record.rname).toBytes
  let serial ← (← record.serial).number?
  let refresh ← (← record.refresh).number?
  let retry ← (← record.retry).number?
  let expire ← (← record.expire).number?
  let minimum ← (← record.minimum).number?
  some (mname ++ rname ++ long serial ++ long refresh ++ long retry ++ long expire ++
    long minimum)

def encodeRdata (type : QType) (record : ResourceRecord) : Option Bytes :=
  match encodeTypedRdata outside type record with
  | some encoded => encoded
  | none =>
      match record.content.bind FieldValue.text?, record.value.bind FieldValue.text? with
      | some content, _ => some content
      | none, some value => some value
      | none, none => if type = .soa then encodeSoa record else none

def encodeRecord (qnameNorm : Bytes) (record : ResourceRecord) : Option Bytes := do
  let owner ← record.host.or record.name
  let name ← encodeOwner owner.toBytes qnameNorm
  let ttl ← (record.ttl.getD (.number 300)).number?
  let rdata ← encodeRdata outside (normalizeType record.type) record
  some (name ++ word (encodeRecordType record.type) ++ word 1 ++ long ttl ++
    word rdata.length ++ rdata)

/-- `Enum.map_join(records, &encode_record(&1, qname_norm))`. -/
def encodeRecords (qnameNorm : Bytes) (records : List ResourceRecord) : Option Bytes :=
  (records.mapM (encodeRecord outside qnameNorm)).map List.flatten

/-- `encode_opt_record`, handed a size. -/
def encodeOptRecord (udpSize : Nat) (dnssecOk : Bool) : Bytes :=
  [0] ++ word 41 ++ word (clampUdpSize outside udpSize) ++ [0, 0] ++
    word (if dnssecOk then 0x8000 else 0) ++ word 0

def responseOptRecord (query : ReceivedQuery) : Bytes :=
  if query.edns then encodeOptRecord outside outside.maxUdpPayload query.dnssecOk
  else []

inductive Transport where
  | udp | tcp
  deriving DecidableEq, Repr

/-- The options of `encode_response`. -/
structure ResponseOptions where
  authority : List ResourceRecord := []
  additional : List ResourceRecord := []
  authoritative : Bool := false
  recursionAvailable : Bool := false
  truncated : Bool := false
  authenticData : Bool := false
  transport : Option Transport := none

def ResponseOptions.transportOpts (opts : ResponseOptions) : ResponseOptions :=
  { transport := opts.transport }

/-- `flags_for_reply`: every option has a bit of its own, so the bits are added. -/
def flagsForReply (rd : Nat) (rcode : Rcode) (opts : ResponseOptions) : Nat :=
  32768 + (if opts.authoritative then 1024 else 0) +
    (if opts.truncated then 512 else 0) + rd * 256 +
    (if opts.recursionAvailable then 128 else 0) +
    (if opts.authenticData then 32 else 0) + rcodeNumber rcode

def encodeQuestion (query : ReceivedQuery) : Option Bytes :=
  (encodeName query.qname).map fun name =>
    name ++ word (encodeType query.qtype) ++ word 1

def udpPayloadLimit (query : ReceivedQuery) : Nat :=
  min (max query.udpSize 512) (max outside.maxUdpPayload 512)

def replyHeader (query : ReceivedQuery) (flags ancount nscount arcount : Nat) : Bytes :=
  word query.id ++ word flags ++ word 1 ++ word ancount ++ word nscount ++ word arcount

def encodeTruncatedResponse (query : ReceivedQuery) (rcode : Rcode)
    (opts : ResponseOptions) : Option Bytes := do
  let question ← encodeQuestion query
  let opt := responseOptRecord outside query
  some (replyHeader query (flagsForReply query.rd rcode { opts with truncated := true })
    0 0 (if opt = [] then 0 else 1) ++ question ++ opt)

def maybeTruncateResponse (query : ReceivedQuery) (response : Bytes) (rcode : Rcode)
    (opts : ResponseOptions) : Option Bytes :=
  if opts.transport = some .udp ∧ response.length > udpPayloadLimit outside query then
    encodeTruncatedResponse outside query rcode opts
  else some response

/-- `do_encode_response`.  `Map.fetch!` raises for a response code that is not one of
the six of the map; such a code is none here. -/
def doEncodeResponse (query : ReceivedQuery) (answers : List ResourceRecord)
    (rcode : Option Rcode) (opts : ResponseOptions) : Option Bytes := do
  let rcode ← rcode
  let question ← encodeQuestion query
  let qnameNorm := normalizeOwner query.qname
  let answer ← encodeRecords outside qnameNorm answers
  let authority ← encodeRecords outside qnameNorm opts.authority
  let additional ← encodeRecords outside qnameNorm opts.additional
  let opt := responseOptRecord outside query
  let response := replyHeader query (flagsForReply query.rd rcode opts) answers.length
    opts.authority.length (opts.additional.length + if opt = [] then 0 else 1) ++
    question ++ answer ++ authority ++ additional ++ opt
  maybeTruncateResponse outside query response rcode opts

/-- `encode_response`; an encoding that raises is replaced by a bare SERVFAIL, which
is not rescued. -/
def encodeResponse (query : ReceivedQuery) (answers : List ResourceRecord)
    (rcode : Option Rcode) (opts : ResponseOptions) : Option Bytes :=
  match doEncodeResponse outside query answers rcode opts with
  | some response => some response
  | none =>
      doEncodeResponse outside query [] (some .servfail) opts.transportOpts

end

/-! ## Queries that are sent -/

/-- `rd` of a query is a number or a truth value. -/
inductive RecursionDesired where
  | number (value : Int)
  | bool (value : Bool)
  deriving DecidableEq, Repr

/-- `rd in [1, true]`. -/
def RecursionDesired.set : RecursionDesired → Bool
  | .number value => value == 1
  | .bool value => value

/-- The keys of a query that `encode_query` reads; a missing `udp_size` is none. -/
structure SentQuery where
  id : Nat
  rd : RecursionDesired
  qname : Bytes
  qtype : RecordType
  udpSize : Option Nat := none
  dnssecOk : Bool := false
  deriving DecidableEq, Repr

section

variable (outside : Outside)

/-- `encode_opt_record` with its clause for a query without a size. -/
def encodeQueryOptRecord (query : SentQuery) : Option Bytes :=
  match query.udpSize, query.dnssecOk with
  | none, false => none
  | udpSize, dnssecOk =>
      some (encodeOptRecord outside (udpSize.getD outside.maxUdpPayload) dnssecOk)

def encodeQuery (query : SentQuery) : Option Bytes := do
  let flags := if query.rd.set then 256 else 0
  let name ← encodeName query.qname
  let question := name ++ word (encodeRecordType query.qtype) ++ word 1
  match encodeQueryOptRecord outside query with
  | none =>
      some (word query.id ++ word flags ++ word 1 ++ word 0 ++ word 0 ++ word 0 ++ question)
  | some optRecord =>
      some (word query.id ++ word flags ++ word 1 ++ word 0 ++ word 0 ++ word 1 ++ question ++
        optRecord)

end

end Elektrine.DNS.Packet
