import Elektrine.DNS.PacketReplies

/-!
# Queries that are sent and received

An encoded query is decoded to the same query, with its type under the name that the type
has and with the size of a UDP payload that is allowed.  An accepted query is encoded again
where the text of its name can be sent.
-/

namespace Elektrine.DNS.Packet

/-! ## What a query means -/

inductive Denotes : RecordType → QType → Prop where
  | atom {type : QType} {name : String} {number : Nat} :
      (type, name, number) ∈ typeMap → Denotes (.atom type) type
  | text {type : QType} {name : String} {number : Nat} {spelled : Bytes} :
      (type, name, number) ∈ typeMap → downcaseBytes spelled = utf8 name →
      Denotes (.text spelled) type
  | named {type : QType} {name : String} {number : Nat} :
      (type, name, number) ∈ typeMap → Denotes (.atom (.number number)) type
  | number {number : Nat} :
      number < 65536 → (∀ entry ∈ typeMap, entry.2.2 ≠ number) →
      Denotes (.atom (.number number)) (.number number)

def SentQuery.payload (outside : Outside) (query : SentQuery) : Nat :=
  match query.udpSize, query.dnssecOk with
  | some size, _ => clampUdpSize outside size
  | none, true => clampUdpSize outside outside.maxUdpPayload
  | none, false => 512

def SentQuery.edns (query : SentQuery) : Bool :=
  query.udpSize.isSome || query.dnssecOk

/-- An id of 16 bits, labels of 1 to 63 bytes without dots, at most 253 bytes in all, a type,
and a size of 16 bits. -/
structure SentQuery.WellFormed (outside : Outside) (query : SentQuery) (labels : List Bytes)
    (type : QType) : Prop where
  id : query.id < 65536
  name : query.qname = join labels
  labels : ∀ label ∈ labels, 1 ≤ label.length ∧ label.length ≤ 63 ∧ 46 ∉ label
  length : query.qname.length ≤ 253
  type : Denotes query.qtype type
  size : query.payload outside < 65536

def SentQuery.received (outside : Outside) (query : SentQuery) (type : QType) :
    ReceivedQuery where
  id := query.id
  flags := if query.rd.set then 256 else 0
  rd := if query.rd.set then 1 else 0
  qname := query.qname
  qtype := type
  qclass := 1
  udpSize := query.payload outside
  dnssecOk := query.dnssecOk
  edns := query.edns

def ReceivedQuery.sent (query : ReceivedQuery) : SentQuery where
  id := query.id
  rd := .number query.rd
  qname := query.qname
  qtype := .atom query.qtype
  udpSize := some query.udpSize
  dnssecOk := query.dnssecOk

/-! ## Types -/

theorem typeMap_types : ∀ entry ∈ typeMap, encodeType entry.1 = entry.2.2 ∧
    decodeType entry.2.2 = entry.1 ∧ entry.2.2 < 65536 := by
  decide

theorem typeMap_names : ∀ first ∈ typeMap, ∀ second ∈ typeMap,
    first.2.1 = second.2.1 → first = second := by
  decide

theorem encodeRecordType_of_denotes {sent : RecordType} {type : QType}
    (denotes : Denotes sent type) :
    encodeRecordType sent < 65536 ∧ decodeType (encodeRecordType sent) = type := by
  cases denotes with
  | atom entry =>
      obtain ⟨number, back, small⟩ := typeMap_types _ entry
      rw [encodeRecordType, number]
      exact ⟨small, back⟩
  | @text _ name _ spelled entry same =>
      obtain ⟨number, back, small⟩ := typeMap_types _ entry
      cases found : typeMap.find? fun known => utf8 known.2.1 == downcaseBytes spelled with
      | none =>
          have never := List.find?_eq_none.mp found _ entry
          rw [same] at never
          exact absurd (beq_self_eq_true _) never
      | some known =>
          have spelledSo : utf8 known.2.1 = utf8 name := by
            have kept := List.find?_some found
            rw [← same]
            exact eq_of_beq kept
          have itself := typeMap_names _ (List.mem_of_find?_eq_some found) _ entry
            (utf8_inj spelledSo)
          rw [encodeRecordType, found, itself]
          exact ⟨small, back⟩
  | named entry =>
      obtain ⟨-, back, small⟩ := typeMap_types _ entry
      exact ⟨small, back⟩
  | @number number small unnamed =>
      refine ⟨small, ?_⟩
      have absent : typeMap.find? (fun entry => entry.2.2 == number) = none := by
        apply List.find?_eq_none.mpr
        intro entry member same
        exact unnamed entry member (eq_of_beq same)
      rw [encodeRecordType, encodeType, decodeType, absent]
      rfl

theorem denotes_decodeType {number : Nat} (small : number < 65536) :
    Denotes (.atom (decodeType number)) (decodeType number) := by
  rw [decodeType]
  cases found : typeMap.find? fun entry => entry.2.2 == number with
  | none =>
      apply Denotes.number small
      intro entry member same
      exact List.find?_eq_none.mp found entry member (beq_iff_eq.mpr same)
  | some entry => exact .atom (List.mem_of_find?_eq_some found)

/-! ## Sizes -/

variable {outside : Outside}

theorem clampUdpSize_clampUdpSize (size : Nat) :
    clampUdpSize outside (clampUdpSize outside size) = clampUdpSize outside size := by
  unfold clampUdpSize
  split
  · rw [if_neg (Nat.lt_irrefl 512)]
    omega
  · rename_i large
    rw [if_neg (by omega)]
    omega

/-- A size of 16 bits that is allowed. -/
def Allowed (outside : Outside) (size : Nat) : Prop :=
  clampUdpSize outside size = size ∧ size < 65536

theorem allowed_default : Allowed outside 512 := by
  constructor
  · unfold clampUdpSize
    rw [if_neg (Nat.lt_irrefl 512)]
    omega
  · decide

theorem allowed_clampUdpSize {size : Nat} (small : size < 65536) :
    Allowed outside (clampUdpSize outside size) := by
  refine ⟨clampUdpSize_clampUdpSize size, ?_⟩
  unfold clampUdpSize
  split
  · decide
  · omega

theorem QueryOptions.allowed_take {options : QueryOptions} {record : AdditionalRecord}
    (allowed : Allowed outside options.udpSize) (small : record.qclass < 65536) :
    Allowed outside (options.take outside record).udpSize := by
  unfold QueryOptions.take
  split
  · exact allowed_clampUdpSize small
  · exact allowed

theorem decodeAdditionalRecord_qclass_lt {packet data rest : Bytes} {record : AdditionalRecord}
    (decoded : decodeAdditionalRecord packet data = .ok (record, rest)) :
    record.qclass < 65536 := by
  unfold decodeAdditionalRecord at decoded
  split at decoded
  · split at decoded
    · cases decoded
      exact wordOf_lt _ _
    · cases decoded
  · cases decoded
  · cases decoded

theorem allowed_of_decodeAdditionalRecords {packet data : Bytes} {remaining : Nat}
    {options result : QueryOptions} (allowed : Allowed outside options.udpSize)
    (decoded : decodeAdditionalRecords outside packet remaining data options = .ok result) :
    Allowed outside result.udpSize := by
  induction remaining generalizing data options with
  | zero =>
      cases decoded
      exact allowed
  | succ remaining ih =>
      rw [decodeAdditionalRecords] at decoded
      split at decoded
      · rename_i record rest read
        exact ih (options.allowed_take allowed (decodeAdditionalRecord_qclass_lt read)) decoded
      · cases decoded
      · cases decoded

/-! ## What is decoded of an encoded query -/

theorem decodeQuestionAt_encoded {qname name : Bytes} (encoded : encodeName qname = some name)
    {type : Nat} (small : type < 65536) (packet tail : Bytes) :
    decodeQuestionAt packet (name ++ word type ++ word 1 ++ tail) =
      .ok ({ qname := join (labelsOf qname), qtype := decodeType type, qclass := 1 }, tail) := by
  have read := decodeName_encodeName encoded 19 packet (word type ++ (word 1 ++ tail))
  rw [decodeQuestionAt, List.append_assoc, List.append_assoc, read]
  simp only [word, List.cons_append, List.nil_append, wordOf_lowByte type small]
  rfl

theorem decodeName_emptyName (packet rest : Bytes) :
    decodeName 20 packet (0 :: rest) = .ok ([], rest) :=
  decodeName_root 19 (.here _)

theorem wordOf_flags (dnssecOk : Bool) :
    wordOf (lowByte ((if dnssecOk then 0x8000 else 0) / 256))
      (lowByte (if dnssecOk then 0x8000 else 0)) = if dnssecOk then 0x8000 else 0 := by
  cases dnssecOk <;> decide

theorem bit_flags (dnssecOk : Bool) :
    ((if dnssecOk then 0x8000 else 0) &&& 0x8000 != 0) = dnssecOk := by
  cases dnssecOk <;> decide

theorem decodeAdditionalRecords_optRecord {size : Nat} (dnssecOk : Bool)
    (small : clampUdpSize outside size < 65536) (packet : Bytes) (options : QueryOptions) :
    decodeAdditionalRecords outside packet 1 (encodeOptRecord outside size dnssecOk) options =
      .ok { udpSize := clampUdpSize outside size, dnssecOk := dnssecOk, edns := true } := by
  have record : decodeAdditionalRecord packet (encodeOptRecord outside size dnssecOk) =
      .ok (⟨[], 41, clampUdpSize outside size, if dnssecOk then 0x8000 else 0⟩, []) := by
    have read := wordOf_lowByte (clampUdpSize outside size) small
    unfold decodeAdditionalRecord encodeOptRecord
    simp only [word, List.cons_append, List.nil_append]
    rw [decodeName_emptyName]
    have root : wordOf 0 0 = 0 := by decide
    have type : wordOf (lowByte (41 / 256)) (lowByte 41) = 41 := by decide
    have nothing : wordOf (lowByte (0 / 256)) (lowByte 0) = 0 := by decide
    simp only [read, root, type, nothing, wordOf_flags, Nat.zero_mul, Nat.zero_add,
      Nat.zero_le, if_true, List.drop_zero]
  rw [decodeAdditionalRecords, record]
  simp only [decodeAdditionalRecords, QueryOptions.take, and_self, if_true,
    clampUdpSize_clampUdpSize, bit_flags]

theorem encodeQueryOptRecord_cases (outside : Outside) (query : SentQuery) :
    (encodeQueryOptRecord outside query = none ∧ query.edns = false ∧
        query.dnssecOk = false ∧ query.payload outside = 512) ∨
      ∃ size, encodeQueryOptRecord outside query =
          some (encodeOptRecord outside size query.dnssecOk) ∧
        query.edns = true ∧ query.payload outside = clampUdpSize outside size := by
  obtain ⟨id, rd, qname, qtype, udpSize, dnssecOk⟩ := query
  cases udpSize with
  | some size => exact Or.inr ⟨size, rfl, rfl, rfl⟩
  | none =>
      cases dnssecOk with
      | false => exact Or.inl ⟨rfl, rfl, rfl, rfl⟩
      | true => exact Or.inr ⟨outside.maxUdpPayload, rfl, rfl, rfl⟩

theorem readHeader_query {id : Nat} (small : id < 65536) (set : Bool) {additional : Nat}
    (few : additional < 65536) (rest : Bytes) :
    readHeader (word id ++ word (if set then 256 else 0) ++ word 1 ++ word 0 ++ word 0 ++
        word additional ++ rest) =
      some ({ id := id, flags := if set then 256 else 0, qdcount := 1, ancount := 0,
              nscount := 0, arcount := additional }, rest) := by
  have read := wordOf_lowByte id small
  have last := wordOf_lowByte additional few
  simp only [readHeader, word, List.cons_append, List.nil_append, read, last]
  cases set <;> rfl

theorem decodeQuery_question {id : Nat} (small : id < 65536) (set : Bool) {additional : Nat}
    (few : additional < 65536) {qname name : Bytes} (encoded : encodeName qname = some name)
    {type : Nat} (isType : type < 65536) (records : Bytes) {options : QueryOptions}
    (decoded : ∀ packet, decodeAdditionalRecords outside packet additional records {} =
      .ok options) :
    decodeQuery outside (word id ++ word (if set then 256 else 0) ++ word 1 ++ word 0 ++
        word 0 ++ word additional ++ (name ++ word type ++ word 1 ++ records)) =
      .ok { options with
        id := id, flags := if set then 256 else 0, rd := if set then 1 else 0,
        qname := join (labelsOf qname), qtype := decodeType type, qclass := 1 } := by
  have queries : Header.queries ⟨id, if set then 256 else 0, 1, 0, 0, additional⟩ = true := by
    cases set <;> simp [Header.queries, opcode]
  rw [decodeQuery, readHeader_query small set few]
  dsimp only
  rw [if_pos queries, decodeQuestionAt_encoded encoded isType]
  dsimp only
  rw [if_pos rfl, decoded]
  cases set <;> rfl

theorem decodeQuery_encodeQuery {query : SentQuery} {name : Bytes} {type : QType}
    (id : query.id < 65536) (encoded : encodeName query.qname = some name)
    (denotes : Denotes query.qtype type) (size : query.payload outside < 65536)
    (same : join (labelsOf query.qname) = query.qname) :
    ∃ packet, encodeQuery outside query = some packet ∧
      decodeQuery outside packet = .ok (query.received outside type) := by
  obtain ⟨small, back⟩ := encodeRecordType_of_denotes denotes
  have question : ∀ (additional : Nat) (records : Bytes), additional < 65536 →
      (∀ packet, decodeAdditionalRecords outside packet additional records {} =
        .ok ⟨query.payload outside, query.dnssecOk, query.edns⟩) →
      decodeQuery outside (word query.id ++ word (if query.rd.set then 256 else 0) ++ word 1 ++
          word 0 ++ word 0 ++ word additional ++
          (name ++ word (encodeRecordType query.qtype) ++ word 1 ++ records)) =
        .ok (query.received outside type) := by
    intro additional records few decoded
    rw [decodeQuery_question id query.rd.set few encoded small records decoded, back, same]
    rfl
  rcases encodeQueryOptRecord_cases outside query with
    ⟨absent, edns, dnssecOk, payload⟩ | ⟨udpSize, present, edns, payload⟩
  · refine ⟨_, ?_, question 0 [] (by decide) ?_⟩
    · rw [encodeQuery, encoded, List.append_nil]
      simp only [Option.bind_eq_bind, Option.bind_some, absent]
      cases query.rd.set <;> rfl
    · intro packet
      rw [edns, dnssecOk, payload]
      rfl
  · refine ⟨_, ?_, question 1 (encodeOptRecord outside udpSize query.dnssecOk) (by decide) ?_⟩
    · rw [encodeQuery, encoded]
      simp only [Option.bind_eq_bind, Option.bind_some, present, List.append_assoc]
      cases query.rd.set <;> rfl
    · intro packet
      rw [payload] at size
      rw [edns, payload]
      exact decodeAdditionalRecords_optRecord query.dnssecOk size packet {}

/-! ## Both round trips -/

structure RoundTrips (outside : Outside) : Prop where
  sent : ∀ (query : SentQuery) (labels : List Bytes) (type : QType),
    query.WellFormed outside labels type → ∃ packet, encodeQuery outside query = some packet ∧
      decodeQuery outside packet = .ok (query.received outside type)
  received : ∀ (packet body : Bytes) (query : ReceivedQuery) (header : Header)
    (fragments : List (List Bytes)), decodeQuery outside packet = .ok query →
    readHeader packet = some (header, body) → Fragments packet body fragments →
    Sendable fragments → ∃ again, encodeQuery outside query.sent = some again ∧
      decodeQuery outside again = .ok { query with flags := query.rd * 256, edns := true }

theorem SentQuery.WellFormed.encoded {query : SentQuery} {labels : List Bytes} {type : QType}
    (wellFormed : query.WellFormed outside labels type) :
    (∃ name, encodeName query.qname = some name) ∧
      join (labelsOf query.qname) = query.qname := by
  have pieces : labelsOf query.qname = labels := by
    rw [wellFormed.name]
    apply Library.pieces_intercalate_of_pieces
    intro label member
    obtain ⟨full, -, dotless⟩ := wellFormed.labels label member
    exact ⟨List.ne_nil_of_length_pos full, dotless⟩
  have same : join (labelsOf query.qname) = query.qname := by
    rw [pieces, wellFormed.name]
  refine ⟨⟨_, encodeName_eq_some_iff.mpr ⟨?_, ?_, rfl⟩⟩, same⟩
  · rw [trimDots_of_join_labelsOf same]
    exact wellFormed.length
  · intro label member
    rw [pieces] at member
    exact (wellFormed.labels label member).2.1

structure Proper (outside : Outside) (query : ReceivedQuery) : Prop where
  rd : query.rd < 2
  qclass : query.qclass = 1
  size : Allowed outside query.udpSize

theorem proper_of_decodeQuery {packet : Bytes} {query : ReceivedQuery}
    (decoded : decodeQuery outside packet = .ok query) : Proper outside query := by
  rw [decodeQuery] at decoded
  split at decoded
  · cases decoded
  · split at decoded
    · split at decoded
      · split at decoded
        · rename_i internet
          split at decoded
          · rename_i records
            cases decoded
            exact ⟨Nat.mod_lt _ (by decide), internet,
              allowed_of_decodeAdditionalRecords allowed_default records⟩
          · cases decoded
          · cases decoded
        · cases decoded
      · cases decoded
      · cases decoded
    · cases decoded

theorem ReceivedQuery.received_sent {query : ReceivedQuery} (proper : Proper outside query) :
    query.sent.received outside query.qtype =
      { query with flags := query.rd * 256, edns := true } := by
  obtain ⟨two, qclass, allowed, -⟩ := proper
  have payload : query.sent.payload outside = query.udpSize := allowed
  have bit : query.rd = 0 ∨ query.rd = 1 := by omega
  have question : (⟨query.qname, query.qtype, 1⟩ : Question) = query.toQuestion := by
    rw [← qclass]
  rw [SentQuery.received, payload]
  rcases bit with unset | set
  · simp [ReceivedQuery.sent, RecursionDesired.set, SentQuery.edns, unset, question]
  · simp [ReceivedQuery.sent, RecursionDesired.set, SentQuery.edns, set, question]

/-- **Queries round trip.** -/
theorem roundTrips (outside : Outside) : RoundTrips outside := by
  constructor
  case sent =>
    intro query labels type wellFormed
    obtain ⟨⟨name, encoded⟩, same⟩ := wellFormed.encoded
    exact decodeQuery_encodeQuery wellFormed.id encoded wellFormed.type wellFormed.size same
  case received =>
    intro packet body query header fragments decoded read more sendable
    have accepted := accepted_of_decodeQuery decoded
    have proper := proper_of_decodeQuery decoded
    obtain ⟨header', body', fragments', read', -, more', qname⟩ := accepted.name
    rw [read] at read'
    cases read'
    rw [more'.unique more] at qname
    obtain ⟨⟨name, encoded⟩, same⟩ := (sendable_iff more).mp sendable
    rw [← qname] at encoded same
    obtain ⟨type, small, isType⟩ := accepted.type
    have denotes : Denotes query.sent.qtype query.qtype := by
      change Denotes (.atom query.qtype) query.qtype
      rw [isType]
      exact denotes_decodeType small
    have size : query.sent.payload outside < 65536 := by
      change clampUdpSize outside query.udpSize < 65536
      rw [proper.size.1]
      exact proper.size.2
    have again := @decodeQuery_encodeQuery outside query.sent name query.qtype accepted.id encoded
      denotes size same
    rwa [ReceivedQuery.received_sent proper] at again

/-- A query for the addresses of `a`, by the number of their type. -/
def numbered : SentQuery where
  id := 1
  rd := .bool true
  qname := [97]
  qtype := .atom (.number 1)
  udpSize := some 1232

theorem wellFormed_numbered : numbered.WellFormed {} [[97]] .a where
  id := by decide
  name := rfl
  labels := by decide
  length := by decide
  type := .named (List.mem_cons_self)
  size := by decide

/-- A query for the addresses of `a` without an OPT record. -/
def plainPacket : Bytes :=
  [0, 1, 1, 0, 0, 1, 0, 0, 0, 0, 0, 0, 1, 97, 0, 0, 1, 0, 1]

def plain : ReceivedQuery where
  id := 1
  flags := 256
  rd := 1
  qname := [97]
  qtype := .a
  qclass := 1

theorem decodeQuery_plainPacket : decodeQuery {} plainPacket = .ok plain :=
  @decodeQuery_question {} 1 (by decide) true 0 (by decide) [97] [1, 97, 0] (by decide) 1
    (by decide) [] {} (fun _ => rfl)

theorem roundTrips_numbered_plain :
    (∃ packet, encodeQuery {} numbered = some packet ∧
        decodeQuery {} packet = .ok (numbered.received {} .a)) ∧
      ∃ again, encodeQuery {} plain.sent = some again ∧
        decodeQuery {} again = .ok { plain with flags := 256, edns := true } := by
  constructor
  · exact (roundTrips {}).sent numbered [[97]] .a wellFormed_numbered
  · have bounds : ∀ label ∈ [([97] : Bytes)], label ≠ [] ∧ label.length ≤ 63 := by decide
    have read : Fragments plainPacket [1, 97, 0, 0, 1, 0, 1] [[[97]]] :=
      .root (labelsTo_encodeLabels bounds [0, 0, 1, 0, 1])
    exact (roundTrips {}).received plainPacket _ plain _ _ decodeQuery_plainPacket rfl read
      ⟨by decide, by decide⟩

/-- The number comes back as a name, and the query without an OPT record with one. -/
theorem not_same_query :
    (∃ packet query, encodeQuery {} numbered = some packet ∧
        decodeQuery {} packet = .ok query ∧ numbered.qtype ≠ .atom query.qtype) ∧
      ∃ query again, decodeQuery {} plainPacket = .ok query ∧
        encodeQuery {} query.sent = some again ∧ decodeQuery {} again ≠ .ok query := by
  have name : encodeName [97] = some [1, 97, 0] := by decide
  constructor
  · obtain ⟨packet, encoded, decoded⟩ := @decodeQuery_encodeQuery {} numbered _ .a (by decide)
      name wellFormed_numbered.type (by decide) (by decide)
    exact ⟨packet, _, encoded, decoded, by decide⟩
  · obtain ⟨again, encoded, decoded⟩ := @decodeQuery_encodeQuery {} plain.sent _ .a (by decide)
      name (.atom List.mem_cons_self) (by decide) (by decide)
    refine ⟨plain, again, decodeQuery_plainPacket, encoded, ?_⟩
    rw [decoded]
    decide

end Elektrine.DNS.Packet
