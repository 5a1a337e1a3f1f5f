import Elektrine.DNS.PacketNames

/-!
# A reply to every packet

A packet is decoded without raising, and every accepted query is answered, unless one
of its names runs out at the last byte of the packet, is longer than a name may be, or
has a label with dots that the text of the name cannot show.
-/

namespace Elektrine.DNS.Packet

open Elektrine.Library

/-! ## Decoding without raising -/

inductive RecordsRunOut (packet : Bytes) : Nat → Bytes → Prop where
  | here {remaining : Nat} {data : Bytes} :
      RunsOut packet 20 data → RecordsRunOut packet (remaining + 1) data
  | later {remaining : Nat} {data rest : Bytes} {record : AdditionalRecord} :
      decodeAdditionalRecord packet data = .ok (record, rest) →
      RecordsRunOut packet remaining rest → RecordsRunOut packet (remaining + 1) data

theorem decodeQuestionAt_eq_raised_iff {packet data : Bytes} :
    decodeQuestionAt packet data = .raised ↔ RunsOut packet 20 data := by
  rw [← decodeName_eq_raised_iff, decodeQuestionAt]
  cases decodeName 20 packet data with
  | raised => exact ⟨fun _ => rfl, fun _ => rfl⟩
  | error reason => constructor <;> intro raised <;> cases raised
  | ok decoded =>
      constructor
      · intro raised
        split at raised <;> cases raised
        assumption
      · intro raised
        cases raised

theorem decodeAdditionalRecord_eq_raised_iff {packet data : Bytes} :
    decodeAdditionalRecord packet data = .raised ↔ RunsOut packet 20 data := by
  rw [← decodeName_eq_raised_iff, decodeAdditionalRecord]
  cases decodeName 20 packet data with
  | raised => exact ⟨fun _ => rfl, fun _ => rfl⟩
  | error reason => constructor <;> intro raised <;> cases raised
  | ok decoded =>
      constructor
      · intro raised
        split at raised
        · split at raised <;> cases raised
        · assumption
        · cases raised
      · intro raised
        cases raised

theorem decodeAdditionalRecords_eq_raised_iff (outside : Outside) {packet data : Bytes}
    {remaining : Nat} {options : QueryOptions} :
    decodeAdditionalRecords outside packet remaining data options = .raised ↔
      RecordsRunOut packet remaining data := by
  induction remaining generalizing data options with
  | zero =>
      constructor
      · intro raised
        cases raised
      · intro runs
        cases runs
  | succ remaining ih =>
      rw [decodeAdditionalRecords]
      constructor
      · intro raised
        split at raised
        · rename_i decoded
          exact .later decoded (ih.mp raised)
        · cases raised
        · rename_i decoded
          exact .here (decodeAdditionalRecord_eq_raised_iff.mp decoded)
      · intro runs
        cases runs with
        | here runs => rw [decodeAdditionalRecord_eq_raised_iff.mpr runs]
        | later decoded runs =>
            rw [decoded]
            exact ih.mpr runs

/-- Every result but an exception is a value or a format error. -/
def Answers {α : Type} (result : Decoded α) : Prop :=
  (∃ value, result = .ok value) ∨ result = .error .formatError

theorem answers_decodeQuestion_iff {packet : Bytes} :
    Answers (decodeQuestion packet) ↔
      ∀ header body, readHeader packet = some (header, body) →
        header.qdcount = 1 → ¬ RunsOut packet 20 body := by
  rw [decodeQuestion]
  cases read : readHeader packet with
  | none =>
      constructor
      · intro _ header body found
        cases found
      · intro _
        exact Or.inr rfl
  | some found =>
      obtain ⟨header, body⟩ := found
      dsimp only
      by_cases one : header.qdcount = 1
      · rw [if_pos one]
        constructor
        · intro answers header' body' same _ runs
          cases same
          rw [decodeQuestionAt_eq_raised_iff.mpr runs] at answers
          rcases answers with ⟨value, raised⟩ | raised <;> cases raised
        · intro never
          have kept := never header body rfl one
          cases decoded : decodeQuestionAt packet body with
          | ok pair => exact Or.inl ⟨_, rfl⟩
          | error reason => exact Or.inr rfl
          | raised => exact absurd (decodeQuestionAt_eq_raised_iff.mp decoded) kept
      · rw [if_neg one]
        constructor
        · intro _ header' body' same one'
          cases same
          exact absurd one' one
        · intro _
          exact Or.inr rfl

theorem answers_decodeQuery_iff (outside : Outside) {packet : Bytes} :
    Answers (decodeQuery outside packet) ↔
      ∀ header body, readHeader packet = some (header, body) → header.queries →
        ¬ RunsOut packet 20 body ∧
          ∀ question rest, decodeQuestionAt packet body = .ok (question, rest) →
            question.qclass = 1 → ¬ RecordsRunOut packet header.arcount rest := by
  rw [decodeQuery]
  cases read : readHeader packet with
  | none =>
      constructor
      · intro _ header body found
        cases found
      · intro _
        exact Or.inr rfl
  | some found =>
      obtain ⟨header, body⟩ := found
      dsimp only
      by_cases queries : header.queries
      · rw [if_pos queries]
        cases decoded : decodeQuestionAt packet body with
        | raised =>
            constructor
            · intro answers
              rcases answers with ⟨value, raised⟩ | raised <;> cases raised
            · intro never
              exact absurd (decodeQuestionAt_eq_raised_iff.mp decoded)
                (never header body rfl queries).1
        | error reason =>
            constructor
            · intro _ header' body' same _
              cases same
              refine ⟨?_, ?_⟩
              · intro runs
                rw [decodeQuestionAt_eq_raised_iff.mpr runs] at decoded
                cases decoded
              · intro question rest found
                rw [decoded] at found
                cases found
            · intro _
              exact Or.inr rfl
        | ok pair =>
            obtain ⟨question, rest⟩ := pair
            dsimp only
            have stays : ¬ RunsOut packet 20 body := by
              intro runs
              rw [decodeQuestionAt_eq_raised_iff.mpr runs] at decoded
              cases decoded
            by_cases internet : question.qclass = 1
            · rw [if_pos internet]
              constructor
              · intro answers header' body' same _
                cases same
                refine ⟨stays, ?_⟩
                intro question' rest' found _ runs
                rw [decoded] at found
                cases found
                rw [(decodeAdditionalRecords_eq_raised_iff outside).mpr runs] at answers
                rcases answers with ⟨value, raised⟩ | raised <;> cases raised
              · intro never
                have kept := (never header body rfl queries).2 question rest decoded
                  internet
                cases records : decodeAdditionalRecords outside packet header.arcount
                    rest {} with
                | ok options => exact Or.inl ⟨_, rfl⟩
                | error reason => exact Or.inr rfl
                | raised =>
                    exact absurd ((decodeAdditionalRecords_eq_raised_iff outside).mp
                      records) kept
            · rw [if_neg internet]
              constructor
              · intro _ header' body' same _
                cases same
                refine ⟨stays, ?_⟩
                intro question' rest' found internet'
                rw [decoded] at found
                cases found
                exact absurd internet' internet
              · intro _
                exact Or.inr rfl
      · rw [if_neg queries]
        constructor
        · intro _ header' body' same queries'
          cases same
          exact absurd queries' queries
        · intro _
          exact Or.inr rfl

/-! ## Accepted queries -/

theorem encodeType_decodeType (type : Nat) : encodeType (decodeType type) = type := by
  rw [decodeType]
  cases found : typeMap.find? (fun entry => entry.2.2 == type) with
  | none => rfl
  | some entry =>
      have number : entry.2.2 = type := by
        have kept := List.find?_some found
        simpa using kept
      have table : ∀ known ∈ typeMap, encodeType known.1 = known.2.2 := by decide
      rw [← number]
      exact table entry (List.mem_of_find?_eq_some found)

structure Accepted (packet : Bytes) (query : ReceivedQuery) : Prop where
  id : query.id < 65536
  type : ∃ type, type < 65536 ∧ query.qtype = decodeType type
  name : ∃ header body fragments, readHeader packet = some (header, body) ∧
    query.id = header.id ∧ Fragments packet body fragments ∧
    query.qname = nameOf fragments

theorem readHeader_id_lt {packet body : Bytes} {header : Header}
    (read : readHeader packet = some (header, body)) : header.id < 65536 := by
  unfold readHeader at read
  split at read
  · cases read
    exact wordOf_lt _ _
  · cases read

theorem accepted_of_decodeQuery {outside : Outside} {packet : Bytes}
    {query : ReceivedQuery} (decoded : decodeQuery outside packet = .ok query) :
    Accepted packet query := by
  rw [decodeQuery] at decoded
  split at decoded
  · cases decoded
  · rename_i header body read
    split at decoded
    · split at decoded
      · rename_i question rest found
        split at decoded
        · split at decoded
          · cases decoded
            rw [decodeQuestionAt] at found
            split at found
            · rename_i name
              cases found
              obtain ⟨fragments, more, same⟩ := fragments_of_decodeName name
              exact ⟨readHeader_id_lt read, ⟨_, wordOf_lt _ _, rfl⟩,
                header, body, fragments, read, rfl, more, same⟩
            · cases found
            · cases found
          · cases decoded
          · cases decoded
        · cases decoded
      · cases decoded
      · cases decoded
    · cases decoded

/-! ## Replies -/

section

variable {outside : Outside} {query : ReceivedQuery}

theorem length_encodeOptRecord (size : Nat) (dnssecOk : Bool) :
    (encodeOptRecord outside size dnssecOk).length = 11 := rfl

theorem length_responseOptRecord_le : (responseOptRecord outside query).length ≤ 11 := by
  rw [responseOptRecord]
  split
  · rw [length_encodeOptRecord]
  · exact Nat.zero_le _

theorem length_replyHeader (flags ancount nscount arcount : Nat) :
    (replyHeader query flags ancount nscount arcount).length = 12 := rfl

theorem le_udpPayloadLimit : 512 ≤ udpPayloadLimit outside query := by
  rw [udpPayloadLimit]
  omega

structure Repeats (query : ReceivedQuery) (question response : Bytes) : Prop where
  shape : ∃ flags ancount nscount arcount tail,
    response = replyHeader query flags ancount nscount arcount ++ question ++ tail

theorem repeats_replyHeader (question tail : Bytes) (flags ancount nscount arcount : Nat) :
    Repeats query question
      (replyHeader query flags ancount nscount arcount ++ question ++ tail) :=
  ⟨⟨flags, ancount, nscount, arcount, tail, rfl⟩⟩

theorem encodeTruncatedResponse_fits {question : Bytes}
    (encoded : encodeQuestion query = some question) (short : question.length ≤ 259)
    (rcode : Rcode) (opts : ResponseOptions) :
    ∃ response, encodeTruncatedResponse outside query rcode opts = some response ∧
      Repeats query question response ∧
      response.length ≤ udpPayloadLimit outside query := by
  rw [encodeTruncatedResponse, encoded]
  refine ⟨_, rfl, repeats_replyHeader _ _ _ _ _ _, ?_⟩
  · have opt := @length_responseOptRecord_le outside query
    have limit := @le_udpPayloadLimit outside query
    rw [List.length_append, List.length_append, length_replyHeader]
    omega

theorem repeats_sections (question answer authority additional opt : Bytes)
    (flags ancount nscount arcount : Nat) :
    Repeats query question (replyHeader query flags ancount nscount arcount ++
      question ++ answer ++ authority ++ additional ++ opt) := by
  have repeats : Repeats query question
      (replyHeader query flags ancount nscount arcount ++ question ++
        (answer ++ authority ++ additional ++ opt)) :=
    repeats_replyHeader question _ flags ancount nscount arcount
  simpa only [List.append_assoc] using repeats

theorem exists_maybeTruncateResponse {question : Bytes}
    (encoded : encodeQuestion query = some question) (response : Bytes) (rcode : Rcode)
    (opts : ResponseOptions) :
    ∃ reply, maybeTruncateResponse outside query response rcode opts = some reply := by
  rw [maybeTruncateResponse]
  split
  · rw [encodeTruncatedResponse, encoded]
    exact ⟨_, rfl⟩
  · exact ⟨response, rfl⟩

theorem maybeTruncateResponse_fits {question response reply : Bytes} {rcode : Rcode}
    {opts : ResponseOptions} (encoded : encodeQuestion query = some question)
    (short : question.length ≤ 259)
    (sent : maybeTruncateResponse outside query response rcode opts = some reply)
    (repeats : Repeats query question response) :
    Repeats query question reply ∧
      (opts.transport = some .udp → reply.length ≤ udpPayloadLimit outside query) := by
  rw [maybeTruncateResponse] at sent
  split at sent
  · obtain ⟨reply', truncated, same, fits⟩ :=
      @encodeTruncatedResponse_fits outside query _ encoded short rcode opts
    rw [truncated] at sent
    cases sent
    exact ⟨same, fun _ => fits⟩
  · rename_i long
    cases sent
    refine ⟨repeats, ?_⟩
    intro udp
    rw [not_and] at long
    exact Nat.le_of_not_lt (long udp)

theorem doEncodeResponse_fits {question reply : Bytes}
    {answers : List ResourceRecord} {rcode : Option Rcode} {opts : ResponseOptions}
    (encoded : encodeQuestion query = some question) (short : question.length ≤ 259)
    (done : doEncodeResponse outside query answers rcode opts = some reply) :
    Repeats query question reply ∧
      (opts.transport = some .udp → reply.length ≤ udpPayloadLimit outside query) := by
  rw [doEncodeResponse, encoded] at done
  simp only [Option.bind_eq_bind, Option.bind_eq_some_iff, Option.some.injEq,
    exists_eq_left'] at done
  obtain ⟨code, -, answer, -, authority, -, additional, -, sent⟩ := done
  exact maybeTruncateResponse_fits encoded short sent
    (repeats_sections _ _ _ _ _ _ _ _ _)

theorem exists_doEncodeResponse_servfail {question : Bytes}
    (encoded : encodeQuestion query = some question) (opts : ResponseOptions) :
    ∃ reply, doEncodeResponse outside query [] (some .servfail) opts.transportOpts =
      some reply := by
  have records : encodeRecords outside (normalizeOwner query.qname) [] = some [] := rfl
  rw [doEncodeResponse, encoded]
  simp only [Option.bind_eq_bind, Option.bind_some, records,
    ResponseOptions.transportOpts]
  exact exists_maybeTruncateResponse encoded _ _ _

theorem encodeResponse_fits {question : Bytes}
    (encoded : encodeQuestion query = some question) (short : question.length ≤ 259)
    (answers : List ResourceRecord) (rcode : Option Rcode) (opts : ResponseOptions) :
    ∃ reply, encodeResponse outside query answers rcode opts = some reply ∧
      Repeats query question reply ∧
      (opts.transport = some .udp → reply.length ≤ udpPayloadLimit outside query) := by
  rw [encodeResponse]
  cases done : doEncodeResponse outside query answers rcode opts with
  | some reply =>
      obtain ⟨repeats, fits⟩ := doEncodeResponse_fits encoded short done
      exact ⟨reply, rfl, repeats, fits⟩
  | none =>
      obtain ⟨reply, sent⟩ :=
        @exists_doEncodeResponse_servfail outside query _ encoded opts
      obtain ⟨repeats, fits⟩ := doEncodeResponse_fits encoded short sent
      exact ⟨reply, sent, repeats, fits⟩

theorem doEncodeResponse_eq_none (refused : encodeQuestion query = none)
    (answers : List ResourceRecord) (rcode : Option Rcode) (opts : ResponseOptions) :
    doEncodeResponse outside query answers rcode opts = none := by
  rw [doEncodeResponse, refused]
  cases rcode <;> rfl

theorem encodeResponse_eq_none (refused : encodeQuestion query = none)
    (answers : List ResourceRecord) (rcode : Option Rcode) (opts : ResponseOptions) :
    encodeResponse outside query answers rcode opts = none := by
  rw [encodeResponse, doEncodeResponse_eq_none refused]
  exact doEncodeResponse_eq_none refused _ _ _

theorem readHeader_replyHeader (small : query.id < 65536)
    (flags ancount nscount arcount : Nat) (rest : Bytes) :
    ∃ header, readHeader (replyHeader query flags ancount nscount arcount ++ rest) =
      some (header, rest) ∧ header.id = query.id ∧ header.qdcount = 1 :=
  ⟨_, rfl, wordOf_lowByte query.id small, rfl⟩

theorem decodeQuestion_of_repeats {name reply : Bytes} {type : Nat}
    (small : query.id < 65536) (encoded : encodeName query.qname = some name)
    (bounded : type < 65536) (asked : query.qtype = decodeType type)
    (repeats : Repeats query (name ++ word (encodeType query.qtype) ++ word 1) reply) :
    (readHeader reply).map (fun read => read.1.id) = some query.id ∧
      decodeQuestion reply = .ok { qname := join (labelsOf query.qname),
                                   qtype := query.qtype, qclass := 1 } := by
  obtain ⟨flags, ancount, nscount, arcount, tail, same⟩ := repeats.shape
  rw [List.append_assoc] at same
  obtain ⟨header, read, id, one⟩ := readHeader_replyHeader small flags ancount nscount
    arcount (name ++ word (encodeType query.qtype) ++ word 1 ++ tail)
  rw [← same] at read
  have question : decodeName 20 reply
      (name ++ (word (encodeType query.qtype) ++ (word 1 ++ tail))) =
        .ok (join (labelsOf query.qname),
          word (encodeType query.qtype) ++ (word 1 ++ tail)) :=
    decodeName_encodeName encoded 19 reply _
  have type_eq : wordOf (lowByte (encodeType query.qtype / 256 : Int))
      (lowByte (encodeType query.qtype)) = type := by
    rw [asked, encodeType_decodeType]
    exact wordOf_lowByte type bounded
  refine ⟨?_, ?_⟩
  · rw [read, Option.map_some, id]
  · rw [decodeQuestion, read]
    dsimp only
    rw [if_pos one, decodeQuestionAt, List.append_assoc, List.append_assoc, question]
    simp only [word, List.cons_append, List.nil_append, type_eq, ← asked]
    rfl

end

/-! ## The exact condition -/

/-- A query has the reply that it should have. -/
def Replied (outside : Outside) (query : ReceivedQuery) (answers : List ResourceRecord)
    (rcode : Option Rcode) (opts : ResponseOptions) : Prop :=
  ∃ reply, encodeResponse outside query answers rcode opts = some reply ∧
    (readHeader reply).map (fun read => read.1.id) = some query.id ∧
    (∃ question, decodeQuestion reply = .ok question ∧
      question.qname = query.qname ∧ question.qtype = query.qtype) ∧
    (opts.transport = some .udp → reply.length ≤ udpPayloadLimit outside query)

structure Answered (outside : Outside) (packet : Bytes) : Prop where
  query : Answers (decodeQuery outside packet)
  question : Answers (decodeQuestion packet)
  replied : ∀ query, decodeQuery outside packet = .ok query →
    ∀ answers rcode opts, Replied outside query answers rcode opts

/-- The text of a name can be sent: it is not too long, and no label of the first
fragment begins or ends with a dot or has two dots in a row. -/
def Sendable : List (List Bytes) → Prop
  | [] => True
  | labels :: fragments =>
      (∀ label ∈ labels, [] ∉ label.splitOn 46) ∧
        (nameOf (labels :: fragments)).length ≤ 253

structure Legible (outside : Outside) (packet : Bytes) : Prop where
  question : ∀ header body, readHeader packet = some (header, body) →
    header.qdcount = 1 → ¬ RunsOut packet 20 body
  records : ∀ header body question rest, readHeader packet = some (header, body) →
    header.queries → decodeQuestionAt packet body = .ok (question, rest) →
    question.qclass = 1 → ¬ RecordsRunOut packet header.arcount rest
  name : ∀ header body fragments, readHeader packet = some (header, body) →
    (∃ query, decodeQuery outside packet = .ok query) →
    Fragments packet body fragments → Sendable fragments

theorem Fragments.ne_nil {packet data : Bytes} {fragments : List (List Bytes)}
    (read : Fragments packet data fragments) : fragments ≠ [] := by
  cases read <;> exact List.cons_ne_nil _ _

theorem sendable_iff {packet data : Bytes} {fragments : List (List Bytes)}
    (read : Fragments packet data fragments) :
    Sendable fragments ↔ (∃ name, encodeName (nameOf fragments) = some name) ∧
      join (labelsOf (nameOf fragments)) = nameOf fragments := by
  have bounds := read.bounds
  have small := length_le_of_mem_labelsOf_nameOf fun labels member label own =>
    (bounds labels member label own).2
  cases fragments with
  | nil => exact absurd rfl read.ne_nil
  | cons labels fragments =>
      have given := @join_labelsOf_nameOf_iff labels fragments
        fun label own => (bounds labels List.mem_cons_self label own).1
      constructor
      · intro sendable
        have same := given.mpr sendable.1
        refine ⟨⟨_, encodeName_eq_some_iff.mpr ⟨?_, small, rfl⟩⟩, same⟩
        rw [trimDots_of_join_labelsOf same]
        exact sendable.2
      · intro sent
        obtain ⟨⟨name, encoded⟩, same⟩ := sent
        refine ⟨given.mp same, ?_⟩
        have short := (encodeName_eq_some_iff.mp encoded).1
        rwa [trimDots_of_join_labelsOf same] at short

theorem encodeResponse_of_accepted {outside : Outside} {packet name : Bytes}
    {query : ReceivedQuery} (accepted : Accepted packet query)
    (encoded : encodeName query.qname = some name) (answers : List ResourceRecord)
    (rcode : Option Rcode) (opts : ResponseOptions) :
    ∃ reply, encodeResponse outside query answers rcode opts = some reply ∧
      (readHeader reply).map (fun read => read.1.id) = some query.id ∧
      decodeQuestion reply = .ok { qname := join (labelsOf query.qname),
                                   qtype := query.qtype, qclass := 1 } ∧
      (opts.transport = some .udp → reply.length ≤ udpPayloadLimit outside query) := by
  obtain ⟨type, bounded, asked⟩ := accepted.type
  have question : encodeQuestion query =
      some (name ++ word (encodeType query.qtype) ++ word 1) := by
    rw [encodeQuestion, encoded]
    rfl
  have short := length_encodeName_le encoded
  have fitting : (name ++ word (encodeType query.qtype) ++ word 1).length ≤ 259 := by
    rw [List.length_append, List.length_append, length_word, length_word]
    omega
  obtain ⟨reply, sent, repeats, fits⟩ :=
    @encodeResponse_fits outside query _ question fitting answers rcode opts
  obtain ⟨id, decoded⟩ := decodeQuestion_of_repeats accepted.id encoded bounded asked
    repeats
  exact ⟨reply, sent, id, decoded, fits⟩

theorem replied_iff {outside : Outside} {packet body : Bytes} {header : Header}
    {query : ReceivedQuery} {fragments : List (List Bytes)}
    (accepted : Accepted packet query) (read : readHeader packet = some (header, body))
    (more : Fragments packet body fragments) :
    (∀ answers rcode opts, Replied outside query answers rcode opts) ↔
      Sendable fragments := by
  obtain ⟨header', body', fragments', read', -, more', qname⟩ := accepted.name
  rw [read] at read'
  cases read'
  rw [more'.unique more] at qname
  rw [sendable_iff more, ← qname]
  constructor
  · intro replied
    obtain ⟨reply, sent, -, ⟨question, decoded, same, -⟩, -⟩ :=
      replied [] (some .noerror) {}
    cases encoded : encodeName query.qname with
    | none =>
        have refused : encodeQuestion query = none := by
          rw [encodeQuestion, encoded]
          rfl
        rw [encodeResponse_eq_none refused] at sent
        cases sent
    | some name =>
        obtain ⟨reply', sent', -, decoded', -⟩ :=
          @encodeResponse_of_accepted outside packet _ query accepted encoded []
            (some .noerror) {}
        rw [sent] at sent'
        cases sent'
        rw [decoded] at decoded'
        cases decoded'
        exact ⟨⟨name, rfl⟩, same⟩
  · intro sendable answers rcode opts
    obtain ⟨⟨name, encoded⟩, same⟩ := sendable
    obtain ⟨reply, sent, id, decoded, fits⟩ :=
      @encodeResponse_of_accepted outside packet _ query accepted encoded answers rcode
        opts
    exact ⟨reply, sent, id, ⟨_, decoded, same, rfl⟩, fits⟩

/-- A packet is answered just when it is legible. -/
theorem answered_iff (outside : Outside) (packet : Bytes) :
    Answered outside packet ↔ Legible outside packet := by
  constructor
  · intro answered
    refine ⟨answers_decodeQuestion_iff.mp answered.question, ?_, ?_⟩
    · intro header body question rest read queries decoded internet
      have kept := (answers_decodeQuery_iff outside).mp answered.query header body read
        queries
      exact kept.2 question rest decoded internet
    · intro header body fragments read accepts more
      obtain ⟨query, decoded⟩ := accepts
      exact (replied_iff (accepted_of_decodeQuery decoded) read more).mp
        (answered.replied query decoded)
  · intro legible
    refine ⟨?_, answers_decodeQuestion_iff.mpr legible.question, ?_⟩
    · apply (answers_decodeQuery_iff outside).mpr
      intro header body read queries
      have one : header.qdcount = 1 := by
        simp only [Header.queries, Bool.and_eq_true, beq_iff_eq] at queries
        exact queries.1.1.1
      refine ⟨legible.question header body read one, ?_⟩
      intro question rest decoded internet
      exact legible.records header body question rest read queries decoded internet
    · intro query decoded
      have accepted := accepted_of_decodeQuery decoded
      obtain ⟨header, body, fragments, read, -, more, -⟩ := accepted.name
      exact (replied_iff accepted read more).mpr
        (legible.name header body fragments read ⟨query, decoded⟩ more)

def loneByte : Bytes :=
  [0, 1, 0, 0, 0, 1, 0, 0, 0, 0, 0, 0, 192]

theorem not_answered_loneByte :
    ¬ ∀ (outside : Outside) (packet : Bytes), Answered outside packet := by
  intro every
  have answered := every {} loneByte
  have raised : decodeQuestion loneByte = .raised := by decide
  rcases answered.question with ⟨question, ok⟩ | error
  · rw [raised] at ok
    cases ok
  · rw [raised] at error
    cases error

end Elektrine.DNS.Packet
