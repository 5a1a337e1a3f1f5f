import Mathlib.Data.List.Sort
import Elektrine.Library.Separated
import Elektrine.Messaging.ArblargSDK.EventPayloads
import Elektrine.Messaging.Federation.Utils

/-!
# Signed event envelopes

What is signed of an envelope is one text, a line for each field.  The validator
bounds some of the fields to a single line; the others are only required not to
be blank.
-/

namespace Elektrine.Messaging.ArblargSDK

open Elektrine.Library Federation

def protocolId : String := "arblarg"

def protocolName : String := "arblarg"

def validSignatureMap (signature : Json) : Bool :=
  signature.isMap &&
    (signature.get "algorithm").asString? == some signatureAlgorithm &&
    nonEmptyBinary (signature.get "key_id") &&
    nonEmptyBinary (signature.get "value")

def channelScopedDurableEventTypes : List String :=
  coreEventTypes ++
    [rolesRoleUpsertEventType, rolesRoleAssignmentUpsertEventType,
      permissionsOverwriteUpsertEventType, threadsThreadUpsertEventType,
      threadsThreadArchiveEventType, pinsPinUpsertEventType,
      moderationActionRecordedEventType]

def dmScopedDurableEventTypes : List String :=
  [dmMessageCreateEventType, voiceDmCallInviteEventType,
    voiceDmCallAcceptEventType, voiceDmCallRejectEventType,
    voiceDmCallEndEventType]

def validateExactStreamBinding (streamId : Json) (scope : String)
    (identifier : Option String) : Except Reason Unit :=
  match streamId, identifier with
  | .str streamId, some identifier =>
      ensure (streamId == scope ++ ":" ++ identifier) .invalidEventPayload
  | _, _ => .error .invalidEventPayload

def validateStreamBinding (eventType : String) (streamId payload : Json) :
    Except Reason Unit :=
  if eventType = bootstrapServerUpsertEventType then
    validateExactStreamBinding streamId "server"
      (payload.getIn ["server", "id"]).asString?
  else if channelScopedDurableEventTypes.contains eventType then
    validateExactStreamBinding streamId "channel"
      (contextIdentifier payload "channel")
  else if dmScopedDurableEventTypes.contains eventType then
    validateExactStreamBinding streamId "dm"
      (payload.getIn ["dm", "id"]).asString?
  else
    .ok ()

def validateEventEnvelope (envelope : Json) : Except Reason Unit := do
  ensure envelope.isMap .invalidPayload
  ensure ((envelope.get "protocol_id").asString? == some protocolId)
    .unsupportedProtocol
  ensure ((envelope.get "protocol").asString? == some protocolName)
    .unsupportedProtocol
  ensure ((envelope.get "protocol_version").asString? == some protocolVersion)
    .unsupportedVersion
  ensure (oneOf durableEventTypes (envelope.get "event_type"))
    .unsupportedEventType
  ensure (nonEmptyBinary (envelope.get "event_id")) .invalidEventId
  ensure (nonEmptyBinary (envelope.get "origin_domain")) .invalidOriginDomain
  ensure (nonEmptyBinary (envelope.get "stream_id")) .invalidStreamId
  ensure (0 < parseInt (envelope.get "sequence") 0) .invalidSequence
  ensure (nonEmptyBinary (envelope.get "idempotency_key"))
    .invalidIdempotencyKey
  ensure (validIso8601 (envelope.get "sent_at")) .invalidSentAt
  ensure (envelope.get "payload").isMap .invalidEventPayload
  ensure (validSignatureMap (envelope.get "signature")) .invalidSignature
  let eventType :=
    canonicalEventType (((envelope.get "event_type").asString?).getD "")
  validateEventPayload eventType (envelope.get "payload")
  validateStreamBinding eventType (envelope.get "stream_id")
    (envelope.get "payload")

/-- The texts that values are written as: `Jason.encode!` escapes line breaks,
and `to_string` is asked for what is not a string. -/
structure TextEncoding where
  encode : Json → String
  encode_singleLine : ∀ value, '\n' ∉ (encode value).toList
  toText : Json → String

/-- `to_string(value || "")`. -/
def TextEncoding.fieldText (encoding : TextEncoding) (value : Json) : String :=
  match value.orElse (.str "") with
  | .str text => text
  | other => encoding.toText other

def distinctFields (fields : List (String × String)) :
    List (String × String) :=
  fields.foldr
    (fun field kept => field :: kept.filter fun other => other.1 != field.1) []

mutual

def canonicalJson (encoding : TextEncoding) : Json → String
  | .obj fields =>
      let sorted := (distinctFields (canonicalFields encoding fields)).insertionSort
        fun left right => left.1 ≤ right.1
      "\x7b" ++
        ",".intercalate (sorted.map fun field =>
          encoding.encode (.str field.1) ++ ":" ++ field.2) ++
        "\x7d"
  | .arr items => "[" ++ ",".intercalate (canonicalItems encoding items) ++ "]"
  | value => encoding.encode value

def canonicalFields (encoding : TextEncoding) :
    List (String × Json) → List (String × String)
  | [] => []
  | (key, value) :: rest =>
      (key, canonicalJson encoding value) :: canonicalFields encoding rest

def canonicalItems (encoding : TextEncoding) : List Json → List String
  | [] => []
  | value :: rest =>
      canonicalJson encoding value :: canonicalItems encoding rest

end

def eventSignatureFields (encoding : TextEncoding) (envelope : Json) :
    List String :=
  [protocolId,
    encoding.fieldText (envelope.get "protocol_version"),
    encoding.fieldText (envelope.get "event_type"),
    encoding.fieldText (envelope.get "event_id"),
    encoding.fieldText (envelope.get "origin_domain"),
    encoding.fieldText (envelope.get "stream_id"),
    toString (parseInt (envelope.get "sequence") 0),
    encoding.fieldText (envelope.get "sent_at"),
    encoding.fieldText (envelope.get "idempotency_key"),
    canonicalJson encoding ((envelope.get "payload").orElse (.obj []))]

def canonicalEventSignaturePayload (encoding : TextEncoding) (envelope : Json) :
    String :=
  "\n".intercalate (eventSignatureFields encoding envelope)

def newlines (text : String) : Nat :=
  text.toList.count '\n'

theorem newlines_eq_zero_iff {text : String} :
    newlines text = 0 ↔ '\n' ∉ text.toList :=
  List.count_eq_zero

theorem newline_not_mem_intercalate {pieces : List String}
    (single : ∀ piece ∈ pieces, '\n' ∉ piece.toList) :
    '\n' ∉ (",".intercalate pieces).toList := by
  rw [String.toList_intercalate]
  apply not_mem_intercalate (by decide)
  intro characters member
  obtain ⟨piece, there, rfl⟩ := List.mem_map.mp member
  exact single piece there

theorem distinctFields_sublist (fields : List (String × String)) :
    (distinctFields fields).Sublist fields := by
  induction fields with
  | nil => exact List.Sublist.refl _
  | cons field fields ih => exact (List.filter_sublist.trans ih).cons_cons field

theorem newline_not_mem_of_positive {number : Int} (positive : 0 < number) :
    '\n' ∉ (toString number).toList := by
  rw [Int.toString_eq_repr, Int.repr_eq_if, if_pos positive.le, Nat.toList_repr]
  intro newline
  have digit := Nat.isDigit_of_mem_toDigits (by decide) (by decide) newline
  cases digit

theorem eq_of_toString_eq {first second : Int} (positive : 0 < first)
    (positive' : 0 < second) (same : toString first = toString second) :
    first = second := by
  rw [Int.toString_eq_repr, Int.toString_eq_repr, Int.repr_eq_if, Int.repr_eq_if,
    if_pos positive.le, if_pos positive'.le] at same
  have digits := congrArg String.toList same
  rw [Nat.toList_repr, Nat.toList_repr] at digits
  have numbers := congrArg (fun digits => Nat.ofDigitChars 10 digits 0) digits
  simp only [Nat.ofDigitChars_ten_toDigits] at numbers
  omega

mutual

theorem newline_not_mem_canonicalJson (encoding : TextEncoding) :
    (value : Json) → '\n' ∉ (canonicalJson encoding value).toList
  | .obj fields => by
      have single := newline_not_mem_canonicalFields encoding fields
      simp only [canonicalJson, String.toList_append, List.mem_append, not_or]
      refine ⟨⟨by decide, newline_not_mem_intercalate ?_⟩, by decide⟩
      intro piece member
      obtain ⟨field, sorted, rfl⟩ := List.mem_map.mp member
      have written := (distinctFields_sublist _).subset
        (List.mem_insertionSort _ |>.mp sorted)
      simp only [String.toList_append, List.mem_append, not_or]
      exact ⟨⟨encoding.encode_singleLine _, by decide⟩, single field written⟩
  | .arr items => by
      have single := newline_not_mem_canonicalItems encoding items
      simp only [canonicalJson, String.toList_append, List.mem_append, not_or]
      exact ⟨⟨by decide, newline_not_mem_intercalate single⟩, by decide⟩
  | .null | .bool _ | .int _ | .float _ _ | .str _ =>
      encoding.encode_singleLine _

theorem newline_not_mem_canonicalFields (encoding : TextEncoding) :
    (fields : List (String × Json)) →
      ∀ field ∈ canonicalFields encoding fields, '\n' ∉ field.2.toList
  | [] => by
      intro field member
      cases member
  | (key, value) :: rest => by
      have first := newline_not_mem_canonicalJson encoding value
      have others := newline_not_mem_canonicalFields encoding rest
      intro field member
      rcases List.mem_cons.mp member with rfl | member
      · exact first
      · exact others field member

theorem newline_not_mem_canonicalItems (encoding : TextEncoding) :
    (items : List Json) →
      ∀ item ∈ canonicalItems encoding items, '\n' ∉ item.toList
  | [] => by
      intro item member
      cases member
  | value :: rest => by
      have first := newline_not_mem_canonicalJson encoding value
      have others := newline_not_mem_canonicalItems encoding rest
      intro item member
      rcases List.mem_cons.mp member with rfl | member
      · exact first
      · exact others item member

end

structure SignedFields (envelope : Json) where
  eventType : String
  eventId : String
  originDomain : String
  streamId : String
  sentAt : String
  idempotencyKey : String
  protocolIdentifier : envelope.get "protocol_id" = .str protocolId
  protocol : envelope.get "protocol" = .str protocolName
  version : envelope.get "protocol_version" = .str protocolVersion
  durable : eventType ∈ durableEventTypes
  eventType_eq : envelope.get "event_type" = .str eventType
  eventId_eq : envelope.get "event_id" = .str eventId
  originDomain_eq : envelope.get "origin_domain" = .str originDomain
  streamId_eq : envelope.get "stream_id" = .str streamId
  sequence : 0 < parseInt (envelope.get "sequence") 0
  sentAt_eq : envelope.get "sent_at" = .str sentAt
  timestamp : (DateTime.fromIso8601 sentAt).isSome = true
  idempotencyKey_eq : envelope.get "idempotency_key" = .str idempotencyKey
  payload : (envelope.get "payload").isMap = true

theorem exists_str_of_nonEmptyBinary {value : Json}
    (filled : nonEmptyBinary value = true) : ∃ text, value = .str text := by
  cases value with
  | str text => exact ⟨text, rfl⟩
  | _ => cases filled

theorem nonempty_signedFields {envelope : Json}
    (accepted : validateEventEnvelope envelope = .ok ()) :
    Nonempty (SignedFields envelope) := by
  simp only [validateEventEnvelope, ensure_bind_eq_ok_iff] at accepted
  obtain ⟨-, protocolIdentifier, protocol, version, type, eventId, origin, stream,
    sequence, key, sentAt, payload, -⟩ := accepted
  obtain ⟨eventId, eventId_eq⟩ := exists_str_of_nonEmptyBinary eventId
  obtain ⟨origin, origin_eq⟩ := exists_str_of_nonEmptyBinary origin
  obtain ⟨stream, stream_eq⟩ := exists_str_of_nonEmptyBinary stream
  obtain ⟨key, key_eq⟩ := exists_str_of_nonEmptyBinary key
  cases type_eq : envelope.get "event_type" with
  | str eventType =>
      cases sent_eq : envelope.get "sent_at" with
      | str sent =>
          rw [type_eq] at type
          rw [sent_eq] at sentAt
          exact ⟨{
            eventType := eventType
            eventId := eventId
            originDomain := origin
            streamId := stream
            sentAt := sent
            idempotencyKey := key
            protocolIdentifier :=
              Json.asString?_eq_some_iff.mp (eq_of_beq protocolIdentifier)
            protocol := Json.asString?_eq_some_iff.mp (eq_of_beq protocol)
            version := Json.asString?_eq_some_iff.mp (eq_of_beq version)
            durable := by simpa [oneOf] using type
            eventType_eq := type_eq
            eventId_eq := eventId_eq
            originDomain_eq := origin_eq
            streamId_eq := stream_eq
            sequence := by simpa using sequence
            sentAt_eq := sent_eq
            timestamp := sentAt
            idempotencyKey_eq := key_eq
            payload := payload }⟩
      | _ =>
          rw [sent_eq] at sentAt
          cases sentAt
  | _ =>
      rw [type_eq] at type
      cases type

/-- Two envelopes say the same, but for their signatures; sequences are the
numbers that they stand for. -/
structure Agrees (encoding : TextEncoding) (first second : Json) : Prop where
  protocolIdentifier : first.get "protocol_id" = second.get "protocol_id"
  protocol : first.get "protocol" = second.get "protocol"
  version : first.get "protocol_version" = second.get "protocol_version"
  eventId : first.get "event_id" = second.get "event_id"
  eventType : first.get "event_type" = second.get "event_type"
  originDomain : first.get "origin_domain" = second.get "origin_domain"
  streamId : first.get "stream_id" = second.get "stream_id"
  sequence : parseInt (first.get "sequence") 0 =
    parseInt (second.get "sequence") 0
  sentAt : first.get "sent_at" = second.get "sent_at"
  idempotencyKey : first.get "idempotency_key" = second.get "idempotency_key"
  payload : canonicalJson encoding (first.get "payload") =
    canonicalJson encoding (second.get "payload")

def freeFields : List String :=
  ["event_id", "origin_domain", "stream_id", "idempotency_key"]

/-- The free fields of two envelopes have the same numbers of line breaks. -/
def SameLines (encoding : TextEncoding) (first second : Json) : Prop :=
  ∀ field ∈ freeFields,
    newlines (encoding.fieldText (first.get field)) =
      newlines (encoding.fieldText (second.get field))

namespace SignedFields

variable {encoding : TextEncoding} {envelope first second : Json}

theorem eventSignatureFields_eq (fields : SignedFields envelope) :
    eventSignatureFields encoding envelope =
      [protocolId, protocolVersion, fields.eventType, fields.eventId,
        fields.originDomain, fields.streamId,
        toString (parseInt (envelope.get "sequence") 0), fields.sentAt,
        fields.idempotencyKey, canonicalJson encoding (envelope.get "payload")] := by
  have payload : (envelope.get "payload").orElse (.obj []) =
      envelope.get "payload" := by
    have map := fields.payload
    cases field : envelope.get "payload" <;> simp_all [Json.isMap, Json.orElse]
  rw [eventSignatureFields, payload, fields.version, fields.eventType_eq,
    fields.eventId_eq, fields.originDomain_eq, fields.streamId_eq,
    fields.sentAt_eq, fields.idempotencyKey_eq]
  rfl

theorem newlines_eventType (fields : SignedFields envelope) :
    newlines fields.eventType = 0 := by
  have single : ∀ eventType ∈ durableEventTypes, newlines eventType = 0 := by
    decide
  exact single _ fields.durable

theorem newlines_sentAt (fields : SignedFields envelope) :
    newlines fields.sentAt = 0 := by
  obtain ⟨timestamp, parsed⟩ := Option.isSome_iff_exists.mp fields.timestamp
  exact newlines_eq_zero_iff.mpr (DateTime.newline_not_mem_of_fromIso8601 parsed)

theorem newlines_sequence (fields : SignedFields envelope) :
    newlines (toString (parseInt (envelope.get "sequence") 0)) = 0 :=
  newlines_eq_zero_iff.mpr (newline_not_mem_of_positive fields.sequence)

theorem sameLines_iff (left : SignedFields first) (right : SignedFields second) :
    SameLines encoding first second ↔
      newlines left.eventId = newlines right.eventId ∧
        newlines left.originDomain = newlines right.originDomain ∧
        newlines left.streamId = newlines right.streamId ∧
        newlines left.idempotencyKey = newlines right.idempotencyKey := by
  simp only [SameLines, freeFields, List.forall_mem_cons, List.not_mem_nil,
    left.eventId_eq, right.eventId_eq, left.originDomain_eq,
    right.originDomain_eq, left.streamId_eq, right.streamId_eq,
    left.idempotencyKey_eq, right.idempotencyKey_eq]
  simp [TextEncoding.fieldText]

end SignedFields

/-- Two envelopes with the same signed text agree exactly when their free fields
have the same numbers of line breaks. -/
theorem agrees_iff_sameLines (encoding : TextEncoding) (first second : Json)
    (acceptedFirst : validateEventEnvelope first = .ok ())
    (acceptedSecond : validateEventEnvelope second = .ok ())
    (signedAlike : canonicalEventSignaturePayload encoding first =
      canonicalEventSignaturePayload encoding second) :
    Agrees encoding first second ↔ SameLines encoding first second := by
  obtain ⟨left⟩ := nonempty_signedFields acceptedFirst
  obtain ⟨right⟩ := nonempty_signedFields acceptedSecond
  constructor
  · intro agrees field member
    have same : first.get field = second.get field := by
      simp only [freeFields, List.mem_cons, List.not_mem_nil, or_false] at member
      rcases member with rfl | rfl | rfl | rfl
      · exact agrees.eventId
      · exact agrees.originDomain
      · exact agrees.streamId
      · exact agrees.idempotencyKey
    rw [same]
  · intro sameLines
    obtain ⟨eventIds, origins, streams, keys⟩ :=
      (left.sameLines_iff right).mp sameLines
    have lines : eventSignatureFields encoding first =
        eventSignatureFields encoding second := by
      have joined := congrArg String.toList signedAlike
      rw [canonicalEventSignaturePayload, canonicalEventSignaturePayload,
        String.toList_intercalate, String.toList_intercalate] at joined
      have injective : Function.Injective String.toList :=
        fun _ _ same => String.toList_inj.mp same
      apply List.map_injective_iff.mpr injective
      refine intercalate_inj_of_counts ?_ joined
      rw [List.map_map, List.map_map]
      change (eventSignatureFields encoding first).map newlines =
        (eventSignatureFields encoding second).map newlines
      rw [left.eventSignatureFields_eq, right.eventSignatureFields_eq]
      simp only [List.map_cons, List.map_nil, left.newlines_eventType,
        right.newlines_eventType, left.newlines_sentAt, right.newlines_sentAt,
        left.newlines_sequence, right.newlines_sequence, eventIds, origins, streams,
        keys, newlines_eq_zero_iff.mpr (newline_not_mem_canonicalJson encoding _)]
    rw [left.eventSignatureFields_eq, right.eventSignatureFields_eq] at lines
    simp only [List.cons.injEq, true_and, and_true] at lines
    obtain ⟨eventType, eventId, origin, stream, sequence, sentAt, key, payload⟩ :=
      lines
    exact {
      protocolIdentifier :=
        left.protocolIdentifier.trans right.protocolIdentifier.symm
      protocol := left.protocol.trans right.protocol.symm
      version := left.version.trans right.version.symm
      eventId := by rw [left.eventId_eq, right.eventId_eq, eventId]
      eventType := by rw [left.eventType_eq, right.eventType_eq, eventType]
      originDomain := by rw [left.originDomain_eq, right.originDomain_eq, origin]
      streamId := by rw [left.streamId_eq, right.streamId_eq, stream]
      sequence := eq_of_toString_eq left.sequence right.sequence sequence
      sentAt := by rw [left.sentAt_eq, right.sentAt_eq, sentAt]
      idempotencyKey := by
        rw [left.idempotencyKey_eq, right.idempotencyKey_eq, key]
      payload := payload }

def escapeCharacter (character : Char) : List Char :=
  if character = '"' then ['\\', '"']
  else if character = '\\' then ['\\', '\\']
  else if character = '\n' then ['\\', 'n']
  else [character]

def plainEncoding : TextEncoding where
  encode
    | .str text =>
        String.ofList (['"'] ++ text.toList.flatMap escapeCharacter ++ ['"'])
    | .bool true => "true"
    | .bool false => "false"
    | _ => "null"
  encode_singleLine value := by
    cases value with
    | str text =>
        have escaped : ∀ character, '\n' ∉ escapeCharacter character := by
          intro character
          unfold escapeCharacter
          split_ifs with quote slash line
          · decide
          · decide
          · decide
          · simpa using Ne.symm line
        simp [escaped]
    | bool value => cases value <;> decide
    | _ => exact (by decide : '\n' ∉ "null".toList)
  toText _ := ""

def deletionEnvelope (eventId originDomain : String) (sequence : Json) : Json :=
  .obj [("protocol_id", .str "arblarg"), ("protocol", .str "arblarg"),
    ("protocol_version", .str "1.0"), ("event_type", .str "message.delete"),
    ("event_id", .str eventId), ("origin_domain", .str originDomain),
    ("stream_id", .str "channel:https://a.example/channels/1"),
    ("sequence", sequence), ("sent_at", .str "2026-01-01T00:00:00Z"),
    ("idempotency_key", .str "key"),
    ("payload", .obj [("refs", .obj
      [("server_id", .str "https://a.example/servers/1"),
        ("channel_id", .str "https://a.example/channels/1")]),
      ("message_id", .str "1")]),
    ("signature", .obj [("algorithm", .str "ed25519"), ("key_id", .str "k"),
      ("value", .str "v")])]

theorem line_break_moves_between_fields :
    ¬ ∀ encoding first second,
        validateEventEnvelope first = .ok () →
        validateEventEnvelope second = .ok () →
        canonicalEventSignaturePayload encoding first =
          canonicalEventSignaturePayload encoding second →
        Agrees encoding first second := by
  intro binds
  have agrees := binds plainEncoding (deletionEnvelope "a\nb" "c" (.int 1))
    (deletionEnvelope "a" "b\nc" (.int 1)) rfl rfl (by decide +kernel)
  have same := Json.str.inj agrees.eventId
  revert same
  decide

theorem agrees_iff_sameLines_deletion :
    Agrees plainEncoding (deletionEnvelope "a" "b" (.int 1))
        (deletionEnvelope "a" "b" (.str "1")) ↔
      SameLines plainEncoding (deletionEnvelope "a" "b" (.int 1))
        (deletionEnvelope "a" "b" (.str "1")) :=
  agrees_iff_sameLines plainEncoding _ _ rfl rfl rfl

end Elektrine.Messaging.ArblargSDK
