import Elektrine.Data.Bytes
import Elektrine.Library.Incremental
import Elektrine.Messaging.FederationSessionClient

/-!
# Frames of the websocket

The frames that the client of a federation session writes, and the decoder of the frames
that its peer sends.  A frame is a header with one of three forms of the length, followed by
the payload, which may be masked.
-/

namespace Elektrine.Messaging

open Elektrine.Library

structure Mask where
  first : UInt8
  second : UInt8
  third : UInt8
  fourth : UInt8

def Mask.bytes (mask : Mask) : Bytes :=
  [mask.first, mask.second, mask.third, mask.fourth]

/-- `Enum.at(mask_bytes, rem(index, 4))`. -/
def Mask.byteAt (mask : Mask) (index : Nat) : UInt8 :=
  match index % 4 with
  | 0 => mask.first
  | 1 => mask.second
  | 2 => mask.third
  | _ => mask.fourth

def maskPayload (payload : Bytes) (mask : Mask) : Bytes :=
  payload.mapIdx fun index byte => byte ^^^ mask.byteAt index

/-- `<<value::64>>`. -/
def quad (value : Int) : Bytes :=
  long (value / 4294967296) ++ long value

def quadOf (a b c d e f g h : UInt8) : Nat :=
  ((wordOf a b * 65536 + wordOf c d) * 65536 + wordOf e f) * 65536 + wordOf g h

/-- The length with the bit for a mask; the bits are apart, so that `|||` adds. -/
def lengthPrefix (length : Nat) (masked : Bool) : Bytes :=
  let maskBit := if masked then 128 else 0
  if length < 126 then byte (maskBit + length)
  else if length ≤ 65535 then byte (maskBit + 126) ++ word length
  else byte (maskBit + 127) ++ quad length

inductive DataOpcode where
  | text
  | binary

def DataOpcode.code : DataOpcode → Fin 16
  | .text => 1
  | .binary => 2

inductive ControlOpcode where
  | ping
  | pong

def ControlOpcode.code : ControlOpcode → Fin 16
  | .ping => 9
  | .pong => 10

def clientFrame (code : Fin 16) (payload : Bytes) (mask : Mask) : Bytes :=
  byte (128 + code) ++ lengthPrefix payload.length true ++ mask.bytes ++
    maskPayload payload mask

def encodeClientFrame (opcode : DataOpcode) (payload : Bytes) (mask : Mask) : Bytes :=
  clientFrame opcode.code payload mask

def encodeClientControl (opcode : ControlOpcode) (payload : Bytes) (mask : Mask) : Bytes :=
  clientFrame opcode.code payload mask

inductive SessionFrame where
  | text (payload : Bytes)
  | binary (payload : Bytes)
  | close (payload : Bytes)
  | ping (payload : Bytes)
  | pong (payload : Bytes)

def frameOf (opcode : Nat) (payload : Bytes) : Option SessionFrame :=
  match opcode with
  | 1 => some (.text payload)
  | 2 => some (.binary payload)
  | 8 => some (.close payload)
  | 9 => some (.ping payload)
  | 10 => some (.pong payload)
  | _ => none

def parsePayloadLength (length : Nat) (rest : Bytes) : Option (Nat × Bytes) :=
  if length = 126 then
    match rest with
    | a :: b :: rest => some (wordOf a b, rest)
    | _ => none
  else if length = 127 then
    match rest with
    | a :: b :: c :: d :: e :: f :: g :: h :: rest => some (quadOf a b c d e f g h, rest)
    | _ => none
  else some (length, rest)

def parseMask (masked : Bool) (rest : Bytes) : Option (Option Mask × Bytes) :=
  if masked then
    match rest with
    | a :: b :: c :: d :: rest => some (some ⟨a, b, c, d⟩, rest)
    | _ => none
  else some (none, rest)

def parsePayload (buffer : Bytes) (payloadLength : Nat) : Option (Bytes × Bytes) :=
  if buffer.length < payloadLength then none
  else some (buffer.take payloadLength, buffer.drop payloadLength)

def unmask (mask : Option Mask) (payload : Bytes) : Bytes :=
  match mask with
  | some mask => maskPayload payload mask
  | none => payload

def parseBody (second : UInt8) (rest : Bytes) : Option (Bytes × Bytes) := do
  let (payloadLength, rest) ← parsePayloadLength (second.toNat % 128) rest
  let (mask, rest) ← parseMask (128 ≤ second.toNat) rest
  let (payload, rest) ← parsePayload rest payloadLength
  some (unmask mask payload, rest)

def decodeServerFrame : Bytes → Decoding UInt8 SessionFrame SessionReason
  | [] => .more
  | [_] => .raised
  | first :: second :: rest =>
      if first.toNat < 128 then .failed .invalidSessionFrame
      else
        match parseBody second rest with
        | none => .more
        | some (payload, rest) =>
            match frameOf (first.toNat % 16) payload with
            | some frame => .item frame rest
            | none => .failed .invalidSessionFrame

section
variable {rest left later : Bytes}

theorem parsePayloadLength_append {length found : Nat}
    (parsed : parsePayloadLength length rest = some (found, left)) (later : Bytes) :
    parsePayloadLength length (rest ++ later) = some (found, left ++ later) := by
  unfold parsePayloadLength at parsed ⊢
  split at parsed
  · split at parsed
    · cases parsed
      rw [if_pos ‹_›]
      rfl
    · cases parsed
  · split at parsed
    · split at parsed
      · cases parsed
        rw [if_neg ‹_›, if_pos ‹_›]
        rfl
      · cases parsed
    · cases parsed
      rw [if_neg ‹_›, if_neg ‹_›]

theorem parseMask_append {masked : Bool} {found : Option Mask}
    (parsed : parseMask masked rest = some (found, left)) (later : Bytes) :
    parseMask masked (rest ++ later) = some (found, left ++ later) := by
  unfold parseMask at parsed ⊢
  split at parsed
  · split at parsed
    · cases parsed
      rw [if_pos ‹_›]
      rfl
    · cases parsed
  · cases parsed
    rw [if_neg ‹_›]

theorem parsePayload_append {length : Nat} {found : Bytes}
    (parsed : parsePayload rest length = some (found, left)) (later : Bytes) :
    parsePayload (rest ++ later) length = some (found, left ++ later) := by
  unfold parsePayload at parsed ⊢
  split at parsed
  · cases parsed
  · rename_i enough
    have within := Nat.le_of_not_lt enough
    cases parsed
    rw [if_neg, List.take_append_of_le_length within, List.drop_append_of_le_length within]
    rw [List.length_append]
    omega

theorem parseBody_eq_some_iff {second : UInt8} {payload : Bytes} :
    parseBody second rest = some (payload, left) ↔
      ∃ length first mask next found,
        parsePayloadLength (second.toNat % 128) rest = some (length, first) ∧
        parseMask (128 ≤ second.toNat) first = some (mask, next) ∧
        parsePayload next length = some (found, left) ∧ unmask mask found = payload := by
  unfold parseBody
  simp only [Option.bind_eq_bind, Option.bind_eq_some_iff, Prod.exists, Option.some.injEq,
    Prod.mk.injEq]
  constructor
  · intro parsed
    obtain ⟨length, first, one, mask, next, two, found, last, three, four, rfl⟩ := parsed
    exact ⟨length, first, mask, next, found, one, two, three, four⟩
  · intro parsed
    obtain ⟨length, first, mask, next, found, one, two, three, four⟩ := parsed
    exact ⟨length, first, one, mask, next, two, found, left, three, four, rfl⟩

theorem parseBody_append {second : UInt8} {payload : Bytes}
    (parsed : parseBody second rest = some (payload, left)) (later : Bytes) :
    parseBody second (rest ++ later) = some (payload, left ++ later) := by
  obtain ⟨length, first, mask, next, found, one, two, three, four⟩ :=
    parseBody_eq_some_iff.mp parsed
  exact parseBody_eq_some_iff.mpr ⟨length, first ++ later, mask, next ++ later, found,
    parsePayloadLength_append one later, parseMask_append two later,
    parsePayload_append three later, four⟩

theorem length_of_parseBody {second : UInt8} {payload : Bytes}
    (parsed : parseBody second rest = some (payload, left)) : left.length ≤ rest.length := by
  obtain ⟨length, first, mask, next, found, one, two, three, -⟩ :=
    parseBody_eq_some_iff.mp parsed
  have firstLength : first.length ≤ rest.length := by
    unfold parsePayloadLength at one
    split at one
    · split at one
      · cases one
        simp only [List.length_cons]
        omega
      · cases one
    · split at one
      · split at one
        · cases one
          simp only [List.length_cons]
          omega
        · cases one
      · cases one
        exact Nat.le_refl _
  have nextLength : next.length ≤ first.length := by
    unfold parseMask at two
    split at two
    · split at two
      · cases two
        simp only [List.length_cons]
        omega
      · cases two
    · cases two
      exact Nat.le_refl _
  have leftLength : left.length ≤ next.length := by
    unfold parsePayload at three
    split at three
    · cases three
    · cases three
      rw [List.length_drop]
      omega
  omega

end

theorem decodeServerFrame_eq_item_iff {buffer : Bytes} {frame : SessionFrame} {rest : Bytes} :
    decodeServerFrame buffer = .item frame rest ↔
      ∃ first second body payload, buffer = first :: second :: body ∧
        ¬first.toNat < 128 ∧ parseBody second body = some (payload, rest) ∧
        frameOf (first.toNat % 16) payload = some frame := by
  constructor
  · intro found
    unfold decodeServerFrame at found
    split at found
    · cases found
    · cases found
    · rename_i first second body
      split at found
      · cases found
      · rename_i final
        split at found
        · cases found
        · rename_i payload left parsed
          split at found
          · rename_i known
            cases found
            exact ⟨first, second, body, payload, rfl, final, parsed, known⟩
          · cases found
  · intro found
    obtain ⟨first, second, body, payload, rfl, final, parsed, known⟩ := found
    rw [decodeServerFrame, if_neg final, parsed]
    dsimp only
    rw [known]

def serverDecoder : Decoder UInt8 SessionFrame SessionReason where
  decode := decodeServerFrame
  empty := rfl
  shortens found := by
    obtain ⟨first, second, body, payload, rfl, -, parsed, -⟩ :=
      decodeServerFrame_eq_item_iff.mp found
    have shorter := length_of_parseBody parsed
    simp only [List.length_cons]
    omega
  item_append found later := by
    obtain ⟨first, second, body, payload, rfl, final, parsed, known⟩ :=
      decodeServerFrame_eq_item_iff.mp found
    exact decodeServerFrame_eq_item_iff.mpr ⟨first, second, body ++ later, payload, rfl, final,
      parseBody_append parsed later, known⟩
  failed_append {buffer reason} found later := by
    unfold decodeServerFrame at found
    split at found
    · cases found
    · cases found
    · rename_i first second body
      rw [List.cons_append, List.cons_append, decodeServerFrame]
      split at found
      · cases found
        rw [if_pos ‹_›]
      · rw [if_neg ‹_›]
        split at found
        · cases found
        · rename_i payload left parsed
          rw [parseBody_append parsed later]
          split at found
          · cases found
          · rename_i unknown
            cases found
            dsimp only
            rw [unknown]

inductive LengthForm where
  | inline
  | word
  | quad
  deriving DecidableEq

def LengthForm.fits (form : LengthForm) (length : Nat) : Prop :=
  match form with
  | .inline => length < 126
  | .word => length < 65536
  | .quad => length < 18446744073709551616

def LengthForm.shortest (length : Nat) : LengthForm :=
  if length < 126 then .inline else if length < 65536 then .word else .quad

def LengthForm.bytes (form : LengthForm) (masked : Bool) (length : Nat) : Bytes :=
  let maskBit := if masked then 128 else 0
  match form with
  | .inline => byte (maskBit + length)
  | .word => byte (maskBit + 126) ++ Elektrine.word length
  | .quad => byte (maskBit + 127) ++ Messaging.quad length

structure FrameHeader where
  final : Bool
  reserved : Fin 8
  opcode : Fin 16
  mask : Option Mask
  form : LengthForm
  length : Nat
  fits : form.fits length

def FrameHeader.bytes (header : FrameHeader) : Bytes :=
  byte ((if header.final then 128 else 0) + 16 * header.reserved + header.opcode) ++
    header.form.bytes header.mask.isSome header.length ++
    (header.mask.map Mask.bytes).getD []

structure SentFrame where
  header : FrameHeader
  payload : Bytes
  sized : payload.length = header.length

def SentFrame.bytes (frame : SentFrame) : Bytes :=
  frame.header.bytes ++ unmask frame.header.mask frame.payload

def SentFrame.accepted (frame : SentFrame) : Bool :=
  frame.header.final && (frameOf frame.header.opcode frame.payload).isSome

theorem maskPayload_maskPayload (payload : Bytes) (mask : Mask) :
    maskPayload (maskPayload payload mask) mask = payload := by
  apply List.ext_getElem?
  intro index
  rw [maskPayload, maskPayload, List.getElem?_mapIdx, List.getElem?_mapIdx]
  cases payload[index]? with
  | none => rfl
  | some byte =>
      rw [Option.map_some, Option.map_some, UInt8.xor_assoc, UInt8.xor_self, UInt8.xor_zero]

theorem length_maskPayload (payload : Bytes) (mask : Mask) :
    (maskPayload payload mask).length = payload.length :=
  List.length_mapIdx

theorem unmask_unmask (mask : Option Mask) (payload : Bytes) :
    unmask mask (unmask mask payload) = payload := by
  cases mask with
  | none => rfl
  | some mask => exact maskPayload_maskPayload payload mask

theorem length_unmask (mask : Option Mask) (payload : Bytes) :
    (unmask mask payload).length = payload.length := by
  cases mask with
  | none => rfl
  | some mask => exact length_maskPayload payload mask

theorem wordOf_mod (value : Int) :
    wordOf (lowByte (value / 256)) (lowByte value) = (value % 65536).toNat := by
  rw [wordOf, toNat_lowByte, toNat_lowByte]
  omega

theorem quadOf_mod (value : Nat) (small : value < 18446744073709551616) :
    ((((value : Int) / 4294967296 / 65536 % 65536).toNat * 65536 +
          ((value : Int) / 4294967296 % 65536).toNat) * 65536 +
        ((value : Int) / 65536 % 65536).toNat) * 65536 +
      ((value : Int) % 65536).toNat = value := by
  omega

theorem quadOf_quad (value : Nat) (small : value < 18446744073709551616) (rest : Bytes) :
    ∃ a b c d e f g h, quad value ++ rest = a :: b :: c :: d :: e :: f :: g :: h :: rest ∧
      quadOf a b c d e f g h = value := by
  refine ⟨lowByte (value / 4294967296 / 65536 / 256), lowByte (value / 4294967296 / 65536),
    lowByte (value / 4294967296 / 256), lowByte (value / 4294967296),
    lowByte (value / 65536 / 256), lowByte (value / 65536), lowByte (value / 256),
    lowByte value, ?_, ?_⟩
  · rw [quad, long, long, word, word, word, word]
    rfl
  · rw [quadOf, wordOf_mod, wordOf_mod, wordOf_mod, wordOf_mod]
    exact quadOf_mod value small

structure SecondByte (second : UInt8) (masked : Bool) (bits : Nat) : Prop where
  masked : decide (128 ≤ second.toNat) = masked
  bits : second.toNat % 128 = bits

theorem secondByte (masked : Bool) {bits : Nat} (small : bits < 128) :
    SecondByte (lowByte ((if masked then 128 else 0) + bits)) masked bits := by
  cases masked with
  | true =>
      have number : (lowByte ((if true = true then 128 else 0) + bits)).toNat = 128 + bits := by
        rw [toNat_lowByte, if_pos rfl]
        omega
      constructor
      · rw [number, decide_eq_true_iff]
        omega
      · rw [number]
        omega
  | false =>
      have number : (lowByte ((if false = true then 128 else 0) + bits)).toNat = bits := by
        rw [toNat_lowByte, if_neg Bool.false_ne_true]
        omega
      constructor
      · rw [number, decide_eq_false_iff_not]
        omega
      · rw [number]
        omega

theorem parsePayloadLength_bytes (form : LengthForm) (masked : Bool) (length : Nat)
    (fits : form.fits length) (rest : Bytes) :
    ∃ second body, form.bytes masked length ++ rest = second :: body ∧
      decide (128 ≤ second.toNat) = masked ∧
      parsePayloadLength (second.toNat % 128) body = some (length, rest) := by
  cases form with
  | inline =>
      have small : length < 126 := fits
      have read := secondByte masked (show length < 128 by omega)
      refine ⟨_, rest, rfl, read.masked, ?_⟩
      rw [read.bits]
      unfold parsePayloadLength
      rw [if_neg (by omega), if_neg (by omega)]
  | word =>
      have read : SecondByte (lowByte ((if masked then 128 else 0) + 126)) masked 126 :=
        secondByte masked (by decide)
      refine ⟨_, word length ++ rest, rfl, read.masked, ?_⟩
      rw [read.bits]
      change some (wordOf (lowByte (length / 256 : Int)) (lowByte length), rest) = _
      rw [wordOf_lowByte length fits]
  | quad =>
      have read : SecondByte (lowByte ((if masked then 128 else 0) + 127)) masked 127 :=
        secondByte masked (by decide)
      obtain ⟨a, b, c, d, e, f, g, h, shown, number⟩ := quadOf_quad length fits rest
      refine ⟨_, quad length ++ rest, rfl, read.masked, ?_⟩
      rw [read.bits, shown]
      change some (quadOf a b c d e f g h, rest) = _
      rw [number]

theorem parseBody_bytes (frame : SentFrame) (rest : Bytes) :
    ∃ second body,
      frame.header.form.bytes frame.header.mask.isSome frame.header.length ++
          ((frame.header.mask.map Mask.bytes).getD [] ++
            (unmask frame.header.mask frame.payload ++ rest)) = second :: body ∧
        parseBody second body = some (frame.payload, rest) := by
  obtain ⟨second, body, shown, masked, length⟩ :=
    parsePayloadLength_bytes frame.header.form frame.header.mask.isSome frame.header.length
      frame.header.fits ((frame.header.mask.map Mask.bytes).getD [] ++
        (unmask frame.header.mask frame.payload ++ rest))
  refine ⟨second, body, shown, ?_⟩
  have size : (unmask frame.header.mask frame.payload).length = frame.header.length := by
    rw [length_unmask, frame.sized]
  apply parseBody_eq_some_iff.mpr
  refine ⟨_, _, frame.header.mask, unmask frame.header.mask frame.payload ++ rest,
    unmask frame.header.mask frame.payload, length, ?_, ?_, unmask_unmask _ _⟩
  · rw [masked]
    cases frame.header.mask with
    | none => rfl
    | some mask => rfl
  · rw [parsePayload, if_neg, ← size, List.take_left, List.drop_left]
    rw [List.length_append, size]
    omega

structure FirstByte (first : UInt8) (header : FrameHeader) : Prop where
  final : first.toNat < 128 ↔ header.final = false
  opcode : first.toNat % 16 = header.opcode

theorem firstByte (header : FrameHeader) :
    FirstByte (lowByte ((if header.final then 128 else 0) + 16 * header.reserved +
      header.opcode)) header := by
  have reserved := header.reserved.isLt
  have opcode := header.opcode.isLt
  constructor
  · rw [toNat_lowByte]
    cases header.final with
    | true =>
        rw [if_pos rfl]
        constructor
        · intro below
          omega
        · intro other
          cases other
    | false =>
        rw [if_neg Bool.false_ne_true]
        constructor
        · exact fun _ => rfl
        · intro _
          omega
  · rw [toNat_lowByte]
    cases header.final with
    | true =>
        rw [if_pos rfl]
        omega
    | false =>
        rw [if_neg Bool.false_ne_true]
        omega

theorem exists_first_second (frame : SentFrame) (rest : Bytes) :
    ∃ first second body, frame.bytes ++ rest = first :: second :: body ∧
      FirstByte first frame.header ∧ parseBody second body = some (frame.payload, rest) := by
  obtain ⟨second, body, shown, parsed⟩ := parseBody_bytes frame rest
  refine ⟨_, second, body, ?_, firstByte frame.header, parsed⟩
  rw [SentFrame.bytes, FrameHeader.bytes, byte, ← shown]
  simp only [List.append_assoc, List.cons_append, List.nil_append]

theorem decodeServerFrame_bytes (frame : SentFrame) (rest : Bytes) :
    (frame.accepted = true ∧
      ∃ decoded, serverDecoder.decode (frame.bytes ++ rest) = .item decoded rest) ∨
    (frame.accepted = false ∧
      serverDecoder.decode (frame.bytes ++ rest) = .failed .invalidSessionFrame) := by
  obtain ⟨first, second, body, layout, read, parsed⟩ := exists_first_second frame rest
  have decodes : serverDecoder.decode = decodeServerFrame := rfl
  rw [layout, decodes, decodeServerFrame, SentFrame.accepted]
  cases final : frame.header.final with
  | false =>
      right
      refine ⟨rfl, ?_⟩
      rw [if_pos (read.final.mpr final)]
  | true =>
      have whole : ¬first.toNat < 128 := by
        intro below
        have split := read.final.mp below
        rw [final] at split
        cases split
      rw [if_neg whole, parsed, read.opcode, Bool.true_and]
      dsimp only
      cases known : frameOf frame.header.opcode frame.payload with
      | none => exact Or.inr ⟨rfl, rfl⟩
      | some decoded => exact Or.inl ⟨rfl, decoded, rfl⟩

theorem length_of_decode_raised {buffer : Bytes} (raised : decodeServerFrame buffer = .raised) :
    buffer.length = 1 := by
  unfold decodeServerFrame at raised
  split at raised
  · cases raised
  · rfl
  · split at raised
    · cases raised
    · split at raised
      · cases raised
      · split at raised <;> cases raised

theorem two_le_length_bytes (frame : SentFrame) : 2 ≤ frame.bytes.length := by
  obtain ⟨first, second, body, layout, -⟩ := exists_first_second frame []
  rw [List.append_nil] at layout
  rw [layout, List.length_cons, List.length_cons]
  omega

section
variable {State : Type} {handle : State → SessionFrame → Except SessionReason State}
  {start : State}

theorem lone_byte_of_raised {frames : List SentFrame} {received later : Bytes}
    (within : received ++ later = frames.flatMap SentFrame.bytes) {raised : State}
    (ended : serverDecoder.run handle start received = .raised raised) :
    ∃ before frame after, frames = before ++ frame :: after ∧
      (∀ other ∈ before, other.accepted = true) ∧
      received.length = (before.flatMap SentFrame.bytes).length + 1 := by
  induction frames generalizing received start with
  | nil =>
      have empty := (List.append_eq_nil_iff.mp within).1
      rw [empty, Decoder.run_nil] at ended
      cases ended
  | cons frame frames ih =>
      rw [List.flatMap_cons] at within
      rcases List.append_eq_append_iff.mp within with
        ⟨missing, whole, -⟩ | ⟨more, split, rest⟩
      · cases found : serverDecoder.decode received with
        | more =>
            rw [Decoder.run_of_more found] at ended
            cases ended
        | failed reason =>
            rw [Decoder.run_of_failed found] at ended
            cases ended
        | raised =>
            refine ⟨[], frame, frames, rfl, ?_, length_of_decode_raised found⟩
            intro other member
            cases member
        | item decoded left =>
            -- the whole frame is there, and nothing is left of it
            have longer : serverDecoder.decode (frame.bytes ++ []) =
                .item decoded (left ++ missing) := by
              rw [List.append_nil, whole]
              exact serverDecoder.item_append found missing
            have empty : left = [] := by
              rcases decodeServerFrame_bytes frame [] with ⟨-, other, read⟩ | ⟨-, read⟩
              · rw [read] at longer
                injection longer with _ nothing
                exact (List.append_eq_nil_iff.mp nothing.symm).1
              · rw [read] at longer
                cases longer
            rw [Decoder.run_of_item found, empty] at ended
            cases handled : handle start decoded with
            | error reason =>
                rw [handled] at ended
                cases ended
            | ok next =>
                rw [handled] at ended
                dsimp only at ended
                rw [Decoder.run_nil] at ended
                cases ended
      · rw [split] at ended
        rcases decodeServerFrame_bytes frame more with
          ⟨accepted, decoded, found⟩ | ⟨-, found⟩
        · rw [Decoder.run_of_item found] at ended
          cases handled : handle start decoded with
          | error reason =>
              rw [handled] at ended
              cases ended
          | ok next =>
              rw [handled] at ended
              obtain ⟨before, other, after, frames_eq, all, size⟩ := ih rest.symm ended
              refine ⟨frame :: before, other, after, ?_, ?_, ?_⟩
              · rw [frames_eq, List.cons_append]
              · intro sent member
                rcases List.mem_cons.mp member with rfl | member
                · exact accepted
                · exact all sent member
              · rw [split, List.length_append, size, List.flatMap_cons, List.length_append]
                omega
        · rw [Decoder.run_of_failed found] at ended
          cases ended

theorem run_ne_raised (frames : List SentFrame) (raised : State) :
    serverDecoder.run handle start (frames.flatMap SentFrame.bytes) ≠ .raised raised := by
  intro ended
  obtain ⟨before, frame, after, split, -, size⟩ :=
    lone_byte_of_raised (List.append_nil _) ended
  have two := two_le_length_bytes frame
  rw [split, List.flatMap_append, List.flatMap_cons, List.length_append,
    List.length_append] at size
  omega

theorem exists_run_eq (takes : ∀ state frame, ∃ next, handle state frame = .ok next)
    {before : List SentFrame} (accepted : ∀ frame ∈ before, frame.accepted = true)
    (rest : Bytes) :
    ∃ state, serverDecoder.run handle start (before.flatMap SentFrame.bytes ++ rest) =
      serverDecoder.run handle state rest := by
  induction before generalizing start with
  | nil => exact ⟨start, rfl⟩
  | cons frame before ih =>
      rw [List.flatMap_cons, List.append_assoc]
      have taken := accepted frame List.mem_cons_self
      rcases decodeServerFrame_bytes frame (before.flatMap SentFrame.bytes ++ rest) with
        ⟨-, decoded, found⟩ | ⟨refused, -⟩
      · obtain ⟨next, handled⟩ := takes start decoded
        rw [Decoder.run_of_item found, handled]
        exact ih fun other member => accepted other (List.mem_cons_of_mem _ member)
      · rw [taken] at refused
        cases refused

end

/-- What is written is a header that states the length of the payload in the shortest form,
and a body that is the payload under the mask. -/
def StatesPayload (code : Fin 16) (payload : Bytes) (mask : Mask) (written : Bytes) : Prop :=
  ∃ (header : FrameHeader) (body : Bytes), written = header.bytes ++ body ∧
    header.final = true ∧ header.reserved = 0 ∧ header.opcode = code ∧
    header.mask = some mask ∧ header.length = payload.length ∧
    header.form = .shortest payload.length ∧ maskPayload body mask = payload

/-- Whatever is done with the frames, the chunks are handled as the whole stream is, and
nothing raises. -/
def HandlesChunks (chunks : List Bytes) : Prop :=
  ∀ (State : Type) (handle : State → SessionFrame → Except SessionReason State)
    (start : State),
    serverDecoder.feedAll handle start chunks = serverDecoder.run handle start chunks.flatten ∧
      ∀ raised, serverDecoder.feedAll handle start chunks ≠ .raised raised

/-- No chunk ends behind the first byte of a frame that is reached. -/
def KeepsFirstBytes (frames : List SentFrame) (chunks : List Bytes) : Prop :=
  ∀ before frame after, frames = before ++ frame :: after →
    (∀ other ∈ before, other.accepted = true) →
    ∀ front back, chunks = front ++ back →
      front.flatten.length ≠ (before.flatMap SentFrame.bytes).length + 1

theorem lengthPrefix_eq (length : Nat) (masked : Bool) :
    lengthPrefix length masked = (LengthForm.shortest length).bytes masked length := by
  unfold lengthPrefix LengthForm.shortest
  by_cases small : length < 126
  · rw [if_pos small, if_pos small]
    rfl
  · rw [if_neg small, if_neg small]
    by_cases medium : length < 65536
    · rw [if_pos medium, if_pos (by omega)]
      rfl
    · rw [if_neg medium, if_neg (by omega)]
      rfl

theorem fits_shortest {length : Nat} (small : length < 18446744073709551616) :
    (LengthForm.shortest length).fits length := by
  unfold LengthForm.shortest
  split
  · assumption
  · split
    · assumption
    · exact small

theorem LengthForm.fits.lt {form : LengthForm} {length : Nat} (fits : form.fits length) :
    length < 18446744073709551616 := by
  cases form with
  | inline => exact Nat.lt_trans fits (by decide)
  | word => exact Nat.lt_trans fits (by decide)
  | quad => exact fits

theorem statesPayload_iff (code : Fin 16) (payload : Bytes) (mask : Mask) :
    StatesPayload code payload mask (clientFrame code payload mask) ↔
      payload.length < 18446744073709551616 := by
  constructor
  · intro states
    obtain ⟨header, body, -, -, -, -, -, length, -, -⟩ := states
    rw [← length]
    exact header.fits.lt
  · intro small
    refine ⟨⟨true, 0, code, some mask, .shortest payload.length, payload.length,
      fits_shortest small⟩, maskPayload payload mask, ?_, rfl, rfl, rfl, rfl, rfl, rfl,
      maskPayload_maskPayload payload mask⟩
    rw [clientFrame, lengthPrefix_eq]
    rfl

def collect (frames : List SessionFrame) (frame : SessionFrame) :
    Except SessionReason (List SessionFrame) :=
  .ok (frames ++ [frame])

theorem handlesChunks_iff {frames : List SentFrame} {chunks : List Bytes}
    (cut : chunks.flatten = frames.flatMap SentFrame.bytes) :
    HandlesChunks chunks ↔ KeepsFirstBytes frames chunks := by
  constructor
  · intro handles before frame after split accepted front back chunks_eq size
    have calm := (handles (List SessionFrame) collect []).2
    rw [split, chunks_eq, List.flatten_append, List.flatMap_append, List.flatMap_cons] at cut
    -- what has come in is the accepted frames and one byte more
    obtain ⟨first, received⟩ : ∃ first,
        front.flatten = before.flatMap SentFrame.bytes ++ [first] := by
      have taken := congrArg
        (List.take ((before.flatMap SentFrame.bytes).length + 1)) cut
      rw [List.take_left' size, List.take_append, List.take_of_length_le (Nat.le_succ _),
        Nat.add_sub_cancel_left] at taken
      obtain ⟨first, second, body, layout, -⟩ :=
        exists_first_second frame (after.flatMap SentFrame.bytes)
      rw [layout] at taken
      exact ⟨first, taken⟩
    have takes : ∀ state frame, ∃ next, collect state frame = .ok next :=
      fun state frame => ⟨state ++ [frame], rfl⟩
    obtain ⟨state, comes⟩ := @exists_run_eq _ collect [] takes before accepted [first]
    have lone : serverDecoder.run collect state [first] = .raised state :=
      Decoder.run_of_raised rfl
    rw [lone, ← received] at comes
    have ended : ∃ raised, serverDecoder.feedAll collect [] (front ++ back) = .raised raised :=
      Decoder.feedAll_of_raised comes
    obtain ⟨raised, ended⟩ := ended
    rw [← chunks_eq] at ended
    exact calm raised ended
  · intro keeps State handle start
    have same : serverDecoder.feedAll handle start chunks =
        serverDecoder.run handle start chunks.flatten := by
      apply Decoder.feedAll_of_calm
      intro front back chunks_eq raised ended
      rw [chunks_eq, List.flatten_append] at cut
      obtain ⟨before, frame, after, split, accepted, size⟩ := lone_byte_of_raised cut ended
      exact keeps before frame after split accepted front back chunks_eq size
    refine ⟨same, ?_⟩
    intro raised
    rw [same, cut]
    exact run_ne_raised frames raised

/-- The written frames state their payload up to the largest length there is a form for, and
the stream of the peer is decoded in chunks just when no chunk ends behind the first byte of
a frame. -/
theorem frames_survive_iff (payload : Bytes) (mask : Mask) (frames : List SentFrame)
    (chunks : List Bytes) (cut : chunks.flatten = frames.flatMap SentFrame.bytes) :
    ((∀ opcode : DataOpcode,
        StatesPayload opcode.code payload mask (encodeClientFrame opcode payload mask)) ∧
      (∀ opcode : ControlOpcode,
        StatesPayload opcode.code payload mask (encodeClientControl opcode payload mask)) ∧
      HandlesChunks chunks) ↔
    payload.length < 18446744073709551616 ∧ KeepsFirstBytes frames chunks := by
  rw [handlesChunks_iff cut]
  constructor
  · intro both
    obtain ⟨states, -, keeps⟩ := both
    exact ⟨(statesPayload_iff _ payload mask).mp (states .text), keeps⟩
  · intro both
    obtain ⟨small, keeps⟩ := both
    exact ⟨fun opcode => (statesPayload_iff opcode.code payload mask).mpr small,
      fun opcode => (statesPayload_iff opcode.code payload mask).mpr small, keeps⟩

/-- A `pong` without a payload. -/
def pongFrame : SentFrame where
  header := ⟨true, 0, 10, none, .inline, 0, Nat.zero_lt_succ 125⟩
  payload := []
  sized := rfl

theorem frames_survive_iff_pong :
    ((∀ opcode : DataOpcode, StatesPayload opcode.code [1, 2] ⟨3, 4, 5, 6⟩
        (encodeClientFrame opcode [1, 2] ⟨3, 4, 5, 6⟩)) ∧
      (∀ opcode : ControlOpcode, StatesPayload opcode.code [1, 2] ⟨3, 4, 5, 6⟩
        (encodeClientControl opcode [1, 2] ⟨3, 4, 5, 6⟩)) ∧
      HandlesChunks [[0x8A, 0x00]]) ↔
    [1, 2].length < 18446744073709551616 ∧ KeepsFirstBytes [pongFrame] [[0x8A, 0x00]] :=
  frames_survive_iff [1, 2] ⟨3, 4, 5, 6⟩ [pongFrame] [[0x8A, 0x00]] rfl

/-- The two bytes of a `pong` in two chunks. -/
theorem not_handlesChunks_pong :
    ¬∀ (frames : List SentFrame) (chunks : List Bytes),
      chunks.flatten = frames.flatMap SentFrame.bytes → HandlesChunks chunks := by
  intro handles
  have calm := handles [pongFrame] [[0x8A], [0x00]] rfl (List SessionFrame) collect []
  apply calm.2 []
  rw [Decoder.feedAll, List.foldl_cons, Decoder.feed, List.nil_append,
    Decoder.run_of_raised rfl]
  rfl

end Elektrine.Messaging
