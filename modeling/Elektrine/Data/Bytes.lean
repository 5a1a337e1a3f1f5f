import Mathlib.Data.List.Basic

/-!
# Binaries

Binaries as lists of bytes, with the big endian integers that binary patterns read
and binary constructors write.  A written integer is reduced modulo its width.
-/

namespace Elektrine

abbrev Bytes := List UInt8

def utf8 (text : String) : Bytes :=
  text.toUTF8.data.toList

theorem utf8_append (first second : String) :
    utf8 (first ++ second) = utf8 first ++ utf8 second := by
  simp only [utf8, String.toUTF8_eq_toByteArray, String.toByteArray_append,
    ByteArray.data_append, Array.toList_append]

theorem utf8_inj {first second : String} (same : utf8 first = utf8 second) :
    first = second := by
  apply String.toByteArray_inj.mp
  apply ByteArray.ext
  exact Array.toList_inj.mp same

theorem fromUTF8?_utf8 (text : String) :
    String.fromUTF8? ⟨(utf8 text).toArray⟩ = some text := by
  have valid : (⟨(utf8 text).toArray⟩ : ByteArray).IsValidUTF8 := text.isValidUTF8
  rw [String.fromUTF8?, dif_pos valid]
  rfl

theorem utf8_eq_flatMap (text : String) :
    utf8 text = text.toList.flatMap String.utf8EncodeChar := by
  rw [utf8, String.toUTF8_eq_toByteArray, ← String.utf8Encode_toList, List.utf8Encode,
    List.toList_data_toByteArray]

theorem exists_of_mem_utf8 {text : String} {byte : UInt8}
    (ascii : ∀ character ∈ text.toList, character.val ≤ 127) (member : byte ∈ utf8 text) :
    ∃ character ∈ text.toList, byte = character.val.toUInt8 := by
  rw [utf8_eq_flatMap] at member
  obtain ⟨character, inside, encoded⟩ := List.mem_flatMap.mp member
  rw [String.utf8EncodeChar_eq_singleton (Char.utf8Size_eq_one_iff.mpr (ascii _ inside))] at encoded
  exact ⟨character, inside, List.mem_singleton.mp encoded⟩

def lowByte (value : Int) : UInt8 :=
  UInt8.ofNat (value % 256).toNat

/-- `<<value::8>>`. -/
def byte (value : Int) : Bytes :=
  [lowByte value]

/-- `<<value::16>>`. -/
def word (value : Int) : Bytes :=
  [lowByte (value / 256), lowByte value]

/-- `<<value::32>>`. -/
def long (value : Int) : Bytes :=
  word (value / 65536) ++ word value

def wordOf (high low : UInt8) : Nat :=
  high.toNat * 256 + low.toNat

theorem wordOf_lt (high low : UInt8) : wordOf high low < 65536 := by
  have one := high.toNat_lt
  have two := low.toNat_lt
  rw [wordOf]
  omega

theorem toNat_lowByte (value : Int) :
    (lowByte value).toNat = (value % 256).toNat := by
  rw [lowByte, UInt8.toNat_ofNat']
  omega

theorem wordOf_lowByte (value : Nat) (small : value < 65536) :
    wordOf (lowByte (value / 256 : Int)) (lowByte value) = value := by
  rw [wordOf, toNat_lowByte, toNat_lowByte]
  omega

@[simp] theorem length_word (value : Int) : (word value).length = 2 := rfl

def downcaseBytes (text : Bytes) : Bytes :=
  text.map fun letter => if 65 ≤ letter ∧ letter ≤ 90 then letter + 32 else letter

def hexDigit (digit : UInt8) : Option Nat :=
  if 48 ≤ digit ∧ digit ≤ 57 then some (digit.toNat - 48)
  else if 65 ≤ digit ∧ digit ≤ 70 then some (digit.toNat - 55)
  else if 97 ≤ digit ∧ digit ≤ 102 then some (digit.toNat - 87)
  else none

/-- `Base.decode16(text, case: :mixed)`. -/
def decode16 : Bytes → Option Bytes
  | [] => some []
  | [_] => none
  | high :: low :: rest => do
      let high ← hexDigit high
      let low ← hexDigit low
      let bytes ← decode16 rest
      some (UInt8.ofNat (high * 16 + low) :: bytes)

example : decode16 (utf8 "0aFF") = some [10, 255] := by decide

end Elektrine

/-!
## Base64

`Base.url_encode64` and `Base.url_decode64`, both with `padding: false`, and
`Base.encode64`.  The decoder takes padded and unpadded texts, and it drops the bits of the
last character that belong to no byte.
-/

namespace Elektrine

def sextetCharacter (bits : Nat) : Char :=
  if bits < 26 then Char.ofNat (bits + 65)
  else if bits < 52 then Char.ofNat (bits - 26 + 97)
  else if bits < 62 then Char.ofNat (bits - 52 + 48)
  else if bits = 62 then '-'
  else '_'

def characterSextet (character : Char) : Option Nat :=
  let code := character.toNat
  if 65 ≤ code ∧ code ≤ 90 then some (code - 65)
  else if 97 ≤ code ∧ code ≤ 122 then some (code - 97 + 26)
  else if 48 ≤ code ∧ code ≤ 57 then some (code - 48 + 52)
  else if character = '-' then some 62
  else if character = '_' then some 63
  else none

def encodeGroups : List UInt8 → List Char
  | first :: second :: third :: rest =>
      sextetCharacter (first.toNat / 4) ::
        sextetCharacter (first.toNat % 4 * 16 + second.toNat / 16) ::
        sextetCharacter (second.toNat % 16 * 4 + third.toNat / 64) ::
        sextetCharacter (third.toNat % 64) :: encodeGroups rest
  | [first, second] =>
      [sextetCharacter (first.toNat / 4),
        sextetCharacter (first.toNat % 4 * 16 + second.toNat / 16),
        sextetCharacter (second.toNat % 16 * 4)]
  | [first] =>
      [sextetCharacter (first.toNat / 4), sextetCharacter (first.toNat % 4 * 16)]
  | [] => []

/-- `Base.url_encode64(bytes, padding: false)`. -/
def urlEncode64 (bytes : List UInt8) : String :=
  String.ofList (encodeGroups bytes)

def decodeTail : List Char → Option (List UInt8)
  | [] => some []
  | [first, second] | [first, second, '=', '='] => do
      let first ← characterSextet first
      let second ← characterSextet second
      some [UInt8.ofNat (first * 4 + second / 16)]
  | [first, second, third] | [first, second, third, '='] => do
      let first ← characterSextet first
      let second ← characterSextet second
      let third ← characterSextet third
      some [UInt8.ofNat (first * 4 + second / 16),
        UInt8.ofNat (second % 16 * 16 + third / 4)]
  | _ => none

def decodeQuartet (first second third fourth : Char) : Option (List UInt8) := do
  let first ← characterSextet first
  let second ← characterSextet second
  let third ← characterSextet third
  let fourth ← characterSextet fourth
  some [UInt8.ofNat (first * 4 + second / 16),
    UInt8.ofNat (second % 16 * 16 + third / 4),
    UInt8.ofNat (third % 4 * 64 + fourth)]

def decodeGroups : List Char → Option (List UInt8)
  | first :: second :: third :: fourth :: rest =>
      match decodeQuartet first second third fourth with
      | some bytes => (decodeGroups rest).map (bytes ++ ·)
      | none => if rest = [] then decodeTail [first, second, third, fourth] else none
  | characters => decodeTail characters

/-- `Base.url_decode64(text, padding: false)`. -/
def urlDecode64 (text : String) : Option (List UInt8) :=
  decodeGroups text.toList

theorem characterSextet_sextetCharacter {bits : Nat} (small : bits < 64) :
    characterSextet (sextetCharacter bits) = some bits := by
  have every : ∀ value : Fin 64,
      characterSextet (sextetCharacter value) = some value.val := by decide
  exact every ⟨bits, small⟩

theorem sextetCharacter_ne_newline (bits : Nat) : sextetCharacter bits ≠ '\n' := by
  by_cases small : bits < 64
  · intro newline
    have sextet := characterSextet_sextetCharacter small
    rw [newline] at sextet
    cases sextet
  · rw [sextetCharacter, if_neg (by omega), if_neg (by omega), if_neg (by omega),
      if_neg (by omega)]
    decide

theorem ofNat_toNat_div (byte next : UInt8) :
    UInt8.ofNat (byte.toNat / 4 * 4 + (byte.toNat % 4 * 16 + next.toNat / 16) / 16) =
      byte := by
  have below := next.toNat_lt
  rw [show byte.toNat / 4 * 4 + (byte.toNat % 4 * 16 + next.toNat / 16) / 16 =
    byte.toNat by omega]
  exact UInt8.ofNat_toNat

theorem decodeGroups_encodeGroups (bytes : List UInt8) :
    decodeGroups (encodeGroups bytes) = some bytes := by
  induction bytes using encodeGroups.induct with
  | case1 first second third rest ih =>
      have one := first.toNat_lt
      have two := second.toNat_lt
      have three := third.toNat_lt
      have quartet : decodeQuartet (sextetCharacter (first.toNat / 4))
          (sextetCharacter (first.toNat % 4 * 16 + second.toNat / 16))
          (sextetCharacter (second.toNat % 16 * 4 + third.toNat / 64))
          (sextetCharacter (third.toNat % 64)) = some [first, second, third] := by
        simp only [decodeQuartet, Option.bind_eq_bind]
        rw [characterSextet_sextetCharacter (by omega),
          characterSextet_sextetCharacter (by omega),
          characterSextet_sextetCharacter (by omega),
          characterSextet_sextetCharacter (by omega)]
        simp only [Option.bind_some, ofNat_toNat_div]
        rw [show (first.toNat % 4 * 16 + second.toNat / 16) % 16 * 16 +
            (second.toNat % 16 * 4 + third.toNat / 64) / 4 = second.toNat by omega,
          show (second.toNat % 16 * 4 + third.toNat / 64) % 4 * 64 +
            third.toNat % 64 = third.toNat by omega,
          UInt8.ofNat_toNat, UInt8.ofNat_toNat]
      simp only [encodeGroups, decodeGroups, quartet, ih, Option.map_some,
        List.cons_append, List.nil_append]
  | case2 first second =>
      have one := first.toNat_lt
      have two := second.toNat_lt
      simp only [encodeGroups, decodeGroups, decodeTail, Option.bind_eq_bind]
      rw [characterSextet_sextetCharacter (by omega),
        characterSextet_sextetCharacter (by omega),
        characterSextet_sextetCharacter (by omega)]
      simp only [Option.bind_some, ofNat_toNat_div]
      rw [show (first.toNat % 4 * 16 + second.toNat / 16) % 16 * 16 +
          second.toNat % 16 * 4 / 4 = second.toNat by omega, UInt8.ofNat_toNat]
  | case3 first =>
      have one := first.toNat_lt
      simp only [encodeGroups, decodeGroups, decodeTail, Option.bind_eq_bind]
      rw [characterSextet_sextetCharacter (by omega),
        characterSextet_sextetCharacter (by omega)]
      simp only [Option.bind_some]
      rw [show first.toNat / 4 * 4 + first.toNat % 4 * 16 / 16 = first.toNat by omega,
        UInt8.ofNat_toNat]
  | case4 => rfl

theorem urlDecode64_urlEncode64 (bytes : List UInt8) :
    urlDecode64 (urlEncode64 bytes) = some bytes := by
  rw [urlDecode64, urlEncode64, String.toList_ofList, decodeGroups_encodeGroups]

theorem urlEncode64_inj {first second : List UInt8} :
    urlEncode64 first = urlEncode64 second ↔ first = second := by
  constructor
  · intro same
    have decoded := congrArg urlDecode64 same
    rw [urlDecode64_urlEncode64, urlDecode64_urlEncode64] at decoded
    exact Option.some.inj decoded
  · exact congrArg urlEncode64

theorem newline_not_mem_urlEncode64 (bytes : List UInt8) :
    '\n' ∉ (urlEncode64 bytes).toList := by
  rw [urlEncode64, String.toList_ofList]
  induction bytes using encodeGroups.induct with
  | case1 first second third rest ih =>
      simp only [encodeGroups, List.mem_cons, not_or]
      exact ⟨(sextetCharacter_ne_newline _).symm, (sextetCharacter_ne_newline _).symm,
        (sextetCharacter_ne_newline _).symm, (sextetCharacter_ne_newline _).symm, ih⟩
  | case2 first second =>
      simp [encodeGroups, (sextetCharacter_ne_newline _).symm]
  | case3 first => simp [encodeGroups, (sextetCharacter_ne_newline _).symm]
  | case4 => simp [encodeGroups]

example : urlDecode64 "AA" = urlDecode64 "AP==" := by decide

def standardCharacter (character : Char) : Char :=
  if character = '-' then '+' else if character = '_' then '/' else character

def urlCharacter (character : Char) : Char :=
  if character = '+' then '-' else if character = '/' then '_' else character

/-- `Base.encode64(bytes)`. -/
def encode64 (bytes : List UInt8) : String :=
  let characters := (encodeGroups bytes).map standardCharacter
  String.ofList (characters ++ List.replicate ((4 - characters.length % 4) % 4) '=')

theorem sextetCharacter_large {bits : Nat} (large : 64 ≤ bits) :
    sextetCharacter bits = sextetCharacter 63 := by
  rw [sextetCharacter, if_neg (by omega), if_neg (by omega), if_neg (by omega),
    if_neg (by omega)]
  rfl

/-- The characters that stand for six bits are written in both alphabets, and neither has the
character of the padding. -/
theorem standardCharacter_sextetCharacter (bits : Nat) :
    urlCharacter (standardCharacter (sextetCharacter bits)) = sextetCharacter bits ∧
      standardCharacter (sextetCharacter bits) ≠ '=' := by
  have every : ∀ value : Fin 64,
      urlCharacter (standardCharacter (sextetCharacter value)) = sextetCharacter value ∧
        standardCharacter (sextetCharacter value) ≠ '=' := by decide
  by_cases small : bits < 64
  · exact every ⟨bits, small⟩
  · rw [sextetCharacter_large (Nat.le_of_not_lt small)]
    exact every ⟨63, by decide⟩

theorem sextetCharacter_of_mem_encodeGroups (bytes : List UInt8) :
    ∀ character ∈ encodeGroups bytes, ∃ bits, character = sextetCharacter bits := by
  induction bytes using encodeGroups.induct with
  | case1 first second third rest ih =>
      intro character member
      simp only [encodeGroups, List.mem_cons] at member
      rcases member with same | same | same | same | later
      · exact ⟨_, same⟩
      · exact ⟨_, same⟩
      · exact ⟨_, same⟩
      · exact ⟨_, same⟩
      · exact ih character later
  | case2 first second =>
      intro character member
      simp only [encodeGroups, List.mem_cons, List.not_mem_nil, or_false] at member
      rcases member with same | same | same
      · exact ⟨_, same⟩
      · exact ⟨_, same⟩
      · exact ⟨_, same⟩
  | case3 first =>
      intro character member
      simp only [encodeGroups, List.mem_cons, List.not_mem_nil, or_false] at member
      rcases member with same | same
      · exact ⟨_, same⟩
      · exact ⟨_, same⟩
  | case4 =>
      intro character member
      cases member

theorem encodeGroups_of_encode64 (bytes : List UInt8) :
    ((encode64 bytes).toList.takeWhile (· != '=')).map urlCharacter = encodeGroups bytes := by
  have sextets := sextetCharacter_of_mem_encodeGroups bytes
  have kept : ∀ character ∈ (encodeGroups bytes).map standardCharacter,
      (character != '=') = true := by
    intro character member
    obtain ⟨sextet, inside, same⟩ := List.mem_map.mp member
    obtain ⟨bits, written⟩ := sextets sextet inside
    rw [← same, written]
    exact bne_iff_ne.mpr (standardCharacter_sextetCharacter bits).2
  have padding : (List.replicate
      ((4 - ((encodeGroups bytes).map standardCharacter).length % 4) % 4) '=').takeWhile
        (· != '=') = [] := by
    rw [List.takeWhile_replicate]
    rfl
  rw [encode64, String.toList_ofList, List.takeWhile_append_of_pos kept, padding,
    List.append_nil, List.map_map]
  have back : ∀ character ∈ encodeGroups bytes,
      (urlCharacter ∘ standardCharacter) character = id character := by
    intro character member
    obtain ⟨bits, written⟩ := sextets character member
    rw [written]
    exact (standardCharacter_sextetCharacter bits).1
  rw [List.map_congr_left back, List.map_id]

theorem encode64_inj {first second : List UInt8} :
    encode64 first = encode64 second ↔ first = second := by
  constructor
  · intro same
    have groups : encodeGroups first = encodeGroups second := by
      rw [← encodeGroups_of_encode64 first, same, encodeGroups_of_encode64]
    have decoded := congrArg decodeGroups groups
    rw [decodeGroups_encodeGroups, decodeGroups_encodeGroups] at decoded
    exact Option.some.inj decoded
  · exact congrArg encode64

end Elektrine
