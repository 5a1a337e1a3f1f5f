import Elektrine.Data.Text
import Elektrine.Data.Uri
import Elektrine.Library.Separated
import Elektrine.Security.IpAddresses
import Mathlib.Data.List.TakeDrop

/-!
# Addresses and ranges as text

Servers and user configurations store their addresses as text.  `parse_cidr` and
`parse_base_ipv4` read such a text in two ways, which agree on what both accept, and what
the allocations write is read back.
-/

namespace Elektrine.VPN

open Elektrine.Library Elektrine.Security

theorem octet_lt {octet : Int} (small : 0 ≤ octet ∧ octet ≤ 255) : octet.toNat < 256 := by
  omega

def parseIpv4Octet (value : String) : Option (Fin 256) :=
  match integerParseExact value with
  | some octet =>
      if small : 0 ≤ octet ∧ octet ≤ 255 then some ⟨octet.toNat, octet_lt small⟩ else none
  | none => none

def parseIpv4 (value : String) : Option Ipv4Address :=
  match (value.toList.splitOn '.').map fun part => parseIpv4Octet (String.ofList part) with
  | [some a, some b, some c, some d] => some ⟨a, b, c, d⟩
  | _ => none

/-- What stands in front of the first `/`. -/
def parseBaseIpv4 (value : String) : Option Ipv4Address :=
  parseIpv4 (String.ofList (value.toList.takeWhile (· != '/')))

structure Cidr where
  base : Nat
  length : Nat
  base_lt : base < 2 ^ 32
  length_le : length ≤ 32

def Cidr.block (cidr : Cidr) : AddressBlock := ⟨cidr.base, 32 - cidr.length⟩

def ipToInteger (ip : String) : Option Nat :=
  match (trim ip).toList.splitOn '.' with
  | [a, b, c, d] =>
      [a, b, c, d].foldlM
        (fun acc part =>
          (parseIpv4Octet (String.ofList part)).map fun octet => acc * 256 + octet.val) 0
  | _ => none

theorem parseIpv4_eq_some {value : String} {address : Ipv4Address} :
    parseIpv4 value = some address ↔
      (value.toList.splitOn '.').map (fun part => parseIpv4Octet (String.ofList part)) =
        [some address.a, some address.b, some address.c, some address.d] := by
  unfold parseIpv4
  split
  · rename_i shape
    rw [shape]
    obtain ⟨a, b, c, d⟩ := address
    simp
  · rename_i other
    constructor
    · intro impossible
      cases impossible
    · intro shape
      exact absurd shape (other _ _ _ _)

theorem length_of_parseIpv4 {value : String} {address : Ipv4Address}
    (read : parseIpv4 value = some address) : (value.toList.splitOn '.').length = 4 := by
  have lengths := congrArg List.length (parseIpv4_eq_some.mp read)
  rw [List.length_map] at lengths
  exact lengths

theorem ipToInteger_eq (ip : String) :
    ipToInteger ip = (parseIpv4 (trim ip)).map Ipv4Address.toNat := by
  unfold ipToInteger
  split
  · rename_i a b c d parts
    rw [parseIpv4, parts]
    simp only [List.map_cons, List.map_nil, List.foldlM_cons, List.foldlM_nil]
    cases parseIpv4Octet (String.ofList a) with
    | none => rfl
    | some a =>
        cases parseIpv4Octet (String.ofList b) with
        | none => rfl
        | some b =>
            cases parseIpv4Octet (String.ofList c) with
            | none => rfl
            | some c =>
                cases parseIpv4Octet (String.ofList d) with
                | none => rfl
                | some d => simp [Ipv4Address.toNat]
  · rename_i other
    cases read : parseIpv4 (trim ip) with
    | none => rfl
    | some address =>
        obtain ⟨a, b, c, d, parts⟩ := List.length_eq_four.mp (length_of_parseIpv4 read)
        exact absurd parts (other a b c d)

theorem ipToInteger_lt {ip : String} {value : Nat} (read : ipToInteger ip = some value) :
    value < 2 ^ 32 := by
  rw [ipToInteger_eq, Option.map_eq_some_iff] at read
  obtain ⟨address, -, same⟩ := read
  rw [← same]
  exact address.toNat_lt

/-- `{:ok, {ip_int, prefix_int}}`, or `none` for `:error`. -/
def parseCidr (value : String) : Option Cidr :=
  match splitFirst '/' (trim value) with
  | some (ip, suffix) =>
      match integerParseExact suffix, read : ipToInteger ip with
      | some length, some base =>
          if bounds : 0 ≤ length ∧ length ≤ 32 then
            some ⟨base, length.toNat, ipToInteger_lt read, by omega⟩
          else none
      | _, _ => none
  | none => none

/-- `"a.b.c.d"` -/
def dotted (a b c d : Nat) : String :=
  ".".intercalate [a.repr, b.repr, c.repr, d.repr]

def integerToIp (int : Nat) : String :=
  dotted ((int >>> 24) &&& 255) ((int >>> 16) &&& 255) ((int >>> 8) &&& 255) (int &&& 255)

def maskForPrefix (length : Nat) : Nat :=
  (0xFFFFFFFF <<< (32 - length)) &&& 0xFFFFFFFF

theorem maskForPrefix_eq {length : Nat} (small : length ≤ 32) :
    maskForPrefix length = (2 ^ length - 1) * 2 ^ (32 - length) := by
  have split : 2 ^ length * 2 ^ (32 - length) = 2 ^ 32 := by
    rw [← Nat.pow_add, Nat.add_sub_cancel' small]
  have whole : maskForPrefix length = (0xFFFFFFFF * 2 ^ (32 - length)) % 2 ^ 32 := by
    rw [maskForPrefix, Nat.shiftLeft_eq]
    exact Nat.and_two_pow_sub_one_eq_mod _ 32
  have positive : 0 < 2 ^ (32 - length) := Nat.two_pow_pos _
  have fits : 2 ^ (32 - length) ≤ 2 ^ 32 := Nat.pow_le_pow_right (by decide) (Nat.sub_le _ _)
  rw [whole, Nat.sub_mul, split, Nat.one_mul]
  generalize 2 ^ (32 - length) = host at positive fits
  have rewritten : 0xFFFFFFFF * host = (2 ^ 32 - host) + 2 ^ 32 * (host - 1) := by omega
  rw [rewritten, Nat.add_mul_mod_self_left]
  exact Nat.mod_eq_of_lt (by omega)

theorem and_maskForPrefix {base length : Nat} (small : length ≤ 32) (bounded : base < 2 ^ 32) :
    base &&& maskForPrefix length = base / 2 ^ (32 - length) * 2 ^ (32 - length) := by
  rw [maskForPrefix_eq small, and_mask]
  congr 1
  apply Nat.mod_eq_of_lt
  rw [Nat.div_lt_iff_lt_mul (Nat.two_pow_pos _), ← Nat.pow_add, Nat.add_sub_cancel' small]
  exact bounded

theorem parseIpv4Octet_repr (octet : Fin 256) : parseIpv4Octet octet.val.repr = some octet := by
  have small := octet.isLt
  unfold parseIpv4Octet
  rw [integerParseExact_repr]
  simp only
  rw [dif_pos ⟨by omega, by omega⟩]
  rfl

theorem not_mem_of_parseIpv4 {value : String} {address : Ipv4Address}
    (read : parseIpv4 value = some address) {character : Char}
    (digit : character.isDigit = false)
    (others : character ≠ '-' ∧ character ≠ '+' ∧ character ≠ '.') :
    character ∉ value.toList := by
  have whole : ['.'].intercalate (value.toList.splitOn '.') = value.toList :=
    List.intercalate_splitOn '.'
  rw [← whole]
  apply not_mem_intercalate
  · rw [List.mem_singleton]
    exact others.2.2
  · intro part member inside
    have entry := List.mem_map_of_mem (f := fun part => parseIpv4Octet (String.ofList part)) member
    rw [parseIpv4_eq_some.mp read] at entry
    have parsed : ∃ number, integerParseExact (String.ofList part) = some number := by
      cases parsed : integerParseExact (String.ofList part) with
      | none =>
          rw [show parseIpv4Octet (String.ofList part) = none by
            rw [parseIpv4Octet, parsed]] at entry
          simp at entry
      | some number => exact ⟨number, rfl⟩
    obtain ⟨number, same⟩ := parsed
    rcases isDigit_of_integerParseExact same (by rwa [String.toList_ofList]) with is | is | is
    · rw [digit] at is
      cases is
    · exact others.1 is
    · exact others.2.1 is

theorem visible_of_parseIpv4 {value : String} {address : Ipv4Address}
    (read : parseIpv4 value = some address) {character : Char}
    (member : character ∈ value.toList) : isWhiteSpace character = false := by
  cases white : isWhiteSpace character with
  | false => rfl
  | true =>
      exfalso
      apply not_mem_of_parseIpv4 read _ _ member
      · cases digit : character.isDigit with
        | false => rfl
        | true => rw [isWhiteSpace_of_isDigit digit] at white; cases white
      · refine ⟨?_, ?_, ?_⟩
        all_goals
          intro same
          rw [same] at white
          cases white

theorem rdropWhile_append_cons {front rest : List Char} {separator : Char}
    (visible : isWhiteSpace separator = false) :
    (front ++ separator :: rest).rdropWhile isWhiteSpace =
      front ++ separator :: rest.rdropWhile isWhiteSpace := by
  unfold List.rdropWhile
  rw [List.reverse_append, List.reverse_cons, List.append_assoc, List.dropWhile_append]
  split_ifs with blank
  · rw [List.isEmpty_iff.mp blank, List.singleton_append,
      List.dropWhile_cons_of_neg (by simp [visible])]
    simp
  · simp

theorem takeWhile_trim {value : String} {address : Ipv4Address}
    (read : parseBaseIpv4 value = some address) :
    (trim value).toList.takeWhile (· != '/') = value.toList.takeWhile (· != '/') := by
  have visible : ∀ character ∈ value.toList.takeWhile (· != '/'),
      isWhiteSpace character = false := by
    intro character member
    apply visible_of_parseIpv4 read
    rwa [String.toList_ofList]
  have filled : value.toList.takeWhile (· != '/') ≠ [] := by
    intro blank
    rw [parseBaseIpv4, blank] at read
    cases length_of_parseIpv4 read
  have outside : ∀ character ∈ value.toList.takeWhile (· != '/'), (character != '/') = true := by
    intro character member
    exact List.mem_takeWhile_imp (p := (· != '/')) member
  have cut := @List.takeWhile_append_dropWhile _ (· != '/') value.toList
  rw [toList_trim, ← cut]
  generalize value.toList.takeWhile (· != '/') = front at *
  have kept : (front ++ value.toList.dropWhile (· != '/')).dropWhile isWhiteSpace =
      front ++ value.toList.dropWhile (· != '/') := by
    cases front with
    | nil => exact absurd rfl filled
    | cons first others =>
        rw [List.cons_append, List.dropWhile_cons_of_neg]
        rw [visible first List.mem_cons_self]
        exact Bool.false_ne_true
  rw [kept]
  cases back : value.toList.dropWhile (· != '/') with
  | nil =>
      rw [List.append_nil, List.rdropWhile_eq_self_iff.mpr]
      intro nonempty
      rw [visible _ (List.getLast_mem nonempty)]
      exact Bool.false_ne_true
  | cons slash rest =>
      have same : slash = '/' := by
        have head := List.head?_dropWhile_not (· != '/') value.toList
        rw [back] at head
        simpa using head
      rw [same, rdropWhile_append_cons (by decide), List.takeWhile_append_of_pos outside,
        List.takeWhile_append_of_pos outside]
      simp

theorem splitFirst_eq_some {separator : Char} {text front back : String}
    (split : splitFirst separator text = some (front, back)) :
    front = String.ofList (text.toList.takeWhile (· != separator)) := by
  unfold splitFirst at split
  rw [List.span_eq_takeWhile_dropWhile] at split
  simp only at split
  split at split
  · cases split
  · cases split
    rfl

theorem toNat_of_parseCidr {value : String} {cidr : Cidr} {address : Ipv4Address}
    (ranged : parseCidr value = some cidr) (read : parseBaseIpv4 value = some address) :
    address.toNat = cidr.base := by
  unfold parseCidr at ranged
  split at ranged
  · rename_i ip suffix split
    split at ranged
    · rename_i length base _ number
      have front := splitFirst_eq_some split
      rw [takeWhile_trim read] at front
      have unspaced : trim ip = ip := by
        apply trim_of_visible
        intro character member
        rw [front] at member
        exact visible_of_parseIpv4 read member
      rw [ipToInteger_eq, unspaced, front, show parseIpv4 (String.ofList
        (value.toList.takeWhile (· != '/'))) = some address from read] at number
      split_ifs at ranged
      cases ranged
      exact Option.some.inj number
    · cases ranged
  · cases ranged

theorem not_mem_repr {number : Nat} {character : Char} (foreign : character.isDigit = false) :
    character ∉ number.repr.toList := by
  intro member
  rw [isDigit_of_mem_repr member] at foreign
  cases foreign

theorem toList_dotted (a b c d : Nat) : (dotted a b c d).toList =
    ['.'].intercalate [a.repr.toList, b.repr.toList, c.repr.toList, d.repr.toList] := by
  rw [dotted, String.toList_intercalate]
  rfl

theorem parseIpv4_dotted (address : Ipv4Address) :
    parseIpv4 (dotted address.a.val address.b.val address.c.val address.d.val) =
      some address := by
  rw [parseIpv4_eq_some, toList_dotted, List.splitOn_intercalate]
  · simp only [List.map_cons, List.map_nil, String.ofList_toList, parseIpv4Octet_repr]
  · intro part member
    simp only [List.mem_cons, List.not_mem_nil, or_false] at member
    rcases member with rfl | rfl | rfl | rfl
    all_goals exact not_mem_repr rfl
  · exact List.cons_ne_nil _ _

theorem not_mem_dotted {a b c d : Nat} {character : Char}
    (foreign : character.isDigit = false) (other : character ≠ '.') :
    character ∉ (dotted a b c d).toList := by
  rw [toList_dotted]
  apply not_mem_intercalate
  · rw [List.mem_singleton]
    exact other
  · intro part member
    simp only [List.mem_cons, List.not_mem_nil, or_false] at member
    rcases member with rfl | rfl | rfl | rfl
    all_goals exact not_mem_repr foreign

theorem takeWhile_dotted {a b c d : Nat} {rest : List Char} :
    ((dotted a b c d).toList ++ '/' :: rest).takeWhile (· != '/') = (dotted a b c d).toList := by
  rw [List.takeWhile_append_of_pos]
  · simp
  · intro character member
    rw [bne_iff_ne]
    intro same
    rw [same] at member
    exact not_mem_dotted rfl (by decide) member

theorem parseBaseIpv4_dotted (address : Ipv4Address) {suffix : String} {rest : List Char}
    (slash : suffix.toList = '/' :: rest) :
    parseBaseIpv4 (dotted address.a.val address.b.val address.c.val address.d.val ++ suffix) =
      some address := by
  rw [parseBaseIpv4, String.toList_append, slash, takeWhile_dotted, String.ofList_toList,
    parseIpv4_dotted]

theorem isWhiteSpace_dotted {a b c d : Nat} {character : Char}
    (member : character ∈ (dotted a b c d).toList) : isWhiteSpace character = false := by
  cases white : isWhiteSpace character with
  | false => rfl
  | true =>
      exfalso
      apply not_mem_dotted _ _ member
      · cases digit : character.isDigit with
        | false => rfl
        | true => rw [isWhiteSpace_of_isDigit digit] at white; cases white
      · intro same
        rw [same] at white
        cases white

def addressOf (int : Nat) : Ipv4Address :=
  ⟨⟨(int >>> 24) &&& 255, Nat.lt_succ_of_le Nat.and_le_right⟩,
    ⟨(int >>> 16) &&& 255, Nat.lt_succ_of_le Nat.and_le_right⟩,
    ⟨(int >>> 8) &&& 255, Nat.lt_succ_of_le Nat.and_le_right⟩,
    ⟨int &&& 255, Nat.lt_succ_of_le Nat.and_le_right⟩⟩

theorem toNat_addressOf {int : Nat} (small : int < 2 ^ 32) : (addressOf int).toNat = int := by
  have low : ∀ number : Nat, number &&& 255 = number % 256 := by
    intro number
    exact Nat.and_two_pow_sub_one_eq_mod number 8
  unfold addressOf Ipv4Address.toNat
  simp only [low, Nat.shiftRight_eq_div_pow, Nat.reducePow]
  omega

theorem parseCidr_integerToIp {int : Nat} (small : int < 2 ^ 32) :
    parseCidr (integerToIp int ++ "/24") = some ⟨int, 24, small, by decide⟩ := by
  have text : (integerToIp int ++ "/24").toList =
      (integerToIp int).toList ++ '/' :: ['2', '4'] := by
    rw [String.toList_append]
    rfl
  have trimmed : trim (integerToIp int ++ "/24") = integerToIp int ++ "/24" := by
    apply trim_of_visible
    intro character member
    rw [text, List.mem_append] at member
    rcases member with front | back
    · exact isWhiteSpace_dotted front
    · simp only [List.mem_cons, List.not_mem_nil, or_false] at back
      rcases back with rfl | rfl | rfl
      all_goals rfl
  have halves : splitFirst '/' (integerToIp int ++ "/24") = some (integerToIp int, "24") := by
    unfold splitFirst
    rw [List.span_eq_takeWhile_dropWhile, text]
    have front : ((integerToIp int).toList ++ '/' :: ['2', '4']).takeWhile (· != '/') =
        (integerToIp int).toList := takeWhile_dotted
    have cut := @List.takeWhile_append_dropWhile _ (· != '/')
      ((integerToIp int).toList ++ '/' :: ['2', '4'])
    rw [front, List.append_cancel_left_eq] at cut
    simp only [front, cut, String.ofList_toList]
  have number : ipToInteger (integerToIp int) = some int := by
    have unspaced : trim (integerToIp int) = integerToIp int :=
      trim_of_visible fun _ member => isWhiteSpace_dotted member
    rw [ipToInteger_eq, unspaced]
    have read : parseIpv4 (integerToIp int) = some (addressOf int) :=
      parseIpv4_dotted (addressOf int)
    rw [read, Option.map_some, toNat_addressOf small]
  have length : integerParseExact "24" = some 24 := by decide
  unfold parseCidr
  rw [trimmed, halves]
  simp only
  split
  · rename_i found base parsed read
    rw [length] at parsed
    rw [number] at read
    cases parsed
    cases read
    rfl
  · rename_i other
    exact absurd number (other 24 int length)

end Elektrine.VPN
