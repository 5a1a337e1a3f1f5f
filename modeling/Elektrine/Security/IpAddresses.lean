import Elektrine.Library.AddressBlocks
import Mathlib.Data.List.Basic

/-!
# Addresses that are not public

The tests that the URL validator makes on the parts of an address, and the blocks of
addresses that they stand for.  An IPv4 address can also be reached through the IPv6
addresses that embed it; the validator knows one of the four embeddings.
-/

namespace Elektrine.Security

open Elektrine.Library

instance octetNeZero : @NeZero Nat Zero.ofOfNat0 256 := ⟨Nat.succ_ne_zero 255⟩

instance hextetNeZero : @NeZero Nat Zero.ofOfNat0 65536 := ⟨Nat.succ_ne_zero 65535⟩

structure Ipv4Address where
  a : Fin 256
  b : Fin 256
  c : Fin 256
  d : Fin 256
  deriving DecidableEq, Repr

structure Ipv6Address where
  a : Fin 65536
  b : Fin 65536
  c : Fin 65536
  d : Fin 65536
  e : Fin 65536
  f : Fin 65536
  g : Fin 65536
  h : Fin 65536
  deriving DecidableEq, Repr

inductive IpAddress where
  | v4 (address : Ipv4Address)
  | v6 (address : Ipv6Address)
  deriving DecidableEq, Repr

def ipv4PrivateTuple (ip : Ipv4Address) : Bool :=
  ip.a.val == 10 ||
    (ip.a.val == 172 && decide (16 ≤ ip.b.val) && decide (ip.b.val ≤ 31)) ||
    (ip.a.val == 192 && ip.b.val == 168) ||
    ip.a.val == 127 ||
    ip.a.val == 0 ||
    (ip.a.val == 169 && ip.b.val == 254) ||
    (ip.a.val == 100 && decide (64 ≤ ip.b.val) && decide (ip.b.val ≤ 127)) ||
    (ip.a.val == 198 && [18, 19].contains ip.b.val) ||
    decide (224 ≤ ip.a.val)

theorem octet_lt (part : Nat) : part % 256 < 256 := Nat.mod_lt _ (by decide)

def highOctet (part : Fin 65536) : Fin 256 := ⟨(part.val >>> 8) % 256, octet_lt _⟩

def lowOctet (part : Fin 65536) : Fin 256 := ⟨(part.val &&& 0xFF) % 256, octet_lt _⟩

def mappedV4 (ip : Ipv6Address) : Ipv4Address :=
  ⟨highOctet ip.g, lowOctet ip.g, highOctet ip.h, lowOctet ip.h⟩

def ipv6PrivateTuple (ip : Ipv6Address) : Bool :=
  if ip = ⟨0, 0, 0, 0, 0, 0, 0, 1⟩ then true
  else if ip = ⟨0, 0, 0, 0, 0, 0, 0, 0⟩ then true
  else if ip = ⟨0, 0, 0, 0, 0, 65535, ip.g, ip.h⟩ then ipv4PrivateTuple (mappedV4 ip)
  else
    ip.a.val &&& 0xFE00 == 0xFC00 || ip.a.val &&& 0xFFC0 == 0xFE80 ||
      ip.a.val &&& 0xFF00 == 0xFF00

def privateOrSpecialIp : IpAddress → Bool
  | .v4 ip => ipv4PrivateTuple ip
  | .v6 ip => ipv6PrivateTuple ip

def Ipv4Address.toNat (ip : Ipv4Address) : Nat :=
  ((ip.a.val * 256 + ip.b.val) * 256 + ip.c.val) * 256 + ip.d.val

theorem Ipv4Address.toNat_lt (ip : Ipv4Address) : ip.toNat < 2 ^ 32 := by
  unfold Ipv4Address.toNat
  omega

def Ipv6Address.toNat (ip : Ipv6Address) : Nat :=
  ((((((ip.a.val * 65536 + ip.b.val) * 65536 + ip.c.val) * 65536 + ip.d.val) * 65536 +
    ip.e.val) * 65536 + ip.f.val) * 65536 + ip.g.val) * 65536 + ip.h.val

/-- The block `a.b.0.0/length`. -/
def ipv4Block (a b length : Nat) : AddressBlock := ⟨(a * 256 + b) * 65536, 32 - length⟩

def ipv6Block (a b length : Nat) : AddressBlock :=
  ⟨(a * 65536 + b) * 79228162514264337593543950336, 128 - length⟩

def InBlocks (blocks : List AddressBlock) (address : Nat) : Prop :=
  ∃ block ∈ blocks, block.Contains address

instance (blocks : List AddressBlock) (address : Nat) : Decidable (InBlocks blocks address) :=
  inferInstanceAs (Decidable (∃ block ∈ blocks, _))

def ipv4SpecialBlocks : List AddressBlock :=
  [ipv4Block 10 0 8, ipv4Block 172 16 12, ipv4Block 192 168 16, ipv4Block 127 0 8,
    ipv4Block 0 0 8, ipv4Block 169 254 16, ipv4Block 100 64 10, ipv4Block 198 18 15,
    ipv4Block 224 0 4, ipv4Block 240 0 4]

def ipv6SpecialBlocks : List AddressBlock :=
  [⟨1, 0⟩, ⟨0, 0⟩, ipv6Block 0xFC00 0 7, ipv6Block 0xFE80 0 10, ipv6Block 0xFF00 0 8]

/-- A block of IPv6 addresses with an IPv4 address above the last `shift` bits. -/
structure Embedding where
  block : AddressBlock
  shift : Nat

/-- `::ffff:0:0/96`. -/
def mapped : Embedding := ⟨⟨0xFFFF00000000, 32⟩, 0⟩

/-- `::/96`. -/
def compatible : Embedding := ⟨⟨0, 32⟩, 0⟩

/-- `64:ff9b::/96`. -/
def nat64 : Embedding := ⟨⟨(0x64 * 65536 + 0xFF9B) * 79228162514264337593543950336, 32⟩, 0⟩

/-- The loopback address `127.0.0.1` in it: `64:ff9b::7f00:1`. -/
def nat64Loopback : Ipv6Address := ⟨0x64, 0xFF9B, 0, 0, 0, 0, 0x7F00, 1⟩

/-- `2002::/16`. -/
def sixToFour : Embedding := ⟨ipv6Block 0x2002 0 16, 80⟩

/-- The address lies in the embedding of an address of a private or special range. -/
def Embedding.Hides (embedding : Embedding) (address : Nat) : Prop :=
  embedding.block.Contains address ∧
    InBlocks ipv4SpecialBlocks (address / 2 ^ embedding.shift % 2 ^ 32)

instance (embedding : Embedding) (address : Nat) : Decidable (embedding.Hides address) :=
  inferInstanceAs (Decidable (_ ∧ _))

def Internal : IpAddress → Prop
  | .v4 ip => InBlocks ipv4SpecialBlocks ip.toNat
  | .v6 ip =>
      InBlocks ipv6SpecialBlocks ip.toNat ∨
        ∃ embedding ∈ [mapped, compatible, nat64, sixToFour], embedding.Hides ip.toNat

def Tunnelled : IpAddress → Prop
  | .v4 _ => False
  | .v6 ip => ∃ embedding ∈ [compatible, nat64, sixToFour], embedding.Hides ip.toNat

theorem inBlocks_cons {block : AddressBlock} {blocks : List AddressBlock} {address : Nat} :
    InBlocks (block :: blocks) address ↔ block.Contains address ∨ InBlocks blocks address := by
  simp [InBlocks]

theorem not_inBlocks_nil {address : Nat} : ¬ InBlocks [] address := by
  simp [InBlocks]

theorem contains_ipv4Block {a b length : Nat} (short : length ≤ 16) (ip : Ipv4Address) :
    (ipv4Block a b length).Contains ip.toNat ↔
      (ip.a.val * 256 + ip.b.val) / 2 ^ (16 - length) = (a * 256 + b) / 2 ^ (16 - length) := by
  unfold AddressBlock.Contains ipv4Block Ipv4Address.toNat
  have split : 2 ^ (32 - length) = 65536 * 2 ^ (16 - length) := by
    rw [show (65536 : Nat) = 2 ^ 16 from rfl, ← Nat.pow_add]
    congr 1
    omega
  have front : (((ip.a.val * 256 + ip.b.val) * 256 + ip.c.val) * 256 + ip.d.val) / 65536 =
      ip.a.val * 256 + ip.b.val := by omega
  rw [split, ← Nat.div_div_eq_div_mul, ← Nat.div_div_eq_div_mul, front,
    Nat.mul_div_cancel _ (by decide)]

theorem ipv4PrivateTuple_iff (ip : Ipv4Address) :
    ipv4PrivateTuple ip = true ↔ InBlocks ipv4SpecialBlocks ip.toNat := by
  unfold ipv4SpecialBlocks
  rw [inBlocks_cons, inBlocks_cons, inBlocks_cons, inBlocks_cons, inBlocks_cons, inBlocks_cons,
    inBlocks_cons, inBlocks_cons, inBlocks_cons, inBlocks_cons, iff_false_intro not_inBlocks_nil,
    or_false]
  rw [contains_ipv4Block (by decide), contains_ipv4Block (by decide),
    contains_ipv4Block (by decide), contains_ipv4Block (by decide),
    contains_ipv4Block (by decide), contains_ipv4Block (by decide),
    contains_ipv4Block (by decide), contains_ipv4Block (by decide),
    contains_ipv4Block (by decide), contains_ipv4Block (by decide)]
  obtain ⟨⟨a, _⟩, ⟨b, _⟩, _, _⟩ := ip
  simp only [ipv4PrivateTuple, Bool.or_eq_true, Bool.and_eq_true, beq_iff_eq, decide_eq_true_eq,
    List.contains_cons, List.contains_nil, Bool.or_false, Nat.reduceSub, Nat.reducePow,
    Nat.reduceMul, Nat.reduceAdd, Nat.reduceDiv]
  omega

theorem and_mask (number low high : Nat) :
    number &&& ((2 ^ high - 1) * 2 ^ low) = number / 2 ^ low % 2 ^ high * 2 ^ low := by
  apply Nat.eq_of_testBit_eq
  intro index
  rw [Nat.testBit_and, Nat.testBit_mul_two_pow, Nat.testBit_mul_two_pow,
    Nat.testBit_two_pow_sub_one, Nat.testBit_mod_two_pow, Nat.testBit_div_two_pow]
  by_cases below : index < low
  · simp [Nat.not_le.mpr below]
  · have beyond : low ≤ index := Nat.le_of_not_lt below
    simp [beyond, Bool.and_comm]

theorem contains_ipv6Block {a length : Nat} (short : length ≤ 16) (ip : Ipv6Address) :
    (ipv6Block a 0 length).Contains ip.toNat ↔
      ip.a.val / 2 ^ (16 - length) = a / 2 ^ (16 - length) := by
  unfold AddressBlock.Contains ipv6Block
  have split : 2 ^ (128 - length) = 2 ^ 112 * 2 ^ (16 - length) := by
    rw [← Nat.pow_add]
    congr 1
    omega
  have front : ip.toNat / 2 ^ 112 = ip.a.val := by
    unfold Ipv6Address.toNat
    omega
  have base : (a * 65536 + 0) * 79228162514264337593543950336 / 2 ^ 112 = a := by omega
  rw [split, ← Nat.div_div_eq_div_mul, ← Nat.div_div_eq_div_mul, front, base]

theorem toNat_mappedV4 (ip : Ipv6Address) : (mappedV4 ip).toNat = ip.toNat % 2 ^ 32 := by
  have low : ∀ part : Fin 65536, part.val &&& 0xFF = part.val % 256 := by
    intro part
    exact Nat.and_two_pow_sub_one_eq_mod part.val 8
  unfold mappedV4 highOctet lowOctet Ipv4Address.toNat Ipv6Address.toNat
  simp only [low, Nat.shiftRight_eq_div_pow, Nat.reducePow]
  omega

theorem toNat_div (ip : Ipv6Address) : ip.toNat / 2 ^ 32 =
    ((((ip.a.val * 65536 + ip.b.val) * 65536 + ip.c.val) * 65536 + ip.d.val) * 65536 +
      ip.e.val) * 65536 + ip.f.val := by
  unfold Ipv6Address.toNat
  omega

theorem low_parts {ip : Ipv6Address} {f : Nat} (small : f < 65536)
    (front : ip.toNat / 2 ^ 32 = f) :
    ip.a.val = 0 ∧ ip.b.val = 0 ∧ ip.c.val = 0 ∧ ip.d.val = 0 ∧ ip.e.val = 0 ∧ ip.f.val = f := by
  rw [toNat_div] at front
  omega

theorem eq_of_low_parts {ip : Ipv6Address} {f : Fin 65536} {g h : Fin 65536}
    (front : ip.toNat / 2 ^ 32 = f.val) (sameG : ip.g = g) (sameH : ip.h = h) :
    ip = ⟨0, 0, 0, 0, 0, f, g, h⟩ := by
  obtain ⟨a, b, c, d, e, sameF⟩ := low_parts f.isLt front
  obtain ⟨_, _, _, _, _, _, _, _⟩ := ip
  simp only [Ipv6Address.mk.injEq]
  exact ⟨Fin.ext a, Fin.ext b, Fin.ext c, Fin.ext d, Fin.ext e, Fin.ext sameF, sameG, sameH⟩

theorem eq_of_toNat_eq {ip : Ipv6Address} {h : Fin 65536} (same : ip.toNat = h.val) :
    ip = ⟨0, 0, 0, 0, 0, 0, 0, h⟩ := by
  have low : ip.toNat / 2 ^ 32 = (0 : Fin 65536).val := by
    rw [same]
    exact Nat.div_eq_of_lt (by omega)
  obtain ⟨a, b, c, d, e, f⟩ := low_parts (by decide) low
  have rest := same
  unfold Ipv6Address.toNat at rest
  rw [a, b, c, d, e, f] at rest
  apply eq_of_low_parts low
  · apply Fin.ext
    change ip.g.val = 0
    omega
  · apply Fin.ext
    omega

theorem masks_iff (ip : Ipv6Address) :
    (ip.a.val &&& 0xFE00 == 0xFC00 || ip.a.val &&& 0xFFC0 == 0xFE80 ||
        ip.a.val &&& 0xFF00 == 0xFF00) = true ↔
      InBlocks [ipv6Block 0xFC00 0 7, ipv6Block 0xFE80 0 10, ipv6Block 0xFF00 0 8] ip.toNat := by
  have mask7 : ip.a.val &&& 0xFE00 = ip.a.val / 512 % 128 * 512 := and_mask ip.a.val 9 7
  have mask10 : ip.a.val &&& 0xFFC0 = ip.a.val / 64 % 1024 * 64 := and_mask ip.a.val 6 10
  have mask8 : ip.a.val &&& 0xFF00 = ip.a.val / 256 % 256 * 256 := and_mask ip.a.val 8 8
  rw [inBlocks_cons, inBlocks_cons, inBlocks_cons, iff_false_intro not_inBlocks_nil, or_false,
    contains_ipv6Block (by decide), contains_ipv6Block (by decide),
    contains_ipv6Block (by decide), mask7, mask10, mask8]
  have bound := ip.a.isLt
  simp only [Bool.or_eq_true, beq_iff_eq, Nat.reduceSub, Nat.reducePow, Nat.reduceDiv]
  omega

theorem ipv6PrivateTuple_iff (ip : Ipv6Address) : ipv6PrivateTuple ip = true ↔
    InBlocks ipv6SpecialBlocks ip.toNat ∨ mapped.Hides ip.toNat := by
  have one : (⟨1, 0⟩ : AddressBlock).Contains ip.toNat ↔ ip.toNat = 1 := by
    simp [AddressBlock.Contains]
  have zero : (⟨0, 0⟩ : AddressBlock).Contains ip.toNat ↔ ip.toNat = 0 := by
    simp [AddressBlock.Contains]
  unfold ipv6PrivateTuple ipv6SpecialBlocks
  rw [inBlocks_cons, inBlocks_cons, one, zero]
  split_ifs with loopback unspecified short
  · rw [loopback]
    exact iff_of_true rfl (Or.inl (Or.inl rfl))
  · rw [unspecified]
    exact iff_of_true rfl (Or.inl (Or.inr (Or.inl rfl)))
  · have a : ip.a = 0 := congrArg Ipv6Address.a short
    have b : ip.b = 0 := congrArg Ipv6Address.b short
    have c : ip.c = 0 := congrArg Ipv6Address.c short
    have d : ip.d = 0 := congrArg Ipv6Address.d short
    have e : ip.e = 0 := congrArg Ipv6Address.e short
    have f : ip.f = 65535 := congrArg Ipv6Address.f short
    have front : ip.toNat / 2 ^ 32 = 65535 := by
      rw [toNat_div, a, b, c, d, e, f, show (65535 : Fin 65536).val = 65535 from rfl]
      simp only [Fin.val_zero, Nat.zero_mul, Nat.zero_add]
    have inside : mapped.Hides ip.toNat ↔ InBlocks ipv4SpecialBlocks (mappedV4 ip).toNat := by
      rw [toNat_mappedV4]
      unfold Embedding.Hides
      rw [show mapped.shift = 0 from rfl, Nat.pow_zero, Nat.div_one]
      exact and_iff_right front
    have outside : ¬ InBlocks [ipv6Block 0xFC00 0 7, ipv6Block 0xFE80 0 10,
        ipv6Block 0xFF00 0 8] ip.toNat := by
      rw [← masks_iff, a]
      decide
    rw [ipv4PrivateTuple_iff, ← inside]
    constructor
    · exact Or.inr
    · intro special
      rcases special with (only | only | only) | hidden
      · omega
      · omega
      · exact absurd only outside
      · exact hidden
  · rw [masks_iff]
    constructor
    · intro special
      exact Or.inl (Or.inr (Or.inr special))
    · intro special
      rcases special with (only | only | only) | hidden
      · exact absurd (eq_of_toNat_eq (h := 1) only) loopback
      · exact absurd (eq_of_toNat_eq (h := 0) only) unspecified
      · exact only
      · exact absurd (eq_of_low_parts (f := 65535) hidden.1 rfl rfl) short

theorem internal_iff (ip : IpAddress) :
    Internal ip ↔ privateOrSpecialIp ip = true ∨ Tunnelled ip := by
  cases ip with
  | v4 ip =>
      unfold Internal privateOrSpecialIp Tunnelled
      rw [ipv4PrivateTuple_iff, or_false]
  | v6 ip =>
      change (_ ∨ ∃ embedding ∈ mapped :: [compatible, nat64, sixToFour], _) ↔
        ipv6PrivateTuple ip = true ∨ ∃ embedding ∈ [compatible, nat64, sixToFour], _
      rw [ipv6PrivateTuple_iff, List.exists_mem_cons_iff, or_assoc]

end Elektrine.Security
