import Elektrine.VPN.AddressText
import Mathlib.Data.Nat.Find

/-!
# Ranges of servers and addresses of users

A new WireGuard server gets the first `/24` of the supernet that contains the base address
of no other server, and a user gets the first free last octet in the `/24` of the server's
base address.  Neither search looks at the length of a prefix.
-/

namespace Elektrine.VPN

open Elektrine.Library Elektrine.Security

structure Server where
  protocol : String
  internalIpRange : Option String

def defaultInternalIpRange (protocol : String) : String :=
  if protocol = "shadowsocks" then "0.0.0.0/32" else "10.8.0.0/24"

def wireguardRanges (servers : List Server) : List String :=
  (servers.filter fun server => server.protocol == "wireguard").filterMap (·.internalIpRange)

def rangeNetworkInteger (range : String) : Option Nat :=
  (parseCidr range).map fun cidr => cidr.base &&& maskForPrefix 24

def usedNetworks (servers : List Server) : List Nat :=
  (wireguardRanges servers).filterMap rangeNetworkInteger

/-- `VPN_WG_SUPERNET`, or its default. -/
def wgSupernet (setting : Option String) : String := setting.getD "10.8.0.0/16"

def nextFreeSlash24 (supernet : String) (used : List Nat) : Option String :=
  match parseCidr supernet with
  | some cidr =>
      if cidr.length ≤ 24 then
        let blockCount := 2 ^ (24 - cidr.length)
        let supernetBase := cidr.base &&& maskForPrefix cidr.length
        (List.range blockCount).findSome? fun block =>
          let network := supernetBase + block * 256
          if used.contains network then none else some (integerToIp network ++ "/24")
      else none
  | none => none

def allocateInternalIpRange (setting : Option String) (servers : List Server)
    (protocol : String) : String :=
  if protocol = "shadowsocks" then defaultInternalIpRange "shadowsocks"
  else
    match nextFreeSlash24 (wgSupernet setting) (usedNetworks servers) with
    | none => defaultInternalIpRange "wireguard"
    | some range => range

inductive AllocationError where
  | noAvailableIps
  | invalidIpRange
  deriving DecidableEq, Repr

def allocatedOctets (configs : List String) : List Nat :=
  configs.filterMap fun ip => (parseBaseIpv4 ip).map fun address => address.d.val

def allocateIpForUser (internalIpRange : String) (configs : List String) :
    Except AllocationError String :=
  match parseBaseIpv4 internalIpRange with
  | some base =>
      match (List.range' 2 253).find? fun d => !(allocatedOctets configs).contains d with
      | none => .error .noAvailableIps
      | some d => .ok (dotted base.a.val base.b.val base.c.val d ++ "/32")
  | none => .error .invalidIpRange

/-- A text is a range that has no address in common with the range of a WireGuard server. -/
def ApartFrom (servers : List Server) (range : String) : Prop :=
  ∃ own, parseCidr range = some own ∧
    ∀ other ∈ wireguardRanges servers, ∀ cidr, parseCidr other = some cidr →
      own.block.Disjoint cidr.block

def takenAddresses (configs : List String) : List Nat :=
  configs.filterMap fun ip => (parseBaseIpv4 ip).map Ipv4Address.toNat

/-- The node takes `.1` in the `/24` of its base address. -/
def Cidr.gateway (cidr : Cidr) : Nat := cidr.base / 256 * 256 + 1

structure Usable (cidr : Cidr) (configs : List String) (address : Nat) : Prop where
  inside : cidr.block.Contains address
  not_network : address ≠ cidr.block.network
  not_broadcast : address ≠ cidr.block.broadcast
  not_gateway : address ≠ cidr.gateway
  free : address ∉ takenAddresses configs

/-- What is given to a user is usable, and nothing is refused that could be given. -/
def ServesUsers (internalIpRange : String) (configs : List String) : Prop :=
  ∀ cidr, parseCidr internalIpRange = some cidr →
    (∀ text, allocateIpForUser internalIpRange configs = .ok text →
      ∃ address, parseBaseIpv4 text = some address ∧ Usable cidr configs address.toNat) ∧
    (allocateIpForUser internalIpRange configs = .error .noAvailableIps →
      ∀ address, ¬ Usable cidr configs address)

/-- The `/24` blocks of the supernet. -/
def supernetBlocks (supernet : String) : List Nat :=
  match parseCidr supernet with
  | some cidr =>
      if cidr.length ≤ 24 then
        (List.range (2 ^ (24 - cidr.length))).map fun block =>
          cidr.block.network + block * 256
      else []
  | none => []

def slash24 (network : Nat) : AddressBlock := ⟨network, 8⟩

/-- The base address of a server is in the `/24`. -/
def HoldsBase (servers : List Server) (network : Nat) : Prop :=
  ∃ range ∈ wireguardRanges servers, ∃ cidr, parseCidr range = some cidr ∧
    (slash24 network).Contains cidr.base

/-- The `/24` is a part of a wider range. -/
def LiesInWider (servers : List Server) (network : Nat) : Prop :=
  ∃ range ∈ wireguardRanges servers, ∃ cidr, parseCidr range = some cidr ∧
    cidr.length < 24 ∧ cidr.block.Contains network

/-- The first block without a base address. -/
def FirstFree (servers : List Server) (blocks : List Nat) (network : Nat) : Prop :=
  ∃ front back, blocks = front ++ network :: back ∧
    (∀ earlier ∈ front, HoldsBase servers earlier) ∧ ¬ HoldsBase servers network

/-- `10.8.0.0` -/
def defaultNetwork : Nat := 10 * 2 ^ 24 + 8 * 2 ^ 16

/-- The first block without a base address is in no wider range; if there is none, the
default range is met by no other. -/
def RangesSound (setting : Option String) (servers : List Server) : Prop :=
  (∀ network, FirstFree servers (supernetBlocks (wgSupernet setting)) network →
    ¬ LiesInWider servers network) ∧
  ((∀ network ∈ supernetBlocks (wgSupernet setting), HoldsBase servers network) →
    ¬ HoldsBase servers defaultNetwork ∧ ¬ LiesInWider servers defaultNetwork)

/-- The sentinel of the Shadowsocks servers lies in no range. -/
def SentinelSound (servers : List Server) : Prop :=
  ∀ range ∈ wireguardRanges servers, ∀ cidr, parseCidr range = some cidr →
    ¬ cidr.block.Contains 0

theorem slash24_disjoint_iff (network : Nat) (cidr : Cidr) :
    (slash24 network).Disjoint cidr.block ↔
      ¬ (slash24 network).Contains cidr.base ∧
        ¬ (cidr.length < 24 ∧ cidr.block.Contains network) := by
  have bits : cidr.block.hostBits = 32 - cidr.length := rfl
  have short := cidr.length_le
  by_cases wide : cidr.length < 24
  · have fewer : (slash24 network).hostBits ≤ cidr.block.hostBits := by
      rw [bits]
      change 8 ≤ _
      omega
    rw [AddressBlock.disjoint_iff_base fewer]
    constructor
    · intro outside
      constructor
      · intro holds
        exact outside (AddressBlock.contains_of_common fewer holds cidr.block.contains_base
          (slash24 network).contains_base)
      · intro both
        exact outside both.2
    · intro both inside
      exact both.2 ⟨wide, inside⟩
  · have fewer : cidr.block.hostBits ≤ (slash24 network).hostBits := by
      rw [bits]
      change _ ≤ 8
      omega
    rw [AddressBlock.disjoint_comm, AddressBlock.disjoint_iff_base fewer]
    constructor
    · intro outside
      exact ⟨outside, fun both => wide both.1⟩
    · exact And.left

theorem slash24_apart_iff (servers : List Server) (network : Nat) :
    (∀ other ∈ wireguardRanges servers, ∀ cidr, parseCidr other = some cidr →
        (slash24 network).Disjoint cidr.block) ↔
      ¬ HoldsBase servers network ∧ ¬ LiesInWider servers network := by
  constructor
  · intro apart
    constructor
    · intro holds
      obtain ⟨range, stored, cidr, read, base⟩ := holds
      exact ((slash24_disjoint_iff network cidr).mp (apart range stored cidr read)).1 base
    · intro lies
      obtain ⟨range, stored, cidr, read, wide⟩ := lies
      exact ((slash24_disjoint_iff network cidr).mp (apart range stored cidr read)).2 wide
  · intro both range stored cidr read
    rw [slash24_disjoint_iff]
    constructor
    · intro base
      exact both.1 ⟨range, stored, cidr, read, base⟩
    · intro wide
      exact both.2 ⟨range, stored, cidr, read, wide⟩

theorem apartFrom_integerToIp (servers : List Server) {network : Nat}
    (small : network < 2 ^ 32) :
    ApartFrom servers (integerToIp network ++ "/24") ↔
      ¬ HoldsBase servers network ∧ ¬ LiesInWider servers network := by
  rw [← slash24_apart_iff]
  unfold ApartFrom
  rw [parseCidr_integerToIp small]
  constructor
  · intro apart
    obtain ⟨own, same, disjoint⟩ := apart
    cases same
    exact disjoint
  · intro disjoint
    exact ⟨_, rfl, disjoint⟩

theorem block_bounds {base length block : Nat} (short : length ≤ 24) (small : base < 2 ^ 32)
    (inside : block < 2 ^ (24 - length)) :
    (base / 2 ^ (32 - length) * 2 ^ (32 - length) + block * 256) % 256 = 0 ∧
      base / 2 ^ (32 - length) * 2 ^ (32 - length) + block * 256 < 2 ^ 32 := by
  have split : 2 ^ (32 - length) = 2 ^ (24 - length) * 256 := by
    rw [show (256 : Nat) = 2 ^ 8 from rfl, ← Nat.pow_add]
    congr 1
    omega
  have whole : 2 ^ length * 2 ^ (32 - length) = 2 ^ 32 := by
    rw [← Nat.pow_add]
    congr 1
    omega
  have front : base / 2 ^ (32 - length) + 1 ≤ 2 ^ length := by
    rw [Nat.succ_le_iff, Nat.div_lt_iff_lt_mul (Nat.two_pow_pos _), whole]
    exact small
  have below := Nat.mul_le_mul_right (2 ^ (32 - length)) front
  rw [whole, Nat.add_mul, Nat.one_mul] at below
  generalize base / 2 ^ (32 - length) = start at below
  rw [split, ← Nat.mul_assoc] at below ⊢
  generalize start * 2 ^ (24 - length) = place at below
  omega

theorem of_mem_supernetBlocks {supernet : String} {network : Nat}
    (member : network ∈ supernetBlocks supernet) : network % 256 = 0 ∧ network < 2 ^ 32 := by
  unfold supernetBlocks at member
  split at member
  · rename_i cidr read
    split_ifs at member with short
    · obtain ⟨block, there, same⟩ := List.mem_map.mp member
      rw [← same]
      exact block_bounds short cidr.base_lt (List.mem_range.mp there)
    · cases member
  · cases member

theorem mem_usedNetworks {servers : List Server} {network : Nat} (aligned : network % 256 = 0) :
    network ∈ usedNetworks servers ↔ HoldsBase servers network := by
  unfold usedNetworks HoldsBase
  rw [List.mem_filterMap]
  apply exists_congr
  intro range
  apply and_congr_right
  intro stored
  unfold rangeNetworkInteger
  rw [Option.map_eq_some_iff]
  apply exists_congr
  intro cidr
  apply and_congr_right
  intro read
  rw [and_maskForPrefix (by decide) cidr.base_lt]
  unfold slash24 AddressBlock.Contains
  change cidr.base / 256 * 256 = network ↔ cidr.base / 256 = network / 256
  omega

theorem nextFreeSlash24_eq (supernet : String) (used : List Nat) :
    nextFreeSlash24 supernet used = (supernetBlocks supernet).findSome? fun network =>
      if used.contains network then none else some (integerToIp network ++ "/24") := by
  unfold nextFreeSlash24 supernetBlocks
  cases parseCidr supernet with
  | none => rfl
  | some cidr =>
      by_cases short : cidr.length ≤ 24
      · simp only [if_pos short]
        rw [and_maskForPrefix cidr.length_le cidr.base_lt, List.findSome?_map]
        rfl
      · simp only [if_neg short]
        rfl

theorem nextFreeSlash24_of_firstFree {servers : List Server} {supernet : String}
    {network : Nat} (first : FirstFree servers (supernetBlocks supernet) network) :
    nextFreeSlash24 supernet (usedNetworks servers) =
      some (integerToIp network ++ "/24") := by
  obtain ⟨front, back, split, claimed, open_block⟩ := first
  have aligned : ∀ other ∈ front ++ network :: back, other % 256 = 0 := by
    intro other member
    rw [← split] at member
    exact (of_mem_supernetBlocks member).1
  rw [nextFreeSlash24_eq, List.findSome?_eq_some_iff]
  refine ⟨front, network, back, split, ?_, ?_⟩
  · rw [if_neg]
    rw [List.contains_iff_mem, mem_usedNetworks (aligned network (by simp))]
    exact open_block
  · intro earlier member
    rw [if_pos]
    rw [List.contains_iff_mem, mem_usedNetworks (aligned earlier (by simp [member]))]
    exact claimed earlier member

theorem nextFreeSlash24_of_claimed {servers : List Server} {supernet : String}
    (claimed : ∀ network ∈ supernetBlocks supernet, HoldsBase servers network) :
    nextFreeSlash24 supernet (usedNetworks servers) = none := by
  rw [nextFreeSlash24_eq, List.findSome?_eq_none_iff]
  intro network member
  rw [if_pos]
  rw [List.contains_iff_mem, mem_usedNetworks (of_mem_supernetBlocks member).1]
  exact claimed network member

theorem firstFree_or_claimed (servers : List Server) (blocks : List Nat) :
    (∃ network, FirstFree servers blocks network) ∨
      ∀ network ∈ blocks, HoldsBase servers network := by
  induction blocks with
  | nil => exact Or.inr fun _ member => absurd member List.not_mem_nil
  | cons block blocks ih =>
      by_cases holds : HoldsBase servers block
      · rcases ih with found | claimed
        · obtain ⟨network, front, back, split, earlier, open_block⟩ := found
          refine Or.inl ⟨network, block :: front, back, by rw [split]; rfl, ?_, open_block⟩
          intro other member
          rcases List.mem_cons.mp member with rfl | later
          · exact holds
          · exact earlier other later
        · right
          intro other member
          rcases List.mem_cons.mp member with rfl | later
          · exact holds
          · exact claimed other later
      · exact Or.inl ⟨block, [], blocks, rfl, fun _ member => absurd member List.not_mem_nil,
          holds⟩

theorem default_range : defaultInternalIpRange "wireguard" = integerToIp defaultNetwork ++ "/24" := by
  decide

theorem allocateInternalIpRange_apart_iff {protocol : String}
    (wireguard : protocol ≠ "shadowsocks") (setting : Option String) (servers : List Server) :
    ApartFrom servers (allocateInternalIpRange setting servers protocol) ↔
      RangesSound setting servers := by
  unfold allocateInternalIpRange RangesSound
  rw [if_neg wireguard]
  rcases firstFree_or_claimed servers (supernetBlocks (wgSupernet setting)) with found | claimed
  · obtain ⟨network, first⟩ := found
    have inside : network ∈ supernetBlocks (wgSupernet setting) := by
      obtain ⟨front, back, split, -, -⟩ := first
      rw [split]
      simp
    have open_block : ¬ HoldsBase servers network := by
      obtain ⟨_, _, _, _, open_block⟩ := first
      exact open_block
    rw [nextFreeSlash24_of_firstFree first]
    simp only
    rw [apartFrom_integerToIp servers (of_mem_supernetBlocks inside).2]
    constructor
    · intro apart
      constructor
      · intro other also_first
        have same := nextFreeSlash24_of_firstFree also_first
        rw [nextFreeSlash24_of_firstFree first, Option.some.injEq] at same
        have equal : network = other := by
          have read := congrArg (fun text => (parseCidr text).map Cidr.base) same
          have inside_other : other ∈ supernetBlocks (wgSupernet setting) := by
            obtain ⟨front, back, split, -, -⟩ := also_first
            rw [split]
            simp
          simp only [parseCidr_integerToIp (of_mem_supernetBlocks inside).2,
            parseCidr_integerToIp (of_mem_supernetBlocks inside_other).2] at read
          exact Option.some.inj read
        rw [← equal]
        exact apart.2
      · intro claimed
        exact absurd (claimed network inside) open_block
    · intro sound
      exact ⟨open_block, sound.1 network first⟩
  · rw [nextFreeSlash24_of_claimed claimed]
    simp only
    rw [default_range, apartFrom_integerToIp servers (by decide)]
    constructor
    · intro apart
      constructor
      · intro network first
        obtain ⟨front, back, split, -, open_block⟩ := first
        exact absurd (claimed network (by rw [split]; simp)) open_block
      · intro _
        exact apart
    · intro sound
      exact sound.2 claimed

theorem allocateInternalIpRange_sentinel_iff (setting : Option String) (servers : List Server) :
    ApartFrom servers (allocateInternalIpRange setting servers "shadowsocks") ↔
      SentinelSound servers := by
  have text : allocateInternalIpRange setting servers "shadowsocks" = "0.0.0.0/32" := rfl
  have read : (parseCidr "0.0.0.0/32").map Cidr.block = some ⟨0, 0⟩ := by decide
  obtain ⟨own, own_read, own_block⟩ := Option.map_eq_some_iff.mp read
  unfold ApartFrom SentinelSound
  rw [text, own_read]
  have one : ∀ cidr : Cidr, own.block.Disjoint cidr.block ↔ ¬ cidr.block.Contains 0 := by
    intro cidr
    have fewer : own.block.hostBits ≤ cidr.block.hostBits := by
      rw [own_block]
      exact Nat.zero_le _
    rw [AddressBlock.disjoint_iff_base fewer, own_block]
  constructor
  · intro apart range stored cidr parsed
    obtain ⟨_, same, disjoint⟩ := apart
    cases same
    exact (one cidr).mp (disjoint range stored cidr parsed)
  · intro outside
    refine ⟨own, rfl, ?_⟩
    intro range stored cidr parsed
    exact (one cidr).mpr (outside range stored cidr parsed)

/-- An octet that no configuration has in last place. -/
def FreeOctet (configs : List String) (octet : Nat) : Prop :=
  2 ≤ octet ∧ octet ≤ 254 ∧ ∀ taken ∈ takenAddresses configs, taken % 256 ≠ octet

def FirstOctet (configs : List String) (octet : Nat) : Prop :=
  FreeOctet configs octet ∧ ∀ earlier, earlier < octet → ¬ FreeOctet configs earlier

/-- A usable address that the search cannot find: the range is wider than the `/24`, or the
last octet is that of another address. -/
def Missed (cidr : Cidr) (configs : List String) (address : Nat) : Prop :=
  Usable cidr configs address ∧
    (cidr.length < 24 ∨
      ∃ other ∈ takenAddresses configs, other ≠ address ∧ other % 256 = address % 256)

/-- The first free octet lies strictly inside the range; if there is none, nothing is
missed. -/
def OctetsSound (internalIpRange : String) (configs : List String) : Prop :=
  ∀ cidr base, parseCidr internalIpRange = some cidr →
    parseBaseIpv4 internalIpRange = some base →
    (∀ octet, FirstOctet configs octet →
      cidr.block.network < cidr.base / 256 * 256 + octet ∧
        cidr.base / 256 * 256 + octet < cidr.block.broadcast) ∧
    ((∀ octet, ¬ FreeOctet configs octet) → ∀ address, ¬ Missed cidr configs address)

theorem toNat_mod (address : Ipv4Address) : address.toNat % 256 = address.d.val := by
  unfold Ipv4Address.toNat
  omega

theorem mem_allocatedOctets {configs : List String} {octet : Nat} :
    octet ∈ allocatedOctets configs ↔ ∃ taken ∈ takenAddresses configs, taken % 256 = octet := by
  unfold allocatedOctets takenAddresses
  simp only [List.mem_filterMap, Option.map_eq_some_iff]
  constructor
  · intro found
    obtain ⟨ip, member, address, read, same⟩ := found
    exact ⟨address.toNat, ⟨ip, member, address, read, rfl⟩, (toNat_mod address).trans same⟩
  · intro found
    obtain ⟨_, ⟨ip, member, address, read, rfl⟩, same⟩ := found
    exact ⟨ip, member, address, read, (toNat_mod address).symm.trans same⟩

theorem free_iff {configs : List String} {octet : Nat} (low : 2 ≤ octet) (high : octet ≤ 254) :
    FreeOctet configs octet ↔ (!(allocatedOctets configs).contains octet) = true := by
  rw [Bool.not_eq_true', ← Bool.not_eq_true, List.contains_iff_mem, mem_allocatedOctets]
  constructor
  · intro free taken
    obtain ⟨address, member, same⟩ := taken
    exact free.2.2 address member same
  · intro untaken
    refine ⟨low, high, ?_⟩
    intro address member same
    exact untaken ⟨address, member, same⟩

theorem allocateIpForUser_of_first {internalIpRange : String} {configs : List String}
    {base : Ipv4Address} {octet : Nat}
    (read : parseBaseIpv4 internalIpRange = some base) (first : FirstOctet configs octet) :
    allocateIpForUser internalIpRange configs =
      .ok (dotted base.a.val base.b.val base.c.val octet ++ "/32") := by
  obtain ⟨free, least⟩ := first
  have found : ((List.range' 2 253).find? fun d => !(allocatedOctets configs).contains d) =
      some octet := by
    rw [List.find?_range'_eq_some]
    refine ⟨(free_iff free.1 free.2.1).mp free, ?_, ?_⟩
    · rw [List.mem_range'_1]
      have bounds := free.2.1
      exact ⟨free.1, by omega⟩
    · intro earlier low before
      have high := free.2.1
      rw [Bool.not_eq_true', ← Bool.not_eq_true, ← free_iff low (by omega)]
      exact least earlier before
  unfold allocateIpForUser
  rw [read]
  simp only
  rw [found]

theorem allocateIpForUser_of_full {internalIpRange : String} {configs : List String}
    {base : Ipv4Address} (read : parseBaseIpv4 internalIpRange = some base)
    (full : ∀ octet, ¬ FreeOctet configs octet) :
    allocateIpForUser internalIpRange configs = .error .noAvailableIps := by
  have none_left : ((List.range' 2 253).find? fun d => !(allocatedOctets configs).contains d) =
      none := by
    rw [List.find?_eq_none]
    intro octet member
    rw [List.mem_range'_1] at member
    rw [← free_iff member.1 (by omega)]
    exact full octet
  unfold allocateIpForUser
  rw [read]
  simp only
  rw [none_left]

theorem first_or_full (configs : List String) :
    (∃ octet, FirstOctet configs octet) ∨ ∀ octet, ¬ FreeOctet configs octet := by
  classical
  by_cases some_free : ∃ octet, FreeOctet configs octet
  · left
    exact ⟨Nat.find some_free, Nat.find_spec some_free, fun _ before =>
      Nat.find_min some_free before⟩
  · right
    intro octet free
    exact some_free ⟨octet, free⟩

theorem usable_iff {cidr : Cidr} {configs : List String} {address : Nat} :
    Usable cidr configs address ↔
      (cidr.block.network < address ∧ address < cidr.block.broadcast) ∧
        address ≠ cidr.gateway ∧ address ∉ takenAddresses configs := by
  constructor
  · intro usable
    have between := (cidr.block.contains_iff_between address).mp usable.inside
    have low := usable.not_network
    have high := usable.not_broadcast
    exact ⟨by omega, usable.not_gateway, usable.free⟩
  · intro both
    obtain ⟨between, gateway, free⟩ := both
    refine ⟨?_, ?_, ?_, gateway, free⟩
    · rw [AddressBlock.contains_iff_between]
      omega
    · omega
    · omega

theorem octet_of_usable {cidr : Cidr} {configs : List String} {address : Nat}
    (narrow : 24 ≤ cidr.length) (usable : Usable cidr configs address) :
    2 ≤ address % 256 ∧ address % 256 ≤ 254 := by
  have fewer : cidr.block.hostBits ≤ (slash24 cidr.base).hostBits := by
    change 32 - cidr.length ≤ 8
    omega
  have within : ∀ other, cidr.block.Contains other → other / 256 = cidr.base / 256 := by
    intro other inside
    exact AddressBlock.contains_of_common fewer cidr.block.contains_base
      (slash24 cidr.base).contains_base inside
  have between := (usable_iff.mp usable).1
  have not_gateway := usable.not_gateway
  have here := within address usable.inside
  have start := within cidr.block.network cidr.block.contains_network
  have stop := within cidr.block.broadcast
    ((cidr.block.contains_iff_between _).mpr ⟨by omega, Nat.le_refl _⟩)
  unfold Cidr.gateway at not_gateway
  omega

theorem missed_of_full {cidr : Cidr} {configs : List String} {address : Nat}
    (full : ∀ octet, ¬ FreeOctet configs octet) (usable : Usable cidr configs address) :
    Missed cidr configs address := by
  refine ⟨usable, ?_⟩
  by_cases wide : cidr.length < 24
  · exact Or.inl wide
  · right
    obtain ⟨low, high⟩ := octet_of_usable (Nat.le_of_not_lt wide) usable
    by_contra none_other
    apply full (address % 256)
    refine ⟨low, high, ?_⟩
    intro taken member same
    apply none_other
    refine ⟨taken, member, ?_, same⟩
    intro equal
    rw [equal] at member
    exact usable.free member

theorem usable_of_first {cidr : Cidr} {configs : List String} {base : Ipv4Address} {octet : Nat}
    (same : base.toNat = cidr.base) (first : FirstOctet configs octet) :
    (∃ address, parseBaseIpv4 (dotted base.a.val base.b.val base.c.val octet ++ "/32") =
        some address ∧ Usable cidr configs address.toNat) ↔
      cidr.block.network < cidr.base / 256 * 256 + octet ∧
        cidr.base / 256 * 256 + octet < cidr.block.broadcast := by
  obtain ⟨⟨low, high, untaken⟩, -⟩ := first
  have read := parseBaseIpv4_dotted ⟨base.a, base.b, base.c, ⟨octet, by omega⟩⟩
    (show "/32".toList = '/' :: ['3', '2'] from rfl)
  have number : (⟨base.a, base.b, base.c, ⟨octet, by omega⟩⟩ : Ipv4Address).toNat =
      cidr.base / 256 * 256 + octet := by
    rw [← same]
    unfold Ipv4Address.toNat
    simp only
    omega
  rw [read]
  constructor
  · intro given
    obtain ⟨address, shown, usable⟩ := given
    rw [← Option.some.inj shown, number] at usable
    exact (usable_iff.mp usable).1
  · intro between
    refine ⟨_, rfl, ?_⟩
    rw [number, usable_iff]
    refine ⟨between, ?_, ?_⟩
    · unfold Cidr.gateway
      omega
    · intro taken
      exact untaken _ taken (by omega)

theorem servesUsers_iff (internalIpRange : String) (configs : List String) :
    ServesUsers internalIpRange configs ↔ OctetsSound internalIpRange configs := by
  constructor
  · intro serves cidr base ranged read
    obtain ⟨given, refused⟩ := serves cidr ranged
    have same := toNat_of_parseCidr ranged read
    constructor
    · intro octet first
      rw [← usable_of_first same first]
      exact given _ (allocateIpForUser_of_first read first)
    · intro full address missed
      exact refused (allocateIpForUser_of_full read full) address missed.1
  · intro sound cidr ranged
    cases read : parseBaseIpv4 internalIpRange with
    | none =>
        have refusal : allocateIpForUser internalIpRange configs = .error .invalidIpRange := by
          rw [allocateIpForUser, read]
        rw [refusal]
        constructor
        · intro text impossible
          cases impossible
        · intro impossible
          cases impossible
    | some base =>
        obtain ⟨within, complete⟩ := sound cidr base ranged read
        have same := toNat_of_parseCidr ranged read
        rcases first_or_full configs with found | full
        · obtain ⟨octet, first⟩ := found
          rw [allocateIpForUser_of_first read first]
          constructor
          · intro text written
            cases written
            exact (usable_of_first same first).mpr (within octet first)
          · intro impossible
            cases impossible
        · rw [allocateIpForUser_of_full read full]
          constructor
          · intro text impossible
            cases impossible
          · intro _ address usable
            exact complete full address (missed_of_full full usable)

/-- The allocations keep the ranges apart and serve the users exactly when the two searches,
which look at base addresses and last octets only, find no range and no address that the
prefixes rule out. -/
theorem address_plan_iff (setting : Option String) (servers : List Server) (protocol : String)
    (internalIpRange : String) (configs : List String) :
    (ApartFrom servers (allocateInternalIpRange setting servers protocol) ↔
      if protocol = "shadowsocks" then SentinelSound servers
      else RangesSound setting servers) ∧
    (ServesUsers internalIpRange configs ↔ OctetsSound internalIpRange configs) := by
  constructor
  · by_cases shadowsocks : protocol = "shadowsocks"
    · rw [if_pos shadowsocks, shadowsocks]
      exact allocateInternalIpRange_sentinel_iff setting servers
    · rw [if_neg shadowsocks]
      exact allocateInternalIpRange_apart_iff shadowsocks setting servers
  · exact servesUsers_iff internalIpRange configs

/-- Next to a server with the range `10.8.0.0/16`, a new one gets `10.8.1.0/24`; and the
first user of a server with `10.9.0.128/25` gets `10.9.0.2`. -/
theorem overlapping_ranges_and_foreign_address :
    (allocateInternalIpRange none [⟨"wireguard", some "10.8.0.0/16"⟩] "wireguard" =
        "10.8.1.0/24" ∧
      ¬ ApartFrom [⟨"wireguard", some "10.8.0.0/16"⟩] "10.8.1.0/24") ∧
    allocateIpForUser "10.9.0.128/25" [] = .ok "10.9.0.2/32" ∧
      ¬ ServesUsers "10.9.0.128/25" [] := by
  have allocated : allocateInternalIpRange none [⟨"wireguard", some "10.8.0.0/16"⟩] "wireguard" =
      "10.8.1.0/24" := by decide
  have given : allocateIpForUser "10.9.0.128/25" [] = .ok "10.9.0.2/32" := by decide
  have wide : (parseCidr "10.8.0.0/16").map Cidr.block = some ⟨10 * 2 ^ 24 + 8 * 2 ^ 16, 16⟩ := by
    decide
  have part : (parseCidr "10.8.1.0/24").map Cidr.block =
      some ⟨10 * 2 ^ 24 + 8 * 2 ^ 16 + 256, 8⟩ := by decide
  have half : (parseCidr "10.9.0.128/25").map Cidr.block =
      some ⟨10 * 2 ^ 24 + 9 * 2 ^ 16 + 128, 7⟩ := by decide
  have second : (parseBaseIpv4 "10.9.0.2/32").map Ipv4Address.toNat =
      some (10 * 2 ^ 24 + 9 * 2 ^ 16 + 2) := by decide
  refine ⟨⟨allocated, ?_⟩, given, ?_⟩
  · intro apart
    obtain ⟨own, read, disjoint⟩ := apart
    obtain ⟨other, other_read, other_block⟩ := Option.map_eq_some_iff.mp wide
    have own_block : own.block = ⟨10 * 2 ^ 24 + 8 * 2 ^ 16 + 256, 8⟩ := by
      rw [read] at part
      exact Option.some.inj part
    have both := disjoint "10.8.0.0/16" (by decide) other other_read
    rw [own_block, other_block] at both
    exact both (10 * 2 ^ 24 + 8 * 2 ^ 16 + 256) ⟨rfl, rfl⟩
  · intro serves
    obtain ⟨cidr, read, block⟩ := Option.map_eq_some_iff.mp half
    obtain ⟨address, shown, usable⟩ := (serves cidr read).1 _ given
    have inside := usable.inside
    rw [shown] at second
    rw [block, Option.some.inj second] at inside
    revert inside
    decide

end Elektrine.VPN
