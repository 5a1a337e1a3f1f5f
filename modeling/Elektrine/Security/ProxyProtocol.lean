import Elektrine.Data.Text
import Elektrine.Library.Separated
import Elektrine.Security.IpAddresses
import Mathlib.Data.List.DropRight
import Mathlib.Data.List.Infix

/-!
# The PROXY protocol

The mail servers take the address of a client from the first line of a connection, when
the peer is a trusted proxy.  Their sockets deliver whole lines, but the line has to be
there within a second.
-/

namespace Elektrine.Security.ProxyProtocol

/-- The functions of the runtime, and `:trusted_proxy_cidrs`. -/
structure Settings where
  parseAddress : String → Option IpAddress
  ntoa : IpAddress → String
  trustedProxyCidrs : List String

def ipMaxBits : IpAddress → Nat
  | .v4 _ => 32
  | .v6 _ => 128

def ipToInteger : IpAddress → Nat
  | .v4 ip => ip.toNat
  | .v6 ip => ip.toNat

def parsePrefix (value : Option String) (maxBits : Nat) : Option Nat :=
  match value with
  | none => some maxBits
  | some text =>
      (integerParseExact text).bind fun length =>
        if 0 ≤ length ∧ length ≤ maxBits then some length.toNat else none

def parseCidr (settings : Settings) (value : String) : Option (IpAddress × Nat) :=
  let characters := (trim value).toList
  let address := characters.takeWhile (· ≠ '/')
  let prefixText := match characters.dropWhile (· ≠ '/') with
    | [] => none
    | _ :: rest => some (String.ofList rest)
  (settings.parseAddress (String.ofList address)).bind fun ip =>
    (parsePrefix prefixText (ipMaxBits ip)).map fun length => (ip, length)

def ipInCidr (ip : IpAddress) (cidr : IpAddress × Nat) : Bool :=
  ipMaxBits ip == ipMaxBits cidr.1 &&
    ipToInteger ip >>> (ipMaxBits ip - cidr.2) ==
      ipToInteger cidr.1 >>> (ipMaxBits cidr.1 - cidr.2)

def trustedProxyPeer (settings : Settings) : Option IpAddress → Bool
  | some ip => (settings.trustedProxyCidrs.filterMap (parseCidr settings)).any (ipInCidr ip)
  | none => false

abbrev Parsed := String × Option String

def parseProxyHeader (data fallbackIp : String) : Parsed :=
  let line := trim data
  match (line.toList.splitOn ' ').map String.ofList with
  | ["PROXY", "TCP4", clientIp, _, _, _] => (clientIp, none)
  | ["PROXY", "TCP6", clientIp, _, _, _] => (clientIp, none)
  | "PROXY" :: "UNKNOWN" :: _ => (fallbackIp, none)
  | _ => (fallbackIp, some line)

inductive Receipt where
  | data (line : List Char)
  | timeout
  | failed

def peerText (settings : Settings) : Option IpAddress → String
  | some ip => settings.ntoa ip
  | none => "unknown"

def parseClientIp (settings : Settings) (peer : Option IpAddress) : Receipt → Option Parsed
  | .data characters =>
      let line := String.ofList characters
      if ("PROXY ".toList.isPrefixOf characters) && trustedProxyPeer settings peer then
        some (parseProxyHeader line (peerText settings peer))
      else some (peerText settings peer, some line)
  | .timeout => some (peerText settings peer, none)
  | .failed => none

/-! ## Sockets -/

structure Arrival where
  time : Nat
  characters : List Char

def stream (arrivals : List Arrival) : List Char :=
  arrivals.flatMap Arrival.characters

def inTime (arrivals : List Arrival) : List Char :=
  stream (arrivals.takeWhile fun arrival => arrival.time ≤ 1000)

def late (arrivals : List Arrival) : List Char :=
  stream (arrivals.dropWhile fun arrival => arrival.time ≤ 1000)

def packetSize : Nat := 8192

/-- `:gen_tcp.recv(socket, 0, 1_000)` on an open socket with `packet: :line`, with the
characters that stay unread. -/
def recv (arrivals : List Arrival) : Receipt × List Char :=
  let there := inTime arrivals
  let line := there.takeWhile (· ≠ '\n')
  if line.length < there.length ∧ line.length < packetSize then
    (.data (line ++ ['\n']), there.drop (line.length + 1) ++ late arrivals)
  else if packetSize ≤ there.length then
    (.data (there.take packetSize), there.drop packetSize ++ late arrivals)
  else (.timeout, there ++ late arrivals)

/-! ## Headers -/

abbrev Visible (word : List Char) : Prop :=
  word ≠ [] ∧ (word.all fun character =>
    0x21 ≤ character.toNat && character.toNat ≤ 0x7E) = true

def headerLine (words : List (List Char)) : List Char :=
  [' '].intercalate words ++ ['\r', '\n']

structure Header where
  tcp6 : Bool
  clientIp : List Char
  proxyIp : List Char
  clientPort : List Char
  proxyPort : List Char
  visible : ∀ word ∈ [clientIp, proxyIp, clientPort, proxyPort], Visible word
  size : (headerLine ["PROXY".toList, (if tcp6 then "TCP6" else "TCP4").toList, clientIp,
    proxyIp, clientPort, proxyPort]).length ≤ 107

def Header.words (header : Header) : List (List Char) :=
  ["PROXY".toList, (if header.tcp6 then "TCP6" else "TCP4").toList, header.clientIp,
    header.proxyIp, header.clientPort, header.proxyPort]

def Header.line (header : Header) : List Char :=
  headerLine header.words

/-- The address of the header is returned, and no character of the client is lost or
added. -/
def Lossless (settings : Settings) (peer : Option IpAddress) (header : Header)
    (client : List Char) (arrivals : List Arrival) : Prop :=
  ∃ handed, parseClientIp settings peer (recv arrivals).1 =
      some (String.ofList header.clientIp, handed) ∧
    (handed.getD "").toList ++ (recv arrivals).2 = client

/-- The address has the leading bits of the block, and is of its family. -/
def LeadingBits (ip network : IpAddress) (length : Nat) : Prop :=
  ipMaxBits ip = ipMaxBits network ∧
    ∀ place, ipMaxBits ip - length ≤ place → place < ipMaxBits ip →
      (ipToInteger ip).testBit place = (ipToInteger network).testBit place

/-- The header of a trusted peer is handled without loss when it comes in time, that of
another peer never determines the address, and the trusted peers are those in the
configured blocks. -/
structure HandledRightly (settings : Settings) (peer : Option IpAddress) (header : Header)
    (client : List Char) (arrivals : List Arrival) : Prop where
  lossless : trustedProxyPeer settings peer = true → header.line <+: inTime arrivals →
    Lossless settings peer header client arrivals
  ignored : trustedProxyPeer settings peer = false →
    ∀ receipt parsed, parseClientIp settings peer receipt = some parsed →
      parsed.1 = peerText settings peer
  trusted : trustedProxyPeer settings peer = true ↔
    ∃ ip, peer = some ip ∧ ∃ value ∈ settings.trustedProxyCidrs, ∃ network length,
      parseCidr settings value = some (network, length) ∧ LeadingBits ip network length

/-! ## Trusted peers -/

theorem ipToInteger_lt (ip : IpAddress) : ipToInteger ip < 2 ^ ipMaxBits ip := by
  cases ip with
  | v4 ip => exact ip.toNat_lt
  | v6 ip =>
      simp only [ipToInteger, ipMaxBits, Ipv6Address.toNat]
      omega

theorem ipInCidr_iff (ip network : IpAddress) (length : Nat) :
    ipInCidr ip (network, length) = true ↔ LeadingBits ip network length := by
  unfold ipInCidr LeadingBits
  rw [Bool.and_eq_true, beq_iff_eq, beq_iff_eq]
  apply and_congr_right
  intro family
  have above : ∀ address : IpAddress, ipMaxBits address = ipMaxBits ip →
      ∀ place, ¬ place < ipMaxBits ip → (ipToInteger address).testBit place = false := by
    intro address same place high
    apply Nat.testBit_lt_two_pow
    apply Nat.lt_of_lt_of_le (ipToInteger_lt address)
    rw [same]
    exact Nat.pow_le_pow_right (by decide) (Nat.le_of_not_lt high)
  constructor
  · intro same place low _
    have bit := congrArg (fun number => number.testBit (place - (ipMaxBits ip - length))) same
    simp only [Nat.testBit_shiftRight, ← family, Nat.add_sub_cancel' low] at bit
    exact bit
  · intro bits
    apply Nat.eq_of_testBit_eq
    intro place
    rw [Nat.testBit_shiftRight, Nat.testBit_shiftRight, ← family]
    by_cases inside : ipMaxBits ip - length + place < ipMaxBits ip
    · exact bits _ (Nat.le_add_right _ _) inside
    · rw [above ip rfl _ inside, above network family.symm _ inside]

theorem trustedProxyPeer_iff (settings : Settings) (peer : Option IpAddress) :
    trustedProxyPeer settings peer = true ↔
      ∃ ip, peer = some ip ∧ ∃ value ∈ settings.trustedProxyCidrs, ∃ network length,
        parseCidr settings value = some (network, length) ∧ LeadingBits ip network length := by
  cases peer with
  | none => simp [trustedProxyPeer]
  | some ip =>
      rw [trustedProxyPeer, List.any_eq_true]
      constructor
      · intro found
        obtain ⟨⟨network, length⟩, member, inside⟩ := found
        obtain ⟨value, configured, parsed⟩ := List.mem_filterMap.mp member
        exact ⟨ip, rfl, value, configured, network, length, parsed,
          (ipInCidr_iff ip network length).mp inside⟩
      · intro found
        obtain ⟨_, same, value, configured, network, length, parsed, inside⟩ := found
        cases same
        exact ⟨(network, length), List.mem_filterMap.mpr ⟨value, configured, parsed⟩,
          (ipInCidr_iff ip network length).mpr inside⟩

/-! ## The header line -/

theorem Visible.bounds {word : List Char} (visible : Visible word) {character : Char}
    (member : character ∈ word) : 0x21 ≤ character.toNat ∧ character.toNat ≤ 0x7E := by
  have bounds := List.all_eq_true.mp visible.2 character member
  rw [Bool.and_eq_true, decide_eq_true_eq, decide_eq_true_eq] at bounds
  exact bounds

theorem Visible.ne {word : List Char} (visible : Visible word) {character : Char}
    (below : character.toNat < 0x21) : character ∉ word := by
  intro member
  have low := (visible.bounds member).1
  omega

theorem isWhiteSpace_of_visible {word : List Char} (visible : Visible word)
    {character : Char} (member : character ∈ word) : isWhiteSpace character = false := by
  obtain ⟨low, high⟩ := visible.bounds member
  unfold isWhiteSpace
  simp
  omega

theorem Header.visible_words (header : Header) : ∀ word ∈ header.words, Visible word := by
  intro word member
  rcases List.mem_cons.mp member with rfl | member
  · exact ⟨by decide, by decide⟩
  · rcases List.mem_cons.mp member with rfl | member
    · cases header.tcp6 <;> exact ⟨by decide, by decide⟩
    · exact header.visible word member

theorem Header.words_ne_nil (header : Header) : header.words ≠ [] := by
  intro empty
  cases empty

def Header.text (header : Header) : List Char :=
  [' '].intercalate header.words

theorem Header.text_eq (header : Header) : ∃ front, header.text = 'P' :: front ∧
    ∃ rest, header.text = rest ++ header.proxyPort := by
  have last : header.text =
      [' '].intercalate header.words.dropLast ++ ' ' :: header.proxyPort := by
    simp [Header.text, Header.words, List.intercalate]
  rw [List.append_cons] at last
  exact ⟨_, rfl, _, last⟩

theorem Header.not_mem_text (header : Header) {character : Char}
    (below : character.toNat < 0x20) : character ∉ header.text := by
  apply Library.not_mem_intercalate
  · intro blank
    rw [List.mem_singleton.mp blank] at below
    exact absurd below (by decide)
  · intro word member
    exact (header.visible_words word member).ne (Nat.lt_succ_of_lt below)

theorem Header.trim_line (header : Header) :
    (trim (String.ofList header.line)).toList = header.text := by
  obtain ⟨front, first, rest, last⟩ := header.text_eq
  have port : Visible header.proxyPort := header.visible _ (by simp)
  have split : header.line = header.text ++ ['\r'] ++ ['\n'] := by
    rw [List.append_assoc]
    rfl
  rw [toList_trim, String.toList_ofList]
  have kept : header.line.dropWhile isWhiteSpace = header.line := by
    rw [split, first]
    exact List.dropWhile_cons_of_neg (by decide)
  rw [kept, split, List.rdropWhile_concat_pos _ _ _ (by decide),
    List.rdropWhile_concat_pos _ _ _ (by decide), List.rdropWhile_eq_self_iff]
  intro nonempty
  have end_port : header.text.getLast nonempty ∈ header.proxyPort := by
    simp only [last, List.getLast_append_of_ne_nil _ port.1]
    exact List.getLast_mem port.1
  rw [isWhiteSpace_of_visible port end_port]
  exact Bool.false_ne_true

theorem parseProxyHeader_line (header : Header) (fallbackIp : String) :
    parseProxyHeader (String.ofList header.line) fallbackIp =
      (String.ofList header.clientIp, none) := by
  have apart : ∀ word ∈ header.words, ' ' ∉ word := by
    intro word member
    exact (header.visible_words word member).ne (by decide)
  have words := List.splitOn_intercalate ' ' apart header.words_ne_nil
  unfold parseProxyHeader
  simp only [header.trim_line]
  rw [Header.text, words, Header.words]
  cases header.tcp6 <;> rfl

theorem recv_line (header : Header) {arrivals : List Arrival} {rest : List Char}
    (there : inTime arrivals = header.line ++ rest) :
    recv arrivals = (.data header.line, rest ++ late arrivals) := by
  have without : ∀ character ∈ header.text ++ ['\r'], (character ≠ '\n') := by
    intro character member same
    rcases List.mem_append.mp member with inside | final
    · exact header.not_mem_text (by decide) (same ▸ inside)
    · rw [same, List.mem_singleton] at final
      exact absurd final (by decide)
  have split : header.line = (header.text ++ ['\r']) ++ ['\n'] := by
    rw [List.append_assoc]
    rfl
  have line : (inTime arrivals).takeWhile (· ≠ '\n') = header.text ++ ['\r'] := by
    rw [there, split, List.append_assoc, List.takeWhile_append_of_pos (by simpa using without)]
    simp
  have size := header.size
  change header.line.length ≤ 107 at size
  rw [split, List.length_append, List.length_singleton] at size
  have drop : (inTime arrivals).drop ((header.text ++ ['\r']).length + 1) = rest := by
    rw [there, split]
    exact List.drop_left' List.length_append
  have long : (header.text ++ ['\r']).length < (inTime arrivals).length := by
    rw [there, split]
    simp only [List.length_append, List.length_singleton]
    omega
  have short : (header.text ++ ['\r']).length < packetSize := by
    unfold packetSize
    omega
  unfold recv
  simp only [line]
  rw [if_pos ⟨long, short⟩, drop, ← split]

theorem inTime_append_late (arrivals : List Arrival) :
    inTime arrivals ++ late arrivals = stream arrivals := by
  unfold inTime late stream
  rw [← List.flatMap_append, List.takeWhile_append_dropWhile]

theorem lossless_of_inTime {settings : Settings} {peer : Option IpAddress} {header : Header}
    {client : List Char} {arrivals : List Arrival}
    (sent : stream arrivals = header.line ++ client)
    (trusted : trustedProxyPeer settings peer = true) (there : header.line <+: inTime arrivals) :
    Lossless settings peer header client arrivals := by
  obtain ⟨rest, split⟩ := there
  have received := recv_line header split.symm
  have unread : rest ++ late arrivals = client := by
    rw [← inTime_append_late, ← split, List.append_assoc] at sent
    exact List.append_cancel_left sent
  refine ⟨none, ?_, ?_⟩
  · have first : "PROXY ".toList.isPrefixOf header.line = true := rfl
    rw [received]
    simp only [parseClientIp]
    rw [first, trusted]
    exact congrArg some (parseProxyHeader_line header _)
  · rw [received]
    exact unread

/-- Of every header of version 1 that arrives in any pieces before the client's bytes. -/
theorem header_handled {settings : Settings} {peer : Option IpAddress} {header : Header}
    {client : List Char} {arrivals : List Arrival}
    (sent : stream arrivals = header.line ++ client) :
    HandledRightly settings peer header client arrivals := by
  constructor
  · exact lossless_of_inTime sent
  · intro other receipt parsed answer
    cases receipt with
    | data characters =>
        rw [parseClientIp, other, Bool.and_false] at answer
        cases answer
        rfl
    | timeout =>
        cases answer
        rfl
    | failed => cases answer
  · exact trustedProxyPeer_iff settings peer

def privateProxy : Settings where
  parseAddress text := if text = "10.0.0.0" then some (.v4 ⟨10, 0, 0, 0⟩) else none
  ntoa _ := "10.1.2.3"
  trustedProxyCidrs := ["10.0.0.0/8"]

def proxyPeer : Option IpAddress := some (.v4 ⟨10, 1, 2, 3⟩)

def mailHeader : Header where
  tcp6 := false
  clientIp := "192.0.2.7".toList
  proxyIp := "10.1.2.3".toList
  clientPort := "40000".toList
  proxyPort := "143".toList
  visible := by decide
  size := by decide

def twoPieces : List Arrival :=
  [⟨3, mailHeader.line.take 20⟩, ⟨40, mailHeader.line.drop 20 ++ "NOOP\r\n".toList⟩]

theorem header_handled_twoPieces :
    Lossless privateProxy proxyPeer mailHeader "NOOP\r\n".toList twoPieces := by
  have sent : stream twoPieces = mailHeader.line ++ "NOOP\r\n".toList := by decide
  exact (header_handled sent).lossless (by decide) (by decide)

/-- A header that comes after the second is left for the session to read. -/
theorem not_lossless_late :
    trustedProxyPeer privateProxy proxyPeer = true ∧
      stream [⟨1500, mailHeader.line⟩] = mailHeader.line ++ [] ∧
      ¬ Lossless privateProxy proxyPeer mailHeader [] [⟨1500, mailHeader.line⟩] := by
  refine ⟨by decide, by decide, ?_⟩
  intro lossless
  obtain ⟨handed, _, kept⟩ := lossless
  have unread := (List.append_eq_nil_iff.mp kept).2
  cases unread

end Elektrine.Security.ProxyProtocol
