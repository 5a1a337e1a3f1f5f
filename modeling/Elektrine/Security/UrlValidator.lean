import Elektrine.Data.Uri
import Elektrine.Security.IpAddresses

/-!
# The address that a request is sent to

`resolve_public_address` tests the name of the host and every address it resolves to, and
returns the first address; the connection is opened to that address.  The parser of address
literals and the answers of the name servers are given by a `Resolver`.
-/

namespace Elektrine.Security

/-- `:inet.parse_address` and `:inet_res.lookup`; a lookup that raises has no answers. -/
structure Resolver where
  parseAddress : String → Option IpAddress
  lookupA : String → Option (List Ipv4Address)
  lookupAaaa : String → Option (List Ipv6Address)

inductive ValidationError where
  | privateIp
  | privateDomain
  | dnsResolutionFailed
  | unresolvableHost
  deriving DecidableEq, Repr

def dropTrailing (character : Char) (characters : List Char) : List Char :=
  (characters.reverse.dropWhile (· == character)).reverse

def normalizeHost (host : String) : String :=
  let front := (trim (downcase host)).toList.dropWhile (· == '[')
  String.ofList ((dropTrailing '.' (dropTrailing ']' front)).takeWhile (· != '%'))

def startsWithAny (host : String) (parts : List String) : Bool :=
  parts.any fun part => part.toList.isPrefixOf host.toList

def endsWithAny (host : String) (parts : List String) : Bool :=
  parts.any fun part => part.toList.isSuffixOf host.toList

/-- `~r/^172\.(1[6-9]|2[0-9]|3[0-1])\./` -/
def inBlock172 (host : String) : Bool :=
  match host.toList with
  | '1' :: '7' :: '2' :: '.' :: tens :: ones :: '.' :: _ =>
      (tens == '1' && ['6', '7', '8', '9'].contains ones) ||
        (tens == '2' && ones.isDigit) ||
        (tens == '3' && ['0', '1'].contains ones)
  | _ => false

/-- `~r/^100\.(6[4-9]|[7-9][0-9]|1[0-1][0-9]|12[0-7])\./` -/
def inBlock100 (host : String) : Bool :=
  match host.toList with
  | '1' :: '0' :: '0' :: '.' :: tens :: ones :: '.' :: _ =>
      (tens == '6' && ['4', '5', '6', '7', '8', '9'].contains ones) ||
        (['7', '8', '9'].contains tens && ones.isDigit)
  | '1' :: '0' :: '0' :: '.' :: '1' :: tens :: ones :: '.' :: _ =>
      (['0', '1'].contains tens && ones.isDigit) ||
        (tens == '2' && ['0', '1', '2', '3', '4', '5', '6', '7'].contains ones)
  | _ => false

def multicastIpv4 (host : String) : Bool :=
  match integerParseExact (String.ofList (host.toList.takeWhile (· != '.'))) with
  | some number => decide (224 ≤ number ∧ number ≤ 239)
  | none => false

def ipv4Private (host : String) : Bool :=
  startsWithAny host ["10."] || inBlock172 host || startsWithAny host ["192.168."] ||
    startsWithAny host ["127."] || startsWithAny host ["0."] || inBlock100 host ||
    startsWithAny host ["169.254."] || multicastIpv4 host

def dropLeadingPairs (first second : Char) : List Char → List Char
  | [] => []
  | [character] => [character]
  | character :: next :: rest =>
      if character = first ∧ next = second then dropLeadingPairs first second rest
      else character :: next :: rest

/-- `String.trim(host, "[]")`. -/
def trimPairs (host : String) : String :=
  let front := dropLeadingPairs '[' ']' host.toList
  String.ofList (dropLeadingPairs ']' '[' front.reverse).reverse

def ipv6Private (host : String) : Bool :=
  startsWithAny (trimPairs host)
    ["::1", "fc00:", "fd00:", "fe80:", "::ffff:127.", "::ffff:10.", "::ffff:192.168.",
      "::ffff:169.254.", "100::", "2001:db8:"]

def localhost (host : String) : Bool :=
  ["localhost", "localhost.localdomain", "ip6-localhost", "ip6-loopback"].contains host

def linkLocal (host : String) : Bool :=
  endsWithAny host
    [".local", ".localhost", ".internal", ".lan", ".home", ".corp", ".localdomain"]

def cloudMetadata (host : String) : Bool :=
  ["169.254.169.254", "metadata.google.internal", "metadata", "169.254.170.2"].contains host ||
    endsWithAny host [".internal"] ||
    host.toList.tails.any "metadata".toList.isPrefixOf

def privateIp (resolver : Resolver) (host : String) : Bool :=
  let host := normalizeHost host
  match resolver.parseAddress host with
  | some ip => privateOrSpecialIp ip
  | none =>
      ipv4Private host || ipv6Private host || localhost host || linkLocal host ||
        cloudMetadata host

def isPrivateDomain (host : String) : Bool :=
  let host := downcase host
  endsWithAny host
      [".local", ".localhost", ".internal", ".lan", ".home", ".corp", ".localdomain",
        ".intranet", ".private"] ||
    ["localhost", "localhost.localdomain", "broadcasthost", "ip6-localhost", "ip6-loopback",
      "ip6-localnet", "ip6-mcastprefix", "ip6-allnodes", "ip6-allrouters"].contains host

def answers (resolver : Resolver) (host : String) : List IpAddress :=
  match resolver.lookupA host, resolver.lookupAaaa host with
  | some aRecords, some aaaaRecords =>
      (aRecords.map IpAddress.v4 ++ aaaaRecords.map IpAddress.v6).eraseDups
  | _, _ => []

def resolveHostIps (resolver : Resolver) (host : String) :
    Except ValidationError (List IpAddress) :=
  match resolver.parseAddress host with
  | some ip => .ok [ip]
  | none =>
      match answers resolver host with
      | [] => .error .dnsResolutionFailed
      | records => .ok records

/-- `resolve_host_ips` returns no empty list. -/
def checkedFirst : Except ValidationError (List IpAddress) → Except ValidationError IpAddress
  | .ok (ip :: rest) =>
      if (ip :: rest).any privateOrSpecialIp then .error .privateIp else .ok ip
  | .ok [] => .error .dnsResolutionFailed
  | .error reason => .error reason

def resolvePublicHost (resolver : Resolver) (host : String) :
    Except ValidationError IpAddress :=
  let normalizedHost := normalizeHost host
  if privateIp resolver normalizedHost then .error .privateIp
  else if isPrivateDomain normalizedHost then .error .privateDomain
  else checkedFirst (resolveHostIps resolver normalizedHost)

def hostOf (urlOrHost : String) : String :=
  (uriParse urlOrHost).host.getD urlOrHost

def resolvePublicAddress (resolver : Resolver) (urlOrHost : String) :
    Except ValidationError IpAddress :=
  resolvePublicHost resolver (hostOf urlOrHost)

/-- `resolve_address`, which makes no tests. -/
def resolveAddress (resolver : Resolver) (urlOrHost : String) :
    Except ValidationError IpAddress :=
  match resolveHostIps resolver (normalizeHost (hostOf urlOrHost)) with
  | .ok (ip :: _) => .ok ip
  | .ok [] => .error .dnsResolutionFailed
  | .error reason => .error reason

inductive FetchScheme where
  | http
  | https
  deriving DecidableEq, Repr

structure FetchOptions where
  allowPrivateNetwork : Bool
  allowLocalhost : Bool

def FetchOptions.plain : FetchOptions := ⟨false, false⟩

structure FetchRequest where
  scheme : FetchScheme
  host : String

/-- The loopback addresses that `allow_localhost` lets a plain request go to. -/
def localAddress (resolver : Resolver) (host : String) : Except ValidationError IpAddress :=
  if host = "localhost" then .ok (.v4 ⟨127, 0, 0, 1⟩)
  else
    match resolver.parseAddress host with
    | some ip => .ok ip
    | none => .error .unresolvableHost

def resolveRequestAddress (resolver : Resolver) (request : FetchRequest)
    (options : FetchOptions) : Except ValidationError IpAddress :=
  if options.allowPrivateNetwork then resolveAddress resolver request.host
  else if request.scheme = .http ∧ options.allowLocalhost ∧
      ["localhost", "127.0.0.1", "::1"].contains request.host then
    localAddress resolver request.host
  else resolvePublicAddress resolver request.host

theorem resolveRequestAddress_plain (resolver : Resolver) (request : FetchRequest) :
    resolveRequestAddress resolver request .plain =
      resolvePublicAddress resolver request.host := by
  simp [resolveRequestAddress, FetchOptions.plain]

/-- The tests of the name let a host pass. -/
def PassesName (resolver : Resolver) (host : String) : Prop :=
  privateIp resolver host = false ∧ isPrivateDomain host = false

instance (resolver : Resolver) (host : String) : Decidable (PassesName resolver host) :=
  inferInstanceAs (Decidable (_ ∧ _))

def resolved (resolver : Resolver) (host : String) : List IpAddress :=
  match resolver.parseAddress host with
  | some ip => [ip]
  | none => answers resolver host

theorem checkedFirst_resolveHostIps (resolver : Resolver) (host : String) (ip : IpAddress) :
    checkedFirst (resolveHostIps resolver host) = .ok ip ↔
      (resolved resolver host).head? = some ip ∧
        ∀ answer ∈ resolved resolver host, privateOrSpecialIp answer = false := by
  have judged : ∀ records : List IpAddress, records ≠ [] →
      (checkedFirst (.ok records) = .ok ip ↔ records.head? = some ip ∧
        ∀ answer ∈ records, privateOrSpecialIp answer = false) := by
    intro records answered
    cases records with
    | nil => exact absurd rfl answered
    | cons first rest =>
        rw [checkedFirst]
        by_cases found : (first :: rest).any privateOrSpecialIp = true
        · rw [if_pos found]
          constructor
          · intro impossible
            cases impossible
          · intro clean
            obtain ⟨answer, member, special⟩ := List.any_eq_true.mp found
            rw [clean.2 answer member] at special
            cases special
        · rw [if_neg found, List.head?_cons, Except.ok.injEq, Option.some.injEq]
          constructor
          · intro same
            refine ⟨same, ?_⟩
            intro answer member
            rw [← Bool.not_eq_true]
            intro special
            exact found (List.any_eq_true.mpr ⟨answer, member, special⟩)
          · exact And.left
  unfold resolveHostIps resolved
  cases resolver.parseAddress host with
  | some literal => exact judged [literal] (List.cons_ne_nil _ _)
  | none =>
      cases answers resolver host with
      | nil => simp [checkedFirst]
      | cons first rest => exact judged (first :: rest) (List.cons_ne_nil _ _)

/-- An address is pinned when the name passes, no address of the host is one of those the
tests find, and it is the first of them. -/
theorem resolvePublicAddress_ok_iff (resolver : Resolver) (urlOrHost : String)
    (ip : IpAddress) :
    resolvePublicAddress resolver urlOrHost = .ok ip ↔
      PassesName resolver (normalizeHost (hostOf urlOrHost)) ∧
        (resolved resolver (normalizeHost (hostOf urlOrHost))).head? = some ip ∧
        ∀ answer ∈ resolved resolver (normalizeHost (hostOf urlOrHost)),
          privateOrSpecialIp answer = false := by
  unfold resolvePublicAddress resolvePublicHost PassesName
  rw [← checkedFirst_resolveHostIps]
  simp only []
  generalize normalizeHost (hostOf urlOrHost) = host
  cases privateIp resolver host with
  | true => simp
  | false =>
      cases isPrivateDomain host with
      | true => simp
      | false => simp

/-- Everything passes the tests, and the first address hides a special one. -/
def PinsTunnelled (resolver : Resolver) (urlOrHost : String) : Prop :=
  let host := normalizeHost (hostOf urlOrHost)
  PassesName resolver host ∧
    (∀ answer ∈ resolved resolver host, privateOrSpecialIp answer = false) ∧
    ∃ ip ∈ (resolved resolver host).head?, Tunnelled ip

/-- The validator keeps requests away from internal addresses, but for those that it does
not find inside the IPv4-compatible, NAT64 and 6to4 embeddings. -/
theorem request_not_internal_iff (resolver : Resolver) (request : FetchRequest) :
    (∀ ip, resolveRequestAddress resolver request .plain = .ok ip → ¬ Internal ip) ↔
      ¬ PinsTunnelled resolver request.host := by
  rw [resolveRequestAddress_plain]
  constructor
  · intro safe tunnels
    obtain ⟨passes, clean, ip, first, hidden⟩ := tunnels
    have pinned : resolvePublicAddress resolver request.host = .ok ip := by
      rw [resolvePublicAddress_ok_iff]
      exact ⟨passes, first, clean⟩
    apply safe ip pinned
    rw [internal_iff]
    exact Or.inr hidden
  · intro sound ip pinned internal
    obtain ⟨passes, first, clean⟩ := (resolvePublicAddress_ok_iff _ _ _).mp pinned
    rcases (internal_iff ip).mp internal with found | hidden
    · rw [clean ip (List.mem_of_mem_head? first)] at found
      cases found
    · exact sound ⟨passes, clean, ip, first, hidden⟩

def nat64Resolver : Resolver :=
  { parseAddress := fun _ => none
    lookupA := fun _ => some []
    lookupAaaa := fun _ => some [nat64Loopback] }

/-- The connection for `cdn.example.org` is opened to that address. -/
theorem nat64_loopback_pinned :
    resolveRequestAddress nat64Resolver ⟨.https, "cdn.example.org"⟩ .plain =
        .ok (.v6 nat64Loopback) ∧
      Internal (.v6 nat64Loopback) := by
  constructor
  · rw [resolveRequestAddress_plain, resolvePublicAddress_ok_iff]
    decide
  · refine Or.inr ⟨nat64, ?_, ?_⟩
    · simp
    · decide

end Elektrine.Security
