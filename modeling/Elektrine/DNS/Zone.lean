import Elektrine.Data.Text
import Elektrine.Data.Json

/-!
# Domain names as texts

The zones, records and queries carry names as texts with dots.  A name is compared
in lower case and without trailing dots, whichever of the two is done first.
-/

namespace Elektrine.DNS

/-- `String.trim_trailing(name, ".")`. -/
def trimTrailingDots (name : String) : String :=
  String.ofList (name.toList.rdropWhile (· == '.'))

def endsWith (name suffix : String) : Bool :=
  suffix.toList.isSuffixOf name.toList

/-- `String.split(name, ".", trim: true)`. -/
def splitLabels (name : String) : List String :=
  ((name.toList.splitOn '.').filter fun label => !label.isEmpty).map String.ofList

/-- `Enum.join(labels, ".")`. -/
def joinLabels (labels : List String) : String :=
  ".".intercalate labels

def normalizeName (name : String) : String :=
  trimTrailingDots (downcase name)

/-- `normalize_owner`, with which the encoder compares owner names. -/
def normalizeOwner (name : String) : String :=
  downcase (trimTrailingDots name)

def normalizeHostname (name : String) : String :=
  downcase (trimTrailingDots (trim name))

theorem toLower_eq_dot_iff (character : Char) :
    (character.toLower == '.') = (character == '.') := by
  have number := toNat_toLower character
  have dot : '.'.toNat = 46 := rfl
  rw [Bool.eq_iff_iff, beq_iff_eq, beq_iff_eq, ← Char.toNat_inj, ← Char.toNat_inj,
    number, dot]
  split_ifs <;> omega

theorem rdropWhile_dot_map_toLower (characters : List Char) :
    (characters.map Char.toLower).rdropWhile (· == '.') =
      (characters.rdropWhile (· == '.')).map Char.toLower := by
  have same : ((· == '.') ∘ Char.toLower : Char → Bool) = (· == '.') :=
    funext toLower_eq_dot_iff
  rw [List.rdropWhile, List.rdropWhile, ← List.map_reverse, List.dropWhile_map, same,
    List.map_reverse]

theorem normalizeOwner_eq_normalizeName (name : String) :
    normalizeOwner name = normalizeName name := by
  apply String.toList_inj.mp
  simp only [normalizeOwner, normalizeName, trimTrailingDots, toList_downcase,
    String.toList_ofList, rdropWhile_dot_map_toLower]

theorem trimTrailingDots_idempotent (name : String) :
    trimTrailingDots (trimTrailingDots name) = trimTrailingDots name := by
  apply String.toList_inj.mp
  simp only [trimTrailingDots, String.toList_ofList]
  exact List.rdropWhile_idempotent _ _

theorem normalizeName_normalizeName (name : String) :
    normalizeName (normalizeName name) = normalizeName name := by
  calc normalizeName (normalizeName name)
      = downcase (trimTrailingDots (trimTrailingDots (downcase name))) :=
        (normalizeOwner_eq_normalizeName _).symm
    _ = downcase (normalizeName name) := by
        rw [trimTrailingDots_idempotent, normalizeName]
    _ = normalizeName name := by
        rw [← normalizeOwner_eq_normalizeName, normalizeOwner, downcase_downcase]

example : normalizeName "Www.Example.COM." = "www.example.com" := by decide

example : splitLabels "www..example.com" = ["www", "example", "com"] := by decide

end Elektrine.DNS

/-!
## Zones and their records

The rows of a managed zone, and the records that go into a response: a row of the
zone or one of the records that the source builds as plain maps.
-/

namespace Elektrine.DNS

/-- `Elektrine.DNS.Record`: a row of `dns_records`. -/
structure Record where
  id : Nat := 0
  name : String
  type : String
  ttl : Option Int := some 300
  content : String
  source : String := "user"
  service : Option String := none
  managed : Bool := false
  managedKey : Option String := none
  required : Bool := false
  metadata : Json := .obj []
  priority : Option Int := none
  weight : Option Int := none
  port : Option Int := none
  flags : Option Int := none
  tag : Option String := none
  protocol : Option Int := none
  algorithm : Option Int := none
  keyTag : Option Int := none
  digestType : Option Int := none
  usage : Option Int := none
  selector : Option Int := none
  matchingType : Option Int := none

namespace Record

/-- `Record.private?`. -/
def isPrivate (record : Record) : Bool :=
  (record.metadata.get "visibility").asString? == some "private" ||
    (record.metadata.get "private").isTrue

def proxied (record : Record) : Bool :=
  (record.metadata.getIn ["proxy", "enabled"]).isTrue

end Record

structure Zone where
  id : Nat := 0
  userId : Option Nat := none
  domain : String
  serial : Option Int := some 1
  defaultTtl : Option Int := some 300
  soaMname : Option String := none
  soaRname : Option String := none
  soaRefresh : Option Int := some 3600
  soaRetry : Option Int := some 600
  soaExpire : Option Int := some 1209600
  soaMinimum : Option Int := some 300
  nameserverSet : Option Int := none
  records : List Record

/-- A record of a response.  `row` is a `Record` struct, with the `:host` that
`Map.put` gives it on its way into the response. -/
inductive Resource where
  | row (host : Option String) (record : Record)
  | nameserver (host value : String)
  | soa (host : String) (ttl : Int) (mname rname : String)
      (serial refresh retry expire minimum : Int)
  | address (host type content : String) (ttl : Int)
  | hinfo (host cpu os : String) (ttl : Int)

namespace Resource

def type : Resource → String
  | .row _ record => record.type
  | .nameserver .. => "NS"
  | .soa .. => "SOA"
  | .address _ type _ _ => type
  | .hinfo .. => "HINFO"

/-- `Map.get(record, :metadata) || %{}`. -/
def metadata : Resource → Json
  | .row _ record => record.metadata
  | _ => .obj []

/-- The target of a record, under `:content` or under `:value`. -/
def content? : Resource → Option String
  | .row _ record => some record.content
  | .nameserver _ value => some value
  | .address _ _ content _ => some content
  | .soa .. | .hinfo .. => none

def host? : Resource → Option String
  | .row host _ => host
  | .nameserver host _ | .soa host .. | .address host .. | .hinfo host .. => some host

/-- `record_name` of the encoder: the owner name that is sent. -/
def owner : Resource → String
  | .row host record => host.getD record.name
  | .nameserver host _ | .soa host .. | .address host .. | .hinfo host .. => host

/-- `Map.put(record, :host, host)`. -/
def putHost (host : String) : Resource → Resource
  | .row _ record => .row (some host) record
  | .nameserver _ value => .nameserver host value
  | .soa _ ttl mname rname serial refresh retry expire minimum =>
      .soa host ttl mname rname serial refresh retry expire minimum
  | .address _ type content ttl => .address host type content ttl
  | .hinfo _ cpu os ttl => .hinfo host cpu os ttl

/-- `Record.proxied?`, false of everything that is not a row. -/
def proxied : Resource → Bool
  | .row _ record => record.proxied
  | _ => false

/-- `Record.private?`, false of everything that is not a row. -/
def isPrivate : Resource → Bool
  | .row _ record => record.isPrivate
  | _ => false

@[simp] theorem host?_putHost (host : String) (resource : Resource) :
    (resource.putHost host).host? = some host := by
  cases resource <;> rfl

@[simp] theorem type_putHost (host : String) (resource : Resource) :
    (resource.putHost host).type = resource.type := by
  cases resource <;> rfl

@[simp] theorem metadata_putHost (host : String) (resource : Resource) :
    (resource.putHost host).metadata = resource.metadata := by
  cases resource <;> rfl

@[simp] theorem content?_putHost (host : String) (resource : Resource) :
    (resource.putHost host).content? = resource.content? := by
  cases resource <;> rfl

theorem owner_of_host? {host : String} {resource : Resource}
    (owner : resource.host? = some host) : resource.owner = host := by
  cases resource <;> simp_all [host?, Resource.owner]

theorem putHost_of_host? {host : String} {resource : Resource}
    (owner : resource.host? = some host) : resource.putHost host = resource := by
  cases resource <;> cases owner <;> rfl

end Resource

inductive QType where
  | a | aaaa | alias | caa | cname | dnskey | ds | hinfo | https | mx | ns | soa
  | srv | sshfp | svcb | tlsa | txt | any
  | number (value : Nat)
  deriving DecidableEq, Repr

/-- What a response depends on besides the zones and the query: the application
settings, the resolvers, and the state of the health monitor. -/
structure Environment where
  nameservers : List String := []
  nameserverSets : List (List String) := []
  deterministicNameserverSet : Nat → Option Nat → String → Nat → Nat :=
    fun _ _ _ _ => 0
  builtinUserZone : Option Nat → String → Bool := fun _ _ => false
  edgeProxyIpv4Addresses : List String := []
  edgeProxyIpv6Addresses : List String := []
  soaRname : String := ""
  defaultTtl : Int := 300
  /-- `lookup_dns_values`, for the addresses of the own nameservers. -/
  lookupDnsValues : String → QType → List String := fun _ _ => []
  /-- `alias_resolver().lookup`, its values as texts; none when it fails. -/
  aliasLookup : String → QType → List String := fun _ _ => []
  publicHostname : String → Bool := fun _ => false
  healthy : String → Int → Bool := fun _ _ => true
  allowRecursive : Option (List Nat) → Bool := fun _ => false
  recursiveEnabled : Bool := false

namespace Zone

variable (environment : Environment) (zone : Zone)

def zoneNameserverSet (setCount : Nat) : Nat :=
  match zone.nameserverSet with
  | some set =>
      if 0 ≤ set then set.toNat % setCount else deterministic
  | none => deterministic
where
  deterministic : Nat :=
    environment.deterministicNameserverSet zone.id zone.userId
      (normalizeHostname zone.domain) setCount

def assignedNameservers : List String :=
  match environment.nameserverSets with
  | [] => environment.nameservers
  | sets => (sets[zone.zoneNameserverSet environment sets.length]?).getD []

def nameserverRecords : List Resource :=
  (zone.assignedNameservers environment).map fun nameserver =>
    .nameserver zone.domain nameserver

def zoneOnboardingRecords : List Resource :=
  if environment.builtinUserZone zone.userId zone.domain then []
  else zone.nameserverRecords environment

def soaRecord : Resource :=
  .soa zone.domain (zone.defaultTtl.getD 300)
    ((zone.soaMname.or environment.nameservers.head?).getD "ns1.elektrine.com")
    (zone.soaRname.getD environment.soaRname)
    (zone.serial.getD 1)
    (zone.soaRefresh.getD 3600)
    (zone.soaRetry.getD 600)
    (zone.soaExpire.getD 1209600)
    ((zone.soaMinimum.or zone.defaultTtl).getD 300)

end Zone

end Elektrine.DNS
