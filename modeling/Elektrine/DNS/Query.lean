import Elektrine.DNS.Zone

/-!
# Answering a query from the zones

The lookup of `Elektrine.DNS.Query`.  A response is modelled by the sections and the
response code that are handed to the packet encoder.
-/

namespace Elektrine.DNS

structure Query where
  qname : String
  qtype : QType
  /-- `query_recursion_desired?`. -/
  recursionDesired : Bool := false

structure Options where
  clientIp : Option (List Nat) := none

inductive Rcode where
  | noerror | formerr | servfail | nxdomain | notimp | refused
  deriving DecidableEq, Repr

structure Response where
  answer : List Resource
  authority : List Resource := []
  additional : List Resource := []
  rcode : Rcode
  authoritative : Bool := true

namespace Query

def typeNames : List (String × QType) :=
  [("a", .a), ("aaaa", .aaaa), ("alias", .alias), ("caa", .caa), ("cname", .cname),
    ("dnskey", .dnskey), ("ds", .ds), ("https", .https), ("mx", .mx), ("ns", .ns),
    ("soa", .soa), ("srv", .srv), ("sshfp", .sshfp), ("svcb", .svcb),
    ("tlsa", .tlsa), ("txt", .txt), ("any", .any)]

/-- `normalize_type`; a text that is no type name equals no query type. -/
def normalizeType (type : String) : Option QType :=
  typeNames.lookup (downcase type)

def recordType (record : Resource) : Option QType :=
  normalizeType record.type

def healthCheckPort (metadata : Json) : Int :=
  let valid (port : Int) : Int := if 1 ≤ port ∧ port ≤ 65535 then port else 443
  match metadata.getIn ["health_check", "port"] with
  | .int port => valid port
  | .str text => ((integerParseExact text).map valid).getD 443
  | _ => 443

def healthCheckEnrolled (record : Resource) : Bool :=
  (upcase record.type == "A" || upcase record.type == "AAAA") &&
    match record.metadata.getIn ["health_check", "enabled"] with
    | .bool enabled => enabled
    | .str text => text == "true"
    | _ => false

section Lookup

variable (environment : Environment) (options : Options) (zone : Zone)

def targetHealthy (record : Resource) : Bool :=
  environment.healthy (record.content?.getD "") (healthCheckPort record.metadata)

def applyHealthFailover (records : List Resource) : List Resource :=
  let enrolled := records.filter healthCheckEnrolled
  let rest := records.filter fun record => !healthCheckEnrolled record
  if enrolled.isEmpty then records
  else
    let up := enrolled.filter (targetHealthy environment)
    if up.isEmpty then records else up ++ rest

def recordName (record : Resource) : String :=
  match record with
  | .row none row =>
      let zoneDomain := normalizeName zone.domain
      let normalizedName := normalizeName row.name
      if normalizedName = "" ∨ normalizedName = "@" then zoneDomain
      else if normalizedName = zoneDomain then zoneDomain
      else if endsWith normalizedName ("." ++ zoneDomain) then normalizedName
      else normalizeName (normalizedName ++ "." ++ zone.domain)
  | .row (some host) _ | .nameserver host _ | .soa host .. | .address host ..
  | .hinfo host .. => normalizeName host

def withRecordHost (record : Resource) : Resource :=
  record.putHost (recordName zone record)

def privateQuery : Bool :=
  environment.allowRecursive options.clientIp

def allZoneRecords : List Resource :=
  zone.zoneOnboardingRecords environment ++ zone.records.map (.row none)

def zoneRecords : List Resource :=
  (allZoneRecords environment zone).filter fun record =>
    !(record.isPrivate && !privateQuery environment options)

def atOrBelow (fqdn : String) (record : Resource) : Bool :=
  recordName zone record == fqdn || endsWith (recordName zone record) ("." ++ fqdn)

def nameExists (qname : String) : Bool :=
  (zoneRecords environment options zone).any (atOrBelow zone (normalizeName qname))

def privateNameExists (qname : String) : Bool :=
  !privateQuery environment options &&
    (allZoneRecords environment zone).any fun record =>
      record.isPrivate && atOrBelow zone (normalizeName qname) record

def edgeRecordContents (record : Resource) (host type : String)
    (contents : List String) : List Resource :=
  match record with
  | .row _ row =>
      contents.map fun content =>
        .row (some host) { row with type := type, content := content }
  | _ => []

def proxiedEdgeRecords (record : Resource) (host : String) : QType → List Resource
  | .a => edgeRecordContents record host "A" environment.edgeProxyIpv4Addresses
  | .aaaa => edgeRecordContents record host "AAAA" environment.edgeProxyIpv6Addresses
  | .any =>
      edgeRecordContents record host "A" environment.edgeProxyIpv4Addresses ++
        edgeRecordContents record host "AAAA" environment.edgeProxyIpv6Addresses
  | _ => []

def proxiedDnsContents (type : String) : List String :=
  if type = "A" then environment.edgeProxyIpv4Addresses
  else if type = "AAAA" then environment.edgeProxyIpv6Addresses
  else []

def putContent (content : String) : Resource → Resource
  | .row host row => .row host { row with content := content }
  | other => other

def withPublicRecordContent (record : Resource) : List Resource :=
  if record.proxied then
    (proxiedDnsContents environment record.type).map fun content =>
      putContent content (withRecordHost zone record)
  else [withRecordHost zone record]

def typeMatches (qtype : QType) (record : Resource) : Bool :=
  qtype == .any || recordType record == some qtype

def publishedRecords (name : String) (select : Resource → Bool) : List Resource :=
  ((zoneRecords environment options zone).filter fun record =>
    recordName zone record == name && select record).flatMap
      (withPublicRecordContent environment zone)

def putTtl (ttl : Option Int) : Resource → Resource
  | .row host row => .row host { row with ttl := some ((ttl.or row.ttl).getD 300) }
  | other => other

def localAliasRecords (target : String) (qtype : QType) (ttl : Option Int) :
    List Resource :=
  (publishedRecords environment options zone target fun record =>
    recordType record == some qtype).map fun answer =>
      putTtl ttl (answer.putHost target)

def resolveAliasTarget (target : String) (qtype : QType) (ownerName : String)
    (ttl : Option Int) : List Resource :=
  if environment.publicHostname target then
    (environment.aliasLookup target qtype).eraseDups.map fun content =>
      .address ownerName (if qtype = .a then "A" else "AAAA") content (ttl.getD 300)
  else []

def flattenAliasRecord (fqdn : String) (qtype : QType) (record : Resource) :
    List Resource :=
  match record with
  | .row _ row =>
      if row.proxied then proxiedEdgeRecords environment record fqdn qtype
      else
        let target := normalizeName row.content
        if target = "" ∨ target = fqdn then []
        else
          match localAliasRecords environment options zone target qtype row.ttl with
          | [] => resolveAliasTarget environment target qtype fqdn row.ttl
          | records => records
  | _ => []

def aliasRecordsForQuery (fqdn : String) (qtype : QType) : List Resource :=
  if qtype = .a ∨ qtype = .aaaa then
    ((zoneRecords environment options zone).filter fun record =>
      recordName zone record == fqdn && recordType record == some .alias).flatMap
        (flattenAliasRecord environment options zone fqdn qtype)
  else []

def exactRecordsForQuery (fqdn : String) (qtype : QType) : List Resource :=
  match publishedRecords environment options zone fqdn fun record =>
      typeMatches qtype record && recordType record != some .alias with
  | [] => aliasRecordsForQuery environment options zone fqdn qtype
  | records => records

def cnameRecordsForName (fqdn : String) : List Resource :=
  (((zoneRecords environment options zone).filter fun record =>
    recordName zone record == fqdn && recordType record == some .cname).filter
      fun record => !record.proxied).map (withRecordHost zone)

def proxiedEdgeRecordsForQuery (fqdn : String) (qtype : QType) : List Resource :=
  if qtype = .a ∨ qtype = .aaaa ∨ qtype = .any then
    ((zoneRecords environment options zone).filter fun record =>
      recordName zone record == fqdn && record.proxied &&
        (recordType record == some .cname || recordType record == some .alias)).flatMap
          fun record => proxiedEdgeRecords environment record fqdn qtype
  else []

def wildcardCandidates (fqdn zoneDomain : String) : List String :=
  let qlabels := splitLabels fqdn
  let zlabels := splitLabels zoneDomain
  let hostLabels := qlabels.take (qlabels.length - zlabels.length)
  ((List.range' 1 (max hostLabels.length 1)).map fun depth =>
    joinLabels ("*" :: hostLabels.drop depth ++ zlabels)).eraseDups

def wildcardRecordsForQuery (fqdn : String) (qtype : QType) : List Resource :=
  ((wildcardCandidates fqdn zone.domain).findSome? fun wildcardName =>
    match publishedRecords environment options zone wildcardName
        (typeMatches qtype) with
    | [] => none
    | records => some records).getD []

def doRecordsForQuery (qname : String) (qtype : QType) : List Resource :=
  let fqdn := normalizeName qname
  if qtype = .soa ∧ fqdn = normalizeName zone.domain then
    [zone.soaRecord environment]
  else
    match exactRecordsForQuery environment options zone fqdn qtype with
    | [] =>
        match proxiedEdgeRecordsForQuery environment options zone fqdn qtype with
        | [] =>
            match cnameRecordsForName environment options zone fqdn with
            | [] =>
                if nameExists environment options zone fqdn then []
                else if privateNameExists environment options zone fqdn then []
                else wildcardRecordsForQuery environment options zone fqdn qtype
            | cnameRecords => cnameRecords
        | proxiedRecords => proxiedRecords
    | exactRecords => exactRecords

def recordsForQuery (qname : String) (qtype : QType) : List Resource :=
  applyHealthFailover environment
    (doRecordsForQuery environment options zone qname qtype)

def additionalTarget (answer : Resource) : Option String :=
  if answer.type = "MX" ∨ answer.type = "NS" ∨ answer.type = "CNAME" then
    answer.content?.map normalizeName
  else none

def additionalRecords (answers : List Resource) : List Resource :=
  let targets := (answers.filterMap additionalTarget).eraseDups
  ((zoneRecords environment options zone).filter fun record =>
    targets.contains (recordName zone record) &&
      (recordType record == some .a || recordType record == some .aaaa)).flatMap
        (withPublicRecordContent environment zone)

def answerForZone (query : Query) : Response :=
  let records := recordsForQuery environment options zone query.qname query.qtype
  match records with
  | [] =>
      { answer := []
        authority := [zone.soaRecord environment]
        rcode :=
          if nameExists environment options zone query.qname then .noerror
          else .nxdomain }
  | records =>
      { answer := records
        additional := additionalRecords environment options zone records
        rcode := .noerror }

def minimalAnyResponse (query : Query) : Response where
  answer := [.hinfo query.qname "RFC8482" "" 3789]
  rcode := .noerror

def zoneResponse (query : Query) : Response :=
  if query.qtype = .any then minimalAnyResponse query
  else answerForZone environment options zone query

end Lookup

section Routing

variable (environment : Environment) (options : Options)

abbrev ZoneCache := String → Option Zone

def candidateDomains (qname : String) : List String :=
  let labels := splitLabels qname
  (List.range labels.length).map fun index => joinLabels (labels.drop index)

def fetchZone (cache : ZoneCache) (qname : String) : Option Zone :=
  (candidateDomains (normalizeName qname)).findSome? fun domain =>
    cache (downcase domain)

def assignedNameserverBase (host : String) : Option String :=
  let inSet (names : List String) : Option String :=
    match names.findIdx? fun name => normalizeHostname name == host with
    | some index =>
        environment.nameservers[index % max environment.nameservers.length 1]?
    | none => none
  (environment.nameserverSets.findSome? inSet).or
    (environment.nameservers.find? fun nameserver =>
      host.toList.head? == some 'z' &&
        endsWith host ("." ++ normalizeHostname nameserver))

def nameserverAddressRecords (host nameserver : String) (lookupType : QType)
    (recordType : String) (qtype : QType) : List Resource :=
  if qtype = .any ∨ qtype = lookupType then
    (environment.lookupDnsValues nameserver lookupType).map fun address =>
      .address host recordType address environment.defaultTtl
  else []

def assignedNameserverAddressRecords (host : String) (qtype : QType) :
    List Resource :=
  let host := normalizeHostname host
  match assignedNameserverBase environment host with
  | none => []
  | some base =>
      nameserverAddressRecords environment host base .aaaa "AAAA" qtype ++
        nameserverAddressRecords environment host base .a "A" qtype

/-- `Query.resolve`, the recursive resolver apart, which no zone is asked by. -/
def routeQuery (recursive : Query → Options → Response) (cache : ZoneCache)
    (query : Query) : Response :=
  match assignedNameserverAddressRecords environment query.qname query.qtype with
  | [] =>
      match fetchZone cache query.qname with
      | some zone => zoneResponse environment options zone query
      | none =>
          if query.recursionDesired && environment.recursiveEnabled then
            recursive query options
          else { answer := [], rcode := .refused, authoritative := false }
  | records => { answer := records, rcode := .noerror }

end Routing

end Query

end Elektrine.DNS
