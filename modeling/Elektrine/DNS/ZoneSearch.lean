import Elektrine.DNS.AnswerOwners

/-!
# The search of a zone, and what the lookup makes of it

The zone algorithm in its own terms: a name that is there, or has a name below it,
answers for itself; for any other name the wildcard right below the closest ancestor
that is there answers as if it were the name.  Addresses under failover count as the
addresses of their name, and so do the addresses that an ALIAS stands for.
-/

namespace Elektrine.DNS.ZoneSearch

open Query

section Search

variable (environment : Environment) (options : Options) (zone : Zone)

def present (name : String) : Bool :=
  name == normalizeName zone.domain ||
    (allZoneRecords environment zone).any (atOrBelow zone name)

def textsAfterDots : List Char → List (List Char)
  | [] => []
  | character :: rest =>
      if character = '.' then rest :: textsAfterDots rest else textsAfterDots rest

def ancestors (name : String) : List String :=
  (textsAfterDots name.toList).map String.ofList

def closestWildcard (name : String) : Option String :=
  ((ancestors name).find? (present environment zone)).map ("*." ++ ·)

def typedAt (name : String) (qtype : QType) : List Resource :=
  ((allZoneRecords environment zone).filter fun record =>
    recordName zone record == name &&
      (typeMatches qtype record && recordType record != some .alias)).map
        (withRecordHost zone)

def recordsAt (name : String) (qtype : QType) : List Resource :=
  if qtype = .soa ∧ name = normalizeName zone.domain then [zone.soaRecord environment]
  else
    match typedAt environment zone name qtype with
    | [] =>
        (aliasRecordsForQuery environment options zone name qtype).map
          (Resource.putHost name)
    | records => records

def cnamesAt (name : String) : List Resource :=
  ((allZoneRecords environment zone).filter fun record =>
    recordName zone record == name && recordType record == some .cname).map
      (withRecordHost zone)

def serve (name : String) (qtype : QType) : List Resource :=
  match applyHealthFailover environment
      (recordsAt environment options zone name qtype) with
  | [] => cnamesAt environment zone name
  | records => records

def search (query : Query) : Rcode × List Resource :=
  let name := normalizeName query.qname
  if present environment zone name then
    (.noerror, serve environment options zone name query.qtype)
  else
    match closestWildcard environment zone name with
    | none => (.nxdomain, [])
    | some wildcard =>
        if present environment zone wildcard then
          (.noerror,
            (serve environment options zone wildcard query.qtype).map
              (Resource.putHost name))
        else (.nxdomain, [])

/-- The response has the code and the answer set of the search. -/
def Follows (query : Query) : Prop :=
  (zoneResponse environment options zone query).rcode =
      (search environment options zone query).1 ∧
    ∀ answer, answer ∈ (zoneResponse environment options zone query).answer ↔
      answer ∈ (search environment options zone query).2

/-- Where the lookup and the search meet: the SOA of the zone, a name that is there
and takes no address from another name of the zone, and a name that is not there and
that no wildcard is around for. -/
inductive Meets (query : Query) : Prop where
  | apexSoa : query.qtype = .soa →
      normalizeName query.qname = normalizeName zone.domain → Meets query
  | named : query.qtype ≠ .any →
      nameExists environment options zone (normalizeName query.qname) →
      ¬AliasAnswersFromTarget environment options zone (normalizeName query.qname)
        query.qtype → Meets query
  | absent : query.qtype ≠ .any →
      present environment zone (normalizeName query.qname) = false →
      (∀ name ∈ wildcardCandidates (normalizeName query.qname) zone.domain,
        ¬Publishes environment options zone name (typeMatches query.qtype)) →
      (∀ wildcard,
        closestWildcard environment zone (normalizeName query.qname) = some wildcard →
        present environment zone wildcard = false) → Meets query

end Search

variable {environment : Environment} {options : Options} {zone : Zone}
  {name : String} {qtype : QType} {answer : Resource}

@[simp] theorem healthCheckEnrolled_putHost (host : String) :
    healthCheckEnrolled (answer.putHost host) = healthCheckEnrolled answer := by
  simp [healthCheckEnrolled]

@[simp] theorem targetHealthy_putHost (host : String) :
    targetHealthy environment (answer.putHost host) =
      targetHealthy environment answer := by
  simp [targetHealthy]

theorem applyHealthFailover_map_putHost (host : String) (records : List Resource) :
    applyHealthFailover environment (records.map (Resource.putHost host)) =
      (applyHealthFailover environment records).map (Resource.putHost host) := by
  have enrolled : healthCheckEnrolled ∘ Resource.putHost host = healthCheckEnrolled :=
    funext fun _ => healthCheckEnrolled_putHost host
  have healthy : targetHealthy environment ∘ Resource.putHost host =
      targetHealthy environment := funext fun _ => targetHealthy_putHost host
  have free : (fun record => !healthCheckEnrolled record) ∘ Resource.putHost host =
      fun record => !healthCheckEnrolled record :=
    funext fun _ => congrArg not (healthCheckEnrolled_putHost host)
  simp only [applyHealthFailover, List.filter_map, enrolled, healthy, free,
    List.isEmpty_map]
  split_ifs <;> simp

theorem notEnrolled_of_cname (isCname : recordType answer = some .cname) :
    healthCheckEnrolled answer = false := by
  have name : downcase answer.type = "cname" := by
    obtain ⟨before, after, split, _⟩ := List.lookup_eq_some_iff.mp isCname
    have listed : (downcase answer.type, QType.cname) ∈ typeNames := by
      rw [split]
      exact List.mem_append_right _ List.mem_cons_self
    simpa [typeNames] using listed
  have upper : upcase answer.type = "CNAME" := by
    rw [← upcase_downcase, name]
    decide
  rw [healthCheckEnrolled, upper]
  rfl

theorem type_of_cnameRecords
    (member : answer ∈ cnameRecordsForName environment options zone name) :
    recordType answer = some .cname := by
  obtain ⟨record, chosen, rfl⟩ := List.mem_map.mp member
  have typed := (List.mem_filter.mp (List.mem_filter.mp chosen).1).2
  simp only [Bool.and_eq_true, beq_iff_eq] at typed
  rw [recordType, withRecordHost, Resource.type_putHost]
  exact typed.2

section Unhidden

variable (noPrivate : ∀ record ∈ zone.records, record.isPrivate = false)
  (noProxied : ∀ record ∈ zone.records, record.proxied = false)

theorem forall_allZoneRecords {holds : Resource → Prop}
    (onboarding : ∀ nameserver, holds (.nameserver zone.domain nameserver))
    (rows : ∀ record ∈ zone.records, holds (.row none record)) :
    ∀ record ∈ allZoneRecords environment zone, holds record := by
  intro record member
  rcases List.mem_append.mp member with first | second
  · unfold Zone.zoneOnboardingRecords at first
    split at first
    · cases first
    · obtain ⟨nameserver, _, rfl⟩ := List.mem_map.mp first
      exact onboarding nameserver
  · obtain ⟨row, stored, rfl⟩ := List.mem_map.mp second
    exact rows row stored

include noPrivate in
theorem zoneRecords_eq : zoneRecords environment options zone =
    allZoneRecords environment zone := by
  apply List.filter_eq_self.mpr
  have visible : ∀ record ∈ allZoneRecords environment zone, record.isPrivate = false :=
    forall_allZoneRecords (fun _ => rfl) noPrivate
  intro record member
  rw [visible record member]
  rfl

include noPrivate in
theorem privateNameExists_eq : privateNameExists environment options zone name = false := by
  have visible : ∀ record ∈ allZoneRecords environment zone, record.isPrivate = false :=
    forall_allZoneRecords (fun _ => rfl) noPrivate
  apply Bool.eq_false_iff.mpr
  intro found
  obtain ⟨record, member, hidden⟩ :=
    List.any_eq_true.mp (Bool.and_eq_true_iff.mp found).2
  rw [visible record member] at hidden
  cases hidden

include noPrivate in
theorem present_of_nameExists (normal : normalizeName name = name)
    (known : nameExists environment options zone name = true) :
    present environment zone name = true := by
  rw [nameExists, zoneRecords_eq noPrivate, normal] at known
  rw [present, known, Bool.or_true]

include noProxied in
theorem not_proxied {record : Resource}
    (member : record ∈ allZoneRecords environment zone) : record.proxied = false := by
  have direct : ∀ record ∈ allZoneRecords environment zone, record.proxied = false :=
    forall_allZoneRecords (fun _ => rfl) noProxied
  exact direct record member

include noPrivate noProxied

theorem publishedRecords_eq {select : Resource → Bool} :
    publishedRecords environment options zone name select =
      ((allZoneRecords environment zone).filter fun record =>
        recordName zone record == name && select record).map (withRecordHost zone) := by
  rw [publishedRecords, zoneRecords_eq noPrivate, List.map_eq_flatMap]
  apply List.flatMap_congr
  intro record chosen
  have direct := not_proxied noProxied (List.mem_filter.mp chosen).1
  rw [withPublicRecordContent, if_neg (by simp [direct])]

theorem typedRecords_eq :
    typedRecords environment options zone name qtype =
      typedAt environment zone name qtype :=
  publishedRecords_eq noPrivate noProxied

theorem proxiedEdgeRecords_eq :
    proxiedEdgeRecordsForQuery environment options zone name qtype = [] := by
  unfold proxiedEdgeRecordsForQuery
  split
  · rw [List.flatMap_eq_nil_iff]
    intro record chosen
    obtain ⟨visible, edge⟩ := List.mem_filter.mp chosen
    rw [zoneRecords_eq noPrivate] at visible
    simp [not_proxied noProxied visible] at edge
  · rfl

theorem cnameRecords_eq :
    cnameRecordsForName environment options zone name = cnamesAt environment zone name := by
  unfold cnameRecordsForName cnamesAt
  rw [zoneRecords_eq noPrivate, List.filter_eq_self.mpr]
  intro record chosen
  rw [not_proxied noProxied (List.mem_filter.mp chosen).1]
  rfl

omit noPrivate noProxied in
theorem serve_apexSoa (isSoa : qtype = .soa) (isApex : name = normalizeName zone.domain) :
    serve environment options zone name qtype =
      applyHealthFailover environment [zone.soaRecord environment] := by
  rw [serve, recordsAt, if_pos ⟨isSoa, isApex⟩]
  split
  · rename_i empty
    cases applyHealthFailover_eq_nil_iff.mp empty
  · rfl

omit noPrivate noProxied in
theorem serve_of_recordsAt {records : List Resource}
    (found : recordsAt environment options zone name qtype = records)
    (nonempty : records ≠ []) :
    serve environment options zone name qtype =
      applyHealthFailover environment records := by
  rw [serve, found]
  split
  · rename_i empty
    exact absurd (applyHealthFailover_eq_nil_iff.mp empty) nonempty
  · rfl

omit noPrivate noProxied in
theorem serve_of_recordsAt_nil
    (none : recordsAt environment options zone name qtype = []) :
    serve environment options zone name qtype = cnamesAt environment zone name := by
  rw [serve, none]
  rfl

omit noPrivate noProxied in
theorem recordsAt_of_untyped
    (notApexSoa : ¬(qtype = .soa ∧ name = normalizeName zone.domain))
    (untyped : typedAt environment zone name qtype = []) :
    recordsAt environment options zone name qtype =
      (aliasRecordsForQuery environment options zone name qtype).map
        (Resource.putHost name) := by
  rw [recordsAt, if_neg notApexSoa, untyped]

theorem mem_serve_iff {answers : List Resource}
    (found : FoundBy environment options zone name qtype answers)
    (notApexSoa : ¬(qtype = .soa ∧ name = normalizeName zone.domain))
    (known : nameExists environment options zone name = true) :
    answer ∈ serve environment options zone name qtype ↔
      answer ∈ (applyHealthFailover environment answers).map (Resource.putHost name) := by
  have untouched : ∀ {records : List Resource},
      (∀ record ∈ records, record.host? = some name) →
      (applyHealthFailover environment records).map (Resource.putHost name) =
        applyHealthFailover environment records := by
    intro records owned
    refine (List.map_congr_left fun record member => ?_).trans (List.map_id _)
    exact Resource.putHost_of_host? (owned record (mem_applyHealthFailover.mp member).1)
  have nothingExact : exactRecordsForQuery environment options zone name qtype = [] →
      recordsAt environment options zone name qtype = [] := by
    intro none
    unfold exactRecordsForQuery at none
    split at none
    · rename_i untyped
      rw [recordsAt_of_untyped notApexSoa
        ((typedRecords_eq noPrivate noProxied).symm.trans untyped), none, List.map_nil]
    · rename_i typed
      exact absurd none typed
  have sameCnames : cnameRecordsForName environment options zone name =
      cnamesAt environment zone name := cnameRecords_eq noPrivate noProxied
  cases found with
  | apexSoa isSoa isApex => exact absurd ⟨isSoa, isApex⟩ notApexSoa
  | typed _ typed =>
      have owned : ∀ record ∈ typedRecords environment options zone name qtype,
          record.host? = some name := fun _ => host?_of_publishedRecords
      rw [untouched owned, serve_of_recordsAt _ typed]
      rw [typedRecords_eq noPrivate noProxied] at typed ⊢
      rw [recordsAt, if_neg notApexSoa]
      split
      · rename_i untyped
        exact absurd untyped typed
      · rfl
  | aliased _ untyped aliased =>
      rw [typedRecords_eq noPrivate noProxied] at untyped
      rw [serve_of_recordsAt (recordsAt_of_untyped notApexSoa untyped)
        (by simpa using aliased), applyHealthFailover_map_putHost]
  | proxied _ _ proxied =>
      exact absurd (proxiedEdgeRecords_eq noPrivate noProxied) proxied
  | cname _ none _ =>
      rw [serve_of_recordsAt_nil (nothingExact none), ← sameCnames,
        untouched fun _ => host?_of_cnameRecords, mem_applyHealthFailover]
      refine ⟨fun member => ⟨member, fun enrolled => ?_⟩, And.left⟩
      rw [notEnrolled_of_cname (type_of_cnameRecords member)] at enrolled
      cases enrolled
  | nothing _ none noCname _ =>
      rw [serve_of_recordsAt_nil (nothingExact none), ← sameCnames, noCname]
      rfl
  | wildcard _ _ noName _ =>
      rw [noName] at known
      cases known

end Unhidden

theorem host?_of_serve
    (notApexSoa : ¬(qtype = .soa ∧ name = normalizeName zone.domain))
    (member : answer ∈ serve environment options zone name qtype) :
    answer.host? = some name := by
  have hosted : ∀ {select : Resource → Bool}, answer ∈
      ((allZoneRecords environment zone).filter fun record =>
        recordName zone record == name && select record).map (withRecordHost zone) →
      answer.host? = some name := by
    intro select listed
    obtain ⟨record, chosen, rfl⟩ := List.mem_map.mp listed
    have named := (List.mem_filter.mp chosen).2
    simp only [Bool.and_eq_true, beq_iff_eq] at named
    rw [withRecordHost, Resource.host?_putHost, named.1]
  unfold serve at member
  split at member
  · exact hosted member
  · have inRecords := (mem_applyHealthFailover.mp member).1
    rw [recordsAt, if_neg notApexSoa] at inRecords
    split at inRecords
    · obtain ⟨resource, _, rfl⟩ := List.mem_map.mp inRecords
      exact Resource.host?_putHost name resource
    · exact hosted inRecords

theorem search_of_present {query : Query}
    (there : present environment zone (normalizeName query.qname) = true) :
    search environment options zone query =
      (.noerror, serve environment options zone (normalizeName query.qname)
        query.qtype) := by
  simp only [search, there, if_true]

theorem search_of_absent {query : Query}
    (absent : present environment zone (normalizeName query.qname) = false) :
    (∀ answer ∈ (search environment options zone query).2,
        answer.host? = some (normalizeName query.qname)) ∧
      ((∀ wildcard,
          closestWildcard environment zone (normalizeName query.qname) = some wildcard →
          present environment zone wildcard = false) →
        search environment options zone query = (.nxdomain, [])) ∧
      ((∃ wildcard,
          closestWildcard environment zone (normalizeName query.qname) = some wildcard ∧
          present environment zone wildcard = true) →
        (search environment options zone query).1 = .noerror) := by
  unfold search
  dsimp only
  rw [absent, if_neg Bool.false_ne_true]
  cases closestWildcard environment zone (normalizeName query.qname) with
  | none => simp
  | some wildcard =>
      dsimp only
      split_ifs with there
      · refine ⟨?_, ?_, fun _ => rfl⟩
        · intro answer member
          obtain ⟨resource, _, rfl⟩ := List.mem_map.mp member
          exact Resource.host?_putHost _ resource
        · intro gone
          rw [gone wildcard rfl] at there
          cases there
      · refine ⟨by simp, fun _ => rfl, ?_⟩
        intro found
        obtain ⟨other, same, there'⟩ := found
        cases same
        exact absurd there' there

def isHinfo : Resource → Bool
  | .hinfo .. => true
  | _ => false

@[simp] theorem isHinfo_putHost (host : String) :
    isHinfo (answer.putHost host) = isHinfo answer := by
  cases answer <;> rfl

theorem not_hinfo_of_serve (member : answer ∈ serve environment options zone name .any) :
    isHinfo answer = false := by
  have stored : ∀ {select : Resource → Bool}, answer ∈
      ((allZoneRecords environment zone).filter select).map (withRecordHost zone) →
      isHinfo answer = false := by
    intro select listed
    obtain ⟨record, chosen, rfl⟩ := List.mem_map.mp listed
    have ordinary : ∀ record ∈ allZoneRecords environment zone,
        isHinfo record = false := forall_allZoneRecords (fun _ => rfl) fun _ _ => rfl
    rw [withRecordHost, isHinfo_putHost, ordinary record (List.mem_filter.mp chosen).1]
  unfold serve at member
  split at member
  · exact stored member
  · have inRecords := (mem_applyHealthFailover.mp member).1
    rw [recordsAt, if_neg (by simp)] at inRecords
    split at inRecords
    · simp [aliasRecordsForQuery] at inRecords
    · exact stored inRecords

theorem not_follows_any {query : Query} (any : query.qtype = .any) :
    ¬Follows environment options zone query := by
  intro follows
  have synthetic := (follows.2 (.hinfo query.qname "RFC8482" "" 3789)).mp (by
    rw [zoneResponse, if_pos any]
    exact List.mem_singleton.mpr rfl)
  unfold search at synthetic
  dsimp only at synthetic
  rw [any] at synthetic
  split at synthetic
  · cases not_hinfo_of_serve synthetic
  · split at synthetic
    · cases synthetic
    · split at synthetic
      · obtain ⟨resource, member, same⟩ := List.mem_map.mp synthetic
        have kind := congrArg isHinfo same
        rw [isHinfo_putHost, not_hinfo_of_serve member] at kind
        cases kind
      · cases synthetic

theorem rcode_zoneResponse {query : Query} (notAny : query.qtype ≠ .any) :
    (zoneResponse environment options zone query).rcode =
      if recordsForQuery environment options zone query.qname query.qtype = [] ∧
          nameExists environment options zone (normalizeName query.qname) = false
      then .nxdomain else .noerror := by
  have normal : nameExists environment options zone query.qname =
      nameExists environment options zone (normalizeName query.qname) := by
    rw [nameExists, nameExists, normalizeName_normalizeName]
  rw [zoneResponse, if_neg notAny]
  unfold answerForZone
  dsimp only
  split
  · rename_i empty
    rw [normal, empty]
    cases nameExists environment options zone (normalizeName query.qname) <;> rfl
  · rename_i nonempty
    rw [if_neg fun both => nonempty both.1]

section Meeting

variable (noPrivate : ∀ record ∈ zone.records, record.isPrivate = false)
  (noProxied : ∀ record ∈ zone.records, record.proxied = false)
include noPrivate

include noProxied in
theorem follows_of_named {query : Query} (notAny : query.qtype ≠ .any)
    (notApexSoa : ¬(query.qtype = .soa ∧
      normalizeName query.qname = normalizeName zone.domain))
    (known : nameExists environment options zone (normalizeName query.qname) = true) :
    Follows environment options zone query ↔
      ¬AliasAnswersFromTarget environment options zone (normalizeName query.qname)
        query.qtype := by
  have found := foundBy_doRecordsForQuery environment options zone query.qname
    query.qtype
  have there : present environment zone (normalizeName query.qname) = true := by
    exact present_of_nameExists noPrivate (normalizeName_normalizeName _) known
  rw [Follows, search_of_present there, answer_zoneResponse notAny, rcode_zoneResponse notAny, known,
    if_neg (by simp), recordsForQuery]
  generalize doRecordsForQuery environment options zone query.qname query.qtype =
    answers at found ⊢
  simp only [true_and, mem_serve_iff noPrivate noProxied found notApexSoa known]
  constructor
  · intro same aliased
    have all := eq_aliasRecords found aliased
    subst all
    obtain ⟨answer, localAlias, kept⟩ := aliased.served
    have renamed := (same answer).mp (mem_applyHealthFailover.mpr ⟨localAlias.mem, kept⟩)
    obtain ⟨resource, _, rfl⟩ := List.mem_map.mp renamed
    obtain ⟨target, host, _, other⟩ := localAlias.host
    rw [Resource.host?_putHost] at host
    exact other (Option.some.inj host).symm
  · intro noAlias
    have noWildcard : ¬WildcardAnswers environment options zone
        (normalizeName query.qname) query.qtype := by
      intro wildcard
      rw [wildcard.noName] at known
      cases known
    have owned : ∀ answer ∈ applyHealthFailover environment answers,
        answer.host? = some (normalizeName query.qname) := by
      intro answer member
      obtain ⟨inAnswers, kept⟩ := mem_applyHealthFailover.mp member
      rcases host?_of_foundBy found inAnswers noWildcard with soa | host | elsewhere
      · exact absurd soa.2 notApexSoa
      · exact host
      · obtain ⟨untyped, all, localAlias⟩ := elsewhere
        refine absurd ⟨?_, answer, localAlias, ?_⟩ noAlias
        · intro published
          exact publishedRecords_ne_nil_iff.mpr published untyped
        · rw [← all]
          exact kept
    intro answer
    rw [List.map_congr_left fun record member =>
      Resource.putHost_of_host? (owned record member), List.map_id']

theorem records_of_unnamed {query : Query}
    (notApexSoa : ¬(query.qtype = .soa ∧
      normalizeName query.qname = normalizeName zone.domain))
    (noName : nameExists environment options zone (normalizeName query.qname) = false) :
    (recordsForQuery environment options zone query.qname query.qtype = [] ↔
      ∀ name ∈ wildcardCandidates (normalizeName query.qname) zone.domain,
        ¬Publishes environment options zone name (typeMatches query.qtype)) ∧
      ∀ answer ∈ recordsForQuery environment options zone query.qname query.qtype,
        answer.host? ≠ some (normalizeName query.qname) := by
  have normal := normalizeName_normalizeName query.qname
  have all := eq_wildcardRecords normal
    (foundBy_doRecordsForQuery environment options zone query.qname query.qtype)
    notApexSoa noName (privateNameExists_eq noPrivate)
  rw [recordsForQuery, all]
  constructor
  · rw [applyHealthFailover_eq_nil_iff, wildcardRecords_eq_nil_iff]
    simp only [← publishedRecords_ne_nil_iff, not_not]
  · intro answer member host
    obtain ⟨name, _, published⟩ :=
      mem_wildcardRecords (mem_applyHealthFailover.mp member).1
    obtain ⟨record, visible, named, _, content⟩ := mem_publishedRecords.mp published
    rw [(published_of_mem content).1] at host
    have known := nameExists_of_visible visible (Option.some.inj host) normal
    rw [noName] at known
    cases known

theorem follows_of_unnamed {query : Query} (notAny : query.qtype ≠ .any)
    (notApexSoa : ¬(query.qtype = .soa ∧
      normalizeName query.qname = normalizeName zone.domain))
    (noName : nameExists environment options zone (normalizeName query.qname) = false) :
    Follows environment options zone query ↔
      present environment zone (normalizeName query.qname) = false ∧
      (∀ name ∈ wildcardCandidates (normalizeName query.qname) zone.domain,
        ¬Publishes environment options zone name (typeMatches query.qtype)) ∧
      ∀ wildcard,
        closestWildcard environment zone (normalizeName query.qname) = some wildcard →
        present environment zone wildcard = false := by
  have unnamed := records_of_unnamed noPrivate notApexSoa noName
  obtain ⟨empty, foreign⟩ := unnamed
  rw [Follows, answer_zoneResponse notAny, rcode_zoneResponse notAny, noName, ← empty]
  constructor
  · intro follows
    obtain ⟨code, answers⟩ := follows
    have owned : ∀ answer ∈ (search environment options zone query).2,
        answer.host? = some (normalizeName query.qname) := by
      cases there : present environment zone (normalizeName query.qname) with
      | true =>
          rw [search_of_present there]
          intro answer member
          exact host?_of_serve notApexSoa member
      | false => exact (search_of_absent there).1
    have none : recordsForQuery environment options zone query.qname query.qtype = [] := by
      apply List.eq_nil_iff_forall_not_mem.mpr
      intro answer member
      exact foreign answer member (owned answer ((answers answer).mp member))
    rw [if_pos ⟨none, rfl⟩] at code
    cases there : present environment zone (normalizeName query.qname) with
    | true =>
        rw [search_of_present there] at code
        cases code
    | false =>
        refine ⟨rfl, none, ?_⟩
        intro wildcard closest
        by_contra thereToo
        rw [(search_of_absent there).2.2
          ⟨wildcard, closest, (Bool.not_eq_false _).mp thereToo⟩] at code
        cases code
  · intro meets
    obtain ⟨absent, none, gone⟩ := meets
    rw [((search_of_absent absent).2.1 gone), none, if_pos ⟨rfl, rfl⟩]
    simp

include noProxied in
/-- The lookup of a zone without private and proxied records gives the code and the
answers of the search exactly where the two meet. -/
theorem follows_iff (query : Query) :
    Follows environment options zone query ↔ Meets environment options zone query := by
  by_cases any : query.qtype = .any
  · constructor
    · intro follows
      exact absurd follows (not_follows_any any)
    · intro meets
      cases meets with
      | apexSoa isSoa _ => cases any.symm.trans isSoa
      | named notAny _ _ => exact absurd any notAny
      | absent notAny _ _ _ => exact absurd any notAny
  by_cases apexSoa : query.qtype = .soa ∧
      normalizeName query.qname = normalizeName zone.domain
  · have soa : doRecordsForQuery environment options zone query.qname query.qtype =
        [zone.soaRecord environment] := by
      rw [doRecordsForQuery]
      exact if_pos apexSoa
    have there : present environment zone (normalizeName query.qname) = true := by
      rw [present, apexSoa.2, beq_self_eq_true, Bool.true_or]
    refine ⟨fun _ => .apexSoa apexSoa.1 apexSoa.2, fun _ => ?_⟩
    have answered : applyHealthFailover environment [zone.soaRecord environment] ≠ [] := by
      rw [Ne, applyHealthFailover_eq_nil_iff]
      exact List.cons_ne_nil _ _
    rw [Follows, search_of_present there, answer_zoneResponse any,
      rcode_zoneResponse any, serve_apexSoa apexSoa.1 apexSoa.2, recordsForQuery, soa,
      if_neg fun both => answered both.1]
    simp
  cases known : nameExists environment options zone (normalizeName query.qname) with
  | true =>
      rw [follows_of_named noPrivate noProxied any apexSoa known]
      constructor
      · exact .named any known
      · intro meets
        cases meets with
        | apexSoa isSoa isApex => exact absurd ⟨isSoa, isApex⟩ apexSoa
        | named _ _ noAlias => exact noAlias
        | absent _ gone _ _ =>
            have there : present environment zone (normalizeName query.qname) = true :=
              present_of_nameExists noPrivate (normalizeName_normalizeName _) known
            rw [there] at gone
            cases gone
  | false =>
      rw [follows_of_unnamed noPrivate any apexSoa known]
      constructor
      · intro meets
        obtain ⟨gone, unpublished, noWildcard⟩ := meets
        exact .absent any gone unpublished noWildcard
      · intro meets
        cases meets with
        | apexSoa isSoa isApex => exact absurd ⟨isSoa, isApex⟩ apexSoa
        | named _ known' _ =>
            rw [known] at known'
            cases known'
        | absent _ gone unpublished noWildcard => exact ⟨gone, unpublished, noWildcard⟩

end Meeting

theorem follows_iff_wildcardZone :
    Follows {} {} (wildcardZone "A" "192.0.2.7") { qname := "b.a.io", qtype := .a } ↔
      Meets {} {} (wildcardZone "A" "192.0.2.7") { qname := "b.a.io", qtype := .a } :=
  follows_iff
    (by simp [wildcardZone, Record.isPrivate, Json.get, Json.asString?, Json.isTrue])
    (by simp [wildcardZone, Record.proxied, Json.getIn, Json.get, Json.isTrue]) _

/-- A name covered by a wildcard CNAME does not exist for the lookup. -/
theorem covered_name_is_nxdomain :
    ¬Follows {} {} (wildcardZone "CNAME" "c.io") { qname := "b.a.io", qtype := .a } := by
  intro follows
  have code : (zoneResponse {} {} (wildcardZone "CNAME" "c.io")
      { qname := "b.a.io", qtype := .a }).rcode = .nxdomain := by decide
  have searched : (search {} {} (wildcardZone "CNAME" "c.io")
      { qname := "b.a.io", qtype := .a }).1 = .noerror := by decide
  have same := follows.1
  rw [code, searched] at same
  cases same

end Elektrine.DNS.ZoneSearch
