import Elektrine.DNS.Query

/-!
# What a lookup finds, and under which name

The six ways of finding records as the cases of one relation, and the owner name
that each of them gives its records: the name asked for, except that a wildcard
keeps its own name and an ALIAS that is followed inside the zone gives the name of
its target.
-/

namespace Elektrine.DNS.Query

section Lookup

variable (environment : Environment) (options : Options) (zone : Zone)

def typedRecords (fqdn : String) (qtype : QType) : List Resource :=
  publishedRecords environment options zone fqdn fun record =>
    typeMatches qtype record && recordType record != some .alias

inductive FoundBy (fqdn : String) (qtype : QType) : List Resource → Prop where
  | apexSoa : qtype = .soa → fqdn = normalizeName zone.domain →
      FoundBy fqdn qtype [zone.soaRecord environment]
  | typed : ¬(qtype = .soa ∧ fqdn = normalizeName zone.domain) →
      typedRecords environment options zone fqdn qtype ≠ [] →
      FoundBy fqdn qtype (typedRecords environment options zone fqdn qtype)
  | aliased : ¬(qtype = .soa ∧ fqdn = normalizeName zone.domain) →
      typedRecords environment options zone fqdn qtype = [] →
      aliasRecordsForQuery environment options zone fqdn qtype ≠ [] →
      FoundBy fqdn qtype (aliasRecordsForQuery environment options zone fqdn qtype)
  | proxied : ¬(qtype = .soa ∧ fqdn = normalizeName zone.domain) →
      exactRecordsForQuery environment options zone fqdn qtype = [] →
      proxiedEdgeRecordsForQuery environment options zone fqdn qtype ≠ [] →
      FoundBy fqdn qtype
        (proxiedEdgeRecordsForQuery environment options zone fqdn qtype)
  | cname : ¬(qtype = .soa ∧ fqdn = normalizeName zone.domain) →
      exactRecordsForQuery environment options zone fqdn qtype = [] →
      cnameRecordsForName environment options zone fqdn ≠ [] →
      FoundBy fqdn qtype (cnameRecordsForName environment options zone fqdn)
  | nothing : ¬(qtype = .soa ∧ fqdn = normalizeName zone.domain) →
      exactRecordsForQuery environment options zone fqdn qtype = [] →
      cnameRecordsForName environment options zone fqdn = [] →
      nameExists environment options zone fqdn ∨
        privateNameExists environment options zone fqdn →
      FoundBy fqdn qtype []
  | wildcard : ¬(qtype = .soa ∧ fqdn = normalizeName zone.domain) →
      exactRecordsForQuery environment options zone fqdn qtype = [] →
      nameExists environment options zone fqdn = false →
      privateNameExists environment options zone fqdn = false →
      FoundBy fqdn qtype
        (wildcardRecordsForQuery environment options zone fqdn qtype)

theorem foundBy_doRecordsForQuery (qname : String) (qtype : QType) :
    FoundBy environment options zone (normalizeName qname) qtype
      (doRecordsForQuery environment options zone qname qtype) := by
  unfold doRecordsForQuery
  dsimp only
  split
  · rename_i apex
    exact .apexSoa apex.1 apex.2
  · rename_i notApex
    split
    · rename_i notExact
      split
      · split
        · split
          · rename_i noCname nameFound
            exact .nothing notApex notExact noCname (.inl nameFound)
          · rename_i noName
            split
            · rename_i noCname privateFound
              exact .nothing notApex notExact noCname (.inr privateFound)
            · rename_i noPrivate
              exact .wildcard notApex notExact (Bool.eq_false_iff.mpr noName)
                (Bool.eq_false_iff.mpr noPrivate)
        · rename_i found
          exact .cname notApex notExact found
      · rename_i found
        exact .proxied notApex notExact found
    · rename_i found
      unfold exactRecordsForQuery at found ⊢
      split
      · rename_i untyped
        rw [untyped] at found
        exact .aliased notApex untyped found
      · rename_i typed
        exact .typed notApex typed

end Lookup

variable {environment : Environment} {options : Options} {zone : Zone}
  {fqdn : String} {qtype : QType} {record answer : Resource}

theorem normalizeName_recordName :
    normalizeName (recordName zone record) = recordName zone record := by
  unfold recordName
  split
  · dsimp only
    split_ifs <;> exact normalizeName_normalizeName _
  all_goals exact normalizeName_normalizeName _

@[simp] theorem host?_putContent (content : String) :
    (putContent content record).host? = record.host? := by
  cases record <;> rfl

@[simp] theorem type_putContent (content : String) :
    (putContent content record).type = record.type := by
  cases record <;> rfl

@[simp] theorem host?_putTtl (ttl : Option Int) :
    (putTtl ttl record).host? = record.host? := by
  cases record <;> rfl

@[simp] theorem type_putTtl (ttl : Option Int) :
    (putTtl ttl record).type = record.type := by
  cases record <;> rfl

theorem published_of_mem
    (member : answer ∈ withPublicRecordContent environment zone record) :
    answer.host? = some (recordName zone record) ∧ answer.type = record.type := by
  unfold withPublicRecordContent at member
  split at member
  · obtain ⟨content, _, rfl⟩ := List.mem_map.mp member
    simp [withRecordHost]
  · rw [List.mem_singleton.mp member]
    simp [withRecordHost]

theorem mem_publishedRecords {name : String} {select : Resource → Bool} :
    answer ∈ publishedRecords environment options zone name select ↔
      ∃ record ∈ zoneRecords environment options zone,
        recordName zone record = name ∧ select record ∧
          answer ∈ withPublicRecordContent environment zone record := by
  simp only [publishedRecords, List.mem_flatMap, List.mem_filter, Bool.and_eq_true,
    beq_iff_eq, and_assoc]

theorem host?_of_publishedRecords {name : String} {select : Resource → Bool}
    (member : answer ∈ publishedRecords environment options zone name select) :
    answer.host? = some name := by
  obtain ⟨record, _, named, _, published⟩ := mem_publishedRecords.mp member
  rw [← named]
  exact (published_of_mem published).1

theorem edge_of_mem {host type : String} {contents : List String}
    (member : answer ∈ edgeRecordContents record host type contents) :
    answer.host? = some host ∧ answer.type = type := by
  unfold edgeRecordContents at member
  split at member
  · obtain ⟨content, _, rfl⟩ := List.mem_map.mp member
    exact ⟨rfl, rfl⟩
  · cases member

theorem proxiedEdge_of_mem {host : String}
    (member : answer ∈ proxiedEdgeRecords environment record host qtype) :
    answer.host? = some host ∧ (answer.type = "A" ∨ answer.type = "AAAA") := by
  cases qtype <;> simp only [proxiedEdgeRecords] at member
  case a => exact (edge_of_mem member).imp_right .inl
  case aaaa => exact (edge_of_mem member).imp_right .inr
  case any =>
      rcases List.mem_append.mp member with first | second
      · exact (edge_of_mem first).imp_right .inl
      · exact (edge_of_mem second).imp_right .inr
  all_goals cases member

theorem resolved_of_mem {target ownerName : String} {ttl : Option Int}
    (member : answer ∈ resolveAliasTarget environment target qtype ownerName ttl) :
    answer.host? = some ownerName ∧ (answer.type = "A" ∨ answer.type = "AAAA") := by
  unfold resolveAliasTarget at member
  split at member
  · obtain ⟨content, _, rfl⟩ := List.mem_map.mp member
    refine ⟨rfl, ?_⟩
    simp only [Resource.type]
    split_ifs
    · exact .inl rfl
    · exact .inr rfl
  · cases member

/-- An address that an unproxied ALIAS of the name takes from another name of the
zone. -/
def LocalAliasAnswer (environment : Environment) (options : Options) (zone : Zone)
    (fqdn : String) (qtype : QType) (answer : Resource) : Prop :=
  (qtype = .a ∨ qtype = .aaaa) ∧
    ∃ host row, .row host row ∈ zoneRecords environment options zone ∧
      recordName zone (.row host row) = fqdn ∧
      recordType (.row host row) = some .alias ∧ row.proxied = false ∧
      normalizeName row.content ≠ "" ∧ normalizeName row.content ≠ fqdn ∧
      answer ∈ localAliasRecords environment options zone (normalizeName row.content)
        qtype row.ttl

theorem localAlias_of_mem {target : String} {ttl : Option Int}
    (member : answer ∈ localAliasRecords environment options zone target qtype ttl) :
    answer.host? = some target ∧ recordType answer = some qtype := by
  obtain ⟨published, found, rfl⟩ := List.mem_map.mp member
  obtain ⟨record, _, _, typed, content⟩ := mem_publishedRecords.mp found
  refine ⟨by simp, ?_⟩
  rw [recordType, type_putTtl, Resource.type_putHost, (published_of_mem content).2]
  exact beq_iff_eq.mp typed

theorem LocalAliasAnswer.mem
    (local_ : LocalAliasAnswer environment options zone fqdn qtype answer) :
    answer ∈ aliasRecordsForQuery environment options zone fqdn qtype := by
  obtain ⟨asked, host, row, visible, named, isAlias, direct, filled, other, found⟩ :=
    local_
  rw [aliasRecordsForQuery, if_pos asked]
  apply List.mem_flatMap.mpr
  refine ⟨.row host row, List.mem_filter.mpr ⟨visible, ?_⟩, ?_⟩
  · simp [named, isAlias]
  · rw [flattenAliasRecord, if_neg (by simp [direct])]
    dsimp only
    rw [if_neg (by simp [filled, other])]
    split
    · rename_i none
      rw [none] at found
      cases found
    · exact found

theorem LocalAliasAnswer.host
    (local_ : LocalAliasAnswer environment options zone fqdn qtype answer) :
    ∃ target, answer.host? = some target ∧ normalizeName target = target ∧
      target ≠ fqdn := by
  obtain ⟨_, _, row, _, _, _, _, _, other, found⟩ := local_
  exact ⟨normalizeName row.content, (localAlias_of_mem found).1,
    normalizeName_normalizeName _, other⟩

theorem owner_of_aliasRecords
    (member : answer ∈ aliasRecordsForQuery environment options zone fqdn qtype) :
    answer.host? = some fqdn ∨
      LocalAliasAnswer environment options zone fqdn qtype answer := by
  unfold aliasRecordsForQuery at member
  split at member
  · rename_i asked
    obtain ⟨record, chosen, found⟩ := List.mem_flatMap.mp member
    obtain ⟨visible, named⟩ := List.mem_filter.mp chosen
    simp only [Bool.and_eq_true, beq_iff_eq] at named
    cases record with
    | row host row =>
        simp only [flattenAliasRecord] at found
        split_ifs at found with edge self
        · exact .inl (proxiedEdge_of_mem found).1
        · cases found
        · split at found
          · exact .inl (resolved_of_mem found).1
          · right
            rw [not_or] at self
            exact ⟨asked, host, row, visible, named.1, named.2,
              Bool.eq_false_iff.mpr edge, self.1, self.2, found⟩
    | _ => cases found
  · cases member

theorem type_of_aliasRecords
    (member : answer ∈ aliasRecordsForQuery environment options zone fqdn qtype) :
    recordType answer ≠ some .cname := by
  have address : ∀ type : String, type = "A" ∨ type = "AAAA" →
      normalizeType type ≠ some .cname := by
    intro type either
    rcases either with rfl | rfl <;> decide
  unfold aliasRecordsForQuery at member
  split at member
  · rename_i asked
    obtain ⟨record, _, found⟩ := List.mem_flatMap.mp member
    cases record with
    | row host row =>
        simp only [flattenAliasRecord] at found
        split_ifs at found with edge self
        · exact address _ (proxiedEdge_of_mem found).2
        · cases found
        · split at found
          · exact address _ (resolved_of_mem found).2
          · rw [(localAlias_of_mem found).2]
            rcases asked with rfl | rfl <;> decide
    | _ => cases found
  · cases member

theorem host?_of_proxiedEdgeRecords
    (member : answer ∈ proxiedEdgeRecordsForQuery environment options zone fqdn qtype) :
    answer.host? = some fqdn := by
  unfold proxiedEdgeRecordsForQuery at member
  split at member
  · obtain ⟨record, _, found⟩ := List.mem_flatMap.mp member
    exact (proxiedEdge_of_mem found).1
  · cases member

theorem host?_of_cnameRecords
    (member : answer ∈ cnameRecordsForName environment options zone fqdn) :
    answer.host? = some fqdn := by
  obtain ⟨record, chosen, rfl⟩ := List.mem_map.mp member
  have named := (List.mem_filter.mp (List.mem_filter.mp chosen).1).2
  simp only [Bool.and_eq_true, beq_iff_eq] at named
  rw [withRecordHost, Resource.host?_putHost, named.1]

theorem mem_wildcardRecords
    (member : answer ∈ wildcardRecordsForQuery environment options zone fqdn qtype) :
    ∃ name ∈ wildcardCandidates fqdn zone.domain,
      answer ∈ publishedRecords environment options zone name (typeMatches qtype) := by
  unfold wildcardRecordsForQuery at member
  generalize wildcardCandidates fqdn zone.domain = candidates at member ⊢
  induction candidates with
  | nil => cases member
  | cons name names ih =>
      rw [List.findSome?_cons] at member
      split at member
      · rename_i found
        split at found
        · cases found
        · cases found
          exact ⟨name, List.mem_cons_self, member⟩
      · obtain ⟨other, candidate, found⟩ := ih member
        exact ⟨other, List.mem_cons_of_mem _ candidate, found⟩

theorem wildcardRecords_eq_nil_iff :
    wildcardRecordsForQuery environment options zone fqdn qtype = [] ↔
      ∀ name ∈ wildcardCandidates fqdn zone.domain,
        publishedRecords environment options zone name (typeMatches qtype) = [] := by
  unfold wildcardRecordsForQuery
  induction wildcardCandidates fqdn zone.domain with
  | nil => simp
  | cons name names ih =>
      rw [List.findSome?_cons, List.forall_mem_cons]
      cases found : publishedRecords environment options zone name (typeMatches qtype) with
      | nil => simpa using ih
      | cons first others => simp

/-- Some record of the name and the selection has a published content. -/
def Publishes (environment : Environment) (options : Options) (zone : Zone)
    (name : String) (select : Resource → Bool) : Prop :=
  ∃ record ∈ zoneRecords environment options zone,
    recordName zone record = name ∧ select record ∧
      (record.proxied → proxiedDnsContents environment record.type ≠ [])

theorem publishedRecords_ne_nil_iff {name : String} {select : Resource → Bool} :
    publishedRecords environment options zone name select ≠ [] ↔
      Publishes environment options zone name select := by
  have inhabited : ∀ records : List Resource,
      (∃ answer, answer ∈ records) ↔ records ≠ [] := fun records =>
    ⟨fun found => List.ne_nil_of_mem found.choose_spec, List.exists_mem_of_ne_nil records⟩
  have content : ∀ record, (∃ answer, answer ∈
      withPublicRecordContent environment zone record) ↔
      (record.proxied → proxiedDnsContents environment record.type ≠ []) := by
    intro record
    rw [inhabited, withPublicRecordContent]
    split
    · rename_i edge
      simp [edge]
    · rename_i direct
      simp [direct]
  rw [← inhabited]
  simp only [mem_publishedRecords]
  constructor
  · intro found
    obtain ⟨answer, record, visible, named, selected, published⟩ := found
    exact ⟨record, visible, named, selected, (content record).mp ⟨answer, published⟩⟩
  · intro found
    obtain ⟨record, visible, named, selected, contents⟩ := found
    obtain ⟨answer, published⟩ := (content record).mpr contents
    exact ⟨answer, record, visible, named, selected, published⟩

theorem mem_applyHealthFailover {records : List Resource} :
    answer ∈ applyHealthFailover environment records ↔
      answer ∈ records ∧ (healthCheckEnrolled answer →
        targetHealthy environment answer ∨ ∀ other ∈ records,
          healthCheckEnrolled other → targetHealthy environment other = false) := by
  unfold applyHealthFailover
  dsimp only
  split_ifs with noneEnrolled noneUp
  · simp only [List.isEmpty_iff, List.filter_eq_nil_iff] at noneEnrolled
    constructor
    · intro member
      exact ⟨member, fun enrolled => absurd enrolled (noneEnrolled answer member)⟩
    · exact And.left
  · simp only [List.isEmpty_iff, List.filter_eq_nil_iff, List.mem_filter,
      Bool.not_eq_true] at noneUp
    constructor
    · intro member
      exact ⟨member, fun _ => .inr fun other otherMember enrolled =>
        noneUp other ⟨otherMember, enrolled⟩⟩
    · exact And.left
  · simp only [List.isEmpty_iff, List.filter_eq_nil_iff, List.mem_filter, not_forall,
      not_not] at noneUp
    obtain ⟨other, ⟨otherMember, otherEnrolled⟩, otherUp⟩ := noneUp
    simp only [List.mem_append, List.mem_filter, Bool.not_eq_true']
    constructor
    · intro kept
      rcases kept with ⟨⟨member, _⟩, up⟩ | ⟨member, free⟩
      · exact ⟨member, fun _ => .inl up⟩
      · exact ⟨member, fun enrolled => absurd enrolled (by simp [free])⟩
    · intro kept
      obtain ⟨member, served⟩ := kept
      by_cases enrolled : healthCheckEnrolled answer = true
      · rcases served enrolled with up | allDown
        · exact .inl ⟨⟨member, enrolled⟩, up⟩
        · rw [allDown other otherMember otherEnrolled] at otherUp
          cases otherUp
      · exact .inr ⟨member, Bool.eq_false_iff.mpr enrolled⟩

theorem applyHealthFailover_eq_nil_iff {records : List Resource} :
    applyHealthFailover environment records = [] ↔ records = [] := by
  constructor
  · intro empty
    rw [List.eq_nil_iff_forall_not_mem] at empty ⊢
    simp only [mem_applyHealthFailover, not_and] at empty
    intro answer member
    apply empty answer member
    intro _
    right
    intro other otherMember _
    apply Bool.eq_false_iff.mpr
    intro up
    exact empty other otherMember fun _ => .inl up
  · intro empty
    subst empty
    rfl

theorem answer_zoneResponse {query : Query} (notAny : query.qtype ≠ .any) :
    (zoneResponse environment options zone query).answer =
      recordsForQuery environment options zone query.qname query.qtype := by
  rw [zoneResponse, if_neg notAny]
  unfold answerForZone
  dsimp only
  split
  · rename_i empty
    exact empty.symm
  · rfl

end Elektrine.DNS.Query
