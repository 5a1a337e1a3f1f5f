import Elektrine.DNS.Lookup

/-!
# Answers belong to the question

A resolver accepts a record of an answer when its owner is the name asked for, or a
name that the CNAME records of the answer lead to from there.  The records of the
name itself are like that.  The records of a wildcard keep the name of the wildcard,
and the addresses of an ALIAS that is followed inside the zone have the name of its
target: these are the answers that do not belong to their question.
-/

namespace Elektrine.DNS.Query

/-- The names that an answer speaks about: the name asked for, and what CNAME records
of the answer make of such a name. -/
inductive Reached (answers : List Resource) (qname : String) : String → Prop where
  | question : Reached answers qname (normalizeOwner qname)
  | cname {record : Resource} {target : String} :
      Reached answers qname (normalizeOwner record.owner) → record ∈ answers →
      recordType record = some .cname → record.content? = some target →
      Reached answers qname (normalizeOwner target)

def OwnersBelong (answers : List Resource) (qname : String) : Prop :=
  ∀ answer ∈ answers, Reached answers qname (normalizeOwner answer.owner)

section Conditions

variable (environment : Environment) (options : Options) (zone : Zone)
  (fqdn : String) (qtype : QType)

/-- No record, visible or private, is at the name or below it, and some wildcard above
it has a record of the type. -/
structure WildcardAnswers : Prop where
  notApexSoa : ¬(qtype = .soa ∧ fqdn = normalizeName zone.domain)
  noName : nameExists environment options zone fqdn = false
  noPrivateName : privateNameExists environment options zone fqdn = false
  published : ∃ name ∈ wildcardCandidates fqdn zone.domain,
    Publishes environment options zone name (typeMatches qtype)

/-- The name has no record of the type but an ALIAS of another name of the zone that
has, and failover does not replace what the ALIAS stands for. -/
structure AliasAnswersFromTarget : Prop where
  untyped : ¬Publishes environment options zone fqdn fun record =>
    typeMatches qtype record && recordType record != some .alias
  served : ∃ answer, LocalAliasAnswer environment options zone fqdn qtype answer ∧
    (healthCheckEnrolled answer → targetHealthy environment answer ∨
      ∀ other ∈ aliasRecordsForQuery environment options zone fqdn qtype,
        healthCheckEnrolled other → targetHealthy environment other = false)

end Conditions

variable {environment : Environment} {options : Options} {zone : Zone}
  {fqdn qname : String} {qtype : QType} {answers : List Resource}

theorem eq_of_reached {name : String}
    (noCname : ∀ answer ∈ answers, recordType answer = some .cname →
      normalizeOwner answer.owner ≠ normalizeOwner qname)
    (reached : Reached answers qname name) : name = normalizeOwner qname := by
  induction reached with
  | question => rfl
  | cname _ member isCname _ ih => exact absurd ih (noCname _ member isCname)

theorem nameExists_of_visible {record : Resource}
    (visible : record ∈ zoneRecords environment options zone)
    (named : recordName zone record = fqdn) (normal : normalizeName fqdn = fqdn) :
    nameExists environment options zone fqdn = true := by
  apply List.any_eq_true.mpr
  refine ⟨record, visible, ?_⟩
  simp [atOrBelow, normal, named]

/-- What is found without a wildcard has the name asked for as its host, the SOA of the
zone and addresses from other names apart. -/
theorem host?_of_foundBy
    (found : FoundBy environment options zone fqdn qtype answers) {answer : Resource}
    (member : answer ∈ answers)
    (noWildcard : ¬WildcardAnswers environment options zone fqdn qtype) :
    (answer = zone.soaRecord environment ∧ qtype = .soa ∧
        fqdn = normalizeName zone.domain) ∨
      answer.host? = some fqdn ∨
      (typedRecords environment options zone fqdn qtype = [] ∧
        answers = aliasRecordsForQuery environment options zone fqdn qtype ∧
        LocalAliasAnswer environment options zone fqdn qtype answer) := by
  cases found with
  | apexSoa isSoa isApex => exact .inl ⟨List.mem_singleton.mp member, isSoa, isApex⟩
  | typed _ _ => exact .inr (.inl (host?_of_publishedRecords member))
  | aliased _ untyped _ =>
      rcases owner_of_aliasRecords member with host | localAlias
      · exact .inr (.inl host)
      · exact .inr (.inr ⟨untyped, rfl, localAlias⟩)
  | proxied _ _ _ => exact .inr (.inl (host?_of_proxiedEdgeRecords member))
  | cname _ _ _ => exact .inr (.inl (host?_of_cnameRecords member))
  | nothing _ _ _ _ => cases member
  | wildcard notApex _ noName noPrivate =>
      obtain ⟨name, candidate, published⟩ := mem_wildcardRecords member
      exact absurd ⟨notApex, noName, noPrivate, name, candidate,
        publishedRecords_ne_nil_iff.mp (List.ne_nil_of_mem published)⟩ noWildcard

theorem owner_of_foundBy (normal : normalizeName fqdn = fqdn)
    (found : FoundBy environment options zone fqdn qtype answers) {answer : Resource}
    (member : answer ∈ answers)
    (noWildcard : ¬WildcardAnswers environment options zone fqdn qtype) :
    normalizeOwner answer.owner = fqdn ∨
      (typedRecords environment options zone fqdn qtype = [] ∧
        answers = aliasRecordsForQuery environment options zone fqdn qtype ∧
        LocalAliasAnswer environment options zone fqdn qtype answer) := by
  rcases host?_of_foundBy found member noWildcard with soa | host | elsewhere
  · left
    obtain ⟨isSoa, _, isApex⟩ := soa
    rw [isSoa, isApex]
    exact normalizeOwner_eq_normalizeName _
  · left
    rw [Resource.owner_of_host? host, normalizeOwner_eq_normalizeName, normal]
  · exact .inr elsewhere

theorem eq_wildcardRecords (normal : normalizeName fqdn = fqdn)
    (found : FoundBy environment options zone fqdn qtype answers)
    (notApexSoa : ¬(qtype = .soa ∧ fqdn = normalizeName zone.domain))
    (noName : nameExists environment options zone fqdn = false)
    (noPrivateName : privateNameExists environment options zone fqdn = false) :
    answers = wildcardRecordsForQuery environment options zone fqdn qtype := by
  have invisible : ∀ record ∈ zoneRecords environment options zone,
      recordName zone record ≠ fqdn := by
    intro record visible named
    have present := nameExists_of_visible visible named normal
    rw [noName] at present
    cases present
  have unnamed : ∀ select : Resource → Bool, (zoneRecords environment options zone).filter
      (fun record => recordName zone record == fqdn && select record) = [] := by
    intro select
    apply List.filter_eq_nil_iff.mpr
    intro record visible
    simp [invisible record visible]
  have untyped : typedRecords environment options zone fqdn qtype = [] := by
    rw [typedRecords, publishedRecords, unnamed, List.flatMap_nil]
  have noAlias : aliasRecordsForQuery environment options zone fqdn qtype = [] := by
    rw [aliasRecordsForQuery, unnamed, List.flatMap_nil, ite_self]
  have noProxied :
      proxiedEdgeRecordsForQuery environment options zone fqdn qtype = [] := by
    simp only [proxiedEdgeRecordsForQuery, Bool.and_assoc, unnamed, List.flatMap_nil,
      ite_self]
  have noCname : cnameRecordsForName environment options zone fqdn = [] := by
    rw [cnameRecordsForName, unnamed, List.filter_nil, List.map_nil]
  cases found with
  | apexSoa isSoa isApex => exact absurd ⟨isSoa, isApex⟩ notApexSoa
  | typed _ typed => exact absurd untyped typed
  | aliased _ _ someAlias => exact absurd noAlias someAlias
  | proxied _ _ proxied => exact absurd noProxied proxied
  | cname _ _ cname => exact absurd noCname cname
  | nothing _ _ _ known =>
      rcases known with known | known
      · rw [noName] at known
        cases known
      · rw [noPrivateName] at known
        cases known
  | wildcard _ _ _ _ => rfl

theorem not_ownersBelong_of_wildcard (normal : normalizeName fqdn = fqdn)
    (same : normalizeOwner qname = fqdn)
    (found : FoundBy environment options zone fqdn qtype answers)
    (wildcard : WildcardAnswers environment options zone fqdn qtype) :
    ¬OwnersBelong (applyHealthFailover environment answers) qname := by
  intro belong
  have all := eq_wildcardRecords normal found wildcard.notApexSoa wildcard.noName
    wildcard.noPrivateName
  have foreign : ∀ answer ∈ applyHealthFailover environment answers,
      normalizeOwner answer.owner ≠ normalizeOwner qname := by
    intro answer member
    have inWildcard := (mem_applyHealthFailover.mp member).1
    rw [all] at inWildcard
    obtain ⟨name, _, published⟩ := mem_wildcardRecords inWildcard
    obtain ⟨record, visible, named, _, content⟩ := mem_publishedRecords.mp published
    rw [Resource.owner_of_host? (published_of_mem content).1,
      normalizeOwner_eq_normalizeName, normalizeName_recordName, same]
    intro owned
    have present := nameExists_of_visible visible owned normal
    rw [wildcard.noName] at present
    cases present
  have someAnswer : applyHealthFailover environment answers ≠ [] := by
    rw [Ne, applyHealthFailover_eq_nil_iff, all, wildcardRecords_eq_nil_iff]
    intro none
    obtain ⟨name, candidate, published⟩ := wildcard.published
    exact publishedRecords_ne_nil_iff.mpr published (none name candidate)
  obtain ⟨answer, member⟩ := List.exists_mem_of_ne_nil _ someAnswer
  exact foreign answer member
    (eq_of_reached (fun other otherMember _ => foreign other otherMember)
      (belong answer member))

theorem eq_aliasRecords
    (found : FoundBy environment options zone fqdn qtype answers)
    (aliased : AliasAnswersFromTarget environment options zone fqdn qtype) :
    answers = aliasRecordsForQuery environment options zone fqdn qtype := by
  have untyped : typedRecords environment options zone fqdn qtype = [] := by
    by_contra typed
    exact aliased.untyped (publishedRecords_ne_nil_iff.mp typed)
  obtain ⟨answer, localAlias, _⟩ := aliased.served
  have someAlias : aliasRecordsForQuery environment options zone fqdn qtype ≠ [] :=
    List.ne_nil_of_mem localAlias.mem
  have exact_ : exactRecordsForQuery environment options zone fqdn qtype ≠ [] := by
    unfold exactRecordsForQuery
    split
    · exact someAlias
    · rename_i typed
      exact typed
  cases found with
  | apexSoa isSoa _ =>
      rcases localAlias.1 with isA | isAaaa
      · cases isSoa.symm.trans isA
      · cases isSoa.symm.trans isAaaa
  | typed _ typed => exact absurd untyped typed
  | aliased _ _ _ => rfl
  | proxied _ none _ => exact absurd none exact_
  | cname _ none _ => exact absurd none exact_
  | nothing _ none _ _ => exact absurd none exact_
  | wildcard _ none _ _ => exact absurd none exact_

theorem not_ownersBelong_of_alias (same : normalizeOwner qname = fqdn)
    (found : FoundBy environment options zone fqdn qtype answers)
    (aliased : AliasAnswersFromTarget environment options zone fqdn qtype) :
    ¬OwnersBelong (applyHealthFailover environment answers) qname := by
  intro belong
  have all := eq_aliasRecords found aliased
  subst all
  obtain ⟨answer, localAlias, kept⟩ := aliased.served
  have member := mem_applyHealthFailover.mpr ⟨localAlias.mem, kept⟩
  have onlyQuestion := eq_of_reached
    (fun other otherMember isCname => absurd isCname
      (type_of_aliasRecords (mem_applyHealthFailover.mp otherMember).1))
    (belong answer member)
  obtain ⟨target, host, normal, other⟩ := localAlias.host
  rw [Resource.owner_of_host? host, normalizeOwner_eq_normalizeName, normal, same]
    at onlyQuestion
  exact other onlyQuestion

/-- The owners of an answer belong to the question exactly when it comes neither from
a wildcard nor from the target of an ALIAS. -/
theorem ownersBelong_iff {query : Query} (notAny : query.qtype ≠ .any) :
    OwnersBelong (zoneResponse environment options zone query).answer query.qname ↔
      ¬WildcardAnswers environment options zone (normalizeName query.qname)
          query.qtype ∧
        ¬AliasAnswersFromTarget environment options zone (normalizeName query.qname)
          query.qtype := by
  have found := foundBy_doRecordsForQuery environment options zone query.qname
    query.qtype
  have normal := normalizeName_normalizeName query.qname
  have same := normalizeOwner_eq_normalizeName query.qname
  rw [answer_zoneResponse notAny]
  unfold recordsForQuery
  generalize doRecordsForQuery environment options zone query.qname query.qtype =
    answers at found ⊢
  constructor
  · intro belong
    exact ⟨fun wildcard => not_ownersBelong_of_wildcard normal same found wildcard belong,
      fun aliased => not_ownersBelong_of_alias same found aliased belong⟩
  · intro neither answer member
    obtain ⟨noWildcard, noAlias⟩ := neither
    obtain ⟨inAnswers, kept⟩ := mem_applyHealthFailover.mp member
    rcases owner_of_foundBy normal found inAnswers noWildcard with owned | elsewhere
    · rw [owned, ← same]
      exact .question
    · obtain ⟨untyped, all, localAlias⟩ := elsewhere
      refine absurd ⟨?_, answer, localAlias, ?_⟩ noAlias
      · intro published
        exact publishedRecords_ne_nil_iff.mpr published untyped
      · rw [← all]
        exact kept

def wildcardZone (type content : String) : Zone where
  domain := "a.io"
  records := [{ name := "*", type := type, content := content }]

theorem ownersBelong_iff_wildcardZone :
    OwnersBelong (zoneResponse {} {} (wildcardZone "A" "192.0.2.7")
        { qname := "b.a.io", qtype := .txt }).answer "b.a.io" ↔
      ¬WildcardAnswers {} {} (wildcardZone "A" "192.0.2.7") (normalizeName "b.a.io") .txt ∧
        ¬AliasAnswersFromTarget {} {} (wildcardZone "A" "192.0.2.7")
          (normalizeName "b.a.io") .txt :=
  ownersBelong_iff (by decide)

/-- The address of the wildcard is sent as one of `*.a.io`. -/
theorem wildcard_answer_keeps_its_owner :
    ¬OwnersBelong (zoneResponse {} {} (wildcardZone "A" "192.0.2.7")
      { qname := "b.a.io", qtype := .a }).answer "b.a.io" := by
  intro belong
  have owners : (zoneResponse {} {} (wildcardZone "A" "192.0.2.7")
      { qname := "b.a.io", qtype := .a }).answer.map
        (fun answer => normalizeOwner answer.owner) = ["*.a.io"] := by
    decide
  generalize (zoneResponse {} {} (wildcardZone "A" "192.0.2.7")
    { qname := "b.a.io", qtype := .a }).answer = answers at belong owners
  have foreign : ∀ answer ∈ answers,
      normalizeOwner answer.owner ≠ normalizeOwner "b.a.io" := by
    intro answer member
    have owner := List.mem_map_of_mem (f := fun answer => normalizeOwner answer.owner)
      member
    rw [owners, List.mem_singleton] at owner
    rw [owner]
    decide
  cases answers with
  | nil => cases owners
  | cons answer others =>
      exact foreign answer List.mem_cons_self
        (eq_of_reached (fun other member _ => foreign other member)
          (belong answer List.mem_cons_self))

end Elektrine.DNS.Query
