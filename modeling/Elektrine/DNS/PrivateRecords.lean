import Elektrine.DNS.Query

/-!
# Private records stay private

Two states of a zone that differ in their private records only, not in the names
these have, give a client that is not allowed to recurse the same responses.  Every
lookup reads the zone through its fields, its visible records and the test for
private names; once these three are equal, so is everything computed from them.
-/

namespace Elektrine.DNS

/-- Two states of one zone with the same fields, the same public records, and private
records at the same names. -/
structure Zone.SamePublicView (left right : Zone) : Prop where
  fields : { left with records := [] } = { right with records := [] }
  publicRecords :
    left.records.filter (fun record => !record.isPrivate) =
      right.records.filter (fun record => !record.isPrivate)
  privateNames : ∀ name,
    (∃ record ∈ left.records, record.isPrivate ∧
      Query.recordName left (.row none record) = name) ↔
    ∃ record ∈ right.records, record.isPrivate ∧
      Query.recordName right (.row none record) = name

namespace Query

variable {environment : Environment} {options : Options} {left right : Zone}

section Fields

variable (same : { left with records := [] } = { right with records := [] })
include same

theorem right_eq_of_fields : right = { left with records := right.records } := by
  cases left
  cases right
  cases same
  rfl

theorem recordName_of_fields : recordName left = recordName right := by
  rw [right_eq_of_fields same]
  rfl

theorem domain_of_fields : left.domain = right.domain := by
  rw [right_eq_of_fields same]

theorem soaRecord_of_fields : left.soaRecord environment = right.soaRecord environment := by
  rw [right_eq_of_fields same]
  rfl

theorem zoneOnboardingRecords_of_fields :
    left.zoneOnboardingRecords environment = right.zoneOnboardingRecords environment := by
  rw [right_eq_of_fields same]
  rfl

theorem withRecordHost_of_fields : withRecordHost left = withRecordHost right := by
  funext record
  rw [withRecordHost, recordName_of_fields same, withRecordHost]

theorem withPublicRecordContent_of_fields :
    withPublicRecordContent environment left =
      withPublicRecordContent environment right := by
  funext record
  simp only [withPublicRecordContent, withRecordHost_of_fields same]

theorem atOrBelow_of_fields : atOrBelow left = atOrBelow right := by
  funext fqdn record
  simp only [atOrBelow, recordName_of_fields same]

end Fields

theorem not_private_of_onboarding {zone : Zone} {record : Resource}
    (member : record ∈ zone.zoneOnboardingRecords environment) :
    record.isPrivate = false := by
  unfold Zone.zoneOnboardingRecords at member
  split at member
  · cases member
  · obtain ⟨nameserver, _, rfl⟩ := List.mem_map.mp member
    rfl

theorem zoneRecords_of_public
    (outside : environment.allowRecursive options.clientIp = false) (zone : Zone) :
    zoneRecords environment options zone =
      zone.zoneOnboardingRecords environment ++
        (zone.records.filter fun record => !record.isPrivate).map (.row none) := by
  have kept : (zone.zoneOnboardingRecords environment).filter
      (fun record => !record.isPrivate) = zone.zoneOnboardingRecords environment :=
    List.filter_eq_self.mpr fun record member => by
      rw [not_private_of_onboarding member]
      rfl
  simp only [zoneRecords, privateQuery, outside, Bool.not_false, Bool.and_true,
    allZoneRecords, List.filter_append, List.filter_map, kept]
  rfl

section PublicClient

variable (same : left.SamePublicView right)
  (outside : environment.allowRecursive options.clientIp = false)
include same outside

theorem zoneRecords_of_samePublicView :
    zoneRecords environment options left = zoneRecords environment options right := by
  rw [zoneRecords_of_public outside, zoneRecords_of_public outside,
    same.publicRecords, zoneOnboardingRecords_of_fields same.fields]

theorem publishedRecords_of_samePublicView :
    publishedRecords environment options left =
      publishedRecords environment options right := by
  funext name select
  simp only [publishedRecords, recordName_of_fields same.fields,
    zoneRecords_of_samePublicView same outside,
    withPublicRecordContent_of_fields same.fields]

theorem nameExists_of_samePublicView :
    nameExists environment options left = nameExists environment options right := by
  funext qname
  simp only [nameExists, zoneRecords_of_samePublicView same outside,
    atOrBelow_of_fields same.fields]

theorem flattenAliasRecord_of_samePublicView :
    flattenAliasRecord environment options left =
      flattenAliasRecord environment options right := by
  funext fqdn qtype record
  simp only [flattenAliasRecord, localAliasRecords,
    publishedRecords_of_samePublicView same outside]

theorem exactRecordsForQuery_of_samePublicView :
    exactRecordsForQuery environment options left =
      exactRecordsForQuery environment options right := by
  funext fqdn qtype
  simp only [exactRecordsForQuery, aliasRecordsForQuery,
    publishedRecords_of_samePublicView same outside,
    flattenAliasRecord_of_samePublicView same outside,
    zoneRecords_of_samePublicView same outside, recordName_of_fields same.fields]

theorem cnameRecordsForName_of_samePublicView :
    cnameRecordsForName environment options left =
      cnameRecordsForName environment options right := by
  funext fqdn
  simp only [cnameRecordsForName, zoneRecords_of_samePublicView same outside,
    recordName_of_fields same.fields, withRecordHost_of_fields same.fields]

theorem proxiedEdgeRecordsForQuery_of_samePublicView :
    proxiedEdgeRecordsForQuery environment options left =
      proxiedEdgeRecordsForQuery environment options right := by
  funext fqdn qtype
  simp only [proxiedEdgeRecordsForQuery, zoneRecords_of_samePublicView same outside,
    recordName_of_fields same.fields]

theorem wildcardRecordsForQuery_of_samePublicView :
    wildcardRecordsForQuery environment options left =
      wildcardRecordsForQuery environment options right := by
  funext fqdn qtype
  simp only [wildcardRecordsForQuery, publishedRecords_of_samePublicView same outside,
    domain_of_fields same.fields]

theorem privateNameExists_of_samePublicView :
    privateNameExists environment options left =
      privateNameExists environment options right := by
  have names : ∀ {first second : Zone}, first.SamePublicView second → ∀ qname,
      (allZoneRecords environment first).any (fun record =>
        record.isPrivate && atOrBelow first (normalizeName qname) record) →
      (allZoneRecords environment second).any (fun record =>
        record.isPrivate && atOrBelow second (normalizeName qname) record) := by
    intro first second agree qname found
    obtain ⟨record, member, hidden⟩ := List.any_eq_true.mp found
    obtain ⟨isPrivate, below⟩ := Bool.and_eq_true_iff.mp hidden
    rcases List.mem_append.mp member with onboarding | row
    · rw [not_private_of_onboarding onboarding] at isPrivate
      cases isPrivate
    · obtain ⟨record, stored, rfl⟩ := List.mem_map.mp row
      obtain ⟨other, otherStored, otherPrivate, sameName⟩ :=
        (agree.privateNames _).mp ⟨record, stored, isPrivate, rfl⟩
      apply List.any_eq_true.mpr
      refine ⟨.row none other, List.mem_append.mpr (.inr ?_), ?_⟩
      · exact List.mem_map.mpr ⟨other, otherStored, rfl⟩
      · apply Bool.and_eq_true_iff.mpr
        refine ⟨otherPrivate, ?_⟩
        rw [atOrBelow, sameName]
        exact below
  have reversed : right.SamePublicView left :=
    ⟨same.fields.symm, same.publicRecords.symm, fun name => (same.privateNames name).symm⟩
  funext qname
  simp only [privateNameExists, privateQuery, outside, Bool.not_false, Bool.true_and]
  exact Bool.eq_iff_iff.mpr ⟨names same qname, names reversed qname⟩

theorem recordsForQuery_of_samePublicView :
    recordsForQuery environment options left =
      recordsForQuery environment options right := by
  funext qname qtype
  simp only [recordsForQuery, doRecordsForQuery, domain_of_fields same.fields,
    soaRecord_of_fields same.fields,
    exactRecordsForQuery_of_samePublicView same outside,
    proxiedEdgeRecordsForQuery_of_samePublicView same outside,
    cnameRecordsForName_of_samePublicView same outside,
    nameExists_of_samePublicView same outside,
    privateNameExists_of_samePublicView same outside,
    wildcardRecordsForQuery_of_samePublicView same outside]

theorem zoneResponse_of_samePublicView (query : Query) :
    zoneResponse environment options left query =
      zoneResponse environment options right query := by
  simp only [zoneResponse, answerForZone, additionalRecords,
    recordsForQuery_of_samePublicView same outside,
    soaRecord_of_fields same.fields,
    nameExists_of_samePublicView same outside,
    zoneRecords_of_samePublicView same outside, recordName_of_fields same.fields,
    withPublicRecordContent_of_fields same.fields]

end PublicClient

theorem fetchZone_rel {first second : ZoneCache}
    (same : ∀ domain, Option.Rel Zone.SamePublicView (first domain) (second domain))
    (qname : String) :
    Option.Rel Zone.SamePublicView (fetchZone first qname) (fetchZone second qname) := by
  unfold fetchZone
  induction candidateDomains (normalizeName qname) with
  | nil => exact .none
  | cons domain domains ih =>
      rw [List.findSome?_cons, List.findSome?_cons]
      have agree := same (downcase domain)
      generalize first (downcase domain) = left at agree ⊢
      generalize second (downcase domain) = right at agree ⊢
      cases agree with
      | none => exact ih
      | some zones => exact .some zones

/-- Whatever a client outside the recursion allow list asks, and whatever zone the
question falls into, the response does not depend on the types, the contents and the
lifetimes of private records. -/
theorem routeQuery_of_samePublicView (recursive : Query → Options → Response)
    {first second : ZoneCache}
    (same : ∀ domain, Option.Rel Zone.SamePublicView (first domain) (second domain))
    (outside : environment.allowRecursive options.clientIp = false) (query : Query) :
    routeQuery environment options recursive first query =
      routeQuery environment options recursive second query := by
  unfold routeQuery
  have zones := fetchZone_rel same query.qname
  generalize fetchZone first query.qname = left at zones ⊢
  generalize fetchZone second query.qname = right at zones ⊢
  cases zones with
  | none => rfl
  | some agree =>
      dsimp only
      rw [zoneResponse_of_samePublicView agree outside]

def internalZone (type content : String) : Zone where
  domain := "a.io"
  records :=
    [{ name := "db", type := type, content := content
       metadata := .obj [("private", .bool true)] }]

theorem samePublicView_internalZone (type content otherType otherContent : String) :
    (internalZone type content).SamePublicView
      (internalZone otherType otherContent) where
  fields := rfl
  publicRecords := by
    have hidden : ∀ record ∈ (internalZone type content).records ++
        (internalZone otherType otherContent).records, record.isPrivate = true := by
      simp [internalZone, Record.isPrivate, Json.get, Json.isTrue]
    rw [List.filter_eq_nil_iff.mpr, List.filter_eq_nil_iff.mpr]
    · intro record member
      simp [hidden record (List.mem_append_right _ member)]
    · intro record member
      simp [hidden record (List.mem_append_left _ member)]
  privateNames name := by
    simp only [internalZone, List.mem_singleton, exists_eq_left]
    exact Iff.rfl

theorem routeQuery_internalZone :
    routeQuery {} {} (fun _ _ => { answer := [], rcode := .refused })
        (fun domain => if domain = "a.io" then some (internalZone "A" "10.0.0.7") else none)
        { qname := "db.a.io", qtype := .a } =
      routeQuery {} {} (fun _ _ => { answer := [], rcode := .refused })
        (fun domain => if domain = "a.io" then some (internalZone "TXT" "key") else none)
        { qname := "db.a.io", qtype := .a } := by
  apply routeQuery_of_samePublicView
  · intro domain
    split
    · exact .some (samePublicView_internalZone ..)
    · exact .none
  · rfl

end Query

end Elektrine.DNS
