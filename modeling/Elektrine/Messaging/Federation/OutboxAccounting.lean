import Elektrine.Library.Runs
import Elektrine.Messaging.Federation.Delivery

/-!
# The accounts of outbox rows

The counter of a row is advanced by every result for any of its domains.  It
stands for the failures of one domain only as long as nothing else uses it up;
the accounts below are right exactly then.
-/

namespace Elektrine.Messaging.Federation

open Elektrine.Library

namespace FederationOutboxEvent

variable {context : DeliveryContext} {row fresh : FederationOutboxEvent}
  {attempt : DeliveryAttempt} {domain : String}

@[simp] theorem mem_pendingDomains_iff :
    domain ∈ row.pendingDomains ↔
      domain ∈ row.targets.domains ∧ domain ∉ row.deliveredDomains := by
  simp [pendingDomains]

theorem nodup_pendingDomains : row.pendingDomains.Nodup :=
  row.targets.nodup.filter _

@[simp] theorem targets_record :
    (row.record context attempt).targets = row.targets := by
  unfold record
  split <;> rfl

@[simp] theorem maxAttempts_record :
    (row.record context attempt).maxAttempts = row.maxAttempts := by
  unfold record
  split <;> rfl

@[simp] theorem attemptCount_record :
    (row.record context attempt).attemptCount = row.attemptCount + 1 := by
  unfold record
  split <;> rfl

theorem succeeded_iff : attempt.succeeded = true ↔ attempt.outcome = .success := by
  simp [DeliveryAttempt.succeeded]

theorem record_of_succeeded (succeeded : attempt.succeeded = true) :
    row.record context attempt =
      recordOutboxDomainSuccess attempt.recordedAt attempt.domain row := by
  rw [record, succeeded_iff.mp succeeded]

theorem deliveredDomains_record_of_failed (failed : attempt.succeeded = false) :
    (row.record context attempt).deliveredDomains = row.deliveredDomains := by
  unfold record
  cases outcome : attempt.outcome with
  | success => rw [succeeded_iff.mpr outcome] at failed; cases failed
  | failure reason => rfl

theorem status_record_of_failed (failed : attempt.succeeded = false) :
    (row.record context attempt).status =
      if row.maxAttempts ≤ row.attemptCount + 1 then .failed else .pending := by
  unfold record
  cases outcome : attempt.outcome with
  | success => rw [succeeded_iff.mpr outcome] at failed; cases failed
  | failure reason => rfl

structure Tracked (row : FederationOutboxEvent) : Prop where
  nodup : row.deliveredDomains.Nodup
  targeted : ∀ domain ∈ row.deliveredDomains, domain ∈ row.targets.domains

theorem sameDomains_iff {delivered : List String} {targets : DeliveryTargets}
    (nodup : delivered.Nodup)
    (targeted : ∀ domain ∈ delivered, domain ∈ targets.domains) :
    sameDomains delivered targets.domains = true ↔
      ∀ domain ∈ targets.domains, domain ∈ delivered := by
  rw [sameDomains, beq_iff_eq, insertionSort_eq_insertionSort_iff]
  constructor
  · intro permuted domain member
    exact permuted.mem_iff.mpr member
  · intro all
    apply (List.perm_ext_iff_of_nodup nodup targets.nodup).mpr
    intro domain
    exact ⟨targeted domain, all domain⟩

/-- Every target domain is delivered. -/
def Complete (row : FederationOutboxEvent) : Prop :=
  ∀ domain ∈ row.targets.domains, domain ∈ row.deliveredDomains

theorem not_complete_of_pending (pending : domain ∈ row.pendingDomains) :
    ¬ row.Complete := by
  intro complete
  obtain ⟨target, missing⟩ := mem_pendingDomains_iff.mp pending
  exact missing (complete domain target)

section Success

variable (tracked : row.Tracked) (pending : attempt.domain ∈ row.pendingDomains)
  (succeeded : attempt.succeeded = true)

include tracked pending succeeded

theorem deliveredDomains_record_of_succeeded :
    (row.record context attempt).deliveredDomains =
      row.deliveredDomains ++ [attempt.domain] := by
  rw [record_of_succeeded succeeded]
  apply eraseDups_of_nodup
  apply tracked.nodup.append (List.nodup_singleton _)
  intro domain delivered own
  rw [List.mem_singleton.mp own] at delivered
  exact (mem_pendingDomains_iff.mp pending).2 delivered

theorem tracked_record_of_succeeded :
    (row.record context attempt).Tracked := by
  constructor
  · rw [deliveredDomains_record_of_succeeded tracked pending succeeded]
    apply tracked.nodup.append (List.nodup_singleton _)
    intro domain delivered own
    rw [List.mem_singleton.mp own] at delivered
    exact (mem_pendingDomains_iff.mp pending).2 delivered
  · rw [deliveredDomains_record_of_succeeded tracked pending succeeded,
      targets_record]
    intro domain member
    rcases List.mem_append.mp member with delivered | own
    · exact tracked.targeted domain delivered
    · rw [List.mem_singleton.mp own]
      exact (mem_pendingDomains_iff.mp pending).1

theorem complete_record_iff :
    (row.record context attempt).Complete ↔
      row.pendingDomains = [attempt.domain] := by
  unfold Complete
  rw [targets_record,
    deliveredDomains_record_of_succeeded tracked pending succeeded]
  constructor
  · intro complete
    apply List.perm_singleton.mp
    apply (List.perm_ext_iff_of_nodup nodup_pendingDomains
      (List.nodup_singleton _)).mpr
    intro domain
    constructor
    · intro waiting
      obtain ⟨target, missing⟩ := mem_pendingDomains_iff.mp waiting
      rcases List.mem_append.mp (complete domain target) with delivered | own
      · exact absurd delivered missing
      · exact own
    · intro own
      rw [List.mem_singleton.mp own]
      exact pending
  · intro only domain target
    by_cases delivered : domain ∈ row.deliveredDomains
    · exact List.mem_append_left _ delivered
    · have waiting : domain ∈ row.pendingDomains :=
        mem_pendingDomains_iff.mpr ⟨target, delivered⟩
      rw [only] at waiting
      exact List.mem_append_right _ waiting

theorem status_record_of_succeeded :
    (row.record context attempt).status =
      if row.pendingDomains = [attempt.domain] then .delivered else .pending := by
  have after : (row.record context attempt).Tracked :=
    tracked_record_of_succeeded tracked pending succeeded
  have complete : (row.record context attempt).Complete ↔
      row.pendingDomains = [attempt.domain] :=
    complete_record_iff tracked pending succeeded
  have all := sameDomains_iff after.nodup after.targeted
  rw [record_of_succeeded succeeded] at all complete ⊢
  exact if_congr (all.trans complete) rfl rfl

end Success

/-- A result is for a domain that has not taken the row. -/
def Awaits (row : FederationOutboxEvent) (attempt : DeliveryAttempt) : Prop :=
  attempt.domain ∈ row.pendingDomains

structure Fresh (row : FederationOutboxEvent) : Prop where
  status : row.status = .pending
  attemptCount : row.attemptCount = 0
  deliveredDomains : row.deliveredDomains = []

def replay (context : DeliveryContext) (row : FederationOutboxEvent)
    (attempts : List DeliveryAttempt) : FederationOutboxEvent :=
  attempts.foldl (record context) row

theorem replay_snoc (attempts : List DeliveryAttempt) :
    row.replay context (attempts ++ [attempt]) =
      (row.replay context attempts).record context attempt := by
  simp [replay]

def failures (domain : String) (attempts : List DeliveryAttempt) : Nat :=
  attempts.countP fun attempt => attempt.domain == domain && !attempt.succeeded

structure Accounted (row : FederationOutboxEvent)
    (attempts : List DeliveryAttempt) : Prop where
  delivered : row.status = .delivered ↔ row.Complete
  failed : row.status = .failed →
    ∃ domain ∈ row.targets.domains, domain ∉ row.deliveredDomains ∧
      row.maxAttempts ≤ failures domain attempts
  pending : row.status = .pending → row.attemptCount < row.maxAttempts
  retried : row.status = .pending → ∀ now, row.nextRetryAt ≤ now →
    row.due now = true

/-- Every result is a failure and the first ones, as many as there are attempts,
are for the same domain. -/
structure SingleFault (limit : Nat) (attempts : List DeliveryAttempt) : Prop where
  failed : ∀ attempt ∈ attempts, attempt.succeeded = false
  same : ∃ domain, ∀ attempt ∈ attempts.take limit, attempt.domain = domain

/-- The counter has room for one more result, or the result completes the row,
or the counter has been used up by the failures of one domain. -/
def KeepsAccount (history : List DeliveryAttempt) (row : FederationOutboxEvent)
    (attempt : DeliveryAttempt) : Prop :=
  row.attemptCount + 1 < row.maxAttempts ∨
    (attempt.succeeded = true ∧ row.pendingDomains = [attempt.domain]) ∨
    SingleFault row.maxAttempts (history ++ [attempt])

structure Followed (fresh row : FederationOutboxEvent)
    (attempts : List DeliveryAttempt) : Prop where
  tracked : row.Tracked
  targets : row.targets = fresh.targets
  maxAttempts : row.maxAttempts = fresh.maxAttempts
  attemptCount : row.attemptCount = attempts.length
  delivered : row.status = .delivered ↔ row.Complete

theorem Fresh.followed (isFresh : fresh.Fresh) : Followed fresh fresh [] where
  tracked := by
    constructor <;> simp [isFresh.deliveredDomains]
  targets := rfl
  maxAttempts := rfl
  attemptCount := isFresh.attemptCount
  delivered := by
    simp only [isFresh.status, Complete, isFresh.deliveredDomains]
    constructor
    · intro impossible
      cases impossible
    · intro complete
      obtain ⟨domain, target⟩ :=
        List.exists_mem_of_ne_nil _ fresh.targets.nonempty
      exact absurd (complete domain target) List.not_mem_nil

theorem Followed.record {attempts : List DeliveryAttempt}
    (followed : Followed fresh row attempts) (awaits : row.Awaits attempt) :
    Followed fresh (row.record context attempt) (attempts ++ [attempt]) where
  tracked := by
    cases succeeded : attempt.succeeded with
    | true => exact tracked_record_of_succeeded followed.tracked awaits succeeded
    | false =>
        constructor
        · rw [deliveredDomains_record_of_failed succeeded]
          exact followed.tracked.nodup
        · rw [deliveredDomains_record_of_failed succeeded, targets_record]
          exact followed.tracked.targeted
  targets := targets_record.trans followed.targets
  maxAttempts := maxAttempts_record.trans followed.maxAttempts
  attemptCount := by simp [followed.attemptCount]
  delivered := by
    cases succeeded : attempt.succeeded with
    | true =>
        rw [status_record_of_succeeded followed.tracked awaits succeeded,
          complete_record_iff followed.tracked awaits succeeded]
        split_ifs with last <;> simp [last]
    | false =>
        have waiting : ¬ (row.record context attempt).Complete := by
          have pending : attempt.domain ∈
              (row.record context attempt).pendingDomains := by
            rw [mem_pendingDomains_iff, targets_record,
              deliveredDomains_record_of_failed succeeded]
            exact mem_pendingDomains_iff.mp awaits
          exact not_complete_of_pending pending
        rw [status_record_of_failed succeeded]
        split_ifs <;> simp [waiting]

/-- The row has gone through the results, each of them for a domain it was still
waiting for. -/
def Traced (context : DeliveryContext) (fresh : FederationOutboxEvent)
    (attempts : List DeliveryAttempt) : Prop :=
  fresh.Fresh ∧ Along (record context) Awaits fresh attempts

namespace Traced

variable {front back attempts : List DeliveryAttempt}

theorem prefix_of (traced : Traced context fresh (front ++ back)) :
    Traced context fresh front :=
  ⟨traced.1, traced.2.prefix_of⟩

theorem awaits (traced : Traced context fresh (front ++ attempt :: back)) :
    (fresh.replay context front).Awaits attempt :=
  traced.2 front attempt back rfl

theorem followed (traced : Traced context fresh attempts) :
    Followed fresh (fresh.replay context attempts) attempts := by
  induction attempts using List.reverseRecOn with
  | nil => exact traced.1.followed
  | append_singleton attempts attempt ih =>
      rw [replay_snoc]
      exact (ih traced.prefix_of).record traced.awaits

theorem not_complete (traced : Traced context fresh (front ++ attempt :: back)) :
    ¬ (fresh.replay context front).Complete :=
  not_complete_of_pending traced.awaits

end Traced

theorem due_iff {now : DateTime} :
    row.due now = true ↔ row.status = .pending ∧
      row.attemptCount < row.maxAttempts ∧ row.nextRetryAt ≤ now := by
  simp [due, and_assoc]

theorem Accounted.of_status {attempts : List DeliveryAttempt}
    (delivered : row.status = .delivered ↔ row.Complete)
    (failed : row.status = .failed →
      ∃ domain ∈ row.targets.domains, domain ∉ row.deliveredDomains ∧
        row.maxAttempts ≤ failures domain attempts)
    (pending : row.status = .pending → row.attemptCount < row.maxAttempts) :
    Accounted row attempts where
  delivered := delivered
  failed := failed
  pending := pending
  retried := fun waiting _ reached =>
    due_iff.mpr ⟨waiting, pending waiting, reached⟩

theorem Accounted.failed_of_exhausted {attempts : List DeliveryAttempt}
    (accounted : Accounted row attempts) (incomplete : ¬ row.Complete)
    (exhausted : row.maxAttempts ≤ row.attemptCount) : row.status = .failed := by
  cases status : row.status with
  | failed => rfl
  | delivered => exact absurd (accounted.delivered.mp status) incomplete
  | pending =>
      exact absurd (accounted.pending status) (Nat.not_lt.mpr exhausted)

theorem singleFault_of_accounted {front back : List DeliveryAttempt}
    (traced : Traced context fresh (front ++ attempt :: back))
    (accounted : ∀ earlier, earlier <+: front ++ [attempt] →
      Accounted (fresh.replay context earlier) earlier)
    (exhausted : fresh.maxAttempts ≤ front.length + 1)
    (lastFailed : attempt.succeeded = false) :
    SingleFault fresh.maxAttempts (front ++ [attempt]) := by
  have traced' : Traced context fresh ((front ++ [attempt]) ++ back) := by
    simpa using traced
  -- From the moment the counter has run out the row has failed.
  have statusFailed : ∀ earlier later, front ++ [attempt] = earlier ++ later →
      fresh.maxAttempts ≤ earlier.length →
      (fresh.replay context earlier).status = .failed := by
    intro earlier later split used
    rw [split] at traced'
    have followed := traced'.prefix_of.prefix_of.followed
    apply (accounted earlier ⟨later, split.symm⟩).failed_of_exhausted
    · cases later with
      | nil =>
          rw [List.append_nil] at split
          rw [← split, replay_snoc]
          have pending : attempt.domain ∈
              ((fresh.replay context front).record context attempt).pendingDomains := by
            rw [mem_pendingDomains_iff, targets_record,
              deliveredDomains_record_of_failed lastFailed]
            exact mem_pendingDomains_iff.mp traced.awaits
          exact not_complete_of_pending pending
      | cons next later =>
          rw [List.append_assoc] at traced'
          exact traced'.not_complete
    · rw [followed.maxAttempts, followed.attemptCount]
      exact used
  have long : ((front ++ [attempt]).take fresh.maxAttempts).length =
      fresh.maxAttempts := by
    rw [List.length_take, List.length_append]
    exact Nat.min_eq_left exhausted
  obtain ⟨domain, -, -, enough⟩ :=
    (accounted _ (List.take_prefix _ _)).failed
      (statusFailed _ _ (List.take_append_drop _ _).symm long.ge)
  have firstFailures : ∀ other ∈ (front ++ [attempt]).take fresh.maxAttempts,
      other.domain = domain ∧ other.succeeded = false := by
    have followed := (List.take_append_drop fresh.maxAttempts
      (front ++ [attempt]) ▸ traced').prefix_of.prefix_of.followed
    rw [followed.maxAttempts] at enough
    have all := List.countP_eq_length.mp
      (le_antisymm List.countP_le_length (long.le.trans enough))
    intro other member
    simpa using all other member
  refine ⟨?_, domain, fun other member => (firstFailures other member).1⟩
  intro other member
  rw [← List.take_append_drop fresh.maxAttempts (front ++ [attempt])] at member
  rcases List.mem_append.mp member with early | late
  · exact (firstFailures other early).2
  · obtain ⟨middle, later, rest⟩ := List.append_of_mem late
    have split : front ++ [attempt] =
        ((front ++ [attempt]).take fresh.maxAttempts ++ middle ++ [other]) ++
          later := by
      conv_lhs => rw [← List.take_append_drop fresh.maxAttempts
        (front ++ [attempt]), rest]
      simp
    have status := statusFailed _ _ split (by
      rw [List.length_append, List.length_append, long]
      omega)
    rw [split, List.append_assoc, List.append_assoc, List.singleton_append]
      at traced'
    rw [replay_snoc] at status
    cases succeeded : other.succeeded with
    | false => rfl
    | true =>
        rw [status_record_of_succeeded traced'.prefix_of.followed.tracked
          traced'.awaits succeeded] at status
        split_ifs at status

theorem keepsAccount_of_accounted {front back : List DeliveryAttempt}
    (traced : Traced context fresh (front ++ attempt :: back))
    (accounted : ∀ earlier, earlier <+: front ++ [attempt] →
      Accounted (fresh.replay context earlier) earlier) :
    KeepsAccount front (fresh.replay context front) attempt := by
  have followed := traced.prefix_of.followed
  by_cases room : (fresh.replay context front).attemptCount + 1 <
      (fresh.replay context front).maxAttempts
  · exact .inl room
  · right
    cases succeeded : attempt.succeeded with
    | true =>
        left
        refine ⟨rfl, ?_⟩
        by_contra more
        have after := accounted _ List.prefix_rfl
        rw [replay_snoc] at after
        have waiting := after.pending (by
          rw [status_record_of_succeeded followed.tracked traced.awaits succeeded,
            if_neg more])
        rw [attemptCount_record, maxAttempts_record] at waiting
        exact room waiting
    | false =>
        right
        rw [followed.maxAttempts, followed.attemptCount] at room
        rw [followed.maxAttempts]
        exact singleFault_of_accounted traced accounted (Nat.not_lt.mp room)
          succeeded

theorem Fresh.accounted (isFresh : fresh.Fresh) : Accounted fresh [] := by
  apply Accounted.of_status isFresh.followed.delivered
  · intro impossible
    rw [isFresh.status] at impossible
    cases impossible
  · intro _
    rw [isFresh.attemptCount]
    exact fresh.maxAttempts_pos

theorem Traced.deliveredDomains_of_failed {attempts : List DeliveryAttempt}
    (traced : Traced context fresh attempts)
    (failed : ∀ attempt ∈ attempts, attempt.succeeded = false) :
    (fresh.replay context attempts).deliveredDomains = [] := by
  induction attempts using List.reverseRecOn with
  | nil => exact traced.1.deliveredDomains
  | append_singleton attempts attempt ih =>
      rw [replay_snoc, deliveredDomains_record_of_failed
        (failed attempt (by simp))]
      apply ih traced.prefix_of
      intro other member
      exact failed other (List.mem_append_left _ member)

theorem Traced.exhausted_of_singleFault {attempts : List DeliveryAttempt}
    (traced : Traced context fresh attempts)
    (fault : SingleFault fresh.maxAttempts attempts)
    (exhausted : fresh.maxAttempts ≤ attempts.length) :
    ∃ domain ∈ fresh.targets.domains,
      fresh.maxAttempts ≤ failures domain attempts := by
  obtain ⟨domain, same⟩ := fault.same
  refine ⟨domain, ?_, ?_⟩
  · cases attempts with
    | nil => exact absurd exhausted (Nat.not_le.mpr fresh.maxAttempts_pos)
    | cons first rest =>
        have awaited : first.domain ∈ fresh.pendingDomains := traced.2.head
        obtain ⟨before, positive⟩ :=
          Nat.exists_eq_succ_of_ne_zero fresh.maxAttempts_pos.ne'
        rw [same first (by rw [positive]; simp)] at awaited
        exact (mem_pendingDomains_iff.mp awaited).1
  · have long : (attempts.take fresh.maxAttempts).length = fresh.maxAttempts := by
      rw [List.length_take]
      exact Nat.min_eq_left exhausted
    have all : failures domain (attempts.take fresh.maxAttempts) =
        (attempts.take fresh.maxAttempts).length := by
      apply List.countP_eq_length.mpr
      intro attempt member
      simp [same attempt member, fault.failed attempt (List.mem_of_mem_take member)]
    rw [long] at all
    exact all.symm.le.trans
      (List.take_prefix _ _).sublist.countP_le

theorem accounted_of_keepsAccount {front : List DeliveryAttempt}
    (traced : Traced context fresh (front ++ [attempt]))
    (kept : KeepsAccount front (fresh.replay context front) attempt) :
    Accounted (fresh.replay context (front ++ [attempt]))
      (front ++ [attempt]) := by
  have followed := traced.prefix_of.followed
  have after := traced.followed
  rw [KeepsAccount, followed.maxAttempts, followed.attemptCount] at kept
  apply Accounted.of_status after.delivered
  · intro failed
    rw [after.maxAttempts, after.targets]
    cases succeeded : attempt.succeeded with
    | true =>
        rw [replay_snoc, status_record_of_succeeded followed.tracked
          traced.awaits succeeded] at failed
        split_ifs at failed
    | false =>
        rw [replay_snoc, status_record_of_failed succeeded,
          followed.maxAttempts, followed.attemptCount] at failed
        have exhausted : fresh.maxAttempts ≤ front.length + 1 := by
          by_contra room
          rw [if_neg room] at failed
          cases failed
        have fault : SingleFault fresh.maxAttempts (front ++ [attempt]) := by
          rcases kept with room | ⟨success, -⟩ | fault
          · omega
          · rw [succeeded] at success
            cases success
          · exact fault
        obtain ⟨domain, target, enough⟩ :=
          traced.exhausted_of_singleFault fault (by simpa using exhausted)
        refine ⟨domain, target, ?_, enough⟩
        rw [traced.deliveredDomains_of_failed fault.failed]
        exact List.not_mem_nil
  · intro pending
    rw [after.maxAttempts, after.attemptCount]
    rw [List.length_append, List.length_singleton]
    rw [replay_snoc] at pending
    rcases kept with room | ⟨succeeded, last⟩ | fault
    · exact room
    · rw [status_record_of_succeeded followed.tracked traced.awaits succeeded,
        if_pos last] at pending
      cases pending
    · by_contra exhausted
      rw [status_record_of_failed (fault.failed attempt (by simp)),
        followed.maxAttempts, followed.attemptCount,
        if_pos (Nat.not_lt.mp exhausted)] at pending
      cases pending

theorem accounted_iff_keepsAccount {attempts : List DeliveryAttempt}
    (traced : Traced context fresh attempts) :
    (∀ front, front <+: attempts →
        Accounted (fresh.replay context front) front) ↔
      ∀ front attempt back, attempts = front ++ attempt :: back →
        KeepsAccount front (fresh.replay context front) attempt := by
  constructor
  · intro accounted front attempt back split
    subst split
    apply keepsAccount_of_accounted traced
    intro earlier reached
    exact accounted earlier (reached.trans ⟨back, by simp⟩)
  · intro kept front reached
    obtain ⟨back, split⟩ := reached
    subst split
    induction front using List.reverseRecOn generalizing back with
    | nil => exact traced.1.accounted
    | append_singleton front attempt =>
        apply accounted_of_keepsAccount traced.prefix_of
        exact kept front attempt back (by simp)

end FederationOutboxEvent

namespace Outbox

open FederationOutboxEvent (Awaits Traced Followed Fresh replay)

variable {context : DeliveryContext} {turn : DeliveryTurn} {outbox : Outbox}
  {entry : Nat × DeliveryAttempt} {id : Nat} {domain : String}

def attemptsOf (outbox : Outbox) (id : Nat) : List DeliveryAttempt :=
  (outbox.recorded.filter fun entry => entry.1 == id).map Prod.snd

/-- The row is still to be delivered to the domain. -/
def Waiting (outbox : Outbox) (id : Nat) (domain : String) : Prop :=
  ∃ row, outbox.rows id = some row ∧ domain ∈ row.pendingDomains

structure Kept (context : DeliveryContext) (outbox : Outbox) : Prop where
  bounded : ∀ id, outbox.count ≤ id → outbox.rows id = none
  traced : ∀ id row, outbox.rows id = some row →
    ∃ fresh, Traced context fresh (outbox.attemptsOf id) ∧
      fresh.replay context (outbox.attemptsOf id) = row
  unrecorded : ∀ id, outbox.rows id = none → outbox.attemptsOf id = []

theorem kept_empty : Kept context empty where
  bounded _ _ := rfl
  traced _ _ impossible := by cases impossible
  unrecorded _ _ := rfl

section Record

variable {row : FederationOutboxEvent} (stored : outbox.rows entry.1 = some row)

include stored

theorem record_eq :
    outbox.record context entry =
      { outbox with
        rows := Function.update outbox.rows entry.1
          (some (row.record context entry.2))
        recorded := outbox.recorded ++ [entry] } := by
  rw [record, stored]

theorem rows_record_self :
    (outbox.record context entry).rows entry.1 =
      some (row.record context entry.2) := by
  rw [record_eq stored]
  exact Function.update_self _ _ _

theorem rows_record_of_ne (other : id ≠ entry.1) :
    (outbox.record context entry).rows id = outbox.rows id := by
  rw [record_eq stored]
  exact Function.update_of_ne other _ _

theorem attemptsOf_record :
    (outbox.record context entry).attemptsOf id =
      outbox.attemptsOf id ++ if entry.1 = id then [entry.2] else [] := by
  rw [record_eq stored, attemptsOf, List.filter_append, List.map_append]
  congr 1
  by_cases own : entry.1 = id <;> simp [own]

end Record

theorem Kept.record (kept : Kept context outbox)
    (waiting : outbox.Waiting entry.1 entry.2.domain) :
    Kept context (outbox.record context entry) := by
  obtain ⟨row, stored, awaits⟩ := waiting
  refine ⟨?_, ?_, ?_⟩
  · intro id beyond
    have counted : (outbox.record context entry).count = outbox.count := by
      rw [record_eq stored]
    have absent := kept.bounded id (counted ▸ beyond)
    rw [rows_record_of_ne stored]
    · exact absent
    · intro same
      rw [same, stored] at absent
      cases absent
  · intro id after found
    rw [attemptsOf_record stored]
    by_cases own : entry.1 = id
    · subst own
      rw [rows_record_self stored] at found
      cases found
      obtain ⟨fresh, traced, replayed⟩ := kept.traced _ _ stored
      refine ⟨fresh, ⟨traced.1, ?_⟩, ?_⟩
      · rw [if_pos rfl]
        refine traced.2.append (Along.cons ?_ (Along.nil _ _ _))
        change Awaits (fresh.replay context _) entry.2
        rw [replayed]
        exact awaits
      · rw [if_pos rfl, FederationOutboxEvent.replay_snoc, replayed]
    · rw [rows_record_of_ne stored (Ne.symm own)] at found
      rw [if_neg own, List.append_nil]
      exact kept.traced id after found
  · intro id absent
    have other : id ≠ entry.1 := by
      intro same
      rw [same, rows_record_self stored] at absent
      cases absent
    rw [rows_record_of_ne stored other] at absent
    rw [attemptsOf_record stored, if_neg other.symm, List.append_nil]
    exact kept.unrecorded id absent

theorem Waiting.record (waiting : outbox.Waiting id domain)
    (other : entry.1 = id → entry.2.domain ≠ domain)
    (recorded : outbox.Waiting entry.1 entry.2.domain)
    (kept : Kept context outbox) :
    (outbox.record context entry).Waiting id domain := by
  obtain ⟨row, stored, awaits⟩ := recorded
  obtain ⟨waitingRow, found, pending⟩ := waiting
  by_cases own : entry.1 = id
  · subst own
    rw [stored] at found
    cases found
    refine ⟨_, rows_record_self stored, ?_⟩
    rw [FederationOutboxEvent.mem_pendingDomains_iff] at pending ⊢
    rw [FederationOutboxEvent.targets_record]
    refine ⟨pending.1, ?_⟩
    obtain ⟨fresh, traced, replayed⟩ := kept.traced _ _ stored
    have tracked := replayed ▸ traced.followed.tracked
    cases succeeded : entry.2.succeeded with
    | true =>
        rw [FederationOutboxEvent.deliveredDomains_record_of_succeeded tracked
          awaits succeeded]
        intro delivered
        rcases List.mem_append.mp delivered with before | now
        · exact pending.2 before
        · exact other rfl (List.mem_singleton.mp now).symm
    | false =>
        rw [FederationOutboxEvent.deliveredDomains_record_of_failed succeeded]
        exact pending.2
  · exact ⟨waitingRow, (rows_record_of_ne stored (Ne.symm own)).trans found,
      pending⟩

structure BatchOf (outbox : Outbox) (domain : String)
    (entries : List (Nat × DeliveryAttempt)) : Prop where
  distinct : (entries.map Prod.fst).Nodup
  waiting : ∀ entry ∈ entries,
    entry.2.domain = domain ∧ outbox.Waiting entry.1 domain

theorem recordAll_of_batch {entries : List (Nat × DeliveryAttempt)}
    (batch : BatchOf outbox domain entries) (kept : Kept context outbox) :
    Kept context (recordAll context outbox entries) ∧
      ∀ id other, other ≠ domain → outbox.Waiting id other →
        (recordAll context outbox entries).Waiting id other := by
  induction entries generalizing outbox with
  | nil => exact ⟨kept, fun _ _ _ waiting => waiting⟩
  | cons entry entries ih =>
      obtain ⟨fresh, distinct⟩ := List.nodup_cons.mp batch.distinct
      obtain ⟨own, waiting⟩ := batch.waiting entry List.mem_cons_self
      rw [← own] at waiting
      have rest : BatchOf (outbox.record context entry) domain entries := by
        refine ⟨distinct, ?_⟩
        intro later member
        obtain ⟨same, stillWaiting⟩ :=
          batch.waiting later (List.mem_cons_of_mem _ member)
        refine ⟨same, stillWaiting.record ?_ waiting kept⟩
        intro again
        exact absurd (again ▸ List.mem_map_of_mem member) fresh
      obtain ⟨keptAfter, waitingAfter⟩ := ih rest (kept.record waiting)
      refine ⟨keptAfter, ?_⟩
      intro id other different waitingOther
      apply waitingAfter id other different
      apply waitingOther.record _ waiting kept
      intro _ same
      exact different (same.symm.trans own)

theorem map_fst_chunkAttempts {now : DateTime}
    {outcome : FederationOutboxEvent → DeliveryOutcome} {rows : List BatchRow} :
    (chunkAttempts now domain outcome rows).map Prod.fst =
      rows.map Prod.fst := by
  simp [chunkAttempts]

theorem domain_of_mem_chunkAttempts {now : DateTime}
    {outcome : FederationOutboxEvent → DeliveryOutcome} {rows : List BatchRow}
    (member : entry ∈ chunkAttempts now domain outcome rows) :
    entry.2.domain = domain := by
  obtain ⟨row, -, rfl⟩ := List.mem_map.mp member
  rfl

/-- What a batch records: results for the domain, for rows of the batch and for
none of them twice. -/
structure BatchResults (domain : String) (rows : List BatchRow)
    (entries : List (Nat × DeliveryAttempt)) : Prop where
  domain : ∀ entry ∈ entries, entry.2.domain = domain
  rows : entries.map Prod.fst <+: rows.map Prod.fst

theorem deliverChunks_eq (context : DeliveryContext) (turn : DeliveryTurn)
    (peer : Peer) (domain : String) (outbox : Outbox)
    (chunkList : List (List BatchRow)) :
    ∃ entries, BatchResults domain chunkList.flatten entries ∧
      deliverChunks context turn peer domain outbox chunkList =
        recordAll context outbox entries := by
  induction chunkList generalizing outbox with
  | nil => exact ⟨[], ⟨by simp, List.nil_prefix⟩, rfl⟩
  | cons chunk rest ih =>
      rw [deliverChunks]
      split
      · rename_i results _
        generalize attemptsEq : chunkAttempts (turn.clock domain) domain
          (outcomeOfResult results) chunk = attempts
        have ids : attempts.map Prod.fst = chunk.map Prod.fst := by
          rw [← attemptsEq]
          exact map_fst_chunkAttempts
        have own : ∀ entry ∈ attempts, entry.2.domain = domain := by
          rw [← attemptsEq]
          exact fun entry => domain_of_mem_chunkAttempts
        dsimp only
        split
        · obtain ⟨entries, recorded, same⟩ :=
            ih (recordAll context outbox attempts)
          refine ⟨attempts ++ entries, ⟨?_, ?_⟩, ?_⟩
          · intro entry member
            exact (List.mem_append.mp member).elim (own entry)
              (recorded.domain entry)
          · rw [List.map_append, List.flatten_cons, List.map_append, ids]
            exact (List.prefix_append_right_inj _).mpr recorded.rows
          · rw [same, recordAll, recordAll, recordAll, List.foldl_append]
        · refine ⟨attempts, ⟨own, ?_⟩, rfl⟩
          rw [ids, List.flatten_cons, List.map_append]
          exact List.prefix_append _ _
      · refine ⟨_, ⟨fun entry => domain_of_mem_chunkAttempts, ?_⟩, rfl⟩
        rw [map_fst_chunkAttempts, List.flatten_cons, List.map_append]
        exact List.prefix_append _ _

theorem map_fst_filterMap_sublist {read : Nat → Option FederationOutboxEvent}
    (ids : List Nat) :
    ((ids.filterMap fun id => (read id).map (id, ·)).map Prod.fst).Sublist
      ids := by
  induction ids with
  | nil => exact List.Sublist.slnil
  | cons id ids ih =>
      rw [List.filterMap_cons]
      cases read id with
      | none => exact ih.cons id
      | some row => exact ih.cons_cons id

theorem siblings_sublist (context : DeliveryContext) (turn : DeliveryTurn)
    (outbox : Outbox) (id : Nat) (domain : String) :
    ((siblings context turn outbox id domain).map Prod.fst).Sublist
      ((List.range outbox.count).filter fun other =>
        other != id && !turn.lockedElsewhere other) :=
  ((List.take_sublist _ _).map _).trans (map_fst_filterMap_sublist _)

theorem waiting_of_mem_siblings {row : BatchRow}
    (member : row ∈ siblings context turn outbox id domain) :
    outbox.Waiting row.1 domain := by
  obtain ⟨other, -, found⟩ :=
    List.mem_filterMap.mp (List.mem_of_mem_take member)
  obtain ⟨sibling, kept, rfl⟩ := Option.map_eq_some_iff.mp found
  obtain ⟨stored, waits⟩ := Option.filter_eq_some_iff.mp kept
  refine ⟨sibling, stored, ?_⟩
  simp only [Bool.and_eq_true, List.contains_eq_mem, decide_eq_true_eq,
    Bool.not_eq_true', decide_eq_false_iff_not] at waits
  exact FederationOutboxEvent.mem_pendingDomains_iff.mpr ⟨waits.1.2, waits.2⟩

theorem nodup_outboxBatchForDomain (context : DeliveryContext)
    (turn : DeliveryTurn) (outbox : Outbox) (row : BatchRow) (domain : String) :
    ((outboxBatchForDomain context turn outbox row domain).map
      Prod.fst).Nodup := by
  have sorted := (List.perm_insertionSort
    (fun left right : BatchRow => left.1 ≤ right.1)
    (row :: siblings context turn outbox row.1 domain)).map Prod.fst
  apply sorted.nodup_iff.mpr
  have others := siblings_sublist context turn outbox row.1 domain
  refine List.nodup_cons.mpr ⟨?_, others.nodup (List.nodup_range.filter _)⟩
  intro again
  simpa using List.of_mem_filter (others.subset again)

theorem waiting_of_mem_batch {row other : BatchRow}
    (own : outbox.Waiting row.1 domain)
    (member : other ∈ outboxBatchForDomain context turn outbox row domain) :
    outbox.Waiting other.1 domain := by
  rcases List.mem_cons.mp ((List.mem_insertionSort _).mp member) with rfl | sibling
  · exact own
  · exact waiting_of_mem_siblings sibling

theorem BatchOf.of_results {rows : List BatchRow}
    {entries : List (Nat × DeliveryAttempt)}
    (domains : ∀ entry ∈ entries, entry.2.domain = domain)
    (distinct : (entries.map Prod.fst).Nodup)
    (among : ∀ id ∈ entries.map Prod.fst, id ∈ rows.map Prod.fst)
    (waiting : ∀ row ∈ rows, outbox.Waiting row.1 domain) :
    BatchOf outbox domain entries where
  distinct := distinct
  waiting := by
    intro entry member
    refine ⟨domains entry member, ?_⟩
    obtain ⟨row, stored, same⟩ :=
      List.mem_map.mp (among entry.1 (List.mem_map_of_mem member))
    rw [← same]
    exact waiting row stored

theorem deliverOutboxDomainBatch_eq (context : DeliveryContext)
    (turn : DeliveryTurn) {row : BatchRow}
    (lower : downcase domain = domain) (own : outbox.Waiting row.1 domain) :
    ∃ entries, BatchOf outbox domain entries ∧
      deliverOutboxDomainBatch context turn row outbox domain =
        recordAll context outbox entries := by
  simp only [deliverOutboxDomainBatch, lower]
  have distinct := nodup_outboxBatchForDomain context turn outbox row domain
  have waiting : ∀ other ∈ outboxBatchForDomain context turn outbox row domain,
      outbox.Waiting other.1 domain := fun other => waiting_of_mem_batch own
  generalize outboxBatchForDomain context turn outbox row domain = batch
    at distinct waiting ⊢
  cases found : context.outgoingPeer domain with
  | none =>
      refine ⟨_, .of_results (fun entry => domain_of_mem_chunkAttempts) ?_ ?_
        waiting, rfl⟩
      · rw [map_fst_chunkAttempts]
        exact distinct
      · rw [map_fst_chunkAttempts]
        exact fun id member => member
  | some peer =>
      generalize supportsEq : (fun row : BatchRow =>
        peerSupportsEventType peer row.2.eventType) = supports
      have parts := (List.filter_append_perm supports batch).map Prod.fst
      rw [List.map_append] at parts
      have permuted := List.perm_append_comm.trans parts
      generalize unsupportedEq : chunkAttempts (turn.clock domain) domain
        (fun _ => .success) (batch.filter fun row => !supports row) = unsupported
      have unsupportedIds : unsupported.map Prod.fst =
          (batch.filter fun row => !supports row).map Prod.fst := by
        rw [← unsupportedEq]
        exact map_fst_chunkAttempts
      obtain ⟨entries, recorded, same⟩ := deliverChunks_eq context turn peer
        domain (recordAll context outbox unsupported)
        (chunkEvery (context.peerBatchLimit peer) (batch.filter supports))
      have pushed : (entries.map Prod.fst).Sublist
          ((batch.filter supports).map Prod.fst) :=
        recorded.rows.sublist.trans
          ((prefix_flatten_chunkEvery _ _).sublist.map _)
      have part : ((unsupported ++ entries).map Prod.fst).Sublist
          ((batch.filter fun row => !supports row).map Prod.fst ++
            (batch.filter supports).map Prod.fst) := by
        rw [List.map_append, unsupportedIds]
        exact (List.Sublist.refl _).append pushed
      refine ⟨unsupported ++ entries, .of_results ?_ ?_ ?_ waiting, ?_⟩
      · intro entry member
        rcases List.mem_append.mp member with early | late
        · rw [← unsupportedEq] at early
          exact domain_of_mem_chunkAttempts early
        · exact recorded.domain entry late
      · exact part.nodup (permuted.nodup_iff.mpr distinct)
      · exact fun id member => permuted.subset (part.subset member)
      · subst supportsEq unsupportedEq
        exact same.trans List.foldl_append.symm

inductive OutboxAction where
  | enqueue (now : DateTime) (event : OutboundEvent) (envelope : EventEnvelope)
  | process (turn : DeliveryTurn) (id : Nat)

def step (context : DeliveryContext) (outbox : Outbox) : OutboxAction → Outbox
  | .enqueue now event envelope =>
      enqueueOutboxEvent context now event envelope outbox
  | .process turn id => (processOutboxEvent context turn outbox id).2

theorem fresh_enqueued {envelope : EventEnvelope} {targets : DeliveryTargets}
    {maxAttempts : Nat} {positive : 0 < maxAttempts} {now : DateTime} :
    (enqueued envelope targets maxAttempts positive now).Fresh :=
  ⟨rfl, rfl, rfl⟩

theorem Kept.insert {row : FederationOutboxEvent} (kept : Kept context outbox)
    (fresh : row.Fresh) : Kept context (outbox.insert row) where
  bounded := by
    intro id beyond
    change Function.update outbox.rows outbox.count (some row) id = none
    have beyond : outbox.count + 1 ≤ id := beyond
    rw [Function.update_of_ne (by omega)]
    exact kept.bounded id (by omega)
  traced := by
    intro id after found
    change ∃ fresh, Traced context fresh (outbox.attemptsOf id) ∧ _
    change Function.update outbox.rows outbox.count (some row) id = _ at found
    by_cases new : id = outbox.count
    · subst new
      rw [Function.update_self] at found
      cases found
      have none := kept.unrecorded _ (kept.bounded _ le_rfl)
      refine ⟨row, ?_, ?_⟩
      · rw [none]
        exact ⟨fresh, Along.nil _ _ _⟩
      · change row.replay context (outbox.attemptsOf outbox.count) = row
        rw [none]
        rfl
    · rw [Function.update_of_ne new] at found
      exact kept.traced id after found
  unrecorded := by
    intro id absent
    change Function.update outbox.rows outbox.count (some row) id = _ at absent
    change outbox.attemptsOf id = []
    by_cases new : id = outbox.count
    · rw [new, Function.update_self] at absent
      cases absent
    · rw [Function.update_of_ne new] at absent
      exact kept.unrecorded id absent

theorem Kept.enqueue {now : DateTime} {event : OutboundEvent}
    {envelope : EventEnvelope} (kept : Kept context outbox) :
    Kept context (enqueueOutboxEvent context now event envelope outbox) := by
  unfold enqueueOutboxEvent
  split
  · exact kept
  · split_ifs with positive valid
    · exact kept.insert fresh_enqueued
    · exact kept
    · exact kept

theorem Kept.deliverAll {row : BatchRow} {domains : List String}
    (kept : Kept context outbox) (distinct : domains.Nodup)
    (lower : ∀ domain ∈ domains, downcase domain = domain)
    (waiting : ∀ domain ∈ domains, outbox.Waiting row.1 domain) :
    Kept context
      (domains.foldl (deliverOutboxDomainBatch context turn row) outbox) := by
  induction domains generalizing outbox with
  | nil => exact kept
  | cons domain domains ih =>
      obtain ⟨fresh, distinct⟩ := List.nodup_cons.mp distinct
      obtain ⟨entries, batch, delivered⟩ := deliverOutboxDomainBatch_eq context
        turn (lower domain List.mem_cons_self) (waiting domain List.mem_cons_self)
      obtain ⟨keptAfter, waitingAfter⟩ := recordAll_of_batch batch kept
      rw [List.foldl_cons, delivered]
      apply ih keptAfter distinct
      · exact fun other member => lower other (List.mem_cons_of_mem _ member)
      · intro other member
        apply waitingAfter
        · exact fun same => fresh (same ▸ member)
        · exact waiting other (List.mem_cons_of_mem _ member)

theorem Kept.process (kept : Kept context outbox) :
    Kept context (processOutboxEvent context turn outbox id).2 := by
  cases stored : outbox.rows id with
  | none => simpa only [processOutboxEvent, stored] using kept
  | some row =>
      obtain ⟨fresh, traced, replayed⟩ := kept.traced id row stored
      have followed := replayed ▸ traced.followed
      cases status : row.status with
      | delivered => simpa only [processOutboxEvent, stored, status] using kept
      | failed => simpa only [processOutboxEvent, stored, status] using kept
      | pending =>
          simp only [processOutboxEvent, stored, status]
          split_ifs
          · exact kept
          · cases domains : row.pendingDomains with
            | nil =>
                -- A row without pending domains is complete, hence delivered.
                have complete : row.Complete := by
                  intro domain target
                  by_contra missing
                  have pending : domain ∈ row.pendingDomains :=
                    FederationOutboxEvent.mem_pendingDomains_iff.mpr
                      ⟨target, missing⟩
                  rw [domains] at pending
                  cases pending
                rw [followed.delivered.mpr complete] at status
                cases status
            | cons first rest =>
                have pending : ∀ domain ∈ first :: rest,
                    domain ∈ row.pendingDomains := fun domain member =>
                  domains ▸ member
                simp only [doProcessOutbox, domains]
                apply kept.deliverAll
                · rw [← domains]
                  exact FederationOutboxEvent.nodup_pendingDomains
                · intro domain member
                  exact row.targets.lower domain
                    (FederationOutboxEvent.mem_pendingDomains_iff.mp
                      (pending domain member)).1
                · intro domain member
                  exact ⟨row, stored, pending domain member⟩

theorem kept_run (context : DeliveryContext) (actions : List OutboxAction) :
    Kept context (actions.foldl (step context) empty) := by
  induction actions using List.reverseRecOn with
  | nil => exact kept_empty
  | append_singleton actions action ih =>
      rw [List.foldl_append, List.foldl_cons, List.foldl_nil]
      cases action with
      | enqueue => exact ih.enqueue
      | process => exact ih.process

end Outbox

/-- Every row of the outbox is what its results have made of it, and on the way
there its account was right in every state if and only if every result was one
that keeps it. -/
theorem outboxAccounting_iff (context : DeliveryContext)
    (actions : List Outbox.OutboxAction) (id : Nat)
    (row : FederationOutboxEvent)
    (stored : (actions.foldl (Outbox.step context) Outbox.empty).rows id =
      some row) :
    let attempts :=
      (actions.foldl (Outbox.step context) Outbox.empty).attemptsOf id
    ∃ fresh : FederationOutboxEvent,
      fresh.Fresh ∧ fresh.replay context attempts = row ∧
        ((∀ front, front <+: attempts →
            (fresh.replay context front).Accounted front) ↔
          ∀ front attempt back, attempts = front ++ attempt :: back →
            FederationOutboxEvent.KeepsAccount front
              (fresh.replay context front) attempt) := by
  obtain ⟨fresh, traced, replayed⟩ :=
    (Outbox.kept_run context actions).traced id row stored
  exact ⟨fresh, traced.1, replayed,
    FederationOutboxEvent.accounted_iff_keepsAccount traced⟩

def slowPeerDomains : List String :=
  ["a.example", "b.example", "c.example", "d.example", "e.example", "f.example",
    "g.example", "h.example"]

def slowPeerContext : DeliveryContext where
  outgoingPeer domain := some ⟨domain, [], [], []⟩
  peerBatchLimit _ := 32
  deliveryBatchSize := 32
  outboxMaxAttempts := 8
  outboxBackoffSeconds _ := 5
  inspect _ := ":timeout"

def slowPeerEvent : OutboundEvent where
  eventId := "e1"
  idempotencyKey := "e1"
  eventType := "message.create"
  payload := .obj []
  targets := .all
  outgoingPeers := slowPeerDomains.map fun domain => ⟨domain, [], [], []⟩
  room := some slowPeerDomains

def slowPeerTurn : DeliveryTurn where
  startedAt := 0
  clock _ := 0
  lockedElsewhere _ := false
  pushEventBatchToPeer peer _ :=
    if peer.domain = "a.example" then .error (.transport ":timeout")
    else .ok [.obj [("event_id", .str "e1"), ("status", .str "applied")]]

def slowPeerActions : List Outbox.OutboxAction :=
  [.enqueue 0 slowPeerEvent
    (slowPeerEvent.envelope "local.example" "server:1" 1),
   .process slowPeerTurn 0]

def slowPeerOutbox : Outbox :=
  slowPeerActions.foldl (Outbox.step slowPeerContext) Outbox.empty

theorem slowPeerRow :
    (slowPeerOutbox.rows 0).map (fun row =>
      (row.status, row.attemptCount, row.maxAttempts)) =
        some (.pending, 8, 8) := by
  decide

theorem outboxAccounting_iff_slowPeer :
    ∃ row, slowPeerOutbox.rows 0 = some row ∧
      ∃ fresh : FederationOutboxEvent,
        fresh.Fresh ∧
          fresh.replay slowPeerContext (slowPeerOutbox.attemptsOf 0) = row ∧
          ((∀ front, front <+: slowPeerOutbox.attemptsOf 0 →
              (fresh.replay slowPeerContext front).Accounted front) ↔
            ∀ front attempt back,
              slowPeerOutbox.attemptsOf 0 = front ++ attempt :: back →
              FederationOutboxEvent.KeepsAccount front
                (fresh.replay slowPeerContext front) attempt) := by
  obtain ⟨row, stored, -⟩ := Option.map_eq_some_iff.mp slowPeerRow
  exact ⟨row, stored,
    outboxAccounting_iff slowPeerContext slowPeerActions 0 row stored⟩

/-- After one failure and seven successes the row is pending for the domain that
failed once, and no query for due rows finds it again. -/
theorem successes_exhaust_attempts :
    ¬ ∀ (context : DeliveryContext) (actions : List Outbox.OutboxAction)
        (id : Nat) (row : FederationOutboxEvent),
      (actions.foldl (Outbox.step context) Outbox.empty).rows id = some row →
      row.Accounted
        ((actions.foldl (Outbox.step context) Outbox.empty).attemptsOf id) := by
  intro claimed
  obtain ⟨row, stored, seen⟩ := Option.map_eq_some_iff.mp slowPeerRow
  simp only [Prod.mk.injEq] at seen
  obtain ⟨pending, counted, limit⟩ := seen
  have room := (claimed slowPeerContext slowPeerActions 0 row stored).pending
    pending
  omega

end Elektrine.Messaging.Federation
