import Elektrine.Atomine.Credits
import Mathlib.Data.List.Induction

/-!
# The ledger under concurrent calls

Only the holder of the account row has uncommitted rows, so that what it read of the account,
and what the indexes accepted, is still so when it commits.
-/

namespace Elektrine.Atomine

open Elektrine.Library

def Rows.current (rows : Rows) : CreditAccount :=
  rows.account.getD newAccount

structure Rows.Sound (rows : Rows) : Prop where
  ledger : rows.current.balance = ledgerTotal rows.ledger
  lifetime : rows.current.balance = rows.current.lifetimeEarned - rows.current.lifetimeSpent
  spends : rows.current.lifetimeSpent = spendTotal rows.spends
  nonnegative : 0 ≤ rows.current.balance
  charges : rows.spends.Pairwise fun first second => ¬ first.SameCharge second
  grants : rows.ledger.Pairwise fun first second => ¬ first.SameGrant second

/-- The row charges the key of the call, when that is not blank. -/
def Charges (row : CreditSpend) (call : SpendCall) : Prop :=
  ∀ key, call.idempotencyKey = some key → trim key ≠ "" →
    row.action = call.action ∧ row.idempotencyKey = some key

def Fits (rows : Rows) : CreditProcess → Prop
  | .idle | .lookingForGrant _ | .lockingGrant _ | .inserting _ | .relocking _ false
  | .granted _ | .lookingForSpend _ | .lockingSpend _ => True
  | .relocking _ true => rows.account = none
  | .crediting _ account => account = rows.current
  | .entering grant account => account = rows.current.credit grant.amount
  | .committingGrant account entry => (rows.commit account entry []).Sound
  | .debiting spend account => account = rows.current ∧ spend.amount ≤ rows.current.balance
  | .charging spend account =>
      account = rows.current.debit spend.amount ∧ spend.amount ≤ rows.current.balance
  | .recording spend account row =>
      account = rows.current.debit spend.amount ∧ spend.amount ≤ rows.current.balance ∧
        row.amount = spend.amount ∧ Charges row spend.toSpendCall ∧
        ∀ other ∈ rows.spends, ¬ other.SameCharge row
  | .committingSpend call account row entry =>
      (rows.commit account entry [row]).Sound ∧ Charges row call
  | .spent call result => ∀ row, result = .ok row → row ∈ rows.spends ∧ Charges row call

theorem acceptsEntry_iff {rows : Rows} {entry : CreditLedgerEntry}
    (accepted : rows.acceptsEntry entry = true) :
    ∀ other ∈ rows.ledger, ¬ other.SameGrant entry := by
  intro other member
  have each := List.all_eq_true.mp accepted other member
  rw [Bool.and_eq_true, Bool.not_eq_true'] at each
  exact of_decide_eq_false each.1

theorem acceptsSpend_iff {rows : Rows} {row : CreditSpend}
    (accepted : rows.acceptsSpend row = true) :
    ∀ other ∈ rows.spends, ¬ other.SameCharge row := by
  intro other member
  have each := List.all_eq_true.mp accepted other member
  rw [Bool.not_eq_true'] at each
  exact of_decide_eq_false each

theorem pairwise_concat {α : Type} {Related : α → α → Prop} {entries : List α} {last : α}
    (pairs : entries.Pairwise Related) (related : ∀ entry ∈ entries, Related entry last) :
    (entries ++ [last]).Pairwise Related := by
  apply List.pairwise_append.mpr
  refine ⟨pairs, List.pairwise_singleton _ _, ?_⟩
  intro entry member other added
  cases List.mem_singleton.mp added
  exact related entry member

theorem Rows.Sound.commit_grant {rows : Rows} (sound : rows.Sound) {amount : Int}
    (positive : 0 < amount) {entry : CreditLedgerEntry} (credited : entry.amount = amount)
    (accepted : rows.acceptsEntry entry = true) :
    (rows.commit (rows.current.credit amount) entry []).Sound where
  ledger := by
    change rows.current.balance + amount = ledgerTotal (rows.ledger ++ [entry])
    rw [ledgerTotal_concat, sound.ledger, credited]
  lifetime := by
    have before := sound.lifetime
    change rows.current.balance + amount =
      rows.current.lifetimeEarned + amount - rows.current.lifetimeSpent
    omega
  spends := by
    change rows.current.lifetimeSpent = spendTotal (rows.spends ++ [])
    rw [List.append_nil, sound.spends]
  nonnegative := by
    have before := sound.nonnegative
    change 0 ≤ rows.current.balance + amount
    omega
  charges := by
    change (rows.spends ++ []).Pairwise _
    rw [List.append_nil]
    exact sound.charges
  grants := pairwise_concat sound.grants (acceptsEntry_iff accepted)

theorem Rows.Sound.commit_spend {rows : Rows} (sound : rows.Sound) {amount : Int}
    (covered : amount ≤ rows.current.balance) {row : CreditSpend} (charged : row.amount = amount)
    (fresh : ∀ other ∈ rows.spends, ¬ other.SameCharge row) {entry : CreditLedgerEntry}
    (debited : entry.amount = -amount) (accepted : rows.acceptsEntry entry = true) :
    (rows.commit (rows.current.debit amount) entry [row]).Sound where
  ledger := by
    change rows.current.balance - amount = ledgerTotal (rows.ledger ++ [entry])
    rw [ledgerTotal_concat, sound.ledger, debited, Int.sub_eq_add_neg]
  lifetime := by
    have before := sound.lifetime
    change rows.current.balance - amount =
      rows.current.lifetimeEarned - (rows.current.lifetimeSpent + amount)
    omega
  spends := by
    change rows.current.lifetimeSpent + amount = spendTotal (rows.spends ++ [row])
    rw [spendTotal_concat, sound.spends, charged]
  nonnegative := by
    change 0 ≤ rows.current.balance - amount
    omega
  charges := pairwise_concat sound.charges fresh
  grants := pairwise_concat sound.grants (acceptsEntry_iff accepted)

inductive Effect (before : CreditDatabase) (process : CreditProcess) :
    CreditDatabase → CreditProcess → Prop where
  | quiet {after : CreditDatabase} {next : CreditProcess} :
      after.rows = before.rows → after.locked = before.locked →
      next.holds = process.holds → Effect before process after next
  | enters {after : CreditDatabase} {next : CreditProcess} :
      after.rows = before.rows → before.locked = false → after.locked = true →
      Effect before process after next
  | leaves {after : CreditDatabase} {next : CreditProcess} :
      after.rows = before.rows → process.holds = true → next.holds = false →
      Effect before process after next
  | commits {after : CreditDatabase} {next : CreditProcess} {added : List CreditSpend} :
      after.rows.Sound → after.rows.spends = before.rows.spends ++ added →
      process.holds = true → next.holds = false → Effect before process after next

/-- The effect of a statement, with what the call knows after it. -/
def Moves (before : CreditDatabase) (process : CreditProcess)
    (result : CreditDatabase × CreditProcess) : Prop :=
  Effect before process result.1 result.2 ∧ Fits result.1.rows result.2

variable {database : CreditDatabase} {process : CreditProcess}
  {result : CreditDatabase × CreditProcess}

theorem rollbackGrant_moves (held : process.holds = true) :
    Moves database process (rollbackGrant database) :=
  ⟨.leaves rfl held rfl, trivial⟩

theorem rollbackSpend_moves {after : CreditDatabase} (same : after.rows = database.rows)
    (held : process.holds = true) (spend : Spend) (error : CreditError) :
    Moves database process (rollbackSpend after spend error) := by
  refine ⟨.leaves same held rfl, ?_⟩
  intro row ended
  cases ended

theorem lockForGrant_moves {grant : Grant}
    (moved : lockForGrant database grant = some result) :
    Moves database (.lockingGrant grant) result := by
  unfold lockForGrant at moved
  cases found : database.rows.account with
  | none =>
      rw [found] at moved
      cases moved
      exact ⟨.quiet rfl rfl rfl, trivial⟩
  | some account =>
      rw [found] at moved
      simp only at moved
      split_ifs at moved with waiting
      cases moved
      refine ⟨.enters rfl (Bool.eq_false_iff.mpr waiting) rfl, ?_⟩
      change account = database.rows.account.getD newAccount
      rw [found, Option.getD_some]

theorem insertAccount_moves {grant : Grant}
    (moved : insertAccount database grant = some result) :
    Moves database (.inserting grant) result := by
  unfold insertAccount at moved
  cases found : database.rows.account with
  | none =>
      rw [found] at moved
      simp only at moved
      split_ifs at moved with waiting
      cases moved
      exact ⟨.enters rfl (Bool.eq_false_iff.mpr waiting) rfl, found⟩
  | some account =>
      rw [found] at moved
      cases moved
      exact ⟨.quiet rfl rfl rfl, trivial⟩

theorem relock_moves {grant : Grant} {inserted : Bool}
    (fits : Fits database.rows (.relocking grant inserted))
    (moved : relock database grant inserted = some result) :
    Moves database (.relocking grant inserted) result := by
  unfold relock at moved
  cases inserted with
  | true =>
      cases moved
      refine ⟨.quiet rfl rfl rfl, ?_⟩
      have missing : database.rows.account = none := fits
      change newAccount = database.rows.account.getD newAccount
      rw [missing, Option.getD_none]
  | false =>
      cases found : database.rows.account with
      | none =>
          rw [found] at moved
          cases moved
          exact ⟨.quiet rfl rfl rfl, trivial⟩
      | some account =>
          rw [found] at moved
          simp only at moved
          split_ifs at moved with waiting
          cases moved
          refine ⟨.enters rfl (Bool.eq_false_iff.mpr waiting) rfl, ?_⟩
          change account = database.rows.account.getD newAccount
          rw [found, Option.getD_some]

theorem updateGranted_moves {grant : Grant} {account : CreditAccount}
    (fits : Fits database.rows (.crediting grant account)) :
    Moves database (.crediting grant account) (updateGranted database grant account) := by
  have read : account = database.rows.current := fits
  unfold updateGranted
  cases valid : (account.credit grant.amount).changeset with
  | none => exact rollbackGrant_moves rfl
  | some updated =>
      refine ⟨.quiet rfl rfl rfl, ?_⟩
      change updated = database.rows.current.credit grant.amount
      rw [(CreditAccount.changeset_eq_some valid).1, read]

theorem insertEntry_moves (sound : database.rows.Sound) {grant : Grant}
    {account : CreditAccount} (fits : Fits database.rows (.entering grant account)) :
    Moves database (.entering grant account) (insertEntry database grant account) := by
  have credited : account = database.rows.current.credit grant.amount := fits
  unfold insertEntry
  cases valid : grant.entry with
  | none => exact rollbackGrant_moves rfl
  | some entry =>
      simp only
      split_ifs with accepted
      · refine ⟨.quiet rfl rfl rfl, ?_⟩
        rw [credited]
        exact sound.commit_grant grant.positive (CreditLedgerEntry.changeset_eq_some valid)
          accepted
      · exact rollbackGrant_moves rfl

theorem lockForSpend_moves {spend : Spend}
    (moved : lockForSpend database spend = some result) :
    Moves database (.lockingSpend spend) result := by
  unfold lockForSpend at moved
  cases found : database.rows.account with
  | none =>
      rw [found] at moved
      cases moved
      refine ⟨.quiet rfl rfl rfl, ?_⟩
      intro row ended
      cases ended
  | some account =>
      have read : database.rows.current = account := by
        rw [Rows.current, found, Option.getD_some]
      rw [found] at moved
      simp only at moved
      split_ifs at moved with waiting low
      · cases moved
        refine ⟨.quiet rfl (Bool.eq_false_iff.mpr waiting).symm rfl, ?_⟩
        intro row ended
        cases ended
      · cases moved
        refine ⟨.enters rfl (Bool.eq_false_iff.mpr waiting) rfl, read.symm, ?_⟩
        change spend.amount ≤ database.rows.current.balance
        rw [read]
        exact Int.not_lt.mp low

theorem updateSpent_moves {spend : Spend} {account : CreditAccount}
    (fits : Fits database.rows (.debiting spend account)) :
    Moves database (.debiting spend account) (updateSpent database spend account) := by
  obtain ⟨read, covered⟩ := fits
  unfold updateSpent
  cases valid : (account.debit spend.amount).changeset with
  | none => exact rollbackSpend_moves rfl rfl spend .raised
  | some updated =>
      refine ⟨.quiet rfl rfl rfl, ?_, covered⟩
      rw [(CreditAccount.changeset_eq_some valid).1, read]

theorem charges_of_row {spend : Spend} {id : Nat} {row : CreditSpend}
    (valid : spend.row id = some row) : Charges row spend.toSpendCall := by
  obtain ⟨_, action, cast⟩ := CreditSpend.changeset_eq_some valid
  intro key given visible
  refine ⟨action, ?_⟩
  have same : spend.idempotencyKey = some key := given
  rw [cast, same, castText_of_visible visible]

theorem insertSpend_moves {spend : Spend} {account : CreditAccount}
    (fits : Fits database.rows (.charging spend account)) :
    Moves database (.charging spend account) (insertSpend database spend account) := by
  obtain ⟨debited, covered⟩ := fits
  unfold insertSpend
  cases valid : spend.row database.nextSpendId with
  | none => exact rollbackSpend_moves rfl rfl spend .raised
  | some row =>
      simp only
      split_ifs with accepted
      · refine ⟨.quiet rfl rfl rfl, debited, covered, ?_, charges_of_row valid,
          acceptsSpend_iff accepted⟩
        exact (CreditSpend.changeset_eq_some valid).1
      · apply rollbackSpend_moves
        · rfl
        · rfl

theorem insertSpendEntry_moves (sound : database.rows.Sound) {spend : Spend}
    {account : CreditAccount} {row : CreditSpend}
    (fits : Fits database.rows (.recording spend account row)) :
    Moves database (.recording spend account row)
      (insertSpendEntry database spend account row) := by
  obtain ⟨debited, covered, charged, charges, fresh⟩ := fits
  unfold insertSpendEntry
  cases valid : spend.entry row with
  | none => exact rollbackSpend_moves rfl rfl spend .raised
  | some entry =>
      simp only
      split_ifs with accepted
      · refine ⟨.quiet rfl rfl rfl, ?_, charges⟩
        rw [debited]
        exact sound.commit_spend covered charged fresh
          (CreditLedgerEntry.changeset_eq_some valid) accepted
      · exact rollbackSpend_moves rfl rfl spend .raised

theorem getBy_ok_some {α : Type} {rows : List α} {matching : α → Bool} {row : α}
    (found : getBy rows matching = .ok (some row)) : row ∈ rows ∧ matching row = true := by
  unfold getBy at found
  split at found
  · cases found
  · next only =>
      cases found
      apply List.mem_filter.mp
      rw [only]
      exact List.mem_singleton_self row
  · cases found

theorem existingSpend_ok_some {rows : Rows} {call : SpendCall} {row : CreditSpend}
    (found : existingSpend rows call = .ok (some row)) : row ∈ rows.spends ∧ Charges row call := by
  unfold existingSpend at found
  cases given : call.idempotencyKey with
  | none =>
      rw [given] at found
      cases found
  | some key =>
      rw [given] at found
      simp only at found
      split_ifs at found with blank
      · cases found
      · obtain ⟨member, matching⟩ := getBy_ok_some found
        rw [Bool.and_eq_true] at matching
        refine ⟨member, ?_⟩
        intro other same _
        rw [given] at same
        cases same
        exact ⟨eq_of_beq matching.1, eq_of_beq matching.2⟩

theorem beginGrant_fits (rows : Rows) (call : GrantCall) :
    Fits rows (beginGrant call) ∧ (beginGrant call).holds = false := by
  unfold beginGrant
  split_ifs
  · exact ⟨trivial, rfl⟩
  · exact ⟨trivial, rfl⟩

theorem beginCall_fits (rows : Rows) (call : CreditCall) :
    Fits rows (beginCall call) ∧ (beginCall call).holds = false := by
  cases call with
  | grant call => exact beginGrant_fits rows call
  | grantOnce call => exact ⟨trivial, rfl⟩
  | spend call =>
      unfold beginCall beginSpend
      simp only
      split_ifs
      · exact ⟨trivial, rfl⟩
      · refine ⟨?_, rfl⟩
        intro row ended
        cases ended

theorem proceed_moves (sound : database.rows.Sound) (fits : Fits database.rows process)
    (moved : proceed database process = some result) : Moves database process result := by
  cases process with
  | idle => cases moved
  | granted _ => cases moved
  | spent _ _ => cases moved
  | lookingForGrant call =>
      simp only [proceed] at moved
      split at moved
      · cases moved
        exact ⟨.quiet rfl rfl rfl, trivial⟩
      · cases moved
        obtain ⟨fits, free⟩ := beginGrant_fits database.rows call
        exact ⟨.quiet rfl rfl free, fits⟩
      · cases moved
        exact ⟨.quiet rfl rfl rfl, trivial⟩
  | lockingGrant grant => exact lockForGrant_moves moved
  | inserting grant => exact insertAccount_moves moved
  | relocking grant inserted => exact relock_moves fits moved
  | crediting grant account =>
      cases moved
      exact updateGranted_moves fits
  | entering grant account =>
      cases moved
      exact insertEntry_moves sound fits
  | committingGrant account entry =>
      cases moved
      have after : (database.rows.commit account entry []).Sound := fits
      exact ⟨.commits after rfl rfl rfl, trivial⟩
  | lookingForSpend spend =>
      simp only [proceed] at moved
      split at moved
      · next found =>
          cases moved
          refine ⟨.quiet rfl rfl rfl, ?_⟩
          intro row ended
          cases ended
          exact existingSpend_ok_some found
      · cases moved
        exact ⟨.quiet rfl rfl rfl, trivial⟩
      · cases moved
        refine ⟨.quiet rfl rfl rfl, ?_⟩
        intro row ended
        cases ended
  | lockingSpend spend => exact lockForSpend_moves moved
  | debiting spend account =>
      cases moved
      exact updateSpent_moves fits
  | charging spend account =>
      cases moved
      exact insertSpend_moves fits
  | recording spend account row =>
      cases moved
      exact insertSpendEntry_moves sound fits
  | committingSpend call account row entry =>
      cases moved
      obtain ⟨after, charges⟩ := fits
      refine ⟨.commits after rfl rfl rfl, ?_⟩
      intro other ended
      cases ended
      exact ⟨List.mem_append_right _ (List.mem_singleton_self _), charges⟩

theorem failed_ended {ended : CreditProcess} (failed : process.failed = some ended) :
    (∀ rows, Fits rows ended) ∧ ended.holds = false := by
  cases process <;> cases failed
  all_goals
    refine ⟨?_, rfl⟩
    intro rows
    try trivial
  all_goals
    intro row result
    cases result

theorem abort_moves (moved : abort database process = some result) :
    Moves database process result := by
  unfold abort at moved
  obtain ⟨ended, failed, same⟩ := Option.map_eq_some_iff.mp moved
  obtain ⟨fits, free⟩ := failed_ended failed
  cases same
  refine ⟨?_, fits _⟩
  cases held : process.holds with
  | true => exact .leaves rfl held free
  | false => exact .quiet rfl rfl (free.trans held.symm)

theorem react_moves {action : CreditAction} (sound : database.rows.Sound)
    (fits : Fits database.rows process) (moved : react database action process = some result) :
    Moves database process result := by
  cases action with
  | call call =>
      cases process with
      | idle =>
          cases moved
          obtain ⟨fits, free⟩ := beginCall_fits database.rows call
          exact ⟨.quiet rfl rfl free, fits⟩
      | _ => cases moved
  | proceed => exact proceed_moves sound fits moved
  | fail => exact abort_moves moved

structure CreditSystem.Consistent (system : CreditSystem) : Prop where
  sound : system.shared.rows.Sound
  fits : ∀ id, Fits system.shared.rows (system.process id)
  single : Interleaving.AtMostOne (fun process => process.holds = true) system
  locked : ∀ id, (system.process id).holds = true → system.shared.locked = true

theorem empty_consistent : CreditSystem.empty.Consistent where
  sound := ⟨rfl, rfl, rfl, Int.le_refl 0, .nil, .nil⟩
  fits _ := trivial
  single := by
    intro first second held
    cases held
  locked := by
    intro id held
    cases held

theorem Fits.grow {rows grown : Rows} {added : List CreditSpend} (fits : Fits rows process)
    (free : process.holds = false) (appended : grown.spends = rows.spends ++ added) :
    Fits grown process := by
  cases process with
  | spent call result =>
      intro row ended
      obtain ⟨member, charges⟩ := fits row ended
      refine ⟨?_, charges⟩
      rw [appended]
      exact List.mem_append_left _ member
  | relocking grant inserted =>
      cases inserted with
      | true => cases free
      | false => trivial
  | idle => trivial
  | lookingForGrant _ => trivial
  | lockingGrant _ => trivial
  | inserting _ => trivial
  | lookingForSpend _ => trivial
  | lockingSpend _ => trivial
  | granted _ => trivial
  | _ => cases free

theorem move_consistent {system : CreditSystem} (consistent : system.Consistent) {id : Nat}
    {after : CreditDatabase} {next : CreditProcess}
    (moves : Moves system.shared (system.process id) (after, next)) :
    CreditSystem.Consistent (system.move id after next) := by
  obtain ⟨effect, known⟩ := moves
  have alone : (system.process id).holds = true →
      ∀ other, other ≠ id → (system.process other).holds = false := by
    intro held other distinct
    by_contra holding
    apply distinct
    exact consistent.single other id (Bool.of_not_eq_false holding) held
  have released : ∀ taken : Prop, next.holds = false → (system.process id).holds = true →
      ∀ other, ((system.move id after next).process other).holds = true → taken := by
    intro taken free held other holding
    by_cases same : other = id
    · rw [same, Interleaving.process_move_self, free] at holding
      cases holding
    · rw [Interleaving.process_move_other same, alone held other same] at holding
      cases holding
  have unchanged : after.rows = system.shared.rows →
      ∀ other, Fits after.rows ((system.move id after next).process other) := by
    intro rows
    apply Interleaving.forall_move
    · intro other
      rw [rows]
      exact consistent.fits other
    · exact known
  cases effect with
  | quiet rows locked holds =>
      change after.rows = system.shared.rows at rows
      refine ⟨?_, unchanged rows, consistent.single.move ?_, ?_⟩
      · rw [Interleaving.shared_move, rows]
        exact consistent.sound
      · intro held
        rwa [← holds]
      · intro other holding
        change after.locked = true
        rw [show after.locked = system.shared.locked from locked]
        by_cases same : other = id
        · rw [same, Interleaving.process_move_self] at holding
          exact consistent.locked id (holds ▸ holding)
        · rw [Interleaving.process_move_other same] at holding
          exact consistent.locked other holding
  | enters rows free taken =>
      change after.rows = system.shared.rows at rows
      refine ⟨?_, unchanged rows, Interleaving.AtMostOne.enter ?_, fun _ _ => taken⟩
      · rw [Interleaving.shared_move, rows]
        exact consistent.sound
      · intro other holding
        have held := consistent.locked other holding
        rw [free] at held
        cases held
  | leaves rows held free =>
      change after.rows = system.shared.rows at rows
      refine ⟨?_, unchanged rows, consistent.single.move fun _ => held,
        released _ free held⟩
      rw [Interleaving.shared_move, rows]
      exact consistent.sound
  | commits sound appended held free =>
      refine ⟨sound, ?_, consistent.single.move fun _ => held, released _ free held⟩
      intro other
      by_cases same : other = id
      · rw [same, Interleaving.process_move_self]
        exact known
      · rw [Interleaving.process_move_other same]
        exact (consistent.fits other).grow (alone held other same) appended

theorem act_consistent {system : CreditSystem} (consistent : system.Consistent)
    (label : Nat × CreditAction) :
    CreditSystem.Consistent (Interleaving.act react system label) := by
  rcases Interleaving.act_cases react system label with ⟨_, still⟩ | ⟨after, next, moved, result⟩
  · rw [still]
    exact consistent
  · rw [result]
    exact move_consistent consistent
      (react_moves consistent.sound (consistent.fits label.1) moved)

theorem after_consistent (labels : List (Nat × CreditAction)) :
    (CreditSystem.after labels).Consistent := by
  induction labels using List.reverseRecOn with
  | nil => exact empty_consistent
  | append_singleton labels label ih =>
      rw [CreditSystem.after, List.foldl_append]
      exact act_consistent ih label

def Rows.charged (rows : Rows) (action key : String) : List CreditSpend :=
  rows.spends.filter fun spend =>
    spend.action == action && spend.idempotencyKey == some key

def Rows.grantsOf (rows : Rows) (reason : String) (referenceType referenceId : Option String) :
    List CreditLedgerEntry :=
  rows.ledger.filter fun entry =>
    decide (0 < entry.amount) && entry.reason == reason &&
      entry.referenceType == referenceType && entry.referenceId == referenceId

/-- The account agrees with the ledger, calls with a key of the given kind that succeed have
returned the one spend, and a reference of the given kind is granted once. -/
structure CreditSystem.Accounts (Key : String → Prop)
    (Reference : Option String → Option String → Prop) (system : CreditSystem) : Prop where
  ledger : system.shared.rows.current.balance = ledgerTotal system.shared.rows.ledger
  lifetime : system.shared.rows.current.balance =
    system.shared.rows.current.lifetimeEarned - system.shared.rows.current.lifetimeSpent
  nonnegative : 0 ≤ system.shared.rows.current.balance
  charged : ∀ action key, Key key → (system.shared.rows.charged action key).length ≤ 1
  returned : ∀ first second call other row last key, Key key →
    system.process first = .spent call (.ok row) →
    system.process second = .spent other (.ok last) →
    call.action = other.action → call.idempotencyKey = some key →
    other.idempotencyKey = some key →
    row = last ∧ row ∈ system.shared.rows.spends
  granted : ∀ reason referenceType referenceId, Reference referenceType referenceId →
    (system.shared.rows.grantsOf reason referenceType referenceId).length ≤ 1

/-- The text has a character other than white space. -/
def Visible (text : String) : Prop :=
  trim text ≠ ""

def VisibleReference (referenceType referenceId : Option String) : Prop :=
  (∃ text, referenceType = some text ∧ Visible text) ∧
    ∃ text, referenceId = some text ∧ Visible text

theorem length_filter_le_one {α : Type} {entries : List α} {Related : α → α → Prop}
    {chosen : α → Bool} (pairs : entries.Pairwise fun first second => ¬ Related first second)
    (related : ∀ first second, chosen first = true → chosen second = true →
      Related first second) :
    (entries.filter chosen).length ≤ 1 := by
  have apart := pairs.filter chosen
  cases kept : entries.filter chosen with
  | nil => exact Nat.zero_le 1
  | cons first rest =>
      cases rest with
      | nil => exact Nat.le_refl 1
      | cons second rest =>
          have all : ∀ entry ∈ entries.filter chosen, chosen entry = true :=
            fun entry member => (List.mem_filter.mp member).2
          rw [kept] at apart all
          have distinct := (List.pairwise_cons.mp apart).1 second List.mem_cons_self
          exact absurd (related first second (all first List.mem_cons_self)
            (all second (List.mem_cons_of_mem _ List.mem_cons_self))) distinct

theorem Rows.Sound.charged_le_one {rows : Rows} (sound : rows.Sound) (action key : String) :
    (rows.charged action key).length ≤ 1 := by
  apply length_filter_le_one sound.charges
  intro first second chosen other
  rw [Bool.and_eq_true] at chosen other
  have firstKey := eq_of_beq chosen.2
  have secondKey := eq_of_beq other.2
  refine ⟨?_, ?_, firstKey.trans secondKey.symm⟩
  · rw [firstKey]
    exact Option.some_ne_none key
  · exact (eq_of_beq chosen.1).trans (eq_of_beq other.1).symm

theorem Rows.Sound.grants_le_one {rows : Rows} (sound : rows.Sound) (reason : String)
    {referenceType referenceId : Option String} (typed : referenceType ≠ none)
    (identified : referenceId ≠ none) :
    (rows.grantsOf reason referenceType referenceId).length ≤ 1 := by
  apply length_filter_le_one sound.grants
  intro first second chosen other
  simp only [Bool.and_eq_true, decide_eq_true_eq, beq_iff_eq] at chosen other
  obtain ⟨⟨⟨positive, firstReason⟩, firstType⟩, firstId⟩ := chosen
  obtain ⟨⟨⟨also, secondReason⟩, secondType⟩, secondId⟩ := other
  refine ⟨positive, also, ?_, ?_, firstReason.trans secondReason.symm,
    firstType.trans secondType.symm, firstId.trans secondId.symm⟩
  · rw [firstType]
    exact typed
  · rw [firstId]
    exact identified

theorem Rows.Sound.charge_eq {rows : Rows} (sound : rows.Sound) {action key : String}
    {row last : CreditSpend} (member : row ∈ rows.charged action key)
    (other : last ∈ rows.charged action key) : row = last := by
  have one := sound.charged_le_one action key
  cases kept : rows.charged action key with
  | nil =>
      rw [kept] at member
      cases member
  | cons first rest =>
      rw [kept] at member other one
      have empty : rest = [] := by
        apply List.eq_nil_of_length_eq_zero
        exact Nat.le_zero.mp (Nat.le_of_succ_le_succ one)
      rw [empty] at member other
      rw [List.mem_singleton.mp member, List.mem_singleton.mp other]

/-- For every interleaving of the statements of grants and spends, failures included: the
account is the sum of its ledger, and keys and references that are not blank work once. -/
theorem credits_ledger (labels : List (Nat × CreditAction)) :
    (CreditSystem.after labels).Accounts Visible VisibleReference := by
  have consistent := after_consistent labels
  generalize CreditSystem.after labels = system at consistent
  have sound := consistent.sound
  refine ⟨sound.ledger, sound.lifetime, sound.nonnegative,
    fun action key _ => sound.charged_le_one action key, ?_, ?_⟩
  · intro first second call other row last key visible firstEnd secondEnd actions firstKey secondKey
    have firstFits := consistent.fits first
    have secondFits := consistent.fits second
    rw [firstEnd] at firstFits
    rw [secondEnd] at secondFits
    obtain ⟨firstMember, firstCharges⟩ := firstFits row rfl
    obtain ⟨secondMember, secondCharges⟩ := secondFits last rfl
    obtain ⟨firstAction, firstStored⟩ := firstCharges key firstKey visible
    obtain ⟨secondAction, secondStored⟩ := secondCharges key secondKey visible
    have firstCharged : row ∈ system.shared.rows.charged call.action key := by
      apply List.mem_filter.mpr
      simp [firstMember, firstAction, firstStored]
    have secondCharged : last ∈ system.shared.rows.charged call.action key := by
      apply List.mem_filter.mpr
      simp [secondMember, secondAction, secondStored, actions]
    exact ⟨sound.charge_eq firstCharged secondCharged, firstMember⟩
  · intro reason referenceType referenceId ⟨⟨_, typed, _⟩, ⟨_, identified, _⟩⟩
    apply sound.grants_le_one reason
    · rw [typed]
      exact Option.some_ne_none _
    · rw [identified]
      exact Option.some_ne_none _

def alone (id : Nat) (call : CreditCall) (statements : Nat) : List (Nat × CreditAction) :=
  (id, .call call) :: List.replicate statements (id, .proceed)

def unkeyedCalls : List (Nat × CreditAction) :=
  alone 0 (.grantOnce ⟨5, "bonus", none, none, none⟩) 7 ++
    alone 1 (.grantOnce ⟨5, "bonus", none, none, none⟩) 5 ++
    alone 2 (.spend ⟨1, "first_dm", "user:2", some " "⟩) 6 ++
    alone 3 (.spend ⟨1, "first_dm", "user:2", some " "⟩) 6

/-- A missing reference is granted twice, and a blank key is charged twice. -/
theorem unkeyed_calls_repeat :
    (¬ ∀ labels, (CreditSystem.after labels).Accounts Visible fun _ _ => True) ∧
      ¬ ∀ labels, (CreditSystem.after labels).Accounts (fun key => key ≠ "") VisibleReference := by
  constructor
  · intro always
    have granted := (always unkeyedCalls).granted "bonus" none none trivial
    revert granted
    decide
  · intro always
    have one : (CreditSystem.after unkeyedCalls).process 2 =
        .spent ⟨1, "first_dm", "user:2", some " "⟩ (.ok ⟨1, 1, "first_dm", "user:2", none⟩) := rfl
    have two : (CreditSystem.after unkeyedCalls).process 3 =
        .spent ⟨1, "first_dm", "user:2", some " "⟩ (.ok ⟨2, 1, "first_dm", "user:2", none⟩) := rfl
    obtain ⟨same, _⟩ := (always unkeyedCalls).returned 2 3 _ _ _ _ " " (by decide) one two rfl
      rfl rfl
    revert same
    decide

end Elektrine.Atomine
