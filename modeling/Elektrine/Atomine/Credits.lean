import Elektrine.Data.Text
import Elektrine.Library.Interleavings

/-!
# Credit rows

The account, the ledger and the spends of one user and credit type, the changesets that a
row passes before it is written, and the conditions of the unique indexes.
-/

namespace Elektrine.Atomine

structure CreditAccount where
  balance : Int
  lifetimeEarned : Int
  lifetimeSpent : Int
deriving DecidableEq, Repr

structure CreditLedgerEntry where
  amount : Int
  reason : String
  action : Option String
  referenceType : Option String
  referenceId : Option String
deriving DecidableEq, Repr

structure CreditSpend where
  id : Nat
  amount : Int
  action : String
  audience : String
  idempotencyKey : Option String
deriving DecidableEq, Repr

structure Rows where
  account : Option CreditAccount
  ledger : List CreditLedgerEntry
  spends : List CreditSpend
deriving DecidableEq, Repr

def castText (value : Option String) : Option String :=
  match value with
  | none => none
  | some text => if trim text = "" then none else some text

def lengthWithin (max : Nat) (value : Option String) : Bool :=
  match value with
  | none => true
  | some text => decide (text.length ≤ max)

def CreditAccount.changeset (account : CreditAccount) : Option CreditAccount :=
  if 0 ≤ account.balance ∧ 0 ≤ account.lifetimeEarned ∧ 0 ≤ account.lifetimeSpent then
    some account
  else none

def CreditLedgerEntry.changeset (amount : Int) (reason : String)
    (action referenceType referenceId : Option String) : Option CreditLedgerEntry :=
  match castText (some reason) with
  | none => none
  | some reason =>
      let entry : CreditLedgerEntry :=
        ⟨amount, reason, castText action, castText referenceType, castText referenceId⟩
      if 1 ≤ entry.reason.length ∧ entry.reason.length ≤ 120 ∧ entry.amount ≠ 0 ∧
          lengthWithin 120 entry.action ∧ lengthWithin 120 entry.referenceType ∧
          lengthWithin 255 entry.referenceId then
        some entry
      else none

def CreditSpend.changeset (id : Nat) (amount : Int) (action audience : String)
    (idempotencyKey : Option String) : Option CreditSpend :=
  match castText (some action), castText (some audience) with
  | some action, some audience =>
      let spend : CreditSpend := ⟨id, amount, action, audience, castText idempotencyKey⟩
      if 0 < spend.amount ∧ 1 ≤ spend.action.length ∧ spend.action.length ≤ 120 ∧
          1 ≤ spend.audience.length ∧ spend.audience.length ≤ 500 ∧
          lengthWithin 255 spend.idempotencyKey then
        some spend
      else none
  | _, _ => none

theorem castText_of_visible {text : String} (visible : trim text ≠ "") :
    castText (some text) = some text :=
  if_neg visible

theorem castText_eq_some {text : String} {cast : String} (kept : castText (some text) = some cast) :
    cast = text := by
  rw [castText] at kept
  split_ifs at kept
  cases kept
  rfl

theorem CreditAccount.changeset_eq_some {account written : CreditAccount}
    (valid : account.changeset = some written) :
    written = account ∧ 0 ≤ account.balance := by
  unfold CreditAccount.changeset at valid
  split_ifs at valid with bounds
  cases valid
  exact ⟨rfl, bounds.1⟩

theorem CreditLedgerEntry.changeset_eq_some {amount : Int} {reason : String}
    {action referenceType referenceId : Option String} {entry : CreditLedgerEntry}
    (valid : changeset amount reason action referenceType referenceId = some entry) :
    entry.amount = amount := by
  unfold changeset at valid
  cases cast : castText (some reason) with
  | none =>
      rw [cast] at valid
      cases valid
  | some text =>
      rw [cast] at valid
      simp only at valid
      split_ifs at valid
      cases valid
      rfl

theorem CreditSpend.changeset_eq_some {id : Nat} {amount : Int} {action audience : String}
    {idempotencyKey : Option String} {spend : CreditSpend}
    (valid : changeset id amount action audience idempotencyKey = some spend) :
    spend.amount = amount ∧ spend.action = action ∧
      spend.idempotencyKey = castText idempotencyKey := by
  unfold changeset at valid
  cases castAction : castText (some action) with
  | none =>
      rw [castAction] at valid
      cases valid
  | some text =>
      cases castAudience : castText (some audience) with
      | none =>
          rw [castAction, castAudience] at valid
          cases valid
      | some other =>
          rw [castAction, castAudience] at valid
          simp only at valid
          split_ifs at valid
          cases valid
          exact ⟨rfl, castText_eq_some castAction, rfl⟩

/-- `atomine_credit_spends_idempotency_index`. -/
def CreditSpend.SameCharge (first second : CreditSpend) : Prop :=
  first.idempotencyKey ≠ none ∧ first.action = second.action ∧
    first.idempotencyKey = second.idempotencyKey

/-- `atomine_credit_ledger_entries_grant_once_index`. -/
def CreditLedgerEntry.SameGrant (first second : CreditLedgerEntry) : Prop :=
  0 < first.amount ∧ 0 < second.amount ∧ first.referenceType ≠ none ∧
    first.referenceId ≠ none ∧ first.reason = second.reason ∧
    first.referenceType = second.referenceType ∧ first.referenceId = second.referenceId

/-- `atomine_credit_ledger_entries_global_proof_claim_index`. -/
def CreditLedgerEntry.SameProofClaim (first second : CreditLedgerEntry) : Prop :=
  0 < first.amount ∧ 0 < second.amount ∧ first.referenceId ≠ none ∧
    first.referenceType = some "atomine_proof_claim" ∧
    first.referenceType = second.referenceType ∧ first.referenceId = second.referenceId

instance (first second : CreditSpend) : Decidable (first.SameCharge second) :=
  inferInstanceAs (Decidable (_ ∧ _))

instance (first second : CreditLedgerEntry) : Decidable (first.SameGrant second) :=
  inferInstanceAs (Decidable (_ ∧ _))

instance (first second : CreditLedgerEntry) : Decidable (first.SameProofClaim second) :=
  inferInstanceAs (Decidable (_ ∧ _))

def Rows.acceptsSpend (rows : Rows) (spend : CreditSpend) : Bool :=
  rows.spends.all fun other => !decide (other.SameCharge spend)

def Rows.acceptsEntry (rows : Rows) (entry : CreditLedgerEntry) : Bool :=
  rows.ledger.all fun other =>
    !decide (other.SameGrant entry) && !decide (other.SameProofClaim entry)

def ledgerTotal : List CreditLedgerEntry → Int
  | [] => 0
  | entry :: rest => entry.amount + ledgerTotal rest

def spendTotal : List CreditSpend → Int
  | [] => 0
  | spend :: rest => spend.amount + spendTotal rest

theorem ledgerTotal_concat (ledger : List CreditLedgerEntry) (entry : CreditLedgerEntry) :
    ledgerTotal (ledger ++ [entry]) = ledgerTotal ledger + entry.amount := by
  induction ledger with
  | nil => simp [ledgerTotal]
  | cons first rest ih => simp only [List.cons_append, ledgerTotal, ih, Int.add_assoc]

theorem spendTotal_concat (spends : List CreditSpend) (spend : CreditSpend) :
    spendTotal (spends ++ [spend]) = spendTotal spends + spend.amount := by
  induction spends with
  | nil => simp [spendTotal]
  | cons first rest ih => simp only [List.cons_append, spendTotal, ih, Int.add_assoc]

end Elektrine.Atomine

/-!
## Granting and spending credits

A call is a process that takes one database statement after the other.  The rows that it has
written are its own until it commits; `FOR UPDATE` and the insertion of the account row make
it the holder of that row, and another call that wants the row waits.  Statements see what is
committed when they run.
-/

namespace Elektrine.Atomine

open Elektrine.Library

inductive CreditError where
  | invalidGrant
  | invalidSpend
  | insufficientCredits
  | raised
deriving DecidableEq, Repr

structure GrantCall where
  amount : Int
  reason : String
  action : Option String
  referenceType : Option String
  referenceId : Option String
deriving DecidableEq, Repr

structure SpendCall where
  amount : Int
  action : String
  audience : String
  idempotencyKey : Option String
deriving DecidableEq, Repr

inductive CreditCall where
  | grant (call : GrantCall)
  | grantOnce (call : GrantCall)
  | spend (call : SpendCall)
deriving DecidableEq, Repr

structure Grant extends GrantCall where
  positive : 0 < amount

structure Spend extends SpendCall where
  positive : 0 < amount

inductive CreditProcess where
  | idle
  /-- `existing_grant`, outside of a transaction. -/
  | lookingForGrant (call : GrantCall)
  | lockingGrant (grant : Grant)
  | inserting (grant : Grant)
  | relocking (grant : Grant) (inserted : Bool)
  | crediting (grant : Grant) (account : CreditAccount)
  | entering (grant : Grant) (account : CreditAccount)
  | committingGrant (account : CreditAccount) (entry : CreditLedgerEntry)
  /-- `existing_spend`, the first statement of the transaction. -/
  | lookingForSpend (spend : Spend)
  | lockingSpend (spend : Spend)
  | debiting (spend : Spend) (account : CreditAccount)
  | charging (spend : Spend) (account : CreditAccount)
  | recording (spend : Spend) (account : CreditAccount) (row : CreditSpend)
  | committingSpend (call : SpendCall) (account : CreditAccount) (row : CreditSpend)
      (entry : CreditLedgerEntry)
  | granted (result : Except CreditError CreditLedgerEntry)
  | spent (call : SpendCall) (result : Except CreditError CreditSpend)

/-- The committed rows, whether a transaction holds the account row, and the sequence of the
spends' ids. -/
structure CreditDatabase where
  rows : Rows
  locked : Bool
  nextSpendId : Nat
deriving DecidableEq, Repr

def CreditDatabase.lock (database : CreditDatabase) : CreditDatabase :=
  { database with locked := true }

def CreditDatabase.unlock (database : CreditDatabase) : CreditDatabase :=
  { database with locked := false }

def Rows.commit (rows : Rows) (account : CreditAccount) (entry : CreditLedgerEntry)
    (spends : List CreditSpend) : Rows :=
  ⟨some account, rows.ledger ++ [entry], rows.spends ++ spends⟩

def CreditDatabase.commit (database : CreditDatabase) (account : CreditAccount)
    (entry : CreditLedgerEntry) (spends : List CreditSpend) : CreditDatabase :=
  { database with rows := database.rows.commit account entry spends, locked := false }

/-- `Repo.get_by`, which raises when several rows match. -/
def getBy {α : Type} (rows : List α) (matching : α → Bool) : Except CreditError (Option α) :=
  match rows.filter matching with
  | [] => .ok none
  | [row] => .ok (some row)
  | _ => .error .raised

def existingSpend (rows : Rows) (call : SpendCall) : Except CreditError (Option CreditSpend) :=
  match call.idempotencyKey with
  | none => .ok none
  | some key =>
      if key = "" then .ok none
      else
        getBy rows.spends fun spend =>
          spend.action == call.action && spend.idempotencyKey == some key

def existingGrant (rows : Rows) (call : GrantCall) :
    Except CreditError (Option CreditLedgerEntry) :=
  match call.referenceType, call.referenceId with
  | some referenceType, some referenceId =>
      getBy rows.ledger fun entry =>
        entry.reason == call.reason && entry.referenceType == some referenceType &&
          entry.referenceId == some referenceId
  | _, _ => .ok none

/-- The guard of `grant`. -/
def beginGrant (call : GrantCall) : CreditProcess :=
  if positive : 0 < call.amount then .lockingGrant ⟨call, positive⟩
  else .granted (.error .invalidGrant)

/-- The guard of `spend`. -/
def beginSpend (call : SpendCall) : CreditProcess :=
  if positive : 0 < call.amount then .lookingForSpend ⟨call, positive⟩
  else .spent call (.error .invalidSpend)

def beginCall : CreditCall → CreditProcess
  | .grant call => beginGrant call
  | .grantOnce call => .lookingForGrant call
  | .spend call => beginSpend call

def newAccount : CreditAccount := ⟨0, 0, 0⟩

def CreditAccount.credit (account : CreditAccount) (amount : Int) : CreditAccount :=
  { account with
    balance := account.balance + amount
    lifetimeEarned := account.lifetimeEarned + amount }

def CreditAccount.debit (account : CreditAccount) (amount : Int) : CreditAccount :=
  { account with
    balance := account.balance - amount
    lifetimeSpent := account.lifetimeSpent + amount }

def Grant.entry (grant : Grant) : Option CreditLedgerEntry :=
  CreditLedgerEntry.changeset grant.amount grant.reason grant.action grant.referenceType
    grant.referenceId

def Spend.row (spend : Spend) (id : Nat) : Option CreditSpend :=
  CreditSpend.changeset id spend.amount spend.action spend.audience spend.idempotencyKey

def Spend.entry (spend : Spend) (row : CreditSpend) : Option CreditLedgerEntry :=
  CreditLedgerEntry.changeset (-spend.amount) ("spend:" ++ spend.action) (some spend.action)
    (some "atomine_credit_spend") (some row.id.repr)

/-- A statement of `grant` raises: the transaction is rolled back. -/
def rollbackGrant (database : CreditDatabase) : CreditDatabase × CreditProcess :=
  (database.unlock, .granted (.error .raised))

/-- A statement of `spend` raises, or the function gives the reason itself. -/
def rollbackSpend (database : CreditDatabase) (spend : Spend) (error : CreditError) :
    CreditDatabase × CreditProcess :=
  (database.unlock, .spent spend.toSpendCall (.error error))

/-- The first `lock_account` of `get_or_insert_account!`. -/
def lockForGrant (database : CreditDatabase) (grant : Grant) :
    Option (CreditDatabase × CreditProcess) :=
  match database.rows.account with
  | none => some (database, .inserting grant)
  | some account =>
      if database.locked then none else some (database.lock, .crediting grant account)

def insertAccount (database : CreditDatabase) (grant : Grant) :
    Option (CreditDatabase × CreditProcess) :=
  match database.rows.account with
  | some _ => some (database, .relocking grant false)
  | none => if database.locked then none else some (database.lock, .relocking grant true)

/-- The second `lock_account`, which sees the own insert; without a row it returns nil and
its caller raises. -/
def relock (database : CreditDatabase) (grant : Grant) (inserted : Bool) :
    Option (CreditDatabase × CreditProcess) :=
  match inserted, database.rows.account with
  | true, _ => some (database, .crediting grant newAccount)
  | false, some account =>
      if database.locked then none else some (database.lock, .crediting grant account)
  | false, none => some (database, .granted (.error .raised))

def updateGranted (database : CreditDatabase) (grant : Grant) (account : CreditAccount) :
    CreditDatabase × CreditProcess :=
  match (account.credit grant.amount).changeset with
  | some updated => (database, .entering grant updated)
  | none => rollbackGrant database

def insertEntry (database : CreditDatabase) (grant : Grant) (account : CreditAccount) :
    CreditDatabase × CreditProcess :=
  match grant.entry with
  | some entry =>
      if database.rows.acceptsEntry entry then (database, .committingGrant account entry)
      else rollbackGrant database
  | none => rollbackGrant database

/-- `lock_account` of `spend_fresh!` with the check of the balance. -/
def lockForSpend (database : CreditDatabase) (spend : Spend) :
    Option (CreditDatabase × CreditProcess) :=
  match database.rows.account with
  | none => some (database, .spent spend.toSpendCall (.error .insufficientCredits))
  | some account =>
      if database.locked then none
      else if account.balance < spend.amount then
        some (rollbackSpend database spend .insufficientCredits)
      else some (database.lock, .debiting spend account)

def updateSpent (database : CreditDatabase) (spend : Spend) (account : CreditAccount) :
    CreditDatabase × CreditProcess :=
  match (account.debit spend.amount).changeset with
  | some updated => (database, .charging spend updated)
  | none => rollbackSpend database spend .raised

def insertSpend (database : CreditDatabase) (spend : Spend) (account : CreditAccount) :
    CreditDatabase × CreditProcess :=
  match spend.row database.nextSpendId with
  | some row =>
      let drawn := { database with nextSpendId := database.nextSpendId + 1 }
      if database.rows.acceptsSpend row then (drawn, .recording spend account row)
      else rollbackSpend drawn spend .raised
  | none => rollbackSpend database spend .raised

def insertSpendEntry (database : CreditDatabase) (spend : Spend) (account : CreditAccount)
    (row : CreditSpend) : CreditDatabase × CreditProcess :=
  match spend.entry row with
  | some entry =>
      if database.rows.acceptsEntry entry then
        (database, .committingSpend spend.toSpendCall account row entry)
      else rollbackSpend database spend .raised
  | none => rollbackSpend database spend .raised

/-- The next statement of a call; `none` while it waits for the account row. -/
def proceed (database : CreditDatabase) : CreditProcess → Option (CreditDatabase × CreditProcess)
  | .idle | .granted _ | .spent _ _ => none
  | .lookingForGrant call =>
      match existingGrant database.rows call with
      | .ok (some entry) => some (database, .granted (.ok entry))
      | .ok none => some (database, beginGrant call)
      | .error error => some (database, .granted (.error error))
  | .lockingGrant grant => lockForGrant database grant
  | .inserting grant => insertAccount database grant
  | .relocking grant inserted => relock database grant inserted
  | .crediting grant account => some (updateGranted database grant account)
  | .entering grant account => some (insertEntry database grant account)
  | .committingGrant account entry =>
      some (database.commit account entry [], .granted (.ok entry))
  | .lookingForSpend spend =>
      match existingSpend database.rows spend.toSpendCall with
      | .ok (some row) => some (database, .spent spend.toSpendCall (.ok row))
      | .ok none => some (database, .lockingSpend spend)
      | .error error => some (database, .spent spend.toSpendCall (.error error))
  | .lockingSpend spend => lockForSpend database spend
  | .debiting spend account => some (updateSpent database spend account)
  | .charging spend account => some (insertSpend database spend account)
  | .recording spend account row => some (insertSpendEntry database spend account row)
  | .committingSpend call account row entry =>
      some (database.commit account entry [row], .spent call (.ok row))

def CreditProcess.holds : CreditProcess → Bool
  | .relocking _ inserted => inserted
  | .crediting _ _ | .entering _ _ | .committingGrant _ _ | .debiting _ _ | .charging _ _
  | .recording _ _ _ | .committingSpend _ _ _ _ => true
  | _ => false

/-- How a call ends whose statement fails for another reason: the connection is lost, or the
database refuses the row. -/
def CreditProcess.failed : CreditProcess → Option CreditProcess
  | .idle | .granted _ | .spent _ _ => none
  | .lookingForGrant _ | .lockingGrant _ | .inserting _ | .relocking _ _ | .crediting _ _
  | .entering _ _ | .committingGrant _ _ => some (.granted (.error .raised))
  | .lookingForSpend spend | .lockingSpend spend | .debiting spend _ | .charging spend _
  | .recording spend _ _ => some (.spent spend.toSpendCall (.error .raised))
  | .committingSpend call _ _ _ => some (.spent call (.error .raised))

def abort (database : CreditDatabase) (process : CreditProcess) :
    Option (CreditDatabase × CreditProcess) :=
  process.failed.map fun ended =>
    (if process.holds then database.unlock else database, ended)

inductive CreditAction where
  | call (call : CreditCall)
  | proceed
  | fail
deriving DecidableEq, Repr

def react (database : CreditDatabase) (action : CreditAction) (process : CreditProcess) :
    Option (CreditDatabase × CreditProcess) :=
  match action with
  | .call call =>
      match process with
      | .idle => some (database, beginCall call)
      | _ => none
  | .proceed => proceed database process
  | .fail => abort database process

abbrev CreditSystem := Interleaving CreditDatabase CreditProcess

def CreditSystem.empty : CreditSystem :=
  ⟨⟨⟨none, [], []⟩, false, 1⟩, fun _ => .idle⟩

def CreditSystem.after (labels : List (Nat × CreditAction)) : CreditSystem :=
  labels.foldl (Interleaving.act react) .empty

end Elektrine.Atomine
