import Skolva.Basic
import Skolva.Sql.RowTrigger

/-! # The accounting tables of `schema.sql`

The tables `accounting_journal` and `accounting_entries` with their CHECK
constraints, keys and row-level triggers, and the effect of one statement on
them. The triggers `set_updated_at` and the audit trigger neither read nor
change a column modelled here, and the columns they maintain are left out.
-/

namespace Skolva.Accounting

/-- A value of a `NUMERIC` column with two decimals: an amount in hundredths, or
`NaN`, which PostgreSQL admits in such a column and orders above every amount. -/
inductive Numeric where
  | cents (amount : Int)
  | nan
  deriving DecidableEq

namespace Numeric

def zero : Numeric := .cents 0

def add : Numeric → Numeric → Numeric
  | .cents left, .cents right => .cents (left + right)
  | _, _ => .nan

/-- PostgreSQL's `<`, with `NaN` equal to itself and above every amount. -/
def lt : Numeric → Numeric → Bool
  | .cents left, .cents right => left < right
  | .cents _, .nan => true
  | .nan, _ => false

/-- `COALESCE(SUM(..), 0)`. -/
def sum (values : List Numeric) : Numeric := values.foldr add zero

/-- Whether a value fits `NUMERIC(precision, 2)`. -/
def fits (precision : Nat) : Numeric → Bool
  | .cents amount => amount.natAbs < 10 ^ precision
  | .nan => true

theorem add_left_comm (first second third : Numeric) :
    first.add (second.add third) = second.add (first.add third) := by
  cases first <;> cases second <;> cases third <;> simp [add, Int.add_left_comm]

/-- A sum does not depend on the order in which the rows are visited. -/
theorem sum_perm {left right : List Numeric} (hperm : left.Perm right) : sum left = sum right := by
  induction hperm with
  | nil => rfl
  | cons value _ ih =>
      simp only [sum, List.foldr_cons] at ih ⊢
      rw [ih]
  | swap first second rest => exact add_left_comm second first _
  | trans _ _ ih₁ ih₂ => exact ih₁.trans ih₂

end Numeric

/-- A row of `accounting_journal`. -/
structure Journal where
  id : Uuid
  referenceType : Option String
  isLocked : Bool
  deletedAt : Option Nat
  deriving DecidableEq

/-- A row of `accounting_entries`. -/
structure Entry where
  id : Uuid
  journalId : Uuid
  accountCode : String
  debit : Numeric
  credit : Numeric
  deletedAt : Option Nat
  deriving DecidableEq

/-- The CHECK on `accounting_journal.reference_type`. -/
def Journal.checks (journal : Journal) : Bool :=
  match journal.referenceType with
  | none => true
  | some reference => [
      "unit", "lease", "ownership", "deposit", "expense_claim",
      "meter_reading", "inventory_item", "document",
      "applicant", "billing_period", "billing_item", "bank_transaction",
      "lendable_item", "lending_record",
      "dunning_notice", "work_event", "warning", "termination"].contains reference

/-- The types and CHECKs of `accounting_entries`: both amounts are `NUMERIC(12,2)`
and not negative, and exactly one of them is positive. -/
def Entry.checks (entry : Entry) : Bool :=
  entry.debit.fits 12 && entry.credit.fits 12 &&
  !entry.debit.lt .zero && !entry.credit.lt .zero &&
  (Numeric.zero.lt entry.debit && entry.credit == .zero ||
    Numeric.zero.lt entry.credit && entry.debit == .zero)

/-- The two tables, with the codes of `accounting_accounts` they refer to. -/
structure Tables where
  accounts : List String
  journals : List Journal
  entries : List Entry
  deriving DecidableEq

/-- The constraints that hold between statements: CHECKs, primary keys and
foreign keys. -/
structure Tables.Constraints (tables : Tables) : Prop where
  journalChecks : ∀ journal ∈ tables.journals, journal.checks = true
  journalKeys : (tables.journals.map Journal.id).Nodup
  entryChecks : ∀ entry ∈ tables.entries, entry.checks = true
  entryKeys : (tables.entries.map Entry.id).Nodup
  journalReference : ∀ entry ∈ tables.entries, entry.journalId ∈ tables.journals.map Journal.id
  accountReference : ∀ entry ∈ tables.entries, entry.accountCode ∈ tables.accounts

instance (tables : Tables) : Decidable tables.Constraints :=
  decidable_of_iff
    ((∀ journal ∈ tables.journals, journal.checks = true) ∧
      (tables.journals.map Journal.id).Nodup ∧
      (∀ entry ∈ tables.entries, entry.checks = true) ∧
      (tables.entries.map Entry.id).Nodup ∧
      (∀ entry ∈ tables.entries, entry.journalId ∈ tables.journals.map Journal.id) ∧
      (∀ entry ∈ tables.entries, entry.accountCode ∈ tables.accounts))
    ⟨fun ⟨h1, h2, h3, h4, h5, h6⟩ => ⟨h1, h2, h3, h4, h5, h6⟩,
      fun ⟨h1, h2, h3, h4, h5, h6⟩ => ⟨h1, h2, h3, h4, h5, h6⟩⟩

/-- A state of the tables between two statements. -/
structure Ledger where
  tables : Tables
  constraints : tables.Constraints

/-- `SELECT is_locked FROM accounting_journal WHERE id = journalId`. -/
def Tables.isLocked (tables : Tables) (journalId : Uuid) : Option Bool :=
  (tables.journals.find? (fun journal => journal.id = journalId)).map Journal.isLocked

/-- The entries of a journal, deleted ones included. -/
def Tables.entriesOf (tables : Tables) (journalId : Uuid) : List Entry :=
  tables.entries.filter (fun entry => entry.journalId = journalId)

/-- The entries of a journal with `deleted_at IS NULL`. -/
def Tables.liveEntriesOf (tables : Tables) (journalId : Uuid) : List Entry :=
  (tables.entriesOf journalId).filter (fun entry => entry.deletedAt = none)

def Tables.sumDebit (tables : Tables) (journalId : Uuid) : Numeric :=
  Numeric.sum ((tables.liveEntriesOf journalId).map Entry.debit)

def Tables.sumCredit (tables : Tables) (journalId : Uuid) : Numeric :=
  Numeric.sum ((tables.liveEntriesOf journalId).map Entry.credit)

/-- Why the database refuses a statement. -/
inductive Refusal where
  | permanentDelete (table : String)
  | journalUnbalanced (debit credit : Numeric)
  | numericOverflow
  | journalLocked
  | uniqueViolation
  | constraintViolation
  deriving DecidableEq

/-- Trigger function `prevent_permanent_delete`. The argument `allowDelete` is
`current_setting('app.allow_delete', true)`. -/
def preventPermanentDelete (allowDelete : Option String) (table : String) : Except Refusal Unit :=
  if allowDelete.getD "" = "1" then .ok ()
  else .error (.permanentDelete table)

/-- Trigger function `accounting_enforce_journal_lock_rules`. The trigger is
declared for updates of `is_locked`, and where that column is not updated the
two rows agree on it and the function accepts. -/
def accountingEnforceJournalLockRules (tables : Tables) (old new : Journal) :
    Except Refusal Unit :=
  if old.isLocked = false ∧ new.isLocked = true then
    let debit := tables.sumDebit new.id
    let credit := tables.sumCredit new.id
    if !(debit.fits 18 && credit.fits 18) then .error .numericOverflow
    else if debit ≠ credit then .error (.journalUnbalanced debit credit)
    else .ok ()
  else .ok ()

/-- Trigger function `accounting_prevent_entry_change_when_locked`. The journal
looked up is `COALESCE(NEW.journal_id, OLD.journal_id)`. -/
def accountingPreventEntryChangeWhenLocked (tables : Tables) (new old : Option Entry) :
    Except Refusal Unit :=
  match (new.map Entry.journalId).or (old.map Entry.journalId) with
  | none => .ok ()
  | some journalId =>
      if tables.isLocked journalId = some true then .error .journalLocked else .ok ()

/-- A primary key is checked as each row is written. -/
def uniqueKey (id : Uuid) (others : List Uuid) : Except Refusal Unit :=
  if id ∈ others then .error .uniqueViolation else .ok ()

/-- One statement on the two tables, over several rows. An update carries the new
row of each row it selects, so it may set any column, keys included. -/
inductive Statement where
  | insertJournals (rows : List Journal)
  | updateJournals (set : Journal → Option Journal)
  | deleteJournals (which : Journal → Bool)
  | insertEntries (rows : List Entry)
  | updateEntries (set : Entry → Option Entry)
  | deleteEntries (which : Entry → Bool)

/-- The row-level work of a statement: triggers and immediate keys, row by row. -/
def changeRows (allowDelete : Option String) (tables : Tables) :
    Statement → Except Refusal Tables
  | .insertJournals rows => do
      let journals ← Sql.insertRows
        (fun filled new => uniqueKey new.id (filled.map Journal.id)) tables.journals rows
      return { tables with journals }
  | .updateJournals set => do
      let journals ← Sql.updateRows set
        (fun changed old new pending => do
          accountingEnforceJournalLockRules tables old new
          uniqueKey new.id ((changed ++ pending).map Journal.id))
        [] tables.journals
      return { tables with journals }
  | .deleteJournals which => do
      let journals ← Sql.deleteRows which
        (fun _ => preventPermanentDelete allowDelete "accounting_journal") [] tables.journals
      return { tables with journals }
  | .insertEntries rows => do
      let entries ← Sql.insertRows
        (fun filled new => do
          accountingPreventEntryChangeWhenLocked tables (some new) none
          uniqueKey new.id (filled.map Entry.id))
        tables.entries rows
      return { tables with entries }
  | .updateEntries set => do
      let entries ← Sql.updateRows set
        (fun changed old new pending => do
          accountingPreventEntryChangeWhenLocked tables (some new) (some old)
          uniqueKey new.id ((changed ++ pending).map Entry.id))
        [] tables.entries
      return { tables with entries }
  | .deleteEntries which => do
      let entries ← Sql.deleteRows which
        (fun old => do
          preventPermanentDelete allowDelete "accounting_entries"
          accountingPreventEntryChangeWhenLocked tables none (some old))
        [] tables.entries
      return { tables with entries }

/-- One statement. The foreign keys are checked once its rows are written, and a
refusal at any point leaves the ledger as it was. -/
def execute (allowDelete : Option String) (ledger : Ledger) (statement : Statement) :
    Except Refusal Ledger :=
  match changeRows allowDelete ledger.tables statement with
  | .error refusal => .error refusal
  | .ok tables =>
      if constraints : tables.Constraints then .ok ⟨tables, constraints⟩
      else .error .constraintViolation

end Skolva.Accounting
