import Skolva.Basic

/-! # The audit trigger of `schema.sql`

The audited tables, as far as their triggers look at them, one statement on a table, and
the trigger that writes `audit_logs`. What else refuses a statement (checks, foreign keys
and the triggers of one table) is a parameter.
-/

namespace Skolva.Audit

/-! ## Rows -/

/-- A column of a row, as `to_jsonb` shows it. -/
inductive Json where
  | null
  | string (text : String)
  | literal (text : String)
  | timestamp (instant : Nat)
  deriving DecidableEq

/-- `->>`. Of a timestamp, no more is looked at than that it has a text. -/
def Json.text : Json → Option String
  | .null => none
  | .string text | .literal text => some text
  | .timestamp instant => some (toString instant)

/-- A row, by the names of its columns. Under any other name there is `null`. -/
abbrev Row := String → Json

/-! ## Tables -/

structure Table where
  name : String
  /-- The columns that triggers look at. -/
  columns : List String
  primaryKey : String
  /-- `set_updated_at` runs before an update. -/
  setsUpdatedAt : Bool
  /-- `prevent_permanent_delete` runs before a delete. -/
  blocksDelete : Bool
  deriving DecidableEq

/-- Most tables are keyed by `id`, and are guarded against deletes if they have
`deleted_at`. -/
def Table.withId (name : String) (columns : List String) : Table where
  name := name
  columns := "id" :: columns
  primaryKey := "id"
  setsUpdatedAt := columns.contains "updated_at"
  blocksDelete := columns.contains "deleted_at"

/-- A table of one type of unit, keyed by the unit. -/
def Table.ofUnits (name : String) : Table where
  name := name
  columns := ["unit_id", "deleted_at"]
  primaryKey := "unit_id"
  setsUpdatedAt := false
  blocksDelete := false

def garages : Table := .ofUnits "garages"

def parcels : Table := .ofUnits "parcels"

/-- The tables of the loop that creates the audit triggers. -/
def auditedTables : List Table := [
  .withId "users" ["anonymized_at", "updated_at", "deleted_at"],
  .withId "user_contact_points" ["updated_at", "deleted_at"],
  .withId "groups" ["updated_at", "deleted_at"],
  .withId "units" ["updated_at", "deleted_at"],
  garages,
  parcels,
  .withId "unit_ownerships" ["updated_at", "deleted_at"],
  .withId "leases" ["status", "updated_at", "deleted_at"],
  .withId "applicants" ["status", "updated_at", "deleted_at"],
  .withId "documents" ["updated_at", "deleted_at"],
  .withId "meter_readings" ["updated_at", "deleted_at"],
  .withId "accounting_journal" ["updated_at", "deleted_at"],
  .withId "accounting_entries" ["updated_at", "deleted_at"],
  .withId "billing_periods" ["status", "updated_at", "deleted_at"],
  .withId "billing_items" ["updated_at", "deleted_at"],
  .withId "billing_snapshots" [],
  .withId "inventory_items" ["updated_at", "deleted_at"],
  .withId "deposits" ["status", "updated_at", "deleted_at"],
  .withId "work_logs" ["updated_at", "deleted_at"],
  .withId "expense_claims" ["status", "updated_at", "deleted_at"],
  .withId "lendable_items" ["updated_at", "deleted_at"],
  .withId "lending_records" ["status", "updated_at", "deleted_at"],
  .withId "bank_accounts" ["updated_at", "deleted_at"],
  .withId "bank_transactions" ["updated_at", "deleted_at"],
  .withId "bank_categorization_rules" ["updated_at", "deleted_at"],
  .withId "shared_links" ["deleted_at"],
  .withId "webhook_subscriptions" ["updated_at", "deleted_at"],
  .withId "work_hour_requirements" ["updated_at"],
  .withId "unit_work_hour_obligations" ["updated_at", "deleted_at"],
  .withId "user_work_hour_adjustments" ["updated_at", "deleted_at"],
  .withId "work_task_catalog" ["updated_at", "deleted_at"],
  .withId "work_events" ["status", "updated_at", "deleted_at"],
  .withId "work_event_participants" ["status", "updated_at"],
  .withId "legal_provisions" ["updated_at"],
  .withId "incidents" ["status", "updated_at", "deleted_at"],
  .withId "incident_witnesses" [],
  .withId "dunning_notices" ["status", "updated_at", "deleted_at"],
  .withId "warnings" ["status", "updated_at", "deleted_at"],
  .withId "terminations" ["status", "updated_at", "deleted_at"]]

/-! ## The type `uuid` -/

/-- The value of a hexadecimal digit. -/
def hexDigit (digit : Char) : Option Nat :=
  if '0' ≤ digit ∧ digit ≤ '9' then some (digit.toNat - '0'.toNat)
  else if 'a' ≤ digit ∧ digit ≤ 'f' then some (digit.toNat - 'a'.toNat + 10)
  else if 'A' ≤ digit ∧ digit ≤ 'F' then some (digit.toNat - 'A'.toNat + 10)
  else none

/-- Read so many bytes of two digits each. -/
def readBytes : (count : Nat) → (digits : List Char) → (value : Nat) → Option (Nat × List Char)
  | 0, digits, value => some (value, digits)
  | count + 1, high :: low :: digits, value => do
      let high ← hexDigit high
      let low ← hexDigit low
      -- After each second byte but the last there can be a hyphen.
      let digits := if count % 2 = 0 ∧ 0 < count ∧ digits.head? = some '-' then digits.tail
        else digits
      readBytes count digits (value * 256 + high * 16 + low)
  | _, _, _ => none

/-- The cast of a text to `uuid`. -/
def uuidIn (text : String) : Option Uuid :=
  let braced := text.toList.head? = some '{'
  match readBytes 16 (if braced then text.toList.tail else text.toList) 0 with
  | some (value, rest) =>
      if rest = (if braced then ['}'] else []) then some (BitVec.ofNat 128 value) else none
  | none => none

/-! ## Statements -/

/-- The settings of a session that triggers read, as `current_setting(…, true)`. -/
structure Settings where
  actorUserID : Option String
  allowDelete : Option String

inductive Refusal where
  | permanentDelete (table : String)
  | constraintViolation
  | invalidUuid (text : String)
  | noField (record field : String)
  | notNullViolation
  | foreignKeyViolation
  deriving DecidableEq

/-- What happens to one row. -/
inductive RowChange where
  | insert (new : Row)
  | update (old new : Row)
  | delete (old : Row)

namespace RowChange

def old : RowChange → Option Row
  | insert _ => none
  | update old _ | delete old => some old

def new : RowChange → Option Row
  | insert new | update _ new => some new
  | delete _ => none

/-- The row that is affected, as it is afterwards if it is still there. -/
def row : RowChange → Row
  | insert new | update _ new => new
  | delete old => old

end RowChange

/-- A statement on one table. An update carries the new row of each row it selects. -/
inductive Statement where
  | insert (rows : List Row)
  | update (set : Row → Option Row)
  | delete (which : Row → Bool)

/-- Trigger function `set_updated_at`. -/
def setUpdatedAt (now : Nat) (new : Row) : Row :=
  Function.update new "updated_at" (.timestamp now)

/-- The row an update writes. -/
def Table.beforeUpdate (table : Table) (now : Nat) (new : Row) : Row :=
  if table.setsUpdatedAt then setUpdatedAt now new else new

namespace Statement

def changes (table : Table) (now : Nat) (rows : List Row) : Statement → List RowChange
  | insert new => new.map .insert
  | update set => rows.filterMap fun old =>
      (set old).map fun new => .update old (table.beforeUpdate now new)
  | delete which => (rows.filter which).map .delete

def rowsAfter (table : Table) (now : Nat) (rows : List Row) : Statement → List Row
  | insert new => rows ++ new
  | update set => rows.map fun old => ((set old).map (table.beforeUpdate now)).getD old
  | delete which => rows.filter fun old => !which old

def isDelete : Statement → Bool
  | delete _ => true
  | _ => false

end Statement

/-- The primary key: its texts are there, and distinct. -/
def Table.keyValid (table : Table) (rows : List Row) : Bool :=
  rows.all (fun row => (row table.primaryKey).text.isSome) &&
    decide (rows.map fun row => (row table.primaryKey).text).Nodup

section Execution

-- The checks, foreign keys and other triggers of the table, on its rows and the changes.
variable (others : List Row → List RowChange → Bool)
variable (settings : Settings) (now : Nat) (table : Table) (rows : List Row)

/-- A statement as it would be without the audit trigger. -/
def executeUnaudited (statement : Statement) : Except Refusal (List Row × List RowChange) :=
  let changes := statement.changes table now rows
  let after := statement.rowsAfter table now rows
  if statement.isDelete && !changes.isEmpty && table.blocksDelete &&
      settings.allowDelete.getD "" ≠ "1" then
    .error (.permanentDelete table.name)
  else if table.keyValid after && others rows changes then .ok (after, changes)
  else .error .constraintViolation

end Execution

/-! ## The trigger -/

/-- The values of `audit_logs.action`. -/
inductive AuditAction where
  | insert
  | update
  | delete
  | login
  | statusChange
  | anonymize
  deriving DecidableEq

/-- A row of `audit_logs`. -/
structure AuditLog where
  tableName : String
  recordPk : String
  action : AuditAction
  oldData : Option Row
  newData : Option Row
  actorUserId : Option Uuid
  createdAt : Nat

/-- The tables whose changes of `status` have an action of their own. -/
def statusTables : List String := [
  "leases", "deposits", "expense_claims", "applicants", "lending_records",
  "dunning_notices", "warnings", "terminations", "incidents", "work_events"]

/-- `NULLIF(current_setting('app.actor_user_id', true), '')::UUID`. -/
def auditActor (settings : Settings) : Except Refusal (Option Uuid) :=
  match settings.actorUserID with
  | none => .ok none
  | some text =>
      if text = "" then .ok none
      else
        match uuidIn text with
        | some actor => .ok (some actor)
        | none => .error (.invalidUuid text)

/-- The field `id` of the row that is written, as text. -/
def recordID (table : Table) (new : Row) : Except Refusal (Option String) :=
  if table.columns.contains "id" then .ok (new "id").text else .error (.noField "new" "id")

/-- The action of an update. -/
def updateAction (table : Table) (old new : Row) : AuditAction :=
  if (old "deleted_at").text = none ∧ (new "deleted_at").text ≠ none then .delete
  else if table.name ∈ statusTables ∧ (old "status").text ≠ (new "status").text then .statusChange
  else if table.name = "users" ∧ (old "anonymized_at").text = none ∧
      (new "anonymized_at").text ≠ none then .anonymize
  else .update

/-- `INSERT INTO audit_logs`: the key is not null, and the actor is a user. -/
def insertAuditLog (users : List Uuid) (now : Nat) (table : Table) (recordPk : Option String)
    (action : AuditAction) (oldData newData : Option Row) (actor : Option Uuid) :
    Except Refusal AuditLog :=
  match recordPk with
  | none => .error .notNullViolation
  | some recordPk =>
      if actor.all fun id => id ∈ users then
        .ok ⟨table.name, recordPk, action, oldData, newData, actor, now⟩
      else .error .foreignKeyViolation

/-- Trigger function `audit_trigger_func`. -/
def auditTriggerFunc (settings : Settings) (users : List Uuid) (now : Nat) (table : Table)
    (change : RowChange) : Except Refusal (List AuditLog) := do
  let actor ← auditActor settings
  match change with
  | .insert new =>
      let record ← recordID table new
      let log ← insertAuditLog users now table record .insert none (some new) actor
      return [log]
  | .update old new =>
      let record ← recordID table new
      let log ← insertAuditLog users now table record (updateAction table old new) (some old)
        (some new) actor
      return [log]
  | .delete _ => return []

/-- The audit trigger of a table: `AFTER INSERT OR UPDATE … FOR EACH ROW`. -/
def auditTrigger (settings : Settings) (users : List Uuid) (now : Nat) (table : Table) :
    List RowChange → Except Refusal (List AuditLog)
  | [] => .ok []
  | change :: changes => do
      let logs ← match change with
        | .insert _ | .update _ _ => auditTriggerFunc settings users now table change
        | .delete _ => .ok []
      let rest ← auditTrigger settings users now table changes
      return logs ++ rest

/-- The identifiers in `users` that the foreign key of the actor sees. -/
def usersAfter (users : List Uuid) (table : Table) (after : List Row) : List Uuid :=
  if table.name = "users" then after.filterMap fun row => (row "id").text.bind uuidIn else users

/-- A statement, with the rows it adds to `audit_logs`. -/
def execute (others : List Row → List RowChange → Bool) (settings : Settings) (users : List Uuid)
    (now : Nat) (table : Table) (rows : List Row) (statement : Statement) :
    Except Refusal (List Row × List AuditLog) := do
  let (after, changes) ← executeUnaudited others settings now table rows statement
  let logs ← auditTrigger settings (usersAfter users table after) now table changes
  return (after, logs)

end Skolva.Audit
