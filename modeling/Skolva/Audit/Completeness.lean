import Skolva.Audit.Schema
import Skolva.Sql.RowTrigger
import Mathlib.Data.List.Forall2

/-! # Which statements are audited

A statement that the rest of the schema admits should complete and leave one row in
`audit_logs` for each row it affects.
-/

namespace Skolva.Audit

/-- The entry records the change, by the actor of the session. -/
structure Records (settings : Settings) (table : Table) (change : RowChange) (log : AuditLog) :
    Prop where
  tableName : log.tableName = table.name
  key : (change.row table.primaryKey).text = some log.recordPk
  old : log.oldData = change.old
  new : log.newData = change.new
  actor : auditActor settings = .ok log.actorUserId

section Statement

variable {others : List Row → List RowChange → Bool} {settings : Settings} {users : List Uuid}
  {now : Nat} {table : Table} {rows after : List Row} {changes : List RowChange}

/-- The statement completes, with one entry for each affected row. -/
def Audited (others : List Row → List RowChange → Bool) (settings : Settings) (users : List Uuid)
    (now : Nat) (table : Table) (rows : List Row) (statement : Statement)
    (after : List Row) (changes : List RowChange) : Prop :=
  ∃ logs, execute others settings users now table rows statement = .ok (after, logs) ∧
    List.Forall₂ (Records settings table) changes logs

/-- The setting of the actor is empty, or the identifier of one of these users. -/
def Settings.ActorAmong (settings : Settings) (users : List Uuid) : Prop :=
  ∀ text ∈ settings.actorUserID, text ≠ "" → ∃ actor ∈ users, uuidIn text = some actor

/-- The trigger can record what the statement does: nothing, or inserts and updates of a
table with a column `id`, by an actor that is a user. -/
def Auditable (settings : Settings) (users : List Uuid) (table : Table) (statement : Statement)
    (changes : List RowChange) : Prop :=
  changes = [] ∨ statement.isDelete = false ∧ "id" ∈ table.columns ∧ settings.ActorAmong users

/-! ## The catalogue -/

/-- A table with a column `id` is keyed by it. -/
theorem primaryKey_of_id : ∀ table ∈ auditedTables, "id" ∈ table.columns →
    table.primaryKey = "id" := by
  decide

/-- The tables of the loop that have no column `id`. -/
theorem no_id_iff : ∀ table ∈ auditedTables, "id" ∉ table.columns ↔
    table = garages ∨ table = parcels := by
  decide

/-! ## The trigger on one row -/

theorem auditActor_ok_iff (settings : Settings) (users : List Uuid) :
    (∃ actor, auditActor settings = .ok actor ∧ actor.all (fun id => id ∈ users) = true) ↔
      settings.ActorAmong users := by
  unfold auditActor Settings.ActorAmong
  cases settings.actorUserID with
  | none => simp
  | some text =>
      by_cases hempty : text = ""
      · simp [hempty]
      · cases huuid : uuidIn text with
        | none => simp [hempty, huuid]
        | some actor => simp [hempty, huuid]

/-- The entry for a row that is written, if there can be one. -/
theorem auditTriggerFunc_ok {change : RowChange} (hnew : change.new = some change.row)
    (hkey : table.primaryKey = "id") (hrow : (change.row table.primaryKey).text.isSome = true)
    (hid : "id" ∈ table.columns) (hactor : settings.ActorAmong users) :
    ∃ log, auditTriggerFunc settings users now table change = .ok [log] ∧
      Records settings table change log := by
  obtain ⟨actor, hsetting, hknown⟩ := (auditActor_ok_iff settings users).mpr hactor
  obtain ⟨record, hrecord⟩ := Option.isSome_iff_exists.mp hrow
  have hfield : recordID table change.row = .ok (some record) := by
    rw [hkey] at hrecord
    simp [recordID, hid, hrecord]
  have hlog : ∀ action oldData newData, insertAuditLog users now table (some record) action oldData
      newData actor = .ok ⟨table.name, record, action, oldData, newData, actor, now⟩ := by
    intro action oldData newData
    exact if_pos hknown
  cases change with
  | insert new =>
      refine ⟨⟨table.name, record, .insert, none, some new, actor, now⟩, ?_,
        ⟨rfl, hrecord, rfl, rfl, hsetting⟩⟩
      have hfield : recordID table new = .ok (some record) := hfield
      simp only [auditTriggerFunc, hsetting, hfield, hlog, bind, Except.bind, pure, Except.pure]
  | update old new =>
      refine ⟨⟨table.name, record, updateAction table old new, some old, some new, actor, now⟩, ?_,
        ⟨rfl, hrecord, rfl, rfl, hsetting⟩⟩
      have hfield : recordID table new = .ok (some record) := hfield
      simp only [auditTriggerFunc, hsetting, hfield, hlog, bind, Except.bind, pure, Except.pure]
  | delete old => cases hnew

/-- Where the trigger has written an entry, it could. -/
theorem auditable_of_ok {change : RowChange} (hnew : change.new = some change.row)
    {logs : List AuditLog} (hlogs : auditTriggerFunc settings users now table change = .ok logs) :
    "id" ∈ table.columns ∧ settings.ActorAmong users := by
  have hsteps : ∃ actor record log, auditActor settings = .ok actor ∧
      recordID table change.row = .ok record ∧ ∃ action oldData,
        insertAuditLog users now table record action oldData (some change.row) actor = .ok log := by
    cases change with
    | insert new =>
        obtain ⟨actor, hactor, hrest⟩ := Sql.ok_of_bind hlogs
        obtain ⟨record, hrecord, hrest⟩ := Sql.ok_of_bind hrest
        obtain ⟨log, hlog, -⟩ := Sql.ok_of_bind hrest
        exact ⟨actor, record, log, hactor, hrecord, _, _, hlog⟩
    | update old new =>
        obtain ⟨actor, hactor, hrest⟩ := Sql.ok_of_bind hlogs
        obtain ⟨record, hrecord, hrest⟩ := Sql.ok_of_bind hrest
        obtain ⟨log, hlog, -⟩ := Sql.ok_of_bind hrest
        exact ⟨actor, record, log, hactor, hrecord, _, _, hlog⟩
    | delete old => cases hnew
  obtain ⟨actor, record, log, hactor, hrecord, action, oldData, hlog⟩ := hsteps
  constructor
  · unfold recordID at hrecord
    split at hrecord
    next hid => exact List.contains_iff_mem.mp hid
    · cases hrecord
  · apply (auditActor_ok_iff settings users).mp
    refine ⟨actor, hactor, ?_⟩
    unfold insertAuditLog at hlog
    split at hlog
    · cases hlog
    · split at hlog
      next hknown => exact hknown
      · cases hlog

/-! ## The trigger on all rows -/

/-- Nothing but inserts and updates. -/
def Written (changes : List RowChange) : Prop := ∀ change ∈ changes, change.new = some change.row

theorem auditTrigger_deletes (hdeletes : ∀ change ∈ changes, change.new = none) :
    auditTrigger settings users now table changes = .ok [] := by
  induction changes with
  | nil => rfl
  | cons change changes ih =>
      rw [List.forall_mem_cons] at hdeletes
      cases change with
      | insert | update => cases hdeletes.1
      | delete old =>
          simp only [auditTrigger, ih hdeletes.2, bind, Except.bind, pure, Except.pure,
            List.append_nil]

theorem auditTrigger_cons {change : RowChange} (hnew : change.new = some change.row)
    (changes : List RowChange) :
    auditTrigger settings users now table (change :: changes) = (do
      let logs ← auditTriggerFunc settings users now table change
      let rest ← auditTrigger settings users now table changes
      return logs ++ rest) := by
  cases change with
  | insert | update => rfl
  | delete => cases hnew

/-- Each row that is written has its entry. -/
theorem auditTrigger_ok (hkey : table.primaryKey = "id") (hwritten : Written changes)
    (hrows : ∀ change ∈ changes, (change.row table.primaryKey).text.isSome = true)
    (hid : "id" ∈ table.columns) (hactor : settings.ActorAmong users) :
    ∃ logs, auditTrigger settings users now table changes = .ok logs ∧
      List.Forall₂ (Records settings table) changes logs := by
  induction changes with
  | nil => exact ⟨[], rfl, .nil⟩
  | cons change changes ih =>
      unfold Written at hwritten
      rw [List.forall_mem_cons] at hwritten hrows
      obtain ⟨log, hlog, hrecords⟩ := auditTriggerFunc_ok hwritten.1 hkey hrows.1 hid hactor
      obtain ⟨logs, hlogs, hrest⟩ := ih hwritten.2 hrows.2
      refine ⟨log :: logs, ?_, .cons hrecords hrest⟩
      rw [auditTrigger_cons hwritten.1, hlog, hlogs]
      rfl

/-! ## The statement -/

/-- What an admitted statement has done. -/
theorem executeUnaudited_ok {statement : Statement}
    (hadmitted : executeUnaudited others settings now table rows statement = .ok (after, changes)) :
    after = statement.rowsAfter table now rows ∧ changes = statement.changes table now rows ∧
      table.keyValid after = true := by
  unfold executeUnaudited at hadmitted
  dsimp only at hadmitted
  split at hadmitted
  · cases hadmitted
  · split at hadmitted
    next hvalid =>
        obtain ⟨rfl, rfl⟩ := Prod.mk.inj (Except.ok.inj hadmitted)
        rw [Bool.and_eq_true] at hvalid
        exact ⟨rfl, rfl, hvalid.1⟩
    · cases hadmitted

variable (now table rows) in
/-- A statement deletes rows, or writes rows that are there afterwards. -/
theorem changes_cases (statement : Statement) :
    (statement.isDelete = true ∧
      ∀ change ∈ statement.changes table now rows, change.new = none) ∨
    statement.isDelete = false ∧ ∀ change ∈ statement.changes table now rows,
      change.new = some change.row ∧ change.row ∈ statement.rowsAfter table now rows := by
  cases statement with
  | insert new =>
      refine .inr ⟨rfl, ?_⟩
      intro change hchange
      obtain ⟨row, hrow, rfl⟩ := List.mem_map.mp hchange
      exact ⟨rfl, List.mem_append_right _ hrow⟩
  | update set =>
      refine .inr ⟨rfl, ?_⟩
      intro change hchange
      obtain ⟨old, hold, hset⟩ := List.mem_filterMap.mp hchange
      obtain ⟨new, hnew, rfl⟩ := Option.map_eq_some_iff.mp hset
      refine ⟨rfl, List.mem_map.mpr ⟨old, hold, ?_⟩⟩
      simp [hnew, RowChange.row]
  | delete which =>
      refine .inl ⟨rfl, ?_⟩
      intro change hchange
      obtain ⟨row, hrow, rfl⟩ := List.mem_map.mp hchange
      rfl

variable (users) in
theorem execute_eq {statement : Statement}
    (hadmitted : executeUnaudited others settings now table rows statement = .ok (after, changes)) :
    execute others settings users now table rows statement =
      (auditTrigger settings (usersAfter users table after) now table changes).map
        fun logs => (after, logs) := by
  unfold execute
  rw [hadmitted]
  change (auditTrigger settings (usersAfter users table after) now table changes >>=
    fun logs => pure (after, logs)) = _
  cases auditTrigger settings (usersAfter users table after) now table changes <;> rfl

/-- A statement that the rest of the schema admits is audited exactly if it affects no row,
or inserts into or updates a table with a column `id`, by an actor that is a user. -/
theorem audited_iff (htable : table ∈ auditedTables) {statement : Statement}
    (hadmitted : executeUnaudited others settings now table rows statement = .ok (after, changes)) :
    Audited others settings users now table rows statement after changes ↔
      Auditable settings (usersAfter users table after) table statement changes := by
  obtain ⟨hafter, hchanges, hvalid⟩ := executeUnaudited_ok hadmitted
  have hexecute := execute_eq users hadmitted
  unfold Audited Auditable
  rw [hexecute]
  constructor
  · rintro ⟨logs, hlogs, hrecords⟩
    cases htrigger : auditTrigger settings (usersAfter users table after) now table changes with
    | error refusal =>
        rw [htrigger] at hlogs
        cases hlogs
    | ok written =>
        rw [htrigger] at hlogs
        obtain ⟨-, rfl⟩ := Prod.mk.inj (Except.ok.inj hlogs)
        cases changes with
        | nil => exact .inl rfl
        | cons change changes =>
            right
            rcases changes_cases now table rows statement with
              ⟨-, hdeletes⟩ | ⟨hwrites, hnew⟩
            · rw [← hchanges] at hdeletes
              rw [auditTrigger_deletes hdeletes] at htrigger
              obtain rfl := Except.ok.inj htrigger
              cases hrecords
            · rw [← hchanges] at hnew
              have hfirst := (hnew change List.mem_cons_self).1
              rw [auditTrigger_cons hfirst] at htrigger
              obtain ⟨entry, hentry, -⟩ := Sql.ok_of_bind htrigger
              exact ⟨hwrites, auditable_of_ok hfirst hentry⟩
  · rintro (rfl | ⟨hwrites, hid, hactor⟩)
    · exact ⟨[], rfl, .nil⟩
    · rcases changes_cases now table rows statement with
        ⟨hdeletes, -⟩ | ⟨-, hnew⟩
      · rw [hdeletes] at hwrites
        cases hwrites
      · rw [← hchanges, ← hafter] at hnew
        have hrows : ∀ change ∈ changes, (change.row table.primaryKey).text.isSome = true := by
          unfold Table.keyValid at hvalid
          rw [Bool.and_eq_true, List.all_eq_true] at hvalid
          intro change hchange
          exact hvalid.1 _ (hnew change hchange).2
        obtain ⟨logs, hlogs, hrecords⟩ := auditTrigger_ok (primaryKey_of_id table htable hid)
          (fun change hchange => (hnew change hchange).1) hrows hid hactor
        refine ⟨logs, ?_, hrecords⟩
        rw [hlogs]
        rfl

end Statement

namespace Sample

/-- No actor is set, and nothing may be deleted. -/
def settings : Settings := ⟨none, none⟩

/-- The row of a new group. -/
def group : Row := fun column =>
  if column = "id" then .string "00000000-0000-0000-0000-000000000001"
  else if column = "name" then .string "Vorstand"
  else .null

def groups : Table := .withId "groups" ["updated_at", "deleted_at"]

/-- A new group is audited. -/
theorem audited_group :
    Audited (fun _ _ => true) settings [] 0 groups [] (.insert [group]) [group]
      [.insert group] :=
  (audited_iff (by decide) rfl).mpr (.inr ⟨rfl, by decide, nofun⟩)

/-- The row of a new garage of the unit 1. -/
def garage : Row := fun column =>
  if column = "unit_id" then .string "00000000-0000-0000-0000-000000000001"
  else if column = "nr" then .string "G1"
  else if column = "area_sqm" then .literal "12.50"
  else .null

/-- The CHECK, the NOT NULL constraints and the foreign key of `garages`, and its index over
the numbers of live rows. -/
def garageConstraints (units : List Uuid) (rows : List Row) (changes : List RowChange) : Bool :=
  changes.all fun change => change.new.all fun new =>
    ((new "unit_id").text.bind uuidIn).any (· ∈ units) &&
    (new "nr").text.isSome &&
    (new "area_sqm").text.any (fun text =>
      text.toList.all (· ≠ '-') && text.toList.any fun digit => '1' ≤ digit ∧ digit ≤ '9') &&
    rows.all fun other => (other "deleted_at").text.isSome || (other "nr").text ≠ (new "nr").text

end Sample

/-- A new garage is refused by its audit trigger. -/
theorem not_forall_audited :
    ¬∀ (others : List Row → List RowChange → Bool) (settings : Settings) (users : List Uuid)
      (now : Nat) (table : Table) (rows : List Row) (statement : Statement) (after : List Row)
      (changes : List RowChange), table ∈ auditedTables →
      executeUnaudited others settings now table rows statement = .ok (after, changes) →
      Audited others settings users now table rows statement after changes := by
  intro hall
  have hadmitted : executeUnaudited (Sample.garageConstraints [1]) Sample.settings 0
      garages [] (.insert [Sample.garage]) = .ok ([Sample.garage], [.insert Sample.garage]) := rfl
  obtain ⟨logs, hlogs, -⟩ := hall _ _ [] _ _ _ _ _ _ (by decide) hadmitted
  cases hlogs

end Skolva.Audit
