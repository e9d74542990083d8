import Skolva.Audit.Order
import Skolva.Sql.Query

/-! # What the revision report shows

`view_revision_report` masks the name of an editor who is anonymised. It also returns the
rows that the audit trigger has stored. Two histories of statements are compared that
differ in what the report should not show.
-/

namespace Skolva.Audit

/-! ## The view -/

/-- `jsonb_diff`, of rows with these columns. -/
def jsonbDiff (columns : List String) (old new : Option Row) : List (String × Json × Json) :=
  let keys := if old.isNone && new.isNone then [] else columns
  keys.filterMap fun key =>
    if old.map (· key) = new.map (· key) then none
    else some (key, (old.map (· key)).getD .null, (new.map (· key)).getD .null)

/-- A row of `view_revision_report`. -/
structure RevisionEntry where
  zeitpunkt : Nat
  bearbeiter : Option String
  bereich : String
  aktion : AuditAction
  datensatzID : String
  geaenderteWerte : List (String × Json × Json)
  standVorher : Option Row
  standNachher : Option Row

/-- The primary key of `users`. -/
def userID (user : Row) : Option Uuid := (user "id").text.bind uuidIn

/-- The editor of an entry, from the row of `users` it is joined with. -/
def bearbeiter (users : List Row) (actor : Option Uuid) : Option String := do
  let actor ← actor
  let user ← users.find? fun user => userID user = some actor
  if (user "anonymized_at").text.isSome then some "[ANONYMISIERT]"
  else
    let lastName ← (user "last_name").text
    let firstName ← (user "first_name").text
    some (lastName ++ ", " ++ firstName)

/-- The audited tables by their names, and `audit_logs`. -/
structure Snapshot where
  rows : String → List Row
  logs : List AuditLog

namespace Snapshot

def empty : Snapshot := ⟨fun _ => [], []⟩

def users (snapshot : Snapshot) : List Row := snapshot.rows "users"

end Snapshot

section View

-- The columns of each table.
variable (columns : String → List String)

def revisionEntry (users : List Row) (log : AuditLog) : RevisionEntry where
  zeitpunkt := log.createdAt
  bearbeiter := bearbeiter users log.actorUserId
  bereich := log.tableName
  aktion := log.action
  datensatzID := log.recordPk
  geaenderteWerte := jsonbDiff (columns log.tableName) log.oldData log.newData
  standVorher := log.oldData
  standNachher := log.newData

/-- `ORDER BY al.created_at DESC`. Entries of one instant stay as they were written. -/
def newestFirst (one other : AuditLog) : Bool := decide (other.createdAt ≤ one.createdAt)

def viewRevisionReport (snapshot : Snapshot) : List RevisionEntry :=
  (snapshot.logs.mergeSort newestFirst).map (revisionEntry columns snapshot.users)

end View

/-- The columns `bearbeiter`, `geaenderte_werte`, `stand_vorher` and `stand_nachher`. -/
def RevisionEntry.shown (entry : RevisionEntry) :
    Option String × List (String × Json × Json) × Option Row × Option Row :=
  (entry.bearbeiter, entry.geaenderteWerte, entry.standVorher, entry.standNachher)

/-! ## Histories -/

/-- A committed statement, by the rows it has changed. -/
structure Commit where
  settings : Settings
  /-- The start of its transaction. -/
  since : Nat
  table : Table
  changes : List RowChange

/-- The users that are deleted for good. -/
def Commit.deletedUsers (commit : Commit) : List Uuid :=
  if commit.table.name = "users" then
    commit.changes.filterMap fun change =>
      if change.new.isNone then change.old.bind userID else none
  else []

/-- `ON DELETE SET NULL` of `actor_user_id`. -/
def unlinkActor (deleted : List Uuid) (log : AuditLog) : AuditLog :=
  { log with actorUserId := log.actorUserId.filter fun actor => actor ∉ deleted }

def Snapshot.write (snapshot : Snapshot) (commit : Commit) (after : List Row)
    (logs : List AuditLog) : Snapshot where
  rows := Function.update snapshot.rows commit.table.name after
  logs := snapshot.logs.map (unlinkActor commit.deletedUsers) ++ logs

/-- The committed statements on audited tables, latest first, and what they lead to. -/
inductive History : List Commit → Snapshot → Prop where
  | nil : History [] .empty
  | cons {history : List Commit} {snapshot : Snapshot} {commit : Commit}
      {others : List Row → List RowChange → Bool} {statement : Statement} {after : List Row}
      {logs : List AuditLog} (hhistory : History history snapshot)
      (htable : commit.table ∈ auditedTables)
      (hadmitted : executeUnaudited others commit.settings commit.since commit.table
        (snapshot.rows commit.table.name) statement = .ok (after, commit.changes))
      (hexecute : execute others commit.settings (snapshot.users.filterMap userID) commit.since
        commit.table (snapshot.rows commit.table.name) statement = .ok (after, logs)) :
      History (commit :: history) (snapshot.write commit after logs)

/-! ## What the report should not show -/

/-- The names, the address, and the vector for the search that is generated from them. -/
def nameColumns : List String := ["first_name", "last_name", "email", "search_vector"]

/-- Two rows of a user differ in the password hash at most, and if the user is to be
erased, in the name and the address by email before the anonymisation. -/
def UserAlike (erased : String → Prop) (one other : Row) : Prop :=
  ∀ column, one column = other column ∨ column = "password_hash" ∨
    column ∈ nameColumns ∧ (∃ key ∈ keyText one, erased key) ∧ (one "anonymized_at").text = none

structure RowChange.Alike (erased : String → Prop) (one other : RowChange) : Prop where
  old : Option.Rel (UserAlike erased) one.old other.old
  new : Option.Rel (UserAlike erased) one.new other.new

/-- The statements are the same but for what users have in these columns. -/
structure Commit.Alike (erased : String → Prop) (one other : Commit) : Prop where
  settings : one.settings = other.settings
  since : one.since = other.since
  table : one.table = other.table
  users : one.table.name = "users" →
    List.Forall₂ (RowChange.Alike erased) one.changes other.changes
  others : one.table.name ≠ "users" → one.changes = other.changes

/-- The users that are anonymised. -/
def Snapshot.Anonymised (snapshot : Snapshot) (key : String) : Prop :=
  ∃ user ∈ snapshot.users, keyText user = some key ∧ (user "anonymized_at").text ≠ none

/-! ## The rows after a statement -/

section Rows

variable {others : List Row → List RowChange → Bool} {settings : Settings} {users : List Uuid}
  {now : Nat} {table : Table} {rows after : List Row} {changes : List RowChange}

/-- The text of the primary key. -/
def Table.keyOf (table : Table) (row : Row) : Option String := (row table.primaryKey).text

/-- What has become of a row. -/
def fate (table : Table) (changes : List RowChange) (row : Row) : Option Row :=
  match changes.find? fun change => change.old.map table.keyOf = some (table.keyOf row) with
  | none => some row
  | some change => change.new

/-- The rows that are new. -/
def inserted (changes : List RowChange) : List Row :=
  changes.filterMap fun change => if change.old.isNone then change.new else none

/-- The change of a row is found by its key. -/
theorem fate_eq (hkeys : (rows.map table.keyOf).Nodup) {f : Row → Option RowChange}
    (hf : ∀ row change, f row = some change → change.old = some row) {row : Row}
    (hmem : row ∈ rows) :
    fate table (rows.filterMap f) row = match f row with
      | none => some row
      | some change => change.new := by
  have hkeyOf : ∀ row change, f row = some change →
      change.old.map table.keyOf = some (table.keyOf row) := by
    intro row change hchange
    rw [hf row change hchange, Option.map_some]
  have hfound := Sql.find?_filterMap_key table.keyOf _ hkeyOf hkeys hmem
  unfold fate
  rw [hfound]

theorem inserted_filterMap {f : Row → Option RowChange}
    (hf : ∀ row change, f row = some change → change.old = some row) :
    inserted (rows.filterMap f) = [] := by
  unfold inserted
  apply List.filterMap_eq_nil_iff.mpr
  intro change hchange
  obtain ⟨row, -, hrow⟩ := List.mem_filterMap.mp hchange
  simp [hf row change hrow]

/-- The changes say what the statement leaves. -/
theorem rowsAfter_eq (hkeys : (rows.map table.keyOf).Nodup) (statement : Statement) :
    statement.rowsAfter table now rows =
      rows.filterMap (fate table (statement.changes table now rows)) ++
        inserted (statement.changes table now rows) := by
  cases statement with
  | insert new =>
      have hfate : fate table (new.map RowChange.insert) = some := by
        funext row
        have hnone : (new.map RowChange.insert).find? (fun change =>
            change.old.map table.keyOf = some (table.keyOf row)) = none := by
          simp [RowChange.old]
        unfold fate
        rw [hnone]
      have hinserted : inserted (new.map RowChange.insert) = new := by
        simp [inserted, RowChange.old, RowChange.new, List.filterMap_map]
      simp [Statement.rowsAfter, Statement.changes, hfate, hinserted]
  | update set =>
      have hold : ∀ row change, ((set row).map fun new => RowChange.update row
          (table.beforeUpdate now new)) = some change → change.old = some row := by
        intro row change hchange
        obtain ⟨new, -, rfl⟩ := Option.map_eq_some_iff.mp hchange
        rfl
      have hfate : ∀ row ∈ rows, fate table (Statement.changes table now rows (.update set)) row =
          some (((set row).map (table.beforeUpdate now)).getD row) := by
        intro row hrow
        simp only [Statement.changes, fate_eq hkeys hold hrow]
        cases set row <;> rfl
      rw [List.filterMap_congr hfate, Statement.changes, inserted_filterMap hold]
      simp [Statement.rowsAfter]
  | delete which =>
      let gone := fun row => if which row then some (RowChange.delete row) else none
      have hchanges : Statement.changes table now rows (.delete which) = rows.filterMap gone := by
        simp only [Statement.changes, gone]
        induction rows with
        | nil => rfl
        | cons row rest ih =>
            simp only [List.map_cons, List.nodup_cons] at hkeys
            by_cases hrow : which row <;> simp [hrow, ih hkeys.2]
      have hold : ∀ row change, gone row = some change → change.old = some row := by
        intro row change hchange
        simp only [gone, Option.ite_none_right_eq_some, Option.some.injEq] at hchange
        obtain ⟨-, rfl⟩ := hchange
        rfl
      have hfate : ∀ row ∈ rows, fate table (rows.filterMap gone) row =
          Option.guard (fun row => !which row) row := by
        intro row hrow
        rw [fate_eq hkeys hold hrow]
        by_cases hwhich : which row <;> simp [gone, hwhich, Option.guard, RowChange.new]
      rw [hchanges, List.filterMap_congr hfate, inserted_filterMap hold]
      simp [Statement.rowsAfter]

end Rows

/-! ## The entries of a history -/

section Entries

variable {settings : Settings} {users : List Uuid} {now : Nat} {table : Table}

/-- The rows that an entry stores. -/
def image (log : AuditLog) : Option Row × Option Row := (log.oldData, log.newData)

/-- The rows that the trigger is called with. -/
def written (changes : List RowChange) : List (Option Row × Option Row) :=
  changes.filterMap fun change => change.new.map fun new => (change.old, some new)

/-- The rows that the trigger has been called with, oldest first. -/
def images : List Commit → List (Option Row × Option Row)
  | [] => []
  | commit :: history => images history ++ written commit.changes

/-- The entry is one of this statement. -/
structure Entered (settings : Settings) (now : Nat) (table : Table) (log : AuditLog) : Prop where
  createdAt : log.createdAt = now
  tableName : log.tableName = table.name
  actor : auditActor settings = .ok log.actorUserId

theorem insertAuditLog_ok {record : Option String} {action : AuditAction}
    {oldData newData : Option Row} {actor : Option Uuid} {log : AuditLog}
    (hlog : insertAuditLog users now table record action oldData newData actor = .ok log)
    (hactor : auditActor settings = .ok actor) :
    image log = (oldData, newData) ∧ Entered settings now table log := by
  unfold insertAuditLog at hlog
  cases record with
  | none => cases hlog
  | some record =>
      dsimp only at hlog
      split at hlog
      · obtain rfl := Except.ok.inj hlog
        exact ⟨rfl, rfl, rfl, hactor⟩
      · cases hlog

theorem auditTriggerFunc_logs {change : RowChange} {logs : List AuditLog}
    (hlogs : auditTriggerFunc settings users now table change = .ok logs) :
    logs.map image = written [change] ∧ ∀ log ∈ logs, Entered settings now table log := by
  obtain ⟨actor, hactor, hlogs⟩ := Sql.ok_of_bind hlogs
  cases change with
  | insert new =>
      obtain ⟨record, -, hlogs⟩ := Sql.ok_of_bind hlogs
      obtain ⟨log, hlog, hlogs⟩ := Sql.ok_of_bind hlogs
      obtain rfl := Except.ok.inj hlogs
      obtain ⟨himage, hentered⟩ := insertAuditLog_ok hlog hactor
      exact ⟨by simp [himage, written, RowChange.old, RowChange.new], by simpa using hentered⟩
  | update old new =>
      obtain ⟨record, -, hlogs⟩ := Sql.ok_of_bind hlogs
      obtain ⟨log, hlog, hlogs⟩ := Sql.ok_of_bind hlogs
      obtain rfl := Except.ok.inj hlogs
      obtain ⟨himage, hentered⟩ := insertAuditLog_ok hlog hactor
      exact ⟨by simp [himage, written, RowChange.old, RowChange.new], by simpa using hentered⟩
  | delete old =>
      obtain rfl := Except.ok.inj hlogs
      exact ⟨rfl, by simp⟩

/-- The trigger stores the rows it is called with. -/
theorem auditTrigger_logs {changes : List RowChange} {logs : List AuditLog}
    (hlogs : auditTrigger settings users now table changes = .ok logs) :
    logs.map image = written changes ∧ ∀ log ∈ logs, Entered settings now table log := by
  induction changes generalizing logs with
  | nil =>
      obtain rfl := Except.ok.inj hlogs
      exact ⟨rfl, by simp⟩
  | cons change changes ih =>
      have hparts : ∃ first rest, (first.map image = written [change] ∧
          ∀ log ∈ first, Entered settings now table log) ∧
          auditTrigger settings users now table changes = .ok rest ∧ logs = first ++ rest := by
        cases change with
        | insert | update =>
            rw [auditTrigger_cons rfl] at hlogs
            obtain ⟨first, hfirst, hlogs⟩ := Sql.ok_of_bind hlogs
            obtain ⟨rest, hrest, hlogs⟩ := Sql.ok_of_bind hlogs
            exact ⟨first, rest, auditTriggerFunc_logs hfirst, hrest, (Except.ok.inj hlogs).symm⟩
        | delete old =>
            -- The trigger is not called.
            obtain ⟨none, hnone, hlogs⟩ := Sql.ok_of_bind hlogs
            obtain rfl := Except.ok.inj hnone
            obtain ⟨rest, hrest, hlogs⟩ := Sql.ok_of_bind hlogs
            exact ⟨[], rest, ⟨rfl, by simp⟩, hrest, (Except.ok.inj hlogs).symm⟩
      obtain ⟨first, rest, hhead, hrest, rfl⟩ := hparts
      obtain ⟨himages, hentered⟩ := ih hrest
      have hwritten : written (change :: changes) = written [change] ++ written changes :=
        List.filterMap_append (l := [change])
      rw [List.map_append, hhead.1, himages, hwritten]
      refine ⟨rfl, fun log hlog => ?_⟩
      exact (List.mem_append.mp hlog).elim (hhead.2 log) (hentered log)

variable {history : List Commit} {snapshot : Snapshot} {commit : Commit} {after : List Row}
  {logs : List AuditLog} {others : List Row → List RowChange → Bool} {statement : Statement}

/-- What a statement of a history leaves in its table, and in the log. -/
theorem of_execute {rows : List Row}
    (hadmitted : executeUnaudited others commit.settings commit.since commit.table rows
      statement = .ok (after, commit.changes))
    (hexecute : execute others commit.settings users commit.since commit.table rows statement =
      .ok (after, logs)) :
    logs.map image = written commit.changes ∧
      ∀ log ∈ logs, Entered commit.settings commit.since commit.table log := by
  rw [execute_eq users hadmitted] at hexecute
  cases htrigger : auditTrigger commit.settings (usersAfter users commit.table after)
      commit.since commit.table commit.changes with
  | error refusal =>
      rw [htrigger] at hexecute
      cases hexecute
  | ok entries =>
      rw [htrigger] at hexecute
      obtain ⟨-, rfl⟩ := Prod.mk.inj (Except.ok.inj hexecute)
      exact auditTrigger_logs htrigger

theorem images_of_history (hhistory : History history snapshot) :
    snapshot.logs.map image = images history := by
  induction hhistory with
  | nil => rfl
  | cons _ _ hadmitted hexecute ih =>
      have hunlink : ∀ deleted, image ∘ unlinkActor deleted = image := fun _ => rfl
      simp [Snapshot.write, images, ih, hunlink, (of_execute hadmitted hexecute).1]

theorem users_write :
    (snapshot.write commit after logs).users =
      if commit.table.name = "users" then after else snapshot.users := by
  unfold Snapshot.users Snapshot.write
  by_cases husers : commit.table.name = "users"
  · simp [husers]
  · simp [husers, Function.update_of_ne (Ne.symm husers)]

theorem users_key : ∀ table ∈ auditedTables, table.name = "users" → table.primaryKey = "id" := by
  decide

/-- The users are told apart by their keys. -/
theorem nodup_users (hhistory : History history snapshot) :
    (snapshot.users.map keyText).Nodup := by
  induction hhistory with
  | nil => exact List.nodup_nil
  | @cons _ _ commit _ _ after _ _ htable hadmitted _ ih =>
      rw [users_write]
      by_cases husers : commit.table.name = "users"
      · have hvalid := (executeUnaudited_ok hadmitted).2.2
        unfold Table.keyValid at hvalid
        rw [Bool.and_eq_true, decide_eq_true_eq, users_key _ htable husers] at hvalid
        rw [if_pos husers]
        exact hvalid.2
      · rw [if_neg husers]
        exact ih

end Entries

/-! ## Two histories -/

section TwoHistories

variable {erased : String → Prop}

/-- Nothing else differs. -/
theorem UserAlike.column {one other : Row} (halike : UserAlike erased one other) {column : String}
    (hhash : column ≠ "password_hash") (hname : column ∉ nameColumns) :
    one column = other column := by
  rcases halike column with heq | heq | ⟨hmem, -⟩
  · exact heq
  · exact absurd heq hhash
  · exact absurd hmem hname

theorem UserAlike.keyText_eq {one other : Row} (halike : UserAlike erased one other) :
    keyText one = keyText other :=
  congrArg Json.text (halike.column (by decide) (by decide))

theorem UserAlike.userID_eq {one other : Row} (halike : UserAlike erased one other) :
    userID one = userID other :=
  congrArg (Option.bind · uuidIn) halike.keyText_eq

/-- Alike changes leave alike rows. -/
theorem rowsAfter_alike {table : Table} (hkey : table.primaryKey = "id") {rows rows' : List Row}
    {changes changes' : List RowChange} (hrows : List.Forall₂ (UserAlike erased) rows rows')
    (hchanges : List.Forall₂ (RowChange.Alike erased) changes changes') :
    List.Forall₂ (UserAlike erased)
      (rows.filterMap (fate table changes) ++ inserted changes)
      (rows'.filterMap (fate table changes') ++ inserted changes') := by
  have hkeyOf : ∀ {row row'}, UserAlike erased row row' → table.keyOf row = table.keyOf row' := by
    intro row row' halike
    unfold Table.keyOf
    rw [hkey]
    exact halike.keyText_eq
  have hold : ∀ {change change'}, RowChange.Alike erased change change' →
      change.old.map table.keyOf = change'.old.map table.keyOf := by
    intro change change' halike
    simp only [Option.map_eq_bind]
    exact Sql.bind_eq_of_rel halike.old fun _ _ hrow => congrArg some (hkeyOf hrow)
  apply List.rel_append
  · refine List.rel_filterMap ?_ hrows
    intro row row' hrow
    have hfound := Sql.forall₂_find? hchanges
      (fun change => change.old.map table.keyOf = some (table.keyOf row))
      (fun change => change.old.map table.keyOf = some (table.keyOf row'))
      fun change change' halike => by rw [hold halike, hkeyOf hrow]
    unfold fate
    generalize changes.find? _ = found at hfound
    generalize changes'.find? _ = found' at hfound
    cases hfound with
    | some halike => exact halike.new
    | none => exact .some hrow
  · refine List.rel_filterMap ?_ hchanges
    intro change change' halike
    dsimp only
    rw [Sql.isNone_eq_of_rel halike.old]
    split
    · exact halike.new
    · exact .none

theorem length_written {changes changes' : List RowChange}
    (hchanges : List.Forall₂ (RowChange.Alike erased) changes changes') :
    (written changes).length = (written changes').length := by
  refine (List.rel_filterMap (P := fun _ _ => True) ?_ hchanges).length_eq
  intro change change' halike
  change Option.Rel _ (change.new.map _) (change'.new.map _)
  have hnew := halike.new
  generalize change.new = new at hnew
  generalize change'.new = new' at hnew
  cases hnew with
  | some _ => exact .some trivial
  | none => exact .none

variable {one other : List Commit} {snapshot snapshot' : Snapshot}

/-- The same users are deleted for good. -/
theorem deletedUsers_eq {commit commit' : Commit} (halike : commit.Alike erased commit') :
    commit.deletedUsers = commit'.deletedUsers := by
  unfold Commit.deletedUsers
  rw [← halike.table]
  split
  next husers =>
      refine Sql.filterMap_eq_of_forall₂ (halike.users husers) fun change change' hchange => ?_
      have hold := Sql.bind_eq_of_rel hchange.old fun _ _ hrow => hrow.userID_eq
      have hnone := Sql.isNone_eq_of_rel hchange.new
      rw [hold, hnone]
  · rfl

theorem length_written_commit {commit commit' : Commit} (halike : commit.Alike erased commit') :
    (written commit.changes).length = (written commit'.changes).length := by
  by_cases husers : commit.table.name = "users"
  · exact length_written (halike.users husers)
  · rw [halike.others husers]

/-- What two entries have in common. -/
structure SameEntry (log log' : AuditLog) : Prop where
  createdAt : log.createdAt = log'.createdAt
  tableName : log.tableName = log'.tableName
  actor : log.actorUserId = log'.actorUserId

theorem forall₂_sameEntry {settings : Settings} {now : Nat} {table : Table}
    {logs logs' : List AuditLog} (hlength : logs.length = logs'.length)
    (hlogs : ∀ log ∈ logs, Entered settings now table log)
    (hlogs' : ∀ log ∈ logs', Entered settings now table log) :
    List.Forall₂ SameEntry logs logs' := by
  refine List.forall₂_iff_zip.mpr ⟨hlength, fun {log log'} hmem => ?_⟩
  obtain ⟨hcreated, hname, hactor⟩ := hlogs log (List.of_mem_zip hmem).1
  obtain ⟨hcreated', hname', hactor'⟩ := hlogs' log' (List.of_mem_zip hmem).2
  exact ⟨hcreated.trans hcreated'.symm, hname.trans hname'.symm,
    Except.ok.inj (hactor.symm.trans hactor')⟩

/-- A statement on `users` changes the rows as its changes say. -/
theorem users_after {history : List Commit} {snapshot : Snapshot} {commit : Commit}
    {others : List Row → List RowChange → Bool} {statement : Statement} {after : List Row}
    (hhistory : History history snapshot) (htable : commit.table ∈ auditedTables)
    (hadmitted : executeUnaudited others commit.settings commit.since commit.table
      (snapshot.rows commit.table.name) statement = .ok (after, commit.changes))
    (husers : commit.table.name = "users") :
    after = snapshot.users.filterMap (fate commit.table commit.changes) ++
      inserted commit.changes := by
  obtain ⟨hafter, hchanges, -⟩ := executeUnaudited_ok hadmitted
  have hkeys : (snapshot.users.map commit.table.keyOf).Nodup := by
    have hnodup := nodup_users hhistory
    unfold Table.keyOf
    rwa [users_key _ htable husers]
  have hrows : snapshot.rows commit.table.name = snapshot.users := by rw [husers]; rfl
  rw [hafter, hchanges, hrows, ← rowsAfter_eq hkeys]

/-- The users are alike, and each entry is by the same editor at the same instant. -/
theorem alike_of_history (hone : History one snapshot) (hother : History other snapshot')
    (halike : List.Forall₂ (Commit.Alike erased) one other) :
    List.Forall₂ (UserAlike erased) snapshot.users snapshot'.users ∧
      List.Forall₂ SameEntry snapshot.logs snapshot'.logs := by
  induction halike generalizing snapshot snapshot' with
  | nil =>
      cases hone
      cases hother
      exact ⟨.nil, .nil⟩
  | @cons commit commit' history history' hcommit hhistories ih =>
      cases hone with
      | @cons _ before _ _ statement after logs hhistory htable hadmitted hexecute =>
          cases hother with
          | @cons _ before' _ _ statement' after' logs' hhistory' htable' hadmitted' hexecute' =>
              obtain ⟨hrows, hentries⟩ := ih hhistory hhistory'
              rw [users_write, users_write, ← hcommit.table]
              constructor
              · split
                next husers =>
                    rw [users_after hhistory htable hadmitted husers,
                      users_after hhistory' htable' hadmitted' (hcommit.table ▸ husers),
                      ← hcommit.table]
                    exact rowsAfter_alike (users_key _ htable husers) hrows (hcommit.users husers)
                · exact hrows
              · obtain ⟨himages, hentered⟩ := of_execute hadmitted hexecute
                obtain ⟨himages', hentered'⟩ := of_execute hadmitted' hexecute'
                rw [← hcommit.settings, ← hcommit.since, ← hcommit.table] at hentered'
                have hlength : logs.length = logs'.length := by
                  have hwritten := length_written_commit hcommit
                  rwa [← himages, ← himages', List.length_map, List.length_map] at hwritten
                refine List.rel_append ?_ (forall₂_sameEntry hlength hentered hentered')
                rw [← deletedUsers_eq hcommit]
                refine List.rel_map ?_ hentries
                intro log log' hsame
                exact ⟨hsame.createdAt, hsame.tableName, congrArg (Option.filter _) hsame.actor⟩

/-- A change is the rows before and after. -/
theorem change_eq {change change' : RowChange} (hold : change.old = change'.old)
    (hnew : change.new = change'.new) : change = change' := by
  cases change <;> cases change' <;> simp_all [RowChange.old, RowChange.new]

/-- Changes that write the same rows are the same. -/
theorem changes_eq_of_written {changes changes' : List RowChange}
    (hchanges : List.Forall₂ (RowChange.Alike erased) changes changes')
    (hwritten : written changes = written changes')
    (hgone : ∀ change ∈ changes, ∀ change' ∈ changes', change.new = none → change'.new = none →
      RowChange.Alike erased change change' → change.old = change'.old) :
    changes = changes' := by
  induction hchanges with
  | nil => rfl
  | @cons change change' rest rest' halike _ ih =>
      have hrest := fun hwritten => ih hwritten fun one hone other hother =>
        hgone one (List.mem_cons_of_mem _ hone) other (List.mem_cons_of_mem _ hother)
      have hnew := halike.new
      unfold written at hwritten hrest
      simp only [List.filterMap_cons] at hwritten
      cases hone : change.new with
      | none =>
          rw [hone] at hnew
          cases hother : change'.new with
          | some => rw [hother] at hnew; cases hnew
          | none =>
              simp only [hone, hother, Option.map_none] at hwritten
              have hold := hgone change List.mem_cons_self change' List.mem_cons_self hone hother
                halike
              rw [change_eq hold (hone.trans hother.symm), hrest hwritten]
      | some new =>
          rw [hone] at hnew
          cases hother : change'.new with
          | none => rw [hother] at hnew; cases hnew
          | some new' =>
              simp only [hone, hother, Option.map_some, List.cons.injEq, Prod.mk.injEq]
                at hwritten
              obtain ⟨⟨hold, hnew⟩, hwritten⟩ := hwritten
              rw [change_eq hold (hone.trans (hnew.trans hother.symm)), hrest hwritten]

/-- What is deleted was there. -/
theorem mem_of_deleted {others : List Row → List RowChange → Bool} {settings : Settings}
    {now : Nat} {table : Table} {rows after : List Row} {changes : List RowChange}
    {statement : Statement}
    (hadmitted : executeUnaudited others settings now table rows statement = .ok (after, changes))
    {change : RowChange} (hmem : change ∈ changes) (hnew : change.new = none) :
    ∃ row ∈ rows, change.old = some row := by
  rw [(executeUnaudited_ok hadmitted).2.1] at hmem
  cases statement with
  | insert new =>
      obtain ⟨row, -, rfl⟩ := List.mem_map.mp hmem
      cases hnew
  | update set =>
      obtain ⟨row, -, hrow⟩ := List.mem_filterMap.mp hmem
      obtain ⟨new, -, rfl⟩ := Option.map_eq_some_iff.mp hrow
      cases hnew
  | delete which =>
      obtain ⟨row, hrow, rfl⟩ := List.mem_map.mp hmem
      exact ⟨row, List.mem_of_mem_filter hrow, rfl⟩

/-- The rows that the trigger has stored tell the histories apart. -/
theorem eq_of_images (hone : History one snapshot) (hother : History other snapshot')
    (halike : List.Forall₂ (Commit.Alike erased) one other) (himages : images one = images other) :
    one = other ∧ snapshot.users = snapshot'.users := by
  induction halike generalizing snapshot snapshot' with
  | nil =>
      cases hone
      cases hother
      exact ⟨rfl, rfl⟩
  | @cons commit commit' history history' hcommit hhistories ih =>
      cases hone with
      | @cons _ before _ _ statement after logs hhistory htable hadmitted hexecute =>
          cases hother with
          | @cons _ before' _ _ statement' after' logs' hhistory' htable' hadmitted' hexecute' =>
              obtain ⟨himages, hwritten⟩ :=
                List.append_inj' himages (length_written_commit hcommit)
              obtain ⟨rfl, hrows⟩ := ih hhistory hhistory' himages
              have hchanges : commit.changes = commit'.changes := by
                by_cases husers : commit.table.name = "users"
                · have husers' : commit'.table.name = "users" := hcommit.table ▸ husers
                  apply changes_eq_of_written (hcommit.users husers) hwritten
                  intro change hchange change' hchange' hnew hnew' hboth
                  obtain ⟨row, hrow, hold⟩ := mem_of_deleted hadmitted hchange hnew
                  obtain ⟨row', hrow', hold'⟩ := mem_of_deleted hadmitted' hchange' hnew'
                  rw [husers] at hrow
                  rw [husers'] at hrow'
                  have hsame := hboth.old
                  rw [hold, hold'] at hsame ⊢
                  cases hsame with
                  | some hsame =>
                      have hmem : row' ∈ before.users := hrows ▸ hrow'
                      rw [List.inj_on_of_nodup_map (nodup_users hhistory) hrow hmem
                        hsame.keyText_eq]
                · exact hcommit.others husers
              obtain ⟨hsettings, hsince, htables, -, -⟩ := hcommit
              have hcommits : commit = commit' := by
                cases commit
                cases commit'
                simp_all
              subst hcommits
              refine ⟨rfl, ?_⟩
              rw [users_write, users_write]
              split
              next husers =>
                  rw [users_after hhistory htable hadmitted husers,
                    users_after hhistory' htable' hadmitted' husers, hrows]
              · exact hrows

/-- The editor is shown under the same name. -/
theorem bearbeiter_eq (hone : History one snapshot) {users' : List Row}
    (hrows : List.Forall₂ (UserAlike snapshot.Anonymised) snapshot.users users')
    (actor : Option Uuid) : bearbeiter snapshot.users actor = bearbeiter users' actor := by
  cases actor with
  | none => rfl
  | some actor =>
      have hfound := Sql.forall₂_find? hrows (fun user => userID user = some actor)
        (fun user => userID user = some actor) fun user user' halike => by rw [halike.userID_eq]
      unfold bearbeiter
      simp only [Option.bind_eq_bind, Option.bind_some]
      cases huser : snapshot.users.find? fun user => userID user = some actor with
      | none =>
          rw [huser] at hfound
          generalize users'.find? _ = found at hfound ⊢
          cases hfound with
          | none => rfl
      | some user =>
          rw [huser] at hfound
          generalize users'.find? _ = found at hfound ⊢
          cases hfound with
          | @some _ user' halike =>
              have hanonymised : user "anonymized_at" = user' "anonymized_at" :=
                halike.column (by decide) (by decide)
              have hname : (user "anonymized_at").text = none → ∀ column ∈ nameColumns,
                  column ≠ "password_hash" → user column = user' column := by
                intro hnone column _ hhash
                rcases halike column with heq | heq | ⟨-, ⟨key, hkey, hid, hmem, hother, hat⟩, -⟩
                · exact heq
                · exact absurd heq hhash
                · -- The user is there once.
                  obtain rfl := List.inj_on_of_nodup_map (nodup_users hone) hmem
                    (List.mem_of_find?_eq_some huser) (hother.trans hkey.symm)
                  exact absurd hnone hat
              simp only [Option.bind_some, ← hanonymised]
              split
              · rfl
              next hnone =>
                  have hlive : (user "anonymized_at").text = none := by simpa using hnone
                  rw [hname hlive "last_name" (by decide) (by decide),
                    hname hlive "first_name" (by decide) (by decide)]

theorem SameEntry.newestFirst_eq {log log' next next' : AuditLog} (hlog : SameEntry log log')
    (hnext : SameEntry next next') : newestFirst log next = newestFirst log' next' := by
  unfold newestFirst
  rw [hlog.createdAt, hnext.createdAt]

section Report

variable (columns : String → List String) (hone : History one snapshot)
  (hother : History other snapshot')
  (halike : List.Forall₂ (Commit.Alike snapshot.Anonymised) one other)

include hone hother halike

theorem report_bearbeiter_eq :
    (viewRevisionReport columns snapshot).map RevisionEntry.bearbeiter =
      (viewRevisionReport columns snapshot').map RevisionEntry.bearbeiter := by
  obtain ⟨hrows, hlogs⟩ := alike_of_history hone hother halike
  unfold viewRevisionReport
  rw [List.map_map, List.map_map,
    Sql.map_mergeSort_eq_iff hlogs fun _ _ _ _ => SameEntry.newestFirst_eq, Sql.map_eq_map_iff]
  refine hlogs.imp fun log log' hsame => ?_
  change bearbeiter snapshot.users log.actorUserId = bearbeiter snapshot'.users log'.actorUserId
  rw [bearbeiter_eq hone hrows, hsame.actor]

/-- The stored rows are all shown. -/
theorem report_shown_eq_iff :
    (viewRevisionReport columns snapshot).map RevisionEntry.shown =
      (viewRevisionReport columns snapshot').map RevisionEntry.shown ↔ one = other := by
  obtain ⟨hrows, hlogs⟩ := alike_of_history hone hother halike
  have himages : snapshot.logs.map image = snapshot'.logs.map image ↔ one = other := by
    rw [images_of_history hone, images_of_history hother]
    refine ⟨fun himages => (eq_of_images hone hother halike himages).1, fun heq => ?_⟩
    rw [heq]
  unfold viewRevisionReport
  rw [List.map_map, List.map_map,
    Sql.map_mergeSort_eq_iff hlogs fun _ _ _ _ => SameEntry.newestFirst_eq, ← himages,
    Sql.map_eq_map_iff, Sql.map_eq_map_iff]
  constructor
  · exact fun hshown => hshown.imp fun log log' heq => congrArg (fun shown => shown.2.2) heq
  · intro hstored
    obtain ⟨hlength, hsame⟩ := List.forall₂_iff_zip.mp hlogs
    refine List.forall₂_iff_zip.mpr ⟨hlength, fun {log log'} hmem => ?_⟩
    obtain ⟨-, hname, hactor⟩ := hsame hmem
    obtain ⟨hold, hnew⟩ := Prod.mk.inj (List.forall₂_zip hstored hmem)
    have heditor := bearbeiter_eq hone hrows log'.actorUserId
    simp only [Function.comp_apply, revisionEntry, RevisionEntry.shown, hname, hold, hnew,
      heditor, hactor]

/-- The report masks the editors. From the rows it shows all that the statements have
written can be read off. -/
theorem report_shown_iff :
    (viewRevisionReport columns snapshot).map RevisionEntry.bearbeiter =
        (viewRevisionReport columns snapshot').map RevisionEntry.bearbeiter ∧
      ((viewRevisionReport columns snapshot).map RevisionEntry.shown =
        (viewRevisionReport columns snapshot').map RevisionEntry.shown ↔ one = other) :=
  ⟨report_bearbeiter_eq columns hone hother halike, report_shown_eq_iff columns hone hother halike⟩

end Report

end TwoHistories

namespace Sample

def users : Table := .withId "users" ["anonymized_at", "updated_at", "deleted_at"]

def userKey : String := "00000000-0000-0000-0000-000000000001"

/-- What PostgreSQL generates for the search from the names and the address. -/
def searchVector (firstName : String) : String :=
  if firstName = "Mia" then "'berg':2 'mia':1 'mia@example.org':3"
  else "'berg':2 'mia@example.org':3 'pia':1"

/-- A new user of this name. -/
def registered (firstName : String) : Row := fun column =>
  if column = "id" then .string userKey
  else if column = "email" then .string "mia@example.org"
  else if column = "password_hash" then .string "$2a$12$"
  else if column = "first_name" then .string firstName
  else if column = "last_name" then .string "Berg"
  else if column = "is_active" then .literal "true"
  else if column = "is_protected" then .literal "false"
  else if column = "created_at" ∨ column = "updated_at" then .timestamp 0
  else if column = "search_vector" then .string (searchVector firstName)
  else .null

/-- The user is erased. -/
def anonymised : Row := fun column =>
  if column = "id" then .string userKey
  else if column = "email" ∨ column = "first_name" ∨ column = "last_name" then .string ""
  else if column = "search_vector" then .string ""
  else if column = "password_hash" then .string "$2a$12$"
  else if column = "is_active" then .literal "false"
  else if column = "is_protected" then .literal "false"
  else if column = "created_at" then .timestamp 0
  else if column = "updated_at" ∨ column = "anonymized_at" then .timestamp 1
  else .null

/-- The user sets the anonymisation off. -/
def byUser : Settings := ⟨some userKey, none⟩

def register (firstName : String) : Commit := ⟨settings, 0, users, [.insert (registered firstName)]⟩

def anonymise (firstName : String) : Commit :=
  ⟨byUser, 1, users, [.update (registered firstName) (users.beforeUpdate 1 anonymised)]⟩

def insertLog (firstName : String) : AuditLog :=
  ⟨"users", userKey, .insert, none, some (registered firstName), none, 0⟩

def anonymiseLog (firstName : String) : AuditLog :=
  ⟨"users", userKey, .anonymize, some (registered firstName),
    some (users.beforeUpdate 1 anonymised), some 1, 1⟩

def afterRegister (firstName : String) : Snapshot :=
  Snapshot.empty.write (register firstName) [registered firstName] [insertLog firstName]

def afterAnonymise (firstName : String) : Snapshot :=
  (afterRegister firstName).write (anonymise firstName) [users.beforeUpdate 1 anonymised]
    [anonymiseLog firstName]

theorem mem_users : users ∈ auditedTables := by decide

theorem history_register (firstName : String) :
    History [register firstName] (afterRegister firstName) := by
  have hadmitted : executeUnaudited (fun _ _ => true) settings 0 users []
      (.insert [registered firstName]) =
        .ok ([registered firstName], [.insert (registered firstName)]) := rfl
  have hexecute : execute (fun _ _ => true) settings [] 0 users []
      (.insert [registered firstName]) = .ok ([registered firstName], [insertLog firstName]) := rfl
  exact .cons .nil mem_users hadmitted hexecute

theorem history_anonymise (firstName : String) :
    History [anonymise firstName, register firstName] (afterAnonymise firstName) := by
  let erase : Statement := .update fun row => if keyText row = some userKey then some anonymised
    else none
  have hadmitted : executeUnaudited (fun _ _ => true) byUser 1 users [registered firstName]
      erase = .ok ([users.beforeUpdate 1 anonymised],
        [.update (registered firstName) (users.beforeUpdate 1 anonymised)]) := rfl
  have hexecute : execute (fun _ _ => true) byUser [1] 1 users [registered firstName] erase =
      .ok ([users.beforeUpdate 1 anonymised], [anonymiseLog firstName]) := rfl
  exact .cons (history_register firstName) mem_users hadmitted hexecute

theorem alike_registered (firstName otherName : String) :
    UserAlike (afterAnonymise firstName).Anonymised (registered firstName)
      (registered otherName) := by
  intro column
  have hanonymised : (afterAnonymise firstName).Anonymised userKey :=
    ⟨users.beforeUpdate 1 anonymised, List.mem_singleton_self _, rfl, by decide⟩
  by_cases hcolumn : column ∈ nameColumns
  · exact .inr (.inr ⟨hcolumn, ⟨userKey, rfl, hanonymised⟩, rfl⟩)
  · left
    simp only [nameColumns, List.mem_cons, List.not_mem_nil, not_or] at hcolumn
    simp [registered, hcolumn]

/-- The histories of a user who has given one name or the other, and is anonymised. -/
theorem alike_histories (firstName otherName : String) :
    List.Forall₂ (Commit.Alike (afterAnonymise firstName).Anonymised)
      [anonymise firstName, register firstName] [anonymise otherName, register otherName] := by
  have hrow := alike_registered firstName otherName
  have hupdate : RowChange.Alike (afterAnonymise firstName).Anonymised
      (.update (registered firstName) (users.beforeUpdate 1 anonymised))
      (.update (registered otherName) (users.beforeUpdate 1 anonymised)) :=
    ⟨.some hrow, .some fun _ => .inl rfl⟩
  have hinsert : RowChange.Alike (afterAnonymise firstName).Anonymised
      (.insert (registered firstName)) (.insert (registered otherName)) := ⟨.none, .some hrow⟩
  exact .cons ⟨rfl, rfl, rfl, fun _ => .cons hupdate .nil, fun hother => absurd rfl hother⟩
    (.cons ⟨rfl, rfl, rfl, fun _ => .cons hinsert .nil, fun hother => absurd rfl hother⟩ .nil)

theorem histories_ne :
    [anonymise "Mia", register "Mia"] ≠ [anonymise "Pia", register "Pia"] := by
  intro heq
  have hnames := congrArg (List.map fun commit =>
    commit.changes.map fun change => change.old.map (· "first_name")) heq
  exact absurd hnames (by decide)

/-- The columns of `users`. -/
def columns (table : String) : List String :=
  if table = "users" then
    ["id", "email", "password_hash", "first_name", "last_name", "is_active", "is_protected",
      "anonymized_at", "created_at", "updated_at", "deleted_at", "created_by", "updated_by",
      "search_vector"]
  else []

/-- The user is masked as the editor, but not in the rows. -/
theorem report_anonymised :
    (viewRevisionReport columns (afterAnonymise "Mia")).map RevisionEntry.bearbeiter =
        (viewRevisionReport columns (afterAnonymise "Pia")).map RevisionEntry.bearbeiter ∧
      (viewRevisionReport columns (afterAnonymise "Mia")).map RevisionEntry.shown ≠
        (viewRevisionReport columns (afterAnonymise "Pia")).map RevisionEntry.shown := by
  obtain ⟨hmasked, hshown⟩ := report_shown_iff columns (history_anonymise "Mia")
    (history_anonymise "Pia") (alike_histories "Mia" "Pia")
  exact ⟨hmasked, fun heq => histories_ne (hshown.mp heq)⟩

end Sample

/-- The name of an anonymised user is in the rows before the anonymisation. -/
theorem not_forall_report_shown :
    ¬∀ (columns : String → List String) (one other : List Commit) (snapshot snapshot' : Snapshot),
      History one snapshot → History other snapshot' →
      List.Forall₂ (Commit.Alike snapshot.Anonymised) one other →
      (viewRevisionReport columns snapshot).map RevisionEntry.shown =
        (viewRevisionReport columns snapshot').map RevisionEntry.shown := by
  intro hall
  have hone := Sample.history_anonymise "Mia"
  have hother := Sample.history_anonymise "Pia"
  have halike := Sample.alike_histories "Mia" "Pia"
  have hshown := hall Sample.columns _ _ _ _ hone hother halike
  exact Sample.histories_ne ((report_shown_eq_iff _ hone hother halike).mp hshown)

end Skolva.Audit
