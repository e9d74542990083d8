import Skolva.Audit.Completeness
import Skolva.Sql.Transaction

/-! # The order of the entries of a record

`view_revision_report` sorts the entries by `created_at`, which is the start of the
transaction. Transactions that insert into and update one audited table run interleaved.
-/

namespace Skolva.Audit

open Sql

/-! ## Writing transactions -/

/-- One audited table keyed by `id`, by the texts of its keys, and its entries. -/
structure Tables where
  rows : String → Option Row
  logs : List AuditLog

/-- One row that a transaction writes, and the entry its trigger adds. -/
structure Write where
  change : RowChange
  log : AuditLog

/-- The text of the key. -/
def keyText (row : Row) : Option String := (row "id").text

namespace Write

/-- The keys of the row before and after. -/
def keys (write : Write) : List String :=
  (write.change.old.bind keyText).toList ++ (write.change.new.bind keyText).toList

def apply (_ : Nat) (write : Write) (tables : Tables) : Tables where
  rows := fun key =>
    if write.change.new.bind keyText = some key then write.change.new
    else if write.change.old.bind keyText = some key then none
    else tables.rows key
  logs := tables.logs ++ [write.log]

/-- A new row and a new key are locked against any other transaction, and so is a row that
is written. -/
def locks (write : Write) : List (String × RowLock) :=
  if write.change.old.bind keyText = write.change.new.bind keyText then
    write.keys.map fun key => (key, .forNoKeyUpdate)
  else write.keys.map fun key => (key, .forUpdate)

end Write

variable {Txn : Type} [DecidableEq Txn]

abbrev Audits (Txn : Type) := Database Txn Write Tables

/-- The row is there before, its new key is free, and the trigger writes the entry. -/
def Executes (table : Table) (db : Audits Txn) (txn : Txn) (write : Write) : Prop :=
  let tables := db.visible Write.apply txn
  (match write.change with
    | .insert new => ∃ key, keyText new = some key ∧ tables.rows key = none
    | .update old new => ∃ oldKey key, keyText old = some oldKey ∧ tables.rows oldKey = some old ∧
        keyText new = some key ∧ (key = oldKey ∨ tables.rows key = none)
    | .delete _ => False) ∧
  ∃ settings users since changes, db.phase txn = .running since changes ∧
    auditTriggerFunc settings users since table write.change = .ok [write.log]

def WriteAllowed (table : Table) (db : Audits Txn) (txn : Txn) (write : Write) : Prop :=
  Executes table db txn write ∧ db.Unblocked Write.locks txn write

/-- The states that interleaved writing transactions can come to. -/
abbrev AuditsReach (table : Table) (meets : Audits Txn → Action Txn Write → Prop) :
    Audits Txn → Audits Txn → Prop :=
  Database.Reaches Write.apply (WriteAllowed table) meets

/-! ## The history of a record -/

/-- The entries of a record. -/
def entriesOf (logs : List AuditLog) (key : String) : List AuditLog :=
  logs.filter fun log => log.recordPk = key

/-- Each entry goes on from the one before, and the last one has come to the row. -/
def FollowsFrom (before : Option Row) : List AuditLog → Option Row → Prop
  | [], after => before = after
  | log :: logs, after => log.oldData = before ∧ (log.action = .insert ↔ before = none) ∧
      log.newData ≠ none ∧ FollowsFrom log.newData logs after

/-- In the order of `created_at`, the entries are the history of the row: from its insert
on, each goes on from the one before. -/
def IsHistory (entries : List AuditLog) (current : Option Row) : Prop :=
  ∃ ordered : List AuditLog, ordered.Perm entries ∧
    ordered.Pairwise (fun earlier later => earlier.createdAt < later.createdAt) ∧
    FollowsFrom none ordered current

/-- The log orders the history of each record. -/
def Ordered (tables : Tables) : Prop :=
  ∀ key, IsHistory (entriesOf tables.logs key) (tables.rows key)

/-- A transaction writes a record under the same key, and only if it began after those that
have written the record before. -/
def WritesInOrder (db : Audits Txn) : Action Txn Write → Prop
  | .perform txn write => (∀ old ∈ write.change.old, keyText old = keyText write.change.row) ∧
      ∀ since changes, db.phase txn = .running since changes →
        ∀ log ∈ (db.visible Write.apply txn).logs, log.recordPk = write.log.recordPk →
          log.createdAt < since
  | _ => True

/-! ## One record -/

section Records

/-- The write is one of a record that keeps its key. -/
structure Write.Keyed (write : Write) : Prop where
  new : write.change.new.bind keyText = some write.log.recordPk
  old : ∀ old ∈ write.change.old, keyText old = some write.log.recordPk

/-- The row and the entries of a record. -/
def recordAt (tables : Tables) (key : String) : Option Row × List AuditLog :=
  (tables.rows key, entriesOf tables.logs key)

theorem recordAt_apply (since : Nat) {write : Write} (hkeyed : write.Keyed) (tables : Tables)
    (key : String) :
    recordAt (write.apply since tables) key =
      if write.log.recordPk = key then (write.change.new, (recordAt tables key).2 ++ [write.log])
      else recordAt tables key := by
  have hold : write.change.old.bind keyText = some key → write.log.recordPk = key := by
    cases hchange : write.change.old with
    | none => simp
    | some old =>
        have hkey := hkeyed.old old hchange
        simp [hkey]
  unfold recordAt Write.apply entriesOf
  by_cases hkey : write.log.recordPk = key
  · simp [hkeyed.new, hkey]
  · have hother : write.change.old.bind keyText ≠ some key := fun heq => hkey (hold heq)
    simp [hkeyed.new, hkey, hother]

variable {writes : List Write}

/-- Of a record, nothing but the record itself matters. -/
theorem recordAt_seenAfter_congr (since : Nat) (hkeyed : ∀ write ∈ writes, write.Keyed)
    {tables other : Tables} {key : String} (hsame : recordAt tables key = recordAt other key) :
    recordAt (Database.seenAfter Write.apply since writes tables) key =
      recordAt (Database.seenAfter Write.apply since writes other) key := by
  unfold Database.seenAfter
  induction writes generalizing tables other with
  | nil => exact hsame
  | cons write writes ih =>
      rw [List.forall_mem_cons] at hkeyed
      rw [List.foldl_cons, List.foldl_cons]
      apply ih hkeyed.2
      rw [recordAt_apply since hkeyed.1, recordAt_apply since hkeyed.1, hsame]

/-- The other records stay as they are. -/
theorem recordAt_seenAfter_other (since : Nat) (hkeyed : ∀ write ∈ writes, write.Keyed)
    {key : String} (hother : ∀ write ∈ writes, write.log.recordPk ≠ key) (tables : Tables) :
    recordAt (Database.seenAfter Write.apply since writes tables) key = recordAt tables key := by
  unfold Database.seenAfter
  induction writes generalizing tables with
  | nil => rfl
  | cons write writes ih =>
      rw [List.forall_mem_cons] at hkeyed hother
      rw [List.foldl_cons, ih hkeyed.2 hother.2, recordAt_apply since hkeyed.1, if_neg hother.1]

/-- The entry that the trigger writes. -/
theorem log_of_trigger {settings : Settings} {users : List Uuid} {since : Nat} {table : Table}
    {change : RowChange} {log : AuditLog} {row : Row} (hnew : change.new = some row)
    (hlog : auditTriggerFunc settings users since table change = .ok [log]) :
    log.oldData = change.old ∧ log.newData = some row ∧
      (log.action = .insert ↔ change.old = none) ∧ log.createdAt = since ∧
      keyText row = some log.recordPk := by
  have hinsert : ∀ {record : Option String} {action : AuditAction} {oldData : Option Row}
      {actor : Option Uuid}, recordID table row = .ok record →
      insertAuditLog users since table record action oldData (some row) actor = .ok log →
      log.oldData = oldData ∧ log.newData = some row ∧ log.action = action ∧
        log.createdAt = since ∧ keyText row = some log.recordPk := by
    intro record action oldData actor hrecord hwritten
    unfold recordID at hrecord
    unfold insertAuditLog at hwritten
    split at hrecord
    · cases record with
      | none => cases hwritten
      | some record =>
          dsimp only at hwritten
          split at hwritten
          · obtain rfl := Except.ok.inj hwritten
            exact ⟨rfl, rfl, rfl, rfl, Except.ok.inj hrecord⟩
          · cases hwritten
    · cases hrecord
  cases change with
  | insert new =>
      obtain rfl := Option.some.inj hnew
      obtain ⟨actor, -, hrest⟩ := ok_of_bind hlog
      obtain ⟨record, hrecord, hrest⟩ := ok_of_bind hrest
      obtain ⟨written, hwritten, hrest⟩ := ok_of_bind hrest
      obtain rfl : written = log := List.singleton_inj.mp (Except.ok.inj hrest)
      obtain ⟨hold, hdata, haction, hcreated, hkey⟩ := hinsert hrecord hwritten
      exact ⟨hold, hdata, iff_of_true haction rfl, hcreated, hkey⟩
  | update old new =>
      obtain rfl := Option.some.inj hnew
      obtain ⟨actor, -, hrest⟩ := ok_of_bind hlog
      obtain ⟨record, hrecord, hrest⟩ := ok_of_bind hrest
      obtain ⟨written, hwritten, hrest⟩ := ok_of_bind hrest
      obtain rfl : written = log := List.singleton_inj.mp (Except.ok.inj hrest)
      obtain ⟨hold, hdata, haction, hcreated, hkey⟩ := hinsert hrecord hwritten
      have hnotInsert : updateAction table old new ≠ .insert := by
        unfold updateAction
        repeat' split
        all_goals simp
      exact ⟨hold, hdata, iff_of_false (haction ▸ hnotInsert) (by simp [RowChange.old]), hcreated,
        hkey⟩
  | delete old => cases hnew

/-- One more entry goes on from the last. -/
theorem followsFrom_append {before current : Option Row} {logs : List AuditLog} {log : AuditLog}
    (hlogs : FollowsFrom before logs current) (hold : log.oldData = current)
    (haction : log.action = .insert ↔ current = none) (hnew : log.newData ≠ none) :
    FollowsFrom before (logs ++ [log]) log.newData := by
  induction logs generalizing before with
  | nil =>
      obtain rfl : before = current := hlogs
      exact ⟨hold, haction, hnew, rfl⟩
  | cons first logs ih =>
      obtain ⟨hfirst, hinsert, hdata, hrest⟩ := hlogs
      exact ⟨hfirst, hinsert, hdata, ih hrest⟩

/-- A later entry that goes on from the row extends the history. -/
theorem isHistory_append {entries : List AuditLog} {current : Option Row} {log : AuditLog}
    (hhistory : IsHistory entries current) (hold : log.oldData = current)
    (haction : log.action = .insert ↔ current = none) (hnew : log.newData ≠ none)
    (hlater : ∀ entry ∈ entries, entry.createdAt < log.createdAt) :
    IsHistory (entries ++ [log]) log.newData := by
  obtain ⟨ordered, hperm, hordered, hfollows⟩ := hhistory
  refine ⟨ordered ++ [log], hperm.append_right [log], ?_,
    followsFrom_append hfollows hold haction hnew⟩
  rw [List.pairwise_append]
  refine ⟨hordered, List.pairwise_singleton _ _, ?_⟩
  intro earlier hearlier later hlatest
  rw [List.mem_singleton.mp hlatest]
  exact hlater earlier (hperm.mem_iff.mp hearlier)

end Records

/-! ## What holds throughout -/

section Invariant

variable {table : Table} {db : Audits Txn}

structure OrderInvariant (db : Audits Txn) : Prop where
  keyed : ∀ txn, ∀ write ∈ (db.phase txn).changes, write.Keyed
  apart : ∀ one other, one ≠ other → ∀ write ∈ (db.phase one).changes,
    ∀ held ∈ (db.phase other).changes, held.log.recordPk ≠ write.log.recordPk
  committed : Ordered db.committed
  running : ∀ txn since changes, db.phase txn = .running since changes →
    Ordered (Database.seenAfter Write.apply since changes db.committed)

/-- Two transactions have not written the same record. -/
def apartPhases (one other : Phase Write) : Prop :=
  ∀ write ∈ one.changes, ∀ held ∈ other.changes, held.log.recordPk ≠ write.log.recordPk

theorem apartPhases_symm (one other : Phase Write) (hapart : apartPhases one other) :
    apartPhases other one :=
  fun held hheld write hwrite => (hapart write hwrite held hheld).symm

theorem Ordered.of_recordAt {tables other : Tables} (hordered : Ordered tables)
    {key : String} (hsame : recordAt other key = recordAt tables key) :
    IsHistory (entriesOf other.logs key) (other.rows key) := by
  obtain ⟨hrow, hentries⟩ := Prod.mk.inj hsame
  rw [hrow, hentries]
  exact hordered key

omit [DecidableEq Txn] in
/-- A write that executes and keeps its key is one of that record. -/
theorem keyed_of_executes {txn : Txn} {write : Write} (hexecutes : Executes table db txn write)
    (hkeeps : ∀ old ∈ write.change.old, keyText old = keyText write.change.row) :
    write.Keyed ∧ ∃ row since changes, write.change.new = some row ∧
      db.phase txn = .running since changes ∧ write.log.createdAt = since ∧
      write.log.newData = some row ∧ write.log.oldData = write.change.old ∧
      (write.log.action = .insert ↔ write.change.old = none) ∧
      write.change.old = (db.visible Write.apply txn).rows write.log.recordPk := by
  obtain ⟨hchange, settings, users, since, changes, hphase, htrigger⟩ := hexecutes
  obtain ⟨change, log⟩ := write
  dsimp only at hchange hkeeps htrigger ⊢
  cases change with
  | insert new =>
      obtain ⟨key, hkey, hfree⟩ := hchange
      obtain ⟨hold, hnew, haction, hcreated, hrecord⟩ := log_of_trigger rfl htrigger
      obtain rfl := Option.some.inj (hkey.symm.trans hrecord)
      exact ⟨⟨hkey, nofun⟩, new, since, changes, rfl, hphase, hcreated, hnew, hold, haction,
        hfree.symm⟩
  | update old new =>
      obtain ⟨oldKey, key, hold, hthere, hkey, -⟩ := hchange
      obtain ⟨hdata, hnew, haction, hcreated, hrecord⟩ := log_of_trigger rfl htrigger
      have hsame : keyText old = keyText new := hkeeps old rfl
      have hrecordOld : oldKey = log.recordPk :=
        Option.some.inj (hold.symm.trans (hsame.trans hrecord))
      refine ⟨⟨hrecord, ?_⟩, new, since, changes, rfl, hphase, hcreated, hnew, hdata, haction, ?_⟩
      · intro row hrow
        obtain rfl := Option.some.inj hrow
        exact hsame.trans hrecord
      · rw [← hrecordOld]
        exact hthere.symm
  | delete old => exact hchange.elim

omit [DecidableEq Txn] in
/-- Two transactions do not write the same record. -/
theorem recordPk_ne_of_unblocked {txn other : Txn} (hother : other ≠ txn) {write held : Write}
    (hunblocked : db.Unblocked Write.locks txn write) (hkeyed : write.Keyed)
    (hheld : held ∈ (db.phase other).changes) (hheldKeyed : held.Keyed) :
    held.log.recordPk ≠ write.log.recordPk := by
  intro hsame
  have hlock : ∀ {locked : Write}, locked.Keyed →
      (locked.log.recordPk, RowLock.forNoKeyUpdate) ∈ locked.locks ∨
        (locked.log.recordPk, RowLock.forUpdate) ∈ locked.locks := by
    intro locked hlocked
    have hmem : locked.log.recordPk ∈ locked.keys := by
      apply List.mem_append_right
      simp [hlocked.new]
    unfold Write.locks
    split
    · exact .inl (List.mem_map_of_mem hmem)
    · exact .inr (List.mem_map_of_mem hmem)
  have hfree : ∀ held' ∈ held.locks, ∀ wanted ∈ write.locks, held'.1 = wanted.1 →
      held'.2.conflicts wanted.2 = false := fun held' hmem =>
    hunblocked other hother held' (List.mem_flatMap.mpr ⟨held, hheld, hmem⟩)
  rcases hlock hheldKeyed with hone | hone <;> rcases hlock hkeyed with htwo | htwo <;>
    exact absurd (hfree _ hone _ htwo hsame) (by simp [RowLock.conflicts])

omit [DecidableEq Txn] in
/-- What a transaction sees stays in order when it makes a write in order. -/
theorem ordered_perform (hinv : OrderInvariant db) {txn : Txn} {write : Write} {since : Nat}
    {changes : List Write} (hphase : db.phase txn = .running since changes)
    (hexecutes : Executes table db txn write) (horder : WritesInOrder db (.perform txn write)) :
    Ordered (Database.seenAfter Write.apply since (changes ++ [write]) db.committed) := by
  obtain ⟨hkeeps, hlater⟩ := horder
  obtain ⟨hkeyed, row, begun, done, hnew, hrunning, hcreated, hdata, hold, haction, hthere⟩ :=
    keyed_of_executes hexecutes hkeeps
  obtain ⟨rfl, rfl⟩ := Phase.running.inj (hphase.symm.trans hrunning)
  have hadded : Database.seenAfter Write.apply since (changes ++ [write]) db.committed =
      write.apply since (db.visible Write.apply txn) := by
    rw [Database.visible_running hphase]
    exact List.foldl_append ..
  have hvisible : Ordered (db.visible Write.apply txn) := by
    rw [Database.visible_running hphase]
    exact hinv.running txn since changes hphase
  rw [hadded]
  intro key
  change IsHistory (recordAt (write.apply since (db.visible Write.apply txn)) key).2
    (recordAt (write.apply since (db.visible Write.apply txn)) key).1
  rw [recordAt_apply since hkeyed]
  by_cases hkey : write.log.recordPk = key
  · rw [if_pos hkey, hnew, ← hdata]
    subst hkey
    apply isHistory_append (hvisible _) (hold.trans hthere) (hthere ▸ haction) (by simp [hdata])
    intro entry hentry
    have hmine := List.mem_filter.mp hentry
    rw [hcreated]
    exact hlater since changes hphase entry hmine.1 (by simpa using hmine.2)
  · rw [if_neg hkey]
    exact hvisible key

/-- A write in order keeps everything. -/
theorem orderInvariant_perform (hinv : OrderInvariant db) {txn : Txn} {write : Write}
    {since : Nat} {changes : List Write} (hphase : db.phase txn = .running since changes)
    (hallowed : WriteAllowed table db txn write) (horder : WritesInOrder db (.perform txn write)) :
    OrderInvariant (db.setPhase txn (.running since (changes ++ [write]))) := by
  obtain ⟨hexecutes, hunblocked⟩ := hallowed
  have hkeyed : write.Keyed := (keyed_of_executes hexecutes horder.1).1
  have hchanges : (db.phase txn).changes = changes := by
    rw [hphase]
    rfl
  have hkeyedTxn : ∀ other ∈ changes ++ [write], other.Keyed := by
    intro other hmem
    rcases List.mem_append.mp hmem with hmem | hmem
    · exact hinv.keyed txn other (hchanges ▸ hmem)
    · rw [List.mem_singleton.mp hmem]
      exact hkeyed
  have hapart : ∀ other, other ≠ txn → ∀ mine ∈ changes ++ [write],
      ∀ held ∈ (db.phase other).changes, held.log.recordPk ≠ mine.log.recordPk := by
    intro other hother mine hmine held hheld
    rcases List.mem_append.mp hmine with hmine | hmine
    · exact hinv.apart txn other (Ne.symm hother) mine (hchanges ▸ hmine) held hheld
    · rw [List.mem_singleton.mp hmine]
      exact recordPk_ne_of_unblocked hother hunblocked hkeyed hheld (hinv.keyed other held hheld)
  constructor
  · exact Database.forall_phase (fun _ phase => ∀ write ∈ phase.changes, Write.Keyed write)
      hkeyedTxn fun other _ => hinv.keyed other
  · exact Database.forall_phase_pair apartPhases apartPhases_symm hapart hinv.apart
  · exact hinv.committed
  · apply Database.forall_phase fun _ phase => ∀ began writes, phase = .running began writes →
      Ordered (Database.seenAfter Write.apply began writes db.committed)
    · intro began writes heq
      obtain ⟨rfl, rfl⟩ := Phase.running.inj heq
      exact ordered_perform hinv hphase hexecutes horder
    · exact fun other _ => hinv.running other

/-- A commit keeps everything. -/
theorem orderInvariant_commit (hinv : OrderInvariant db) {txn : Txn} {since : Nat}
    {changes : List Write} (hphase : db.phase txn = .running since changes) :
    OrderInvariant (db.commitChanges Write.apply txn since changes) := by
  have hchanges : (db.phase txn).changes = changes := by
    rw [hphase]
    rfl
  have hkeyed : ∀ write ∈ changes, write.Keyed := hchanges ▸ hinv.keyed txn
  have hvisible := hinv.running txn since changes hphase
  constructor
  · exact Database.forall_phase (fun _ phase => ∀ write ∈ phase.changes, Write.Keyed write)
      (fun _ hmem => absurd hmem List.not_mem_nil) fun other _ => hinv.keyed other
  · exact Database.forall_phase_pair apartPhases apartPhases_symm
      (fun _ _ _ hmem => absurd hmem List.not_mem_nil) hinv.apart
  · exact hvisible
  · apply Database.forall_phase fun _ phase => ∀ began writes, phase = .running began writes →
      Ordered (Database.seenAfter Write.apply began writes
        (Database.seenAfter Write.apply since changes db.committed))
    · intro began writes heq
      cases heq
    · intro other htxn began writes hother
      have hwrites : (db.phase other).changes = writes := by
        rw [hother]
        rfl
      have hkeyedOther : ∀ write ∈ writes, write.Keyed := hwrites ▸ hinv.keyed other
      intro key
      by_cases htouched : ∃ write ∈ writes, write.log.recordPk = key
      · -- The record is locked by the other transaction, so this one has not written it.
        obtain ⟨write, hwrite, rfl⟩ := htouched
        have hfree : ∀ mine ∈ changes, mine.log.recordPk ≠ write.log.recordPk := by
          intro mine hmine
          exact hinv.apart other txn htxn write (hwrites ▸ hwrite) mine (hchanges ▸ hmine)
        have hbase := recordAt_seenAfter_other since hkeyed hfree db.committed
        exact (hinv.running other began writes hother).of_recordAt
          (recordAt_seenAfter_congr began hkeyedOther hbase)
      · have huntouched : ∀ write ∈ writes, write.log.recordPk ≠ key :=
          fun write hwrite heq => htouched ⟨write, hwrite, heq⟩
        exact hvisible.of_recordAt (recordAt_seenAfter_other began hkeyedOther huntouched _)

/-- Beginning and giving up change no table and add no write. -/
theorem orderInvariant_setPhase (hinv : OrderInvariant db) (txn : Txn) {phase : Phase Write}
    (hnone : phase.changes = []) : OrderInvariant (db.setPhase txn phase) := by
  constructor
  · exact Database.forall_phase (fun _ phase => ∀ write ∈ phase.changes, Write.Keyed write)
      (by simp [hnone]) fun other _ => hinv.keyed other
  · exact Database.forall_phase_pair apartPhases apartPhases_symm
      (by simp [apartPhases, hnone]) hinv.apart
  · exact hinv.committed
  · apply Database.forall_phase fun _ phase => ∀ began writes, phase = .running began writes →
      Ordered (Database.seenAfter Write.apply began writes db.committed)
    · intro began writes heq
      rw [heq] at hnone
      obtain rfl : writes = [] := hnone
      exact hinv.committed
    · exact fun other _ => hinv.running other

/-- In every interleaving whose writes are in order, the entries of each record, by
`created_at`, are the history of its row. -/
theorem ordered_of_writesInOrder {tables : Tables} {clock : Nat} (hstart : Ordered tables)
    (hreach : AuditsReach table WritesInOrder (.initial tables clock) db) :
    Ordered db.committed := by
  have hinv : OrderInvariant db := by
    refine Database.Reaches.invariant hreach ?_ ?_ ?_ ?_ ?_
    · exact ⟨fun _ _ hmem => absurd hmem List.not_mem_nil,
        fun _ _ _ _ hmem => absurd hmem List.not_mem_nil, hstart, fun _ _ _ hphase => nomatch hphase⟩
    · intro db txn now hinv _ _
      obtain ⟨hkeyed, hapart, hcommitted, hrunning⟩ :=
        orderInvariant_setPhase hinv txn (rfl : (Phase.running now []).changes = [])
      exact ⟨hkeyed, hapart, hcommitted, hrunning⟩
    · intro db txn write since changes hinv hphase hallowed horder
      exact orderInvariant_perform hinv hphase hallowed horder
    · intro db txn since changes hinv hphase _
      exact orderInvariant_commit hinv hphase
    · intro db txn since changes hinv _
      exact orderInvariant_setPhase hinv txn rfl
  exact hinv.committed

end Invariant

namespace Sample

/-- There is no row and no entry. -/
def empty : Tables := ⟨fun _ => none, []⟩

/-- The group has got another name. -/
def renamed : Row := fun column =>
  if column = "name" then .string "Beirat" else group column

def groupKey : String := "00000000-0000-0000-0000-000000000001"

def insertGroup : Write where
  change := .insert group
  log := ⟨"groups", groupKey, .insert, none, some group, none, 0⟩

/-- The name is changed by a transaction that began at this instant. -/
def renameGroup (since : Nat) : Write where
  change := .update group renamed
  log := ⟨"groups", groupKey, .update, some group, some renamed, none, since⟩

/-- A transaction has inserted the group. -/
def inserted : Audits Bool :=
  [.start false 0, .perform false insertGroup].foldl (Database.after Write.apply) (.initial empty 0)

theorem ordered_empty : Ordered empty := fun _ => ⟨[], .refl _, .nil, rfl⟩

theorem reach_inserted : AuditsReach groups WritesInOrder (.initial empty 0) inserted := by
  refine Database.Reaches.refl.actions ⟨⟨rfl, Nat.le_refl _⟩, trivial,
    ⟨⟨0, [], rfl⟩, ⟨⟨groupKey, rfl, rfl⟩, settings, [], 0, [], rfl, rfl⟩, ?_⟩, ⟨nofun, ?_⟩, trivial⟩
  · rintro (_ | _) hother held hheld
    · exact absurd rfl hother
    · cases hheld
  · intro since changes _ log hlog
    cases hlog

/-- Renamed by a later transaction, the group has its history in order. -/
theorem ordered_renamedLater :
    Ordered ((([.commit false, .start true 1, .perform true (renameGroup 1), .commit true] :
      List (Action Bool Write)).foldl (Database.after Write.apply) inserted).committed) := by
  refine ordered_of_writesInOrder ordered_empty (reach_inserted.actions
    ⟨⟨0, _, rfl⟩, trivial, ⟨rfl, Nat.zero_le _⟩, trivial,
      ⟨⟨1, [], rfl⟩, ⟨⟨groupKey, groupKey, rfl, rfl, rfl, .inl rfl⟩, settings, [], 1, [], rfl, rfl⟩,
        ?_⟩, ⟨?_, ?_⟩, ⟨1, _, rfl⟩, trivial, trivial⟩)
  · rintro (_ | _) hother held hheld
    · cases hheld
    · exact absurd rfl hother
  · intro old hold
    obtain rfl := Option.some.inj hold
    rfl
  · intro since changes hphase log hlog _
    obtain ⟨rfl, -⟩ := Phase.running.inj hphase
    rw [List.mem_singleton.mp hlog]
    decide

end Sample

/-- A transaction that inserts a group and renames it leaves two entries with one
`created_at`. -/
theorem not_forall_ordered :
    ¬∀ (Txn : Type) (_ : DecidableEq Txn) (table : Table) (clock : Nat) (db : Audits Txn),
      table ∈ auditedTables → AuditsReach table (fun _ _ => True) (.initial Sample.empty clock) db →
      Ordered db.committed := by
  intro hall
  have hinserted : AuditsReach Sample.groups (fun _ _ => True) (.initial Sample.empty 0)
      Sample.inserted := Sample.reach_inserted.mono fun _ _ _ => trivial
  have hrename : Database.Possible Write.apply (WriteAllowed Sample.groups) (fun _ _ => True)
      Sample.inserted [.perform false (Sample.renameGroup 0), .commit false] := by
    refine ⟨⟨⟨0, _, rfl⟩, ⟨⟨Sample.groupKey, Sample.groupKey, rfl, rfl, rfl, .inl rfl⟩,
      Sample.settings, [], 0, _, rfl, rfl⟩, ?_⟩, trivial, ⟨0, _, rfl⟩, trivial, trivial⟩
    rintro (_ | _) hother held hheld
    · exact absurd rfl hother
    · cases hheld
  obtain ⟨ordered, hperm, hordered, -⟩ := hall Bool _ Sample.groups 0 _ (by decide)
    (hinserted.actions hrename) Sample.groupKey
  have hinstants : (ordered.map AuditLog.createdAt).Nodup :=
    List.pairwise_map.mpr (hordered.imp fun hlt => Nat.ne_of_lt hlt)
  rw [(hperm.map AuditLog.createdAt).nodup_iff] at hinstants
  exact absurd hinstants (by decide)

end Skolva.Audit
