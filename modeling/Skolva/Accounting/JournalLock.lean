import Skolva.Accounting.Schema
import Mathlib.Logic.Relation

/-! # Double-entry safety of the journal lock

Balance is checked only when a journal goes from unlocked to locked. That every
locked journal stays balanced rests on the entry triggers, which must keep any
entry from entering, leaving or changing inside it. They look only at the
journal an entry belongs to after an update, so an entry can leave. The second
way out is an update that hands the key of an unlocked journal to a locked one.
Without these two kinds of statement the lock is safe along every run.
-/

namespace Skolva.Accounting

/-! ## Runs of statements -/

/-- Every journal with `is_locked = TRUE` has equal sums over its live entries. -/
def Ledger.LockedBalanced (ledger : Ledger) : Prop :=
  ∀ journal ∈ ledger.tables.journals, journal.isLocked = true →
    ledger.tables.sumDebit journal.id = ledger.tables.sumCredit journal.id

def Ledger.Locked (ledger : Ledger) (journalId : Uuid) : Prop :=
  ledger.tables.isLocked journalId = some true

/-- Two ledgers with the same rows, scanned in possibly different orders. -/
structure SameRows (left right : Ledger) : Prop where
  accounts : left.tables.accounts = right.tables.accounts
  journals : left.tables.journals.Perm right.tables.journals
  entries : left.tables.entries.Perm right.tables.entries

/-- One accepted statement out of those `allowed` at its starting state. It may
scan the rows in any order and run with any setting of `app.allow_delete`. -/
inductive Step (allowed : Ledger → Statement → Prop) (before after : Ledger) : Prop where
  | statement (scan : Ledger) (allowDelete : Option String) (statement : Statement)
      (hscan : SameRows before scan) (hallowed : allowed scan statement)
      (hexecute : execute allowDelete scan statement = .ok after)

/-- A step throughout which the given journal is locked. -/
def LockedStep (allowed : Ledger → Statement → Prop) (journalId : Uuid)
    (before after : Ledger) : Prop :=
  before.Locked journalId ∧ Step allowed before after ∧ after.Locked journalId

/-- In every state reached, locked journals are balanced, and the entries of a
journal are the same rows from there on for as long as it stays locked. -/
def DoubleEntrySafe (allowed : Ledger → Statement → Prop) (start : Ledger) : Prop :=
  ∀ reached, Relation.ReflTransGen (Step allowed) start reached →
    reached.LockedBalanced ∧
    ∀ journalId later, Relation.ReflTransGen (LockedStep allowed journalId) reached later →
      (reached.tables.entriesOf journalId).Perm (later.tables.entriesOf journalId)

/-- No update takes an entry out of a locked journal, and none gives a journal
that is locked, and stays so, the key of an unlocked one. -/
def Contained (ledger : Ledger) : Statement → Prop
  | .updateEntries set =>
      ∀ entry ∈ ledger.tables.entries, ∀ new, set entry = some new →
        ledger.Locked entry.journalId → new.journalId = entry.journalId
  | .updateJournals set =>
      ∀ old ∈ ledger.tables.journals, ∀ new, set old = some new →
        old.isLocked = true → new.isLocked = true →
          ledger.tables.isLocked new.id ≠ some false
  | _ => True

/-! ## Reading the tables -/

theorem Tables.isLocked_eq_some_iff {tables : Tables} (constraints : tables.Constraints)
    (journalId : Uuid) (locked : Bool) :
    tables.isLocked journalId = some locked ↔
      ∃ journal ∈ tables.journals, journal.id = journalId ∧ journal.isLocked = locked := by
  have hfind := Sql.find?_key_eq_some_iff Journal.id constraints.journalKeys journalId
  unfold isLocked
  rw [Option.map_eq_some_iff]
  constructor
  · rintro ⟨journal, hfound, hlocked⟩
    obtain ⟨hmem, hid⟩ := (hfind journal).mp hfound
    exact ⟨journal, hmem, hid, hlocked⟩
  · rintro ⟨journal, hmem, hid, hlocked⟩
    exact ⟨journal, (hfind journal).mpr ⟨hmem, hid⟩, hlocked⟩

/-- A locked journal's entries are read alike from ledgers with the same rows. -/
theorem SameRows.isLocked_eq {left right : Ledger} (hsame : SameRows left right)
    (journalId : Uuid) : left.tables.isLocked journalId = right.tables.isLocked journalId := by
  apply Option.ext
  intro locked
  simp only [Tables.isLocked_eq_some_iff left.constraints,
    Tables.isLocked_eq_some_iff right.constraints, hsame.journals.mem_iff]

theorem SameRows.entriesOf_perm {left right : Ledger} (hsame : SameRows left right)
    (journalId : Uuid) :
    (left.tables.entriesOf journalId).Perm (right.tables.entriesOf journalId) :=
  hsame.entries.filter _

/-- The two sums of a journal depend only on the rows it has. -/
theorem sums_eq_of_perm {left right : Tables} {journalId : Uuid}
    (hperm : (left.entriesOf journalId).Perm (right.entriesOf journalId)) :
    left.sumDebit journalId = right.sumDebit journalId ∧
      left.sumCredit journalId = right.sumCredit journalId :=
  ⟨Numeric.sum_perm ((hperm.filter _).map _), Numeric.sum_perm ((hperm.filter _).map _)⟩

theorem SameRows.lockedBalanced {left right : Ledger} (hsame : SameRows left right)
    (hbalanced : left.LockedBalanced) : right.LockedBalanced := by
  intro journal hmem hlocked
  have hsums := sums_eq_of_perm (hsame.entriesOf_perm journal.id)
  rw [← hsums.1, ← hsums.2]
  exact hbalanced journal (hsame.journals.mem_iff.mpr hmem) hlocked

/-- A journal without entries is balanced. -/
theorem sums_eq_of_no_entries {tables : Tables} {journalId : Uuid}
    (hnone : ∀ entry ∈ tables.entries, entry.journalId ≠ journalId) :
    tables.sumDebit journalId = tables.sumCredit journalId := by
  have hempty : tables.entriesOf journalId = [] :=
    List.filter_eq_nil_iff.mpr (fun entry hmem => by simpa using hnone entry hmem)
  simp [Tables.sumDebit, Tables.sumCredit, Tables.liveEntriesOf, hempty]

/-! ## What the triggers let through -/

theorem lockRules_ok {tables : Tables} {old new : Journal}
    (hok : accountingEnforceJournalLockRules tables old new = .ok ())
    (hold : old.isLocked = false) (hnew : new.isLocked = true) :
    tables.sumDebit new.id = tables.sumCredit new.id := by
  simp only [accountingEnforceJournalLockRules, hold, hnew, and_self, ↓reduceIte] at hok
  split at hok
  · cases hok
  · split at hok
    · cases hok
    next hequal => simpa using hequal

theorem preventEntryChange_ok {tables : Tables} {new old : Option Entry} {journalId : Uuid}
    (hok : accountingPreventEntryChangeWhenLocked tables new old = .ok ())
    (hjournal : (new.map Entry.journalId).or (old.map Entry.journalId) = some journalId) :
    tables.isLocked journalId ≠ some true := by
  simp only [accountingPreventEntryChangeWhenLocked, hjournal] at hok
  split at hok
  · cases hok
  next hunlocked => exact hunlocked

/-- What an accepted statement on the entries does: the journals stay, and no
entry is in a locked journal that the statement writes to. -/
theorem changeRows_insertEntries {allowDelete : Option String} {tables out : Tables}
    {rows : List Entry} (hrun : changeRows allowDelete tables (.insertEntries rows) = .ok out) :
    out = { tables with entries := tables.entries ++ rows } ∧
      ∀ new ∈ rows, tables.isLocked new.journalId ≠ some true := by
  simp only [changeRows] at hrun
  obtain ⟨entries, hentries, hout⟩ := Sql.ok_of_bind hrun
  cases hout
  obtain ⟨rfl, hbefore⟩ := Sql.insertRows_ok _ _ _ _ hentries
  refine ⟨rfl, ?_⟩
  intro new hmem
  obtain ⟨seen, hcheck⟩ := hbefore new hmem
  obtain ⟨_, htrigger, -⟩ := Sql.ok_of_bind hcheck
  exact preventEntryChange_ok htrigger rfl

theorem changeRows_updateEntries {allowDelete : Option String} {tables out : Tables}
    {set : Entry → Option Entry}
    (hrun : changeRows allowDelete tables (.updateEntries set) = .ok out) :
    out = { tables with entries := tables.entries.map (Sql.updated set) } ∧
      ∀ old ∈ tables.entries, ∀ new, set old = some new →
        tables.isLocked new.journalId ≠ some true := by
  simp only [changeRows] at hrun
  obtain ⟨entries, hentries, hout⟩ := Sql.ok_of_bind hrun
  cases hout
  obtain ⟨rfl, hbefore⟩ := Sql.updateRows_ok _ _ _ _ _ hentries
  refine ⟨by simp, ?_⟩
  intro old hmem new hset
  obtain ⟨seen, later, hcheck⟩ := hbefore old hmem new hset
  obtain ⟨_, htrigger, -⟩ := Sql.ok_of_bind hcheck
  exact preventEntryChange_ok htrigger rfl

theorem changeRows_deleteEntries {allowDelete : Option String} {tables out : Tables}
    {which : Entry → Bool}
    (hrun : changeRows allowDelete tables (.deleteEntries which) = .ok out) :
    out = { tables with entries := tables.entries.filter (fun entry => !which entry) } ∧
      ∀ old ∈ tables.entries, which old = true → tables.isLocked old.journalId ≠ some true := by
  simp only [changeRows] at hrun
  obtain ⟨entries, hentries, hout⟩ := Sql.ok_of_bind hrun
  cases hout
  obtain ⟨rfl, hbefore⟩ := Sql.deleteRows_ok _ _ _ _ _ hentries
  refine ⟨by simp, ?_⟩
  intro old hmem hwhich
  obtain ⟨_, -, htrigger⟩ := Sql.ok_of_bind (hbefore old hmem hwhich)
  exact preventEntryChange_ok htrigger rfl

theorem changeRows_insertJournals {allowDelete : Option String} {tables out : Tables}
    {rows : List Journal}
    (hrun : changeRows allowDelete tables (.insertJournals rows) = .ok out) :
    out = { tables with journals := tables.journals ++ rows } := by
  simp only [changeRows] at hrun
  obtain ⟨journals, hjournals, hout⟩ := Sql.ok_of_bind hrun
  cases hout
  rw [(Sql.insertRows_ok _ _ _ _ hjournals).1]

theorem changeRows_updateJournals {allowDelete : Option String} {tables out : Tables}
    {set : Journal → Option Journal}
    (hrun : changeRows allowDelete tables (.updateJournals set) = .ok out) :
    out = { tables with journals := tables.journals.map (Sql.updated set) } ∧
      ∀ old ∈ tables.journals, ∀ new, set old = some new →
        old.isLocked = false → new.isLocked = true →
          tables.sumDebit new.id = tables.sumCredit new.id := by
  simp only [changeRows] at hrun
  obtain ⟨journals, hjournals, hout⟩ := Sql.ok_of_bind hrun
  cases hout
  obtain ⟨rfl, hbefore⟩ := Sql.updateRows_ok _ _ _ _ _ hjournals
  refine ⟨by simp, ?_⟩
  intro old hmem new hset hold hnew
  obtain ⟨seen, later, hcheck⟩ := hbefore old hmem new hset
  obtain ⟨_, htrigger, -⟩ := Sql.ok_of_bind hcheck
  exact lockRules_ok htrigger hold hnew

theorem changeRows_deleteJournals {allowDelete : Option String} {tables out : Tables}
    {which : Journal → Bool}
    (hrun : changeRows allowDelete tables (.deleteJournals which) = .ok out) :
    out = { tables with journals := tables.journals.filter (fun journal => !which journal) } := by
  simp only [changeRows] at hrun
  obtain ⟨journals, hjournals, hout⟩ := Sql.ok_of_bind hrun
  cases hout
  rw [(Sql.deleteRows_ok _ _ _ _ _ hjournals).1, List.nil_append]

theorem changeRows_of_execute {allowDelete : Option String} {ledger after : Ledger}
    {statement : Statement} (hexecute : execute allowDelete ledger statement = .ok after) :
    changeRows allowDelete ledger.tables statement = .ok after.tables := by
  unfold execute at hexecute
  split at hexecute
  · cases hexecute
  next tables hrun =>
    split at hexecute
    · cases hexecute
      exact hrun
    · cases hexecute

/-! ## One statement -/

/-- A contained statement keeps the entries of every locked journal row by row. -/
theorem entriesOf_execute {allowDelete : Option String} {ledger after : Ledger}
    {statement : Statement} (hcontained : Contained ledger statement)
    (hexecute : execute allowDelete ledger statement = .ok after)
    {journalId : Uuid} (hlocked : ledger.Locked journalId) :
    after.tables.entriesOf journalId = ledger.tables.entriesOf journalId := by
  have hrun := changeRows_of_execute hexecute
  have hother : ∀ entry : Entry, ledger.tables.isLocked entry.journalId ≠ some true →
      entry.journalId ≠ journalId := by
    intro entry hunlocked heq
    exact hunlocked (heq ▸ hlocked)
  cases statement with
  | insertJournals rows =>
      rw [changeRows_insertJournals hrun]
      rfl
  | updateJournals set =>
      rw [(changeRows_updateJournals hrun).1]
      rfl
  | deleteJournals which =>
      rw [changeRows_deleteJournals hrun]
      rfl
  | insertEntries rows =>
      obtain ⟨hout, hrows⟩ := changeRows_insertEntries hrun
      have hnone : rows.filter (fun entry => entry.journalId = journalId) = [] :=
        List.filter_eq_nil_iff.mpr (fun entry hmem => by
          simpa using hother entry (hrows entry hmem))
      simp [hout, Tables.entriesOf, List.filter_append, hnone]
  | updateEntries set =>
      obtain ⟨hout, hrows⟩ := changeRows_updateEntries hrun
      rw [hout]
      -- A selected entry is outside the journal after the update, so also before.
      apply Sql.filter_map_updated
      intro entry hmem new hset
      have hnew := hother new (hrows entry hmem new hset)
      refine ⟨?_, by simpa using hnew⟩
      rw [decide_eq_false_iff_not]
      intro hold
      have hstays := hcontained entry hmem new hset (by rw [hold]; exact hlocked)
      exact hnew (hstays.trans hold)
  | deleteEntries which =>
      obtain ⟨hout, hrows⟩ := changeRows_deleteEntries hrun
      rw [hout]
      simp only [Tables.entriesOf, List.filter_filter]
      apply List.filter_congr
      intro entry hmem
      cases hwhich : which entry with
      | false => simp
      | true => simpa using hother entry (hrows entry hmem hwhich)

/-- Where every journal locked afterwards was locked before, balance carries over. -/
theorem lockedBalanced_of_journals_eq {ledger after : Ledger}
    (hbalanced : ledger.LockedBalanced)
    (hjournals : ∀ journal ∈ after.tables.journals, journal.isLocked = true →
      journal ∈ ledger.tables.journals)
    (hentries : ∀ journalId, ledger.Locked journalId →
      after.tables.entriesOf journalId = ledger.tables.entriesOf journalId) :
    after.LockedBalanced := by
  intro journal hmem hlocked
  have hbefore := hjournals journal hmem hlocked
  have hlockedBefore : ledger.Locked journal.id :=
    (Tables.isLocked_eq_some_iff ledger.constraints journal.id true).mpr
      ⟨journal, hbefore, rfl, hlocked⟩
  have hsums := sums_eq_of_perm (List.Perm.of_eq (hentries journal.id hlockedBefore))
  rw [hsums.1, hsums.2]
  exact hbalanced journal hbefore hlocked

/-- An update of the journals leaves every locked journal balanced: it was locked
under its key before, or passed the check on locking, or has no entries. -/
theorem lockedBalanced_updateJournals {allowDelete : Option String} {ledger after : Ledger}
    {set : Journal → Option Journal} (hcontained : Contained ledger (.updateJournals set))
    (hexecute : execute allowDelete ledger (.updateJournals set) = .ok after)
    (hbalanced : ledger.LockedBalanced) : after.LockedBalanced := by
  obtain ⟨hout, hchecked⟩ := changeRows_updateJournals (changeRows_of_execute hexecute)
  intro journal hmem hlocked
  have hsums : ∀ journalId, after.tables.sumDebit journalId = ledger.tables.sumDebit journalId ∧
      after.tables.sumCredit journalId = ledger.tables.sumCredit journalId := by
    intro journalId
    rw [hout]
    exact ⟨rfl, rfl⟩
  rw [(hsums journal.id).1, (hsums journal.id).2]
  rw [hout] at hmem
  obtain ⟨old, hold, rfl⟩ := List.mem_map.mp hmem
  cases hset : set old with
  | none =>
      simp only [Sql.updated, hset, Option.getD_none] at hlocked ⊢
      exact hbalanced old hold hlocked
  | some new =>
      simp only [Sql.updated, hset, Option.getD_some] at hlocked ⊢
      cases hwas : old.isLocked with
      | false => exact hchecked old hold new hset hwas hlocked
      | true =>
          have hkey := hcontained old hold new hset hwas hlocked
          cases hkeyed : ledger.tables.isLocked new.id with
          | some locked =>
              have hlockedKey : locked = true := by
                cases locked with
                | true => rfl
                | false => exact absurd hkeyed hkey
              obtain ⟨holder, hholder, hid, hholderLocked⟩ :=
                (Tables.isLocked_eq_some_iff ledger.constraints new.id locked).mp hkeyed
              rw [← hid]
              exact hbalanced holder hholder (hholderLocked.trans hlockedKey)
          | none =>
              -- No journal had this key, so by the foreign key no entry refers to it.
              apply sums_eq_of_no_entries
              intro entry hentry heq
              obtain ⟨holder, hholder, hid⟩ :=
                List.mem_map.mp (ledger.constraints.journalReference entry hentry)
              have hfound := (Tables.isLocked_eq_some_iff ledger.constraints new.id
                holder.isLocked).mpr ⟨holder, hholder, hid.trans heq, rfl⟩
              rw [hkeyed] at hfound
              cases hfound

/-- New journals have no entries, so those inserted as locked are balanced. -/
theorem lockedBalanced_insertJournals {allowDelete : Option String} {ledger after : Ledger}
    {rows : List Journal} (hexecute : execute allowDelete ledger (.insertJournals rows) = .ok after)
    (hbalanced : ledger.LockedBalanced) : after.LockedBalanced := by
  have hout := changeRows_insertJournals (changeRows_of_execute hexecute)
  intro journal hmem hlocked
  have hkeys := after.constraints.journalKeys
  rw [hout] at hmem hkeys ⊢
  rcases List.mem_append.mp hmem with hbefore | hnew
  · exact hbalanced journal hbefore hlocked
  · apply sums_eq_of_no_entries
    intro entry hentry heq
    rw [List.map_append, List.nodup_append] at hkeys
    exact hkeys.2.2 _ (ledger.constraints.journalReference entry hentry) _
      (List.mem_map_of_mem hnew) heq

theorem lockedBalanced_execute {allowDelete : Option String} {ledger after : Ledger}
    {statement : Statement} (hcontained : Contained ledger statement)
    (hexecute : execute allowDelete ledger statement = .ok after)
    (hbalanced : ledger.LockedBalanced) : after.LockedBalanced := by
  have hentries := fun journalId (hlocked : ledger.Locked journalId) =>
    entriesOf_execute hcontained hexecute hlocked
  have hrun := changeRows_of_execute hexecute
  cases statement with
  | insertJournals rows => exact lockedBalanced_insertJournals hexecute hbalanced
  | updateJournals set => exact lockedBalanced_updateJournals hcontained hexecute hbalanced
  | deleteJournals which =>
      refine lockedBalanced_of_journals_eq hbalanced ?_ hentries
      intro journal hmem _
      rw [changeRows_deleteJournals hrun] at hmem
      exact (List.mem_filter.mp hmem).1
  | insertEntries rows =>
      refine lockedBalanced_of_journals_eq hbalanced ?_ hentries
      intro journal hmem _
      rwa [(changeRows_insertEntries hrun).1] at hmem
  | updateEntries set =>
      refine lockedBalanced_of_journals_eq hbalanced ?_ hentries
      intro journal hmem _
      rwa [(changeRows_updateEntries hrun).1] at hmem
  | deleteEntries which =>
      refine lockedBalanced_of_journals_eq hbalanced ?_ hentries
      intro journal hmem _
      rwa [(changeRows_deleteEntries hrun).1] at hmem

/-! ## Whole runs -/

theorem SameRows.locked {left right : Ledger} (hsame : SameRows left right) {journalId : Uuid}
    (hlocked : left.Locked journalId) : right.Locked journalId := by
  unfold Ledger.Locked at hlocked ⊢
  rwa [← hsame.isLocked_eq journalId]

theorem Step.lockedBalanced {before after : Ledger} (hstep : Step Contained before after)
    (hbalanced : before.LockedBalanced) : after.LockedBalanced := by
  obtain ⟨scan, allowDelete, statement, hscan, hcontained, hexecute⟩ := hstep
  exact lockedBalanced_execute hcontained hexecute (hscan.lockedBalanced hbalanced)

theorem Step.entriesOf_perm {before after : Ledger} (hstep : Step Contained before after)
    {journalId : Uuid} (hlocked : before.Locked journalId) :
    (before.tables.entriesOf journalId).Perm (after.tables.entriesOf journalId) := by
  obtain ⟨scan, allowDelete, statement, hscan, hcontained, hexecute⟩ := hstep
  rw [entriesOf_execute hcontained hexecute (hscan.locked hlocked)]
  exact hscan.entriesOf_perm journalId

/-- The lock is safe along every run of contained statements, from any state in
which the locked journals are balanced. -/
theorem doubleEntrySafe_of_contained (start : Ledger) (hbalanced : start.LockedBalanced) :
    DoubleEntrySafe Contained start := by
  intro reached hreach
  refine ⟨?_, ?_⟩
  · induction hreach with
    | refl => exact hbalanced
    | tail _ hstep ih => exact hstep.lockedBalanced ih
  · intro journalId later hlater
    induction hlater with
    | refl => exact List.Perm.refl _
    | tail _ hstep ih => exact ih.trans (hstep.2.1.entriesOf_perm hstep.1)

/-! ## The two ways out of a locked journal -/

/-- A locked journal with a booking of one euro, and an empty unlocked one. -/
def bookedLedger : Ledger where
  tables := {
    accounts := ["1200", "8400"]
    journals := [⟨1, none, true, none⟩, ⟨2, none, false, none⟩]
    entries := [
      ⟨11, 1, "1200", .cents 100, .cents 0, none⟩,
      ⟨12, 1, "8400", .cents 0, .cents 100, none⟩] }
  constraints := by decide

theorem bookedLedger_lockedBalanced : bookedLedger.LockedBalanced := by
  unfold Ledger.LockedBalanced
  decide

theorem bookedLedger_doubleEntrySafe : DoubleEntrySafe Contained bookedLedger :=
  doubleEntrySafe_of_contained bookedLedger bookedLedger_lockedBalanced

/-- `UPDATE accounting_entries SET journal_id = 2 WHERE id = 11`. -/
def reparent : Statement :=
  .updateEntries fun entry => if entry.id = 11 then some { entry with journalId := 2 } else none

/-- The ledger after `reparent`: the locked journal has only its credit left. -/
def reparentedLedger : Ledger where
  tables := { bookedLedger.tables with
    entries := [
      ⟨11, 2, "1200", .cents 100, .cents 0, none⟩,
      ⟨12, 1, "8400", .cents 0, .cents 100, none⟩] }
  constraints := by decide

theorem execute_reparent : execute none bookedLedger reparent = .ok reparentedLedger := rfl

/-- Without a restriction on statements the lock is not safe: moving an entry out
of a locked journal is accepted and leaves that journal unbalanced. -/
theorem not_doubleEntrySafe :
    ¬ ∀ start : Ledger, start.LockedBalanced → DoubleEntrySafe (fun _ _ => True) start := by
  intro hsafe
  have hstep : Step (fun _ _ => True) bookedLedger reparentedLedger :=
    .statement bookedLedger none reparent ⟨rfl, .refl _, .refl _⟩ trivial execute_reparent
  have hreached := hsafe bookedLedger bookedLedger_lockedBalanced reparentedLedger
    (.single hstep)
  have hequal := hreached.1 ⟨1, none, true, none⟩ (by decide) rfl
  revert hequal
  decide

/-- An unlocked journal with a single booking, and an empty locked one. -/
def pendingLedger : Ledger where
  tables := {
    accounts := ["1200"]
    journals := [⟨1, none, false, none⟩, ⟨2, none, true, none⟩]
    entries := [⟨11, 1, "1200", .cents 100, .cents 0, none⟩] }
  constraints := by decide

/-- `UPDATE accounting_journal SET id = CASE id WHEN 1 THEN 3 ELSE 1 END`. -/
def handOver : Statement :=
  .updateJournals fun journal => some { journal with id := if journal.id = 1 then 3 else 1 }

-- The locked journal takes over the key, and with it the unbalanced booking.
example : (match execute none pendingLedger handOver with
    | .ok after => after.tables.isLocked 1 == some true &&
        after.tables.sumDebit 1 != after.tables.sumCredit 1
    | .error _ => false) = true := by
  decide

end Skolva.Accounting
