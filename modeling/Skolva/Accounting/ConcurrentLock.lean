import Skolva.Accounting.Schema
import Skolva.Sql.Transaction

/-! # Bookings that run while a journal is being locked

Two triggers guard each other: an entry is refused if its journal is locked, and a journal
is locked only if its entries balance. Each sees what has been committed at its moment,
and the row locks of an insert and of the lock do not conflict.
-/

namespace Skolva.Accounting

open Sql

/-- The transactions: the one that locks the journal, and those that book in it. -/
inductive Party (Booking : Type) where
  | lock
  | booking (booking : Booking)
  deriving DecidableEq

/-- What the transactions do. Each row is seen by its `BEFORE` trigger first. Of the snapshot
on which the trigger of an entry asks for the flag, the number of its commits is kept. -/
inductive Move where
  | checkEntry (entry : Entry) (snapshot : Nat)
  | insertEntry (entry : Entry)
  | checkLock (old new : Journal)
  | lockJournal (new : Journal)

/-- What is locked: a row of `accounting_journal`, or a key of `accounting_entries`. -/
inductive Resource where
  | journal (id : Uuid)
  | entry (id : Uuid)
  deriving DecidableEq

namespace Move

/-- The rows a move writes. -/
def apply (_ : Nat) : Move → Tables → Tables
  | insertEntry entry, tables => { tables with entries := tables.entries ++ [entry] }
  | lockJournal new, tables =>
      { tables with journals := tables.journals.map fun old => if old.id = new.id then new else old }
  | _, tables => tables

/-- A foreign key locks the row it refers to against changes of its key; an update that
leaves the key alone locks its row against everything but that. -/
def locks : Move → List (Resource × RowLock)
  | checkEntry _ _ => []
  | insertEntry entry => [(.journal entry.journalId, .forKeyShare), (.entry entry.id, .forUpdate)]
  | checkLock old _ => [(.journal old.id, .forNoKeyUpdate)]
  | lockJournal new => [(.journal new.id, .forNoKeyUpdate)]

end Move

variable {Booking : Type} [DecidableEq Booking]

abbrev Ledgers (Booking : Type) := Database (Party Booking) Move Tables

/-- The latest move of a running transaction. -/
def latest (db : Ledgers Booking) (party : Party Booking) : Option Move :=
  match db.phase party with
  | .running _ moves => moves.getLast?
  | _ => none

/-- The moves of the transactions on one journal: the triggers accept, the row is the one
the trigger saw, and the constraints hold. -/
def Accepts (journalId : Uuid) (db : Ledgers Booking) (party : Party Booking) (move : Move) : Prop :=
  let tables := db.visible Move.apply party
  match party, move with
  | .booking _, .checkEntry entry snapshot =>
      entry.journalId = journalId ∧ snapshot = db.log.length ∧
        accountingPreventEntryChangeWhenLocked tables (some entry) none = .ok ()
  | .booking _, .insertEntry entry =>
      (∃ snapshot, latest db party = some (.checkEntry entry snapshot)) ∧
        entry.journalId = journalId ∧
        entry.checks = true ∧ entry.id ∉ tables.entries.map Entry.id ∧
        entry.journalId ∈ tables.journals.map Journal.id ∧ entry.accountCode ∈ tables.accounts
  | .lock, .checkLock old new =>
      old ∈ tables.journals ∧ old.id = journalId ∧ new.id = journalId ∧
        old.isLocked = false ∧ new.isLocked = true ∧
        accountingEnforceJournalLockRules tables old new = .ok ()
  | .lock, .lockJournal new =>
      (∃ old, latest db party = some (.checkLock old new)) ∧ new.id = journalId ∧
        new.isLocked = true ∧ new.checks = true
  | _, _ => False

/-- Row locks are respected. -/
def Allowed (journalId : Uuid) (db : Ledgers Booking) (party : Party Booking) (move : Move) : Prop :=
  Accepts journalId db party move ∧ db.Unblocked Move.locks party move

/-- The states that a locking transaction and any number of bookings can come to. -/
abbrev LedgersReach (journalId : Uuid) (meets : Ledgers Booking → Action (Party Booking) Move → Prop) :
    Ledgers Booking → Ledgers Booking → Prop :=
  Database.Reaches Move.apply (Allowed journalId) meets

/-- The entries that moves have inserted. -/
def insertedBy (moves : List Move) : List Entry :=
  moves.filterMap fun move =>
    match move with
    | .insertEntry entry => some entry
    | _ => none

/-- The live entries among them balance. -/
def Balances (moves : List Move) : Prop :=
  Numeric.sum (((insertedBy moves).filter fun entry => entry.deletedAt = none).map Entry.debit) =
    Numeric.sum (((insertedBy moves).filter fun entry => entry.deletedAt = none).map Entry.credit)

/-- If the journal is locked, it balances, and nothing was inserted by a transaction that
committed after the lock. -/
def LockSafe (journalId : Uuid) (db : Ledgers Booking) : Prop :=
  db.committed.isLocked journalId = some true →
    db.committed.sumDebit journalId = db.committed.sumCredit journalId ∧
    ∀ later lock earlier new, db.log = later ++ lock :: earlier → Move.lockJournal new ∈ lock.2 →
      ∀ commit ∈ later, insertedBy commit.2 = []

/-- The trigger of the lock has summed the entries. -/
def LockSummed (db : Ledgers Booking) : Prop :=
  ∃ since moves old new, db.phase .lock = .running since moves ∧ Move.checkLock old new ∈ moves

/-- The move writes the flag. -/
def Move.setsLock : Move → Bool
  | .lockJournal _ => true
  | _ => false

/-- The snapshot has the commits of the log that set the flag. -/
def SeesLock (db : Ledgers Booking) (snapshot : Nat) : Prop :=
  ∀ later lock earlier, db.log = later ++ lock :: earlier → lock.2.any Move.setsLock = true →
    earlier.length < snapshot

/-- A booking that commits while the lock is between its sums and its commit balances, and one
that commits after the lock has asked for the flag after it, for each of its entries. -/
def CommitsInTime (db : Ledgers Booking) : Action (Party Booking) Move → Prop
  | .commit party => ∀ since moves, db.phase party = .running since moves →
      (LockSummed db → Balances moves) ∧
      ∀ entry snapshot, .checkEntry entry snapshot ∈ moves → SeesLock db snapshot
  | _ => True

/-! ## The tables after some moves -/

section Moves

variable {journalId : Uuid} {moves : List Move}

/-- A booking only books in the journal. -/
def Move.Books (journalId : Uuid) : Move → Prop
  | .checkEntry entry _ | .insertEntry entry => entry.journalId = journalId
  | _ => False

/-- The lock writes the locked journal. -/
def Move.Locks (journalId : Uuid) : Move → Prop
  | .checkLock _ new | .lockJournal new => new.id = journalId ∧ new.isLocked = true
  | _ => False

theorem Numeric.sum_append (left right : List Numeric) :
    Numeric.sum (left ++ right) = (Numeric.sum left).add (Numeric.sum right) := by
  have hassoc : ∀ first second third : Numeric,
      first.add (second.add third) = (first.add second).add third := by
    intro first second third
    cases first <;> cases second <;> cases third <;> simp [Numeric.add, Int.add_assoc]
  induction left with
  | nil =>
      have hzero : ∀ value, Numeric.zero.add value = value := by
        intro value
        cases value <;> simp [Numeric.add, Numeric.zero]
      simp [Numeric.sum, hzero]
  | cons value left ih =>
      simp only [Numeric.sum, List.cons_append, List.foldr_cons] at ih ⊢
      rw [ih, hassoc]

theorem entries_seenAfter (since : Nat) (moves : List Move) (tables : Tables) :
    (Database.seenAfter Move.apply since moves tables).entries =
      tables.entries ++ insertedBy moves := by
  unfold Database.seenAfter
  induction moves generalizing tables with
  | nil => simp [insertedBy]
  | cons move moves ih =>
      rw [List.foldl_cons, ih]
      cases move <;> simp [Move.apply, insertedBy]

/-- Bookings leave the journals alone. -/
theorem journals_seenAfter (since : Nat) (tables : Tables)
    (hbooks : ∀ move ∈ moves, move.Books journalId) :
    (Database.seenAfter Move.apply since moves tables).journals = tables.journals := by
  unfold Database.seenAfter
  induction moves generalizing tables with
  | nil => rfl
  | cons move moves ih =>
      rw [List.forall_mem_cons] at hbooks
      rw [List.foldl_cons, ih _ hbooks.2]
      cases move with
      | checkEntry | insertEntry | checkLock => rfl
      | lockJournal => exact hbooks.1.elim

/-- The row that is written has the new flag. -/
theorem isLocked_apply_lockJournal (since : Nat) (new : Journal) (tables : Tables) :
    ((Move.lockJournal new).apply since tables).isLocked new.id =
      (tables.isLocked new.id).map fun _ => new.isLocked := by
  unfold Tables.isLocked Move.apply
  simp only [Option.map_map]
  induction tables.journals with
  | nil => rfl
  | cons old journals ih =>
      by_cases hold : old.id = new.id
      · simp [hold]
      · simpa [List.find?_cons, hold] using ih

/-- The lock leaves the entries alone, and the journal is locked once it has been written. -/
theorem isLocked_seenAfter (since : Nat) {tables : Tables} {locked : Bool}
    (hlocks : ∀ move ∈ moves, move.Locks journalId)
    (hfound : tables.isLocked journalId = some locked) :
    (Database.seenAfter Move.apply since moves tables).isLocked journalId =
      some (locked || moves.any Move.setsLock) := by
  unfold Database.seenAfter
  induction moves generalizing tables locked with
  | nil => simpa using hfound
  | cons move moves ih =>
      rw [List.forall_mem_cons] at hlocks
      rw [List.foldl_cons]
      cases move with
      | checkEntry | insertEntry => exact hlocks.1.elim
      | checkLock old new => simpa [Move.setsLock, Move.apply] using ih hlocks.2 hfound
      | lockJournal new =>
          obtain ⟨⟨rfl, hnew⟩, hrest⟩ := hlocks
          have hwritten := isLocked_apply_lockJournal since new tables
          rw [hfound, Option.map_some, hnew] at hwritten
          simpa [Move.setsLock] using ih hrest hwritten

theorem insertedBy_of_locks (hlocks : ∀ move ∈ moves, move.Locks journalId) :
    insertedBy moves = [] := by
  apply List.filterMap_eq_nil_iff.mpr
  intro move hmove
  cases move with
  | checkEntry | insertEntry => exact (hlocks _ hmove).elim
  | checkLock | lockJournal => rfl

/-- What is inserted adds to the sums of the journal. -/
theorem sums_seenAfter (since : Nat) (tables : Tables)
    (hinserted : ∀ entry ∈ insertedBy moves, entry.journalId = journalId) :
    (Database.seenAfter Move.apply since moves tables).liveEntriesOf journalId =
      tables.liveEntriesOf journalId ++
        (insertedBy moves).filter fun entry => entry.deletedAt = none := by
  have hall : (insertedBy moves).filter (fun entry => entry.journalId = journalId) =
      insertedBy moves := by
    apply List.filter_eq_self.mpr
    intro entry hentry
    simpa using hinserted entry hentry
  unfold Tables.liveEntriesOf Tables.entriesOf
  rw [entries_seenAfter, List.filter_append, List.filter_append, hall]

theorem balanced_seenAfter (since : Nat) {tables : Tables}
    (hinserted : ∀ entry ∈ insertedBy moves, entry.journalId = journalId)
    (hbalanced : tables.sumDebit journalId = tables.sumCredit journalId)
    (hmoves : Balances moves) :
    (Database.seenAfter Move.apply since moves tables).sumDebit journalId =
      (Database.seenAfter Move.apply since moves tables).sumCredit journalId := by
  unfold Tables.sumDebit Tables.sumCredit at hbalanced ⊢
  unfold Balances at hmoves
  rw [sums_seenAfter since tables hinserted, List.map_append, List.map_append,
    Numeric.sum_append, Numeric.sum_append, hbalanced, hmoves]

theorem journalId_of_books (hbooks : ∀ move ∈ moves, move.Books journalId) :
    ∀ entry ∈ insertedBy moves, entry.journalId = journalId := by
  intro entry hentry
  obtain ⟨move, hmove, hsome⟩ := List.mem_filterMap.mp hentry
  have hbooked := hbooks move hmove
  cases move with
  | insertEntry inserted =>
      obtain rfl := Option.some.inj hsome
      exact hbooked
  | checkEntry | checkLock | lockJournal => cases hsome

end Moves

/-! ## What holds throughout -/

section Invariant

variable {journalId : Uuid} {db : Ledgers Booking}

/-- What a transaction has done fits the tables: an entry has been checked before it is
inserted, while the lock runs the journal is not locked, and once the trigger has summed, it
balances. -/
def PhaseFits (journalId : Uuid) (tables : Tables) : Party Booking → Phase Move → Prop
  | .booking _, .running _ moves => (∀ move ∈ moves, move.Books journalId) ∧
      ∀ entry, Move.insertEntry entry ∈ moves → ∃ snapshot, Move.checkEntry entry snapshot ∈ moves
  | .lock, .idle => tables.isLocked journalId = some false
  | .lock, .running _ moves => tables.isLocked journalId = some false ∧
      (∀ move ∈ moves, move.Locks journalId) ∧
      (∀ new, Move.lockJournal new ∈ moves → ∃ old, Move.checkLock old new ∈ moves) ∧
      ∀ old new, Move.checkLock old new ∈ moves →
        tables.sumDebit journalId = tables.sumCredit journalId
  | _, _ => True

omit [DecidableEq Booking] in
/-- What a booking has done does not depend on the tables. -/
theorem PhaseFits.booking {tables : Tables} {booking : Booking} {phase : Phase Move}
    (hfits : PhaseFits journalId tables (.booking booking) phase) (other : Tables) :
    PhaseFits journalId other (.booking booking) phase := by
  cases phase with
  | idle | ended => trivial
  | running => exact hfits

/-- The triggers that have let entries pass have not seen a commit that sets the flag. -/
def ChecksEarly (log : List (Party Booking × List Move)) (phase : Phase Move) : Prop :=
  ∀ entry snapshot, Move.checkEntry entry snapshot ∈ phase.changes → snapshot ≤ log.length ∧
    ∀ later lock earlier, log = later ++ lock :: earlier → lock.2.any Move.setsLock = true →
      snapshot ≤ earlier.length

structure LockInvariant (journalId : Uuid) (db : Ledgers Booking) : Prop where
  flag : db.committed.isLocked journalId =
    some (db.log.any fun commit => commit.2.any Move.setsLock)
  phases : ∀ party, PhaseFits journalId db.committed party (db.phase party)
  early : ∀ party, ChecksEarly db.log (db.phase party)
  safe : LockSafe journalId db

/-- What the lock's trigger has accepted balances. -/
theorem balanced_of_enforce {tables : Tables} {old new : Journal} (hold : old.isLocked = false)
    (hnew : new.isLocked = true)
    (haccepted : accountingEnforceJournalLockRules tables old new = .ok ()) :
    tables.sumDebit new.id = tables.sumCredit new.id := by
  unfold accountingEnforceJournalLockRules at haccepted
  rw [if_pos ⟨hold, hnew⟩] at haccepted
  dsimp only at haccepted
  split at haccepted
  · cases haccepted
  · split at haccepted
    · cases haccepted
    next hbalanced => exact Decidable.not_not.mp hbalanced

omit [DecidableEq Booking] in
/-- One more move of a transaction. -/
theorem phaseFits_perform {party : Party Booking} {move : Move} {since : Nat} {moves : List Move}
    (hfits : PhaseFits journalId db.committed party (db.phase party))
    (hphase : db.phase party = .running since moves) (haccepts : Accepts journalId db party move) :
    PhaseFits journalId db.committed party (.running since (moves ++ [move])) := by
  rw [hphase] at hfits
  have hvisible : db.visible Move.apply party =
      Database.seenAfter Move.apply since moves db.committed := Database.visible_running hphase
  cases party with
  | booking booking =>
      obtain ⟨hbooks, hchecked⟩ := hfits
      constructor
      · intro other hother
        rcases List.mem_append.mp hother with hold | hnew
        · exact hbooks other hold
        · rw [List.mem_singleton.mp hnew]
          cases move with
          | checkEntry entry snapshot => exact haccepts.1
          | insertEntry entry => exact haccepts.2.1
          | checkLock | lockJournal => exact haccepts.elim
      · intro entry hentry
        rcases List.mem_append.mp hentry with hold | hnew
        · obtain ⟨snapshot, hsnapshot⟩ := hchecked entry hold
          exact ⟨snapshot, List.mem_append_left _ hsnapshot⟩
        · obtain rfl := List.mem_singleton.mp hnew
          obtain ⟨⟨snapshot, hlatest⟩, -⟩ := haccepts
          unfold latest at hlatest
          rw [hphase] at hlatest
          exact ⟨snapshot, List.mem_append_left _ (List.mem_of_getLast? hlatest)⟩
  | lock =>
      obtain ⟨hunlocked, hlocks, hchecked, hbalanced⟩ := hfits
      have hentries := entries_seenAfter since moves db.committed
      rw [insertedBy_of_locks hlocks, List.append_nil] at hentries
      cases move with
      | checkEntry | insertEntry => exact haccepts.elim
      | checkLock old new =>
          obtain ⟨-, -, hid, hold, hnew, hrules⟩ := haccepts
          have hsums := balanced_of_enforce hold hnew hrules
          rw [hvisible, hid] at hsums
          unfold Tables.sumDebit Tables.sumCredit Tables.liveEntriesOf Tables.entriesOf at hsums
          rw [hentries] at hsums
          refine ⟨hunlocked, ?_, ?_, fun _ _ _ => hsums⟩
          · intro other hother
            rcases List.mem_append.mp hother with hother | hother
            · exact hlocks other hother
            · rw [List.mem_singleton.mp hother]
              exact ⟨hid, hnew⟩
          · intro written hwritten
            have hearlier : Move.lockJournal written ∈ moves := by simpa using hwritten
            obtain ⟨seen, hseen⟩ := hchecked written hearlier
            exact ⟨seen, List.mem_append_left _ hseen⟩
      | lockJournal new =>
          obtain ⟨⟨old, hlatest⟩, hid, hnew, -⟩ := haccepts
          have hseen : Move.checkLock old new ∈ moves := by
            unfold latest at hlatest
            rw [hphase] at hlatest
            exact List.mem_of_getLast? hlatest
          refine ⟨hunlocked, ?_, ?_, ?_⟩
          · intro other hother
            rcases List.mem_append.mp hother with hother | hother
            · exact hlocks other hother
            · rw [List.mem_singleton.mp hother]
              exact ⟨hid, hnew⟩
          · intro written hwritten
            rcases List.mem_append.mp hwritten with hwritten | hwritten
            · obtain ⟨seen, hseen⟩ := hchecked written hwritten
              exact ⟨seen, List.mem_append_left _ hseen⟩
            · rw [Move.lockJournal.inj (List.mem_singleton.mp hwritten)]
              exact ⟨old, List.mem_append_left _ hseen⟩
          · intro _ _ _
            exact hbalanced old new hseen

/-- Bookings leave the flag alone. -/
theorem isLocked_of_books {since : Nat} {tables : Tables} {moves : List Move}
    (hbooks : ∀ move ∈ moves, move.Books journalId) :
    (Database.seenAfter Move.apply since moves tables).isLocked journalId =
      tables.isLocked journalId := by
  unfold Tables.isLocked
  rw [journals_seenAfter since tables hbooks]

omit [DecidableEq Booking] in
/-- Once the flag has been set, the trigger lets no entry pass. -/
theorem checksEarly_perform {party : Party Booking} {move : Move} {since : Nat} {moves : List Move}
    (hinv : LockInvariant journalId db) (hphase : db.phase party = .running since moves)
    (haccepts : Accepts journalId db party move) :
    ChecksEarly db.log (.running since (moves ++ [move])) := by
  intro entry snapshot hcheck
  rcases List.mem_append.mp hcheck with hold | hnew
  · have hearly := hinv.early party entry snapshot
    rw [hphase] at hearly
    exact hearly hold
  · obtain rfl := List.mem_singleton.mp hnew
    cases party with
    | lock => exact haccepts.elim
    | booking booking =>
        obtain ⟨rfl, rfl, htrigger⟩ := haccepts
        have hfits := hinv.phases (.booking booking)
        rw [hphase] at hfits
        rw [Database.visible_running hphase] at htrigger
        have hopen : db.committed.isLocked entry.journalId ≠ some true := by
          intro hlocked
          simp [accountingPreventEntryChangeWhenLocked, isLocked_of_books hfits.1, hlocked]
            at htrigger
        have hnever : (db.log.any fun commit => commit.2.any Move.setsLock) = false := by
          rw [hinv.flag] at hopen
          simpa using hopen
        refine ⟨Nat.le_refl _, fun later lock earlier hlog hsets => ?_⟩
        have hmem : lock ∈ db.log := by
          rw [hlog]
          exact List.mem_append_right _ List.mem_cons_self
        exact absurd hsets (List.any_eq_false.mp hnever lock hmem)

omit [DecidableEq Booking] in
/-- A commit hides no other from the snapshots taken before it. -/
theorem ChecksEarly.cons {log : List (Party Booking × List Move)} {phase : Phase Move}
    (hearly : ChecksEarly log phase) (commit : Party Booking × List Move) :
    ChecksEarly (commit :: log) phase := by
  intro entry snapshot hcheck
  obtain ⟨hle, hsplit⟩ := hearly entry snapshot hcheck
  refine ⟨Nat.le_succ_of_le hle, fun later lock earlier hlog hsets => ?_⟩
  cases later with
  | nil =>
      obtain ⟨-, rfl⟩ := List.cons.inj hlog
      exact hle
  | cons last later => exact hsplit later lock earlier (List.cons.inj hlog).2 hsets

omit [DecidableEq Booking] in
/-- A booking that commits while the journal is locked has inserted nothing: for each of its
entries the flag was asked for too early. -/
theorem insertedBy_of_locked (hinv : LockInvariant journalId db) {booking : Booking} {since : Nat}
    {moves : List Move} (hphase : db.phase (.booking booking) = .running since moves)
    (hlate : ∀ entry snapshot, Move.checkEntry entry snapshot ∈ moves → SeesLock db snapshot)
    (hlocked : db.committed.isLocked journalId = some true) : insertedBy moves = [] := by
  rw [List.eq_nil_iff_forall_not_mem]
  intro entry hentry
  obtain ⟨move, hmove, hsome⟩ := List.mem_filterMap.mp hentry
  cases move with
  | checkEntry | checkLock | lockJournal => cases hsome
  | insertEntry inserted =>
      have hfits := hinv.phases (.booking booking)
      rw [hphase] at hfits
      obtain ⟨snapshot, hcheck⟩ := hfits.2 inserted hmove
      rw [hinv.flag, Option.some.injEq, List.any_eq_true] at hlocked
      obtain ⟨lock, hlock, hsets⟩ := hlocked
      obtain ⟨later, earlier, hlog⟩ := List.append_of_mem hlock
      have hearly := hinv.early (.booking booking) inserted snapshot
      rw [hphase] at hearly
      exact absurd (hlate inserted snapshot hcheck later lock earlier hlog hsets)
        (Nat.not_lt_of_le ((hearly hcheck).2 later lock earlier hlog hsets))

/-- A booking commits, in time. -/
theorem lockInvariant_commit_booking (hinv : LockInvariant journalId db) {booking : Booking}
    {since : Nat} {moves : List Move} (hphase : db.phase (.booking booking) = .running since moves)
    (htime : CommitsInTime db (.commit (.booking booking))) :
    LockInvariant journalId (db.commitChanges Move.apply (.booking booking) since moves) := by
  have hfits := hinv.phases (.booking booking)
  rw [hphase] at hfits
  have hbooks := hfits.1
  have hlocked : (Database.seenAfter Move.apply since moves db.committed).isLocked journalId =
      db.committed.isLocked journalId := isLocked_of_books hbooks
  have hinserted := journalId_of_books hbooks
  have hnoLock : moves.any Move.setsLock = false := by
    apply List.any_eq_false.mpr
    intro move hmove
    cases move with
    | lockJournal => exact (hbooks _ hmove).elim
    | checkEntry | insertEntry | checkLock => simp [Move.setsLock]
  obtain ⟨hbalances, hlate⟩ := htime since moves hphase
  constructor
  · refine (hlocked.trans hinv.flag).trans (congrArg some ?_)
    rw [Database.commitChanges, List.any_cons, hnoLock, Bool.false_or]
  · refine Database.forall_phase (PhaseFits journalId _) trivial ?_
    intro other hother
    have hfits := hinv.phases other
    cases other with
    | booking => exact hfits.booking _
    | lock =>
        cases hlock : db.phase .lock with
        | idle =>
            rw [hlock] at hfits
            exact hlocked.trans hfits
        | ended => trivial
        | running begun done =>
            rw [hlock] at hfits
            obtain ⟨hunlocked, hlocks, hchecked, hbalanced⟩ := hfits
            refine ⟨hlocked.trans hunlocked, hlocks, hchecked, ?_⟩
            intro old new hsummed
            exact balanced_seenAfter since hinserted (hbalanced old new hsummed)
              (hbalances ⟨begun, done, old, new, hlock, hsummed⟩)
  · refine Database.forall_phase (fun _ => ChecksEarly _) (fun _ _ hcheck => ?_) ?_
    · exact absurd hcheck List.not_mem_nil
    · exact fun other _ => (hinv.early other).cons _
  · intro hafter
    have hbefore := hlocked.symm.trans hafter
    obtain ⟨hbalanced, hnone⟩ := hinv.safe hbefore
    have hempty := insertedBy_of_locked hinv hphase hlate hbefore
    refine ⟨balanced_seenAfter since hinserted hbalanced (by simp [Balances, hempty]), ?_⟩
    intro later lock earlier new hlog hnew commit hcommit
    cases later with
    | nil => cases hcommit
    | cons last later =>
        obtain ⟨rfl, hrest⟩ := List.cons.inj hlog
        rcases List.mem_cons.mp hcommit with rfl | hcommit
        · exact hempty
        · exact hnone later lock earlier new hrest hnew commit hcommit

/-- The lock commits. -/
theorem lockInvariant_commit_lock (hinv : LockInvariant journalId db) {since : Nat}
    {moves : List Move} (hphase : db.phase .lock = .running since moves) :
    LockInvariant journalId (db.commitChanges Move.apply .lock since moves) := by
  have hfits := hinv.phases .lock
  rw [hphase] at hfits
  obtain ⟨hunlocked, hlocks, hchecked, hbalanced⟩ := hfits
  have hafter := isLocked_seenAfter since hlocks hunlocked
  have hempty := insertedBy_of_locks hlocks
  have hnever : (db.log.any fun commit => commit.2.any Move.setsLock) = false :=
    Option.some.inj (hinv.flag.symm.trans hunlocked)
  constructor
  · refine hafter.trans (congrArg some ?_)
    rw [Database.commitChanges, List.any_cons, hnever, Bool.or_false, Bool.false_or]
  · refine Database.forall_phase (PhaseFits journalId _) trivial ?_
    intro other hother
    cases other with
    | booking booking => exact (hinv.phases (.booking booking)).booking _
    | lock => exact absurd rfl hother
  · refine Database.forall_phase (fun _ => ChecksEarly _) (fun _ _ hcheck => ?_) ?_
    · exact absurd hcheck List.not_mem_nil
    · exact fun other _ => (hinv.early other).cons _
  · intro hlocked
    have hset : moves.any Move.setsLock = true := by
      simpa using hafter.symm.trans hlocked
    obtain ⟨move, hmove, hsets⟩ := List.any_eq_true.mp hset
    cases move with
    | checkEntry | insertEntry | checkLock => cases hsets
    | lockJournal written =>
        obtain ⟨old, hsummed⟩ := hchecked written hmove
        refine ⟨balanced_seenAfter since (by simp [hempty]) (hbalanced old written hsummed)
          (by simp [Balances, hempty]), ?_⟩
        intro later lock earlier new hlog hnew commit hcommit
        -- Nothing has locked the journal before.
        cases later with
        | nil => cases hcommit
        | cons last later =>
            have hrest : db.log = later ++ lock :: earlier := (List.cons.inj hlog).2
            have hmem : lock ∈ db.log := by
              rw [hrest]
              exact List.mem_append_right _ List.mem_cons_self
            exact absurd (List.any_eq_true.mpr ⟨_, hnew, rfl⟩)
              (List.any_eq_false.mp hnever lock hmem)

/-- In every interleaving in which the bookings commit in time, a locked journal balances and
nothing is inserted in it after the lock. -/
theorem lockSafe_of_commitsInTime {tables : Tables} {clock : Nat}
    (hunlocked : tables.isLocked journalId = some false)
    (hreach : LedgersReach journalId CommitsInTime (.initial tables clock) db) :
    LockSafe journalId db := by
  have hinv : LockInvariant journalId db := by
    refine Database.Reaches.invariant hreach ?_ ?_ ?_ ?_ ?_
    · refine ⟨hunlocked, ?_, fun _ _ _ hcheck => absurd hcheck List.not_mem_nil, ?_⟩
      · intro party
        cases party with
        | lock => exact hunlocked
        | booking => trivial
      · intro hlocked
        exact absurd (hunlocked.symm.trans hlocked) (by simp)
    · intro db party now hinv hidle _
      refine ⟨hinv.flag, ?_, Database.forall_phase (fun _ => ChecksEarly db.log)
        (fun _ _ hcheck => absurd hcheck List.not_mem_nil) fun other _ => hinv.early other,
        hinv.safe⟩
      refine Database.forall_phase (PhaseFits journalId db.committed) ?_ fun other _ => hinv.phases other
      have hfits := hinv.phases party
      rw [hidle] at hfits
      cases party with
      | booking => exact ⟨by simp, by simp⟩
      | lock => exact ⟨hfits, by simp⟩
    · intro db party move since moves hinv hphase hallowed _
      refine ⟨hinv.flag, ?_, Database.forall_phase (fun _ => ChecksEarly db.log)
        (checksEarly_perform hinv hphase hallowed.1) fun other _ => hinv.early other, hinv.safe⟩
      exact Database.forall_phase (PhaseFits journalId db.committed)
        (phaseFits_perform (hinv.phases party) hphase hallowed.1) fun other _ => hinv.phases other
    · intro db party since moves hinv hphase htime
      cases party with
      | lock => exact lockInvariant_commit_lock hinv hphase
      | booking booking => exact lockInvariant_commit_booking hinv hphase htime
    · intro db party since moves hinv hphase
      refine ⟨hinv.flag, ?_, Database.forall_phase (fun _ => ChecksEarly db.log)
        (fun _ _ hcheck => absurd hcheck List.not_mem_nil) fun other _ => hinv.early other,
        hinv.safe⟩
      refine Database.forall_phase (PhaseFits journalId db.committed) ?_ fun other _ => hinv.phases other
      cases party <;> trivial
  exact hinv.safe

end Invariant

namespace ConcurrentSample

def journal : Journal where
  id := 1
  referenceType := none
  isLocked := false
  deletedAt := none

def entry : Entry where
  id := 2
  journalId := 1
  accountCode := "1000"
  debit := .cents 100
  credit := .cents 0
  deletedAt := none

def tables : Tables where
  accounts := ["1000"]
  journals := [journal]
  entries := []

def locked : Journal := { journal with isLocked := true }

/-- One booking has inserted its entry while the journal is being locked. -/
def bookThenLock : List (Action (Party Unit) Move) :=
  [.start (.booking ()) 0, .perform (.booking ()) (.checkEntry entry 0),
    .perform (.booking ()) (.insertEntry entry), .start .lock 0,
    .perform .lock (.checkLock journal locked), .perform .lock (.lockJournal locked)]

theorem possible_bookThenLock {meets : Ledgers Unit → Action (Party Unit) Move → Prop}
    (hmeets : ∀ db action, (∀ party, action ≠ .commit party) → meets db action) :
    Database.Possible Move.apply (Allowed 1) meets (.initial tables 0) bookThenLock := by
  refine ⟨⟨rfl, Nat.le_refl _⟩, hmeets _ _ nofun, ⟨⟨0, [], rfl⟩, ⟨rfl, rfl, rfl⟩, ?_⟩,
    hmeets _ _ nofun,
    ⟨⟨0, _, rfl⟩, ⟨⟨0, rfl⟩, rfl, by decide, by decide, by decide, by decide⟩, ?_⟩,
    hmeets _ _ nofun,
    ⟨rfl, Nat.le_refl _⟩, hmeets _ _ nofun,
    ⟨⟨0, [], rfl⟩, ⟨by decide, rfl, rfl, rfl, rfl, rfl⟩, ?_⟩, hmeets _ _ nofun,
    ⟨⟨0, _, rfl⟩, ⟨⟨journal, rfl⟩, rfl, rfl, by decide⟩, ?_⟩, hmeets _ _ nofun, trivial⟩
  all_goals
    rintro (_ | ⟨⟨⟩⟩) hother
    all_goals first | exact absurd rfl hother | decide

/-- The lock commits, and the booking gives up. -/
def lockAlone : List (Action (Party Unit) Move) :=
  bookThenLock ++ [.commit .lock, .rollback (.booking ())]

/-- The lock commits, and the booking after it. -/
def bookAfterLock : List (Action (Party Unit) Move) :=
  bookThenLock ++ [.commit .lock, .commit (.booking ())]

def reached (actions : List (Action (Party Unit) Move)) : Ledgers Unit :=
  actions.foldl (Database.after Move.apply) (.initial tables 0)

theorem reach_bookThenLock {meets : Ledgers Unit → Action (Party Unit) Move → Prop}
    (hmeets : ∀ db action, (∀ party, action ≠ .commit party) → meets db action) :
    LedgersReach 1 meets (.initial tables 0) (reached bookThenLock) :=
  Database.Reaches.refl.actions (possible_bookThenLock hmeets)

/-- Where the booking gives up, the lock is safe. -/
theorem lockSafe_lockAlone : LockSafe 1 (reached lockAlone) := by
  have hbooked : LedgersReach 1 CommitsInTime (.initial tables 0) (reached bookThenLock) := by
    apply reach_bookThenLock
    intro db action hnoCommit
    cases action with
    | commit party => exact absurd rfl (hnoCommit party)
    | start | perform | rollback => trivial
  have hcommit : CommitsInTime (reached bookThenLock) (.commit .lock) := by
    intro since moves hphase
    obtain ⟨rfl, rfl⟩ := Phase.running.inj hphase
    exact ⟨fun _ => rfl, fun _ _ hcheck => by simp at hcheck⟩
  have hreach := (hbooked.step (.commit .lock) ⟨0, _, rfl⟩ hcommit).step (.rollback (.booking ()))
    ⟨0, _, rfl⟩ trivial
  exact lockSafe_of_commitsInTime rfl hreach

end ConcurrentSample

/-- A booking that commits after the lock leaves the locked journal with the entry it has
inserted before. -/
theorem not_forall_lockSafe :
    ¬∀ (Booking : Type) (_ : DecidableEq Booking) (journalId : Uuid) (tables : Tables) (clock : Nat)
      (db : Ledgers Booking), tables.Constraints → tables.isLocked journalId = some false →
      LedgersReach journalId (fun _ _ => True) (.initial tables clock) db →
      (∀ party since moves, db.phase party ≠ .running since moves) →
      LockSafe journalId db := by
  intro hall
  have hbooked : LedgersReach 1 (fun _ _ => True) (.initial ConcurrentSample.tables 0)
      (ConcurrentSample.reached ConcurrentSample.bookThenLock) :=
    ConcurrentSample.reach_bookThenLock fun _ _ _ => trivial
  have hreach := (hbooked.step (.commit .lock) ⟨0, _, rfl⟩ trivial).step (.commit (.booking ()))
    ⟨0, _, rfl⟩ trivial
  have hfinished : ∀ party since moves,
      (ConcurrentSample.reached ConcurrentSample.bookAfterLock).phase party ≠
        .running since moves := by
    rintro (_ | ⟨⟨⟩⟩) since moves hrunning <;> cases hrunning
  have hsafe := hall Unit _ 1 ConcurrentSample.tables 0 _ (by decide) rfl hreach hfinished rfl
  exact absurd hsafe.1 (by decide)

end Skolva.Accounting
