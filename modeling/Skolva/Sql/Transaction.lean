import Mathlib.Logic.Function.Basic

/-! # Transactions under READ COMMITTED

A statement sees what has been committed when it begins, and what its own transaction
has done. Rows are locked from a statement that changes or refers to them until the
transaction ends.
-/

namespace Skolva.Sql

/-! ## Row locks -/

/-- The modes in which a row can be locked, weakest first. -/
inductive RowLock where
  | forKeyShare
  | forShare
  | forNoKeyUpdate
  | forUpdate
  deriving DecidableEq

/-- The modes that two transactions cannot hold on one row. -/
def RowLock.conflicts : RowLock → RowLock → Bool
  | .forKeyShare, .forUpdate => true
  | .forKeyShare, _ => false
  | .forShare, .forNoKeyUpdate | .forShare, .forUpdate => true
  | .forShare, _ => false
  | .forNoKeyUpdate, .forKeyShare => false
  | .forNoKeyUpdate, _ => true
  | .forUpdate, _ => true

/-! ## Databases -/

/-- What a transaction has come to. A running one has its `NOW()`, and what it has done so
far, latest last. -/
inductive Phase (Change : Type) where
  | idle
  | running (since : Nat) (changes : List Change)
  | ended

/-- What a transaction has done and not yet committed. -/
def Phase.changes {Change : Type} : Phase Change → List Change
  | .running _ changes => changes
  | _ => []

structure Database (Txn Change Table : Type) where
  committed : Table
  clock : Nat
  phase : Txn → Phase Change
  /-- The transactions that have committed, latest first. -/
  log : List (Txn × List Change)

inductive Action (Txn Change : Type) where
  | start (txn : Txn) (now : Nat)
  | perform (txn : Txn) (change : Change)
  | commit (txn : Txn)
  | rollback (txn : Txn)

namespace Database

variable {Txn Change Table Resource : Type}

/-- No transaction has begun. -/
def initial (table : Table) (clock : Nat) : Database Txn Change Table where
  committed := table
  clock := clock
  phase := fun _ => .idle
  log := []

/-- No other transaction holds a lock that conflicts with those the change takes. -/
def Unblocked (locks : Change → List (Resource × RowLock)) (db : Database Txn Change Table)
    (txn : Txn) (change : Change) : Prop :=
  ∀ other, other ≠ txn → ∀ held ∈ (db.phase other).changes.flatMap locks,
    ∀ wanted ∈ locks change, held.1 = wanted.1 → held.2.conflicts wanted.2 = false

section Actions

variable [DecidableEq Txn] (apply : Nat → Change → Table → Table)

/-- The tables with these changes made. -/
def seenAfter (since : Nat) (changes : List Change) (table : Table) : Table :=
  changes.foldl (fun table change => apply since change table) table

/-- What a transaction sees. -/
def visible (db : Database Txn Change Table) (txn : Txn) : Table :=
  match db.phase txn with
  | .running since changes => seenAfter apply since changes db.committed
  | _ => db.committed

def setPhase (db : Database Txn Change Table) (txn : Txn) (phase : Phase Change) :
    Database Txn Change Table :=
  { db with phase := Function.update db.phase txn phase }

/-- The transaction has committed. -/
def commitChanges (db : Database Txn Change Table) (txn : Txn) (since : Nat)
    (changes : List Change) : Database Txn Change Table where
  committed := seenAfter apply since changes db.committed
  clock := db.clock
  phase := Function.update db.phase txn .ended
  log := (txn, changes) :: db.log

/-- The state after an action. -/
def after (db : Database Txn Change Table) : Action Txn Change → Database Txn Change Table
  | .start txn now => { db.setPhase txn (.running now []) with clock := now }
  | .perform txn change =>
      match db.phase txn with
      | .running since changes => db.setPhase txn (.running since (changes ++ [change]))
      | _ => db
  | .commit txn =>
      match db.phase txn with
      | .running since changes => db.commitChanges apply txn since changes
      | _ => db
  | .rollback txn => db.setPhase txn .ended

@[simp] theorem setPhase_committed (db : Database Txn Change Table) (txn : Txn)
    (phase : Phase Change) : (db.setPhase txn phase).committed = db.committed := rfl

@[simp] theorem setPhase_log (db : Database Txn Change Table) (txn : Txn)
    (phase : Phase Change) : (db.setPhase txn phase).log = db.log := rfl

/-- A property of all phases, after one of them has changed. -/
theorem forall_phase (property : Txn → Phase Change → Prop) {db : Database Txn Change Table}
    {txn : Txn} {phase : Phase Change} (htxn : property txn phase)
    (hother : ∀ other, other ≠ txn → property other (db.phase other)) :
    ∀ other, property other (Function.update db.phase txn phase other) :=
  (Function.forall_update_iff db.phase property).mpr ⟨htxn, hother⟩

/-- The same for a symmetric relation between the phases of two transactions. -/
theorem forall_phase_pair (related : Phase Change → Phase Change → Prop)
    (hsymm : ∀ one other, related one other → related other one) {db : Database Txn Change Table}
    {txn : Txn} {phase : Phase Change} (htxn : ∀ other, other ≠ txn → related phase (db.phase other))
    (hpairs : ∀ one other, one ≠ other → related (db.phase one) (db.phase other)) :
    ∀ one other, one ≠ other → related (Function.update db.phase txn phase one)
      (Function.update db.phase txn phase other) := by
  intro one other hne
  by_cases hone : one = txn
  · have hother : other ≠ txn := fun heq => hne (hone.trans heq.symm)
    rw [hone, Function.update_self, Function.update_of_ne hother]
    exact htxn other hother
  · rw [Function.update_of_ne hone]
    by_cases hother : other = txn
    · rw [hother, Function.update_self]
      exact hsymm _ _ (htxn one hone)
    · rw [Function.update_of_ne hother]
      exact hpairs one other hne

omit [DecidableEq Txn] in
variable {apply} in
theorem visible_running {db : Database Txn Change Table} {txn : Txn} {since : Nat}
    {changes : List Change} (hphase : db.phase txn = .running since changes) :
    db.visible apply txn = seenAfter apply since changes db.committed := by
  unfold visible
  rw [hphase]

variable (allowed : Database Txn Change Table → Txn → Change → Prop)

/-- A transaction begins once, and ends once. -/
def Admits (db : Database Txn Change Table) : Action Txn Change → Prop
  | .start txn now => db.phase txn = .idle ∧ db.clock ≤ now
  | .perform txn change => (∃ since changes, db.phase txn = .running since changes) ∧
      allowed db txn change
  | .commit txn | .rollback txn => ∃ since changes, db.phase txn = .running since changes

/-- The states that interleaved transactions can come to, by actions that meet a
condition. -/
inductive Reaches (meets : Database Txn Change Table → Action Txn Change → Prop)
    (first : Database Txn Change Table) : Database Txn Change Table → Prop where
  | refl : Reaches meets first first
  | step {db : Database Txn Change Table} (action : Action Txn Change)
      (hreach : Reaches meets first db) (hadmits : db.Admits allowed action)
      (hmeets : meets db action) : Reaches meets first (db.after apply action)

variable {apply allowed} {meets : Database Txn Change Table → Action Txn Change → Prop}

/-- A weaker condition admits more. -/
theorem Reaches.mono {weaker : Database Txn Change Table → Action Txn Change → Prop}
    (hweaker : ∀ db action, meets db action → weaker db action)
    {first last : Database Txn Change Table} (hreach : Reaches apply allowed meets first last) :
    Reaches apply allowed weaker first last := by
  induction hreach with
  | refl => exact .refl
  | step action _ hadmits hmeets ih => exact ih.step action hadmits (hweaker _ _ hmeets)

/-- A sequence of actions that are all possible. -/
def Possible (apply : Nat → Change → Table → Table)
    (allowed : Database Txn Change Table → Txn → Change → Prop)
    (meets : Database Txn Change Table → Action Txn Change → Prop) :
    Database Txn Change Table → List (Action Txn Change) → Prop
  | _, [] => True
  | db, action :: actions => db.Admits allowed action ∧ meets db action ∧
      Possible apply allowed meets (db.after apply action) actions

theorem Reaches.actions {first db : Database Txn Change Table}
    (hreach : Reaches apply allowed meets first db) {actions : List (Action Txn Change)}
    (hpossible : Possible apply allowed meets db actions) :
    Reaches apply allowed meets first (actions.foldl (after apply) db) := by
  induction actions generalizing db with
  | nil => exact hreach
  | cons action actions ih =>
      obtain ⟨hadmits, hmeets, hrest⟩ := hpossible
      exact ih (hreach.step action hadmits hmeets) hrest

/-- What holds at first and is preserved by every action holds throughout. -/
theorem Reaches.invariant {motive : Database Txn Change Table → Prop}
    {first last : Database Txn Change Table} (hreach : Reaches apply allowed meets first last)
    (hfirst : motive first)
    (hstart : ∀ db txn now, motive db → db.phase txn = .idle → db.clock ≤ now →
      motive { db.setPhase txn (.running now []) with clock := now })
    (hperform : ∀ db txn change since changes, motive db →
      db.phase txn = .running since changes → allowed db txn change →
      meets db (.perform txn change) →
      motive (db.setPhase txn (.running since (changes ++ [change]))))
    (hcommit : ∀ db txn since changes, motive db → db.phase txn = .running since changes →
      meets db (.commit txn) → motive (db.commitChanges apply txn since changes))
    (hrollback : ∀ db txn since changes, motive db → db.phase txn = .running since changes →
      motive (db.setPhase txn .ended)) : motive last := by
  induction hreach with
  | refl => exact hfirst
  | step action hreach hadmits hmeets ih =>
      cases action with
      | start txn now => exact hstart _ txn now ih hadmits.1 hadmits.2
      | perform txn change =>
          obtain ⟨⟨since, changes, hphase⟩, hallowed⟩ := hadmits
          simp only [after, hphase]
          exact hperform _ txn change since changes ih hphase hallowed hmeets
      | commit txn =>
          obtain ⟨since, changes, hphase⟩ := hadmits
          simp only [after, hphase]
          exact hcommit _ txn since changes ih hphase hmeets
      | rollback txn =>
          obtain ⟨since, changes, hphase⟩ := hadmits
          exact hrollback _ txn since changes ih hphase

end Actions

end Database

end Skolva.Sql
