import Mathlib.Logic.Basic

/-! # Audited transactions

The writes of the repositories run in `dbexec.WithActor`: one transaction, which is rolled
back if one of its statements or its commit fails. Where a statement fails is not known
beforehand.
-/

namespace Skolva.Dbexec

/-- What a statement can fail with. The connection can be lost, and the audit trigger can
refuse the actor. -/
inductive CallError where
  | noRows
  | uniqueViolation
  | checkViolation
  | foreignKeyViolation
  | unavailable
  deriving DecidableEq

/-- The statements of a request, each of which can fail. -/
inductive Stage where
  | read
  | clear
  | write
  | commit
  deriving DecidableEq

/-- When a request runs, and which of its statements fail. -/
structure Moment where
  now : Nat
  fails : Stage → Bool

/-- The body of a transaction on a database. -/
abbrev Tx (Db : Type) := StateT Db (Except CallError)

variable {Db α : Type}

/-- One statement of a transaction. -/
def Tx.statement (moment : Moment) (stage : Stage) (body : Tx Db α) : Tx Db α := fun db =>
  if moment.fails stage then .error .unavailable else body db

/-- `dbexec.WithActor` of skolva-core, by what the repositories (`auth/repository.go` 14-17) and
`docs/testing.md` (59) say of it: an actor transaction around its body. It is rolled back if its
body or its commit fails. -/
def withActor (moment : Moment) (body : Tx Db α) (db : Db) : Except CallError α × Db :=
  match body db with
  | .error err => (.error err, db)
  | .ok (out, after) =>
      if moment.fails .commit then (.error .unavailable, db) else (.ok out, after)

/-- A transaction is committed with what its body leaves, or it leaves the database. -/
theorem withActor_cases (moment : Moment) (body : Tx Db α) (db : Db) :
    (∃ err, withActor moment body db = (.error err, db) ∧
      (err = .unavailable ∨ body db = .error err)) ∨
    ∃ out after, withActor moment body db = (.ok out, after) ∧ body db = .ok (out, after) := by
  unfold withActor
  cases hbody : body db with
  | error err => exact Or.inl ⟨err, rfl, Or.inr rfl⟩
  | ok result =>
      obtain ⟨out, after⟩ := result
      by_cases hcommit : moment.fails .commit = true
      · exact Or.inl ⟨.unavailable, by simp [hcommit], Or.inl rfl⟩
      · exact Or.inr ⟨out, after, by simp [hcommit], rfl⟩

/-- What a transaction answers and leaves that is committed if its body succeeds. -/
def committed (body : Tx Db α) (db : Db) : Except CallError α × Db :=
  match body db with
  | .error err => (.error err, db)
  | .ok (out, after) => (.ok out, after)

theorem withActor_eq_committed (now : Nat) (body : Tx Db α) (db : Db) :
    withActor ⟨now, fun _ => false⟩ body db = committed body db := by
  unfold withActor committed
  cases body db <;> rfl

theorem withActor_statement (now : Nat) (stage : Stage) (body : Tx Db α) (db : Db) :
    withActor ⟨now, fun _ => false⟩ (Tx.statement ⟨now, fun _ => false⟩ stage body) db =
      committed body db :=
  withActor_eq_committed now body db

theorem statement_ok {moment : Moment} {stage : Stage} {body : Tx Db α} {db : Db}
    {result : α × Db} (hrun : Tx.statement moment stage body db = .ok result) :
    body db = .ok result := by
  unfold Tx.statement at hrun
  split at hrun
  · simp at hrun
  · exact hrun

theorem statement_error {moment : Moment} {stage : Stage} {body : Tx Db α} {db : Db}
    {err : CallError} (hrun : Tx.statement moment stage body db = .error err) :
    err = .unavailable ∨ body db = .error err := by
  unfold Tx.statement at hrun
  split at hrun
  · exact Or.inl (Except.error.inj hrun).symm
  · exact Or.inr hrun

end Skolva.Dbexec
