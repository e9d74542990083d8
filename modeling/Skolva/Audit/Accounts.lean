import Skolva.Audit.RowAuthors
import Skolva.Effect.Simulation

/-! # Transactions with and without the audit trigger

The trigger has nothing against an actor who is a user. A transaction then answers as it does
without the trigger, and adds entries that name the actor and account for all rows it changes.
-/

namespace Skolva.Dbexec

variable {Db Db' α β : Type} {rel : Db → Db' → Prop}

/-- The second transaction answers as the first one, and their states stay related. -/
def Tx.Mirrors (rel : Db → Db' → Prop) (body : Tx Db α) (body' : Tx Db' α) : Prop :=
  ∀ ⦃db : Db⦄ ⦃db' : Db'⦄, rel db db' →
    (∃ cause, body db = .error cause ∧ body' db' = .error cause) ∨
    ∃ out after after', body db = .ok (out, after) ∧ body' db' = .ok (out, after') ∧
      rel after after'

namespace Tx.Mirrors

variable {body : Tx Db α} {body' : Tx Db' α}

theorem pure (value : α) : Tx.Mirrors rel (Pure.pure value) (Pure.pure value) :=
  fun _ _ hrel => .inr ⟨value, _, _, rfl, rfl, hrel⟩

theorem bind {next : α → Tx Db β} {next' : α → Tx Db' β} (hbody : Tx.Mirrors rel body body')
    (hnext : ∀ value, Tx.Mirrors rel (next value) (next' value)) :
    Tx.Mirrors rel (body >>= next) (body' >>= next') := by
  intro db db' hrel
  simp only [Bind.bind, StateT.bind]
  rcases hbody hrel with ⟨cause, hrun, hrun'⟩ | ⟨out, after, after', hrun, hrun', hafter⟩
  · rw [hrun, hrun']
    exact .inl ⟨cause, rfl, rfl⟩
  · rw [hrun, hrun']
    exact hnext out hafter

theorem statement (moment : Moment) (stage : Stage) (hbody : Tx.Mirrors rel body body') :
    Tx.Mirrors rel (Tx.statement moment stage body) (Tx.statement moment stage body') := by
  intro db db' hrel
  unfold Tx.statement
  split
  · exact .inl ⟨.unavailable, rfl, rfl⟩
  · exact hbody hrel

/-- So do the transactions as a whole, if they are committed or not. -/
theorem withActor (moment : Moment) (hbody : Tx.Mirrors rel body body') {db : Db} {db' : Db'}
    (hrel : rel db db') :
    (Dbexec.withActor moment body' db').1 = (Dbexec.withActor moment body db).1 ∧
      rel (Dbexec.withActor moment body db).2 (Dbexec.withActor moment body' db').2 := by
  unfold Dbexec.withActor
  rcases hbody hrel with ⟨cause, hrun, hrun'⟩ | ⟨out, after, after', hrun, hrun', hafter⟩
  · rw [hrun, hrun']
    exact ⟨rfl, hrel⟩
  · rw [hrun, hrun']
    dsimp only
    split
    · exact ⟨rfl, hrel⟩
    · exact ⟨rfl, hafter⟩

end Tx.Mirrors

end Skolva.Dbexec

namespace Skolva.Audit

open Dbexec

namespace Authored

variable {Item Db α : Type}

/-- The store is the database with a log that has grown since the start by entries about the
table. They name the actor of the session, and account for all rows that have changed. -/
structure Accounted (authored : Authored Item) (session : Option Uuid) (users : Db → List Uuid)
    (items : Db → List Item) (start : Db × List AuditLog) (db : Db) (store : Db × List AuditLog) :
    Prop where
  same : store.1 = db
  known : ∀ id ∈ session, id ∈ users db
  entries : ∃ new, store.2 = new ++ start.2 ∧
    authored.trail.Accounts (items start.1) (items db) session new ∧
    ∀ log ∈ new, log.tableName = authored.name

variable {authored : Authored Item} {session : Option Uuid} {users : Db → List Uuid}
  {items : Db → List Item} {start store : Db × List AuditLog} {now : Nat}

theorem Accounted.refl (hknown : ∀ id ∈ session, id ∈ users start.1) :
    authored.Accounted session users items start start.1 start where
  same := rfl
  known := hknown
  entries := ⟨[], rfl, ⟨nofun, fun _ hrow _ => hrow⟩, nofun⟩

/-- A write that the trigger has recorded. -/
theorem Accounted.written {db after : Db} {write : Sql.RowWrite Item} {new : List AuditLog}
    (haccounted : authored.Accounted session users items start db store)
    (hnew : authored.trigger session (users after) now (items db) write = .ok new)
    (hknown : ∀ id ∈ session, id ∈ users after) (hafter : items after = write.after (items db)) :
    authored.Accounted session users items start after (after, new ++ store.2) := by
  obtain ⟨earlier, hlog, haccounts, htable⟩ := haccounted.entries
  obtain ⟨henters, hnewTable⟩ := enters_of_trigger hnew
  have hwritten : authored.trail.Accounts (items db) (items after) session new := by
    rw [hafter]
    exact henters.accounts
  refine ⟨rfl, hknown, new ++ earlier, ?_, hwritten.append haccounts, ?_⟩
  · rw [hlog, List.append_assoc]
  · exact List.forall_mem_append.mpr ⟨hnewTable, htable⟩

/-- A statement with the trigger mirrors the statement. -/
theorem mirrors_statement {write : Sql.RowWrite Item} {body : Tx Db α}
    (hbody : ∀ db out after, body db = .ok (out, after) →
      users after = users db ∧ items after = write.after (items db)) :
    Tx.Mirrors (authored.Accounted session users items start) body
      (authored.statement session users items now write body) := by
  intro db store haccounted
  obtain rfl := haccounted.same
  cases hrun : body store.1 with
  | error cause => exact .inl ⟨cause, rfl, statement_error hrun⟩
  | ok result =>
      obtain ⟨out, after⟩ := result
      obtain ⟨husers, hitems⟩ := hbody _ _ _ hrun
      have hknown : ∀ id ∈ session, id ∈ users after := husers ▸ haccounted.known
      rcases authored.statement_ok session users items now write store hrun with ⟨new, hnew, hstatement⟩ | ⟨hunknown, -⟩
      · exact .inr ⟨out, after, _, rfl, hstatement, haccounted.written hnew hknown hitems⟩
      · exact absurd hknown hunknown

end Authored

end Skolva.Audit
