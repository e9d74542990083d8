import Skolva.Audit.RowAuthors
import Skolva.Auth.Calls

/-! # Who has written a row of `users`

The calls of the service, on `users` and `audit_logs`. `CreateUser`, `UpdateUser` and
`SoftDeleteUser` run in `dbexec.WithActor`, and `UpdatePassword` on the pool.
-/

namespace Skolva.Auth

open Effect Audit

/-- The table `users`. -/
def userTable : Authored User where
  name := "users"
  columns := [("anonymized_at", fun user => instantJson user.anonymizedAt),
    ("updated_at", fun user => .timestamp user.updatedAt),
    ("deleted_at", fun user => instantJson user.deletedAt)]
  id := User.id
  updatedBy := User.updatedBy

theorem userTable_audited : userTable.table ∈ auditedTables := by decide

/-! ## The calls and the trigger -/

/-- `UPDATE users SET .. WHERE id = $1 AND deleted_at IS NULL`. -/
def liveWrite (now : Nat) (id : Uuid) (change : User → User) : Sql.RowWrite User :=
  .update (fun user => user.id = id ∧ user.deletedAt = none) fun user => (change user).touch now

/-- What a call writes to `users`. -/
def Op.usersWrite (now : Nat) : Op → Option (Sql.RowWrite User)
  | .createUser id email passwordHash firstName lastName actor =>
      some (.insert (newUser now id email passwordHash firstName lastName actor))
  | .updateUser id firstName lastName isActive updatedBy =>
      some (liveWrite now id fun user => { user with firstName, lastName, isActive, updatedBy })
  | .softDeleteUser id updatedBy =>
      some (liveWrite now id fun user => { user with deletedAt := some now, updatedBy })
  | .updatePassword id passwordHash => some (liveWrite now id fun user => { user with passwordHash })
  | _ => none

/-- The actor of the session a call runs in, in a request of this user. -/
def Op.session (actorID : Uuid) : Op → Option Uuid
  | .createUser .. | .updateUser .. | .softDeleteUser .. => actorNull actorID
  | _ => none

/-- The answer of the store to a call, with the audit trigger of `users`. The log begins with
its latest entry. -/
def serveAudited (lib : External) (actorID : Uuid) (now : Nat) (op : Op)
    (store : Db × List AuditLog) : op.Resp × Db × List AuditLog :=
  let (resp, after) := serve lib now op store.1
  match op.usersWrite now, resp with
  | some write, .ok _ =>
      match userTable.trigger (op.session actorID) (after.users.map User.id) now store.1.users
        write with
      | .ok new => (resp, after, new ++ store.2)
      | .error _ => (.error .constraint, store)
  | _, _ => (resp, after, store.2)

/-- The user who acts in a request. -/
def ServiceCall.actorID : ServiceCall → Uuid
  | .register _ _ actorID _ _ _ _ | .updateUser actorID _ _ _ _ | .deleteUser actorID _ => actorID
  | _ => Uuid.nil

/-- Run a call on its own, with the log. -/
def Service.processAudited (s : Service) (now : Nat) (request : ServiceCall)
    (store : Db × List AuditLog) : s.Outcome × Db × List AuditLog :=
  (s.call request).run (serveAudited s.lib request.actorID) now store

/-! ## What a call leaves -/

section Serve

variable {lib : External} {actorID : Uuid} {now : Nat} {op : Op} {store : Db × List AuditLog}

theorem users_updateLiveUser_eq (db : Db) (now : Nat) (id : Uuid) (change : User → User) :
    (db.updateLiveUser now id change).users = (liveWrite now id change).after db.users := by
  simp only [Db.updateLiveUser, liveWrite, Sql.RowWrite.after, decide_eq_true_eq]

theorem users_updateLiveUser_of_none {db : Db} (now : Nat) {id : Uuid} (change : User → User)
    (hlive : db.liveUser id = none) : (db.updateLiveUser now id change).users = db.users := by
  rw [users_updateLiveUser_eq, liveWrite, Sql.RowWrite.after_update_of_none]
  unfold Db.liveUser at hlive
  rw [List.find?_eq_none] at hlive
  intro user huser
  simpa using hlive user huser

/-- A call that succeeds leaves what its write says. -/
theorem serve_usersWrite {write : Sql.RowWrite User} (hwrite : op.usersWrite now = some write)
    {db : Db} {value : op.Val} (hresp : (serve lib now op db).1 = .ok value) :
    (serve lib now op db).2.users = write.after db.users := by
  cases op with
  | createUser id email passwordHash firstName lastName actor =>
      obtain rfl := Option.some.inj hwrite
      simp only [serve] at hresp ⊢
      split at hresp
      · cases hresp
      next hfresh => rw [if_neg hfresh]; rfl
  | updateUser | softDeleteUser | updatePassword =>
      obtain rfl := Option.some.inj hwrite
      exact users_updateLiveUser_eq ..
  | _ => cases hwrite

/-- A call leaves `users` and the log, or it writes both. -/
theorem serveAudited_cases (lib : External) (actorID : Uuid) (now : Nat) (op : Op)
    (store : Db × List AuditLog) :
    let after := (serveAudited lib actorID now op store).2
    after.1.users = store.1.users ∧ after.2 = store.2 ∨
    ∃ write new, op.usersWrite now = some write ∧ after.1.users = write.after store.1.users ∧
      userTable.trigger (op.session actorID) (after.1.users.map User.id) now store.1.users write =
        .ok new ∧ after.2 = new ++ store.2 := by
  unfold serveAudited
  dsimp only
  split
  next write value hwrite hresp =>
    split
    next new hnew =>
      exact Or.inr ⟨write, new, hwrite, serve_usersWrite hwrite hresp, hnew, rfl⟩
    next => exact Or.inl ⟨rfl, rfl⟩
  next hother =>
    refine Or.inl ⟨?_, rfl⟩
    cases op with
    | createUser id email passwordHash firstName lastName actor =>
        simp only [serve] at hother ⊢
        split at hother
        next hfresh => rw [if_pos hfresh]
        next => exact (hother _ _ rfl rfl).elim
    | updateUser id firstName lastName isActive updatedBy =>
        -- There is no live row to return, and so none that was written.
        cases hlive : store.1.liveUser id with
        | none => exact users_updateLiveUser_of_none now _ hlive
        | some user =>
            let change := fun user : User => { user with firstName, lastName, isActive, updatedBy }
            have hafter : (store.1.updateLiveUser now id change).liveUser id =
                some ((change user).touch now) := by
              rw [Db.liveUser_updateLiveUser store.1 now id change (fun _ => rfl) fun _ => rfl, hlive]
              rfl
            have hresp : (serve lib now (.updateUser id firstName lastName isActive updatedBy)
                store.1).1 = .ok ((change user).touch now).row := by
              simp only [serve]
              exact congrArg (fun found => one (found.map User.row)) hafter
            exact (hother _ _ rfl hresp).elim
    | softDeleteUser | updatePassword => exact (hother _ _ rfl rfl).elim
    | _ => rfl

/-- The call writes the actor of its session to `updated_by`, in a request of this user. -/
def Op.Signs (actorID : Uuid) : Op → Prop
  | .createUser _ _ _ _ _ actor => actor = actorNull actorID
  | .updateUser _ _ _ _ updatedBy | .softDeleteUser _ updatedBy => updatedBy = actorNull actorID
  | .updatePassword .. => False
  | _ => True

theorem Op.Signs.written (hsigns : op.Signs actorID) {write : Sql.RowWrite User}
    (hwrite : op.usersWrite now = some write) {users : List User} :
    ∀ user ∈ write.written users, user.updatedBy = op.session actorID := by
  cases op with
  | createUser id email passwordHash firstName lastName actor =>
      obtain rfl := Option.some.inj hwrite
      intro user huser
      rw [List.mem_singleton.mp huser]
      exact hsigns
  | updateUser | softDeleteUser =>
      obtain rfl := Option.some.inj hwrite
      intro user huser
      obtain ⟨old, -, rfl⟩ := List.mem_map.mp huser
      exact hsigns
  | updatePassword => exact hsigns.elim
  | _ => cases hwrite

theorem keyUnique_serveAudited (hkey : store.1.KeyUnique) :
    (serveAudited lib actorID now op store).2.1.KeyUnique := by
  have hserve := Db.keyUnique_serve lib now op hkey
  unfold serveAudited
  dsimp only
  split
  · split
    · exact hserve
    · exact hkey
  · exact hserve

/-- A call that signs keeps the rows and the log in agreement. -/
theorem lawful_serveAudited (hsigns : op.Signs actorID)
    (hlawful : userTable.Lawful store.1.users store.2) :
    let after := (serveAudited lib actorID now op store).2
    userTable.Lawful after.1.users after.2 ∧ Extends "users" store.2 after.2 := by
  intro after
  have hids : (after.1.users.map User.id).Nodup := keyUnique_serveAudited hlawful.ids
  rcases serveAudited_cases lib actorID now op store with
    ⟨husers, hlogs⟩ | ⟨write, new, hwrite, husers, hnew, hlogs⟩
  · simp only [after, husers, hlogs]
    exact ⟨hlawful, .refl ..⟩
  · have htraced := hlawful.written hnew (husers ▸ hids)
    simp only [after, husers, hlogs]
    exact ⟨htraced.lawful (hsigns.written hwrite), htraced.log⟩

end Serve

/-! ## What a request leaves -/

/-- The request writes the actor of the session to `updated_by` in all rows of `users` that it
writes. A reset of a password keeps the author of the row and has no actor. -/
def ServiceCall.Signs (s : Service) (now : Nat) (db : Db) : ServiceCall → Prop
  | .resetPassword salt userID token newPassword =>
      ∀ user ∈ db.liveUser userID, s.LiveReset db now userID token →
        (∃ hash, hashPassword s.lib salt newPassword = .ok hash) → user.updatedBy = none
  | _ => True

/-- The request can write to `users`. -/
def ServiceCall.TouchesUsers : ServiceCall → Prop
  | .register .. | .updateUser .. | .deleteUser .. | .resetPassword .. => True
  | _ => False

theorem signs_of_writes {request : ServiceCall} (hother : ¬request.TouchesUsers) (actorID : Uuid)
    {op : Op} (hop : request.Writes op) : op.Signs actorID := by
  cases op with
  | createUser =>
      obtain ⟨_, _, _, rfl⟩ := hop
      exact (hother trivial).elim
  | updateUser =>
      obtain ⟨_, _, rfl⟩ := hop
      exact (hother trivial).elim
  | softDeleteUser =>
      obtain ⟨_, rfl⟩ := hop
      exact (hother trivial).elim
  | updatePassword =>
      obtain ⟨_, _, _, rfl⟩ := hop
      exact (hother trivial).elim
  | _ => trivial

section Request

variable {s : Service} {now : Nat} {store : Db × List AuditLog}

theorem traced_of_uses {α : Type} {program : Prog α} {actorID : Uuid} {allowed : Op → Prop}
    (huses : program.Uses allowed) (hallowed : ∀ op, allowed op → op.Signs actorID)
    (hlawful : userTable.Lawful store.1.users store.2) :
    let after := (program.run (serveAudited s.lib actorID) now store).2
    userTable.Traced True store.2 after.1.users after.2 := by
  intro after
  have hafter : userTable.Lawful after.1.users after.2 ∧ Extends "users" store.2 after.2 := by
    refine Program.run_preserves (serveAudited s.lib actorID) now huses
      (motive := fun later => userTable.Lawful later.1.users later.2 ∧
        Extends "users" store.2 later.2) ?_ ⟨hlawful, .refl ..⟩
    intro op later hop ⟨hlater, hlog⟩
    obtain ⟨hnext, hnew⟩ := lawful_serveAudited (hallowed op hop) hlater
    exact ⟨hnext, hnew.trans hlog⟩
  exact .of_lawful hafter.1 hafter.2 trivial

theorem traced_of_not_touches {request : ServiceCall} (hother : ¬request.TouchesUsers)
    (hlawful : userTable.Lawful store.1.users store.2) :
    let after := (s.processAudited now request store).2
    userTable.Traced True store.2 after.1.users after.2 :=
  traced_of_uses (Service.uses_call request) (fun _ hop => signs_of_writes hother _ hop) hlawful

/-- An update of a live user writes one row. -/
theorem forall_written_iff (now : Nat) {db : Db} (hkey : db.KeyUnique) {userID : Uuid} {user : User}
    (hlive : db.liveUser userID = some user) (change : User → User) (p : User → Prop) :
    (∀ row ∈ (liveWrite now userID change).written db.users, p row) ↔
      p ((change user).touch now) := by
  have hmem := List.mem_of_find?_eq_some hlive
  have hfound : user.id = userID ∧ user.deletedAt = none := by
    simpa using List.find?_some hlive
  constructor
  · intro hall
    exact hall _ (List.mem_map_of_mem (List.mem_filter.mpr ⟨hmem, decide_eq_true hfound⟩))
  · intro hwritten row hrow
    obtain ⟨old, hold, rfl⟩ := List.mem_map.mp hrow
    obtain ⟨hold, hselected⟩ := List.mem_filter.mp hold
    have hid : old.id = user.id := (of_decide_eq_true hselected).1.trans hfound.1.symm
    rwa [List.inj_on_of_nodup_map hkey hold hmem hid]

/-- The password is written without an actor. -/
theorem traced_completeReset (salt : Nat) {userID : Uuid} (newPassword : Bytes) {user : User}
    (hlive : store.1.liveUser userID = some user)
    (hlawful : userTable.Lawful store.1.users store.2) :
    let after := ((s.completeReset salt userID newPassword).run (serveAudited s.lib Uuid.nil) now
      store).2
    userTable.Traced ((∃ hash, hashPassword s.lib salt newPassword = .ok hash) →
      user.updatedBy = none) store.2 after.1.users after.2 := by
  unfold Service.completeReset
  cases hhash : hashPassword s.lib salt newPassword with
  | error err => exact hlawful.unchanged (by simp)
  | ok hash =>
      let change := fun user : User => { user with passwordHash := hash }
      let written := store.1.updateLiveUser now userID change
      have hactor : ∀ id ∈ (none : Option Uuid), id ∈ written.users.map User.id := nofun
      obtain ⟨new, hnew⟩ := userTable.trigger_ok hactor now store.1.users
        (liveWrite now userID change)
      have hserve : serveAudited s.lib Uuid.nil now (.updatePassword userID hash) store =
          (.ok (), written, new ++ store.2) := by
        unfold serveAudited
        simp only [serve, Op.usersWrite, Op.session]
        rw [hnew]
      have hids : (written.users.map User.id).Nodup :=
        Db.keyUnique_updateLiveUser now userID (fun _ => rfl) hlawful.ids
      have htraced := hlawful.written hnew (users_updateLiveUser_eq .. ▸ hids)
      have hiff := forall_written_iff now hlawful.ids hlive change
        fun row => row.updatedBy = none
      simp only [Program.run_bind, Program.run_perform, hserve]
      -- The flag of the token is written to another table.
      have hend : userTable.Traced (user.updatedBy = none) store.2 written.users
          (new ++ store.2) := by
        rw [users_updateLiveUser_eq]
        exact htraced.iff hiff
      exact hend.iff (by simp)

theorem traced_processAudited (s : Service) (now : Nat) (request : ServiceCall)
    (hlawful : userTable.Lawful store.1.users store.2) :
    let after := (s.processAudited now request store).2
    userTable.Traced (request.Signs s now store.1) store.2 after.1.users after.2 := by
  cases request with
  | register id salt actorID email password firstName lastName =>
      have huses : (s.call (.register id salt actorID email password firstName lastName)).Uses
          (Op.Signs actorID) :=
        Program.uses_map (s.uses_register salt actorID password trivial fun _ _ => rfl)
      exact traced_of_uses huses (fun _ hop => hop) hlawful
  | updateUser actorID id firstName lastName isActive =>
      have huses : (s.call (.updateUser actorID id firstName lastName isActive)).Uses
          (Op.Signs actorID) :=
        Program.uses_map (Service.uses_updateUser actorID isActive trivial fun _ => rfl)
      exact traced_of_uses huses (fun _ hop => hop) hlawful
  | deleteUser actorID id =>
      have huses : (s.call (.deleteUser actorID id)).Uses (Op.Signs actorID) :=
        Program.uses_map (Service.uses_deleteUser actorID trivial rfl)
      exact traced_of_uses huses (fun _ hop => hop) hlawful
  | resetPassword salt userID token newPassword =>
      have hprocess : (s.processAudited now (.resetPassword salt userID token newPassword) store).2 =
          ((s.resetPassword salt userID token newPassword).run (serveAudited s.lib Uuid.nil) now
            store).2 := by
        simp only [Service.processAudited, Service.call, Service.answering, Program.run_map,
          ServiceCall.actorID]
      simp only [hprocess, ServiceCall.Signs]
      rcases s.run_resetPassword_answered now store.1 (serveAudited s.lib Uuid.nil) store salt token
          newPassword rfl fun _ => rfl with
        ⟨hsome, hreset, hrun⟩ | ⟨hnot, err, hrun⟩
      · obtain ⟨user, hlive⟩ := Option.isSome_iff_exists.mp hsome
        rw [hrun]
        exact (traced_completeReset salt newPassword hlive hlawful).iff (by simp [hlive, hreset])
      · rw [hrun]
        refine hlawful.unchanged fun user hlive hreset => ?_
        exact (hnot ⟨Option.isSome_of_mem hlive, hreset⟩).elim
  | _ => exact traced_of_not_touches not_false hlawful

end Request

end Skolva.Auth
