import Skolva.Audit.Accounts
import Skolva.Auth.HandlerCalls
import Skolva.Auth.UserAuthors

/-! # Requests and the audit trigger of `users`

The endpoints with the log. For an actor who is a user they answer as without, and the new
entries account for all rows that change.
-/

namespace Skolva.Auth

open Effect Audit

/-- The actor of the transactions of a request. -/
def Request.actorID {Token : Type} : Request Token → Uuid
  | .register _ _ actor _ | .updateUser actor _ _ | .deleteUser actor _ => actor
  | _ => Uuid.nil

/-- Process a request on its own, with the log. -/
def Handler.processAudited (s : Service) (now : Nat) (request : Request s.lib.Token)
    (store : Db × List AuditLog) : Reply s.lib.Token × Db × List AuditLog :=
  (handle s request).run (serveAudited s.lib request.actorID) now store

def Db.userIDs (db : Db) : List Uuid := db.users.map User.id

/-- The log has grown by entries that account for what has changed in `users`. -/
abbrev UsersAccounted (actor : Option Uuid) : Db × List AuditLog → Db → Db × List AuditLog → Prop :=
  userTable.Accounted actor Db.userIDs Db.users

/-! ## One call -/

section Serve

variable {lib : External} {actorID : Uuid} {now : Nat} {op : Op} {db : Db}
  {start store : Db × List AuditLog}

/-- The session of the call has the actor of the request, or it has none and neither has the
request. -/
def Op.InSession (actorID : Uuid) : Op → Prop
  | .updatePassword .. => actorNull actorID = none
  | _ => True

theorem inSession_nil (op : Op) : op.InSession Uuid.nil := by
  cases op with
  | updatePassword id passwordHash => rfl
  | _ => trivial

theorem mem_session {id : Uuid} (hid : id ∈ op.session actorID) : id ∈ actorNull actorID := by
  cases op with
  | createUser | updateUser | softDeleteUser => exact hid
  | _ => cases hid

theorem session_eq (hsession : op.InSession actorID) {write : Sql.RowWrite User}
    (hwrite : op.usersWrite now = some write) : op.session actorID = actorNull actorID := by
  cases op with
  | createUser | updateUser | softDeleteUser => rfl
  | updatePassword id passwordHash => exact hsession.symm
  | _ => cases hwrite

theorem known_of_serve (lib : External) (now : Nat) (op : Op)
    (hknown : ∀ id ∈ actorNull actorID, id ∈ db.userIDs) :
    ∀ id ∈ actorNull actorID, id ∈ (serve lib now op db).2.userIDs :=
  fun id hid => Db.known_serve lib now op (hknown id hid)

/-- For an actor who is a user, only the log tells the call from one without the trigger. -/
theorem serveAudited_eq (lib : External) (now : Nat) (op : Op)
    (hknown : ∀ id ∈ actorNull actorID, id ∈ store.1.userIDs) :
    (serveAudited lib actorID now op store).1 = (serve lib now op store.1).1 ∧
      (serveAudited lib actorID now op store).2.1 = (serve lib now op store.1).2 := by
  unfold serveAudited
  dsimp only
  split
  next write value hwrite hresp =>
    have hactor : ∀ id ∈ op.session actorID, id ∈ (serve lib now op store.1).2.users.map User.id :=
      fun id hid => known_of_serve lib now op hknown id (mem_session hid)
    obtain ⟨new, hnew⟩ := userTable.trigger_ok hactor now store.1.users write
    rw [hnew]
    exact ⟨rfl, rfl⟩
  next => exact ⟨rfl, rfl⟩

theorem simulates_serveAudited (lib : External) (actorID : Uuid) (now : Nat)
    (start : Db × List AuditLog) :
    Program.Simulates (serve lib) (serveAudited lib actorID) now (Op.InSession actorID)
      (UsersAccounted (actorNull actorID) start) := by
  intro op db store hsession haccounted
  obtain rfl := haccounted.same
  obtain ⟨hresp, hafter⟩ := serveAudited_eq lib now op haccounted.known
  have hknown := known_of_serve lib now op haccounted.known
  refine ⟨hresp, ?_⟩
  rcases serveAudited_cases lib actorID now op store with
    ⟨husers, hlogs⟩ | ⟨write, new, hwrite, husers, hnew, hlogs⟩
  · obtain ⟨earlier, hlog, haccounts, htable⟩ := haccounted.entries
    refine ⟨hafter, hknown, earlier, hlogs.trans hlog, ?_, htable⟩
    rw [← hafter, husers]
    exact haccounts
  · rw [session_eq hsession hwrite, hafter] at hnew
    rw [hafter] at husers
    have hwritten := haccounted.written hnew hknown husers
    rw [← hlogs] at hwritten
    exact ⟨hafter, hwritten.known, hwritten.entries⟩

end Serve

/-! ## One request -/

section Request

variable {s : Service} {now : Nat} {store : Db × List AuditLog}

theorem inSession_of_writes {call : ServiceCall} (hother : ¬call.TouchesReset) (actorID : Uuid)
    {op : Op} (hwrites : call.Writes op) : op.InSession actorID := by
  cases op with
  | updatePassword id passwordHash =>
      obtain ⟨salt, token, newPassword, rfl⟩ := hwrites
      exact absurd trivial hother
  | _ => trivial

theorem uses_inSession {call : ServiceCall} (hother : ¬call.TouchesReset) (actorID : Uuid) :
    (s.call call).Uses (Op.InSession actorID) :=
  (Service.uses_call call).imp fun _ => inSession_of_writes hother actorID

theorem uses_handle (request : Request s.lib.Token) :
    (Handler.handle s request).Uses (Op.InSession request.actorID) := by
  cases request with
  | register | updateUser | deleteUser =>
      refine uses_handle_of_calls (fun now call hcall => uses_inSession ?_ _) fun jti userID =>
        @uses_inSession s (.issueAccessForUser jti userID) not_false _
      unfold Service.callOf at hcall
      simp only [Option.map_eq_some_iff, Option.bind_eq_some_iff] at hcall
      grind [ServiceCall.TouchesReset]
  | _ => exact Program.uses_of_forall inSession_nil _

/-- For an actor who is a user, a request is processed as without the trigger, and its entries
account for what it changes. -/
theorem processAudited_eq (s : Service) (now : Nat) (store : Db × List AuditLog)
    (request : Request s.lib.Token)
    (hknown : ∀ id ∈ actorNull request.actorID, id ∈ store.1.userIDs) :
    (Handler.processAudited s now request store).1 = (Handler.process s now request store.1).1 ∧
      UsersAccounted (actorNull request.actorID) store (Handler.process s now request store.1).2
        (Handler.processAudited s now request store).2 :=
  Program.Simulates.run (simulates_serveAudited s.lib request.actorID now store)
    (uses_handle request) (.refl hknown)

/-! ## What other requests leave -/

/-- The requests that make, change or delete users. -/
def Request.EditsUsers {Token : Type} : Request Token → Prop
  | .register .. | .updateUser .. | .deleteUser .. => True
  | _ => False

/-- The requests that can write to `users`. -/
def Request.TouchesUsers {Token : Type} : Request Token → Prop
  | .register .. | .updateUser .. | .deleteUser .. | .resetPassword .. => True
  | _ => False

theorem leavesUsers_of_writes {call : ServiceCall} (hother : ¬call.TouchesUsers) {op : Op}
    (hwrites : call.Writes op) : op.LeavesUsers := by
  cases op with
  | createUser =>
      obtain ⟨_, _, _, rfl⟩ := hwrites
      exact absurd trivial hother
  | updateUser =>
      obtain ⟨_, _, rfl⟩ := hwrites
      exact absurd trivial hother
  | softDeleteUser =>
      obtain ⟨_, rfl⟩ := hwrites
      exact absurd trivial hother
  | updatePassword =>
      obtain ⟨_, _, _, rfl⟩ := hwrites
      exact absurd trivial hother
  | _ => trivial

theorem uses_leavesUsers {call : ServiceCall} (hother : ¬call.TouchesUsers) :
    (s.call call).Uses Op.LeavesUsers :=
  (Service.uses_call call).imp fun _ => leavesUsers_of_writes hother

theorem not_touchesUsers_callOf {request : Request s.lib.Token} (hother : ¬request.TouchesUsers)
    {call : ServiceCall} (hcall : s.callOf now request = some call) : ¬call.TouchesUsers := by
  cases request with
  | register | updateUser | deleteUser | resetPassword => exact absurd trivial hother
  | _ =>
      unfold Service.callOf at hcall
      simp only [Option.map_eq_some_iff, Option.bind_eq_some_iff, Option.some.injEq] at hcall
      grind [ServiceCall.TouchesUsers]

theorem leavesUsers_handle {request : Request s.lib.Token} (hother : ¬request.TouchesUsers) :
    (Handler.handle s request).Uses Op.LeavesUsers :=
  uses_handle_of_calls
    (fun _ _ hcall => uses_leavesUsers (not_touchesUsers_callOf hother hcall))
    fun jti userID => @uses_leavesUsers s (.issueAccessForUser jti userID) not_false

/-- Without a write to `users` there is no entry. -/
theorem logs_of_leavesUsers {α : Type} {program : Prog α} {actorID : Uuid}
    (huses : program.Uses Op.LeavesUsers) :
    (program.run (serveAudited s.lib actorID) now store).2.2 = store.2 := by
  refine Program.run_preserves (serveAudited s.lib actorID) now huses
    (motive := fun later => later.2 = store.2) (fun op later hop hlater => ?_) rfl
  have hnone : op.usersWrite now = none := by
    cases op with
    | createUser | updateUser | softDeleteUser | updatePassword => exact hop.elim
    | _ => rfl
  unfold serveAudited
  simp only [hnone]
  exact hlater

/-- The request resets the password of a user with a valid token. -/
def Service.Resets (s : Service) (now : Nat) (db : Db) : Request s.lib.Token → Prop
  | .resetPassword _ (some req) =>
      ∃ userID, s.lib.uuidParse req.userID = some userID ∧ (db.liveUser userID).isSome = true ∧
        s.LiveReset db now userID req.token
  | _ => False

/-- A request with an entry edits users, or it resets a password. -/
theorem edits_or_resets {request : Request s.lib.Token}
    (hlogs : (Handler.processAudited s now request store).2.2 ≠ store.2) :
    request.EditsUsers ∨ s.Resets now store.1 request := by
  cases request with
  | register | updateUser | deleteUser => exact .inl trivial
  | resetPassword salt body =>
      refine .inr ?_
      cases body with
      | none => exact absurd rfl hlogs
      | some req =>
          simp only [Handler.processAudited, Handler.handle, Handler.resetPassword] at hlogs
          cases hid : s.lib.uuidParse req.userID with
          | none =>
              rw [hid] at hlogs
              exact absurd rfl hlogs
          | some userID =>
              rw [hid] at hlogs
              dsimp only at hlogs
              rcases s.run_resetPassword_answered now store.1
                  (serveAudited s.lib (Request.resetPassword salt (some req)).actorID) store salt
                  req.token req.password rfl fun _ => rfl with
                ⟨hlive, hreset, -⟩ | ⟨-, err, hrun⟩
              · exact ⟨userID, hid, hlive, hreset⟩
              · unfold Handler.noContentAfter at hlogs
                rw [Program.run_bind, hrun] at hlogs
                exact absurd rfl hlogs
  | _ =>
      refine absurd (logs_of_leavesUsers (leavesUsers_handle ?_)) hlogs
      exact not_false

end Request

end Skolva.Auth
