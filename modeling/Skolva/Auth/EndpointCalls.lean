import Skolva.Auth.Calls
import Skolva.Auth.Handler

/-! # The calls behind the endpoints

Each request to an endpoint makes at most one call that can write, after it has
looked at its body, its path and its token. A run of requests is a run of these
calls, with some requests that leave everything as it is.
-/

namespace Skolva.Auth

open Effect

variable (s : Service)

/-- The user a pending token names, if it is valid. -/
def Service.pendingUser (now : Nat) (tempToken : s.lib.Token) : Option Uuid :=
  match s.lib.jwtParse s.tm.secret tempToken with
  | none => none
  | some claims =>
      if claims.ValidAt now ∧ claims.kind = tokenKindPending2FA then
        s.lib.uuidParse claims.subject
      else none

/-- The call that a request makes. Reads that come after it are left out. -/
def Service.callOf (now : Nat) : Request s.lib.Token → Option ServiceCall
  | .login draw body => body.map fun req => .login draw req.email req.password
  | .register id salt actor body =>
      body.map fun req => .register id salt actor req.email req.password req.firstName req.lastName
  | .getUser id => (s.lib.uuidParse id).map .getUser
  | .updateUser actor id body =>
      (s.lib.uuidParse id).bind fun userID =>
        body.map fun req => .updateUser actor userID req.firstName req.lastName req.isActive
  | .deleteUser actor id => (s.lib.uuidParse id).map (.deleteUser actor)
  | .setup2FA draw actor => some (.setup2FA draw actor)
  | .confirm2FA actor body => body.map (.confirm2FA actor)
  | .verify2FA _ body =>
      body.bind fun req => (s.pendingUser now req.tempToken).map (.verify2FA · req.code)
  | .recover2FA _ body =>
      body.bind fun req => (s.pendingUser now req.tempToken).map (.consumeRecoveryCode · req.code)
  | .disable2FA actor body => body.map (.disable2FA actor)
  | .setupEmail2FA draw actor => some (.setupEmail2FA draw actor)
  | .confirmEmail2FA actor body => body.map (.confirmEmail2FA actor)
  | .verifyEmail2FA _ body =>
      body.bind fun req => (s.pendingUser now req.tempToken).map (.verifyEmail2FALogin · req.code)
  | .resendEmail2FA draw body =>
      body.bind fun tempToken => (s.pendingUser now tempToken).map (.sendEmail2FALoginOTP draw)
  | .disableEmail2FA actor => some (.disableEmail2FA actor)
  | .forgotPassword draw body => body.map (.forgotPassword draw)
  | .resetPassword salt body =>
      body.bind fun req =>
        (s.lib.uuidParse req.userID).map (.resetPassword salt · req.token req.password)

abbrev Service.RequestEntry := Entry (Request s.lib.Token) (Reply s.lib.Token) Db

/-- Runs of requests under a non-decreasing clock. -/
def Service.RequestRun (start : Db) : List s.RequestEntry → Db → Prop :=
  Serial (Handler.process s) (fun history now _ => ClockForward history now) start

variable {s}

/-- The entry of the call that a request makes. -/
def Service.callEntry (entry : s.RequestEntry) : Option s.CallEntry :=
  (s.callOf entry.instant entry.request).map fun call => s.entryAt entry.instant call entry.before

/-- The calls that a history of requests makes. -/
def Service.calls (history : List s.RequestEntry) : List s.CallEntry :=
  history.filterMap Service.callEntry

/-! ## One request -/

theorem pendingUser_eq_some {now : Nat} {tempToken : s.lib.Token} {u : Uuid} :
    s.pendingUser now tempToken = some u ↔ s.PendingTokenFor now u tempToken := by
  unfold Service.pendingUser Service.PendingTokenFor
  cases s.lib.jwtParse s.tm.secret tempToken with
  | none => simp
  | some claims => simp [and_assoc]

section Request

variable (now : Nat) (db : Db)

/-- The state after an optional call. -/
def Service.stateAfter (s : Service) (now : Nat) (db : Db) (call : Option ServiceCall) : Db :=
  match call with
  | none => db
  | some call => (s.processCall now call db).2

theorem stateAfter_some {α : Type} {call : ServiceCall} {answer : α → Answer s.lib.Token}
    {method : Prog (Except Err α)} (hcall : s.call call = s.answering answer method) :
    s.stateAfter now db (some call) = (method.run (serve s.lib) now db).2 := by
  unfold Service.stateAfter
  dsimp only
  rw [Service.processCall_eq hcall]

/-- What an endpoint makes of the result of its call does not touch the state. -/
theorem state_answered {α : Type} {call : ServiceCall} {answer : α → Answer s.lib.Token}
    {method : Prog (Except Err α)} {next : Except Err α → Prog (Reply s.lib.Token)}
    (hcall : s.call call = s.answering answer method)
    (hnext : ∀ result state, ((next result).run (serve s.lib) now state).2 = state) :
    ((method >>= next).run (serve s.lib) now db).2 = s.stateAfter now db (some call) := by
  rw [Program.run_bind, stateAfter_some now db hcall]
  exact hnext _ _

theorem state_noContentAfter {call : ServiceCall} {answer : Unit → Answer s.lib.Token}
    {method : Prog (Except Err Unit)} (hcall : s.call call = s.answering answer method) :
    ((Handler.noContentAfter s method).run (serve s.lib) now db).2 =
      s.stateAfter now db (some call) := by
  refine state_answered now db hcall fun result state => ?_
  cases result <;> rfl

theorem run_pendingUser (tempToken : s.lib.Token) :
    (∃ err, (Handler.pending2FAUser s tempToken).run (serve s.lib) now db = (.error err, db) ∧
      s.pendingUser now tempToken = none) ∨
    ∃ u, (Handler.pending2FAUser s tempToken).run (serve s.lib) now db = (.ok u, db) ∧
      s.pendingUser now tempToken = some u := by
  obtain ⟨result, hrun, hpending⟩ := Handler.run_pending2FAUser s now db tempToken
  cases result with
  | error err =>
      refine .inl ⟨err, hrun, Option.eq_none_iff_forall_ne_some.mpr fun u hsome => ?_⟩
      cases (hpending u).mpr (pendingUser_eq_some.mp hsome)
  | ok u => exact .inr ⟨u, hrun, pendingUser_eq_some.mpr ((hpending u).mp rfl)⟩

theorem state_withSecondFactor (jti : Uuid) (body : Option (Verify2FARequest s.lib.Token))
    (check : Uuid → Bytes → Prog (Except Err Unit)) (call : Uuid → Bytes → ServiceCall)
    (hcall : ∀ u code, s.call (call u code) = s.answering (fun _ => .done) (check u code)) :
    ((Handler.withSecondFactor s jti body check).run (serve s.lib) now db).2 =
      s.stateAfter now db (body.bind fun req =>
        (s.pendingUser now req.tempToken).map (call · req.code)) := by
  unfold Handler.withSecondFactor
  cases body with
  | none => rfl
  | some req =>
      dsimp only [Option.bind_some]
      rw [Program.run_bind]
      rcases run_pendingUser now db req.tempToken with ⟨err, hrun, hnone⟩ | ⟨u, hrun, hsome⟩
      · rw [hrun, hnone]
        rfl
      · rw [hrun, hsome, Option.map_some]
        refine state_answered now db (hcall u req.code) fun result state => ?_
        cases result with
        | error err => rfl
        | ok _ =>
            dsimp only
            rw [Program.run_bind, Service.run_issueAccessForUser]
            split <;> rfl

/-- A request leaves the state that its call leaves. -/
theorem state_process (request : Request s.lib.Token) :
    (Handler.process s now request db).2 = s.stateAfter now db (s.callOf now request) := by
  unfold Handler.process
  cases request with
  | login draw body =>
      cases body with
      | none => rfl
      | some req =>
          refine state_answered now db rfl fun result state => ?_
          cases result with
          | error err => rfl
          | ok result =>
              dsimp only
              split <;> rfl
  | register id salt actor body =>
      cases body with
      | none => rfl
      | some req =>
          refine state_answered now db rfl fun result state => ?_
          cases result <;> rfl
  | getUser id =>
      simp only [Handler.handle, Handler.getUser, Handler.withUserID, Service.callOf]
      cases s.lib.uuidParse id with
      | none => rfl
      | some userID =>
          refine state_answered now db rfl fun result state => ?_
          cases result <;> rfl
  | updateUser actor id body =>
      simp only [Handler.handle, Handler.updateUser, Handler.withUserID, Service.callOf]
      cases s.lib.uuidParse id with
      | none => rfl
      | some userID =>
          cases body with
          | none => rfl
          | some req =>
              refine state_answered now db rfl fun result state => ?_
              cases result <;> rfl
  | deleteUser actor id =>
      simp only [Handler.handle, Handler.deleteUser, Handler.withUserID, Service.callOf]
      cases s.lib.uuidParse id with
      | none => rfl
      | some userID => exact state_noContentAfter now db rfl
  | setup2FA draw actor =>
      refine state_answered now db rfl fun result state => ?_
      cases result <;> rfl
  | confirm2FA actor body =>
      cases body with
      | none => rfl
      | some code => exact state_noContentAfter now db rfl
  | verify2FA jti body =>
      exact state_withSecondFactor now db jti body _ .verify2FA fun _ _ => rfl
  | recover2FA jti body =>
      exact state_withSecondFactor now db jti body _ .consumeRecoveryCode fun _ _ => rfl
  | disable2FA actor body =>
      cases body with
      | none => rfl
      | some code => exact state_noContentAfter now db rfl
  | setupEmail2FA draw actor =>
      exact state_noContentAfter now db rfl
  | confirmEmail2FA actor body =>
      cases body with
      | none => rfl
      | some code => exact state_noContentAfter now db rfl
  | verifyEmail2FA jti body =>
      exact state_withSecondFactor now db jti body _ .verifyEmail2FALogin fun _ _ => rfl
  | resendEmail2FA draw body =>
      cases body with
      | none => rfl
      | some tempToken =>
          simp only [Handler.handle, Handler.resendEmail2FA, Service.callOf]
          rw [Program.run_bind]
          rcases run_pendingUser now db tempToken with ⟨err, hrun, hnone⟩ | ⟨u, hrun, hsome⟩
          · rw [hrun]
            simp [hnone, Service.stateAfter]
          · rw [hrun, Option.bind_some, hsome, Option.map_some]
            exact state_noContentAfter now db rfl
  | disableEmail2FA actor =>
      exact state_noContentAfter now db rfl
  | forgotPassword draw body =>
      cases body with
      | none => rfl
      | some email =>
          refine state_answered now db rfl fun result state => ?_
          cases result <;> rfl
  | resetPassword salt body =>
      cases body with
      | none => rfl
      | some req =>
          simp only [Handler.handle, Handler.resetPassword, Service.callOf]
          cases hid : s.lib.uuidParse req.userID with
          | none => simp [hid, Service.stateAfter]
          | some userID =>
              rw [Option.bind_some, hid, Option.map_some]
              exact state_noContentAfter now db rfl

end Request

/-! ## Runs -/

section Run

variable {start last : Db} {history : List s.RequestEntry}

theorem instant_of_callEntry {entry : s.RequestEntry} {call : s.CallEntry}
    (hcall : Service.callEntry entry = some call) : call.instant = entry.instant := by
  unfold Service.callEntry at hcall
  obtain ⟨request, -, rfl⟩ := Option.map_eq_some_iff.mp hcall
  rfl

/-- A run of requests is a run of the calls they make. -/
theorem callRun_of_requestRun (hrun : s.RequestRun start history last) :
    s.CallRun start (Service.calls history) last := by
  induction hrun with
  | nil => exact .nil
  | @cons history before now request hhistory hforward ih =>
      have hinstants : ∀ old ∈ history, old.instant ≤ now := by
        have hnext : s.RequestRun start
            (⟨before, now, request, (Handler.process s now request before).1,
              (Handler.process s now request before).2⟩ :: history)
            (Handler.process s now request before).2 := .cons now request hhistory hforward
        exact Serial.instant_le hnext (fun _ _ _ hclock => hclock) (List.nil_append _).symm
      rw [state_process]
      unfold Service.calls
      rw [List.filterMap_cons]
      unfold Service.callEntry
      dsimp only
      cases hcall : s.callOf now request with
      | none => exact ih
      | some call =>
          refine Serial.cons now call ih fun latest hlatest => ?_
          obtain ⟨old, hold, hmade⟩ :=
            List.mem_filterMap.mp (List.mem_of_mem_head? hlatest)
          rw [instant_of_callEntry hmade]
          exact hinstants old hold

theorem calls_append (later earlier : List s.RequestEntry) :
    Service.calls (later ++ earlier) = Service.calls later ++ Service.calls earlier :=
  List.filterMap_append ..

theorem calls_cons_of_some {entry : s.RequestEntry} {call : s.CallEntry}
    (hcall : Service.callEntry entry = some call) (earlier : List s.RequestEntry) :
    Service.calls (entry :: earlier) = call :: Service.calls earlier :=
  List.filterMap_cons_some hcall

end Run

end Skolva.Auth
