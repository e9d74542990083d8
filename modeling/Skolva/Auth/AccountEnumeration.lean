import Skolva.Auth.FailingCalls
import Skolva.Auth.Login

/-! # What the answers tell about an address

`Login` and `ForgotPassword` should not tell whether an address has an account. Two
states are compared that differ only in what `users` holds for one address, while the
same calls fail in both.
-/

namespace Skolva.Auth

open Effect

/-! ## Two states -/

/-- The states agree on everything but the rows of one address. -/
structure Db.SameButFor (lower : String → String) (email : String) (left right : Db) : Prop where
  users : left.users.filter (fun user => lower user.email ≠ lower email) =
    right.users.filter (fun user => lower user.email ≠ lower email)
  totp : left.totp = right.totp
  usersMeta : left.usersMeta = right.usersMeta
  roles : left.roles = right.roles
  userRoles : left.userRoles = right.userRoles
  permissions : left.permissions = right.permissions
  rolePermissions : left.rolePermissions = right.rolePermissions
  mails : left.mails = right.mails

/-- No row of the address has a hash that was made from this password. -/
def Service.MadeFromOther (s : Service) (db : Db) (email : String) (password : Bytes) : Prop :=
  ∀ user ∈ db.users, s.lib.lower user.email = s.lib.lower email →
    ∀ salt, s.lib.bcryptGenerate salt password ≠ some user.passwordHash

/-- The error of a result. -/
def errorOf {α : Type} : Except Err α → Option Err
  | .ok _ => none
  | .error err => some err

/-- The answers to `Login` and to `ForgotPassword` are the same in both states. -/
structure Service.AnswersAlike (s : Service) (fails : Nat → Option CallError) (now : Nat)
    (login : LoginDraw) (reset : ResetDraw) (email : String) (password : Bytes)
    (left right : Db) : Prop where
  login : errorOf (s.loginResult (fun index _ => fails index) now left login email password) =
    errorOf (s.loginResult (fun index _ => fails index) now right login email password)
  forgot :
    ((s.forgotPassword reset email).run (serveFailing s.lib fun index _ => fails index) now
        (0, left)).1 =
      ((s.forgotPassword reset email).run (serveFailing s.lib fun index _ => fails index) now
        (0, right)).1

variable (s : Service) (fails : Nat → Option CallError) (now : Nat) (db : Db)

/-! ## The answer of `Login` -/

/-- How an address and a password stand with the accounts. -/
inductive LoginStanding where
  /-- There is no account, or it is active and the password is not its own. -/
  | refused
  | disabled
  | accepted
  deriving DecidableEq

def Service.standing (email : String) (password : Bytes) : LoginStanding :=
  match db.userWithEmail s.lib.lower email with
  | none => .refused
  | some user =>
      if user.isActive then
        if verifyPassword s.lib user.passwordHash password then .accepted else .refused
      else .disabled

/-- The account of the address has a second factor, and `Login` gets to know of it. -/
def Service.FactorSeen (email : String) : Prop :=
  ∃ user, db.userWithEmail s.lib.lower email = some user ∧
    (TotpSeen (fun index _ => fails index) db user.id ∨
      EmailSeen (fun index _ => fails index) db user.id)

/-- The first of two calls that fails. -/
def firstFailure (first second : Nat) : Option CallError :=
  (fails first).or (fails second)

theorem errorOf_loginAccess (jti : Uuid) (u : UserByEmailRow) :
    errorOf ((s.loginAccess jti u).run (serveFailing s.lib fun index _ => fails index) now
        (3, db)).1 = (firstFailure fails 3 4).map .call := by
  unfold Service.loginAccess firstFailure
  cases hroles : fails 3 with
  | some cause => rw [run_failed s.lib now 3 db hroles]; rfl
  | none =>
      rw [run_served s.lib now 3 db hroles]
      dsimp only [serve]
      cases hperms : fails 4 with
      | some cause => rw [run_failed s.lib now _ db hperms]; rfl
      | none =>
          rw [run_served s.lib now _ db hperms]
          unfold TokenManager.issueAccess
          simp [serve, TokenManager.run_issue, errorOf]

/-- `Login` while the look-up of the account fails. -/
theorem loginResult_unavailable {cause : CallError} (draw : LoginDraw) (email : String)
    (password : Bytes) (hcall : fails 0 = some cause) :
    s.loginResult (fun index _ => fails index) now db draw email password =
      .error (if cause = .noRows then .unauthorized "invalid credentials" else .call cause) := by
  unfold Service.loginResult Service.login
  rw [run_failed s.lib now 0 db hcall]
  cases cause <;> simp

/-- `Login` while that look-up succeeds: the answer goes by the standing. -/
theorem errorOf_loginResult (draw : LoginDraw) (email : String) (password : Bytes)
    (hcall : fails 0 = none) :
    (s.standing db email password = .refused ∧
      errorOf (s.loginResult (fun index _ => fails index) now db draw email password) =
        some (.unauthorized "invalid credentials")) ∨
    (s.standing db email password = .disabled ∧
      errorOf (s.loginResult (fun index _ => fails index) now db draw email password) =
        some (.unauthorized "account is disabled")) ∨
    (s.standing db email password = .accepted ∧ s.FactorSeen fails db email ∧
      errorOf (s.loginResult (fun index _ => fails index) now db draw email password) = none) ∨
    (s.standing db email password = .accepted ∧ ¬s.FactorSeen fails db email ∧
      errorOf (s.loginResult (fun index _ => fails index) now db draw email password) =
        (firstFailure fails 3 4).map .call) := by
  cases huser : db.userWithEmail s.lib.lower email with
  | none =>
      left
      unfold Service.loginResult Service.login Service.standing
      rw [run_served s.lib now 0 db hcall]
      simp [serve, huser, one, errorOf]
  | some user =>
      by_cases hactive : user.isActive = true
      · by_cases hpassword : verifyPassword s.lib user.passwordHash password = true
        · right; right
          have hstanding : s.standing db email password = .accepted := by
            simp [Service.standing, huser, hactive, hpassword]
          have hseen : s.FactorSeen fails db email ↔
              (TotpSeen (fun index _ => fails index) db user.id ∨
                EmailSeen (fun index _ => fails index) db user.id) := by
            simp [Service.FactorSeen, huser]
          rw [hseen]
          unfold Service.loginResult
          rcases run_login_authenticated s (fun index _ => fails index) now db draw huser hactive
              hpassword hcall with ⟨hfactor, emailEnabled, -, hpending⟩ | ⟨hfactor, hgranted⟩
          · left
            refine ⟨hstanding, hfactor, ?_⟩
            rw [hpending, s.run_loginPending]
            rfl
          · right
            refine ⟨hstanding, hfactor, ?_⟩
            rw [hgranted]
            exact errorOf_loginAccess s fails now db draw.jti user.byEmailRow
        · left
          unfold Service.loginResult Service.login Service.standing
          rw [run_served s.lib now 0 db hcall]
          simp [serve, huser, one, hactive, hpassword, errorOf]
      · right; left
        unfold Service.loginResult Service.login Service.standing
        rw [run_served s.lib now 0 db hcall]
        simp [serve, huser, one, hactive, errorOf]

/-- The look-up of the account fails, or the standing is the same in both states. With
the right password both go on to a second factor, both go on to a token, or the reads
for a token succeed. -/
def Service.LoginsAlike (email : String) (password : Bytes) (left right : Db) : Prop :=
  fails 0 ≠ none ∨
    (s.standing left email password = s.standing right email password ∧
      (s.standing left email password = .accepted →
        (s.FactorSeen fails left email ↔ s.FactorSeen fails right email) ∨
          (fails 3 = none ∧ fails 4 = none)))

theorem firstFailure_eq_none_iff (first second : Nat) :
    firstFailure fails first second = none ↔ fails first = none ∧ fails second = none := by
  simp [firstFailure, Option.or_eq_none_iff]

theorem errorOf_login_eq_iff (draw : LoginDraw) (email : String) (password : Bytes)
    (left right : Db) :
    errorOf (s.loginResult (fun index _ => fails index) now left draw email password) =
        errorOf (s.loginResult (fun index _ => fails index) now right draw email password) ↔
      s.LoginsAlike fails email password left right := by
  unfold Service.LoginsAlike
  cases hcall : fails 0 with
  | some cause =>
      rw [loginResult_unavailable s fails now left draw email password hcall,
        loginResult_unavailable s fails now right draw email password hcall]
      simp
  | none =>
      have hreads := firstFailure_eq_none_iff fails 3 4
      rcases errorOf_loginResult s fails now left draw email password hcall with
        ⟨hleft, hleftError⟩ | ⟨hleft, hleftError⟩ | ⟨hleft, hleftSeen, hleftError⟩ |
          ⟨hleft, hleftSeen, hleftError⟩ <;>
        rcases errorOf_loginResult s fails now right draw email password hcall with
          ⟨hright, hrightError⟩ | ⟨hright, hrightError⟩ | ⟨hright, hrightSeen, hrightError⟩ |
            ⟨hright, hrightSeen, hrightError⟩ <;>
        rw [hleftError, hrightError] <;>
        cases hfailure : firstFailure fails 3 4 <;>
        simp_all

/-! ## The answer of `ForgotPassword` -/

/-- The answer of `ForgotPassword` for an existing account. -/
def Service.mintAnswer (draw : ResetDraw) : Except Err Unit :=
  match s.lib.bcryptGenerate draw.salt (draw.plain s.lib) with
  | none => .error .bcrypt
  | some _ =>
      match firstFailure fails 1 2 with
      | some cause => .error (.call cause)
      | none => .ok ()

theorem run_forgotPasswordAfter_failing (draw : ResetDraw) (u : UserByEmailRow) :
    ((s.forgotPasswordAfter draw u).run (serveFailing s.lib fun index _ => fails index) now
        (1, db)).1 = s.mintAnswer fails draw := by
  unfold Service.mintAnswer firstFailure
  cases hhash : s.lib.bcryptGenerate draw.salt (draw.plain s.lib) with
  | none =>
      unfold Service.forgotPasswordAfter
      rw [hhash]
      rfl
  | some hash =>
      rw [Service.run_forgotPasswordAfter_failing s _ now db hhash]
      dsimp only
      cases fails 1 with
      | some cause => rfl
      | none => cases fails 2 <;> rfl

/-- The look-up of the account fails, the address has an account in both states or in
none, or the token is hashed and stored without a failure. -/
def Service.ForgotAlike (draw : ResetDraw) (email : String) (left right : Db) : Prop :=
  fails 0 ≠ none ∨
    ((left.userWithEmail s.lib.lower email).isSome ↔
      (right.userWithEmail s.lib.lower email).isSome) ∨
    ((s.lib.bcryptGenerate draw.salt (draw.plain s.lib)).isSome ∧ fails 1 = none ∧ fails 2 = none)

theorem run_forgotPassword_failing (draw : ResetDraw) (email : String) :
    ((s.forgotPassword draw email).run (serveFailing s.lib fun index _ => fails index) now
        (0, db)).1 =
      match fails 0 with
      | some cause => if cause = .noRows then .ok () else .error (.call cause)
      | none =>
          if (db.userWithEmail s.lib.lower email).isSome then s.mintAnswer fails draw
          else .ok () := by
  unfold Service.forgotPassword
  cases hcall : fails 0 with
  | some cause =>
      rw [run_failed s.lib now 0 db hcall]
      cases cause <;> simp
  | none =>
      rw [run_served s.lib now 0 db hcall]
      cases huser : db.userWithEmail s.lib.lower email with
      | none => simp [serve, huser, one]
      | some user =>
          simp only [serve, huser, one, Option.map_some, Option.isSome_some, if_true]
          exact run_forgotPasswordAfter_failing s fails now db draw user.byEmailRow

theorem mintAnswer_eq_ok_iff (draw : ResetDraw) :
    s.mintAnswer fails draw = .ok () ↔
      (s.lib.bcryptGenerate draw.salt (draw.plain s.lib)).isSome ∧ fails 1 = none ∧
        fails 2 = none := by
  rw [← firstFailure_eq_none_iff]
  unfold Service.mintAnswer
  cases s.lib.bcryptGenerate draw.salt (draw.plain s.lib) with
  | none => simp
  | some hash => cases firstFailure fails 1 2 <;> simp

theorem forgot_eq_iff (draw : ResetDraw) (email : String) (left right : Db) :
    ((s.forgotPassword draw email).run (serveFailing s.lib fun index _ => fails index) now
        (0, left)).1 =
      ((s.forgotPassword draw email).run (serveFailing s.lib fun index _ => fails index) now
        (0, right)).1 ↔ s.ForgotAlike fails draw email left right := by
  unfold Service.ForgotAlike
  rw [run_forgotPassword_failing, run_forgotPassword_failing, ← mintAnswer_eq_ok_iff]
  cases hcall : fails 0 with
  | some cause => simp
  | none =>
      cases (left.userWithEmail s.lib.lower email).isSome <;>
        cases (right.userWithEmail s.lib.lower email).isSome <;>
        simp [eq_comm]

/-! ## Enumeration -/

/-- Two states that differ in one address get the same answers exactly when the standing
of the address is the same in both and no write for an existing account fails. -/
theorem answersAlike_iff (login : LoginDraw) (reset : ResetDraw) (email : String)
    (password : Bytes) (left right : Db) :
    s.AnswersAlike fails now login reset email password left right ↔
      s.LoginsAlike fails email password left right ∧
        s.ForgotAlike fails reset email left right := by
  rw [← errorOf_login_eq_iff s fails now login, ← forgot_eq_iff s fails now]
  exact ⟨fun halike => ⟨halike.login, halike.forgot⟩, fun halike => ⟨halike.1, halike.2⟩⟩

/-- The account of Alice is disabled. A guess of her password is answered otherwise than
for an address without an account. -/
theorem not_forall_answersAlike :
    ¬∀ (s : Service) (fails : Nat → Option CallError) (now : Nat) (login : LoginDraw)
      (reset : ResetDraw) (email : String) (password : Bytes) (left right : Db),
      Db.SameButFor s.lib.lower email left right → s.MadeFromOther left email password →
      s.MadeFromOther right email password →
      s.AnswersAlike fails now login reset email password left right := by
  intro halike
  let absent : Db := { Sample.db with users := [] }
  let disabled : Db := { Sample.db with users := [{ Sample.alice with isActive := false }] }
  let guess : Bytes := bytesOf "guess"
  have hsame : Db.SameButFor Sample.service.lib.lower Sample.alice.email absent disabled :=
    ⟨by simp [absent, disabled], rfl, rfl, rfl, rfl, rfl, rfl, rfl⟩
  have habsent : Sample.service.MadeFromOther absent Sample.alice.email guess := by
    simp [Service.MadeFromOther, absent]
  have hdisabled : Sample.service.MadeFromOther disabled Sample.alice.email guess := by
    intro user huser _ salt hhash
    obtain rfl := List.mem_singleton.mp huser
    have hcompare := (Reference.external_idealBcrypt.compare_iff salt guess _ hhash
      Sample.password).mp rfl
    exact absurd hcompare (by decide)
  have hlogin := (halike Sample.service (fun _ => none) 0 ⟨0, ⟨0, 0⟩⟩ Sample.resetDraw
    Sample.alice.email guess absent disabled hsame habsent hdisabled).login
  rw [errorOf_login_eq_iff] at hlogin
  rcases hlogin with hfails | ⟨hstanding, -⟩
  · exact hfails rfl
  · exact absurd hstanding (by decide)

end Skolva.Auth
