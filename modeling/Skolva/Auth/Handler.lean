import Skolva.Auth.LoginFaults

/-! # The endpoints

`handler.go` and the requests of `dto.go`. A body is `none` where
`ShouldBindJSON` fails. The actor is what `actorID` extracts from the context.
-/

namespace Skolva.Auth

open Effect

structure LoginRequest where
  email : String
  password : Bytes
  deriving DecidableEq

structure RegisterRequest where
  email : String
  password : Bytes
  firstName : String
  lastName : String
  deriving DecidableEq

structure UpdateUserRequest where
  firstName : String
  lastName : String
  isActive : Option Bool
  deriving DecidableEq

structure Verify2FARequest (Token : Type) where
  tempToken : Token
  code : Bytes
  deriving DecidableEq

structure PasswordResetRequest where
  userID : String
  token : Bytes
  password : Bytes
  deriving DecidableEq

/-- A request to one of the endpoints, with what the service draws while it is
processed. -/
inductive Request (Token : Type) where
  | login (draw : LoginDraw) (body : Option LoginRequest)
  | register (id : Uuid) (salt : Nat) (actor : Uuid) (body : Option RegisterRequest)
  | getUser (id : String)
  | updateUser (actor : Uuid) (id : String) (body : Option UpdateUserRequest)
  | deleteUser (actor : Uuid) (id : String)
  | setup2FA (draw : SetupDraw) (actor : Uuid)
  | confirm2FA (actor : Uuid) (body : Option Bytes)
  | verify2FA (jti : Uuid) (body : Option (Verify2FARequest Token))
  | recover2FA (jti : Uuid) (body : Option (Verify2FARequest Token))
  | disable2FA (actor : Uuid) (body : Option Bytes)
  | setupEmail2FA (draw : OTPDraw) (actor : Uuid)
  | confirmEmail2FA (actor : Uuid) (body : Option Bytes)
  | verifyEmail2FA (jti : Uuid) (body : Option (Verify2FARequest Token))
  | resendEmail2FA (draw : OTPDraw) (body : Option Token)
  | disableEmail2FA (actor : Uuid)
  | forgotPassword (draw : ResetDraw) (body : Option String)
  | resetPassword (salt : Nat) (body : Option PasswordResetRequest)

structure LoginResponse (Token : Type) where
  token : Option Token := none
  requires2FA : Bool := false
  tempToken : Option Token := none
  deriving DecidableEq

inductive Reply (Token : Type) where
  | login (response : LoginResponse Token)
  | user (response : UserResponse)
  | setup2FA (provisioningURI : String) (recoveryCodes : List Bytes)
  | message (text : String)
  | noContent
  | error (err : Err)
  deriving DecidableEq

namespace Handler

variable (s : Service)

def login (draw : LoginDraw) (body : Option LoginRequest) : Prog (Reply s.lib.Token) := do
  match body with
  | none => return .error (.validation "email and password are required")
  | some req =>
      match ← s.login draw req.email req.password with
      | .error err => return .error err
      | .ok result =>
          if result.needs2FA then
            return .login { requires2FA := true, tempToken := result.tempToken }
          else
            return .login { token := result.token }

def register (id : Uuid) (salt : Nat) (actor : Uuid) (body : Option RegisterRequest) :
    Prog (Reply s.lib.Token) := do
  match body with
  | none =>
      return .error
        (.validation "email, password (min 8), first_name and last_name are required")
  | some req =>
      match ← s.register id salt actor req.email req.password req.firstName req.lastName with
      | .error err => return .error err
      | .ok u => return .user u

/-- The `id` parameter of the path, and what is done with the identifier. -/
def withUserID (id : String) (next : Uuid → Prog (Reply s.lib.Token)) :
    Prog (Reply s.lib.Token) := do
  match s.lib.uuidParse id with
  | none => return .error (.validation "invalid user id")
  | some userID => next userID

def getUser (id : String) : Prog (Reply s.lib.Token) :=
  withUserID s id fun userID => do
    match ← Service.getUser userID with
    | .error err => return .error err
    | .ok u => return .user u

def updateUser (actor : Uuid) (id : String) (body : Option UpdateUserRequest) :
    Prog (Reply s.lib.Token) :=
  withUserID s id fun userID => do
    match body with
    | none => return .error (.validation "first_name and last_name are required")
    | some req =>
        match ← Service.updateUser actor userID req.firstName req.lastName req.isActive with
        | .error err => return .error err
        | .ok u => return .user u

/-- `c.Status(http.StatusNoContent)`, unless the method reports an error. -/
def noContentAfter (method : Prog (Except Err Unit)) : Prog (Reply s.lib.Token) := do
  match ← method with
  | .error err => return .error err
  | .ok _ => return .noContent

def deleteUser (actor : Uuid) (id : String) : Prog (Reply s.lib.Token) :=
  withUserID s id fun userID => noContentAfter s (Service.deleteUser actor userID)

def setup2FA (draw : SetupDraw) (actor : Uuid) : Prog (Reply s.lib.Token) := do
  match ← s.setup2FA draw actor with
  | .error err => return .error err
  | .ok (uri, codes) => return .setup2FA uri codes

/-- The endpoints whose body is a code. -/
def withCode (body : Option Bytes) (method : Bytes → Prog (Except Err Unit)) :
    Prog (Reply s.lib.Token) := do
  match body with
  | none => return .error (.validation "code is required")
  | some code => noContentAfter s (method code)

def confirm2FA (actor : Uuid) (body : Option Bytes) : Prog (Reply s.lib.Token) :=
  withCode s body (s.confirm2FA actor)

def disable2FA (actor : Uuid) (body : Option Bytes) : Prog (Reply s.lib.Token) :=
  withCode s body (s.disable2FA actor)

def confirmEmail2FA (actor : Uuid) (body : Option Bytes) : Prog (Reply s.lib.Token) :=
  withCode s body (s.confirmEmail2FA actor)

/-- The check of a pending token. `Verify2FA` and `Recover2FA` have it inline. -/
def pending2FAUser (tempToken : s.lib.Token) : Prog (Except Err Uuid) := do
  match ← s.tm.verify s.lib tempToken with
  | .error _ => return .error (.unauthorized "invalid or expired 2FA token")
  | .ok claims =>
      if claims.kind = tokenKindPending2FA then
        match s.lib.uuidParse claims.subject with
        | none => return .error (.unauthorized "invalid 2FA token")
        | some userID => return .ok userID
      else
        return .error (.unauthorized "invalid or expired 2FA token")

/-- The endpoints that exchange a pending token and a code for an access token. They
differ in the method that checks the code. -/
def withSecondFactor (jti : Uuid) (body : Option (Verify2FARequest s.lib.Token))
    (check : Uuid → Bytes → Prog (Except Err Unit)) : Prog (Reply s.lib.Token) := do
  match body with
  | none => return .error (.validation "temp_token and code are required")
  | some req =>
      match ← pending2FAUser s req.tempToken with
      | .error err => return .error err
      | .ok userID =>
          match ← check userID req.code with
          | .error err => return .error err
          | .ok _ =>
              match ← s.issueAccessForUser jti userID with
              | .error err => return .error err
              | .ok token => return .login { token := some token }

def verify2FA (jti : Uuid) (body : Option (Verify2FARequest s.lib.Token)) :
    Prog (Reply s.lib.Token) :=
  withSecondFactor s jti body s.verify2FA

def recover2FA (jti : Uuid) (body : Option (Verify2FARequest s.lib.Token)) :
    Prog (Reply s.lib.Token) :=
  withSecondFactor s jti body s.consumeRecoveryCode

def verifyEmail2FA (jti : Uuid) (body : Option (Verify2FARequest s.lib.Token)) :
    Prog (Reply s.lib.Token) :=
  withSecondFactor s jti body s.verifyEmail2FALogin

def setupEmail2FA (draw : OTPDraw) (actor : Uuid) : Prog (Reply s.lib.Token) :=
  noContentAfter s (s.setupEmail2FA draw actor)

def resendEmail2FA (draw : OTPDraw) (body : Option s.lib.Token) : Prog (Reply s.lib.Token) := do
  match body with
  | none => return .error (.validation "temp_token is required")
  | some tempToken =>
      match ← pending2FAUser s tempToken with
      | .error err => return .error err
      | .ok userID => noContentAfter s (s.sendEmail2FALoginOTP draw userID)

def disableEmail2FA (actor : Uuid) : Prog (Reply s.lib.Token) :=
  noContentAfter s (Service.disableEmail2FA actor)

def forgotPassword (draw : ResetDraw) (body : Option String) : Prog (Reply s.lib.Token) := do
  match body with
  | none => return .error (.validation "email is required")
  | some email =>
      match ← s.forgotPassword draw email with
      | .error err => return .error err
      | .ok _ => return .message "If the email exists, a reset link has been sent."

def resetPassword (salt : Nat) (body : Option PasswordResetRequest) :
    Prog (Reply s.lib.Token) := do
  match body with
  | none => return .error (.validation "user_id, token and password (min 8) are required")
  | some req =>
      match s.lib.uuidParse req.userID with
      | none => return .error (.validation "invalid user_id")
      | some userID => noContentAfter s (s.resetPassword salt userID req.token req.password)

/-- The handler the router picks for a request. -/
def handle : Request s.lib.Token → Prog (Reply s.lib.Token)
  | .login draw body => login s draw body
  | .register id salt actor body => register s id salt actor body
  | .getUser id => getUser s id
  | .updateUser actor id body => updateUser s actor id body
  | .deleteUser actor id => deleteUser s actor id
  | .setup2FA draw actor => setup2FA s draw actor
  | .confirm2FA actor body => confirm2FA s actor body
  | .verify2FA jti body => verify2FA s jti body
  | .recover2FA jti body => recover2FA s jti body
  | .disable2FA actor body => disable2FA s actor body
  | .setupEmail2FA draw actor => setupEmail2FA s draw actor
  | .confirmEmail2FA actor body => confirmEmail2FA s actor body
  | .verifyEmail2FA jti body => verifyEmail2FA s jti body
  | .resendEmail2FA draw body => resendEmail2FA s draw body
  | .disableEmail2FA actor => disableEmail2FA s actor
  | .forgotPassword draw body => forgotPassword s draw body
  | .resetPassword salt body => resetPassword s salt body

/-- Process a request on its own. -/
def process (now : Nat) (request : Request s.lib.Token) (db : Db) : Reply s.lib.Token × Db :=
  (handle s request).run (serve s.lib) now db

end Handler

/-! ## Tokens in requests and replies -/

def Request.presented {Token : Type} : Request Token → List Token
  | .verify2FA _ (some req) | .recover2FA _ (some req) | .verifyEmail2FA _ (some req) =>
      [req.tempToken]
  | .resendEmail2FA _ (some tempToken) => [tempToken]
  | _ => []

/-- The request is one of the two steps of a login. -/
def Request.StartsSession {Token : Type} : Request Token → Prop
  | .login .. | .verify2FA .. | .recover2FA .. | .verifyEmail2FA .. => True
  | _ => False

def Reply.tokens {Token : Type} : Reply Token → List Token
  | .login response => response.token.toList ++ response.tempToken.toList
  | _ => []

section Tokens

variable (s : Service) (now : Nat) (db : Db)

/-- The reply carries a full access token for this user. -/
def Service.GrantsAccess (reply : Reply s.lib.Token) (u : Uuid) : Prop :=
  ∃ token ∈ reply.tokens, s.tm.AccessTokenFor s.lib u token

/-- The token is a pending token that names this user and is valid at the instant. -/
def Service.PendingTokenFor (u : Uuid) (token : s.lib.Token) : Prop :=
  ∃ claims, s.lib.jwtParse s.tm.secret token = some claims ∧ claims.ValidAt now ∧
    claims.kind = tokenKindPending2FA ∧ s.lib.uuidParse claims.subject = some u

/-- A login with a password alone. -/
def Service.PasswordSuffices (u : Uuid) : Request s.lib.Token → Prop
  | .login _ (some req) => s.PasswordChecked db req.email req.password u ∧
      ¬(db.TotpEnabled u ∨ db.EmailEnabled u)
  | _ => False

/-- A pending token of the user together with a code that one of the factors of the user
accepts. -/
def Service.SecondFactorPassed (u : Uuid) : Request s.lib.Token → Prop
  | .verify2FA _ (some req) =>
      s.PendingTokenFor now u req.tempToken ∧ s.AcceptsTOTP db now u req.code
  | .recover2FA _ (some req) =>
      s.PendingTokenFor now u req.tempToken ∧ s.AcceptsRecoveryCode db u req.code
  | .verifyEmail2FA _ (some req) =>
      s.PendingTokenFor now u req.tempToken ∧ s.AcceptsEmailOTP db now u req.code
  | _ => False

end Tokens

/-! ## Which requests are granted access -/

namespace Handler

variable (s : Service) (now : Nat) (db : Db) (u : Uuid)

theorem run_pending2FAUser (tempToken : s.lib.Token) :
    ∃ result, (pending2FAUser s tempToken).run (serve s.lib) now db = (result, db) ∧
      ∀ u, result = .ok u ↔ s.PendingTokenFor now u tempToken := by
  unfold pending2FAUser Service.PendingTokenFor
  rw [Program.run_bind, TokenManager.run_verify]
  cases s.lib.jwtParse s.tm.secret tempToken with
  | none => exact ⟨_, rfl, by simp⟩
  | some claims =>
      by_cases hvalid : claims.ValidAt now
      · by_cases hkind : claims.kind = tokenKindPending2FA
        · cases hsubject : s.lib.uuidParse claims.subject with
          | none =>
              simp only [hvalid, hkind, hsubject, if_true]
              exact ⟨_, rfl, by simp [hsubject]⟩
          | some userID =>
              simp only [hvalid, hkind, hsubject, if_true]
              exact ⟨_, rfl, by simp [hvalid, hkind, hsubject]⟩
        · simp only [hvalid, hkind, if_true, if_false]
          exact ⟨_, rfl, by simp [hkind]⟩
      · simp only [hvalid, if_false]
        exact ⟨_, rfl, by simp [hvalid]⟩

section Silent

variable {s now db}

theorem tokens_noContentAfter (method : Prog (Except Err Unit)) :
    ((noContentAfter s method).run (serve s.lib) now db).1.tokens = [] := by
  unfold noContentAfter
  rw [Program.run_bind]
  split <;> rfl

theorem tokens_withCode (body : Option Bytes) (method : Bytes → Prog (Except Err Unit)) :
    ((withCode s body method).run (serve s.lib) now db).1.tokens = [] := by
  cases body with
  | none => rfl
  | some code => exact tokens_noContentAfter (method code)

theorem tokens_withUserID (id : String) {next : Uuid → Prog (Reply s.lib.Token)}
    (hnext : ∀ userID, ((next userID).run (serve s.lib) now db).1.tokens = []) :
    ((withUserID s id next).run (serve s.lib) now db).1.tokens = [] := by
  unfold withUserID
  split
  · rfl
  · exact hnext _

end Silent

/-- The other requests never carry a token back. -/
theorem tokens_process (request : Request s.lib.Token) (hsession : ¬request.StartsSession) :
    (process s now request db).1.tokens = [] := by
  cases request with
  | login draw body => exact absurd trivial hsession
  | verify2FA jti body => exact absurd trivial hsession
  | recover2FA jti body => exact absurd trivial hsession
  | verifyEmail2FA jti body => exact absurd trivial hsession
  | register id salt actor body =>
      cases body with
      | none => rfl
      | some req =>
          simp only [process, handle, register, Program.run_bind]
          split <;> rfl
  | getUser id =>
      apply tokens_withUserID
      intro userID
      rw [Program.run_bind]
      split <;> rfl
  | updateUser actor id body =>
      apply tokens_withUserID
      intro userID
      cases body with
      | none => rfl
      | some req =>
          dsimp only
          rw [Program.run_bind]
          split <;> rfl
  | deleteUser actor id => exact tokens_withUserID id fun _ => tokens_noContentAfter _
  | setup2FA draw actor =>
      simp only [process, handle, setup2FA, Program.run_bind]
      split <;> rfl
  | confirm2FA actor body => exact tokens_withCode body _
  | disable2FA actor body => exact tokens_withCode body _
  | confirmEmail2FA actor body => exact tokens_withCode body _
  | setupEmail2FA draw actor => exact tokens_noContentAfter _
  | resendEmail2FA draw body =>
      cases body with
      | none => rfl
      | some tempToken =>
          simp only [process, handle, resendEmail2FA, Program.run_bind]
          split
          · rfl
          · exact tokens_noContentAfter _
  | disableEmail2FA actor => exact tokens_noContentAfter _
  | forgotPassword draw body =>
      cases body with
      | none => rfl
      | some email =>
          simp only [process, handle, forgotPassword, Program.run_bind]
          split <;> rfl
  | resetPassword salt body =>
      cases body with
      | none => rfl
      | some req =>
          simp only [process, handle, resetPassword]
          split
          · rfl
          · exact tokens_noContentAfter _

/-- A pending token and an accepted code are exchanged for an access token of the same
user, if the account has not been deleted. -/
theorem grantsAccess_withSecondFactor (jti : Uuid) (body : Option (Verify2FARequest s.lib.Token))
    (check : Uuid → Bytes → Prog (Except Err Unit))
    (hcheck : ∀ u code, (check u code).Uses Op.LeavesUsers) :
    s.GrantsAccess ((withSecondFactor s jti body check).run (serve s.lib) now db).1 u ↔
      ∃ req, body = some req ∧ s.PendingTokenFor now u req.tempToken ∧
        ((check u req.code).run (serve s.lib) now db).1 = .ok () ∧
        (db.liveUser u).isSome = true := by
  unfold withSecondFactor Service.GrantsAccess
  cases body with
  | none => simp [Reply.tokens]
  | some req =>
      obtain ⟨result, hrun, hpending⟩ := run_pending2FAUser s now db req.tempToken
      simp only [Program.run_bind, hrun, Option.some.injEq, exists_eq_left']
      cases result with
      | error err =>
          simp [Reply.tokens, ← hpending]
      | ok userID =>
          have huser : s.PendingTokenFor now u req.tempToken ↔ userID = u := by
            rw [← hpending, Except.ok.injEq]
          -- The check writes no row of `users`, so the account is looked up as it was.
          have hlive : ((check userID req.code).run (serve s.lib) now db).2.liveUser =
              db.liveUser := by
            have husers := run_users s.lib now db (hcheck userID req.code)
            funext id
            unfold Db.liveUser
            rw [husers]
          simp only [Program.run_bind, huser]
          cases hverdict : ((check userID req.code).run (serve s.lib) now db).1 with
          | error err =>
              simp only [Program.run_pure, Reply.tokens, List.not_mem_nil, false_and,
                exists_false, false_iff]
              rintro ⟨rfl, haccepted, -⟩
              rw [hverdict] at haccepted
              exact nomatch haccepted
          | ok _ =>
              simp only [Program.run_bind, Service.run_issueAccessForUser, hlive]
              cases hrow : db.liveUser userID with
              | none =>
                  simp only [Program.run_pure, Reply.tokens, List.not_mem_nil, false_and,
                    exists_false, false_iff]
                  rintro ⟨rfl, -, hsome⟩
                  rw [hrow] at hsome
                  exact nomatch hsome
              | some row =>
                  simp only [Program.run_pure, Reply.tokens, Option.toList_some,
                    Option.toList_none, List.append_nil, List.mem_singleton, exists_eq_left,
                    TokenManager.accessTokenFor_issued, true_and]
                  constructor
                  · rintro rfl
                    exact ⟨rfl, hverdict, by rw [hrow]; rfl⟩
                  · exact fun hall => hall.1

theorem leavesUsers_verify2FA (code : Bytes) : (s.verify2FA u code).Uses Op.LeavesUsers :=
  s.uses_verify2FA code trivial fun _ => trivial

theorem leavesUsers_consumeRecoveryCode (code : Bytes) :
    (s.consumeRecoveryCode u code).Uses Op.LeavesUsers :=
  s.uses_consumeRecoveryCode code trivial fun _ => trivial

theorem leavesUsers_verifyEmail2FALogin (code : Bytes) :
    (s.verifyEmail2FALogin u code).Uses Op.LeavesUsers :=
  s.uses_verifyEmail2FALogin (fun _ => trivial) (fun _ _ _ => trivial) (fun _ _ => trivial) code

/-- The token an answer to a login carries, by the factors of the account. -/
theorem tokens_login (draw : LoginDraw) (req : LoginRequest) :
    ((¬∃ u, s.PasswordChecked db req.email req.password u) ∧
      ((login s draw (some req)).run (serve s.lib) now db).1.tokens = []) ∨
    ∃ u, (∀ owner, s.PasswordChecked db req.email req.password owner ↔ owner = u) ∧
      (((db.TotpEnabled u ∨ db.EmailEnabled u) ∧
          ((login s draw (some req)).run (serve s.lib) now db).1.tokens =
            [s.tm.signed s.lib now draw.jti (s.lib.uuidString u) "" [] [] tokenKindPending2FA
              (5 * Time.minute)]) ∨
        (¬(db.TotpEnabled u ∨ db.EmailEnabled u) ∧ ∃ email roles perms,
          ((login s draw (some req)).run (serve s.lib) now db).1.tokens =
            [s.tm.signed s.lib now draw.jti (s.lib.uuidString u) email roles perms tokenKindAccess
              s.tm.accessTTL])) := by
  unfold login
  dsimp only
  rw [Program.run_bind]
  rcases run_login_cases s now db draw req.email req.password with ⟨hnone, err, herr⟩ |
    ⟨user, huser, hactive, hpassword, ⟨hfactor, emailEnabled, -, hpending⟩ | ⟨hfactor, hgranted⟩⟩
  · rw [herr]
    refine .inl ⟨?_, rfl⟩
    rintro ⟨u, user, huser, -, hactive, hpassword⟩
    exact hnone ⟨user, huser, hactive, hpassword⟩
  · have howner := s.passwordChecked_iff db huser hactive hpassword
    refine .inr ⟨user.id, howner, .inl ⟨hfactor, ?_⟩⟩
    rw [hpending, s.run_loginPending]
    rfl
  · have howner := s.passwordChecked_iff db huser hactive hpassword
    obtain ⟨roles, perms, htoken⟩ := run_loginAccess s now db draw.jti user.byEmailRow
    refine .inr ⟨user.id, howner, .inr ⟨hfactor, user.email, roles, perms, ?_⟩⟩
    rw [hgranted, htoken]
    rfl

theorem grantsAccess_login (draw : LoginDraw) (body : Option LoginRequest) :
    s.GrantsAccess ((login s draw body).run (serve s.lib) now db).1 u ↔
      s.PasswordSuffices db u (.login draw body) := by
  unfold Service.GrantsAccess Service.PasswordSuffices
  cases body with
  | none => simp [login, Reply.tokens]
  | some req =>
      have hkind : tokenKindPending2FA ≠ tokenKindAccess := by decide
      rcases tokens_login s now db draw req with ⟨hnone, htokens⟩ |
        ⟨owner, howner, ⟨hfactor, htokens⟩ | ⟨hfactor, email, roles, perms, htokens⟩⟩
      · rw [htokens]
        simp only [List.not_mem_nil, false_and, exists_false, false_iff]
        exact fun hchecked => hnone ⟨u, hchecked.1⟩
      · rw [htokens]
        simp only [List.mem_singleton, exists_eq_left, TokenManager.accessTokenFor_issued, hkind,
          false_and, false_iff, howner]
        rintro ⟨rfl, hnofactor⟩
        exact hnofactor hfactor
      · rw [htokens]
        simp only [List.mem_singleton, exists_eq_left, TokenManager.accessTokenFor_issued,
          true_and, howner]
        constructor
        · rintro rfl
          exact ⟨rfl, hfactor⟩
        · exact fun hchecked => hchecked.1.symm

theorem secondFactorPassed_iff {jti : Uuid} {body : Option (Verify2FARequest s.lib.Token)}
    {check : Uuid → Bytes → Prog (Except Err Unit)} {request : Request s.lib.Token}
    {accepts : Uuid → Bytes → Prop} (hcheck : ∀ u code, (check u code).Uses Op.LeavesUsers)
    (haccepts : ∀ u code, ((check u code).run (serve s.lib) now db).1 = .ok () ↔ accepts u code)
    (hrequest : s.SecondFactorPassed now db u request ↔ ∃ req, body = some req ∧
      s.PendingTokenFor now u req.tempToken ∧ accepts u req.code) :
    s.GrantsAccess ((withSecondFactor s jti body check).run (serve s.lib) now db).1 u ↔
      s.SecondFactorPassed now db u request ∧ (db.liveUser u).isSome = true := by
  rw [grantsAccess_withSecondFactor s now db u jti body check hcheck, hrequest]
  simp only [haccepts]
  constructor
  · rintro ⟨req, hbody, hpending, hcode, hlive⟩
    exact ⟨⟨req, hbody, hpending, hcode⟩, hlive⟩
  · rintro ⟨⟨req, hbody, hpending, hcode⟩, hlive⟩
    exact ⟨req, hbody, hpending, hcode, hlive⟩

/-- A request is granted access by a password alone, or by a second factor. -/
theorem grantsAccess_process (request : Request s.lib.Token) :
    s.GrantsAccess (process s now request db).1 u ↔
      s.PasswordSuffices db u request ∨
        s.SecondFactorPassed now db u request ∧ (db.liveUser u).isSome = true := by
  cases request with
  | login draw body =>
      refine (grantsAccess_login s now db u draw body).trans ?_
      simp [Service.SecondFactorPassed]
  | verify2FA jti body =>
      refine (secondFactorPassed_iff s now db u (fun u => leavesUsers_verify2FA s u)
        (fun u code => s.run_verify2FA_ok now db u code) ?_).trans (or_iff_right not_false).symm
      cases body <;> simp [Service.SecondFactorPassed]
  | recover2FA jti body =>
      refine (secondFactorPassed_iff s now db u (fun u => leavesUsers_consumeRecoveryCode s u)
        (fun u code => s.run_consumeRecoveryCode_ok now db u code) ?_).trans (or_iff_right not_false).symm
      cases body <;> simp [Service.SecondFactorPassed]
  | verifyEmail2FA jti body =>
      refine (secondFactorPassed_iff s now db u (fun u => leavesUsers_verifyEmail2FALogin s u)
        (fun u code => s.run_verifyEmail2FALogin_ok now db u code) ?_).trans (or_iff_right not_false).symm
      cases body <;> simp [Service.SecondFactorPassed]
  | _ =>
      unfold Service.GrantsAccess
      rw [tokens_process s now db _ (by exact not_false)]
      simp [Service.PasswordSuffices, Service.SecondFactorPassed]

/-- The endpoints for a second factor hand out access tokens only. -/
theorem accessToken_withSecondFactor {jti : Uuid} {body : Option (Verify2FARequest s.lib.Token)}
    {check : Uuid → Bytes → Prog (Except Err Unit)} {token : s.lib.Token} {claims : Claims}
    (htoken : token ∈ ((withSecondFactor s jti body check).run (serve s.lib) now db).1.tokens)
    (hclaims : s.lib.jwtParse s.tm.secret token = some claims) : claims.kind = tokenKindAccess := by
  unfold withSecondFactor at htoken
  cases body with
  | none => exact nomatch htoken
  | some req =>
      dsimp only at htoken
      rw [Program.run_bind] at htoken
      split at htoken
      next => exact nomatch htoken
      next =>
          rw [Program.run_bind] at htoken
          split at htoken
          next => exact nomatch htoken
          next =>
              rw [Program.run_bind, Service.run_issueAccessForUser] at htoken
              split at htoken
              next => exact nomatch htoken
              next signed hsigned =>
                  dsimp only at hsigned
                  split at hsigned
                  next => exact nomatch hsigned
                  next =>
                      rw [List.mem_singleton.mp htoken, ← Except.ok.inj hsigned,
                        TokenManager.parse_signed] at hclaims
                      rw [← Option.some.inj hclaims]
                      rfl

/-- Pending tokens are minted by logins that have checked the password. -/
theorem pending_minted {request : Request s.lib.Token} {token : s.lib.Token} {claims : Claims}
    (htoken : token ∈ (process s now request db).1.tokens)
    (hclaims : s.lib.jwtParse s.tm.secret token = some claims)
    (hkind : claims.kind = tokenKindPending2FA) :
    ∃ draw req u, request = .login draw (some req) ∧
      s.PasswordChecked db req.email req.password u ∧
      claims = TokenManager.claimsAt s.lib now draw.jti (s.lib.uuidString u) "" [] []
        tokenKindPending2FA (5 * Time.minute) := by
  have hkinds : tokenKindAccess ≠ tokenKindPending2FA := by decide
  cases request with
  | login draw body =>
      cases body with
      | none => exact nomatch htoken
      | some req =>
          rcases tokens_login s now db draw req with ⟨-, htokens⟩ |
            ⟨u, howner, ⟨-, htokens⟩ | ⟨-, email, roles, perms, htokens⟩⟩
          · exact absurd (htokens ▸ htoken) List.not_mem_nil
          · refine ⟨draw, req, u, rfl, (howner u).mpr rfl, ?_⟩
            have hminted := List.mem_singleton.mp (htokens ▸ htoken)
            rw [hminted, TokenManager.parse_signed] at hclaims
            exact (Option.some.inj hclaims).symm
          · have hminted := List.mem_singleton.mp (htokens ▸ htoken)
            rw [hminted, TokenManager.parse_signed] at hclaims
            exact absurd ((congrArg Claims.kind (Option.some.inj hclaims)).trans hkind) hkinds
  | verify2FA jti body =>
      exact absurd ((accessToken_withSecondFactor s now db htoken hclaims).symm.trans hkind) hkinds
  | recover2FA jti body =>
      exact absurd ((accessToken_withSecondFactor s now db htoken hclaims).symm.trans hkind) hkinds
  | verifyEmail2FA jti body =>
      exact absurd ((accessToken_withSecondFactor s now db htoken hclaims).symm.trans hkind) hkinds
  | _ =>
      rw [tokens_process s now db _ (by exact not_false)] at htoken
      exact nomatch htoken

end Handler

end Skolva.Auth
