import Skolva.Auth.PasswordReset
import Skolva.Auth.Reference

/-! # Login

`Service.Login`, and the methods of the service as one type of calls. The results of the other
modules are witnessed on one service with one account, which stand at the end.
-/

namespace Skolva.Auth

open Effect

/-- What `Login` returns beside its error. The empty string is `none`. -/
structure LoginResult (Token : Type) where
  token : Option Token
  needs2FA : Bool
  tempToken : Option Token
  deriving DecidableEq

/-- What `Login` draws: the identifier of the token it issues, and the code it may
send. -/
structure LoginDraw where
  jti : Uuid
  otp : OTPDraw

namespace Service

variable (s : Service)

/-- `Login` for an account that has no second factor. -/
def loginAccess (jti : Uuid) (u : UserByEmailRow) :
    Prog (Except Err (LoginResult s.lib.Token)) := do
  match ← listUserRoles u.id with
  | .error cause => return .error (.call cause)
  | .ok roleRows =>
      match ← getPermissionsForUser u.id with
      | .error cause => return .error (.call cause)
      | .ok perms =>
          match ← s.tm.issueAccess s.lib jti (s.lib.uuidString u.id) u.email
              (roleRows.map Role.slug) perms with
          | .error err => return .error err
          | .ok tok => return .ok { token := some tok, needs2FA := false, tempToken := none }

/-- `Login` for an account that has a second factor. -/
def loginPending (draw : LoginDraw) (u : UserByEmailRow) (emailEnabled : Bool) :
    Prog (Except Err (LoginResult s.lib.Token)) := do
  match ← s.tm.issuePending2FA s.lib draw.jti (s.lib.uuidString u.id) (5 * Time.minute) with
  | .error tmpErr => return .error tmpErr
  | .ok temp =>
      if emailEnabled then
        -- A code that cannot be sent does not stop the login.
        let _ ← s.sendEmail2FALoginOTP draw.otp u.id
        return .ok { token := none, needs2FA := true, tempToken := some temp }
      else
        return .ok { token := none, needs2FA := true, tempToken := some temp }

def login (draw : LoginDraw) (email : String) (password : Bytes) :
    Prog (Except Err (LoginResult s.lib.Token)) := do
  match ← getUserByEmail email with
  | .error .noRows => return .error (.unauthorized "invalid credentials")
  | .error cause => return .error (.call cause)
  | .ok u =>
      if u.isActive then
        if verifyPassword s.lib u.passwordHash password then
          -- The errors of both look-ups are dropped.
          let totpRow := valueOr .zero (← getTOTPSecret u.id)
          let emailEnabled := valueOr false (← isEmail2FAEnabled u.id)
          if totpRow.isEnabled || emailEnabled then
            s.loginPending draw u emailEnabled
          else
            s.loginAccess draw.jti u
        else
          return .error (.unauthorized "invalid credentials")
      else
        return .error (.unauthorized "account is disabled")

/-- An account that has a second factor gets a pending token. -/
theorem run_loginPending {St : Type} (serve : Nat → (op : Op) → St → op.Resp × St) (now : Nat)
    (store : St) (draw : LoginDraw) (u : UserByEmailRow) (emailEnabled : Bool) :
    ((s.loginPending draw u emailEnabled).run serve now store).1 =
      .ok { token := none, needs2FA := true,
            tempToken := some (s.tm.signed s.lib now draw.jti (s.lib.uuidString u.id) "" [] []
              tokenKindPending2FA (5 * Time.minute)) } := by
  unfold loginPending TokenManager.issuePending2FA
  rw [Program.run_bind, TokenManager.run_issue]
  cases emailEnabled with
  | true => exact congrArg Prod.fst (Program.run_bind ..)
  | false => rfl

/-- `Login` writes nothing but what sending a code writes. -/
theorem uses_login {allowed : Op → Prop} (draw : LoginDraw) {email : String} (password : Bytes)
    (hfind : allowed (.getUserByEmail email)) (hget : ∀ u, allowed (.getUserByID u))
    (hroles : ∀ u, allowed (.listUserRoles u)) (hperms : ∀ u, allowed (.getPermissionsForUser u))
    (htotp : ∀ u, allowed (.getTOTPSecret u)) (hread : ∀ u key, allowed (.metaGet u key))
    (hset : ∀ u key value, key.IsEmail2FA → allowed (.metaSet u key value))
    (hdelete : ∀ u key, key.IsEmail2FA → allowed (.metaDelete u key))
    (hmail : ∀ message, allowed (.sendMail message)) :
    (s.login draw email password).Uses allowed := by
  refine Program.uses_bind (Program.uses_perform hfind) fun found => ?_
  split
  · exact Program.uses_pure _
  · exact Program.uses_pure _
  · split
    · split
      · refine Program.uses_bind (Program.uses_perform (htotp _)) fun totpRow => ?_
        refine Program.uses_bind (uses_isEmail2FAEnabled (hread _)) fun enabled => ?_
        dsimp only
        split
        · refine Program.uses_bind (s.tm.uses_issue s.lib ..) fun temp => ?_
          split
          · exact Program.uses_pure _
          · split
            · refine Program.uses_bind (s.uses_sendEmail2FALoginOTP (hread _) (hset _) (hdelete _)
                hmail (hget _) _) fun _ => Program.uses_pure _
            · exact Program.uses_pure _
        · refine Program.uses_bind (Program.uses_perform (hroles _)) fun roleRows => ?_
          split
          · exact Program.uses_pure _
          · refine Program.uses_bind (Program.uses_perform (hperms _)) fun perms => ?_
            split
            · exact Program.uses_pure _
            · refine Program.uses_bind (s.tm.uses_issue s.lib ..) fun tok => ?_
              cases tok <;> exact Program.uses_pure _
      · exact Program.uses_pure _
    · exact Program.uses_pure _

end Service

/-! ## A small installation -/

namespace Sample

open Time

@[reducible] def service : Service where
  lib := Reference.external
  tm := { secret := "secret", accessTTL := 15 * minute }

def password : Bytes := bytesOf "correct horse"

def alice : User where
  id := 1
  email := "alice@example.org"
  passwordHash := .bcrypt 0 password
  firstName := "Alice"
  lastName := "Ahrens"
  isActive := true
  isProtected := false
  anonymizedAt := none
  createdAt := 0
  updatedAt := 0
  deletedAt := none
  createdBy := none
  updatedBy := none

/-- Alice alone, without roles and without a second factor. -/
def db : Db where
  users := [alice]
  totp := fun _ => none
  usersMeta := fun _ _ => none
  roles := []
  userRoles := []
  permissions := []
  rolePermissions := []
  mails := []

def totpSecret : String := "JBSWY3DPEHPK3PXP"

def totpRow : UserTotpSecret where
  secretEncrypted := String.ofList (Reference.hexDigits 24 0) ++ totpSecret
  isEnabled := true
  verifiedAt := some 0
  recoveryCodesHash := []
  lastUsedAt := none
  failedAttempts := 0
  lockedUntil := none
  createdAt := 0
  updatedAt := 0

/-- Alice has confirmed TOTP. -/
def dbWithTotp : Db := db.setTotp alice.id (some totpRow)

def resetDraw : ResetDraw := ⟨7, 0⟩

def newPassword : Bytes := bytesOf "new password"

end Sample

end Skolva.Auth
