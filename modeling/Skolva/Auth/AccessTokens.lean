import Skolva.Auth.Permissions
import Skolva.Auth.Handler

/-! # What stands in an access token

The two ways to an access token read the roles and permissions of the user at the same moment
as they sign it.
-/

namespace Skolva.Auth

open Effect

/-! ## The tables of roles and permissions -/

/-- What roles and permissions are looked up in. -/
structure Rbac where
  roles : List Role
  userRoles : List (Uuid × String)
  permissions : List String
  rolePermissions : List (String × String)
  deriving DecidableEq

namespace Db

def rbac (db : Db) : Rbac := ⟨db.roles, db.userRoles, db.permissions, db.rolePermissions⟩

/-- The user has a live admin role, or a live role that grants the permission. -/
def Permits (db : Db) (u : Uuid) (permission : String) : Prop :=
  db.HoldsLiveAdmin u ∨ permission ∈ db.permissionsFor u

section Congr

variable {db other : Db} (hsame : db.rbac = other.rbac)
include hsame

theorem liveRoles_congr (u : Uuid) : db.liveRoles u = other.liveRoles u := by
  obtain ⟨hroles, huserRoles, -, -⟩ := Rbac.mk.inj hsame
  unfold liveRoles
  rw [hroles, huserRoles]

theorem permissionsFor_congr (u : Uuid) : db.permissionsFor u = other.permissionsFor u := by
  obtain ⟨-, -, hpermissions, hgrants⟩ := Rbac.mk.inj hsame
  unfold permissionsFor
  rw [hpermissions, hgrants, liveRoles_congr hsame]

theorem permits_congr (u : Uuid) (permission : String) :
    db.Permits u permission ↔ other.Permits u permission := by
  unfold Permits HoldsLiveAdmin
  rw [liveRoles_congr hsame, permissionsFor_congr hsame]

end Congr

end Db

section Frame

variable (lib : External) (now : Nat) (db : Db)

theorem serve_rbac (op : Op) : (serve lib now op db).2.rbac = db.rbac := by
  cases op with
  | createUser id email passwordHash firstName lastName actor =>
      simp only [serve]
      split <;> rfl
  | _ => rfl

/-- No method of the service writes to them. -/
theorem run_rbac {α : Type} (program : Prog α) :
    (program.run (serve lib) now db).2.rbac = db.rbac :=
  Program.run_invariant (serve lib) now (motive := fun store => store.rbac = db.rbac) program
    (fun op store hstore => (serve_rbac lib now store op).trans hstore) rfl

end Frame

/-! ## The claims -/

/-- The claims let their bearer do what needs the permission. -/
def Claims.Permit (claims : Claims) (permission : String) : Prop :=
  adminRole ∈ claims.roles ∨ permission ∈ claims.permissions

variable (s : Service) (now : Nat) (db : Db)

/-- The claims of an access token that is signed in this state. -/
def Service.accessClaims (jti u : Uuid) (email : String) : Claims :=
  TokenManager.claimsAt s.lib now jti (s.lib.uuidString u) email
    (((db.liveRoles u).insertionSort fun left right => left.slug ≤ right.slug).map Role.slug)
    ((db.permissionsFor u).dedup.insertionSort fun left right => left ≤ right)
    tokenKindAccess s.tm.accessTTL

section Claims

variable {s now db} {jti u : Uuid} {email : String}

/-- They permit what the tables permit. -/
theorem permit_accessClaims {permission : String} :
    (s.accessClaims now db jti u email).Permit permission ↔ db.Permits u permission := by
  unfold Claims.Permit Db.Permits Db.HoldsLiveAdmin
  refine or_congr ?_ ?_
  · simp [Service.accessClaims, TokenManager.claimsAt, TokenManager.claimsBy]
  · exact (List.mem_insertionSort _).trans List.mem_dedup

theorem subject_accessClaims :
    s.lib.uuidParse (s.accessClaims now db jti u email).subject = some u :=
  s.lib.uuidParse_uuidString u

/-- They are valid until their expiry, which is cut to whole seconds. -/
theorem validAt_accessClaims {instant : Nat} (hissued : now ≤ instant) :
    (s.accessClaims now db jti u email).ValidAt instant ↔
      (instant : Int) < (now + s.tm.accessTTL) / Time.second * Time.second := by
  have hnotBefore : (now : Int) / Time.second * Time.second ≤ instant := by
    have hround : (now : Int) / Time.second * Time.second ≤ now := Int.ediv_mul_le _ (by decide)
    omega
  constructor
  · rintro ⟨⟨expiresAt, hexpires, hbefore⟩, -, -⟩
    rwa [← Option.mem_some_iff.mp hexpires] at hbefore
  · intro hbefore
    refine ⟨⟨_, rfl, hbefore⟩, ?_, rfl⟩
    intro notBefore hnot
    rwa [← Option.mem_some_iff.mp hnot]

end Claims

/-! ## How it is handed out -/

theorem run_loginAccess_claims (jti : Uuid) (user : User) :
    (s.loginAccess jti user.byEmailRow).run (serve s.lib) now db =
      (.ok { token := some (s.lib.jwtSign s.tm.secret
              (s.accessClaims now db jti user.id user.email)),
             needs2FA := false, tempToken := none }, db) := by
  unfold Service.loginAccess TokenManager.issueAccess
  simp only [Program.run_bind, Program.run_perform, serve, TokenManager.run_issue]
  rfl

namespace Handler

variable {s now db}

/-- The second step of a login signs the claims of the user the pending token names. -/
theorem access_withSecondFactor {jti : Uuid} {body : Option (Verify2FARequest s.lib.Token)}
    {check : Uuid → Bytes → Prog (Except Err Unit)} {token : s.lib.Token} {claims : Claims}
    (htoken : token ∈ ((withSecondFactor s jti body check).run (serve s.lib) now db).1.tokens)
    (hclaims : s.lib.jwtParse s.tm.secret token = some claims) :
    ∃ u email, claims = s.accessClaims now db jti u email := by
  unfold withSecondFactor at htoken
  cases body with
  | none => exact nomatch htoken
  | some req =>
      obtain ⟨result, hrun, -⟩ := run_pending2FAUser s now db req.tempToken
      simp only [Program.run_bind, hrun] at htoken
      cases result with
      | error err => exact nomatch htoken
      | ok userID =>
          have hrbac := run_rbac s.lib now db (check userID req.code)
          simp only [Program.run_bind] at htoken
          cases hverdict : ((check userID req.code).run (serve s.lib) now db).1 with
          | error err =>
              rw [hverdict] at htoken
              exact nomatch htoken
          | ok _ =>
              rw [hverdict] at htoken
              simp only [Program.run_bind, Service.run_issueAccessForUser,
                Db.liveRoles_congr hrbac, Db.permissionsFor_congr hrbac] at htoken
              cases huser : ((check userID req.code).run (serve s.lib) now db).2.liveUser userID with
              | none =>
                  rw [huser] at htoken
                  exact nomatch htoken
              | some user =>
                  rw [huser] at htoken
                  rw [List.mem_singleton.mp htoken, TokenManager.parse_signed] at hclaims
                  exact ⟨userID, user.email, (Option.some.inj hclaims).symm⟩

/-- An access token has the claims that the tables give its user at that moment. -/
theorem access_minted {request : Request s.lib.Token} {token : s.lib.Token} {claims : Claims}
    (htoken : token ∈ (process s now request db).1.tokens)
    (hclaims : s.lib.jwtParse s.tm.secret token = some claims)
    (hkind : claims.kind = tokenKindAccess) :
    ∃ jti u email, claims = s.accessClaims now db jti u email := by
  cases request with
  | login draw body =>
      cases body with
      | none => exact nomatch htoken
      | some req =>
          unfold process handle login at htoken
          dsimp only at htoken
          rw [Program.run_bind] at htoken
          rcases run_login_cases s now db draw req.email req.password with ⟨-, err, herr⟩ |
            ⟨user, -, -, -, ⟨-, emailEnabled, -, hpending⟩ | ⟨-, hgranted⟩⟩
          · rw [herr] at htoken
            exact nomatch htoken
          · rw [hpending, s.run_loginPending] at htoken
            rw [List.mem_singleton.mp htoken, TokenManager.parse_signed] at hclaims
            rw [← Option.some.inj hclaims] at hkind
            have hkinds : tokenKindPending2FA ≠ tokenKindAccess := by decide
            exact absurd hkind hkinds
          · rw [hgranted, run_loginAccess_claims] at htoken
            rw [List.mem_singleton.mp htoken, s.lib.jwtParse_jwtSign] at hclaims
            exact ⟨draw.jti, user.id, user.email, (Option.some.inj hclaims).symm⟩
  | verify2FA jti body =>
      exact ⟨jti, access_withSecondFactor htoken hclaims⟩
  | recover2FA jti body =>
      exact ⟨jti, access_withSecondFactor htoken hclaims⟩
  | verifyEmail2FA jti body =>
      exact ⟨jti, access_withSecondFactor htoken hclaims⟩
  | _ =>
      rw [tokens_process s now db _ (by exact not_false)] at htoken
      exact nomatch htoken

end Handler

end Skolva.Auth
