import Skolva.Auth.Store

/-! # Tokens and passwords

`jwt.go` and `password.go`. The identifier of a token and the salt of a hash are
drawn by the caller.
-/

namespace Skolva.Auth

open Effect Time

/-! ## Tokens -/

def tokenKindAccess : String := "access"

def tokenKindPending2FA : String := "2fa_pending"

def tokenIssuer : String := "skolva"

structure TokenManager where
  secret : String
  accessTTL : Int

def newTokenManager (secret : String) (accessTTL : Int) : Except Err TokenManager :=
  if secret = "" then .error .emptySecret else .ok ⟨secret, accessTTL⟩

/-- The seconds of a `NewNumericDate`, by a clock with so many ticks in a second. Go
itself counts nanoseconds. -/
def numericDate (ticks : Nat) (instant : Int) : Int := instant / ticks

/-- What the validator of `golang-jwt` checks with the options of `Verify`. -/
def Claims.ValidBy (ticks : Nat) (claims : Claims) (now : Int) : Prop :=
  (∃ expiresAt ∈ claims.expiresAt, now < expiresAt * ticks) ∧
    (∀ notBefore ∈ claims.notBefore, notBefore * ticks ≤ now) ∧ claims.issuer = tokenIssuer

instance (ticks : Nat) (claims : Claims) (now : Int) : Decidable (claims.ValidBy ticks now) :=
  inferInstanceAs (Decidable (_ ∧ _ ∧ _))

def Claims.ValidAt (claims : Claims) (now : Nat) : Prop := claims.ValidBy second now

instance (claims : Claims) (now : Nat) : Decidable (claims.ValidAt now) :=
  inferInstanceAs (Decidable (claims.ValidBy second now))

namespace TokenManager

variable (lib : External) (tm : TokenManager)

/-- The claims `issue` signs, by a clock with so many ticks in a second. -/
def claimsBy (ticks : Nat) (now : Int) (jti : Uuid) (userID email : String)
    (roles permissions : List String) (kind : String) (ttl : Int) : Claims where
  subject := userID
  issuer := tokenIssuer
  issuedAt := some (numericDate ticks now)
  notBefore := some (numericDate ticks now)
  expiresAt := some (numericDate ticks (now + ttl))
  id := lib.uuidString jti
  email := email
  roles := roles
  permissions := permissions
  kind := kind

def claimsAt (now : Nat) (jti : Uuid) (userID email : String) (roles permissions : List String)
    (kind : String) (ttl : Int) : Claims :=
  claimsBy lib second now jti userID email roles permissions kind ttl

/-- The token `issue` makes of them. -/
def signed (now : Nat) (jti : Uuid) (userID email : String) (roles permissions : List String)
    (kind : String) (ttl : Int) : lib.Token :=
  lib.jwtSign tm.secret (claimsAt lib now jti userID email roles permissions kind ttl)

def issue (jti : Uuid) (userID email : String) (roles permissions : List String) (kind : String)
    (ttl : Int) : Prog (Except Err lib.Token) := do
  if userID = "" then
    return .error .emptySubject
  else
    let now ← timeNow
    return .ok (tm.signed lib now jti userID email roles permissions kind ttl)

def issueAccess (jti : Uuid) (userID email : String) (roles permissions : List String) :
    Prog (Except Err lib.Token) :=
  tm.issue lib jti userID email roles permissions tokenKindAccess tm.accessTTL

def issuePending2FA (jti : Uuid) (userID : String) (ttl : Int) : Prog (Except Err lib.Token) :=
  tm.issue lib jti userID "" [] [] tokenKindPending2FA ttl

def verify (token : lib.Token) : Prog (Except Err Claims) := do
  let now ← timeNow
  match lib.jwtParse tm.secret token with
  | none => return .error .invalidToken
  | some claims =>
      if claims.ValidAt now then return .ok claims else return .error .invalidToken

theorem parse_signed (now : Nat) (jti : Uuid) (userID email : String)
    (roles permissions : List String) (kind : String) (ttl : Int) :
    lib.jwtParse tm.secret (tm.signed lib now jti userID email roles permissions kind ttl) =
      some (claimsAt lib now jti userID email roles permissions kind ttl) :=
  lib.jwtParse_jwtSign ..

theorem uses_issue {allowed : Op → Prop} (jti : Uuid) (userID email : String)
    (roles permissions : List String) (kind : String) (ttl : Int) :
    (tm.issue lib jti userID email roles permissions kind ttl).Uses allowed := by
  unfold issue
  split
  · exact Program.uses_pure _
  · exact Program.uses_bind Program.uses_readClock fun _ => Program.uses_pure _

section Run

variable {St : Type} (serve : Nat → (op : Op) → St → op.Resp × St) (now : Nat) (store : St)

theorem run_issue (jti id : Uuid) (email : String) (roles permissions : List String)
    (kind : String) (ttl : Int) :
    (tm.issue lib jti (lib.uuidString id) email roles permissions kind ttl).run serve now store =
      (.ok (tm.signed lib now jti (lib.uuidString id) email roles permissions kind ttl), store) := by
  have hsubject := lib.uuidString_ne_empty id
  simp only [issue, if_neg hsubject, Program.run_bind, Program.run_readClock, Program.run_pure]

theorem run_verify (token : lib.Token) :
    (tm.verify lib token).run serve now store =
      ((match lib.jwtParse tm.secret token with
        | none => .error .invalidToken
        | some claims => if claims.ValidAt now then .ok claims else .error .invalidToken),
        store) := by
  simp only [verify, Program.run_bind, Program.run_readClock]
  cases lib.jwtParse tm.secret token with
  | none => rfl
  | some claims =>
      by_cases hvalid : claims.ValidAt now
      · simp only [hvalid, if_true, Program.run_pure]
      · simp only [hvalid, if_false, Program.run_pure]

end Run

/-- The token is an access token that names this user. -/
def AccessTokenFor (u : Uuid) (token : lib.Token) : Prop :=
  ∃ claims, lib.jwtParse tm.secret token = some claims ∧ claims.kind = tokenKindAccess ∧
    lib.uuidParse claims.subject = some u

/-- A freshly issued token is an access token for the user it was issued to, if it
is one at all. -/
theorem accessTokenFor_issued {now : Nat} {jti id u : Uuid} {email kind : String}
    {roles permissions : List String} {ttl : Int} :
    tm.AccessTokenFor lib u
        (tm.signed lib now jti (lib.uuidString id) email roles permissions kind ttl) ↔
      kind = tokenKindAccess ∧ id = u := by
  unfold AccessTokenFor
  rw [parse_signed]
  constructor
  · rintro ⟨claims, hclaims, hkind, hsubject⟩
    obtain rfl := Option.some.inj hclaims
    rw [claimsAt, claimsBy, lib.uuidParse_uuidString] at hsubject
    exact ⟨hkind, Option.some.inj hsubject⟩
  · rintro ⟨rfl, rfl⟩
    exact ⟨_, rfl, rfl, lib.uuidParse_uuidString id⟩

end TokenManager

/-! ## Passwords -/

def maxPasswordBytes : Nat := 72

def hashPassword (lib : External) (salt : Nat) (password : Bytes) : Except Err Text :=
  if password = [] then .error .passwordEmpty
  else if maxPasswordBytes < password.length then .error .passwordTooLong
  else
    match lib.bcryptGenerate salt password with
    | none => .error .bcrypt
    | some hash => .ok hash

def verifyPassword (lib : External) (hash : Text) (password : Bytes) : Bool :=
  lib.bcryptCompare hash password

/-- The hash of a password is one that `bcrypt` has generated. -/
theorem generate_of_hashPassword {lib : External} {salt : Nat} {password : Bytes} {hash : Text}
    (hhash : hashPassword lib salt password = .ok hash) :
    lib.bcryptGenerate salt password = some hash := by
  unfold hashPassword at hhash
  split_ifs at hhash
  cases hgenerate : lib.bcryptGenerate salt password with
  | none =>
      rw [hgenerate] at hhash
      cases hhash
  | some generated =>
      rw [hgenerate] at hhash
      exact congrArg some (Except.ok.inj hhash)

/-- With an ideal `bcrypt`, the passwords that can be hashed are those of 1 to 72
bytes. -/
theorem hashPassword_isOk {lib : External} (hbcrypt : lib.IdealBcrypt) (salt : Nat)
    (password : Bytes) :
    (∃ hash, hashPassword lib salt password = .ok hash) ↔
      1 ≤ password.length ∧ password.length ≤ maxPasswordBytes := by
  have hgenerate : (lib.bcryptGenerate salt password).isSome ↔
      password.length ≤ maxPasswordBytes := hbcrypt.generate_isSome salt password
  have hlength := List.length_pos_iff (l := password)
  unfold hashPassword
  by_cases hempty : password = []
  · simp [hempty]
  · have hpositive := hlength.mpr hempty
    rw [if_neg hempty]
    by_cases hlong : maxPasswordBytes < password.length
    · simp only [if_pos hlong, reduceCtorEq, exists_false, false_iff]
      omega
    · rw [if_neg hlong]
      obtain ⟨hash, hhash⟩ := Option.isSome_iff_exists.mp (hgenerate.mpr (Nat.le_of_not_lt hlong))
      simp only [hhash, Except.ok.injEq, exists_eq', true_iff]
      omega

end Skolva.Auth
