import Skolva.Auth.Handler
import Skolva.Auth.Permissions

/-! # Tokens from issue to check

A token carries whole seconds, and the clocks of the managers are finer. What a manager
accepts is stated for a clock with any number of ticks in a second, and what the
service does with a token for the clock of the service.
-/

namespace Skolva.Auth

open Effect Time

/-! ## Issue and check -/

/-- The start of the second an instant lies in, by a clock with so many ticks in it. -/
def wholeSecond (ticks : Nat) (instant : Int) : Int := instant / ticks * ticks

namespace TokenManager

variable (lib : External) (tm : TokenManager) (ticks : Nat)

/-- `issue` at the instant that `m.now` returns. -/
def issueBy (now : Int) (jti : Uuid) (userID email : String) (roles permissions : List String)
    (kind : String) (ttl : Int) : Except Err lib.Token :=
  if userID = "" then .error .emptySubject
  else .ok (lib.jwtSign tm.secret
    (claimsBy lib ticks now jti userID email roles permissions kind ttl))

def issueAccessBy (now : Int) (jti : Uuid) (userID email : String)
    (roles permissions : List String) : Except Err lib.Token :=
  tm.issueBy lib ticks now jti userID email roles permissions tokenKindAccess tm.accessTTL

def issuePending2FABy (now : Int) (jti : Uuid) (userID : String) (ttl : Int) :
    Except Err lib.Token :=
  tm.issueBy lib ticks now jti userID "" [] [] tokenKindPending2FA ttl

/-- `Verify` at the instant that `m.now` returns. -/
def verifyBy (now : Int) (token : lib.Token) : Except Err Claims :=
  match lib.jwtParse tm.secret token with
  | none => .error .invalidToken
  | some claims => if claims.ValidBy ticks now then .ok claims else .error .invalidToken

/-- What the managers of this secret and of others make of a token that was issued for so
long. -/
structure RoundTrip (token : lib.Token) (issued ttl : Int) (subject email : String)
    (roles permissions : List String) (kind : String) : Prop where
  accepted : ∀ (checker : TokenManager) (checked : Int), checker.secret = tm.secret →
    ((∃ claims, checker.verifyBy lib ticks checked token = .ok claims) ↔
      wholeSecond ticks issued ≤ checked ∧ checked < wholeSecond ticks (issued + ttl))
  returned : ∀ (checker : TokenManager) (checked : Int) (claims : Claims),
    checker.verifyBy lib ticks checked token = .ok claims →
      claims.subject = subject ∧ claims.email = email ∧ claims.roles = roles ∧
        claims.permissions = permissions ∧ claims.kind = kind
  refused : ∀ (checker : TokenManager) (checked : Int), checker.secret ≠ tm.secret →
    checker.verifyBy lib ticks checked token = .error .invalidToken

variable {lib tm ticks}

theorem verifyBy_eq_ok_iff {now : Int} {token : lib.Token} {claims : Claims} :
    tm.verifyBy lib ticks now token = .ok claims ↔
      lib.jwtParse tm.secret token = some claims ∧ claims.ValidBy ticks now := by
  unfold verifyBy
  cases lib.jwtParse tm.secret token with
  | none => simp
  | some parsed =>
      by_cases hvalid : parsed.ValidBy ticks now
      · simp only [if_pos hvalid, Except.ok.injEq, Option.some.injEq]
        exact ⟨fun heq => ⟨heq, heq ▸ hvalid⟩, And.left⟩
      · simp only [if_neg hvalid, reduceCtorEq, Option.some.injEq, false_iff]
        rintro ⟨rfl, hparsed⟩
        exact hvalid hparsed

/-- The instants at which the claims of an issue are valid. -/
theorem validBy_claimsBy {issued ttl checked : Int} {jti : Uuid} {subject email kind : String}
    {roles permissions : List String} :
    (claimsBy lib ticks issued jti subject email roles permissions kind ttl).ValidBy ticks checked ↔
      wholeSecond ticks issued ≤ checked ∧ checked < wholeSecond ticks (issued + ttl) := by
  unfold Claims.ValidBy claimsBy numericDate wholeSecond
  simp only [Option.mem_some_iff, exists_eq_left', forall_eq', and_true]
  exact and_comm

theorem roundTrip_issueBy (hhmac : lib.IdealHMAC) {issued ttl : Int} {jti : Uuid}
    {subject email kind : String} {roles permissions : List String} (hsubject : subject ≠ "") :
    ∃ token, tm.issueBy lib ticks issued jti subject email roles permissions kind ttl = .ok token ∧
      tm.RoundTrip lib ticks token issued ttl subject email roles permissions kind := by
  have hparse := lib.jwtParse_jwtSign tm.secret
    (claimsBy lib ticks issued jti subject email roles permissions kind ttl)
  refine ⟨_, if_neg hsubject, ?_, ?_, ?_⟩
  · intro checker checked hsecret
    simp only [verifyBy_eq_ok_iff, hsecret, hparse, Option.some.injEq]
    rw [exists_eq_left']
    exact validBy_claimsBy
  · intro checker checked claims hverify
    have hchecked := (verifyBy_eq_ok_iff.mp hverify).1
    have hsecret : checker.secret = tm.secret := hhmac.secret_unique hchecked hparse
    rw [hsecret, hparse] at hchecked
    obtain rfl := Option.some.inj hchecked
    exact ⟨rfl, rfl, rfl, rfl, rfl⟩
  · intro checker checked hsecret
    unfold verifyBy
    cases hchecked : lib.jwtParse checker.secret _ with
    | none => rfl
    | some claims =>
        exact absurd (hhmac.secret_unique hchecked hparse) hsecret

/-! ## The clock of the service -/

section Run

variable (lib tm) {St : Type} (serve : Nat → (op : Op) → St → op.Resp × St) (now : Nat) (store : St)

theorem run_issue_by (jti : Uuid) (userID email : String) (roles permissions : List String)
    (kind : String) (ttl : Int) :
    (tm.issue lib jti userID email roles permissions kind ttl).run serve now store =
      (tm.issueBy lib second now jti userID email roles permissions kind ttl, store) := by
  unfold issue issueBy
  split
  · rfl
  · rfl

theorem run_verify_by (token : lib.Token) :
    (tm.verify lib token).run serve now store = (tm.verifyBy lib second now token, store) :=
  tm.run_verify lib serve now store token

end Run

end TokenManager

/-! ## The kinds of tokens -/

namespace Handler

variable (s : Service)

/-- What an endpoint of the second step does once it knows the user. -/
def secondStep (jti userID : Uuid) (code : Bytes) (check : Uuid → Bytes → Prog (Except Err Unit)) :
    Prog (Reply s.lib.Token) := do
  match ← check userID code with
  | .error err => return .error err
  | .ok _ =>
      match ← s.issueAccessForUser jti userID with
      | .error err => return .error err
      | .ok token => return .login { token := some token }

/-- The token is verified as a pending one, and its subject is this user. -/
def PendingUser (now : Nat) (token : s.lib.Token) (u : Uuid) : Prop :=
  ∃ claims, s.tm.verifyBy s.lib second now token = .ok claims ∧
    claims.kind = tokenKindPending2FA ∧ s.lib.uuidParse claims.subject = some u

/-- The endpoint goes on to the second step exactly with a pending token of a user. -/
def Proceeds
    (endpoint : Uuid → Option (Verify2FARequest s.lib.Token) → Prog (Reply s.lib.Token))
    (check : Uuid → Bytes → Prog (Except Err Unit)) : Prop :=
  ∀ (now : Nat) (db : Db) (jti : Uuid) (req : Verify2FARequest s.lib.Token),
    (∀ u, PendingUser s now req.tempToken u →
      (endpoint jti (some req)).run (serve s.lib) now db =
        (secondStep s jti u req.code check).run (serve s.lib) now db) ∧
    ((∀ u, ¬PendingUser s now req.tempToken u) → ∃ message,
      (endpoint jti (some req)).run (serve s.lib) now db = (.error (.unauthorized message), db))

end Handler

/-- Who takes a token of which kind. -/
structure Service.SeparatesKinds (s : Service) : Prop where
  issue : ∀ (now : Nat) (db : Db) (jti : Uuid) (userID email : String)
    (roles permissions : List String) (kind : String) (ttl : Int),
    (s.tm.issue s.lib jti userID email roles permissions kind ttl).run (serve s.lib) now db =
      (s.tm.issueBy s.lib second now jti userID email roles permissions kind ttl, db)
  issueAccess : ∀ (now : Nat) (db : Db) (jti : Uuid) (userID email : String)
    (roles permissions : List String),
    (s.tm.issueAccess s.lib jti userID email roles permissions).run (serve s.lib) now db =
      (s.tm.issueAccessBy s.lib second now jti userID email roles permissions, db)
  issuePending2FA : ∀ (now : Nat) (db : Db) (jti : Uuid) (userID : String) (ttl : Int),
    (s.tm.issuePending2FA s.lib jti userID ttl).run (serve s.lib) now db =
      (s.tm.issuePending2FABy s.lib second now jti userID ttl, db)
  verify : ∀ (now : Nat) (db : Db) (token : s.lib.Token),
    (s.tm.verify s.lib token).run (serve s.lib) now db =
      (s.tm.verifyBy s.lib second now token, db)
  actor : ∀ (now : Nat) (db : Db) (token : s.lib.Token) (actor : Actor),
    (newVerifier s.lib s.tm token).run (serve s.lib) now db = (.ok actor, db) ↔
      ∃ claims, s.tm.verifyBy s.lib second now token = .ok claims ∧
        claims.kind = tokenKindAccess ∧
        actor = ⟨claims.subject, claims.email, claims.roles, claims.permissions⟩
  pending : ∀ (now : Nat) (db : Db) (token : s.lib.Token) (u : Uuid),
    (Handler.pending2FAUser s token).run (serve s.lib) now db = (.ok u, db) ↔
      Handler.PendingUser s now token u
  verify2FA : Handler.Proceeds s (Handler.verify2FA s) s.verify2FA
  recover2FA : Handler.Proceeds s (Handler.recover2FA s) s.consumeRecoveryCode
  exclusive : ∀ (now now' : Nat) (db db' : Db) (token : s.lib.Token) (actor : Actor) (u : Uuid),
    ¬((newVerifier s.lib s.tm token).run (serve s.lib) now db = (.ok actor, db) ∧
      (Handler.pending2FAUser s token).run (serve s.lib) now' db' = (.ok u, db'))

section Kinds

variable (s : Service) (now : Nat) (db : Db)

theorem run_newVerifier_by (token : s.lib.Token) :
    (newVerifier s.lib s.tm token).run (serve s.lib) now db =
      ((s.tm.verifyBy s.lib second now token).bind fun claims =>
        if claims.kind = tokenKindAccess then
          .ok ⟨claims.subject, claims.email, claims.roles, claims.permissions⟩
        else .error .notAccessToken, db) := by
  rw [newVerifier, Program.run_bind, TokenManager.run_verify_by]
  cases s.tm.verifyBy s.lib second now token with
  | error err => rfl
  | ok claims =>
      by_cases hkind : claims.kind = tokenKindAccess
      · simp only [if_pos hkind, Program.run_pure, Except.bind]
      · simp only [if_neg hkind, Program.run_pure, Except.bind]

theorem run_newVerifier_ok_iff (token : s.lib.Token) (actor : Actor) :
    (newVerifier s.lib s.tm token).run (serve s.lib) now db = (.ok actor, db) ↔
      ∃ claims, s.tm.verifyBy s.lib second now token = .ok claims ∧
        claims.kind = tokenKindAccess ∧
        actor = ⟨claims.subject, claims.email, claims.roles, claims.permissions⟩ := by
  rw [run_newVerifier_by]
  cases s.tm.verifyBy s.lib second now token with
  | error err => simp [Except.bind]
  | ok claims =>
      by_cases hkind : claims.kind = tokenKindAccess
      · simp [Except.bind, hkind, eq_comm]
      · simp [Except.bind, hkind]

/-- The check of a pending token reports a user, or it refuses the token. -/
theorem run_pending2FAUser_cases (token : s.lib.Token) :
    (∃ u, Handler.PendingUser s now token u ∧
      (Handler.pending2FAUser s token).run (serve s.lib) now db = (.ok u, db)) ∨
    (∀ u, ¬Handler.PendingUser s now token u) ∧ ∃ message,
      (Handler.pending2FAUser s token).run (serve s.lib) now db =
        (.error (.unauthorized message), db) := by
  unfold Handler.pending2FAUser Handler.PendingUser
  rw [Program.run_bind, TokenManager.run_verify_by]
  cases s.tm.verifyBy s.lib second now token with
  | error err => exact .inr ⟨by simp, _, rfl⟩
  | ok claims =>
      by_cases hkind : claims.kind = tokenKindPending2FA
      · dsimp only
        rw [if_pos hkind]
        cases hsubject : s.lib.uuidParse claims.subject with
        | none => exact .inr ⟨by simp [hsubject], _, rfl⟩
        | some u => exact .inl ⟨u, ⟨claims, rfl, hkind, hsubject⟩, rfl⟩
      · dsimp only
        rw [if_neg hkind]
        exact .inr ⟨by simp [hkind], _, rfl⟩

theorem run_pending2FAUser_ok_iff (token : s.lib.Token) (u : Uuid) :
    (Handler.pending2FAUser s token).run (serve s.lib) now db = (.ok u, db) ↔
      Handler.PendingUser s now token u := by
  rcases run_pending2FAUser_cases s now db token with ⟨v, hpending, hrun⟩ |
    ⟨hnobody, message, hrun⟩
  · rw [hrun]
    constructor
    · intro hsame
      obtain rfl := Except.ok.inj (congrArg Prod.fst hsame)
      exact hpending
    · rintro ⟨claims, hverify, -, hsubject⟩
      obtain ⟨claims', hverify', -, hsubject'⟩ := hpending
      obtain rfl := Except.ok.inj (hverify.symm.trans hverify')
      obtain rfl := Option.some.inj (hsubject.symm.trans hsubject')
      rfl
  · rw [hrun]
    exact iff_of_false nofun (hnobody u)

theorem proceeds_withSecondFactor (check : Uuid → Bytes → Prog (Except Err Unit)) :
    Handler.Proceeds s (fun jti body => Handler.withSecondFactor s jti body check) check := by
  intro now db jti req
  constructor
  · intro u hpending
    change (Handler.pending2FAUser s req.tempToken >>= _).run (serve s.lib) now db = _
    rw [Program.run_bind, (run_pending2FAUser_ok_iff s now db req.tempToken u).mpr hpending]
    rfl
  · intro hnobody
    rcases run_pending2FAUser_cases s now db req.tempToken with ⟨u, hpending, -⟩ |
      ⟨-, message, hrun⟩
    · exact absurd hpending (hnobody u)
    · refine ⟨message, ?_⟩
      change (Handler.pending2FAUser s req.tempToken >>= _).run (serve s.lib) now db = _
      rw [Program.run_bind, hrun]
      rfl

/-- No token leads to an actor and names a pending user, not even at different times. -/
theorem not_actor_and_pending (now' : Nat) (db' : Db) (token : s.lib.Token) (actor : Actor)
    (u : Uuid) :
    ¬((newVerifier s.lib s.tm token).run (serve s.lib) now db = (.ok actor, db) ∧
      (Handler.pending2FAUser s token).run (serve s.lib) now' db' = (.ok u, db')) := by
  rw [run_newVerifier_ok_iff, run_pending2FAUser_ok_iff]
  rintro ⟨⟨claims, hverify, haccess, -⟩, claims', hverify', hpending, -⟩
  have hparse := (TokenManager.verifyBy_eq_ok_iff.mp hverify).1
  obtain rfl := Option.some.inj
    (hparse.symm.trans (TokenManager.verifyBy_eq_ok_iff.mp hverify').1)
  exact absurd (haccess.symm.trans hpending) (by decide)

end Kinds

theorem separatesKinds (s : Service) : s.SeparatesKinds where
  issue now db := s.tm.run_issue_by s.lib (serve s.lib) now db
  issueAccess now db jti userID email roles permissions :=
    s.tm.run_issue_by s.lib (serve s.lib) now db jti userID email roles permissions tokenKindAccess
      s.tm.accessTTL
  issuePending2FA now db jti userID ttl :=
    s.tm.run_issue_by s.lib (serve s.lib) now db jti userID "" [] [] tokenKindPending2FA ttl
  verify now db := s.tm.run_verify_by s.lib (serve s.lib) now db
  actor := run_newVerifier_ok_iff s
  pending := run_pending2FAUser_ok_iff s
  verify2FA := proceeds_withSecondFactor s s.verify2FA
  recover2FA := proceeds_withSecondFactor s s.consumeRecoveryCode
  exclusive := fun now now' db db' token => not_actor_and_pending s now db now' db' token

/-- Access tokens and pending tokens are accepted with what they were issued for, in the
seconds of their life and under their secret only, and each kind has its own use. -/
theorem token_roundTrip {s : Service} {secret : String} {accessTTL : Int}
    (hmanager : newTokenManager secret accessTTL = .ok s.tm) (hhmac : s.lib.IdealHMAC)
    {subject : String} (hsubject : subject ≠ "") (ticks : Nat) (issued ttl : Int) (jti : Uuid)
    (email : String) (roles permissions : List String) :
    (∃ token,
      s.tm.issueAccessBy s.lib ticks issued jti subject email roles permissions = .ok token ∧
        s.tm.RoundTrip s.lib ticks token issued accessTTL subject email roles permissions
          tokenKindAccess) ∧
    (∃ token, s.tm.issuePending2FABy s.lib ticks issued jti subject ttl = .ok token ∧
      s.tm.RoundTrip s.lib ticks token issued ttl subject "" [] [] tokenKindPending2FA) ∧
    s.SeparatesKinds := by
  have httl : s.tm.accessTTL = accessTTL := by
    unfold newTokenManager at hmanager
    split at hmanager
    · cases hmanager
    · exact (congrArg TokenManager.accessTTL (Except.ok.inj hmanager)).symm
  refine ⟨?_, TokenManager.roundTrip_issueBy hhmac hsubject, separatesKinds s⟩
  rw [← httl]
  exact TokenManager.roundTrip_issueBy hhmac hsubject

namespace Sample

/-- A pending token of one second, issued in the middle of the first second, is accepted
from the start of that second to its end, by a clock that counts nanoseconds. -/
theorem pendingToken_roundTrip :
    ∃ token,
      service.tm.issuePending2FABy service.lib 1000000000 1500000000 7 "user-2" 1000000000 =
        .ok token ∧
      (∃ claims, service.tm.verifyBy service.lib 1000000000 1000000000 token = .ok claims) ∧
      ¬∃ claims, service.tm.verifyBy service.lib 1000000000 2000000000 token = .ok claims := by
  obtain ⟨-, ⟨token, hissue, htrip⟩, -⟩ :=
    @token_roundTrip service "secret" (15 * minute) (if_neg (by decide))
      Reference.external_idealHMAC "user-2" (by decide) 1000000000 1500000000 1000000000 7 "" [] []
  refine ⟨token, hissue, (htrip.accepted service.tm _ rfl).mpr (by decide), ?_⟩
  exact mt (htrip.accepted service.tm _ rfl).mp (by decide)

end Sample

end Skolva.Auth
