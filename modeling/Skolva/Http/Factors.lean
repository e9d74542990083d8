import Skolva.Auth.EmailLockout
import Skolva.Auth.TwoStepLogin
import Skolva.Http.Authorization

/-! # Who changes second factors

The endpoints of the second factors are open to every signed-in user, or take a pending token.
Behind each change of a factor there is a password of its owner.
-/

namespace Skolva.Auth

open Effect

/-- The TOTP row of the user or a key of his email codes differs. -/
def Db.FactorDiffers (before after : Db) (u : Uuid) : Prop :=
  after.totp u ≠ before.totp u ∨
    ∃ key : MetaKey, key.IsEmail2FA ∧ after.usersMeta u key ≠ before.usersMeta u key

/-- The user whose factors a call is about. A login looks up its user. -/
def ServiceCall.factorUser : ServiceCall → Option Uuid
  | .setup2FA _ userID | .confirm2FA userID _ | .verify2FA userID _
  | .consumeRecoveryCode userID _ | .disable2FA userID _ => some userID
  | .setupEmail2FA _ userID | .confirmEmail2FA userID _ | .sendEmail2FALoginOTP _ userID
  | .verifyEmail2FALogin userID _ | .disableEmail2FA userID => some userID
  | _ => none

/-- The user whose factors a signed-in user changes by the request, who is himself. -/
def Request.ownFactor {Token : Type} : Request Token → Option Uuid
  | .setup2FA _ actor | .confirm2FA actor _ | .disable2FA actor _ => some actor
  | .setupEmail2FA _ actor | .confirmEmail2FA actor _ | .disableEmail2FA actor => some actor
  | _ => none

section Frame

variable {s : Service} {now : Nat} {db : Db} {u : Uuid}

theorem not_isReset_of_isEmail2FA {key : MetaKey} (hemail : key.IsEmail2FA) : ¬key.IsReset := by
  cases key <;> first | exact hemail.elim | exact not_false

/-- A call changes the factors of its user, and a login those of the user whose password it
has checked. -/
theorem touches_of_factorDiffers {call : ServiceCall}
    (hdiffers : db.FactorDiffers (s.processCall now call db).2 u) :
    (∃ draw email password, call = .login draw email password ∧
      s.PasswordChecked db email password u) ∨ call.factorUser = some u := by
  cases call with
  | login draw email password =>
      refine .inl ⟨draw, email, password, rfl, ?_⟩
      by_contra hunchecked
      rcases hdiffers with htotp | ⟨key, -, hkey⟩
      · refine htotp (Service.processCall_totp ?_ now db)
        exact not_false
      · refine hkey ?_
        rw [Service.processCall, Service.call, Service.run_answering]
        exact run_login_key_of_quiet now db fun hissues => hunchecked hissues.1
  | _ =>
      refine .inr ?_
      by_contra hother
      rcases hdiffers with htotp | ⟨key, hemail, hkey⟩
      · refine htotp (Service.processCall_totp (fun htouch => hother ?_) now db)
        simp_all [ServiceCall.TouchesTotp, ServiceCall.factorUser]
      · refine hkey (Service.processCall_meta (fun htouch => absurd ?_ hother) ?_ now db)
        · simp_all [ServiceCall.TouchesEmail2FA, ServiceCall.factorUser]
        · exact fun _ => not_isReset_of_isEmail2FA hemail

/-- The call for the user of a pending token. -/
theorem pendingTokenFor_of_call {α : Type} {body : Option α} {tempToken : α → s.lib.Token}
    {make : α → Uuid → ServiceCall} {call : ServiceCall}
    (hcall : (body.bind fun req => (s.pendingUser now (tempToken req)).map (make req)) = some call) :
    ∃ req v, body = some req ∧ s.PendingTokenFor now v (tempToken req) ∧ call = make req v := by
  obtain ⟨req, hbody, hmade⟩ := Option.bind_eq_some_iff.mp hcall
  obtain ⟨v, hpending, rfl⟩ := Option.map_eq_some_iff.mp hmade
  exact ⟨req, v, hbody, pendingUser_eq_some.mp hpending, rfl⟩

/-- The user of a call is the actor of the request, or its pending token names him. -/
theorem source_of_factorUser {request : Request s.lib.Token} {call : ServiceCall}
    (hcall : s.callOf now request = some call) (huser : call.factorUser = some u) :
    request.ownFactor = some u ∨ ∃ token ∈ request.presented, s.PendingTokenFor now u token := by
  cases request with
  | setup2FA draw actor | setupEmail2FA draw actor | disableEmail2FA actor =>
      obtain rfl := Option.some.inj hcall
      exact .inl huser
  | confirm2FA actor body | disable2FA actor body | confirmEmail2FA actor body =>
      obtain ⟨code, -, rfl⟩ := Option.map_eq_some_iff.mp hcall
      exact .inl huser
  | verify2FA jti body | recover2FA jti body | verifyEmail2FA jti body =>
      obtain ⟨req, v, rfl, hpending, rfl⟩ := pendingTokenFor_of_call hcall
      obtain rfl := Option.some.inj huser
      exact .inr ⟨req.tempToken, List.mem_singleton_self _, hpending⟩
  | resendEmail2FA draw body =>
      obtain ⟨tempToken, v, rfl, hpending, rfl⟩ := @pendingTokenFor_of_call _ _ _ _ id _ _ hcall
      obtain rfl := Option.some.inj huser
      exact .inr ⟨tempToken, List.mem_singleton_self _, hpending⟩
  | getUser | deleteUser | login | register | forgotPassword =>
      obtain ⟨_, -, rfl⟩ := Option.map_eq_some_iff.mp hcall
      cases huser
  | updateUser | resetPassword =>
      obtain ⟨_, -, hmade⟩ := Option.bind_eq_some_iff.mp hcall
      obtain ⟨_, -, rfl⟩ := Option.map_eq_some_iff.mp hmade
      cases huser

theorem login_of_callOf {request : Request s.lib.Token} {draw : LoginDraw} {email : String}
    {password : Bytes} (hcall : s.callOf now request = some (.login draw email password)) :
    ∃ req, request = .login draw (some req) ∧ req.email = email ∧ req.password = password := by
  cases request with
  | login drawn body =>
      obtain ⟨req, rfl, hmade⟩ := Option.map_eq_some_iff.mp hcall
      cases hmade
      exact ⟨req, rfl, rfl, rfl⟩
  | _ => simp [Service.callOf, Option.bind_eq_some_iff] at hcall

/-- A request changes the factors of its actor, of the user of its pending token, or of the
user whose password it brings. -/
theorem source_of_factorDiffers {request : Request s.lib.Token}
    (hdiffers : db.FactorDiffers (Handler.process s now request db).2 u) :
    (∃ draw req, request = .login draw (some req) ∧
      s.PasswordChecked db req.email req.password u) ∨
    request.ownFactor = some u ∨
    ∃ token ∈ request.presented, s.PendingTokenFor now u token := by
  rw [state_process] at hdiffers
  cases hcall : s.callOf now request with
  | none =>
      rw [hcall] at hdiffers
      rcases hdiffers with htotp | ⟨key, -, hkey⟩
      · exact absurd rfl htotp
      · exact absurd rfl hkey
  | some call =>
      rw [hcall] at hdiffers
      rcases touches_of_factorDiffers hdiffers with ⟨draw, email, password, rfl, hchecked⟩ | huser
      · obtain ⟨req, rfl, rfl, rfl⟩ := login_of_callOf hcall
        exact .inl ⟨draw, req, rfl, hchecked⟩
      · exact .inr (source_of_factorUser hcall huser)

end Frame

end Skolva.Auth

namespace Skolva.Http

open Effect
open Auth (Claims)
open Auth.Sample (alice)
open Api (Db)

namespace Server

variable {s : Server}

/-! ## One request -/

section Request

variable {actor : Uuid} {request : Request} {db : Db} {now : Nat} {u : Uuid}
  {call : Auth.Request s.Token}

/-- A request that changes factors is one to the auth handlers. -/
theorem auth_of_factorDiffers
    (hdiffers : db.auth.FactorDiffers (s.perform now db (s.action actor request db)).2.auth u) :
    ∃ call, s.action actor request db = .auth call ∧
      db.auth.FactorDiffers (Auth.Handler.process s.service now call db.auth).2 u := by
  have hsame : ∀ {after : Auth.Db}, after.totp = db.auth.totp →
      after.usersMeta = db.auth.usersMeta → ¬db.auth.FactorDiffers after u := by
    rintro after htotp hmeta (hrow | ⟨key, -, hkey⟩)
    · exact hrow (congrFun htotp u)
    · exact hkey (congrFun (congrFun hmeta u) key)
  cases haction : s.action actor request db with
  | auth call =>
      rw [haction] at hdiffers
      exact ⟨call, rfl, hdiffers⟩
  | call method =>
      rw [haction] at hdiffers
      have hmodule : ¬method.IsAuth := by
        intro hauth
        cases method with
        | auth call => exact nomatch endpoint_of_call haction
        | _ => exact hauth.elim
      obtain ⟨userRoles, hafter⟩ := Api.auth_process s.service now db hmodule
      change db.auth.FactorDiffers (Api.process s.service now method db).2.auth u at hdiffers
      rw [hafter] at hdiffers
      exact absurd hdiffers (hsame rfl rfl)
  | reject err =>
      rw [haction] at hdiffers
      exact absurd hdiffers (hsame rfl rfl)
  | page =>
      rw [haction] at hdiffers
      exact absurd hdiffers (hsame rfl rfl)

/-- The endpoints for the factors of the actor ask for one. -/
theorem ownFactor_of_action (haction : s.action actor request db = .auth call)
    (hown : call.ownFactor = some u) : u = actor ∧ request.endpoint.guard = .requireAuth := by
  have hendpoint := endpoint_of_auth haction
  rw [← hendpoint]
  unfold action at haction
  rw [← hendpoint] at haction
  cases call with
  | setup2FA | confirm2FA | disable2FA | setupEmail2FA | confirmEmail2FA | disableEmail2FA =>
      cases haction
      exact ⟨(Option.some.inj hown).symm, rfl⟩
  | _ => cases hown

theorem tempToken_of_bindVerify2FA {object : Object} {req : Auth.Verify2FARequest s.Token}
    (hbind : bindVerify2FA s.readToken object = some req) :
    bindTempToken s.readToken object = some req.tempToken := by
  unfold bindVerify2FA at hbind
  obtain ⟨tempToken, htoken, hrest⟩ := Option.bind_eq_some_iff.mp hbind
  obtain ⟨code, -, hreq⟩ := Option.bind_eq_some_iff.mp hrest
  rw [← Option.some.inj hreq]
  exact htoken

/-- The pending token of a request is in its body. -/
theorem tempToken_of_action (haction : s.action actor request db = .auth call) {token : s.Token}
    (htoken : token ∈ call.presented) :
    request.body.bind (bindTempToken s.readToken) = some token := by
  have hendpoint := endpoint_of_auth haction
  unfold action at haction
  rw [← hendpoint] at haction
  cases call with
  | verify2FA jti body | recover2FA jti body | verifyEmail2FA jti body =>
      cases body with
      | none => exact nomatch htoken
      | some req =>
          obtain ⟨object, hobject, hbind⟩ :=
            Option.bind_eq_some_iff.mp (by injection haction with h; injection h)
          rw [hobject, List.mem_singleton.mp htoken]
          exact tempToken_of_bindVerify2FA hbind
  | resendEmail2FA draw body =>
      cases body with
      | none => exact nomatch htoken
      | some tempToken =>
          rw [List.mem_singleton.mp htoken]
          injection haction with h
          injection h
  | _ => exact nomatch htoken

theorem presented_of_action (haction : s.action actor request db = .auth call)
    {token : s.Token} (htoken : token ∈ call.presented) : token ∈ s.presented request := by
  have hbody := tempToken_of_action haction htoken
  refine List.mem_append_right _ ?_
  rw [hbody]
  exact List.mem_singleton_self _

end Request

/-! ## Runs -/

/-- The entry is a login that has checked the password of the user. -/
def ChecksPassword (s : Server) (u : Uuid) (entry : s.Entry) : Prop :=
  ∃ actor draw req, s.action actor entry.request entry.before = .auth (.login draw (some req)) ∧
    s.service.PasswordChecked entry.before.auth req.email req.password u

section Run

variable {start last : Db} {history : List s.Entry} {now : Nat} {request : Request} {u : Uuid}

/-- Behind a pending token there is a password, given less than five minutes ago. -/
theorem password_of_pending (hrun : s.Run start history last) (hclock : ClockForward history now)
    (hhandedOut : s.credentials.HandedOut history request) {token : s.Token}
    (htoken : token ∈ s.presented request) (hpending : s.service.PendingTokenFor now u token) :
    ∃ login ∈ history, s.ChecksPassword u login ∧ login.instant ≤ now ∧
      now < login.instant + 5 * Time.minute := by
  obtain ⟨claims, hparse, ⟨⟨expiresAt, hexpires, hbefore⟩, -⟩, hkind, hsubject⟩ := hpending
  obtain ⟨later, mint, earlier, hsplit, hminted⟩ :=
    Credentials.Run.minted hrun hhandedOut ⟨token, htoken, hparse⟩
  have hmint : mint ∈ history := hsplit ▸ List.mem_append_right _ List.mem_cons_self
  obtain ⟨actor, call, haction, issued, hissued, hsame⟩ := auth_of_issued (issues_of_minted hminted)
  obtain ⟨draw, req, owner, rfl, hchecked, rfl⟩ :=
    Auth.Handler.pending_minted s.service mint.instant mint.before.auth hissued hsame hkind
  have howner : owner = u := by
    rw [Auth.TokenManager.claimsAt, Auth.TokenManager.claimsBy,
      s.service.lib.uuidParse_uuidString] at hsubject
    exact Option.some.inj hsubject
  refine ⟨mint, hmint, ⟨actor, draw, req, haction, howner ▸ hchecked⟩,
    Credentials.Run.instant_le hrun hclock hmint, ?_⟩
  -- The expiry is rounded down to whole seconds.
  rw [Auth.TokenManager.claimsAt, Auth.TokenManager.claimsBy, Option.mem_some_iff] at hexpires
  have hround : expiresAt * Time.second ≤ mint.instant + 5 * Time.minute :=
    hexpires ▸ Int.ediv_mul_le _ (by decide)
  exact_mod_cast Int.lt_of_lt_of_le hbefore hround

/-- Behind a bearer token there is a password, given less than five minutes before the
token. -/
theorem password_of_bearer (hrun : s.Run start history last) (hclock : ClockForward history now)
    (hhandedOut : s.credentials.HandedOut history request) {claims : Claims}
    (hbears : s.Bears now request claims) (hsubject : s.actorID (some (actorOf claims)) = u) :
    ∃ login ∈ history, s.ChecksPassword u login ∧ login.instant ≤ now ∧
      (now : Int) < login.instant + 5 * Time.minute + s.service.tm.accessTTL := by
  obtain ⟨later, mint, earlier, owner, hsplit, hminted, hgrants⟩ := hrun.granted hhandedOut hbears
  obtain rfl : owner = u := hgrants.actorID.symm.trans hsubject
  have hmint : mint ∈ history := hsplit ▸ List.mem_append_right _ List.mem_cons_self
  have hbefore : mint.instant ≤ now := Credentials.Run.instant_le hrun hclock hmint
  have hinTime : (now : Int) < mint.instant + s.service.tm.accessTTL := by
    obtain ⟨text, -, -, -, hvalid⟩ := hbears
    have hround : ((mint.instant : Int) + s.service.tm.accessTTL) / Time.second * Time.second ≤
        mint.instant + s.service.tm.accessTTL := Int.ediv_mul_le _ (by decide)
    exact Int.lt_of_lt_of_le ((hgrants.validAt_iff hbefore).mp hvalid) hround
  obtain ⟨actor, call, haction, hsigned⟩ := hgrants.signsIn hminted.processed
  rcases hsigned with hpassword | ⟨hpassed, -⟩
  · -- The password alone was enough.
    refine ⟨mint, hmint, ?_, hbefore, by omega⟩
    cases call with
    | login draw body =>
        cases body with
        | none => exact hpassword.elim
        | some req => exact ⟨actor, draw, req, haction, hpassword.1⟩
    | _ => exact hpassword.elim
  · obtain ⟨token, htoken, hpending⟩ := Auth.presented_of_secondFactorPassed hpassed
    obtain ⟨hearlier, ⟨hclock', hhandedOut'⟩, -⟩ := Serial.entry hrun hsplit
    obtain ⟨login, hlogin, hchecks, hle, hsoon⟩ :=
      password_of_pending hearlier hclock' hhandedOut' (presented_of_action haction htoken) hpending
    refine ⟨login, ?_, hchecks, by omega, by omega⟩
    exact hsplit ▸ List.mem_append_right _ (List.mem_cons_of_mem _ hlogin)

/-- In every run, the second factors of a user are changed only on the strength of the user's
own password: by a login that checks it, or after such a login, with a token that goes back
to it and has not run out. No administrator can do it. -/
theorem factors_need_password (hrun : s.Run start history last) {later earlier : List s.Entry}
    {entry : s.Entry} (hsplit : history = later ++ entry :: earlier)
    (hdiffers : entry.before.auth.FactorDiffers entry.after.auth u) :
    ∃ login ∈ entry :: earlier, s.ChecksPassword u login ∧ login.instant ≤ entry.instant ∧
      (entry.instant : Int) < login.instant + 5 * Time.minute + max 0 s.service.tm.accessTTL := by
  obtain ⟨hearlier, ⟨hclock, hhandedOut⟩, hprocess⟩ := Serial.entry hrun hsplit
  have hafter : entry.after = (s.process entry.instant entry.request entry.before).2 := by
    rw [hprocess]
  rw [hafter] at hdiffers
  unfold process at hdiffers
  cases hpass : s.pass entry.instant entry.request entry.before with
  | error refusal =>
      rw [hpass] at hdiffers
      rcases hdiffers with htotp | ⟨key, -, hkey⟩
      · exact absurd rfl htotp
      · exact absurd rfl hkey
  | ok passed =>
      rw [hpass] at hdiffers
      obtain ⟨call, haction, hcall⟩ := auth_of_factorDiffers hdiffers
      have hminute : 0 < 5 * Time.minute := by decide
      rcases Auth.source_of_factorDiffers hcall with ⟨draw, req, rfl, hchecked⟩ | hown |
        ⟨token, htoken, hpending⟩
      · exact ⟨entry, List.mem_cons_self, ⟨_, draw, req, haction, hchecked⟩, Nat.le_refl _,
          by omega⟩
      · obtain ⟨hactor, hguard⟩ := ownFactor_of_action haction hown
        obtain ⟨claims, hbears, rfl⟩ := (pass_requireAuth_iff hguard).mp hpass
        obtain ⟨login, hlogin, hchecks, hle, hsoon⟩ :=
          password_of_bearer hearlier hclock hhandedOut hbears hactor.symm
        exact ⟨login, List.mem_cons_of_mem _ hlogin, hchecks, hle, by omega⟩
      · obtain ⟨login, hlogin, hchecks, hle, hsoon⟩ :=
          password_of_pending hearlier hclock hhandedOut (presented_of_action haction htoken) hpending
        exact ⟨login, List.mem_cons_of_mem _ hlogin, hchecks, hle, by omega⟩

end Run

end Server

namespace Sample

/-- `POST /auth/2fa/setup`. -/
def setupRequest : Request where
  endpoint := .setup2FA
  bearer := some "eyJ"
  param := fun _ => ""
  query := fun _ => ""
  body := none
  draws := draws

def setup : server.Entry := entryAt appointAt setupRequest login.after

theorem run_setup : server.Run db [setup, login] setup.after :=
  Serial.cons appointAt setupRequest run_login
    ⟨clock_afterLogin, handedOut_afterLogin (by decide)⟩

/-- Alice starts the set-up of TOTP. -/
theorem password_behind_setup :
    ∃ entry ∈ [setup, login], server.ChecksPassword alice.id entry ∧
      entry.instant ≤ setup.instant ∧
      (setup.instant : Int) < entry.instant + 5 * Time.minute +
        max 0 server.service.tm.accessTTL :=
  Server.factors_need_password run_setup (List.nil_append _).symm (.inl (by decide))

end Sample

end Skolva.Http
