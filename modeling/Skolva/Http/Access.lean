import Skolva.Auth.AccessTokens
import Skolva.Http.Server

/-! # Who gets past the middleware

The actor of a request is what an earlier reply has put into a token. The middleware asks no
table, so what counts is what the tables said when the token was signed.
-/

namespace Skolva.Http

open Effect
open Auth (Actor Claims tokenKindAccess newVerifier)
open Api (Db)

namespace Server

variable (s : Server)

/-- The entry has handed out these claims of an access token to the user. -/
def GrantsTo (u : Uuid) (claims : Claims) (mint : s.Entry) : Prop :=
  s.credentials.issues mint.reply claims ∧
    ∃ jti email, claims = s.service.accessClaims mint.instant mint.before.auth jti u email

/-- The bearer token of the request has these claims, and they are valid. -/
def Bears (now : Nat) (request : Request) (claims : Claims) : Prop :=
  ∃ text ∈ request.bearer,
    s.service.lib.jwtParse s.service.tm.secret (s.readToken text) = some claims ∧
      claims.kind = tokenKindAccess ∧ claims.ValidAt now

variable {s}

theorem Bears.presents {now : Nat} {request : Request} {claims : Claims}
    (hbears : s.Bears now request claims) : s.credentials.presents request claims := by
  obtain ⟨text, htext, hparse, -⟩ := hbears
  refine ⟨s.readToken text, List.mem_append_left _ ?_, hparse⟩
  rw [htext]
  exact List.mem_singleton_self _

/-! ## The middleware -/

section Middleware

variable {now : Nat} {db : Db} {request : Request}

/-- The actor that stands for claims. -/
def actorOf (claims : Claims) : Actor where
  userID := claims.subject
  email := claims.email
  roles := claims.roles
  permissions := claims.permissions

theorem hasPermission_actorOf {claims : Claims} {permission : String} :
    (actorOf claims).hasPermission permission = true ↔ claims.Permit permission := by
  unfold Actor.hasPermission Actor.hasRole Claims.Permit
  rw [Bool.or_eq_true, decide_eq_true_iff, decide_eq_true_iff]
  rfl

theorem Bears.unique {claims other : Claims} (hbears : s.Bears now request claims)
    (hother : s.Bears now request other) : other = claims := by
  obtain ⟨text, htext, hparse, -⟩ := hbears
  obtain ⟨text', htext', hparse', -⟩ := hother
  obtain rfl : text = text' := Option.some.inj (htext.symm.trans htext')
  exact Option.some.inj (hparse'.symm.trans hparse)

variable (s now db request) in
theorem run_verify (text : String) : s.verify now db text =
    match s.service.lib.jwtParse s.service.tm.secret (s.readToken text) with
    | none => .error .invalidToken
    | some claims =>
        if claims.ValidAt now then
          if claims.kind = tokenKindAccess then .ok (actorOf claims) else .error .notAccessToken
        else .error .invalidToken := by
  unfold verify newVerifier
  rw [Program.run_bind, Auth.TokenManager.run_verify]
  cases s.service.lib.jwtParse s.service.tm.secret (s.readToken text) with
  | none => rfl
  | some claims =>
      by_cases hvalid : claims.ValidAt now
      · by_cases hkind : claims.kind = tokenKindAccess
        · simp [hvalid, hkind, actorOf]
        · simp [hvalid, hkind]
      · simp [hvalid]

theorem authenticate_of_bears {claims : Claims} (hbears : s.Bears now request claims) :
    s.authenticate now request db = .ok (some (actorOf claims)) := by
  obtain ⟨text, htext, hparse, hkind, hvalid⟩ := hbears
  unfold authenticate
  rw [htext]
  dsimp only
  rw [run_verify, hparse]
  simp only [if_pos hvalid, if_pos hkind]

theorem authenticate_of_not_bears (hnone : ¬∃ claims, s.Bears now request claims) :
    s.authenticate now request db = .ok none ∨
      ∃ refusal, s.authenticate now request db = .error refusal := by
  unfold authenticate
  cases hbearer : request.bearer with
  | none => exact .inl rfl
  | some text =>
      have hrefused : ∃ err, s.verify now db text = .error err := by
        rw [run_verify]
        cases hparse : s.service.lib.jwtParse s.service.tm.secret (s.readToken text) with
        | none => exact ⟨_, rfl⟩
        | some claims =>
            dsimp only
            split_ifs with hvalid hkind
            · exact absurd ⟨claims, text, hbearer, hparse, hkind, hvalid⟩ hnone
            · exact ⟨_, rfl⟩
            · exact ⟨_, rfl⟩
      obtain ⟨err, herr⟩ := hrefused
      dsimp only
      rw [herr]
      dsimp only
      split
      · exact .inl rfl
      · exact .inr ⟨_, rfl⟩

/-- A guard that asks for a permission lets the bearers of it pass. -/
theorem pass_permission_iff {permission : String} {passed : Option Actor}
    (hguard : request.endpoint.guard = .requirePermission permission) :
    s.pass now request db = .ok passed ↔
      ∃ claims, s.Bears now request claims ∧ claims.Permit permission ∧
        passed = some (actorOf claims) := by
  unfold pass
  rw [hguard]
  by_cases hsome : ∃ claims, s.Bears now request claims
  · obtain ⟨claims, hbears⟩ := hsome
    rw [authenticate_of_bears hbears]
    dsimp only [Guard.check]
    split_ifs with hpermit
    · simp only [Except.ok.injEq]
      constructor
      · rintro rfl
        exact ⟨claims, hbears, hasPermission_actorOf.mp hpermit, rfl⟩
      · rintro ⟨other, hother, -, rfl⟩
        rw [hbears.unique hother]
    · simp only [false_iff]
      rintro ⟨other, hother, hother', -⟩
      rw [← hasPermission_actorOf, hbears.unique hother] at hother'
      exact hpermit hother'
  · have hrefused : ¬∃ claims, s.Bears now request claims ∧ claims.Permit permission ∧
        passed = some (actorOf claims) := fun ⟨claims, hbears, _⟩ => hsome ⟨claims, hbears⟩
    rcases @authenticate_of_not_bears s now db request hsome with hnone | ⟨refusal, herr⟩
    · rw [hnone]
      exact iff_of_false nofun hrefused
    · rw [herr]
      exact iff_of_false nofun hrefused

/-- A guard that asks for an actor lets those pass who have one. -/
theorem pass_requireAuth_iff {passed : Option Actor}
    (hguard : request.endpoint.guard = .requireAuth) :
    s.pass now request db = .ok passed ↔
      ∃ claims, s.Bears now request claims ∧ passed = some (actorOf claims) := by
  unfold pass
  rw [hguard]
  by_cases hsome : ∃ claims, s.Bears now request claims
  · obtain ⟨claims, hbears⟩ := hsome
    rw [authenticate_of_bears hbears]
    dsimp only [Guard.check]
    simp only [Except.ok.injEq]
    constructor
    · rintro rfl
      exact ⟨claims, hbears, rfl⟩
    · rintro ⟨other, hother, rfl⟩
      rw [hbears.unique hother]
  · have hrefused : ¬∃ claims, s.Bears now request claims ∧ passed = some (actorOf claims) :=
      fun ⟨claims, hbears, _⟩ => hsome ⟨claims, hbears⟩
    rcases @authenticate_of_not_bears s now db request hsome with hnone | ⟨refusal, herr⟩
    · rw [hnone]
      exact iff_of_false nofun hrefused
    · rw [herr]
      exact iff_of_false nofun hrefused

theorem bears_of_pass {actor : Actor} (hpass : s.pass now request db = .ok (some actor)) :
    ∃ claims, s.Bears now request claims ∧ actor = actorOf claims := by
  have hauthenticated : s.authenticate now request db = .ok (some actor) := by
    unfold pass at hpass
    cases hauthenticate : s.authenticate now request db with
    | error refusal =>
        rw [hauthenticate] at hpass
        cases hpass
    | ok found =>
        rw [hauthenticate] at hpass
        dsimp only at hpass
        split at hpass
        · cases hpass
        · exact hpass
  by_cases hsome : ∃ claims, s.Bears now request claims
  · obtain ⟨claims, hbears⟩ := hsome
    rw [authenticate_of_bears hbears] at hauthenticated
    exact ⟨claims, hbears, (Option.some.inj (Except.ok.inj hauthenticated)).symm⟩
  · rcases @authenticate_of_not_bears s now db request hsome with hnone | ⟨refusal, herr⟩
    · rw [hnone] at hauthenticated
      cases hauthenticated
    · rw [herr] at hauthenticated
      cases hauthenticated

end Middleware

/-! ## Where claims come from -/

section Mint

variable {now : Nat} {request : Request} {db : Db}

/-- Claims are issued by the auth handlers. -/
theorem auth_of_issued {claims : Claims}
    (hissued : s.credentials.issues (s.process now request db).1 claims) :
    ∃ actor call, s.action actor request db = .auth call ∧
      ∃ token ∈ (Auth.Handler.process s.service now call db.auth).1.tokens,
        s.service.lib.jwtParse s.service.tm.secret token = some claims := by
  obtain ⟨token, htoken, hparse⟩ := hissued
  unfold process at htoken
  cases hpass : s.pass now request db with
  | error refusal =>
      rw [hpass] at htoken
      exact nomatch htoken
  | ok passed =>
      rw [hpass] at htoken
      dsimp only at htoken
      cases haction : s.action (s.actorID passed) request db with
      | auth call =>
          rw [haction] at htoken
          exact ⟨_, call, haction, token, htoken, hparse⟩
      | call call =>
          rw [haction] at htoken
          exact nomatch htoken
      | reject err =>
          rw [haction] at htoken
          exact nomatch htoken
      | page =>
          rw [haction] at htoken
          exact nomatch htoken

/-- The claims of an access token are those of its user in the state before the reply. -/
theorem accessClaims_of_issued {claims : Claims}
    (hissued : s.credentials.issues (s.process now request db).1 claims)
    (hkind : claims.kind = tokenKindAccess) :
    ∃ jti u email, claims = s.service.accessClaims now db.auth jti u email := by
  obtain ⟨_, call, -, token, htoken, hparse⟩ := auth_of_issued hissued
  exact Auth.Handler.access_minted htoken hparse hkind

variable {start last : Db} {history : List s.Entry}

theorem issues_of_minted {earlier : List s.Entry} {mint : s.Entry} {claims : Claims}
    (hminted : s.credentials.Minted s.process start earlier mint claims) :
    s.credentials.issues (s.process mint.instant mint.request mint.before).1 claims := by
  rw [hminted.processed]
  exact hminted.issued

/-- A bearer token was handed out to its user by an earlier reply. -/
theorem Run.granted (hrun : s.Run start history last)
    (hhandedOut : s.credentials.HandedOut history request) {claims : Claims}
    (hbears : s.Bears now request claims) :
    ∃ later mint earlier u, history = later ++ mint :: earlier ∧
      s.credentials.Minted s.process start earlier mint claims ∧ s.GrantsTo u claims mint := by
  obtain ⟨later, mint, earlier, hsplit, hminted⟩ :=
    Credentials.Run.minted hrun hhandedOut hbears.presents
  obtain ⟨text, -, -, hkind, -⟩ := hbears
  obtain ⟨jti, u, email, hclaims⟩ := accessClaims_of_issued (issues_of_minted hminted) hkind
  exact ⟨later, mint, earlier, u, hsplit, hminted, hminted.issued, jti, email, hclaims⟩

end Mint

section Granted

variable {u : Uuid} {claims : Claims} {mint : s.Entry}

theorem GrantsTo.permit_iff (hgrants : s.GrantsTo u claims mint) {permission : String} :
    claims.Permit permission ↔ mint.before.auth.Permits u permission := by
  obtain ⟨-, jti, email, rfl⟩ := hgrants
  exact Auth.permit_accessClaims

theorem GrantsTo.subject (hgrants : s.GrantsTo u claims mint) :
    s.service.lib.uuidParse claims.subject = some u := by
  obtain ⟨-, jti, email, rfl⟩ := hgrants
  exact Auth.subject_accessClaims

theorem GrantsTo.validAt_iff (hgrants : s.GrantsTo u claims mint) {now : Nat}
    (hminted : mint.instant ≤ now) : claims.ValidAt now ↔
      (now : Int) < (mint.instant + s.service.tm.accessTTL) / Time.second * Time.second := by
  obtain ⟨-, jti, email, rfl⟩ := hgrants
  exact Auth.validAt_accessClaims hminted

theorem GrantsTo.kind (hgrants : s.GrantsTo u claims mint) : claims.kind = tokenKindAccess := by
  obtain ⟨-, jti, email, rfl⟩ := hgrants
  rfl

/-- The actor of a request is the user its token was handed out to. -/
theorem GrantsTo.actorID (hgrants : s.GrantsTo u claims mint) :
    s.actorID (some (actorOf claims)) = u := by
  simp only [Server.actorID, actorOf, hgrants.subject, Option.getD_some]

end Granted

/-! ## Who gets past a permission -/

/-- A request gets past the check of a permission exactly if its token was handed out
earlier in the run, less than its lifetime ago, to a user who was permitted at that moment. -/
theorem admitted_iff {start last : Db} {history : List s.Entry}
    (hrun : s.Run start history last) {now : Nat} {request : Request}
    (hclock : ClockForward history now) (hhandedOut : s.credentials.HandedOut history request)
    {permission : String} (hguard : request.endpoint.guard = .requirePermission permission) :
    (∃ actor, s.pass now request last = .ok actor) ↔
      ∃ mint ∈ history, ∃ u text claims, request.bearer = some text ∧
        s.service.lib.jwtParse s.service.tm.secret (s.readToken text) = some claims ∧
        s.GrantsTo u claims mint ∧ mint.before.auth.Permits u permission ∧
        (now : Int) < (mint.instant + s.service.tm.accessTTL) / Time.second * Time.second := by
  constructor
  · rintro ⟨actor, hpass⟩
    obtain ⟨claims, hbears, hpermit, -⟩ := (pass_permission_iff hguard).mp hpass
    obtain ⟨later, mint, earlier, u, hsplit, -, hgrants⟩ := hrun.granted hhandedOut hbears
    have hmint : mint ∈ history := hsplit ▸ List.mem_append_right _ List.mem_cons_self
    have hbefore : mint.instant ≤ now := Credentials.Run.instant_le hrun hclock hmint
    obtain ⟨text, htext, hparse, -, hvalid⟩ := hbears
    exact ⟨mint, hmint, u, text, claims, htext, hparse, hgrants, hgrants.permit_iff.mp hpermit,
      (hgrants.validAt_iff hbefore).mp hvalid⟩
  · rintro ⟨mint, hmint, u, text, claims, htext, hparse, hgrants, hpermits, hinTime⟩
    have hbefore : mint.instant ≤ now := Credentials.Run.instant_le hrun hclock hmint
    have hbears : s.Bears now request claims :=
      ⟨text, htext, hparse, hgrants.kind, (hgrants.validAt_iff hbefore).mpr hinTime⟩
    exact ⟨_, (pass_permission_iff hguard).mpr
      ⟨claims, hbears, hgrants.permit_iff.mpr hpermits, rfl⟩⟩

end Server

/-! ## A small server

Alice is an administrator. She signs in and makes Bob one. -/

namespace Sample

open Auth.Sample (service alice)

def bob : Auth.User := { alice with id := 2, email := "bob@example.org", firstName := "Bob" }

def authDb : Auth.Db :=
  { Auth.Sample.dbWithAdmin none with users := [alice, bob] }

def db : Db := { Api.Sample.db with auth := authDb }

def loginAt : Nat := 1000 * Time.second

def appointAt : Nat := 1060 * Time.second

/-- The claims of the token that Alice gets. -/
def aliceClaims : Claims := service.accessClaims loginAt authDb 7 alice.id alice.email

/-- The server. The text of the token is short here. -/
@[reducible] def server : Server where
  service := service
  readToken text := (if text = "eyJ" then service.tm.secret else "", aliceClaims)
  isEmail text := '@' ∈ text.toList
  search := fun _ _ _ => .ok []
  passesUnverified := true

def otpDraw : Auth.OTPDraw := ⟨⟨271828, by decide⟩, 1⟩

def draws : Draws where
  login := ⟨7, otpDraw⟩
  setup := ⟨0, 0, fun _ => ⟨0, 0⟩⟩
  otp := otpDraw
  reset := ⟨7, 0⟩
  id := 9
  salt := 0
  jti := 8

/-- An object with these texts. -/
def object (members : List (String × String)) : Object := fun tag =>
  match members.lookup tag with
  | none => .omitted
  | some text => .value (.string text)

def loginRequest : Request where
  endpoint := .login
  bearer := none
  param := fun _ => ""
  query := fun _ => ""
  body := some (object [("email", alice.email), ("password", "correct horse")])
  draws := draws

/-- `POST /users/:id/roles` for Bob. -/
def appointRequest : Request where
  endpoint := .assignRole
  bearer := some "eyJ"
  param := fun _ => service.lib.uuidString bob.id
  query := fun _ => ""
  body := some (object [("role_slug", "admin")])
  draws := draws

def entryAt (now : Nat) (request : Request) (before : Db) : server.Entry :=
  ⟨before, now, request, (server.process now request before).1,
    (server.process now request before).2⟩

def login : server.Entry := entryAt loginAt loginRequest db

def appointment : server.Entry := entryAt appointAt appointRequest login.after

theorem tokens_login : login.reply.tokens = [server.readToken "eyJ"] := by decide

/-- The token that Alice presents is the one she was given. -/
theorem handedOut_afterLogin {request : Request}
    (hpresented : server.presented request = [server.readToken "eyJ"]) :
    server.credentials.HandedOut [login] request := by
  intro claims hpresents
  obtain ⟨token, htoken, hparse⟩ := hpresents
  obtain rfl : token = server.readToken "eyJ" := List.mem_singleton.mp (hpresented ▸ htoken)
  exact ⟨login, List.mem_singleton_self _, _, tokens_login ▸ List.mem_singleton_self _, hparse⟩

theorem handedOut_appointment : server.credentials.HandedOut [login] appointRequest :=
  handedOut_afterLogin (by decide)

/-- A login presents no token. -/
theorem handedOut_login {history : List server.Entry} :
    server.credentials.HandedOut history loginRequest := by
  intro claims hpresents
  obtain ⟨token, htoken, -⟩ := hpresents
  have hpresented : server.presented loginRequest = [] := by decide
  exact absurd (hpresented ▸ htoken) List.not_mem_nil

theorem run_login : server.Run db [login] login.after :=
  Serial.cons loginAt loginRequest Serial.nil
    ⟨fun _ hentry => absurd hentry (Option.not_mem_none _), handedOut_login⟩

theorem clock_afterLogin : ClockForward [login] appointAt := by
  intro entry hentry
  obtain rfl := Option.some.inj hentry
  decide

theorem run_appointment : server.Run db [appointment, login] appointment.after :=
  Serial.cons appointAt appointRequest run_login ⟨clock_afterLogin, handedOut_appointment⟩

/-- Alice's appointment of Bob is let through, on the strength of her login. -/
theorem admitted_appointment :
    ∃ mint ∈ [login], ∃ u text claims, appointRequest.bearer = some text ∧
      server.service.lib.jwtParse server.service.tm.secret (server.readToken text) =
        some claims ∧
      server.GrantsTo u claims mint ∧ mint.before.auth.Permits u "users.write" ∧
      (appointAt : Int) <
        (mint.instant + server.service.tm.accessTTL) / Time.second * Time.second :=
  (Server.admitted_iff run_login clock_afterLogin handedOut_appointment rfl).mp ⟨_, rfl⟩

end Sample

end Skolva.Http
