import Skolva.Api.WellFormed
import Skolva.Auth.PasswordKeys
import Skolva.Http.Factors
import Skolva.Http.Writes

/-! # What the handlers keep out

The bindings of the requests keep empty texts, addresses of other forms and short passwords out
of the tables, and so nobody ever signs in with a short password.
-/

namespace Skolva.Auth

/-- What `ShouldBindJSON` has checked of the body. -/
def Request.WellFormed {Token : Type} (isEmail : String → Bool) : Request Token → Prop
  | .register _ _ _ body => ∀ req ∈ body, (req.email ≠ "" ∧ isEmail req.email = true) ∧
      LongEnough req.password ∧ req.firstName ≠ "" ∧ req.lastName ≠ ""
  | .updateUser _ _ body => ∀ req ∈ body, req.firstName ≠ "" ∧ req.lastName ≠ ""
  | .resetPassword _ body => ∀ req ∈ body, LongEnough req.password
  | _ => True

theorem wellFormed_callOf {s : Service} {isEmail : String → Bool} {now : Nat}
    {request : Request s.lib.Token} {call : ServiceCall} (hrequest : request.WellFormed isEmail)
    (hcall : s.callOf now request = some call) : call.WellFormed isEmail := by
  cases request with
  | register id salt actor body =>
      obtain ⟨req, hbody, rfl⟩ := Option.map_eq_some_iff.mp hcall
      exact hrequest req hbody
  | updateUser actor id body =>
      obtain ⟨userID, -, hmade⟩ := Option.bind_eq_some_iff.mp hcall
      obtain ⟨req, hbody, rfl⟩ := Option.map_eq_some_iff.mp hmade
      exact hrequest req hbody
  | resetPassword salt body =>
      obtain ⟨req, hbody, hmade⟩ := Option.bind_eq_some_iff.mp hcall
      obtain ⟨userID, -, rfl⟩ := Option.map_eq_some_iff.mp hmade
      exact hrequest req hbody
  | setup2FA | setupEmail2FA | disableEmail2FA =>
      obtain rfl := Option.some.inj hcall
      exact trivial
  | login | getUser | deleteUser | confirm2FA | disable2FA | confirmEmail2FA | forgotPassword =>
      obtain ⟨_, -, rfl⟩ := Option.map_eq_some_iff.mp hcall
      exact trivial
  | verify2FA | recover2FA | verifyEmail2FA | resendEmail2FA =>
      obtain ⟨_, -, hmade⟩ := Option.bind_eq_some_iff.mp hcall
      obtain ⟨_, -, rfl⟩ := Option.map_eq_some_iff.mp hmade
      exact trivial

end Skolva.Auth

namespace Skolva.Http

open Effect
open Auth (LongEnough bcryptKey bytesOf)
open Api (Db)

/-! ## Bindings -/

section Bind

variable {object : Object} {tag text : String}

theorem required_eq_some (hrequired : object.required tag = some text) : text ≠ "" := by
  obtain ⟨-, hne⟩ := Option.filter_eq_some_iff.mp hrequired
  exact of_decide_eq_true hne

theorem bindEmail_eq_some {isEmail : String → Bool} (hbind : bindEmail isEmail object = some text) :
    text ≠ "" ∧ isEmail text = true := by
  obtain ⟨hrequired, hemail⟩ := Option.filter_eq_some_iff.mp hbind
  exact ⟨required_eq_some hrequired, hemail⟩

theorem bindPassword_eq_some {password : Auth.Bytes} (hbind : bindPassword object = some password) :
    LongEnough password := by
  obtain ⟨text, hfiltered, rfl⟩ := Option.map_eq_some_iff.mp hbind
  obtain ⟨-, hlong⟩ := Option.filter_eq_some_iff.mp hfiltered
  exact ⟨text, rfl, of_decide_eq_true hlong⟩

theorem bindRegister_eq_some {isEmail : String → Bool} {req : Auth.RegisterRequest}
    (hbind : bindRegister isEmail object = some req) :
    (req.email ≠ "" ∧ isEmail req.email = true) ∧ LongEnough req.password ∧
      req.firstName ≠ "" ∧ req.lastName ≠ "" := by
  obtain ⟨email, hemail, hbind⟩ := Option.bind_eq_some_iff.mp hbind
  obtain ⟨password, hpassword, hbind⟩ := Option.bind_eq_some_iff.mp hbind
  obtain ⟨firstName, hfirst, hbind⟩ := Option.bind_eq_some_iff.mp hbind
  obtain ⟨lastName, hlast, hbind⟩ := Option.bind_eq_some_iff.mp hbind
  obtain rfl := Option.some.inj hbind
  exact ⟨bindEmail_eq_some hemail, bindPassword_eq_some hpassword, required_eq_some hfirst,
    required_eq_some hlast⟩

theorem bindUpdateUser_eq_some {req : Auth.UpdateUserRequest}
    (hbind : bindUpdateUser object = some req) : req.firstName ≠ "" ∧ req.lastName ≠ "" := by
  obtain ⟨firstName, hfirst, hbind⟩ := Option.bind_eq_some_iff.mp hbind
  obtain ⟨lastName, hlast, hbind⟩ := Option.bind_eq_some_iff.mp hbind
  obtain ⟨isActive, -, hbind⟩ := Option.bind_eq_some_iff.mp hbind
  obtain rfl := Option.some.inj hbind
  exact ⟨required_eq_some hfirst, required_eq_some hlast⟩

theorem bindPasswordReset_eq_some {req : Auth.PasswordResetRequest}
    (hbind : bindPasswordReset object = some req) : LongEnough req.password := by
  obtain ⟨userID, -, hbind⟩ := Option.bind_eq_some_iff.mp hbind
  obtain ⟨token, -, hbind⟩ := Option.bind_eq_some_iff.mp hbind
  obtain ⟨password, hpassword, hbind⟩ := Option.bind_eq_some_iff.mp hbind
  obtain rfl := Option.some.inj hbind
  exact bindPassword_eq_some hpassword

theorem bindCreateGroup_eq_some {req : CreateGroupRequest}
    (hbind : bindCreateGroup object = some req) : req.name ≠ "" := by
  obtain ⟨name, hname, hbind⟩ := Option.bind_eq_some_iff.mp hbind
  obtain ⟨description, -, hbind⟩ := Option.bind_eq_some_iff.mp hbind
  obtain ⟨groupType, -, hbind⟩ := Option.bind_eq_some_iff.mp hbind
  obtain rfl := Option.some.inj hbind
  exact required_eq_some hname

theorem bindAddress_eq_some {req : Crm.AddressRequest} (hbind : bindAddress object = some req) :
    req.street1 ≠ "" ∧ req.postalCode ≠ "" ∧ req.city ≠ "" := by
  obtain ⟨company, -, hbind⟩ := Option.bind_eq_some_iff.mp hbind
  obtain ⟨careOf, -, hbind⟩ := Option.bind_eq_some_iff.mp hbind
  obtain ⟨street1, hstreet, hbind⟩ := Option.bind_eq_some_iff.mp hbind
  obtain ⟨street2, -, hbind⟩ := Option.bind_eq_some_iff.mp hbind
  obtain ⟨postalCode, hpostal, hbind⟩ := Option.bind_eq_some_iff.mp hbind
  obtain ⟨city, hcity, hbind⟩ := Option.bind_eq_some_iff.mp hbind
  obtain ⟨state, -, hbind⟩ := Option.bind_eq_some_iff.mp hbind
  obtain ⟨countryCode, -, hbind⟩ := Option.bind_eq_some_iff.mp hbind
  obtain ⟨note, -, hbind⟩ := Option.bind_eq_some_iff.mp hbind
  obtain rfl := Option.some.inj hbind
  exact ⟨required_eq_some hstreet, required_eq_some hpostal, required_eq_some hcity⟩

theorem bindCreateContact_eq_some {req : Crm.CreateContactRequest}
    (hbind : bindCreateContact object = some req) : req.value ≠ "" := by
  obtain ⟨contactType, -, hbind⟩ := Option.bind_eq_some_iff.mp hbind
  obtain ⟨label, -, hbind⟩ := Option.bind_eq_some_iff.mp hbind
  obtain ⟨value, hvalue, hbind⟩ := Option.bind_eq_some_iff.mp hbind
  obtain ⟨isPrimary, -, hbind⟩ := Option.bind_eq_some_iff.mp hbind
  obtain ⟨isPreferred, -, hbind⟩ := Option.bind_eq_some_iff.mp hbind
  obtain ⟨allowContact, -, hbind⟩ := Option.bind_eq_some_iff.mp hbind
  obtain ⟨preferredTimeWindow, -, hbind⟩ := Option.bind_eq_some_iff.mp hbind
  obtain ⟨note, -, hbind⟩ := Option.bind_eq_some_iff.mp hbind
  obtain rfl := Option.some.inj hbind
  exact required_eq_some hvalue

end Bind

/-! ## Actions -/

def Action.WellFormed {Token : Type} (isEmail : String → Bool) : Action Token → Prop
  | .auth request => request.WellFormed isEmail
  | .call method => method.WellFormed isEmail
  | .reject _ | .page => True

namespace Server

variable {s : Server}

/-- What is bound of a body, if there is one. -/
theorem bound_body {α : Type} {motive : α → Prop} {bind : Object → Option α}
    (hbind : ∀ object value, bind object = some value → motive value) {body : Option Object} :
    ∀ value ∈ body.bind bind, motive value := by
  intro value hvalue
  obtain ⟨object, -, hobject⟩ := Option.bind_eq_some_iff.mp hvalue
  exact hbind object value hobject

theorem wellFormed_action (actor : Uuid) (request : Request) (db : Db) :
    (s.action actor request db).WellFormed s.isEmail := by
  unfold action
  cases request.endpoint with
  | register => exact bound_body fun _ _ => bindRegister_eq_some
  | updateUser => exact bound_body fun _ _ => bindUpdateUser_eq_some
  | resetPassword => exact bound_body fun _ _ => bindPasswordReset_eq_some
  | listUserRoles | removeRole | getGroup | deleteGroup | listMembers | listUserGroups
  | getAddress | getPreferences | listContacts => exact parsed_elim trivial fun _ => trivial
  | createGroup =>
      refine bound_elim trivial fun req hreq => ?_
      exact bound_body (fun _ _ => bindCreateGroup_eq_some) req hreq
  | assignRole | putPreferences =>
      exact parsed_elim trivial fun _ => bound_elim trivial fun _ _ => trivial
  | putAddress =>
      refine parsed_elim trivial fun userID => bound_elim trivial fun req hreq => ?_
      exact bound_body (fun _ _ => bindAddress_eq_some) req hreq
  | createContact =>
      refine parsed_elim trivial fun userID => bound_elim trivial fun req hreq => ?_
      exact bound_body (fun _ _ => bindCreateContact_eq_some) req hreq
  | updateGroup =>
      -- The binding of a patch is followed by the test that its required members are there.
      refine parsed_elim trivial fun id => bound_elim trivial fun req _ => ?_
      rcases @patchedGroup_cases s actor id req with
        ⟨err, hpatched⟩ | ⟨_, _, _, _, hname, hpatched⟩
      · rw [hpatched]
        exact trivial
      · rw [hpatched]
        exact hname
  | updateContact =>
      refine parsed_elim trivial fun userID => parsed_elim trivial fun contactID =>
        bound_elim trivial fun req _ => ?_
      rcases @patchedContact_cases s actor userID contactID req with
        ⟨err, hpatched⟩ | ⟨_, hvalue, hpatched⟩
      · rw [hpatched]
        exact trivial
      · rw [hpatched]
        exact hvalue
  | addMember =>
      exact parsed_elim trivial fun _ => bound_elim trivial fun _ _ =>
        parsed_elim trivial fun _ => trivial
  | removeMember | deleteContact =>
      exact parsed_elim trivial fun _ => parsed_elim trivial fun _ => trivial
  | searchUsers =>
      dsimp only
      split
      · exact trivial
      · exact trivial
  | _ => exact trivial

end Server

/-! ## Calls -/

/-- What the call writes is well formed. -/
def Op.WellFormed (lib : Auth.External) (isEmail : String → Bool) : Op → Prop
  | .auth op => op.WellFormed lib isEmail
  | .directory op => op.WellFormed lib isEmail
  | .profile op => op.WellFormed
  | .contacts op => op.WellFormed
  | .groups op => op.WellFormed
  | .members _ | .search .. => True

section Call

variable {lib : Auth.External} {isEmail : String → Bool}

theorem wellFormed_of_callWrites {call : Api.Call} (hcall : call.WellFormed isEmail) {op : Op}
    (hop : CallWrites lib call op) : op.WellFormed lib isEmail := by
  cases op with
  | auth op =>
      obtain ⟨request, rfl, hputs⟩ := hop
      exact Auth.wellFormed_of_puts hcall hputs
  | directory op =>
      cases op with
      | common op => exact Auth.wellFormed_of_reads hop
      | _ => trivial
  | profile op =>
      cases op with
      | upsertAddress params =>
          obtain ⟨actorID, userID, cc, req, rfl, rfl⟩ := hop
          exact hcall
      | _ => trivial
  | contacts op =>
      cases op with
      | createContact actorID id clearPrimary params =>
          obtain ⟨req, rfl, hvalue, -⟩ := hop
          have hnonempty : params.value ≠ "" := hvalue ▸ hcall
          exact hnonempty
      | updateContact actorID userID contactType clearPrimary params =>
          obtain ⟨req, rfl, hvalue, -⟩ := hop
          have hnonempty : params.value ≠ "" := hvalue ▸ hcall
          exact hnonempty
      | _ => trivial
  | groups op =>
      cases op with
      | create actorID id params =>
          obtain ⟨description, groupType, rfl, -⟩ := hop
          exact hcall
      | update actorID params =>
          obtain ⟨description, groupType, isActive, rfl, -⟩ := hop
          exact hcall
      | _ => trivial
  | members op => trivial
  | search q limit => trivial

theorem wellFormed_of_searches {op : Op} (hop : op.Searches) : op.WellFormed lib isEmail := by
  cases op with
  | directory op =>
      cases op with
      | common op => exact Auth.wellFormed_of_reads hop
      | _ => trivial
  | search => trivial
  | _ => exact hop.elim

end Call

namespace Server

variable {s : Server}

theorem wellFormed_of_requestWrites {readings : Nat → Nat} {request : Request} {op : Op}
    (hop : s.RequestWrites readings request op) : op.WellFormed s.service.lib s.isEmail := by
  rcases hop with hsearches | ⟨actor, db, -, hwrites⟩
  · exact wellFormed_of_searches hsearches
  · have haction := @wellFormed_action s (s.actorID actor) request db
    cases hdone : s.action (s.actorID actor) request db with
    | auth made =>
        rw [hdone] at hwrites haction
        obtain ⟨op, rfl, hreads | ⟨now, -, call, hcall, hputs⟩⟩ := hwrites
        · exact Auth.wellFormed_of_reads hreads
        · exact Auth.wellFormed_of_puts (Auth.wellFormed_callOf haction hcall) hputs
    | call call =>
        rw [hdone] at hwrites haction
        exact wellFormed_of_callWrites haction hwrites
    | reject err =>
        rw [hdone] at hwrites
        exact hwrites.elim
    | page =>
        rw [hdone] at hwrites
        exact hwrites.elim

theorem wellFormed_serve (now : Nat) {op : Op} {db : Db}
    (hop : op.WellFormed s.service.lib s.isEmail) (hdb : db.WellFormed s.service.lib s.isEmail) :
    (s.serve now op db).2.WellFormed s.service.lib s.isEmail := by
  cases op with
  | auth op => exact { hdb with users := Auth.wellFormed_serve now hop hdb.users }
  | directory op => exact { hdb with users := Auth.wellFormed_serveDirectory now hop hdb.users }
  | profile op =>
      obtain ⟨haddresses, hpreferences⟩ := @Crm.wellFormed_serveProfile now op db.profile hop
        ⟨hdb.addresses, hdb.preferences⟩
      exact { hdb with addresses := haddresses, preferences := hpreferences }
  | contacts op =>
      exact { hdb with contacts := Crm.wellFormed_serve (Api.moment now) hop hdb.contacts }
  | groups op =>
      exact { hdb with groups := Groups.wellFormed_serve (Api.moment now) hop hdb.groups }
  | members op => exact { hdb with members := Groups.wellFormed_serveMembers op hdb.members }
  | search q limit => exact hdb

section Concurrent

variable {Thread : Type} [DecidableEq Thread] {request : Thread → Request}
  {readings : Thread → Nat → Nat} {start : Db} {last : s.Requests Thread}

/-- Whatever requests are processed at the same time, and in whatever order their calls reach
the database: if its rows were well formed, they are so in every state. There is no user
without a name or without an address that the validation admits, no hash of a password of fewer
than 8 characters, no contact without a value, no group without a name, no address without its
street, postal code and city, and every CHECK column has a value of its list. -/
theorem rows_wellFormed (hreach : s.Interleaves (s.launch request readings start) last)
    (hstart : start.WellFormed s.service.lib s.isEmail) :
    last.store.WellFormed s.service.lib s.isEmail :=
  hreach.preserved (fun thread => s.uses_request (request thread) (readings thread))
    (fun _ now _ _ hop hdb => wellFormed_serve now (wellFormed_of_requestWrites hop) hdb) hstart

end Concurrent

/-! ## Runs -/

theorem wellFormed_process (now : Nat) (request : Request) {db : Db}
    (hdb : db.WellFormed s.service.lib s.isEmail) :
    (s.process now request db).2.WellFormed s.service.lib s.isEmail := by
  rw [← run_program, ← Program.run_settle]
  refine Program.run_preserves s.serve now (s.uses_request request fun _ => now) ?_ hdb
  exact fun op db hop hdb => wellFormed_serve now (wellFormed_of_requestWrites hop) hdb

theorem wellFormed_run {start last : Db} {history : List s.Entry} (hrun : s.Run start history last)
    (hstart : start.WellFormed s.service.lib s.isEmail) :
    last.WellFormed s.service.lib s.isEmail :=
  Serial.invariant (motive := fun _ db => db.WellFormed s.service.lib s.isEmail) hrun hstart
    fun _ _ now request _ hstate _ => wellFormed_process now request hstate

/-! ## Passwords -/

section Passwords

variable {digest : (salt cost : Nat) → Auth.Bytes → Auth.Text} {start last : Db}
  {history : List s.Entry} {u : Uuid}

/-- A login that compares well has brought the key of a password that is long enough. -/
theorem long_of_checksPassword (hbcrypt : s.service.lib.HashesKey digest) {entry : s.Entry}
    (hbefore : entry.before.WellFormed s.service.lib s.isEmail)
    (hchecks : s.ChecksPassword u entry) :
    entry.request.endpoint = .login ∧
      ∃ req ∈ entry.request.body.bind bindLogin, ∃ password, LongEnough password ∧
        bcryptKey req.password = bcryptKey password := by
  obtain ⟨actor, draw, req, haction, user, huser, -, -, hverify⟩ := hchecks
  have hendpoint : Endpoint.login = entry.request.endpoint := endpoint_of_auth haction
  refine ⟨hendpoint.symm, req, ?_, ?_⟩
  · unfold action at haction
    rw [← hendpoint] at haction
    injection haction with hlogin
    injection hlogin
  · obtain ⟨salt, password, hlong, hhash⟩ :=
      (hbefore.users user (List.mem_of_find?_eq_some huser)).passwordHash
    exact ⟨password, hlong,
      (Auth.verifyPassword_iff_bcryptKey hbcrypt hhash req.password).mp hverify⟩

/-- In every run from a database with well-formed rows, whoever gets past the middleware as an
actor goes back to a login, at most five minutes and the lifetime of a token ago, with the key
of a password of at least 8 characters. -/
theorem long_password_of_pass (hbcrypt : s.service.lib.HashesKey digest)
    (hrun : s.Run start history last) (hstart : start.WellFormed s.service.lib s.isEmail)
    {now : Nat} {request : Request} (hclock : ClockForward history now)
    (hhandedOut : s.credentials.HandedOut history request) {actor : Auth.Actor}
    (hpass : s.pass now request last = .ok (some actor)) :
    ∃ login ∈ history, login.request.endpoint = .login ∧
      (∃ req ∈ login.request.body.bind bindLogin, ∃ password, LongEnough password ∧
        bcryptKey req.password = bcryptKey password) ∧
      login.instant ≤ now ∧
      (now : Int) < login.instant + 5 * Time.minute + s.service.tm.accessTTL := by
  obtain ⟨claims, hbears, -⟩ := bears_of_pass hpass
  obtain ⟨login, hlogin, hchecks, hle, hsoon⟩ :=
    password_of_bearer hrun hclock hhandedOut hbears rfl
  obtain ⟨later, earlier, hsplit⟩ := List.append_of_mem hlogin
  have hbefore := wellFormed_run (Serial.entry hrun hsplit).1 hstart
  obtain ⟨hendpoint, hlong⟩ := long_of_checksPassword hbcrypt hbefore hchecks
  exact ⟨login, hlogin, hendpoint, hlong, hle, hsoon⟩

end Passwords

end Server

/-! ## A database with well-formed rows -/

namespace Sample

open Auth.Sample (alice keyed keyed_hashesKey digest password)

/-- The server, with a `bcrypt` that reads 72 bytes. -/
@[reducible] def keyedServer : Server where
  service := ⟨keyed, server.service.tm⟩
  readToken := server.readToken
  isEmail := server.isEmail
  search := server.search
  passesUnverified := true

def keyedAlice : Auth.User := { alice with passwordHash := digest 0 10 (bcryptKey password) }

def keyedDb : Db := { Api.Sample.db with auth := { authDb with users := [keyedAlice] } }

theorem keyedDb_wellFormed : keyedDb.WellFormed keyedServer.service.lib keyedServer.isEmail where
  users := by
    refine List.forall_mem_singleton.mpr ⟨by decide, ⟨0, password, ?_, ?_⟩, by decide, by decide⟩
    · exact ⟨"correct horse", rfl, by decide⟩
    · decide +kernel
  contacts := fun _ hrow => absurd hrow List.not_mem_nil
  addresses := fun _ hrow => absurd hrow List.not_mem_nil
  preferences := fun _ hrow => absurd hrow List.not_mem_nil
  groups := fun _ hrow => absurd hrow List.not_mem_nil
  members := fun _ hrow => absurd hrow List.not_mem_nil

def keyedEntry (now : Nat) (request : Request) (before : Db) : keyedServer.Entry :=
  ⟨before, now, request, (keyedServer.process now request before).1,
    (keyedServer.process now request before).2⟩

def keyedLogin : keyedServer.Entry := keyedEntry loginAt loginRequest keyedDb

theorem tokens_keyedLogin : keyedLogin.reply.tokens = [server.readToken "eyJ"] := by
  decide +kernel

theorem run_keyedLogin : keyedServer.Run keyedDb [keyedLogin] keyedLogin.after := by
  refine Serial.cons loginAt loginRequest Serial.nil
    ⟨fun _ hentry => absurd hentry (Option.not_mem_none _), ?_⟩
  intro claims hpresents
  obtain ⟨token, htoken, -⟩ := hpresents
  have hpresented : keyedServer.presented loginRequest = [] := by decide
  exact absurd (hpresented ▸ htoken) List.not_mem_nil

/-- `POST /auth/register` for Carol, by two requests. -/
def registerRequest (second : Bool) : Request where
  endpoint := .register
  bearer := some "eyJ"
  param := fun _ => ""
  query := fun _ => ""
  body := some (object [("email", "carol@example.org"), ("password", "battery staple"),
    ("first_name", "Carol"), ("last_name", "Cramer")])
  draws := { draws with id := if second then 10 else 9 }

def registerLaunched : keyedServer.Requests Bool :=
  keyedServer.launch registerRequest (fun _ _ => appointAt) keyedDb

/-- The first request finds the address free, and the second one takes it. -/
def registerDone : keyedServer.Requests Bool :=
  registerLaunched.schedule keyedServer.serve
    [(false, appointAt), (true, appointAt), (true, appointAt), (false, appointAt)]

theorem interleaves_registerDone : keyedServer.Interleaves registerLaunched registerDone :=
  Pool.Reaches.schedule .refl (fun _ _ _ => trivial) _

theorem rows_wellFormed_register :
    registerDone.store.auth.users.map Auth.User.id = [alice.id, 10] ∧
      registerDone.store.WellFormed keyedServer.service.lib keyedServer.isEmail :=
  ⟨by decide +kernel, Server.rows_wellFormed interleaves_registerDone keyedDb_wellFormed⟩

theorem handedOut_keyedSetup : keyedServer.credentials.HandedOut [keyedLogin] setupRequest := by
  intro claims hpresents
  obtain ⟨token, htoken, hparse⟩ := hpresents
  have hpresented : keyedServer.presented setupRequest = [server.readToken "eyJ"] := by decide
  obtain rfl : token = server.readToken "eyJ" := List.mem_singleton.mp (hpresented ▸ htoken)
  exact ⟨keyedLogin, List.mem_singleton_self _, _,
    tokens_keyedLogin ▸ List.mem_singleton_self _, hparse⟩

theorem clock_keyedSetup : ClockForward [keyedLogin] appointAt := by
  intro entry hentry
  obtain rfl := Option.some.inj hentry
  decide

theorem pass_keyedSetup : keyedServer.pass appointAt setupRequest keyedLogin.after =
    .ok (some (Server.actorOf aliceClaims)) := by
  refine (Server.pass_requireAuth_iff rfl).mpr ⟨aliceClaims, ⟨"eyJ", rfl, rfl, rfl, ?_⟩, rfl⟩
  decide

/-- Alice, who has signed in with "correct horse". -/
theorem long_password_alice :
    ∃ entry ∈ [keyedLogin], entry.request.endpoint = .login ∧
      (∃ req ∈ entry.request.body.bind bindLogin, ∃ long, LongEnough long ∧
        bcryptKey req.password = bcryptKey long) ∧
      entry.instant ≤ appointAt ∧
      (appointAt : Int) < entry.instant + 5 * Time.minute + keyedServer.service.tm.accessTTL :=
  Server.long_password_of_pass (s := keyedServer) keyed_hashesKey run_keyedLogin keyedDb_wellFormed
    clock_keyedSetup handedOut_keyedSetup pass_keyedSetup

end Sample

end Skolva.Http
