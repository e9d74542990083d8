import Skolva.Api.Statements
import Skolva.Auth.HandlerCalls
import Skolva.Effect.Concurrency
import Skolva.Http.Access

/-! # Requests as programs

What the server does with a request, call by call: each repository answers on its own tables, and
between two calls other requests can have made theirs.
-/

namespace Skolva.Http

open Dbexec Effect
open Auth (Actor newVerifier)
open Api (Db)

/-! ## Parts of the database -/

def authPart : Part Db Auth.Db where
  get := Db.auth
  put db after := { db with auth := after }
  put_get _ := rfl
  put_put _ _ _ := rfl

def profilePart : Part Db Crm.ProfileDb where
  get := Db.profile
  put db after := { db with addresses := after.addresses, preferences := after.preferences }
  put_get _ := rfl
  put_put _ _ _ := rfl

def contactsPart : Part Db Crm.Db where
  get := Db.crm
  put db after := { db with contacts := after.contacts }
  put_get _ := rfl
  put_put _ _ _ := rfl

def groupsPart : Part Db Groups.Db where
  get := Db.groupsDb
  put db after := { db with groups := after.groups }
  put_get _ := rfl
  put_put _ _ _ := rfl

def membersPart : Part Db Groups.MembersDb where
  get := Db.membersDb
  put db after := { db with members := after.members }
  put_get _ := rfl
  put_put _ _ _ := rfl

/-! ## Calls -/

/-- A call of one of the repositories, or of the searcher. -/
inductive Op where
  | auth (op : Auth.Op)
  | directory (op : Auth.DirectoryOp)
  | profile (op : Crm.ProfileOp)
  | contacts (op : Crm.Op)
  | groups (op : Groups.Op)
  | members (op : Groups.MembersOp)
  | search (q : String) (limit : Int)

abbrev Op.Resp : Op → Type
  | .auth op => op.Resp
  | .directory op => op.Resp
  | .profile op => op.Resp
  | .contacts op => op.Resp
  | .groups op => op.Resp
  | .members op => op.Resp
  | .search .. => Except Auth.CallError (List Uuid)

abbrev Prog := Program Nat Op Op.Resp

section Lift

variable {α : Type}

def onAuth : Auth.Prog α → Prog α := Program.lift id .auth fun _ resp => resp

def onDirectory : Auth.DirectoryProg α → Prog α := Program.lift id .directory fun _ resp => resp

def onProfile : Crm.ProfileProg α → Prog α := Program.lift id .profile fun _ resp => resp

def onContacts : Crm.Prog α → Prog α := Program.lift Api.moment .contacts fun _ resp => resp

def onGroups : Groups.Prog α → Prog α := Program.lift Api.moment .groups fun _ resp => resp

def onMembers : Groups.MembersProg α → Prog α := Program.lift id .members fun _ resp => resp

end Lift

/-! ## Methods -/

/-- The result of a method of one module as a reply. -/
def replying {α ε Token : Type} (err : ε → Api.Err) (answer : α → Api.Answer Token)
    (method : Prog (Except ε α)) : Prog (Api.Reply Token) :=
  Api.reply err answer <$> method

/-- The method of a call. -/
def method (s : Auth.Service) : Api.Call → Prog (Api.Reply s.lib.Token)
  | .auth call => replying .auth .auth (onAuth (s.call call))
  | .listUsers limit offset =>
      replying .auth .users (onDirectory (Auth.Directory.listUsers limit offset))
  | .searchUsers hits => replying .auth .users (onDirectory (Auth.Directory.searchUsers hits))
  | .listUserRoles userID =>
      replying .auth .roles (onDirectory (Auth.Directory.listUserRoles userID))
  | .assignRole actorID userID roleSlug =>
      replying .auth .roles (onDirectory (Auth.Directory.assignRole actorID userID roleSlug))
  | .removeRole userID roleSlug =>
      replying .auth (fun _ => .done) (onDirectory (Auth.Directory.removeRole userID roleSlug))
  | .getAddress userID => replying .crm .address (onProfile (Crm.Service.getAddress userID))
  | .upsertAddress actorID userID req =>
      replying .crm .address (onProfile (Crm.Service.upsertAddress actorID userID req))
  | .getPreferences userID =>
      replying .crm .preferences (onProfile (Crm.Service.getPreferences userID))
  | .upsertPreferences actorID userID req =>
      replying .crm .preferences (onProfile (Crm.Service.upsertPreferences actorID userID req))
  | .listContacts userID => replying .crm .contacts (onProfile (Crm.Service.listContacts userID))
  | .createContact id actorID userID req =>
      replying .crm .contact (onContacts (Crm.Service.createContact id actorID userID req))
  | .updateContact actorID userID contactID req =>
      replying .crm .contact (onContacts (Crm.Service.updateContact actorID userID contactID req))
  | .deleteContact actorID userID contactID =>
      replying .crm (fun _ => .done)
        (onContacts (Crm.Service.deleteContact actorID userID contactID))
  | .createGroup id actorID name description groupType =>
      replying .groups .group
        (onGroups (Groups.Service.create id actorID name description groupType))
  | .getGroup id => replying .groups .group (onGroups (Groups.Service.get id))
  | .listGroups groupType limit offset =>
      replying .groups .groups (onMembers (Groups.Service.list groupType limit offset))
  | .updateGroup actorID id name description groupType isActive =>
      replying .groups .group
        (onGroups (Groups.Service.update actorID id name description groupType isActive))
  | .deleteGroup actorID id =>
      replying .groups (fun _ => .done) (onGroups (Groups.Service.delete actorID id))
  | .addMember actorID groupID userID roleInGroup =>
      replying .groups .members
        (onMembers (Groups.Service.addMember actorID groupID userID roleInGroup))
  | .listMembers groupID => replying .groups .members (onMembers (Groups.Service.listMembers groupID))
  | .removeMember groupID userID =>
      replying .groups (fun _ => .done) (onMembers (Groups.Service.removeMember groupID userID))
  | .listUserGroups userID =>
      replying .groups .userGroups (onMembers (Groups.Service.listUserGroups userID))

/-- A database without a row. -/
def emptyDb : Db where
  auth :=
    { users := []
      totp := fun _ => none
      usersMeta := fun _ _ => none
      roles := []
      userRoles := []
      permissions := []
      rolePermissions := []
      mails := [] }
  contacts := []
  addresses := []
  preferences := []
  groups := []
  members := []

namespace Server

variable (s : Server)

/-- The repositories and the searcher, on one database. -/
def serve (now : Nat) : (op : Op) → Db → op.Resp × Db
  | .auth op => authPart.serveWhole (Auth.serve s.service.lib) now op
  | .directory op => authPart.serveWhole (Auth.serveDirectory s.service.lib) now op
  | .profile op => profilePart.serveWhole Crm.serveProfile now op
  | .contacts op => contactsPart.serveWhole Crm.serve (Api.moment now) op
  | .groups op => groupsPart.serveWhole Groups.serve (Api.moment now) op
  | .members op => membersPart.serveWhole Groups.serveMembers now op
  | .search q limit => fun db => (s.search db q limit, db)

/-! ## Requests -/

section Request

variable (request : Request)

/-- `Authenticate`. -/
def authenticating : Prog (Except Refusal (Option Actor)) :=
  match request.bearer with
  | none => return .ok none
  | some text => do
      match ← onAuth (newVerifier s.service.lib s.service.tm (s.readToken text)) with
      | .ok actor => return .ok (some actor)
      | .error _ => return if s.passesUnverified then .ok none else .error .unauthorized

/-- The handlers of the three modules. Only one of them asks before it calls the service. -/
def acting (actor : Uuid) : Prog (Action s.Token) :=
  match request.endpoint with
  | .searchUsers => do
      match ← Program.perform (Op.search (request.query "q") (pagination request).1) with
      | .error cause => return .reject (.auth (.call cause))
      | .ok hits => return .call (.searchUsers hits)
  | _ => return s.action actor request emptyDb

def performing : Action s.Token → Prog (Response s.Token)
  | .auth request => Response.auth <$> onAuth (Auth.Handler.handle s.service request)
  | .call call => Response.api <$> method s.service call
  | .reject err => return .api (.error err)
  | .page => return .page

/-- What the server does with a request. -/
def program : Prog (Response s.Token) := do
  match ← s.authenticating request with
  | .error refusal => return .refused refusal
  | .ok actor =>
      match request.endpoint.guard.check actor with
      | .error refusal => return .refused refusal
      | .ok () =>
          let action ← s.acting request (s.actorID actor)
          s.performing action

end Request

/-! ## Requests at the same time -/

section Concurrent

variable {Thread : Type}

abbrev Requests (Thread : Type) := Pool Thread Nat Op Op.Resp (Response s.Token) Db

/-- The requests before their first calls, each with its own readings of the clock. -/
def launch (request : Thread → Request) (readings : Thread → Nat → Nat) (start : Db) :
    s.Requests Thread :=
  Effect.launch s.program request readings start

/-- The requests come from one state to another by their calls, in whatever order. -/
abbrev Interleaves [DecidableEq Thread] (first last : s.Requests Thread) : Prop :=
  Pool.Reaches s.serve (fun _ _ _ => True) first last

end Concurrent

end Server

/-! ## The parts are kept -/

theorem authPart_keeps {Op : Type} {Resp : Op → Type}
    (serve : Nat → (op : Op) → Auth.Db → Resp op × Auth.Db) : authPart.Keeps serve :=
  fun _ _ _ => rfl

/-- What is written there are the two tables. -/
theorem profilePart_keeps : profilePart.Keeps Crm.serveProfile := by
  intro now op db
  cases op with
  | upsertAddress params =>
      simp only [Crm.serveProfile, Crm.ProfileDb.upsertAddress]
      split_ifs <;> rfl
  | upsertPreferences params =>
      simp only [Crm.serveProfile, Crm.ProfileDb.upsertPreferences]
      split_ifs <;> rfl
  | _ => rfl

theorem contactsPart_keeps : contactsPart.Keeps Crm.serve := by
  intro moment op db
  have husers := (Crm.leaves_serve moment op (contactsPart.get db)).users
  generalize (Crm.serve moment op (contactsPart.get db)).2 = after at husers
  obtain ⟨users, contacts⟩ := after
  exact congrArg (Crm.Db.mk · contacts) husers.symm

theorem groupsPart_keeps : groupsPart.Keeps Groups.serve := by
  intro moment op db
  have husers := (Groups.leaves_serve moment op (groupsPart.get db)).users
  generalize (Groups.serve moment op (groupsPart.get db)).2 = after at husers
  obtain ⟨users, groups⟩ := after
  exact congrArg (Groups.Db.mk · groups) husers.symm

theorem membersPart_keeps : membersPart.Keeps Groups.serveMembers := by
  intro now op db
  cases op with
  | addMember params =>
      simp only [Groups.serveMembers, Groups.MembersDb.addMember]
      split_ifs <;> rfl
  | _ => rfl

/-! ## Alone -/

section Alone

variable (s : Server) (now : Nat) (db : Db) {α : Type}

theorem run_onAuth (program : Auth.Prog α) :
    (onAuth program).run s.serve now db =
      ((program.run (Auth.serve s.service.lib) now db.auth).1,
        { db with auth := (program.run (Auth.serve s.service.lib) now db.auth).2 }) :=
  (Program.run_lift (fun _ _ => rfl) (fun _ _ => rfl) program db).trans
    (Part.run_serveWhole (authPart_keeps (Auth.serve s.service.lib)) program now db)

theorem run_onDirectory (program : Auth.DirectoryProg α) :
    (onDirectory program).run s.serve now db =
      ((program.run (Auth.serveDirectory s.service.lib) now db.auth).1,
        { db with auth := (program.run (Auth.serveDirectory s.service.lib) now db.auth).2 }) :=
  (Program.run_lift (fun _ _ => rfl) (fun _ _ => rfl) program db).trans
    (Part.run_serveWhole (authPart_keeps (Auth.serveDirectory s.service.lib)) program now db)

theorem run_onProfile (program : Crm.ProfileProg α) :
    (onProfile program).run s.serve now db =
      ((program.run Crm.serveProfile now db.profile).1,
        profilePart.put db (program.run Crm.serveProfile now db.profile).2) :=
  (Program.run_lift (fun _ _ => rfl) (fun _ _ => rfl) program db).trans
    (Part.run_serveWhole profilePart_keeps program now db)

theorem run_onContacts (program : Crm.Prog α) :
    (onContacts program).run s.serve now db =
      ((program.run Crm.serve (Api.moment now) db.crm).1,
        contactsPart.put db (program.run Crm.serve (Api.moment now) db.crm).2) :=
  (Program.run_lift (fun _ _ => rfl) (fun _ _ => rfl) program db).trans
    (Part.run_serveWhole contactsPart_keeps program (Api.moment now) db)

theorem run_onGroups (program : Groups.Prog α) :
    (onGroups program).run s.serve now db =
      ((program.run Groups.serve (Api.moment now) db.groupsDb).1,
        groupsPart.put db (program.run Groups.serve (Api.moment now) db.groupsDb).2) :=
  (Program.run_lift (fun _ _ => rfl) (fun _ _ => rfl) program db).trans
    (Part.run_serveWhole groupsPart_keeps program (Api.moment now) db)

theorem run_onMembers (program : Groups.MembersProg α) :
    (onMembers program).run s.serve now db =
      ((program.run Groups.serveMembers now db.membersDb).1,
        membersPart.put db (program.run Groups.serveMembers now db.membersDb).2) :=
  (Program.run_lift (fun _ _ => rfl) (fun _ _ => rfl) program db).trans
    (Part.run_serveWhole membersPart_keeps program now db)

/-- The method of a call, alone on the database, is the call. -/
theorem run_method (call : Api.Call) :
    (method s.service call).run s.serve now db = Api.process s.service now call db := by
  cases call with
  | auth call =>
      rw [method, replying, Program.run_map, run_onAuth]
      rfl
  | listUsers | searchUsers | listUserRoles | assignRole | removeRole =>
      rw [method, replying, Program.run_map, run_onDirectory]
      rfl
  | getAddress | upsertAddress | getPreferences | upsertPreferences | listContacts =>
      rw [method, replying, Program.run_map, run_onProfile]
      rfl
  | createContact | updateContact | deleteContact =>
      rw [method, replying, Program.run_map, run_onContacts]
      rfl
  | createGroup | getGroup | updateGroup | deleteGroup =>
      rw [method, replying, Program.run_map, run_onGroups]
      rfl
  | listGroups | addMember | listMembers | removeMember | listUserGroups =>
      rw [method, replying, Program.run_map, run_onMembers]
      rfl

namespace Server

variable (request : Request)

/-- A token is verified without the database. -/
theorem state_newVerifier (token : s.Token) (store : Auth.Db) :
    ((newVerifier s.service.lib s.service.tm token).run (Auth.serve s.service.lib) now store).2 =
      store := by
  rw [newVerifier, Program.run_bind, Auth.TokenManager.run_verify]
  cases s.service.lib.jwtParse s.service.tm.secret token with
  | none => rfl
  | some claims =>
      dsimp only
      split
      · rfl
      · split <;> rfl

theorem run_authenticating :
    (s.authenticating request).run s.serve now db = (s.authenticate now request db, db) := by
  unfold authenticating authenticate verify
  cases request.bearer with
  | none => rfl
  | some text =>
      dsimp only
      rw [Program.run_bind, run_onAuth, state_newVerifier]
      cases ((newVerifier s.service.lib s.service.tm (s.readToken text)).run
        (Auth.serve s.service.lib) now db.auth).1 with
      | ok actor => rfl
      | error err =>
          dsimp only
          split <;> rfl

/-- Only the search looks at the database. -/
theorem action_of_endpoint (actor : Uuid) (hother : request.endpoint ≠ .searchUsers) (db other : Db) :
    s.action actor request db = s.action actor request other := by
  unfold action
  cases hendpoint : request.endpoint with
  | searchUsers => exact absurd hendpoint hother
  | _ => rfl

theorem run_acting (actor : Uuid) :
    (s.acting request actor).run s.serve now db = (s.action actor request db, db) := by
  unfold acting
  split
  next hendpoint =>
      rw [Program.run_bind, Program.run_perform]
      unfold action
      rw [hendpoint]
      simp only [serve]
      cases s.search db (request.query "q") (pagination request).1 <;> rfl
  next hother =>
      rw [Program.run_pure]
      -- The other handlers do not look at the database before they call the service.
      exact congrArg (·, db) (action_of_endpoint s request actor hother emptyDb db)

theorem run_performing (action : Action s.Token) :
    (s.performing action).run s.serve now db = s.perform now db action := by
  cases action with
  | auth request =>
      rw [performing, Program.run_map, run_onAuth]
      rfl
  | call call =>
      rw [performing, Program.run_map, run_method]
      rfl
  | reject err => rfl
  | page => rfl

/-- Alone on the database, the program of a request does what the server does. -/
theorem run_program : (s.program request).run s.serve now db = s.process now request db := by
  unfold program process pass
  rw [Program.run_bind, run_authenticating]
  cases s.authenticate now request db with
  | error refusal => rfl
  | ok actor =>
      dsimp only
      cases request.endpoint.guard.check actor with
      | error refusal => rfl
      | ok passed =>
          dsimp only
          rw [Program.run_bind, run_acting, run_performing]

end Server

end Alone

/-- What requests do one after the other, they can do at the same time: for every run of the
server there are an interleaving of the calls of its requests, with their instants, that leaves
the same state, and in it each request has ended with the reply of the run. The later threads
have another request. -/
theorem Server.run_interleaved {s : Server} {start last : Db} {history : List s.Entry}
    (hrun : s.Run start history last) (other : Request) :
    ∃ (request : Nat → Request) (instant : Nat → Nat) (pool : s.Requests Nat),
      s.Interleaves (s.launch request (fun thread _ => instant thread) start) pool ∧
      pool.store = last ∧
      ∀ later entry earlier, history = later ++ entry :: earlier →
        request earlier.length = entry.request ∧ instant earlier.length = entry.instant ∧
          pool.program earlier.length = .done entry.reply := by
  obtain ⟨request, instant, hthreads⟩ := threads_exist other history
  obtain ⟨pool, hreach, hstore, hdone, -⟩ :=
    Serial.interleaved hrun (fun now request db => (s.run_program now db request).symm) hthreads
  refine ⟨request, instant, pool, hreach, hstore, fun later entry earlier hsplit => ?_⟩
  obtain ⟨hrequest, hinstant⟩ := hthreads later entry earlier hsplit
  exact ⟨hrequest, hinstant, hdone later entry earlier hsplit⟩

/-- Alice signs in, and then makes Bob an administrator. -/
theorem Sample.interleaved_appointment :
    ∃ (request : Nat → Request) (instant : Nat → Nat) (pool : Sample.server.Requests Nat),
      Sample.server.Interleaves
        (Sample.server.launch request (fun thread _ => instant thread) Sample.db) pool ∧
      pool.store = Sample.appointment.after ∧
      ∀ later entry earlier, [Sample.appointment, Sample.login] = later ++ entry :: earlier →
        request earlier.length = entry.request ∧ instant earlier.length = entry.instant ∧
          pool.program earlier.length = .done entry.reply :=
  Server.run_interleaved Sample.run_appointment Sample.loginRequest

/-! ## The calls of a request -/

section Uses

variable {s : Server} {allowed : Op → Prop}

theorem uses_replying {α ε Token : Type} {err : ε → Api.Err} {answer : α → Api.Answer Token}
    {method : Prog (Except ε α)} (huses : method.Uses allowed) :
    (replying err answer method).Uses allowed :=
  Program.uses_map huses

namespace Server

variable {request : Request}

/-- The instants at which a request is at work before its first call. -/
def IsReading (readings : Nat → Nat) (instant : Nat) : Prop := ∃ index, instant = readings index

/-- What comes after the authentication has its result, at the first reading of the clock. -/
theorem uses_authenticating {β : Type} {rest : Except Refusal (Option Actor) → Prog β}
    (readings : Nat → Nat)
    (hrest : (rest (s.authenticate (readings 0) request emptyDb)).UsesAt (IsReading readings)
      allowed) :
    ((s.authenticating request >>= rest).settle readings).Uses allowed := by
  unfold authenticating
  unfold authenticate verify at hrest
  cases hbearer : request.bearer with
  | none =>
      rw [hbearer] at hrest
      exact Program.UsesAt.settle hrest fun index => ⟨index, rfl⟩
  | some text =>
      rw [hbearer] at hrest
      simp only [newVerifier, Program.run_bind, Auth.TokenManager.run_verify] at hrest
      -- The token is compared with the first reading; what comes after reads the later ones.
      have hlater : ∀ index, IsReading readings (readings (index + 1)) :=
        fun index => ⟨index + 1, rfl⟩
      change Program.Uses allowed (Program.settle _ fun index => readings (index + 1))
      refine Program.UsesAt.settle ?_ hlater
      simp only [id, pure]
      cases hparse : s.service.lib.jwtParse s.service.tm.secret (s.readToken text) with
      | none =>
          rw [hparse] at hrest
          exact hrest
      | some claims =>
          rw [hparse] at hrest
          dsimp only at hrest ⊢
          by_cases hvalid : claims.ValidAt (readings 0)
          · by_cases hkind : claims.kind = Auth.tokenKindAccess
            · simp only [if_pos hvalid, if_pos hkind, Program.run_pure] at hrest
              simp only [if_pos hvalid, if_pos hkind, Program.bind, Program.lift]
              exact hrest
            · simp only [if_pos hvalid, if_neg hkind, Program.run_pure] at hrest
              simp only [if_pos hvalid, if_neg hkind, Program.bind, Program.lift]
              exact hrest
          · simp only [if_neg hvalid, Program.run_pure] at hrest
            simp only [if_neg hvalid, Program.bind, Program.lift]
            exact hrest

/-- A request makes the calls of the search, and of what its handler does after the middleware
has let it pass. -/
theorem uses_program (readings : Nat → Nat)
    (hsearch : request.endpoint = .searchUsers →
      allowed (.search (request.query "q") (pagination request).1) ∧
      ∀ hits, (method s.service (.searchUsers hits)).Uses allowed)
    (haction : ∀ actor db, s.pass (readings 0) request emptyDb = .ok actor →
      (s.performing (s.action (s.actorID actor) request db)).UsesAt (IsReading readings) allowed) :
    ((s.program request).settle readings).Uses allowed := by
  refine uses_authenticating readings ?_
  cases hactor : s.authenticate (readings 0) request emptyDb with
  | error refusal => exact trivial
  | ok actor =>
      dsimp only
      cases hguard : request.endpoint.guard.check actor with
      | error refusal => exact trivial
      | ok passed =>
          have hpass : s.pass (readings 0) request emptyDb = .ok actor := by
            unfold pass
            rw [hactor]
            dsimp only
            rw [hguard]
          dsimp only
          unfold acting
          split
          -- The search comes before the call of the service, which is made with whatever it finds.
          next hendpoint =>
              obtain ⟨hallowed, hmethod⟩ := hsearch hendpoint
              refine ⟨hallowed, fun found => ?_⟩
              cases found with
              | error cause => exact Program.uses_pure _
              | ok hits => exact Program.uses_map (hmethod hits)
          next hother => exact haction actor emptyDb hpass

end Server

end Uses

end Skolva.Http
