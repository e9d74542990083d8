import Skolva.Auth.AuditedRequests
import Skolva.Http.Access

/-! # What requests change

The records of users and those of groups. Logins, second factors and password resets write
neither.
-/

namespace Skolva.Auth

/-- The row of a user without the two columns that a reset of the password writes, with the token
of its mail and without an access token. -/
def User.record (user : User) : User := { user with passwordHash := .other "", updatedAt := 0 }

def Db.userRows (db : Db) : List User := db.users.map User.record

/-- The calls that make, change or delete users. -/
def ServiceCall.EditsUsers : ServiceCall → Prop
  | .register .. | .updateUser .. | .deleteUser .. => True
  | _ => False

section Frame

variable {s : Service} (now : Nat) (db : Db)

theorem userRows_processCall {call : ServiceCall} (hcall : ¬call.EditsUsers) :
    (s.processCall now call db).2.userRows = db.userRows := by
  refine Service.processCall_preserves (motive := fun store => store.userRows = db.userRows)
    (fun op store hop hstore => ?_) rfl
  rw [← hstore]
  cases op with
  | createUser id email passwordHash firstName lastName actor =>
      obtain ⟨salt, actorID, password, rfl⟩ := hop
      exact absurd trivial hcall
  | updateUser id firstName lastName isActive updatedBy =>
      obtain ⟨actorID, isActive, rfl⟩ := hop
      exact absurd trivial hcall
  | softDeleteUser id updatedBy =>
      obtain ⟨actorID, rfl⟩ := hop
      exact absurd trivial hcall
  | updatePassword id passwordHash =>
      -- The statement writes the hash, and the trigger the stamp.
      unfold Db.userRows
      simp only [serve, Db.updateLiveUser, List.map_map]
      refine List.map_congr_left fun user _ => ?_
      rw [Function.comp_apply]
      split <;> rfl
  | _ => rfl

theorem not_editsUsers_callOf {request : Request s.lib.Token} (hrequest : ¬request.EditsUsers)
    {call : ServiceCall} (hcall : s.callOf now request = some call) : ¬call.EditsUsers := by
  cases request with
  | register | updateUser | deleteUser => exact absurd trivial hrequest
  | _ =>
      unfold Service.callOf at hcall
      simp only [Option.map_eq_some_iff, Option.bind_eq_some_iff, Option.some.injEq] at hcall
      grind [ServiceCall.EditsUsers]

theorem userRows_process {request : Request s.lib.Token} (hrequest : ¬request.EditsUsers) :
    (Handler.process s now request db).2.userRows = db.userRows := by
  rw [state_process]
  cases hcall : s.callOf now request with
  | none => rfl
  | some call => exact userRows_processCall now db (not_editsUsers_callOf now hrequest hcall)

/-- Without a reset, no column is written. -/
theorem users_process {request : Request s.lib.Token} (hrequest : ¬request.EditsUsers)
    (hresets : ¬s.Resets now db request) :
    (Handler.process s now request db).2.users = db.users := by
  cases request with
  | register | updateUser | deleteUser => exact absurd trivial hrequest
  | resetPassword salt body =>
      cases body with
      | none => rfl
      | some req =>
          simp only [Handler.process, Handler.handle, Handler.resetPassword]
          cases hid : s.lib.uuidParse req.userID with
          | none => rfl
          | some userID =>
              rcases s.run_resetPassword now db salt userID req.token req.password with
                ⟨hlive, hreset, -⟩ | ⟨-, err, hrun⟩
              · exact absurd ⟨userID, hid, hlive, hreset⟩ hresets
              · dsimp only
                unfold Handler.noContentAfter
                rw [Effect.Program.run_bind, hrun]
                rfl
  | _ =>
      refine Effect.Program.run_preserves (serve s.lib) now (leavesUsers_handle ?_)
        (motive := fun store => store.users = db.users) (fun op store hop hstore => ?_) rfl
      · exact not_false
      · cases op with
        | createUser | updateUser | softDeleteUser | updatePassword => exact hop.elim
        | _ => exact hstore

/-- A reset leaves the rows of the other users alone. -/
theorem users_resetPassword {salt : Nat} {req : PasswordResetRequest} {userID u : Uuid}
    (hid : s.lib.uuidParse req.userID = some userID) (hother : u ≠ userID) :
    (Handler.process s now (.resetPassword salt (some req)) db).2.users.filter
        (fun user => user.id = u) =
      db.users.filter fun user => user.id = u := by
  have hcall : s.callOf now (.resetPassword salt (some req)) =
      some (.resetPassword salt userID req.token req.password) := by
    simp [Service.callOf, hid]
  rw [state_process, hcall]
  refine Service.processCall_preserves (motive := fun store =>
    store.users.filter (fun user => user.id = u) = db.users.filter fun user => user.id = u)
    (fun op store hop hstore => ?_) rfl
  rw [← hstore]
  cases op with
  | createUser | updateUser | softDeleteUser => simp [ServiceCall.Writes] at hop
  | updatePassword id passwordHash =>
      obtain ⟨_, _, _, hmade⟩ := hop
      cases hmade
      simp only [serve, Db.updateLiveUser]
      apply Sql.filter_map_of_selected
      · intro user _
        split <;> rfl
      · intro user _ hselected
        rw [if_neg]
        rintro ⟨hwritten, -⟩
        exact hother ((of_decide_eq_true hselected).symm.trans hwritten)
  | _ => rfl

end Frame

end Skolva.Auth

namespace Skolva.Api

/-! ## Records -/

/-- The tables behind the permissions `users.read` and `users.write`. -/
structure UserRecords where
  users : List Auth.User
  rbac : Auth.Rbac
  contacts : List Crm.ContactPoint
  addresses : List Crm.UserAddress
  preferences : List Crm.UserPreferences
  deriving DecidableEq

/-- The tables behind `groups.read` and `groups.write`. -/
structure GroupRecords where
  groups : List Groups.GroupRow
  members : List Groups.GroupMember
  deriving DecidableEq

def Db.userTables (db : Db) : UserRecords where
  users := db.auth.users
  rbac := db.auth.rbac
  contacts := db.contacts
  addresses := db.addresses
  preferences := db.preferences

/-- The tables without what a reset of the password writes. -/
def Db.userRecords (db : Db) : UserRecords where
  users := db.auth.userRows
  rbac := db.auth.rbac
  contacts := db.contacts
  addresses := db.addresses
  preferences := db.preferences

def Db.groupRecords (db : Db) : GroupRecords := ⟨db.groups, db.members⟩

def Call.EditsUsers : Call → Prop
  | .auth call => call.EditsUsers
  | .assignRole .. | .removeRole .. | .upsertAddress .. | .upsertPreferences .. => True
  | .createContact .. | .updateContact .. | .deleteContact .. => True
  | _ => False

def Call.EditsGroups : Call → Prop
  | .createGroup .. | .updateGroup .. | .deleteGroup .. | .addMember .. | .removeMember .. => True
  | _ => False

section Tables

variable {db other : Db}

theorem Db.userRecords_of_userTables (hsame : other.userTables = db.userTables) :
    other.userRecords = db.userRecords := by
  have husers : other.auth.users = db.auth.users := congrArg UserRecords.users hsame
  have hrecords : other.userRecords = { other.userTables with users := other.auth.userRows } := rfl
  rw [hrecords, hsame, Auth.Db.userRows, husers]
  rfl

theorem Db.userTables_of_userRecords (hsame : other.userRecords = db.userRecords)
    (husers : other.auth.users = db.auth.users) : other.userTables = db.userTables := by
  have htables : other.userTables = { other.userRecords with users := other.auth.users } := rfl
  rw [htables, hsame, husers]
  rfl

end Tables

section Frame

variable (s : Auth.Service) (now : Nat) (db : Db) {call : Call}

theorem userRecords_process (hcall : ¬call.EditsUsers) :
    (process s now call db).2.userRecords = db.userRecords := by
  cases call with
  | auth call =>
      simp only [process, runAuth, Db.userRecords, Auth.userRows_processCall now db.auth hcall]
      rw [Auth.Service.processCall, Auth.run_rbac]
  | assignRole | removeRole | upsertAddress | upsertPreferences | createContact | updateContact
  | deleteContact =>
      exact absurd trivial hcall
  | listUserRoles userID =>
      simp only [process, runDirectory, Auth.Directory.run_listUserRoles, Db.userRecords]
  | searchUsers hits =>
      simp only [process, runDirectory, Auth.Directory.run_searchUsers, Db.userRecords]
  | getAddress userID =>
      simp only [process, runProfile, Crm.Service.run_getAddress]
      rfl
  | getPreferences userID =>
      simp only [process, runProfile, Crm.Service.run_getPreferences]
      rfl
  | _ => rfl

theorem groupRecords_process (hcall : ¬call.EditsGroups) :
    (process s now call db).2.groupRecords = db.groupRecords := by
  cases call with
  | createGroup | updateGroup | deleteGroup | addMember | removeMember =>
      exact absurd trivial hcall
  | listGroups groupType limit offset =>
      simp only [process, runMembers, Groups.Service.run_list, Db.groupRecords, Db.membersDb]
  | listMembers groupID =>
      simp only [process, runMembers, Groups.Service.run_listMembers, Db.groupRecords,
        Db.membersDb]
  | getGroup id =>
      simp only [process, runGroups, moment, Groups.Service.run_get]
      rfl
  | _ => rfl

end Frame

end Skolva.Api

namespace Skolva.Http

open Effect
open Api (Db)

/-! ## What a handler can do -/

/-- The route of a request to the auth handlers. -/
def authEndpoint {Token : Type} : Auth.Request Token → Endpoint
  | .login .. => .login
  | .register .. => .register
  | .getUser .. => .getUser
  | .updateUser .. => .updateUser
  | .deleteUser .. => .deleteUser
  | .setup2FA .. => .setup2FA
  | .confirm2FA .. => .confirm2FA
  | .verify2FA .. => .verify2FA
  | .recover2FA .. => .recover2FA
  | .disable2FA .. => .disable2FA
  | .setupEmail2FA .. => .setupEmail2FA
  | .confirmEmail2FA .. => .confirmEmail2FA
  | .verifyEmail2FA .. => .verifyEmail2FA
  | .resendEmail2FA .. => .resendEmail2FA
  | .disableEmail2FA .. => .disableEmail2FA
  | .forgotPassword .. => .forgotPassword
  | .resetPassword .. => .resetPassword

/-- The route behind which a handler calls a method. The methods of the auth module have
handlers of their own. -/
def callEndpoint : Api.Call → Option Endpoint
  | .auth _ => none
  | .listUsers .. => some .listUsers
  | .searchUsers .. => some .searchUsers
  | .listUserRoles .. => some .listUserRoles
  | .assignRole .. => some .assignRole
  | .removeRole .. => some .removeRole
  | .getAddress .. => some .getAddress
  | .upsertAddress .. => some .putAddress
  | .getPreferences .. => some .getPreferences
  | .upsertPreferences .. => some .putPreferences
  | .listContacts .. => some .listContacts
  | .createContact .. => some .createContact
  | .updateContact .. => some .updateContact
  | .deleteContact .. => some .deleteContact
  | .createGroup .. => some .createGroup
  | .getGroup .. => some .getGroup
  | .listGroups .. => some .listGroups
  | .updateGroup .. => some .updateGroup
  | .deleteGroup .. => some .deleteGroup
  | .addMember .. => some .addMember
  | .listMembers .. => some .listMembers
  | .removeMember .. => some .removeMember
  | .listUserGroups .. => some .listUserGroups

/-- The action is one of the handler behind this route. -/
def Action.Of {Token : Type} (endpoint : Endpoint) : Action Token → Prop
  | .auth request => authEndpoint request = endpoint
  | .call method => callEndpoint method = some endpoint
  | .reject _ | .page => True

namespace Server

variable {s : Server}

/-- What holds of a rejection and of every way on, holds of what is done with a path. -/
theorem parsed_elim {motive : Action s.Token → Prop} {id : Option Uuid} {invalid : Api.Err}
    {next : Uuid → Action s.Token} (hreject : motive (.reject invalid))
    (hnext : ∀ id, motive (next id)) : motive (.parsed id invalid next) := by
  cases id with
  | none => exact hreject
  | some id => exact hnext id

/-- It holds of what is done with a body. -/
theorem bound_elim {α : Type} {motive : Action s.Token → Prop} {body : Option α}
    {invalid : Api.Err} {next : α → Action s.Token} (hreject : motive (.reject invalid))
    (hnext : ∀ value, body = some value → motive (next value)) :
    motive (.bound body invalid next) := by
  cases body with
  | none => exact hreject
  | some value => exact hnext value rfl

section Handlers

variable {actor : Uuid} {request : Request} {db : Db}

theorem patchedGroup_cases (id : Uuid) (body : Api.GroupPatch) :
    (∃ err, (patched (.group actor id body) : Action s.Token) = .reject err) ∨
    ∃ name description groupType isActive, name ≠ "" ∧
      (patched (.group actor id body) : Action s.Token) =
        .call (.updateGroup actor id name description groupType isActive) := by
  unfold patched Api.Patch.bind
  dsimp only
  split_ifs with hempty
  · exact .inl ⟨_, rfl⟩
  · exact .inr ⟨_, _, _, _, fun hname => hempty (.inl hname), rfl⟩

theorem patchedContact_cases (userID contactID : Uuid) (body : Api.ContactPatch) :
    (∃ err, (patched (.contact actor userID contactID body) : Action s.Token) = .reject err) ∨
    ∃ req, req.value ≠ "" ∧ (patched (.contact actor userID contactID body) : Action s.Token) =
      .call (.updateContact actor userID contactID req) := by
  unfold patched Api.Patch.bind
  dsimp only
  split_ifs with hempty
  · exact .inl ⟨_, rfl⟩
  · exact .inr ⟨_, hempty, rfl⟩

theorem of_action : (s.action actor request db).Of request.endpoint := by
  unfold action
  cases request.endpoint with
  | listUserRoles | removeRole | getGroup | deleteGroup | listMembers | listUserGroups
  | getAddress | getPreferences | listContacts => exact parsed_elim trivial fun _ => rfl
  | createGroup => exact bound_elim trivial fun _ _ => rfl
  | assignRole | putAddress | putPreferences | createContact =>
      exact parsed_elim trivial fun _ => bound_elim trivial fun _ _ => rfl
  | updateGroup =>
      refine parsed_elim trivial fun id => bound_elim trivial fun req _ => ?_
      rcases @patchedGroup_cases s actor id req with
        ⟨err, hpatched⟩ | ⟨_, _, _, _, -, hpatched⟩
      · rw [hpatched]
        exact trivial
      · rw [hpatched]
        exact rfl
  | addMember =>
      exact parsed_elim trivial fun _ => bound_elim trivial fun _ _ =>
        parsed_elim trivial fun _ => rfl
  | removeMember | deleteContact =>
      exact parsed_elim trivial fun _ => parsed_elim trivial fun _ => rfl
  | updateContact =>
      refine parsed_elim trivial fun userID => parsed_elim trivial fun contactID =>
        bound_elim trivial fun req _ => ?_
      rcases @patchedContact_cases s actor userID contactID req with
        ⟨err, hpatched⟩ | ⟨_, -, hpatched⟩
      · rw [hpatched]
        exact trivial
      · rw [hpatched]
        exact rfl
  | searchUsers =>
      dsimp only
      split
      · exact trivial
      · exact rfl
  | health | openapi | docs | redoc => exact trivial
  | _ => exact rfl

/-- Each method is called behind its route. -/
theorem endpoint_of_call {method : Api.Call} (haction : s.action actor request db = .call method) :
    callEndpoint method = some request.endpoint := by
  have hof := @of_action s actor request db
  rwa [haction] at hof

theorem endpoint_of_auth {call : Auth.Request s.Token}
    (haction : s.action actor request db = .auth call) : authEndpoint call = request.endpoint := by
  have hof := @of_action s actor request db
  rwa [haction] at hof

end Handlers

end Server

/-! ## Actions -/

def Action.EditsUsers {Token : Type} : Action Token → Prop
  | .auth request => request.EditsUsers
  | .call method => method.EditsUsers
  | _ => False

def Action.EditsGroups {Token : Type} : Action Token → Prop
  | .call method => method.EditsGroups
  | _ => False

namespace Server

variable {s : Server} (now : Nat) (db : Db)

theorem userRecords_perform {action : Action s.Token} (haction : ¬action.EditsUsers) :
    (s.perform now db action).2.userRecords = db.userRecords := by
  cases action with
  | auth request =>
      simp only [perform, Db.userRecords, Auth.userRows_process now db.auth haction]
      rw [Auth.Handler.process, Auth.run_rbac]
  | call call => exact Api.userRecords_process s.service now db haction
  | reject err => rfl
  | page => rfl

theorem groupRecords_perform {action : Action s.Token} (haction : ¬action.EditsGroups) :
    (s.perform now db action).2.groupRecords = db.groupRecords := by
  cases action with
  | call call => exact Api.groupRecords_process s.service now db haction
  | auth request => rfl
  | reject err => rfl
  | page => rfl

variable {actor : Uuid} {request : Request} {db}

/-- The action resets the password of a user with the token of its mail. -/
def Resets (s : Server) (now : Nat) (db : Db) : Action s.Token → Prop
  | .auth request => s.service.Resets now db.auth request
  | .call _ | .reject _ | .page => False

/-- A reset names the user whose password it writes. -/
theorem exists_of_resets {action : Action s.Token} (hresets : s.Resets now db action) :
    ∃ salt req userID, action = .auth (.resetPassword salt (some req)) ∧
      s.service.lib.uuidParse req.userID = some userID := by
  cases action with
  | auth call =>
      cases call with
      | resetPassword salt body =>
          cases body with
          | none => exact hresets.elim
          | some req =>
              obtain ⟨userID, hid, -, -⟩ := hresets
              exact ⟨salt, req, userID, rfl, hid⟩
      | _ => exact hresets.elim
  | call | reject | page => exact hresets.elim

/-- A reset comes from its route, with what the body binds to. -/
theorem resetPassword_of_action {salt : Nat} {body : Option Auth.PasswordResetRequest}
    (haction : s.action actor request db = .auth (.resetPassword salt body)) :
    request.endpoint = .resetPassword ∧ salt = request.draws.salt ∧
      body = request.body.bind bindPasswordReset := by
  have hendpoint : Endpoint.resetPassword = request.endpoint := endpoint_of_auth haction
  unfold action at haction
  rw [← hendpoint] at haction
  cases haction
  exact ⟨hendpoint.symm, rfl, rfl⟩

theorem userTables_perform (hedits : ¬(s.action actor request db).EditsUsers)
    (hresets : ¬s.Resets now db (s.action actor request db)) :
    (s.perform now db (s.action actor request db)).2.userTables = db.userTables := by
  refine Api.Db.userTables_of_userRecords (userRecords_perform now db hedits) ?_
  cases haction : s.action actor request db with
  | auth call =>
      rw [haction] at hedits hresets
      exact Auth.users_process now db.auth hedits hresets
  | call method =>
      have hmodule : ¬method.IsAuth := by
        intro hauth
        cases method with
        | auth call => exact nomatch endpoint_of_call haction
        | _ => exact hauth.elim
      obtain ⟨userRoles, hafter⟩ := Api.auth_process s.service now db hmodule
      simp only [perform, hafter]
  | reject err => rfl
  | page => rfl

/-- The routes that edit users ask for `users.write`. -/
theorem guard_of_editsUsers (hedits : (s.action actor request db).EditsUsers) :
    request.endpoint.guard = .requirePermission "users.write" := by
  cases haction : s.action actor request db with
  | auth call =>
      rw [haction] at hedits
      rw [← endpoint_of_auth haction]
      cases call with
      | register | updateUser | deleteUser => rfl
      | _ => exact hedits.elim
  | call method =>
      rw [haction] at hedits
      have hendpoint := endpoint_of_call haction
      cases method with
      | auth call => cases hendpoint
      | assignRole | removeRole | upsertAddress | upsertPreferences | createContact
      | updateContact | deleteContact =>
          rw [← Option.some.inj hendpoint]
          rfl
      | _ => exact hedits.elim
  | reject err =>
      rw [haction] at hedits
      exact hedits.elim
  | page =>
      rw [haction] at hedits
      exact hedits.elim

/-- The routes that edit groups ask for `groups.write`. -/
theorem guard_of_editsGroups (hedits : (s.action actor request db).EditsGroups) :
    request.endpoint.guard = .requirePermission "groups.write" := by
  cases haction : s.action actor request db with
  | call method =>
      rw [haction] at hedits
      have hendpoint := endpoint_of_call haction
      cases method with
      | createGroup | updateGroup | deleteGroup | addMember | removeMember =>
          rw [← Option.some.inj hendpoint]
          rfl
      | _ => exact hedits.elim
  | auth call =>
      rw [haction] at hedits
      exact hedits.elim
  | reject err =>
      rw [haction] at hedits
      exact hedits.elim
  | page =>
      rw [haction] at hedits
      exact hedits.elim

end Server

end Skolva.Http
