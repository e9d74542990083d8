import Skolva.Http.Factors
import Skolva.Http.Records
import Skolva.Http.Writes

/-! # Who makes each write

Requests at the same time do not lend each other their rights: behind each write that reaches
the database there is the token of the request that makes it. A new password is written for the
token of a mail, and for nobody's access token.
-/

namespace Skolva.Auth

/-- The user in whose name the call writes. -/
def ServiceCall.author : ServiceCall → Option Uuid
  | .register _ _ actorID _ _ _ _ | .updateUser actorID _ _ _ _ | .deleteUser actorID _ =>
      some actorID
  | _ => none

def Request.author {Token : Type} : Request Token → Option Uuid
  | .register _ _ actor _ | .updateUser actor _ _ | .deleteUser actor _ => some actor
  | _ => none

theorem author_of_callOf {s : Service} {now : Nat} {request : Request s.lib.Token}
    {call : ServiceCall} (hcall : s.callOf now request = some call) {id : Uuid}
    (hid : id ∈ call.author) : id ∈ request.author := by
  cases request with
  | register id salt actor body | login draw body | getUser id | deleteUser actor id
  | confirm2FA actor body | disable2FA actor body | confirmEmail2FA actor body
  | forgotPassword draw body =>
      obtain ⟨_, -, rfl⟩ := Option.map_eq_some_iff.mp hcall
      exact hid
  | updateUser | resetPassword | verify2FA | recover2FA | verifyEmail2FA | resendEmail2FA =>
      obtain ⟨_, -, hmade⟩ := Option.bind_eq_some_iff.mp hcall
      obtain ⟨_, -, rfl⟩ := Option.map_eq_some_iff.mp hmade
      exact hid
  | setup2FA | setupEmail2FA | disableEmail2FA =>
      obtain rfl := Option.some.inj hcall
      exact hid

theorem resetPassword_of_callOf {s : Service} {now : Nat} {request : Request s.lib.Token}
    {salt : Nat} {userID : Uuid} {token newPassword : Bytes}
    (hcall : s.callOf now request = some (.resetPassword salt userID token newPassword)) :
    ∃ req, request = .resetPassword salt (some req) ∧
      s.lib.uuidParse req.userID = some userID ∧ req.token = token ∧
      req.password = newPassword := by
  cases request with
  | resetPassword drawn body =>
      obtain ⟨req, rfl, hmade⟩ := Option.bind_eq_some_iff.mp hcall
      obtain ⟨id, hid, hsame⟩ := Option.map_eq_some_iff.mp hmade
      cases hsame
      exact ⟨req, rfl, hid, rfl, rfl⟩
  | _ => simp [Service.callOf, Option.bind_eq_some_iff] at hcall

end Skolva.Auth

namespace Skolva.Api

/-- The user in whose name the call writes. -/
def Call.author : Call → Option Uuid
  | .auth call => call.author
  | .assignRole actorID _ _ | .upsertAddress actorID _ _ | .upsertPreferences actorID _ _ =>
      some actorID
  | .createContact _ actorID _ _ | .updateContact actorID _ _ _ | .deleteContact actorID _ _ =>
      some actorID
  | .createGroup _ actorID _ _ _ | .updateGroup actorID _ _ _ _ _ | .deleteGroup actorID _ =>
      some actorID
  | .addMember actorID _ _ _ => some actorID
  | _ => none

end Skolva.Api

namespace Skolva.Http

open Effect
open Auth (Claims actorNull)
open Auth.Sample (alice)
open Api (Db)

/-! ## Calls -/

/-- The author that the call puts into its row. A role that is taken from a user and a member
who is removed leave no row. -/
def Op.author : Op → Option (Option Uuid)
  | .auth (.createUser _ _ _ _ _ actor) => some actor
  | .auth (.updateUser _ _ _ _ updatedBy) | .auth (.softDeleteUser _ updatedBy) => some updatedBy
  | .directory (.assignRole _ _ assignedBy) => some assignedBy
  | .profile (.upsertAddress params) => some params.actor
  | .profile (.upsertPreferences params) => some params.actor
  | .contacts (.createContact _ _ _ params) => some params.actor
  | .contacts (.updateContact _ _ _ _ params) => some params.updatedBy
  | .contacts (.softDeleteContact _ _ updatedBy) => some updatedBy
  | .groups (.create _ _ params) => some params.actor
  | .groups (.update _ params) => some params.updatedBy
  | .groups (.softDelete _ _ updatedBy) => some updatedBy
  | .members (.addMember params) => some params.createdBy
  | _ => none

/-- The call writes a row of the records of users, and is no reset of a password. -/
def Op.EditsUsers : Op → Prop
  | .auth (.createUser ..) | .auth (.updateUser ..) | .auth (.softDeleteUser ..) => True
  | .directory (.assignRole ..) | .directory (.removeRole ..) => True
  | .profile (.upsertAddress ..) | .profile (.upsertPreferences ..) => True
  | .contacts (.createContact ..) | .contacts (.updateContact ..) => True
  | .contacts (.softDeleteContact ..) => True
  | _ => False

def Op.EditsGroups : Op → Prop
  | .groups (.create ..) | .groups (.update ..) | .groups (.softDelete ..) => True
  | .members (.addMember ..) | .members (.removeMember ..) => True
  | _ => False

/-- The call writes records, for which the routes ask for this permission. -/
inductive Op.Edits (op : Op) : String → Prop where
  | users (hedits : op.EditsUsers) : Op.Edits op "users.write"
  | groups (hedits : op.EditsGroups) : Op.Edits op "groups.write"

/-- The call writes the TOTP row of the user. -/
def Op.WritesTotp (u : Uuid) : Op → Prop
  | .auth (.upsertTOTPSecret userID _) | .auth (.deleteTOTPSecret userID) => userID = u
  | _ => False

/-- The call writes a key of the email codes of the user. -/
def Op.WritesEmail2FA (u : Uuid) : Op → Prop
  | .auth (.metaSet userID key _) | .auth (.metaDelete userID key) => userID = u ∧ key.IsEmail2FA
  | _ => False

section Call

variable {lib : Auth.External} {call : Api.Call} {op : Op}

/-- A call writes in the name of its own actor. -/
theorem author_of_callWrites (hop : CallWrites lib call op) {author : Option Uuid}
    (hauthor : author ∈ op.author) : ∃ actorID ∈ call.author, author = actorNull actorID := by
  cases op with
  | auth op =>
      obtain ⟨request, rfl, hputs⟩ := hop
      cases op with
      | createUser =>
          obtain ⟨_, actorID, _, rfl, -, rfl⟩ := hputs
          exact ⟨actorID, rfl, (Option.some.inj hauthor).symm⟩
      | updateUser =>
          obtain ⟨actorID, _, rfl, rfl⟩ := hputs
          exact ⟨actorID, rfl, (Option.some.inj hauthor).symm⟩
      | softDeleteUser =>
          obtain ⟨actorID, rfl, rfl⟩ := hputs
          exact ⟨actorID, rfl, (Option.some.inj hauthor).symm⟩
      | _ => cases hauthor
  | directory op =>
      cases op with
      | assignRole =>
          obtain ⟨actorID, rfl, rfl⟩ := hop
          exact ⟨actorID, rfl, (Option.some.inj hauthor).symm⟩
      | _ => cases hauthor
  | profile op =>
      cases op with
      | upsertAddress =>
          obtain ⟨actorID, _, _, _, rfl, rfl⟩ := hop
          exact ⟨actorID, rfl, (Option.some.inj hauthor).symm⟩
      | upsertPreferences =>
          obtain ⟨actorID, _, rfl, hactor⟩ := hop
          exact ⟨actorID, rfl, (Option.some.inj hauthor).symm.trans hactor⟩
      | _ => cases hauthor
  | contacts op =>
      cases op with
      | createContact actorID =>
          obtain ⟨_, rfl, -, hactor⟩ := hop
          exact ⟨actorID, rfl, (Option.some.inj hauthor).symm.trans hactor⟩
      | updateContact actorID =>
          obtain ⟨_, rfl, -, hactor⟩ := hop
          exact ⟨actorID, rfl, (Option.some.inj hauthor).symm.trans hactor⟩
      | softDeleteContact actorID =>
          obtain ⟨_, rfl, rfl⟩ := hop
          exact ⟨actorID, rfl, (Option.some.inj hauthor).symm⟩
      | _ => cases hauthor
  | groups op =>
      cases op with
      | create actorID =>
          obtain ⟨_, _, rfl, hactor⟩ := hop
          exact ⟨actorID, rfl, (Option.some.inj hauthor).symm.trans hactor⟩
      | update actorID =>
          obtain ⟨_, _, _, rfl, hactor⟩ := hop
          exact ⟨actorID, rfl, (Option.some.inj hauthor).symm.trans hactor⟩
      | softDelete actorID =>
          obtain ⟨rfl, rfl⟩ := hop
          exact ⟨actorID, rfl, (Option.some.inj hauthor).symm⟩
      | _ => cases hauthor
  | members op =>
      cases op with
      | addMember =>
          obtain ⟨actorID, _, rfl, hactor⟩ := hop
          exact ⟨actorID, rfl, (Option.some.inj hauthor).symm.trans hactor⟩
      | _ => cases hauthor
  | search => cases hauthor

theorem not_editsUsers_of_reads {op : Auth.Op} (hop : op.Reads) : ¬(Op.auth op).EditsUsers := by
  cases op with
  | createUser | updateUser | softDeleteUser => exact hop.elim
  | _ => exact not_false

theorem editsUsers_of_puts {request : Auth.ServiceCall} {op : Auth.Op}
    (hop : request.Puts lib op) (hedits : (Op.auth op).EditsUsers) : request.EditsUsers := by
  cases op with
  | createUser =>
      obtain ⟨_, _, _, rfl, -⟩ := hop
      exact trivial
  | updateUser =>
      obtain ⟨_, _, rfl, -⟩ := hop
      exact trivial
  | softDeleteUser =>
      obtain ⟨_, rfl, -⟩ := hop
      exact trivial
  | _ => exact hedits.elim

theorem editsUsers_of_callWrites (hop : CallWrites lib call op) (hedits : op.EditsUsers) :
    call.EditsUsers := by
  cases op with
  | auth op =>
      obtain ⟨request, rfl, hputs⟩ := hop
      exact editsUsers_of_puts hputs hedits
  | directory op =>
      cases op with
      | assignRole =>
          obtain ⟨_, rfl, -⟩ := hop
          exact trivial
      | removeRole =>
          obtain rfl := hop
          exact trivial
      | _ => exact hedits.elim
  | profile op =>
      cases op with
      | upsertAddress =>
          obtain ⟨_, _, _, _, rfl, -⟩ := hop
          exact trivial
      | upsertPreferences =>
          obtain ⟨_, _, rfl, -⟩ := hop
          exact trivial
      | _ => exact hedits.elim
  | contacts op =>
      cases op with
      | createContact | updateContact | softDeleteContact =>
          obtain ⟨_, rfl, -⟩ := hop
          exact trivial
      | _ => exact hedits.elim
  | groups | members | search => exact hedits.elim

theorem editsGroups_of_callWrites (hop : CallWrites lib call op) (hedits : op.EditsGroups) :
    call.EditsGroups := by
  cases op with
  | groups op =>
      cases op with
      | create =>
          obtain ⟨_, _, rfl, -⟩ := hop
          exact trivial
      | update =>
          obtain ⟨_, _, _, rfl, -⟩ := hop
          exact trivial
      | softDelete =>
          obtain ⟨rfl, -⟩ := hop
          exact trivial
      | getByID => exact hedits.elim
  | members op =>
      cases op with
      | addMember =>
          obtain ⟨_, _, rfl, -⟩ := hop
          exact trivial
      | removeMember =>
          obtain rfl := hop
          exact trivial
      | _ => exact hedits.elim
  | auth | directory | profile | contacts | search => exact hedits.elim

end Call

/-! ## Actions -/

/-- The action writes in the name of nobody else. -/
def Action.InNameOf {Token : Type} (actor : Uuid) : Action Token → Prop
  | .auth request => ∀ id ∈ request.author, id = actor
  | .call method => ∀ id ∈ method.author, id = actor
  | .reject _ | .page => True

namespace Server

variable {s : Server}

section Action

variable {readings : Nat → Nat} {action : Action s.Token} {op : Op}

theorem author_of_actionWrites (hop : s.ActionWrites readings action op) {actor : Uuid}
    (haction : action.InNameOf actor) : ∀ author ∈ op.author, author = actorNull actor := by
  intro author hauthor
  cases action with
  | auth request =>
      obtain ⟨op, rfl, hreads | ⟨now, -, call, hcall, hputs⟩⟩ := hop
      · cases op with
        | createUser | updateUser | softDeleteUser => exact hreads.elim
        | _ => cases hauthor
      · have hwrites : CallWrites s.service.lib (.auth call) (.auth op) := ⟨call, rfl, hputs⟩
        obtain ⟨actorID, hactor, hsame⟩ := author_of_callWrites hwrites hauthor
        rw [hsame, haction actorID (Auth.author_of_callOf hcall hactor)]
  | call call =>
      obtain ⟨actorID, hactor, hsame⟩ := author_of_callWrites hop hauthor
      rw [hsame, haction actorID hactor]
  | reject err => exact hop.elim
  | page => exact hop.elim

theorem editsUsers_of_actionWrites (hop : s.ActionWrites readings action op)
    (hedits : op.EditsUsers) :
    action.EditsUsers := by
  cases action with
  | auth request =>
      obtain ⟨op, rfl, hreads | ⟨now, -, call, hcall, hputs⟩⟩ := hop
      · exact absurd hedits (not_editsUsers_of_reads hreads)
      · by_contra hrequest
        exact Auth.not_editsUsers_callOf now hrequest hcall (editsUsers_of_puts hputs hedits)
  | call call => exact editsUsers_of_callWrites hop hedits
  | reject err => exact hop.elim
  | page => exact hop.elim

theorem editsGroups_of_actionWrites (hop : s.ActionWrites readings action op)
    (hedits : op.EditsGroups) :
    action.EditsGroups := by
  cases action with
  | auth request =>
      obtain ⟨op, rfl, -⟩ := hop
      exact hedits.elim
  | call call => exact editsGroups_of_callWrites hop hedits
  | reject err => exact hop.elim
  | page => exact hop.elim

/-- The handlers pass the actor of the request on. -/
theorem inNameOf_action (actor : Uuid) (request : Request) (db : Db) :
    (s.action actor request db).InNameOf actor := by
  have hself : ∀ id ∈ some actor, id = actor := fun id hid => (Option.mem_some_iff.mp hid).symm
  unfold action
  cases request.endpoint with
  | listUserRoles | removeRole | getGroup | listMembers | listUserGroups | getAddress
  | getPreferences | listContacts => exact parsed_elim trivial fun _ => nofun
  | deleteGroup => exact parsed_elim trivial fun _ => hself
  | createGroup => exact bound_elim trivial fun _ _ => hself
  | assignRole | putAddress | putPreferences | createContact =>
      exact parsed_elim trivial fun _ => bound_elim trivial fun _ _ => hself
  | updateGroup =>
      -- A body without a name is rejected, and then nothing is called.
      refine parsed_elim trivial fun id => bound_elim trivial fun req _ => ?_
      rcases @patchedGroup_cases s actor id req with
        ⟨err, hpatched⟩ | ⟨_, _, _, _, -, hpatched⟩
      · rw [hpatched]
        exact trivial
      · rw [hpatched]
        exact hself
  | updateContact =>
      refine parsed_elim trivial fun userID => parsed_elim trivial fun contactID =>
        bound_elim trivial fun req _ => ?_
      rcases @patchedContact_cases s actor userID contactID req with
        ⟨err, hpatched⟩ | ⟨_, -, hpatched⟩
      · rw [hpatched]
        exact trivial
      · rw [hpatched]
        exact hself
  | addMember =>
      exact parsed_elim trivial fun _ => bound_elim trivial fun _ _ =>
        parsed_elim trivial fun _ => hself
  | removeMember => exact parsed_elim trivial fun _ => parsed_elim trivial fun _ => nofun
  | deleteContact => exact parsed_elim trivial fun _ => parsed_elim trivial fun _ => hself
  | searchUsers =>
      dsimp only
      split
      · exact trivial
      · exact nofun
  | register | updateUser | deleteUser => exact hself
  | health | openapi | docs | redoc => exact trivial
  | _ => exact nofun

end Action

/-! ## Requests -/

section Request

variable {readings : Nat → Nat} {request : Request} {op : Op}

/-- Of the calls of the auth module, the directory makes reads. -/
theorem reads_of_common {op : Auth.Op}
    (hop : s.RequestWrites readings request (.directory (.common op))) : op.Reads := by
  rcases hop with hsearches | ⟨passed, db, -, hwrites⟩
  · exact hsearches
  · cases haction : s.action (s.actorID passed) request db with
    | auth made =>
        rw [haction] at hwrites
        obtain ⟨_, hop, -⟩ := hwrites
        exact nomatch hop
    | call call =>
        rw [haction] at hwrites
        exact hwrites
    | reject err =>
        rw [haction] at hwrites
        exact hwrites.elim
    | page =>
        rw [haction] at hwrites
        exact hwrites.elim

/-- The other calls leave the records as they are. -/
theorem edits_of_changes (hop : s.RequestWrites readings request op) {now : Nat} {db : Db}
    {permission : String} (hchanges : Changes db (s.serve now op db).2 permission) :
    op.Edits permission ∨
      ∃ userID passwordHash, op = .auth (.updatePassword userID passwordHash) := by
  cases hchanges with
  | users hchanges =>
      cases op with
      | auth op =>
          cases op with
          | createUser | updateUser | softDeleteUser => exact .inl (.users trivial)
          | updatePassword userID passwordHash => exact .inr ⟨userID, passwordHash, rfl⟩
          | _ => exact absurd rfl hchanges
      | directory op =>
          cases op with
          | assignRole | removeRole => exact .inl (.users trivial)
          | common op =>
              have hreads := reads_of_common hop
              cases op with
              | createUser | updateUser | softDeleteUser | updatePassword => exact hreads.elim
              | _ => exact absurd rfl hchanges
          | _ => exact absurd rfl hchanges
      | profile op =>
          cases op with
          | upsertAddress | upsertPreferences => exact .inl (.users trivial)
          | _ => exact absurd rfl hchanges
      | contacts op =>
          cases op with
          | createContact | updateContact | softDeleteContact => exact .inl (.users trivial)
          | getContact => exact absurd rfl hchanges
      | groups | members | search => exact absurd rfl hchanges
  | groups hchanges =>
      cases op with
      | groups op =>
          cases op with
          | create | update | softDelete => exact .inl (.groups trivial)
          | getByID => exact absurd rfl hchanges
      | members op =>
          cases op with
          | addMember | removeMember => exact .inl (.groups trivial)
          | _ => exact absurd rfl hchanges
      | auth | directory | profile | contacts | search => exact absurd rfl hchanges

theorem not_edits_of_searches (hop : op.Searches) (permission : String) : ¬op.Edits permission := by
  intro hedits
  cases op with
  | directory op =>
      cases hedits with
      | users hedits =>
          cases op with
          | common op => exact hedits.elim
          | assignRole | removeRole => exact hop.elim
          | _ => exact hedits.elim
      | groups hedits => exact hedits.elim
  | search =>
      cases hedits with
      | users hedits => exact hedits.elim
      | groups hedits => exact hedits.elim
  | _ => exact hop.elim

/-- Records are written by bearers of the permission, in their own name. -/
theorem bears_of_edits (hop : s.RequestWrites readings request op) {permission : String}
    (hedits : op.Edits permission) :
    ∃ claims, s.Bears (readings 0) request claims ∧ claims.Permit permission ∧
      ∀ author ∈ op.author, author = actorNull (s.actorID (some (actorOf claims))) := by
  rcases hop with hsearches | ⟨passed, db, hpass, hwrites⟩
  · exact absurd hedits (not_edits_of_searches hsearches permission)
  · -- Of what a handler writes, the route asks for the permission: so the middleware has seen it.
    have hguard : request.endpoint.guard = .requirePermission permission := by
      cases hedits with
      | users hedits => exact guard_of_editsUsers (editsUsers_of_actionWrites hwrites hedits)
      | groups hedits => exact guard_of_editsGroups (editsGroups_of_actionWrites hwrites hedits)
    obtain ⟨claims, hbears, hpermit, rfl⟩ := (pass_permission_iff hguard).mp hpass
    exact ⟨claims, hbears, hpermit,
      author_of_actionWrites hwrites (inNameOf_action (s.actorID _) request db)⟩

/-- The body of the request names the user, with a token of his mail and the password of this
hash. -/
def AsksReset (s : Server) (request : Request) (userID : Uuid) (passwordHash : Auth.Text) : Prop :=
  request.endpoint = .resetPassword ∧ ∃ req, request.body.bind bindPasswordReset = some req ∧
    s.service.lib.uuidParse req.userID = some userID ∧
    Auth.hashPassword s.service.lib request.draws.salt req.password = .ok passwordHash

/-- A password is written by the request that brings it. -/
theorem asksReset_of_updatePassword {userID : Uuid} {passwordHash : Auth.Text}
    (hop : s.RequestWrites readings request (.auth (.updatePassword userID passwordHash))) :
    s.AsksReset request userID passwordHash := by
  rcases hop with hsearches | ⟨passed, db, -, hwrites⟩
  · exact hsearches.elim
  · cases haction : s.action (s.actorID passed) request db with
    | auth made =>
        rw [haction] at hwrites
        obtain ⟨op, hop, hreads | ⟨now, -, call, hcall, hputs⟩⟩ := hwrites
        · cases hop
          exact hreads.elim
        · cases hop
          obtain ⟨salt, token, newPassword, rfl, hhash⟩ := hputs
          obtain ⟨req, rfl, hid, rfl, rfl⟩ := Auth.resetPassword_of_callOf hcall
          obtain ⟨hendpoint, rfl, hbody⟩ := resetPassword_of_action haction
          exact ⟨hendpoint, req, hbody.symm, hid, hhash⟩
    | call call =>
        rw [haction] at hwrites
        obtain ⟨made, rfl, -⟩ := hwrites
        exact nomatch endpoint_of_call haction
    | reject err =>
        rw [haction] at hwrites
        exact hwrites.elim
    | page =>
        rw [haction] at hwrites
        exact hwrites.elim

/-- What a call of an action says of the user whose factors it writes. -/
theorem factorUser_of_puts {call : Auth.ServiceCall} {lib : Auth.External} {op : Auth.Op} {u : Uuid}
    (hop : call.Puts lib op) :
    ((Op.auth op).WritesTotp u → call.factorUser = some u) ∧
      ((Op.auth op).WritesEmail2FA u → call.factorUser = some u ∨
        ∃ draw email password, call = .login draw email password) := by
  constructor
  · intro hwrites
    cases op with
    | upsertTOTPSecret userID params | deleteTOTPSecret userID =>
        obtain rfl := hwrites
        have htouches : call.TouchesTotp userID := hop
        cases call with
        | setup2FA | confirm2FA | verify2FA | consumeRecoveryCode | disable2FA =>
            exact congrArg some htouches.symm
        | _ => exact htouches.elim
    | _ => exact hwrites.elim
  · intro hwrites
    cases op with
    | metaSet userID key value | metaDelete userID key =>
        obtain ⟨rfl, hemail⟩ := hwrites
        have htouches : call.TouchesEmail2FA userID := by
          rcases hop with ⟨htouches, -⟩ | ⟨-, hreset⟩
          · exact htouches
          · -- The keys of a password reset are in the same table, but are others.
            exact absurd hreset (Auth.not_isReset_of_isEmail2FA hemail)
        cases call with
        | login draw email password => exact .inr ⟨draw, email, password, rfl⟩
        | setupEmail2FA | confirmEmail2FA | sendEmail2FALoginOTP | verifyEmail2FALogin
        | disableEmail2FA => exact .inl (congrArg some htouches.symm)
        | _ => exact htouches.elim
    | _ => exact hwrites.elim

/-- The request can act on the second factors of the user: it bears an access token of his that is
valid at its first reading of the clock, or has a pending one in its body, valid at a reading before
the first call. -/
def ReachesFactors (s : Server) (readings : Nat → Nat) (request : Request) (u : Uuid) : Prop :=
  (∃ claims, s.Bears (readings 0) request claims ∧ s.actorID (some (actorOf claims)) = u) ∨
    ∃ index token, request.body.bind (bindTempToken s.readToken) = some token ∧
      s.service.PendingTokenFor (readings index) u token

theorem reachesFactors_of_call {passed : Option Auth.Actor} {db : Db} {u : Uuid}
    (hpass : s.pass (readings 0) request emptyDb = .ok passed) {made : Auth.Request s.Token}
    (haction : s.action (s.actorID passed) request db = .auth made) {now : Nat}
    (hnow : IsReading readings now) {call : Auth.ServiceCall}
    (hcall : s.service.callOf now made = some call) (huser : call.factorUser = some u) :
    s.ReachesFactors readings request u := by
  -- The service is told who the user is by the middleware, or by the pending token of a login.
  rcases Auth.source_of_factorUser hcall huser with hown | ⟨token, htoken, hpending⟩
  · obtain ⟨hactor, hguard⟩ := ownFactor_of_action haction hown
    obtain ⟨claims, hbears, rfl⟩ := (pass_requireAuth_iff hguard).mp hpass
    exact .inl ⟨claims, hbears, hactor.symm⟩
  · obtain ⟨index, rfl⟩ := hnow
    exact .inr ⟨index, token, tempToken_of_action haction htoken, hpending⟩

theorem factors_of_requestWrites (hop : s.RequestWrites readings request op) (u : Uuid) :
    (op.WritesTotp u → s.ReachesFactors readings request u) ∧
      (op.WritesEmail2FA u → s.ReachesFactors readings request u ∨ request.endpoint = .login) := by
  rcases hop with hsearches | ⟨passed, db, hpass, hwrites⟩
  · cases op with
    | directory | search => exact ⟨False.elim, False.elim⟩
    | _ => exact hsearches.elim
  · cases haction : s.action (s.actorID passed) request db with
    | auth made =>
        rw [haction] at hwrites
        obtain ⟨op, rfl, hreads | ⟨now, hnow, call, hcall, hputs⟩⟩ := hwrites
        · cases op with
          | upsertTOTPSecret | deleteTOTPSecret | metaSet | metaDelete => exact hreads.elim
          | _ => exact ⟨False.elim, False.elim⟩
        · obtain ⟨htotp, hemail⟩ := factorUser_of_puts (u := u) hputs
          refine ⟨fun hop => reachesFactors_of_call hpass haction hnow hcall (htotp hop),
            fun hop => ?_⟩
          rcases hemail hop with huser | ⟨draw, email, password, rfl⟩
          · exact .inl (reachesFactors_of_call hpass haction hnow hcall huser)
          · -- A login bears no token: the user is found by the address in its body.
            obtain ⟨req, rfl, -⟩ := Auth.login_of_callOf hcall
            exact .inr (endpoint_of_auth haction).symm
    | call call =>
        rw [haction] at hwrites
        cases op with
        | auth op =>
            obtain ⟨made, rfl, -⟩ := hwrites
            exact nomatch endpoint_of_call haction
        | _ => exact ⟨False.elim, False.elim⟩
    | reject err =>
        rw [haction] at hwrites
        exact hwrites.elim
    | page =>
        rw [haction] at hwrites
        exact hwrites.elim

end Request

/-! ## At the same time -/

section Concurrent

variable {Thread : Type} [DecidableEq Thread] {request : Thread → Request}
  {readings : Thread → Nat → Nat} {start : Db} {last : s.Requests Thread}

theorem requestWrites_of_mem_trace (hreach : s.Interleaves (s.launch request readings start) last) :
    ∀ event ∈ last.trace, s.RequestWrites (readings event.thread) (request event.thread) event.op :=
  hreach.mem_trace rfl fun thread => s.uses_request (request thread) (readings thread)

/-- Whatever requests are processed at the same time, and in whatever order their calls reach
the database: a call that writes records of users or of groups is made by a request whose own
token, valid when the request came in, has the permission, and the author it puts into the row
is the user of this token. A call that writes the password of a user is made by a reset whose body
names this user and brings the password. No other call changes a record, whenever it is made. -/
theorem write_authorized (hreach : s.Interleaves (s.launch request readings start) last)
    {event : Event Thread Nat Op Op.Resp} (hevent : event ∈ last.trace) :
    (∀ permission, event.op.Edits permission →
      ∃ claims, s.Bears (readings event.thread 0) (request event.thread) claims ∧
        claims.Permit permission ∧
        ∀ author ∈ event.op.author, author = actorNull (s.actorID (some (actorOf claims)))) ∧
    (∀ userID passwordHash, event.op = .auth (.updatePassword userID passwordHash) →
      s.AsksReset (request event.thread) userID passwordHash) ∧
    ∀ now db permission, Changes db (s.serve now event.op db).2 permission →
      event.op.Edits permission ∨
        ∃ userID passwordHash, event.op = .auth (.updatePassword userID passwordHash) := by
  have hwrites := requestWrites_of_mem_trace hreach event hevent
  refine ⟨fun permission hedits => bears_of_edits hwrites hedits, ?_, fun now db permission => ?_⟩
  · intro userID passwordHash hop
    rw [hop] at hwrites
    exact asksReset_of_updatePassword hwrites
  · exact edits_of_changes hwrites

/-- A call that writes the TOTP row of a user is made by a request that bears an access token of
this user, valid when the request came in, or has a pending one in its body, valid when it was
looked at. This holds of the keys of his email codes too, unless the request is a login. -/
theorem factor_write_authorized (hreach : s.Interleaves (s.launch request readings start) last)
    {event : Event Thread Nat Op Op.Resp} (hevent : event ∈ last.trace) (u : Uuid) :
    (event.op.WritesTotp u →
      s.ReachesFactors (readings event.thread) (request event.thread) u) ∧
    (event.op.WritesEmail2FA u →
      s.ReachesFactors (readings event.thread) (request event.thread) u ∨
        (request event.thread).endpoint = .login) :=
  factors_of_requestWrites (requestWrites_of_mem_trace hreach event hevent) u

end Concurrent

end Server

namespace Sample

theorem interleaves_both : server.Interleaves bothLaunched bothDone :=
  interleaves_bothLooked.trans interleaves_bothDone

/-- Bob is made an administrator, after he has been deleted. -/
def bothAssigned : Event Bool Nat Op Op.Resp :=
  ⟨false, appointAt, .directory (.assignRole bob.id "admin" (some alice.id)), .ok ()⟩

theorem mem_trace_both : bothAssigned ∈ bothDone.trace :=
  List.mem_of_getElem? (show bothDone.trace[1]? = some bothAssigned from rfl)

theorem authorized_both :
    ∃ claims, server.Bears appointAt appointRequest claims ∧ claims.Permit "users.write" ∧
      ∀ author ∈ some (some alice.id),
        author = actorNull (server.actorID (some (Server.actorOf claims))) :=
  (Server.write_authorized interleaves_both mem_trace_both).1 "users.write" (.users trivial)

/-- Alice starts the set-up of TOTP while Bob is made an administrator. -/
def factorRequests (sets : Bool) : Request := if sets then setupRequest else appointRequest

def factorLaunched : server.Requests Bool :=
  server.launch factorRequests (fun _ _ => appointAt) db

def factorDone : server.Requests Bool :=
  factorLaunched.schedule server.serve
    [(true, appointAt), (false, appointAt), (true, appointAt), (true, appointAt)]

theorem interleaves_factorDone : server.Interleaves factorLaunched factorDone :=
  Pool.Reaches.schedule .refl (fun _ _ _ => trivial) _

/-- The row of TOTP is written. -/
def factorStored : Event Bool Nat Op Op.Resp :=
  factorDone.trace.head (List.cons_ne_nil _ _)

theorem factors_stored :
    factorStored.op.WritesTotp alice.id ∧
    (factorStored.op.WritesTotp alice.id →
      server.ReachesFactors (fun _ => appointAt) setupRequest alice.id) ∧
    (factorStored.op.WritesEmail2FA alice.id →
      server.ReachesFactors (fun _ => appointAt) setupRequest alice.id ∨
        setupRequest.endpoint = .login) :=
  ⟨rfl, Server.factor_write_authorized interleaves_factorDone (List.head_mem _) alice.id⟩

end Sample

end Skolva.Http
