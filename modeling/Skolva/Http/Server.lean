import Skolva.Api.Paging
import Skolva.Auth.TokenKinds
import Skolva.Effect.Credentials
import Skolva.Http.Requests

/-! # The server

`Authenticate` makes an actor of the token of a request, the guard of the route looks at the
actor, and the handler calls the service.
-/

namespace Skolva.Http

open Effect
open Auth (bytesOf Actor Claims newVerifier)
open Api (Db)

/-- The services, with what they take from elsewhere. -/
structure Server where
  service : Auth.Service
  /-- The token that a text is the serialization of. -/
  readToken : String → service.lib.Token
  /-- The validation `email` of a field -/
  isEmail : String → Bool
  /-- What the searcher finds for a text, up to a limit. -/
  search : Db → String → Int → Except Auth.CallError (List Uuid)
  /-- Whether `Authenticate` lets a request pass without an actor if it has a token that
  cannot be verified. -/
  passesUnverified : Bool

/-- How the middleware refuses a request. -/
inductive Refusal where
  | unauthorized
  | forbidden
  deriving DecidableEq

inductive Response (Token : Type) where
  | refused (refusal : Refusal)
  | auth (reply : Auth.Reply Token)
  | api (reply : Api.Reply Token)
  /-- The state of the pools, the specification or the documentation. -/
  | page

/-! ## Middleware -/

/-- `RequireAuth` and `RequirePermission` of skolva-core. `docs/rbac.md` (97-117) draws the
decision: the actor that `Authenticate` has set is asked for the permission, and the request is
passed on or answered with 403. -/
def Guard.check (actor : Option Actor) : Guard → Except Refusal Unit
  | .everyone => .ok ()
  | .requireAuth =>
      match actor with
      | none => .error .unauthorized
      | some _ => .ok ()
  | .requirePermission permission =>
      match actor with
      | none => .error .unauthorized
      | some actor =>
          if actor.hasPermission permission then .ok () else .error .forbidden

/-! ## Actions -/

/-- What a handler does with a request. -/
inductive Action (Token : Type) where
  | auth (request : Auth.Request Token)
  | call (call : Api.Call)
  | reject (err : Api.Err)
  | page

/-- The identifier in the path, and what is done with it. -/
def Action.parsed {Token : Type} (id : Option Uuid) (invalid : Api.Err)
    (next : Uuid → Action Token) : Action Token :=
  match id with
  | none => .reject invalid
  | some id => next id

/-- The body, and what is done with it. -/
def Action.bound {Token α : Type} (body : Option α) (invalid : Api.Err)
    (next : α → Action Token) : Action Token :=
  match body with
  | none => .reject invalid
  | some value => next value

namespace Server

variable (s : Server)

abbrev Token := s.service.lib.Token

/-- `actorID`. -/
def actorID (actor : Option Actor) : Uuid :=
  match actor with
  | none => Uuid.nil
  | some actor => (s.service.lib.uuidParse actor.userID).getD Uuid.nil

section Handlers

variable (actor : Uuid) (request : Request)

def param (name : String) : Option Uuid := s.service.lib.uuidParse (request.param name)

/-- Limit and offset. -/
def pagination : Int × Int := Api.pagination fun name => bytesOf (request.query name)

/-- The handlers of `PATCH` in the groups and the crm module, after they have read the path. -/
def patched {Token : Type} (patch : Api.Patch) : Action Token :=
  match patch.bind with
  | .error err => .reject err
  | .ok call => .call call

def userErr (message : String) : Api.Err := .auth (.validation message)

def groupErr (message : String) : Api.Err := .groups (.validation message)

def crmErr (message : String) : Api.Err := .crm (.validation message)

/-- The handlers of the three modules. -/
def action (db : Db) : Action s.Token :=
  let draws := request.draws
  let body := request.body
  match request.endpoint with
  | .health | .openapi | .docs | .redoc => .page
  | .login => .auth (.login draws.login (body.bind bindLogin))
  | .register => .auth (.register draws.id draws.salt actor (body.bind (bindRegister s.isEmail)))
  | .setup2FA => .auth (.setup2FA draws.setup actor)
  | .confirm2FA => .auth (.confirm2FA actor (body.bind bindCode))
  | .verify2FA => .auth (.verify2FA draws.jti (body.bind (bindVerify2FA s.readToken)))
  | .recover2FA => .auth (.recover2FA draws.jti (body.bind (bindVerify2FA s.readToken)))
  | .disable2FA => .auth (.disable2FA actor (body.bind bindCode))
  | .setupEmail2FA => .auth (.setupEmail2FA draws.otp actor)
  | .confirmEmail2FA => .auth (.confirmEmail2FA actor (body.bind bindCode))
  | .verifyEmail2FA => .auth (.verifyEmail2FA draws.jti (body.bind (bindVerify2FA s.readToken)))
  | .resendEmail2FA => .auth (.resendEmail2FA draws.otp (body.bind (bindTempToken s.readToken)))
  | .disableEmail2FA => .auth (.disableEmail2FA actor)
  | .forgotPassword => .auth (.forgotPassword draws.reset (body.bind (bindPasswordForgot s.isEmail)))
  | .resetPassword => .auth (.resetPassword draws.salt (body.bind bindPasswordReset))
  | .getUser => .auth (.getUser (request.param "id"))
  | .updateUser => .auth (.updateUser actor (request.param "id") (body.bind bindUpdateUser))
  | .deleteUser => .auth (.deleteUser actor (request.param "id"))
  | .listUsers =>
      let (limit, offset) := pagination request
      .call (.listUsers limit.toNat offset.toNat)
  | .listUserRoles =>
      .parsed (s.param request "id") (userErr "invalid user id") fun userID =>
        .call (.listUserRoles userID)
  | .assignRole =>
      .parsed (s.param request "id") (userErr "invalid user id") fun userID =>
        .bound (body.bind bindAssignRole) (userErr "role_slug is required") fun roleSlug =>
          .call (.assignRole actor userID roleSlug)
  | .removeRole =>
      .parsed (s.param request "id") (userErr "invalid user id") fun userID =>
        .call (.removeRole userID (request.param "slug"))
  | .searchUsers =>
      let (limit, _) := pagination request
      match s.search db (request.query "q") limit with
      | .error cause => .reject (.auth (.call cause))
      | .ok hits => .call (.searchUsers hits)
  | .listGroups =>
      let (limit, offset) := pagination request
      .call (.listGroups (request.query "group_type") limit.toNat offset.toNat)
  | .createGroup =>
      .bound (body.bind bindCreateGroup) (groupErr "name is required") fun req =>
        .call (.createGroup draws.id actor req.name req.description req.groupType)
  | .getGroup =>
      .parsed (s.param request "id") (groupErr "invalid group id") fun id => .call (.getGroup id)
  | .updateGroup =>
      .parsed (s.param request "id") (groupErr "invalid group id") fun id =>
        .bound (body.bind bindUpdateGroup) (groupErr "name and group_type are required") fun req =>
          patched (.group actor id req)
  | .deleteGroup =>
      .parsed (s.param request "id") (groupErr "invalid group id") fun id =>
        .call (.deleteGroup actor id)
  | .listMembers =>
      .parsed (s.param request "id") (groupErr "invalid group id") fun groupID =>
        .call (.listMembers groupID)
  | .addMember =>
      .parsed (s.param request "id") (groupErr "invalid group id") fun groupID =>
        .bound (body.bind bindAddMember) (groupErr "user_id is required") fun req =>
          .parsed (s.service.lib.uuidParse req.userID) (groupErr "invalid user_id") fun userID =>
            .call (.addMember actor groupID userID req.roleInGroup)
  | .removeMember =>
      .parsed (s.param request "id") (groupErr "invalid group id") fun groupID =>
        .parsed (s.param request "user_id") (groupErr "invalid user id") fun userID =>
          .call (.removeMember groupID userID)
  | .listUserGroups =>
      .parsed (s.param request "id") (groupErr "invalid user id") fun userID =>
        .call (.listUserGroups userID)
  | .getAddress =>
      .parsed (s.param request "id") (crmErr "invalid user id") fun userID =>
        .call (.getAddress userID)
  | .putAddress =>
      .parsed (s.param request "id") (crmErr "invalid user id") fun userID =>
        .bound (body.bind bindAddress)
          (crmErr "street1, postal_code, city and country_code are required") fun req =>
            .call (.upsertAddress actor userID req)
  | .getPreferences =>
      .parsed (s.param request "id") (crmErr "invalid user id") fun userID =>
        .call (.getPreferences userID)
  | .putPreferences =>
      .parsed (s.param request "id") (crmErr "invalid user id") fun userID =>
        .bound (body.bind bindPreferences) (crmErr "invalid request body") fun req =>
          .call (.upsertPreferences actor userID req)
  | .listContacts =>
      .parsed (s.param request "id") (crmErr "invalid user id") fun userID =>
        .call (.listContacts userID)
  | .createContact =>
      .parsed (s.param request "id") (crmErr "invalid user id") fun userID =>
        .bound (body.bind bindCreateContact) (crmErr "contact_type and value are required")
          fun req => .call (.createContact draws.id actor userID req)
  | .updateContact =>
      .parsed (s.param request "id") (crmErr "invalid user id") fun userID =>
        .parsed (s.param request "cid") (crmErr "invalid contact id") fun contactID =>
          .bound (body.bind bindUpdateContact) (crmErr "value is required") fun req =>
            patched (.contact actor userID contactID req)
  | .deleteContact =>
      .parsed (s.param request "id") (crmErr "invalid user id") fun userID =>
        .parsed (s.param request "cid") (crmErr "invalid contact id") fun contactID =>
          .call (.deleteContact actor userID contactID)

end Handlers

/-! ## Processing -/

section Process

variable (now : Nat) (request : Request) (db : Db)

/-- `NewVerifier`, for the text of a token. -/
def verify (text : String) : Except Auth.Err Actor :=
  ((newVerifier s.service.lib s.service.tm (s.readToken text)).run (Auth.serve s.service.lib) now
    db.auth).1

/-- `Authenticate` of skolva-core, as `docs/rbac.md` (97-104) draws it: the token is verified, and
its actor is set. What becomes of a token that is refused is not said there, so it is the field
`passesUnverified` of the server. -/
def authenticate : Except Refusal (Option Actor) :=
  match request.bearer with
  | none => .ok none
  | some text =>
      match s.verify now db text with
      | .ok actor => .ok (some actor)
      | .error _ => if s.passesUnverified then .ok none else .error .unauthorized

def perform (action : Action s.Token) : Response s.Token × Db :=
  match action with
  | .auth request =>
      let (reply, after) := Auth.Handler.process s.service now request db.auth
      (.auth reply, { db with auth := after })
  | .call call =>
      let (reply, after) := Api.process s.service now call db
      (.api reply, after)
  | .reject err => (.api (.error err), db)
  | .page => (.page, db)

/-- The actor of a request that gets past the middleware of its route. -/
def pass : Except Refusal (Option Actor) :=
  match s.authenticate now request db with
  | .error refusal => .error refusal
  | .ok actor =>
      match request.endpoint.guard.check actor with
      | .error refusal => .error refusal
      | .ok () => .ok actor

def process : Response s.Token × Db :=
  match s.pass now request db with
  | .error refusal => (.refused refusal, db)
  | .ok actor => s.perform now db (s.action (s.actorID actor) request db)

end Process

end Server

/-! ## Runs -/

def Response.tokens {Token : Type} : Response Token → List Token
  | .auth reply => reply.tokens
  | _ => []

namespace Server

variable (s : Server)

/-- The tokens in the header and in the body of a request. -/
def presented (request : Request) : List s.Token :=
  (request.bearer.map s.readToken).toList ++
    (request.body.bind (bindTempToken s.readToken)).toList

/-- Signatures cannot be forged: what counts of a token with a valid one are its claims. -/
def credentials : Credentials Request (Response s.Token) Claims where
  presents request claims :=
    ∃ token ∈ s.presented request,
      s.service.lib.jwtParse s.service.tm.secret token = some claims
  issues response claims :=
    ∃ token ∈ response.tokens, s.service.lib.jwtParse s.service.tm.secret token = some claims

abbrev Entry := Effect.Entry Request (Response s.Token) Db

/-- Runs of requests under a clock that does not go back, without forged tokens. -/
abbrev Run (start : Db) : List s.Entry → Db → Prop := s.credentials.Run s.process start

end Server

end Skolva.Http
