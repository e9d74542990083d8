import Skolva.Auth.Credentials

/-! # Accounts

The user methods of `service.go`, and their responses from `dto.go`.
-/

namespace Skolva.Auth

open Effect

/-- The service with its token manager; the repository and the mailer are the
calls of a program, the cipher is external. -/
structure Service where
  lib : External
  tm : TokenManager

structure UserResponse where
  id : Uuid
  email : String
  firstName : String
  lastName : String
  isActive : Bool
  isProtected : Bool
  createdAt : Nat
  updatedAt : Nat
  deriving DecidableEq

/-- `userFrom`, which every query's row goes through. -/
def userFrom (row : UserRow) : UserResponse where
  id := row.id
  email := row.email
  firstName := row.firstName
  lastName := row.lastName
  isActive := row.isActive
  isProtected := row.isProtected
  createdAt := row.createdAt
  updatedAt := row.updatedAt

/-- `uuid.NullUUID{UUID: id, Valid: id != uuid.Nil}`. -/
def actorNull (id : Uuid) : Option Uuid := if id = Uuid.nil then none else some id

namespace Service

variable (s : Service)

/-- The database draws the identifier of the new row. -/
def register (id : Uuid) (salt : Nat) (actorID : Uuid) (email : String) (password : Bytes)
    (firstName lastName : String) : Prog (Except Err UserResponse) := do
  match ← userExistsByEmail email with
  | .error cause => return .error (.call cause)
  | .ok true => return .error (.conflict "a user with this email already exists")
  | .ok false =>
      match hashPassword s.lib salt password with
      | .error .passwordEmpty => return .error (.validation "password must not be empty")
      | .error .passwordTooLong => return .error (.validation "password must not exceed 72 bytes")
      -- `bcrypt` takes every key of at most 72 bytes, so its own message does not matter.
      | .error _ => return .error (.validation "")
      | .ok hash =>
          match ← createUser id email hash firstName lastName (actorNull actorID) with
          | .error cause => return .error (.call cause)
          | .ok row => return .ok (userFrom row)

def getUser (id : Uuid) : Prog (Except Err UserResponse) := do
  match ← getUserByID id with
  | .error cause => return .error (.notFoundOr "user" cause)
  | .ok row => return .ok (userFrom row)

def updateUser (actorID id : Uuid) (firstName lastName : String) (isActive : Option Bool) :
    Prog (Except Err UserResponse) := do
  match ← getUserByID id with
  | .error cause => return .error (.notFoundOr "user" cause)
  | .ok current =>
      let active := isActive.getD current.isActive
      match ← updateUserRow id firstName lastName active (actorNull actorID) with
      | .error cause => return .error (.call cause)
      | .ok row => return .ok (userFrom row)

def deleteUser (actorID id : Uuid) : Prog (Except Err Unit) := do
  match ← getUserByID id with
  | .error cause => return .error (.notFoundOr "user" cause)
  | .ok _ =>
      match ← softDeleteUser id (actorNull actorID) with
      | .error cause => return .error (.call cause)
      | .ok _ => return .ok ()

/-! ## The calls they make -/

section Uses

variable {allowed : Op → Prop} {userID : Uuid}

theorem uses_getUser (hget : allowed (.getUserByID userID)) : (getUser userID).Uses allowed := by
  refine Program.uses_bind (Program.uses_perform hget) fun row => ?_
  cases row <;> exact Program.uses_pure _

theorem uses_register {id : Uuid} (salt : Nat) (actorID : Uuid) {email : String} (password : Bytes)
    {firstName lastName : String} (hexists : allowed (.userExistsByEmail email))
    (hcreate : ∀ hash, hashPassword s.lib salt password = .ok hash →
      allowed (.createUser id email hash firstName lastName (actorNull actorID))) :
    (s.register id salt actorID email password firstName lastName).Uses allowed := by
  refine Program.uses_bind (Program.uses_perform hexists) fun found => ?_
  split
  · exact Program.uses_pure _
  · exact Program.uses_pure _
  · split
    · exact Program.uses_pure _
    · exact Program.uses_pure _
    · exact Program.uses_pure _
    next hash hhash =>
      refine Program.uses_bind (Program.uses_perform (hcreate hash hhash)) fun row => ?_
      cases row <;> exact Program.uses_pure _

theorem uses_updateUser (actorID : Uuid) {firstName lastName : String} (isActive : Option Bool)
    (hget : allowed (.getUserByID userID))
    (hupdate : ∀ active,
      allowed (.updateUser userID firstName lastName active (actorNull actorID))) :
    (updateUser actorID userID firstName lastName isActive).Uses allowed := by
  refine Program.uses_bind (Program.uses_perform hget) fun current => ?_
  split
  · exact Program.uses_pure _
  · refine Program.uses_bind (Program.uses_perform (hupdate _)) fun row => ?_
    cases row <;> exact Program.uses_pure _

theorem uses_deleteUser (actorID : Uuid) (hget : allowed (.getUserByID userID))
    (hdelete : allowed (.softDeleteUser userID (actorNull actorID))) :
    (deleteUser actorID userID).Uses allowed := by
  refine Program.uses_bind (Program.uses_perform hget) fun current => ?_
  split
  · exact Program.uses_pure _
  · refine Program.uses_bind (Program.uses_perform hdelete) fun resp => ?_
    cases resp <;> exact Program.uses_pure _

end Uses

/-- `GetUser` reads the live row and writes nothing. -/
theorem run_getUser (lib : External) (now : Nat) (db : Db) (id : Uuid) :
    (getUser id).run (serve lib) now db =
      (match db.liveUser id with
        | none => .error (.notFound "user")
        | some user => .ok (userFrom user.row), db) := by
  unfold getUser
  rw [Program.run_bind, Program.run_perform]
  cases huser : db.liveUser id with
  | none => simp [serve, huser, one, Err.notFoundOr]
  | some user => simp [serve, huser, one]

/-- `UpdateUser` rejects a user who is deleted or unknown. -/
theorem run_updateUser_of_none (lib : External) (now : Nat) {db : Db} (actorID : Uuid) {id : Uuid}
    (firstName lastName : String) (isActive : Option Bool) (hnone : db.liveUser id = none) :
    (updateUser actorID id firstName lastName isActive).run (serve lib) now db =
      (.error (.notFound "user"), db) := by
  unfold updateUser
  rw [Program.run_bind, Program.run_perform]
  simp [serve, hnone, one, Err.notFoundOr]

/-- An update that succeeds has changed the live row, and written its flag back if the request
has none. -/
theorem updateUser_ok {lib : External} {now : Nat} {db after : Db} {actorID id : Uuid}
    {firstName lastName : String} {isActive : Option Bool} {response : UserResponse}
    (hrun : (updateUser actorID id firstName lastName isActive).run (serve lib) now db =
      (.ok response, after)) :
    ∃ user, db.liveUser id = some user ∧
      after.liveUser id = some (User.touch { user with
        firstName := firstName
        lastName := lastName
        isActive := isActive.getD user.isActive
        updatedBy := actorNull actorID } now) := by
  cases huser : db.liveUser id with
  | none =>
      rw [run_updateUser_of_none lib now actorID firstName lastName isActive huser] at hrun
      cases hrun
  | some user =>
      let change := fun row : User => { row with
        firstName := firstName
        lastName := lastName
        isActive := isActive.getD user.isActive
        updatedBy := actorNull actorID }
      have hafter : (db.updateLiveUser now id change).liveUser id =
          some ((change user).touch now) := by
        rw [Db.liveUser_updateLiveUser db now id change (fun _ => rfl) fun _ => rfl, huser]
        rfl
      have hstate : (db.updateLiveUser now id change) = after := by
        unfold updateUser at hrun
        simp only [Program.run_bind, Program.run_perform, serve, huser, Option.map_some, one]
          at hrun
        change Program.run (serve lib) now _ (db.updateLiveUser now id change) = _ at hrun
        simp only [User.row] at hrun
        rw [hafter] at hrun
        exact (Prod.mk.inj hrun).2
      exact ⟨user, rfl, hstate ▸ hafter⟩

theorem run_deleteUser (lib : External) (now : Nat) (db : Db) (actorID id : Uuid) :
    (deleteUser actorID id).run (serve lib) now db =
      match db.liveUser id with
      | none => (.error (.notFound "user"), db)
      | some _ => (.ok (), db.updateLiveUser now id fun user =>
          { user with deletedAt := some now, updatedBy := actorNull actorID }) := by
  unfold deleteUser
  rw [Program.run_bind, Program.run_perform]
  cases huser : db.liveUser id with
  | none => simp [serve, huser, one, Err.notFoundOr]
  | some user => simp [serve, huser, one]

end Service

end Skolva.Auth
