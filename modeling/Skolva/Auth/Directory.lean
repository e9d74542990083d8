import Skolva.Auth.Users

/-! # Roles of users, and lists of users

The role methods of `service.go`, `ListUsers` and `SearchUsers`.
-/

namespace Skolva.Auth

open Effect

/-! ## The repository -/

/-- A query that these methods make. -/
inductive DirectoryOp where
  | common (op : Op)
  | getRole (slug : String)
  | assignRole (userID : Uuid) (roleSlug : String) (assignedBy : Option Uuid)
  | removeRole (userID : Uuid) (roleSlug : String)
  | listUsers (limit offset : Nat)
  | getUsersByIDs (ids : List Uuid)

abbrev DirectoryOp.Resp : DirectoryOp → Type
  | .common op => op.Resp
  | .getRole _ => Except CallError Role
  | .assignRole .. | .removeRole .. => Except CallError Unit
  | .listUsers .. | .getUsersByIDs _ => Except CallError (List UserResponse)

abbrev DirectoryProg := Program Nat DirectoryOp DirectoryOp.Resp

namespace Db

variable (db : Db)

/-- The row that `GetRole` selects. -/
def liveRole (slug : String) : Option Role :=
  db.roles.find? fun role => role.slug = slug ∧ role.deletedAt = none

/-- The foreign keys of a row of `user_roles`. -/
def RoleReferencesKnown (userID : Uuid) (roleSlug : String) (assignedBy : Option Uuid) : Prop :=
  userID ∈ db.users.map User.id ∧ roleSlug ∈ db.roles.map Role.slug ∧
    ∀ user ∈ assignedBy, user ∈ db.users.map User.id

instance (userID : Uuid) (roleSlug : String) (assignedBy : Option Uuid) :
    Decidable (db.RoleReferencesKnown userID roleSlug assignedBy) :=
  inferInstanceAs (Decidable (_ ∧ _ ∧ _))

/-- The query `AssignRole`. -/
def assignRole (userID : Uuid) (roleSlug : String) (assignedBy : Option Uuid) :
    Except CallError Unit × Db :=
  if ∃ held ∈ db.userRoles, held = (userID, roleSlug) then (.ok (), db)
  else if db.RoleReferencesKnown userID roleSlug assignedBy then
    (.ok (), { db with userRoles := db.userRoles ++ [(userID, roleSlug)] })
  else (.error .constraint, db)

/-- The query `RemoveRole`. -/
def removeRole (userID : Uuid) (roleSlug : String) : Db :=
  { db with userRoles := db.userRoles.filter fun held => held ≠ (userID, roleSlug) }

/-- `ORDER BY last_name, first_name, id`, in the order of code points. -/
def userOrder (one other : User) : Bool :=
  one.lastName < other.lastName || one.lastName = other.lastName &&
    (one.firstName < other.firstName || one.firstName = other.firstName && one.id ≤ other.id)

/-- The query `ListUsers`. Its columns are those of the response. -/
def listUsers (limit offset : Nat) : List UserResponse :=
  let live := db.users.filter fun user => user.deletedAt = none
  (((live.mergeSort userOrder).drop offset).take limit).map fun user => userFrom user.row

/-- The query `GetUsersByIDs`. -/
def getUsersByIDs (ids : List Uuid) : List UserResponse :=
  (db.users.filter fun user => user.id ∈ ids ∧ user.deletedAt = none).map
    fun user => userFrom user.row

end Db

def serveDirectory (lib : External) (now : Nat) : (op : DirectoryOp) → Db → op.Resp × Db
  | .common op, db => serve lib now op db
  | .getRole slug, db => (one (db.liveRole slug), db)
  | .assignRole userID roleSlug assignedBy, db => db.assignRole userID roleSlug assignedBy
  | .removeRole userID roleSlug, db => (.ok (), db.removeRole userID roleSlug)
  | .listUsers limit offset, db => (.ok (db.listUsers limit offset), db)
  | .getUsersByIDs ids, db => (.ok (db.getUsersByIDs ids), db)

/-- `Repository.SearchUsers`, from the identifiers that the searcher has found. -/
def searchUserRows (hits : List Uuid) : DirectoryProg (Except CallError (List UserResponse)) := do
  if hits = [] then
    return .ok []
  else
    match ← Program.perform (DirectoryOp.getUsersByIDs hits) with
    | .error cause => return .error cause
    | .ok rows =>
        -- Of two rows with one identifier the later one is kept.
        let byID := fun id => rows.reverse.find? fun row => row.id = id
        return .ok (hits.filterMap byID)

/-! ## The service -/

namespace Directory

def ensureUser (userID : Uuid) : DirectoryProg (Except Err Unit) := do
  match ← Program.perform (DirectoryOp.common (.getUserByID userID)) with
  | .error cause => return .error (.notFoundOr "user" cause)
  | .ok _ => return .ok ()

def userRoles (userID : Uuid) : DirectoryProg (Except Err (List Role)) := do
  match ← Program.perform (DirectoryOp.common (.listUserRoles userID)) with
  | .error cause => return .error (.call cause)
  | .ok roles => return .ok roles

def assignRole (actorID userID : Uuid) (roleSlug : String) :
    DirectoryProg (Except Err (List Role)) := do
  match ← ensureUser userID with
  | .error err => return .error err
  | .ok () =>
      match ← Program.perform (DirectoryOp.getRole roleSlug) with
      | .error cause => return .error (.notFoundOr "role" cause)
      | .ok _ =>
          match ← Program.perform (DirectoryOp.assignRole userID roleSlug (actorNull actorID)) with
          | .error cause => return .error (.call cause)
          | .ok () => userRoles userID

def removeRole (userID : Uuid) (roleSlug : String) : DirectoryProg (Except Err Unit) := do
  match ← ensureUser userID with
  | .error err => return .error err
  | .ok () =>
      match ← Program.perform (DirectoryOp.removeRole userID roleSlug) with
      | .error cause => return .error (.call cause)
      | .ok () => return .ok ()

def listUserRoles (userID : Uuid) : DirectoryProg (Except Err (List Role)) := do
  match ← ensureUser userID with
  | .error err => return .error err
  | .ok () => userRoles userID

def listUsers (limit offset : Nat) : DirectoryProg (Except Err (List UserResponse)) := do
  match ← Program.perform (DirectoryOp.listUsers limit offset) with
  | .error cause => return .error (.call cause)
  | .ok rows => return .ok rows

/-- The searcher finds these users for the text. -/
def searchUsers (hits : List Uuid) : DirectoryProg (Except Err (List UserResponse)) := do
  match ← searchUserRows hits with
  | .error cause => return .error (.call cause)
  | .ok rows => return .ok rows

/-! ## What the methods do -/

section Run

variable (lib : External) (now : Nat) (db : Db)

theorem run_ensureUser (userID : Uuid) :
    (ensureUser userID).run (serveDirectory lib) now db =
      (match db.liveUser userID with
        | none => .error (.notFound "user")
        | some _ => .ok (), db) := by
  unfold ensureUser
  rw [Program.run_bind, Program.run_perform]
  cases huser : db.liveUser userID with
  | none => simp [serveDirectory, serve, huser, one, Err.notFoundOr]
  | some user => simp [serveDirectory, serve, huser, one]

/-- The roles of a user in the order of their slugs. -/
def sortedRoles (userID : Uuid) : List Role :=
  (db.liveRoles userID).insertionSort fun left right => left.slug ≤ right.slug

theorem run_listUserRoles (userID : Uuid) :
    (listUserRoles userID).run (serveDirectory lib) now db =
      (match db.liveUser userID with
        | none => .error (.notFound "user")
        | some _ => .ok (sortedRoles db userID), db) := by
  unfold listUserRoles
  rw [Program.run_bind, run_ensureUser]
  cases db.liveUser userID <;> rfl

theorem run_removeRole (userID : Uuid) (roleSlug : String) :
    (removeRole userID roleSlug).run (serveDirectory lib) now db =
      match db.liveUser userID with
      | none => (.error (.notFound "user"), db)
      | some _ => (.ok (), db.removeRole userID roleSlug) := by
  unfold removeRole
  rw [Program.run_bind, run_ensureUser]
  cases db.liveUser userID <;> rfl

theorem run_assignRole (actorID userID : Uuid) (roleSlug : String) :
    (assignRole actorID userID roleSlug).run (serveDirectory lib) now db =
      match db.liveUser userID, db.liveRole roleSlug with
      | none, _ => (.error (.notFound "user"), db)
      | some _, none => (.error (.notFound "role"), db)
      | some _, some _ =>
          match db.assignRole userID roleSlug (actorNull actorID) with
          | (.error cause, after) => (.error (.call cause), after)
          | (.ok (), after) => (.ok (sortedRoles after userID), after) := by
  unfold assignRole
  rw [Program.run_bind, run_ensureUser]
  cases db.liveUser userID with
  | none => rfl
  | some user =>
      simp only [Program.run_bind, Program.run_perform, serveDirectory]
      cases db.liveRole roleSlug with
      | none => rfl
      | some role =>
          simp only [one, Program.run_bind, Program.run_perform, serveDirectory]
          rcases db.assignRole userID roleSlug (actorNull actorID) with ⟨_ | _, after⟩ <;> rfl

theorem run_listUsers (limit offset : Nat) :
    (listUsers limit offset).run (serveDirectory lib) now db =
      (.ok (db.listUsers limit offset), db) := rfl

theorem run_searchUsers (hits : List Uuid) :
    (searchUsers hits).run (serveDirectory lib) now db =
      (.ok (hits.filterMap fun id =>
        (db.getUsersByIDs hits).reverse.find? fun row => row.id = id), db) := by
  unfold searchUsers searchUserRows
  by_cases hnone : hits = []
  · subst hnone
    rfl
  · rw [if_neg hnone]
    rfl

end Run

end Directory

end Skolva.Auth
