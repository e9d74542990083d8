import Skolva.Basic
import Skolva.Dbexec
import Mathlib.Data.List.Pairwise

/-! # The contact points of `schema.sql`

The table `user_contact_points` with its constraints, the queries of `contacts.sql`, and
the transactions of the repository. The texts are those that a column of type TEXT can hold:
PostgreSQL refuses U+0000 there, so a statement that brings one fails and changes nothing.
-/

namespace Skolva.Crm

open Dbexec

/-! ## Rows -/

/-- A row of `user_contact_points`. -/
structure ContactPoint where
  id : Uuid
  userId : Uuid
  contactType : String
  label : Option String
  value : String
  isPrimary : Bool
  isPreferred : Bool
  allowContact : Bool
  preferredTimeWindow : Option String
  verifiedAt : Option Nat
  note : Option String
  createdAt : Nat
  updatedAt : Nat
  deletedAt : Option Nat
  createdBy : Option Uuid
  updatedBy : Option Uuid
  deriving DecidableEq

/-- The columns that the queries return, and the API shows. -/
structure Contact where
  id : Uuid
  userId : Uuid
  contactType : String
  label : Option String
  value : String
  isPrimary : Bool
  isPreferred : Bool
  allowContact : Bool
  preferredTimeWindow : Option String
  verifiedAt : Option Nat
  note : Option String
  createdAt : Nat
  updatedAt : Nat
  deriving DecidableEq

def contactFrom (row : ContactPoint) : Contact where
  id := row.id
  userId := row.userId
  contactType := row.contactType
  label := row.label
  value := row.value
  isPrimary := row.isPrimary
  isPreferred := row.isPreferred
  allowContact := row.allowContact
  preferredTimeWindow := row.preferredTimeWindow
  verifiedAt := row.verifiedAt
  note := row.note
  createdAt := row.createdAt
  updatedAt := row.updatedAt

/-- The row is in the index `ux_user_contact_points_primary_per_type_active`, under this
user and type. -/
def ContactPoint.IsLivePrimary (row : ContactPoint) (userID : Uuid) (contactType : String) : Prop :=
  row.userId = userID ∧ row.contactType = contactType ∧ row.deletedAt = none ∧
    row.isPrimary = true

instance (row : ContactPoint) (userID : Uuid) (contactType : String) :
    Decidable (row.IsLivePrimary userID contactType) :=
  inferInstanceAs (Decidable (_ ∧ _))

/-- The CHECK on `contact_type`. -/
def contactTypes : List String := ["email", "phone", "mobile", "fax", "website", "other"]

/-- The table, with the identifiers in `users` that it refers to. -/
structure Db where
  users : List Uuid
  contacts : List ContactPoint

namespace Db

/-- At most one live contact of a user and a type is primary. -/
def PrimaryUnique (db : Db) : Prop :=
  db.contacts.Pairwise fun one other => ∀ userID contactType,
    one.IsLivePrimary userID contactType → ¬other.IsLivePrimary userID contactType

/-- The rows satisfy the constraints of the table. -/
structure Valid (db : Db) : Prop where
  pkey : (db.contacts.map ContactPoint.id).Nodup
  contactType : ∀ row ∈ db.contacts, row.contactType ∈ contactTypes
  user : ∀ row ∈ db.contacts, row.userId ∈ db.users
  createdBy : ∀ row ∈ db.contacts, ∀ user ∈ row.createdBy, user ∈ db.users
  updatedBy : ∀ row ∈ db.contacts, ∀ user ∈ row.updatedBy, user ∈ db.users
  primary : db.PrimaryUnique

/-- The row with this key. -/
def contactWith (db : Db) (id : Uuid) : Option ContactPoint :=
  db.contacts.find? fun row => row.id = id

end Db

/-! ## Statements -/

/-- A transaction on the table. -/
abbrev Tx := Dbexec.Tx Db

/-- The parameters of `CreateContact`. -/
structure CreateContactParams where
  userID : Uuid
  contactType : String
  label : Option String
  value : String
  isPrimary : Bool
  isPreferred : Bool
  allowContact : Bool
  preferredTimeWindow : Option String
  note : Option String
  actor : Option Uuid
  deriving DecidableEq

/-- The parameters of `UpdateContact`. -/
structure UpdateContactParams where
  id : Uuid
  label : Option String
  value : String
  isPrimary : Bool
  isPreferred : Bool
  allowContact : Bool
  preferredTimeWindow : Option String
  note : Option String
  updatedBy : Option Uuid
  deriving DecidableEq

namespace Db

variable (db : Db)

/-- The query `GetContact`. -/
def getContact (id : Uuid) : Except CallError Contact :=
  match db.contacts.find? fun row => row.id = id ∧ row.deletedAt = none with
  | some row => .ok (contactFrom row)
  | none => .error .noRows

/-- The row that `CreateContact` inserts. -/
def newContact (now : Nat) (id : Uuid) (params : CreateContactParams) : ContactPoint where
  id := id
  userId := params.userID
  contactType := params.contactType
  label := params.label
  value := params.value
  isPrimary := params.isPrimary
  isPreferred := params.isPreferred
  allowContact := params.allowContact
  preferredTimeWindow := params.preferredTimeWindow
  verifiedAt := none
  note := params.note
  createdAt := now
  updatedAt := now
  deletedAt := none
  createdBy := params.actor
  updatedBy := params.actor

/-- The row that `UpdateContact` writes, with the stamp of `set_updated_at`. -/
def changedContact (now : Nat) (params : UpdateContactParams) (row : ContactPoint) :
    ContactPoint :=
  { row with
    label := params.label
    value := params.value
    isPrimary := params.isPrimary
    isPreferred := params.isPreferred
    allowContact := params.allowContact
    preferredTimeWindow := params.preferredTimeWindow
    note := params.note
    updatedBy := params.updatedBy
    updatedAt := now }

/-- The users that a row refers to by an actor. -/
def ActorKnown (actor : Option Uuid) : Prop := ∀ user ∈ actor, user ∈ db.users

instance (actor : Option Uuid) : Decidable (db.ActorKnown actor) :=
  match actor with
  | none => .isTrue (by simp [ActorKnown])
  | some user => decidable_of_iff (user ∈ db.users) (by simp [ActorKnown])

end Db

/-- The query `ClearPrimaryContacts`. -/
def clearPrimaryContacts (now : Nat) (userID : Uuid) (contactType : String) (excludeID : Uuid) :
    Tx Unit := fun db =>
  .ok ((), { db with contacts := db.contacts.map fun row =>
    if row.IsLivePrimary userID contactType ∧ row.id ≠ excludeID then
      { row with isPrimary := false, updatedAt := now }
    else row })

/-- The query `CreateContact`. The database draws the identifier. -/
def createContactRow (now : Nat) (id : Uuid) (params : CreateContactParams) : Tx Contact :=
  fun db =>
    if params.contactType ∉ contactTypes then .error .checkViolation
    else if id ∈ db.contacts.map ContactPoint.id then .error .uniqueViolation
    else if params.isPrimary = true ∧
        ∃ row ∈ db.contacts, row.IsLivePrimary params.userID params.contactType then
      .error .uniqueViolation
    else if params.userID ∈ db.users ∧ db.ActorKnown params.actor then
      .ok (contactFrom (Db.newContact now id params),
        { db with contacts := db.contacts ++ [Db.newContact now id params] })
    else .error .foreignKeyViolation

/-- The query `UpdateContact`. -/
def updateContactRow (now : Nat) (params : UpdateContactParams) : Tx Contact := fun db =>
  match db.contacts.find? fun row => row.id = params.id ∧ row.deletedAt = none with
  | none => .error .noRows
  | some row =>
      if params.isPrimary = true ∧ ∃ other ∈ db.contacts, other.id ≠ params.id ∧
          other.IsLivePrimary row.userId row.contactType then
        .error .uniqueViolation
      else if db.ActorKnown params.updatedBy then
        .ok (contactFrom (Db.changedContact now params row),
          { db with contacts := db.contacts.map fun other =>
            if other.id = params.id ∧ other.deletedAt = none then
              Db.changedContact now params other
            else other })
      else .error .foreignKeyViolation

/-- The query `SoftDeleteContact`. -/
def softDeleteContactRow (now : Nat) (id : Uuid) (updatedBy : Option Uuid) : Tx Unit := fun db =>
  if (∃ row ∈ db.contacts, row.id = id ∧ row.deletedAt = none) ∧ ¬db.ActorKnown updatedBy then
    .error .foreignKeyViolation
  else
    .ok ((), { db with contacts := db.contacts.map fun row =>
      if row.id = id ∧ row.deletedAt = none then
        { row with deletedAt := some now, updatedBy := updatedBy, updatedAt := now }
      else row })

end Skolva.Crm
