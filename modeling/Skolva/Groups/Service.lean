import Skolva.Basic
import Skolva.Dbexec
import Skolva.Effect.Program

/-! # The groups module

The table `groups` of `schema.sql`, the queries of `groups.sql`, and the group methods of
the service.
-/

namespace Skolva.Groups

open Dbexec Effect

/-! ## Rows -/

/-- A row of `groups`. -/
structure GroupRow where
  id : Uuid
  name : String
  description : Option String
  groupType : String
  isActive : Bool
  createdAt : Nat
  updatedAt : Nat
  deletedAt : Option Nat
  createdBy : Option Uuid
  updatedBy : Option Uuid
  deriving DecidableEq

/-- The API representation of a group, which has the columns that the queries return. -/
structure Group where
  id : Uuid
  name : String
  description : Option String
  groupType : String
  isActive : Bool
  createdAt : Nat
  updatedAt : Nat
  deriving DecidableEq

def groupFrom (row : GroupRow) : Group where
  id := row.id
  name := row.name
  description := row.description
  groupType := row.groupType
  isActive := row.isActive
  createdAt := row.createdAt
  updatedAt := row.updatedAt

/-- The CHECK on `group_type`. -/
def groupTypes : List String :=
  ["mannschaft", "abteilung", "arbeitsgruppe", "vorstand", "ausschuss", "sonstige"]

/-- The table, with the identifiers in `users` that it refers to. -/
structure Db where
  users : List Uuid
  groups : List GroupRow

/-- A transaction on the table. -/
abbrev Tx := Dbexec.Tx Db

namespace Db

variable (db : Db)

/-- The row with this key, unless it is deleted. -/
def liveGroup (id : Uuid) : Option GroupRow :=
  db.groups.find? fun row => row.id = id ∧ row.deletedAt = none

/-- A statement that changes the row with this key, unless it is deleted. The trigger
`set_updated_at` stamps the row. -/
def updateLiveGroup (now : Nat) (id : Uuid) (change : GroupRow → GroupRow) : Db :=
  { db with groups := db.groups.map fun row =>
    if row.id = id ∧ row.deletedAt = none then { change row with updatedAt := now } else row }

/-- The foreign keys of an actor. -/
def ActorKnown (actor : Option Uuid) : Prop := ∀ user ∈ actor, user ∈ db.users

instance (actor : Option Uuid) : Decidable (db.ActorKnown actor) :=
  match actor with
  | none => .isTrue (by simp [ActorKnown])
  | some user => decidable_of_iff (user ∈ db.users) (by simp [ActorKnown])

end Db

/-! ## Queries -/

/-- The parameters of `CreateGroup`. -/
structure CreateGroupParams where
  name : String
  description : Option String
  groupType : String
  actor : Option Uuid
  deriving DecidableEq

/-- The parameters of `UpdateGroup`. -/
structure UpdateGroupParams where
  id : Uuid
  name : String
  description : Option String
  groupType : String
  isActive : Bool
  updatedBy : Option Uuid
  deriving DecidableEq

/-- The query `GetGroupByID`. -/
def getGroupByID (id : Uuid) (db : Db) : Except CallError Group :=
  match db.liveGroup id with
  | some row => .ok (groupFrom row)
  | none => .error .noRows

/-- The row that `CreateGroup` inserts. -/
def newGroup (now : Nat) (id : Uuid) (params : CreateGroupParams) : GroupRow where
  id := id
  name := params.name
  description := params.description
  groupType := params.groupType
  isActive := true
  createdAt := now
  updatedAt := now
  deletedAt := none
  createdBy := params.actor
  updatedBy := params.actor

/-- The query `CreateGroup`. The database draws the identifier. -/
def createGroup (now : Nat) (id : Uuid) (params : CreateGroupParams) : Tx Group := fun db =>
  if params.groupType ∉ groupTypes then .error .checkViolation
  else if id ∈ db.groups.map GroupRow.id then .error .uniqueViolation
  else if db.ActorKnown params.actor then
    .ok (groupFrom (newGroup now id params),
      { db with groups := db.groups ++ [newGroup now id params] })
  else .error .foreignKeyViolation

/-- What `UpdateGroup` sets. -/
def UpdateGroupParams.set (params : UpdateGroupParams) (row : GroupRow) : GroupRow :=
  { row with
    name := params.name
    description := params.description
    groupType := params.groupType
    isActive := params.isActive
    updatedBy := params.updatedBy }

/-- The query `UpdateGroup`. -/
def updateGroup (now : Nat) (params : UpdateGroupParams) : Tx Group := fun db =>
  match db.liveGroup params.id with
  | none => .error .noRows
  | some row =>
      if params.groupType ∉ groupTypes then .error .checkViolation
      else if db.ActorKnown params.updatedBy then
        .ok (groupFrom { params.set row with updatedAt := now },
          db.updateLiveGroup now params.id params.set)
      else .error .foreignKeyViolation

/-- The query `SoftDeleteGroup`. -/
def softDeleteGroup (now : Nat) (id : Uuid) (updatedBy : Option Uuid) : Tx Unit := fun db =>
  if (db.liveGroup id).isSome ∧ ¬db.ActorKnown updatedBy then .error .foreignKeyViolation
  else
    .ok ((), db.updateLiveGroup now id fun row =>
      { row with deletedAt := some now, updatedBy := updatedBy })

/-- A creation violates a constraint, or it inserts the row. -/
theorem createGroup_cases (now : Nat) (id : Uuid) (params : CreateGroupParams) (db : Db) :
    (∃ err, createGroup now id params db = .error err) ∨
    (params.groupType ∈ groupTypes ∧ id ∉ db.groups.map GroupRow.id ∧
      db.ActorKnown params.actor ∧
      createGroup now id params db = .ok (groupFrom (newGroup now id params),
        { db with groups := db.groups ++ [newGroup now id params] })) := by
  unfold createGroup
  split_ifs with htype hid hactor
  · exact Or.inl ⟨_, rfl⟩
  · exact Or.inr ⟨htype, hid, hactor, rfl⟩
  · exact Or.inl ⟨_, rfl⟩
  · exact Or.inl ⟨_, rfl⟩

/-- A type that the CHECK admits is written to the live row, unless the actor is unknown. -/
theorem updateGroup_of_check (now : Nat) (params : UpdateGroupParams) {db : Db} {row : GroupRow}
    (hlive : db.liveGroup params.id = some row) (hcheck : params.groupType ∈ groupTypes) :
    updateGroup now params db = .error .foreignKeyViolation ∨
    ∃ group after, updateGroup now params db = .ok (group, after) ∧
      ∃ changed ∈ after.groups, changed.id = params.id ∧ changed.groupType = params.groupType := by
  have hfound := List.find?_some hlive
  rw [decide_eq_true_eq] at hfound
  unfold updateGroup
  rw [hlive]
  dsimp only
  rw [if_neg (not_not.mpr hcheck)]
  split
  · refine Or.inr ⟨_, _, rfl, _, List.mem_map_of_mem (List.mem_of_find?_eq_some hlive), ?_⟩
    rw [if_pos hfound]
    exact ⟨hfound.1, rfl⟩
  · exact Or.inl rfl

theorem updateGroup_cases (now : Nat) {params : UpdateGroupParams} {db : Db} {row : GroupRow}
    (hlive : db.liveGroup params.id = some row) :
    (∃ err, updateGroup now params db = .error err) ∨
    (params.groupType ∈ groupTypes ∧ db.ActorKnown params.updatedBy ∧
      updateGroup now params db = .ok (groupFrom { params.set row with updatedAt := now },
        db.updateLiveGroup now params.id params.set)) := by
  unfold updateGroup
  rw [hlive]
  dsimp only
  split_ifs with htype hactor
  · exact Or.inr ⟨htype, hactor, rfl⟩
  · exact Or.inl ⟨_, rfl⟩
  · exact Or.inl ⟨_, rfl⟩

theorem softDeleteGroup_cases (now : Nat) {id : Uuid} (updatedBy : Option Uuid) {db : Db}
    {row : GroupRow} (hlive : db.liveGroup id = some row) :
    (∃ err, softDeleteGroup now id updatedBy db = .error err) ∨
    (db.ActorKnown updatedBy ∧
      softDeleteGroup now id updatedBy db = .ok ((), db.updateLiveGroup now id fun row =>
        { row with deletedAt := some now, updatedBy := updatedBy })) := by
  unfold softDeleteGroup
  rw [hlive]
  split_ifs with hrefused
  · exact Or.inl ⟨_, rfl⟩
  · exact Or.inr ⟨by simpa using hrefused, rfl⟩

/-! ## The repository -/

/-- A call of the repository. The actor of a transaction is only seen by the audit
trigger. -/
inductive Op where
  | getByID (id : Uuid)
  | create (actorID id : Uuid) (params : CreateGroupParams)
  | update (actorID : Uuid) (params : UpdateGroupParams)
  | softDelete (actorID id : Uuid) (updatedBy : Option Uuid)

def Op.Resp : Op → Type
  | .getByID _ | .create _ _ _ | .update _ _ => Except CallError Group
  | .softDelete _ _ _ => Except CallError Unit

/-- The answer of the repository. -/
def serve (moment : Moment) : (op : Op) → Db → op.Resp × Db
  | .getByID id, db =>
      (if moment.fails .read then .error .unavailable else getGroupByID id db, db)
  | .create _ id params, db =>
      withActor moment (Tx.statement moment .write (createGroup moment.now id params)) db
  | .update _ params, db =>
      withActor moment (Tx.statement moment .write (updateGroup moment.now params)) db
  | .softDelete _ id updatedBy, db =>
      withActor moment (Tx.statement moment .write (softDeleteGroup moment.now id updatedBy)) db

/-! ## The service -/

inductive Err where
  | notFound (what : String)
  | validation (message : String)
  | call (cause : CallError)
  deriving DecidableEq

abbrev Prog (α : Type) := Program Moment Op Op.Resp α

def validGroupTypes : List String :=
  ["mannschaft", "abteilung", "arbeitsgruppe", "vorstand", "ausschuss", "sonstige"]

/-- `uuid.NullUUID{UUID: id, Valid: id != uuid.Nil}`. -/
def actorNull (id : Uuid) : Option Uuid := if id = Uuid.nil then none else some id

namespace Service

/-- The database draws the identifier of the new row. -/
def create (drawn actorID : Uuid) (name : String) (description : Option String)
    (groupType : String) : Prog (Except Err Group) := do
  let groupType := if groupType = "" then "sonstige" else groupType
  if groupType ∉ validGroupTypes then
    return .error (.validation "invalid group_type")
  else
    match ← Program.perform (Op.create actorID drawn
      { name, description, groupType, actor := actorNull actorID }) with
    | .error cause => return .error (.call cause)
    | .ok row => return .ok row

def get (id : Uuid) : Prog (Except Err Group) := do
  match ← Program.perform (Op.getByID id) with
  | .error .noRows => return .error (.notFound "group")
  | .error cause => return .error (.call cause)
  | .ok row => return .ok row

def update (actorID id : Uuid) (name : String) (description : Option String) (groupType : String)
    (isActive : Option Bool) : Prog (Except Err Group) := do
  match ← Program.perform (Op.getByID id) with
  | .error .noRows => return .error (.notFound "group")
  | .error cause => return .error (.call cause)
  | .ok current =>
      if groupType ∉ validGroupTypes then
        return .error (.validation "invalid group_type")
      else
        let active := isActive.getD current.isActive
        match ← Program.perform (Op.update actorID
          { id, name, description, groupType, isActive := active,
            updatedBy := actorNull actorID }) with
        | .error cause => return .error (.call cause)
        | .ok row => return .ok row

def delete (actorID id : Uuid) : Prog (Except Err Unit) := do
  match ← Program.perform (Op.getByID id) with
  | .error .noRows => return .error (.notFound "group")
  | .error cause => return .error (.call cause)
  | .ok _ =>
      match ← Program.perform (Op.softDelete actorID id (actorNull actorID)) with
      | .error cause => return .error (.call cause)
      | .ok _ => return .ok ()

/-! ## What the methods do -/

section Run

variable (now : Nat) (db : Db)

theorem serve_getByID (id : Uuid) :
    serve ⟨now, fun _ => false⟩ (.getByID id) db = (getGroupByID id db, db) := rfl

theorem serve_create (actorID id : Uuid) (params : CreateGroupParams) :
    serve ⟨now, fun _ => false⟩ (.create actorID id params) db =
      committed (createGroup now id params) db :=
  withActor_statement now .write (createGroup now id params) db

theorem serve_update (actorID : Uuid) (params : UpdateGroupParams) :
    serve ⟨now, fun _ => false⟩ (.update actorID params) db =
      committed (updateGroup now params) db :=
  withActor_statement now .write (updateGroup now params) db

theorem serve_softDelete (actorID id : Uuid) (updatedBy : Option Uuid) :
    serve ⟨now, fun _ => false⟩ (.softDelete actorID id updatedBy) db =
      committed (softDeleteGroup now id updatedBy) db :=
  withActor_statement now .write (softDeleteGroup now id updatedBy) db

theorem run_get (id : Uuid) :
    (get id).run serve ⟨now, fun _ => false⟩ db =
      (match db.liveGroup id with
        | none => .error (.notFound "group")
        | some row => .ok (groupFrom row), db) := by
  simp only [get, Program.run_bind, Program.run_perform, serve_getByID, getGroupByID]
  cases db.liveGroup id <;> rfl

/-- What `Create` passes to the statement. -/
def createParams (actorID : Uuid) (name : String) (description : Option String)
    (groupType : String) : CreateGroupParams where
  name := name
  description := description
  groupType := if groupType = "" then "sonstige" else groupType
  actor := actorNull actorID

theorem run_create (drawn actorID : Uuid) (name : String) (description : Option String)
    (groupType : String) :
    (create drawn actorID name description groupType).run serve ⟨now, fun _ => false⟩ db =
      let params := createParams actorID name description groupType
      if params.groupType ∉ validGroupTypes then
        (.error (.validation "invalid group_type"), db)
      else
        match createGroup now drawn params db with
        | .error cause => (.error (.call cause), db)
        | .ok (row, after) => (.ok row, after) := by
  unfold create createParams
  dsimp only
  by_cases hvalid : (if groupType = "" then "sonstige" else groupType) ∉ validGroupTypes
  · rw [if_pos hvalid, if_pos hvalid]
    rfl
  · rw [if_neg hvalid, if_neg hvalid]
    simp only [Program.run_bind, Program.run_perform, serve_create, committed]
    rcases createGroup now drawn _ db with _ | ⟨_, _⟩ <;> rfl

/-- What `Update` passes to the statement. -/
def updateParams (actorID id : Uuid) (name : String) (description : Option String)
    (groupType : String) (isActive : Option Bool) (current : Group) : UpdateGroupParams where
  id := id
  name := name
  description := description
  groupType := groupType
  isActive := isActive.getD current.isActive
  updatedBy := actorNull actorID

theorem run_update (actorID id : Uuid) (name : String) (description : Option String)
    (groupType : String) (isActive : Option Bool) :
    (update actorID id name description groupType isActive).run serve ⟨now, fun _ => false⟩ db =
      match db.liveGroup id with
      | none => (.error (.notFound "group"), db)
      | some current =>
          if groupType ∉ validGroupTypes then (.error (.validation "invalid group_type"), db)
          else
            match updateGroup now (updateParams actorID id name description groupType isActive
              (groupFrom current)) db with
            | .error cause => (.error (.call cause), db)
            | .ok (row, after) => (.ok row, after) := by
  simp only [update, Program.run_bind, Program.run_perform, serve_getByID, getGroupByID]
  cases db.liveGroup id with
  | none => rfl
  | some current =>
      dsimp only
      by_cases hvalid : groupType ∉ validGroupTypes
      · rw [if_pos hvalid, if_pos hvalid]
        rfl
      · rw [if_neg hvalid, if_neg hvalid]
        simp only [Program.run_bind, Program.run_perform, serve_update, updateParams, committed]
        rcases updateGroup now _ db with _ | ⟨_, _⟩ <;> rfl

theorem run_delete (actorID id : Uuid) :
    (delete actorID id).run serve ⟨now, fun _ => false⟩ db =
      match db.liveGroup id with
      | none => (.error (.notFound "group"), db)
      | some _ =>
          match softDeleteGroup now id (actorNull actorID) db with
          | .error cause => (.error (.call cause), db)
          | .ok (_, after) => (.ok (), after) := by
  simp only [delete, Program.run_bind, Program.run_perform, serve_getByID, getGroupByID]
  cases db.liveGroup id with
  | none => rfl
  | some _ =>
      simp only [Program.run_bind, Program.run_perform, serve_softDelete, committed]
      rcases softDeleteGroup now id _ db with _ | ⟨_, _⟩ <;> rfl

/-- A creation is rejected, or it inserts the row. -/
theorem create_cases (drawn actorID : Uuid) (name : String) (description : Option String)
    (groupType : String) :
    let run := (create drawn actorID name description groupType).run serve ⟨now, fun _ => false⟩ db
    let params := createParams actorID name description groupType
    let row := newGroup now drawn params
    (∃ err, run = (.error err, db)) ∨
    (params.groupType ∈ groupTypes ∧ drawn ∉ db.groups.map GroupRow.id ∧
      db.ActorKnown params.actor ∧
      run = (.ok (groupFrom row), { db with groups := db.groups ++ [row] })) := by
  dsimp only
  rw [run_create]
  generalize createParams actorID name description groupType = params
  dsimp only
  split
  · exact Or.inl ⟨_, rfl⟩
  · rcases createGroup_cases now drawn params db with
      ⟨err, hquery⟩ | ⟨htype, hfresh, hactor, hquery⟩
    · rw [hquery]
      exact Or.inl ⟨_, rfl⟩
    · rw [hquery]
      exact Or.inr ⟨htype, hfresh, hactor, rfl⟩

/-- An update is rejected, or it writes to the live row. -/
theorem update_cases (actorID id : Uuid) (name : String) (description : Option String)
    (groupType : String) (isActive : Option Bool) :
    let run := (update actorID id name description groupType isActive).run serve
      ⟨now, fun _ => false⟩ db
    (∃ err, run = (.error err, db)) ∨
    ∃ current, db.liveGroup id = some current ∧
      let params := updateParams actorID id name description groupType isActive (groupFrom current)
      params.groupType ∈ groupTypes ∧ db.ActorKnown params.updatedBy ∧
      run = (.ok (groupFrom { params.set current with updatedAt := now }),
        db.updateLiveGroup now id params.set) := by
  dsimp only
  rw [run_update]
  cases hlive : db.liveGroup id with
  | none => exact Or.inl ⟨_, rfl⟩
  | some current =>
      dsimp only
      split
      · exact Or.inl ⟨_, rfl⟩
      · let params := updateParams actorID id name description groupType isActive (groupFrom current)
        have hquery := @updateGroup_cases now params db current hlive
        rcases hquery with ⟨err, hquery⟩ | ⟨htype, hactor, hquery⟩
        · rw [hquery]
          exact Or.inl ⟨_, rfl⟩
        · rw [hquery]
          exact Or.inr ⟨current, rfl, htype, hactor, rfl⟩

/-- A deletion is rejected, or it marks the live row. -/
theorem delete_cases (actorID id : Uuid) :
    let run := (delete actorID id).run serve ⟨now, fun _ => false⟩ db
    (∃ err, run = (.error err, db)) ∨
    ∃ current, db.liveGroup id = some current ∧ db.ActorKnown (actorNull actorID) ∧
      run = (.ok (), db.updateLiveGroup now id fun row =>
        { row with deletedAt := some now, updatedBy := actorNull actorID }) := by
  dsimp only
  rw [run_delete]
  cases hlive : db.liveGroup id with
  | none => exact Or.inl ⟨_, rfl⟩
  | some current =>
      dsimp only
      rcases softDeleteGroup_cases now (actorNull actorID) hlive with ⟨err, hquery⟩ | ⟨hactor, hquery⟩
      · rw [hquery]
        exact Or.inl ⟨_, rfl⟩
      · rw [hquery]
        exact Or.inr ⟨current, rfl, hactor, rfl⟩

end Run

end Service

end Skolva.Groups
