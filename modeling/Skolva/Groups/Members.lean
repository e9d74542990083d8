import Skolva.Auth.Store
import Skolva.Groups.Service

/-! # Lists of groups, and their members

The table `group_members`, the queries of `group_members.sql` and the lists of `groups.sql`,
and the methods of the service that read or write members.
-/

namespace Skolva.Groups

open Dbexec Effect

/-! ## Rows -/

/-- A row of `group_members`. -/
structure GroupMember where
  groupId : Uuid
  userId : Uuid
  roleInGroup : String
  joinedAt : Nat
  leftAt : Option Nat
  createdBy : Option Uuid
  deriving DecidableEq

/-- The columns that `ListMembers` returns, and the API shows. -/
structure Member where
  userId : Uuid
  firstName : String
  lastName : String
  email : String
  roleInGroup : String
  joinedAt : Nat
  deriving DecidableEq

def memberFrom (row : GroupMember) (user : Auth.User) : Member where
  userId := row.userId
  firstName := user.firstName
  lastName := user.lastName
  email := user.email
  roleInGroup := row.roleInGroup
  joinedAt := row.joinedAt

/-- The columns that `ListUserGroups` returns, and the API shows. -/
structure UserGroup where
  groupId : Uuid
  name : String
  groupType : String
  roleInGroup : String
  joinedAt : Nat
  deriving DecidableEq

def userGroupFrom (row : GroupMember) (group : GroupRow) : UserGroup where
  groupId := group.id
  name := group.name
  groupType := group.groupType
  roleInGroup := row.roleInGroup
  joinedAt := row.joinedAt

/-- The CHECK on `role_in_group`. -/
def memberRoles : List String := ["leiter", "stellvertreter", "trainer", "mitglied"]

/-- The tables of the module, and `users`. -/
structure MembersDb where
  users : List Auth.User
  groups : List GroupRow
  members : List GroupMember

/-! ## Queries -/

/-- The parameters of `AddMember`. -/
structure AddMemberParams where
  groupID : Uuid
  userID : Uuid
  roleInGroup : String
  createdBy : Option Uuid
  deriving DecidableEq

/-- The row has the primary key of the parameters. -/
def AddMemberParams.Matches (params : AddMemberParams) (row : GroupMember) : Prop :=
  row.groupId = params.groupID ∧ row.userId = params.userID

instance (params : AddMemberParams) (row : GroupMember) : Decidable (params.Matches row) :=
  inferInstanceAs (Decidable (_ ∧ _))

/-- The row that `AddMember` inserts. -/
def AddMemberParams.row (params : AddMemberParams) (now : Nat) : GroupMember where
  groupId := params.groupID
  userId := params.userID
  roleInGroup := params.roleInGroup
  joinedAt := now
  leftAt := none
  createdBy := params.createdBy

namespace MembersDb

variable (db : MembersDb)

/-- The row of `users` with this key, unless it is deleted. -/
def liveUser (id : Uuid) : Option Auth.User :=
  db.users.find? fun user => user.id = id ∧ user.deletedAt = none

/-- The row of `groups` with this key, unless it is deleted. -/
def liveGroup (id : Uuid) : Option GroupRow :=
  db.groups.find? fun row => row.id = id ∧ row.deletedAt = none

/-- The foreign keys of a new row. -/
def ReferencesKnown (params : AddMemberParams) : Prop :=
  params.groupID ∈ db.groups.map GroupRow.id ∧ params.userID ∈ db.users.map Auth.User.id ∧
    ∀ user ∈ params.createdBy, user ∈ db.users.map Auth.User.id

instance (params : AddMemberParams) : Decidable (db.ReferencesKnown params) :=
  inferInstanceAs (Decidable (_ ∧ _ ∧ _))

/-- The query `AddMember`. On a conflict only the role is set. -/
def addMember (now : Nat) (params : AddMemberParams) : Except CallError Unit × MembersDb :=
  if params.roleInGroup ∉ memberRoles then (.error .checkViolation, db)
  else if ∃ row ∈ db.members, params.Matches row then
    (.ok (), { db with members := db.members.map fun row =>
      if params.Matches row then { row with roleInGroup := params.roleInGroup } else row })
  else if db.ReferencesKnown params then
    (.ok (), { db with members := db.members ++ [params.row now] })
  else (.error .foreignKeyViolation, db)

/-- The user is in the group, with this role. -/
def HasRole (groupID userID : Uuid) (roleInGroup : String) : Prop :=
  (∃ row ∈ db.members, row.groupId = groupID ∧ row.userId = userID) ∧
    ∀ row ∈ db.members, row.groupId = groupID → row.userId = userID →
      row.roleInGroup = roleInGroup

instance (groupID userID : Uuid) (roleInGroup : String) :
    Decidable (db.HasRole groupID userID roleInGroup) :=
  inferInstanceAs (Decidable (_ ∧ _))

/-- No live user is in the group. -/
def NobodyLive (groupID : Uuid) : Prop :=
  ∀ row ∈ db.members, row.groupId = groupID → db.liveUser row.userId = none

instance (groupID : Uuid) : Decidable (db.NobodyLive groupID) :=
  inferInstanceAs (Decidable (∀ _ ∈ _, _))

/-- The query `RemoveMember`. -/
def removeMember (groupID userID : Uuid) : MembersDb :=
  { db with members := db.members.filter fun row =>
      ¬(row.groupId = groupID ∧ row.userId = userID) }

/-- `ORDER BY u.last_name, u.first_name, gm.user_id`, in the order of code points. -/
def memberOrder (one other : Member) : Bool :=
  one.lastName < other.lastName || one.lastName = other.lastName &&
    (one.firstName < other.firstName || one.firstName = other.firstName &&
      one.userId ≤ other.userId)

/-- The query `ListMembers`, which joins `users` by the primary key. -/
def listMembers (groupID : Uuid) : List Member :=
  let rows := db.members.filter fun row => row.groupId = groupID
  (rows.filterMap fun row => (db.liveUser row.userId).map (memberFrom row)).mergeSort memberOrder

/-- `ORDER BY g.name, g.id`. -/
def userGroupOrder (one other : UserGroup) : Bool :=
  one.name < other.name || one.name = other.name && one.groupId ≤ other.groupId

/-- The query `ListUserGroups`, which joins `groups` by the primary key. -/
def listUserGroups (userID : Uuid) : List UserGroup :=
  let rows := db.members.filter fun row => row.userId = userID
  (rows.filterMap fun row => (db.liveGroup row.groupId).map (userGroupFrom row)).mergeSort
    userGroupOrder

/-- `ORDER BY name, id`. -/
def groupOrder (one other : GroupRow) : Bool :=
  one.name < other.name || one.name = other.name && one.id ≤ other.id

/-- The queries `ListGroups` and `ListGroupsByType`. -/
def listGroups (groupType : Option String) (limit offset : Nat) : List Group :=
  let live := db.groups.filter fun row =>
    row.deletedAt = none ∧ ∀ type ∈ groupType, row.groupType = type
  (((live.mergeSort groupOrder).drop offset).take limit).map groupFrom

end MembersDb

/-! ## What the queries do -/

namespace MembersDb

variable {db : MembersDb} {now : Nat} {groupID userID : Uuid}

/-- A role that the user has already is not written. -/
theorem addMember_of_hasRole {params : AddMemberParams}
    (hrole : params.roleInGroup ∈ memberRoles)
    (hhas : db.HasRole params.groupID params.userID params.roleInGroup) :
    db.addMember now params = (.ok (), db) := by
  have hmatches : ∃ row ∈ db.members, params.Matches row := hhas.1
  rw [addMember, if_neg (not_not.mpr hrole), if_pos hmatches]
  have hsame : (db.members.map fun row => if params.Matches row then
      { row with roleInGroup := params.roleInGroup } else row) = db.members := by
    refine (List.map_congr_left fun row hrow => ?_).trans (List.map_id _)
    split
    next hrow' => rw [← hhas.2 row hrow hrow'.1 hrow'.2, id]
    next => rfl
  rw [hsame]

section AddMember

variable {params : AddMemberParams} {after : MembersDb}

variable (db now params) in
theorem users_addMember : (db.addMember now params).2.users = db.users := by
  unfold addMember
  split_ifs <;> rfl

theorem addMember_error {cause : CallError} (hadd : db.addMember now params = (.error cause, after)) :
    after = db := by
  unfold addMember at hadd
  split_ifs at hadd <;> simp_all

/-- A role that the CHECK admits is written, unless a foreign key is unknown. -/
theorem addMember_of_check (hcheck : params.roleInGroup ∈ memberRoles) :
    db.addMember now params = (.error .foreignKeyViolation, db) ∨
    ∃ after, db.addMember now params = (.ok (), after) ∧
      ∃ row ∈ after.members, params.Matches row ∧ row.roleInGroup = params.roleInGroup := by
  unfold addMember
  rw [if_neg (not_not.mpr hcheck)]
  split_ifs with hconflict hknown
  · obtain ⟨row, hrow, hmatches⟩ := hconflict
    refine Or.inr ⟨_, rfl, _, List.mem_map_of_mem hrow, ?_⟩
    rw [if_pos hmatches]
    exact ⟨hmatches, rfl⟩
  · exact Or.inr ⟨_, rfl, _, List.mem_append_right _ (List.mem_singleton_self _), ⟨rfl, rfl⟩, rfl⟩
  · exact Or.inl rfl

/-- `AddMember` writes the role to the row it meets, or it inserts a row. -/
theorem addMember_cases (hadd : db.addMember now params = (.ok (), after)) :
    ((∃ row ∈ db.members, params.Matches row) ∧ after.members = db.members.map fun row =>
      if params.Matches row then { row with roleInGroup := params.roleInGroup } else row) ∨
    (¬∃ row ∈ db.members, params.Matches row) ∧ after.members = db.members ++ [params.row now] := by
  unfold addMember at hadd
  split_ifs at hadd with hrole hconflict hknown
  · obtain ⟨-, rfl⟩ := Prod.mk.inj hadd
    exact Or.inl ⟨hconflict, rfl⟩
  · obtain ⟨-, rfl⟩ := Prod.mk.inj hadd
    exact Or.inr ⟨hconflict, rfl⟩
  · simp at hadd
  · simp at hadd

/-- Any other role is written. -/
theorem addMember_of_not_hasRole (hadd : db.addMember now params = (.ok (), after))
    (hhas : ¬db.HasRole params.groupID params.userID params.roleInGroup) :
    (after.members.filter fun row => row.userId = params.userID) ≠
      db.members.filter fun row => row.userId = params.userID := by
  intro hsame
  rcases addMember_cases hadd with ⟨hconflict, hafter⟩ | ⟨_, hafter⟩
  · -- The role of this row is another one, and no row of it is left.
    have hother : ∃ row ∈ db.members, params.Matches row ∧
        row.roleInGroup ≠ params.roleInGroup := by
      by_contra hnone
      push Not at hnone
      exact hhas ⟨hconflict, fun row hrow hgroup huser => hnone row hrow ⟨hgroup, huser⟩⟩
    obtain ⟨row, hrow, hmatches, hne⟩ := hother
    have hmem : row ∈ db.members.filter fun row => row.userId = params.userID :=
      List.mem_filter.mpr ⟨hrow, decide_eq_true hmatches.2⟩
    rw [← hsame, hafter, List.mem_filter, List.mem_map] at hmem
    obtain ⟨⟨old, _, hold⟩, _⟩ := hmem
    split at hold
    next => exact hne (congrArg GroupMember.roleInGroup hold).symm
    next hnot => exact hnot (hold ▸ hmatches)
  · have hlength := congrArg List.length hsame
    simp [hafter, AddMemberParams.row] at hlength

/-- A member stays one, whatever the role. -/
theorem NobodyLive.of_addMember (hadd : db.addMember now params = (.ok (), after))
    (hnobody : after.NobodyLive groupID) : db.NobodyLive groupID := by
  have husers : after.users = db.users := by
    have hkeeps := users_addMember db now params
    rwa [hadd] at hkeeps
  intro row hrow hgroup
  have hstays : ∃ other ∈ after.members, other.groupId = row.groupId ∧
      other.userId = row.userId := by
    rcases addMember_cases hadd with ⟨_, hafter⟩ | ⟨_, hafter⟩
    · rw [hafter]
      refine ⟨_, List.mem_map_of_mem hrow, ?_⟩
      split <;> exact ⟨rfl, rfl⟩
    · rw [hafter]
      exact ⟨row, List.mem_append_left _ hrow, rfl, rfl⟩
  obtain ⟨other, hother, hgroup', huser⟩ := hstays
  have hnone := hnobody other hother (hgroup'.trans hgroup)
  unfold liveUser at hnone ⊢
  rwa [husers, huser] at hnone

end AddMember

theorem mem_listMembers_iff {member : Member} : member ∈ db.listMembers groupID ↔
    ∃ row ∈ db.members, row.groupId = groupID ∧
      ∃ user, db.liveUser row.userId = some user ∧ memberFrom row user = member := by
  simp only [listMembers, List.mem_mergeSort, List.mem_filterMap, List.mem_filter,
    decide_eq_true_eq, Option.map_eq_some_iff, and_assoc]

theorem listMembers_eq_nil_iff : db.listMembers groupID = [] ↔ db.NobodyLive groupID := by
  rw [List.eq_nil_iff_forall_not_mem]
  constructor
  · intro hnone row hrow hgroup
    cases hlive : db.liveUser row.userId with
    | none => rfl
    | some user =>
        exact absurd (mem_listMembers_iff.mpr ⟨row, hrow, hgroup, user, hlive, rfl⟩)
          (hnone (memberFrom row user))
  · intro hnobody member hmember
    obtain ⟨row, hrow, hgroup, user, hlive, _⟩ := mem_listMembers_iff.mp hmember
    simp [hnobody row hrow hgroup] at hlive

theorem listUserGroups_eq_nil_iff : db.listUserGroups userID = [] ↔
    ∀ row ∈ db.members, row.userId = userID → db.liveGroup row.groupId = none := by
  have hsort : db.listUserGroups userID = [] ↔
      ((db.members.filter fun row => row.userId = userID).filterMap fun row =>
        (db.liveGroup row.groupId).map (userGroupFrom row)) = [] := by
    rw [listUserGroups, ← List.length_eq_zero_iff, List.length_mergeSort, List.length_eq_zero_iff]
  rw [hsort, List.filterMap_eq_nil_iff]
  simp

end MembersDb

inductive MembersOp where
  | getByID (id : Uuid)
  | list (limit offset : Nat)
  | listByType (groupType : String) (limit offset : Nat)
  | addMember (params : AddMemberParams)
  | removeMember (groupID userID : Uuid)
  | listMembers (groupID : Uuid)
  | listUserGroups (userID : Uuid)

abbrev MembersOp.Resp : MembersOp → Type
  | .getByID _ => Except CallError Group
  | .list .. | .listByType .. => Except CallError (List Group)
  | .addMember _ | .removeMember .. => Except CallError Unit
  | .listMembers _ => Except CallError (List Member)
  | .listUserGroups _ => Except CallError (List UserGroup)

/-- The answer of the repository. -/
def serveMembers (now : Nat) : (op : MembersOp) → MembersDb → op.Resp × MembersDb
  | .getByID id, db =>
      (match db.liveGroup id with
        | some row => .ok (groupFrom row)
        | none => .error .noRows, db)
  | .list limit offset, db => (.ok (db.listGroups none limit offset), db)
  | .listByType groupType limit offset, db => (.ok (db.listGroups (some groupType) limit offset), db)
  | .addMember params, db => db.addMember now params
  | .removeMember groupID userID, db => (.ok (), db.removeMember groupID userID)
  | .listMembers groupID, db => (.ok (db.listMembers groupID), db)
  | .listUserGroups userID, db => (.ok (db.listUserGroups userID), db)

/-! ## The service -/

abbrev MembersProg := Program Nat MembersOp MembersOp.Resp

def validMemberRoles : List String := ["leiter", "stellvertreter", "trainer", "mitglied"]

namespace Service

/-- The empty string is no filter. -/
def list (groupType : String) (limit offset : Nat) : MembersProg (Except Err (List Group)) := do
  if groupType ≠ "" then
    if groupType ∉ validGroupTypes then
      return .error (.validation "invalid group_type")
    else
      match ← Program.perform (MembersOp.listByType groupType limit offset) with
      | .error cause => return .error (.call cause)
      | .ok rows => return .ok rows
  else
    match ← Program.perform (MembersOp.list limit offset) with
    | .error cause => return .error (.call cause)
    | .ok rows => return .ok rows

def ensureGroup (id : Uuid) : MembersProg (Except Err Unit) := do
  match ← Program.perform (MembersOp.getByID id) with
  | .error .noRows => return .error (.notFound "group")
  | .error cause => return .error (.call cause)
  | .ok _ => return .ok ()

def members (groupID : Uuid) : MembersProg (Except Err (List Member)) := do
  match ← Program.perform (MembersOp.listMembers groupID) with
  | .error cause => return .error (.call cause)
  | .ok rows => return .ok rows

def addMember (actorID groupID userID : Uuid) (roleInGroup : String) :
    MembersProg (Except Err (List Member)) := do
  match ← ensureGroup groupID with
  | .error err => return .error err
  | .ok () =>
      let roleInGroup := if roleInGroup = "" then "mitglied" else roleInGroup
      if roleInGroup ∉ validMemberRoles then
        return .error (.validation "invalid role_in_group")
      else
        match ← Program.perform (MembersOp.addMember
          { groupID, userID, roleInGroup, createdBy := actorNull actorID }) with
        | .error cause => return .error (.call cause)
        | .ok () => members groupID

def listMembers (groupID : Uuid) : MembersProg (Except Err (List Member)) := do
  match ← ensureGroup groupID with
  | .error err => return .error err
  | .ok () => members groupID

def removeMember (groupID userID : Uuid) : MembersProg (Except Err Unit) := do
  match ← ensureGroup groupID with
  | .error err => return .error err
  | .ok () =>
      match ← Program.perform (MembersOp.removeMember groupID userID) with
      | .error cause => return .error (.call cause)
      | .ok () => return .ok ()

def listUserGroups (userID : Uuid) : MembersProg (Except Err (List UserGroup)) := do
  match ← Program.perform (MembersOp.listUserGroups userID) with
  | .error cause => return .error (.call cause)
  | .ok rows => return .ok rows

/-! ## What the methods do -/

section Run

variable (now : Nat) (db : MembersDb)

theorem run_list (groupType : String) (limit offset : Nat) :
    (list groupType limit offset).run serveMembers now db =
      (if groupType = "" then .ok (db.listGroups none limit offset)
        else if groupType ∈ validGroupTypes then
          .ok (db.listGroups (some groupType) limit offset)
        else .error (.validation "invalid group_type"), db) := by
  unfold list
  by_cases hempty : groupType = ""
  · simp [hempty, serveMembers]
  · by_cases hvalid : groupType ∈ validGroupTypes
    · simp [hempty, hvalid, serveMembers]
    · simp [hempty, hvalid]

theorem run_ensureGroup (id : Uuid) :
    (ensureGroup id).run serveMembers now db =
      (match db.liveGroup id with
        | none => .error (.notFound "group")
        | some _ => .ok (), db) := by
  unfold ensureGroup
  rw [Program.run_bind, Program.run_perform]
  simp only [serveMembers]
  cases db.liveGroup id <;> rfl

theorem run_listMembers (groupID : Uuid) :
    (listMembers groupID).run serveMembers now db =
      (match db.liveGroup groupID with
        | none => .error (.notFound "group")
        | some _ => .ok (db.listMembers groupID), db) := by
  unfold listMembers
  rw [Program.run_bind, run_ensureGroup]
  cases db.liveGroup groupID <;> rfl

theorem run_removeMember (groupID userID : Uuid) :
    (removeMember groupID userID).run serveMembers now db =
      match db.liveGroup groupID with
      | none => (.error (.notFound "group"), db)
      | some _ => (.ok (), db.removeMember groupID userID) := by
  unfold removeMember
  rw [Program.run_bind, run_ensureGroup]
  cases db.liveGroup groupID <;> rfl

theorem run_listUserGroups (userID : Uuid) :
    (listUserGroups userID).run serveMembers now db = (.ok (db.listUserGroups userID), db) := rfl

/-- The role of a request that leaves it out. -/
def roleOr (roleInGroup : String) : String := if roleInGroup = "" then "mitglied" else roleInGroup

theorem run_addMember (actorID groupID userID : Uuid) (roleInGroup : String) :
    (addMember actorID groupID userID roleInGroup).run serveMembers now db =
      match db.liveGroup groupID with
      | none => (.error (.notFound "group"), db)
      | some _ =>
          if roleOr roleInGroup ∉ validMemberRoles then
            (.error (.validation "invalid role_in_group"), db)
          else
            match db.addMember now
              ⟨groupID, userID, roleOr roleInGroup, actorNull actorID⟩ with
            | (.error cause, after) => (.error (.call cause), after)
            | (.ok (), after) => (.ok (after.listMembers groupID), after) := by
  unfold addMember
  rw [Program.run_bind, run_ensureGroup]
  cases db.liveGroup groupID with
  | none => rfl
  | some group =>
      dsimp only
      change (ite (roleOr roleInGroup ∉ validMemberRoles) _ _ : MembersProg _).run _ _ _ = _
      split
      · rfl
      · rw [Program.run_bind, Program.run_perform]
        simp only [serveMembers]
        unfold roleOr
        rcases db.addMember now _ with ⟨_ | _, after⟩ <;> rfl

/-- An addition is rejected, or it is written and the members are listed. -/
theorem addMember_cases (actorID groupID userID : Uuid) (roleInGroup : String) :
    let run := (addMember actorID groupID userID roleInGroup).run serveMembers now db
    let params : AddMemberParams :=
      ⟨groupID, userID, roleOr roleInGroup, actorNull actorID⟩
    (∃ err, run = (.error err, db)) ∨
    ∃ group after, db.liveGroup groupID = some group ∧ db.addMember now params = (.ok (), after) ∧
      run = (.ok (after.listMembers groupID), after) := by
  dsimp only
  rw [run_addMember]
  cases db.liveGroup groupID with
  | none => exact Or.inl ⟨_, rfl⟩
  | some group =>
      dsimp only
      split
      · exact Or.inl ⟨_, rfl⟩
      · cases hquery : db.addMember now ⟨groupID, userID, roleOr roleInGroup, actorNull actorID⟩ with
        | mk outcome after =>
            cases outcome with
            | ok => exact Or.inr ⟨group, after, rfl, rfl, rfl⟩
            | error cause =>
                obtain rfl := MembersDb.addMember_error hquery
                exact Or.inl ⟨_, rfl⟩

end Run

end Service

end Skolva.Groups
