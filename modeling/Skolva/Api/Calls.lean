import Skolva.Auth.Calls
import Skolva.Auth.Directory
import Skolva.Crm.Profile
import Skolva.Groups.Members

/-! # The methods of all services on one database

The modules share `users`. A call of one of their methods runs on the tables of its module. The
texts in its arguments are without U+0000, which PostgreSQL refuses in a TEXT: a method that brings
one fails in the database, and changes nothing.
-/

namespace Skolva.Api

open Dbexec Effect

/-- The tables of the three modules. -/
structure Db where
  auth : Auth.Db
  contacts : List Crm.ContactPoint
  addresses : List Crm.UserAddress
  preferences : List Crm.UserPreferences
  groups : List Groups.GroupRow
  members : List Groups.GroupMember

namespace Db

variable (db : Db)

def userIDs : List Uuid := db.auth.users.map Auth.User.id

def crm : Crm.Db := ⟨db.userIDs, db.contacts⟩

def profile : Crm.ProfileDb := ⟨db.userIDs, db.contacts, db.addresses, db.preferences⟩

def groupsDb : Groups.Db := ⟨db.userIDs, db.groups⟩

def membersDb : Groups.MembersDb := ⟨db.auth.users, db.groups, db.members⟩

end Db

/-- The errors of the services. -/
inductive Err where
  | auth (err : Auth.Err)
  | crm (err : Crm.Err)
  | groups (err : Groups.Err)
  deriving DecidableEq

def Err.IsNotFound : Err → Prop
  | .auth (.notFound _) | .crm (.notFound _) | .groups (.notFound _) => True
  | _ => False

/-- What a method returns beside its error. -/
inductive Answer (Token : Type) where
  | done
  | auth (answer : Auth.Answer Token)
  | users (list : List Auth.UserResponse)
  | roles (list : List Auth.Role)
  | address (address : Crm.Address)
  | preferences (preferences : Crm.Preferences)
  | contact (contact : Crm.Contact)
  | contacts (list : List Crm.Contact)
  | group (group : Groups.Group)
  | groups (list : List Groups.Group)
  | members (list : List Groups.Member)
  | userGroups (list : List Groups.UserGroup)

abbrev Reply (Token : Type) := Except Err (Answer Token)

inductive Call where
  | auth (call : Auth.ServiceCall)
  | listUsers (limit offset : Nat)
  /-- The searcher finds these users for the text. -/
  | searchUsers (hits : List Uuid)
  | listUserRoles (userID : Uuid)
  | assignRole (actorID userID : Uuid) (roleSlug : String)
  | removeRole (userID : Uuid) (roleSlug : String)
  | getAddress (userID : Uuid)
  | upsertAddress (actorID userID : Uuid) (req : Crm.AddressRequest)
  | getPreferences (userID : Uuid)
  | upsertPreferences (actorID userID : Uuid) (req : Crm.PreferencesRequest)
  | listContacts (userID : Uuid)
  | createContact (id actorID userID : Uuid) (req : Crm.CreateContactRequest)
  | updateContact (actorID userID contactID : Uuid) (req : Crm.UpdateContactRequest)
  | deleteContact (actorID userID contactID : Uuid)
  | createGroup (id actorID : Uuid) (name : String) (description : Option String)
      (groupType : String)
  | getGroup (id : Uuid)
  | listGroups (groupType : String) (limit offset : Nat)
  | updateGroup (actorID id : Uuid) (name : String) (description : Option String)
      (groupType : String) (isActive : Option Bool)
  | deleteGroup (actorID id : Uuid)
  | addMember (actorID groupID userID : Uuid) (roleInGroup : String)
  | listMembers (groupID : Uuid)
  | removeMember (groupID userID : Uuid)
  | listUserGroups (userID : Uuid)

section Process

variable (s : Auth.Service) (now : Nat) (db : Db) {α : Type}

/-- The result of a method of one module as a reply. -/
def reply {ε Token : Type} (err : ε → Err) (answer : α → Answer Token) :
    Except ε α → Reply Token
  | .error cause => .error (err cause)
  | .ok value => .ok (answer value)

theorem reply_ok {α ε Token : Type} {err : ε → Err} {answer : α → Answer Token}
    {outcome : Except ε α} {given : Answer Token}
    (hreply : reply err answer outcome = .ok given) :
    ∃ value, outcome = .ok value ∧ answer value = given := by
  cases outcome with
  | error cause => cases hreply
  | ok value => exact ⟨value, rfl, Except.ok.inj hreply⟩

def runAuth (call : Auth.ServiceCall) : Reply s.lib.Token × Db :=
  let (outcome, after) := s.processCall now call db.auth
  (reply .auth .auth outcome, { db with auth := after })

def runDirectory (answer : α → Answer s.lib.Token)
    (method : Auth.DirectoryProg (Except Auth.Err α)) : Reply s.lib.Token × Db :=
  let (outcome, after) := method.run (Auth.serveDirectory s.lib) now db.auth
  (reply .auth answer outcome, { db with auth := after })

def runProfile (answer : α → Answer s.lib.Token)
    (method : Crm.ProfileProg (Except Crm.Err α)) : Reply s.lib.Token × Db :=
  let (outcome, after) := method.run Crm.serveProfile now db.profile
  (reply .crm answer outcome,
    { db with addresses := after.addresses, preferences := after.preferences })

/-- No statement fails for other reasons than the database gives. -/
def moment : Moment := ⟨now, fun _ => false⟩

def runContacts (answer : α → Answer s.lib.Token) (method : Crm.Prog (Except Crm.Err α)) :
    Reply s.lib.Token × Db :=
  let (outcome, after) := method.run Crm.serve (moment now) db.crm
  (reply .crm answer outcome, { db with contacts := after.contacts })

def runGroups (answer : α → Answer s.lib.Token) (method : Groups.Prog (Except Groups.Err α)) :
    Reply s.lib.Token × Db :=
  let (outcome, after) := method.run Groups.serve (moment now) db.groupsDb
  (reply .groups answer outcome, { db with groups := after.groups })

def runMembers (answer : α → Answer s.lib.Token)
    (method : Groups.MembersProg (Except Groups.Err α)) : Reply s.lib.Token × Db :=
  let (outcome, after) := method.run Groups.serveMembers now db.membersDb
  (reply .groups answer outcome, { db with members := after.members })

end Process

def process (s : Auth.Service) (now : Nat) : Call → Db → Reply s.lib.Token × Db
  | .auth call, db => runAuth s now db call
  | .listUsers limit offset, db =>
      runDirectory s now db .users (Auth.Directory.listUsers limit offset)
  | .searchUsers hits, db => runDirectory s now db .users (Auth.Directory.searchUsers hits)
  | .listUserRoles userID, db => runDirectory s now db .roles (Auth.Directory.listUserRoles userID)
  | .assignRole actorID userID roleSlug, db =>
      runDirectory s now db .roles (Auth.Directory.assignRole actorID userID roleSlug)
  | .removeRole userID roleSlug, db =>
      runDirectory s now db (fun _ => .done) (Auth.Directory.removeRole userID roleSlug)
  | .getAddress userID, db => runProfile s now db .address (Crm.Service.getAddress userID)
  | .upsertAddress actorID userID req, db =>
      runProfile s now db .address (Crm.Service.upsertAddress actorID userID req)
  | .getPreferences userID, db =>
      runProfile s now db .preferences (Crm.Service.getPreferences userID)
  | .upsertPreferences actorID userID req, db =>
      runProfile s now db .preferences (Crm.Service.upsertPreferences actorID userID req)
  | .listContacts userID, db => runProfile s now db .contacts (Crm.Service.listContacts userID)
  | .createContact id actorID userID req, db =>
      runContacts s now db .contact (Crm.Service.createContact id actorID userID req)
  | .updateContact actorID userID contactID req, db =>
      runContacts s now db .contact (Crm.Service.updateContact actorID userID contactID req)
  | .deleteContact actorID userID contactID, db =>
      runContacts s now db (fun _ => .done) (Crm.Service.deleteContact actorID userID contactID)
  | .createGroup id actorID name description groupType, db =>
      runGroups s now db .group (Groups.Service.create id actorID name description groupType)
  | .getGroup id, db => runGroups s now db .group (Groups.Service.get id)
  | .listGroups groupType limit offset, db =>
      runMembers s now db .groups (Groups.Service.list groupType limit offset)
  | .updateGroup actorID id name description groupType isActive, db =>
      runGroups s now db .group
        (Groups.Service.update actorID id name description groupType isActive)
  | .deleteGroup actorID id, db =>
      runGroups s now db (fun _ => .done) (Groups.Service.delete actorID id)
  | .addMember actorID groupID userID roleInGroup, db =>
      runMembers s now db .members (Groups.Service.addMember actorID groupID userID roleInGroup)
  | .listMembers groupID, db => runMembers s now db .members (Groups.Service.listMembers groupID)
  | .removeMember groupID userID, db =>
      runMembers s now db (fun _ => .done) (Groups.Service.removeMember groupID userID)
  | .listUserGroups userID, db =>
      runMembers s now db .userGroups (Groups.Service.listUserGroups userID)

def Call.IsAuth : Call → Prop
  | .auth _ => True
  | _ => False

/-- The other methods write no table of the auth module but `user_roles`. -/
theorem auth_process (s : Auth.Service) (now : Nat) (db : Db) {call : Call} (hcall : ¬call.IsAuth) :
    ∃ userRoles, (process s now call db).2.auth = { db.auth with userRoles := userRoles } := by
  cases call with
  | auth call => exact absurd trivial hcall
  | assignRole actorID userID roleSlug =>
      simp only [process, runDirectory, Auth.Directory.run_assignRole]
      cases db.auth.liveUser userID with
      | none => exact ⟨_, rfl⟩
      | some user =>
          cases db.auth.liveRole roleSlug with
          | none => exact ⟨_, rfl⟩
          | some role =>
              unfold Auth.Db.assignRole
              split_ifs <;> exact ⟨_, rfl⟩
  | removeRole userID roleSlug =>
      simp only [process, runDirectory, Auth.Directory.run_removeRole]
      cases db.auth.liveUser userID <;> exact ⟨_, rfl⟩
  | listUserRoles userID =>
      simp only [process, runDirectory, Auth.Directory.run_listUserRoles]
      exact ⟨_, rfl⟩
  | searchUsers hits =>
      simp only [process, runDirectory, Auth.Directory.run_searchUsers]
      exact ⟨_, rfl⟩
  | _ => exact ⟨_, rfl⟩

abbrev ApiEntry (s : Auth.Service) := Entry Call (Reply s.lib.Token) Db

/-- Serial runs of calls under a clock that does not go back. -/
def ApiRun (s : Auth.Service) (start : Db) : List (ApiEntry s) → Db → Prop :=
  Serial (process s) (fun history now _ => ClockForward history now) start

/-! ## Runs of given calls, one every ten microseconds -/

namespace Sample

open Auth.Sample (service)

/-- Alice, with nothing in the other tables. -/
def db : Db := ⟨Auth.Sample.db, [], [], [], [], []⟩

/-- A group. -/
def team : Groups.GroupRow where
  id := 3
  name := "Jugend"
  description := none
  groupType := "mannschaft"
  isActive := true
  createdAt := 0
  updatedAt := 0
  deletedAt := none
  createdBy := none
  updatedBy := none

def entryAt (now : Nat) (request : Call) (before : Db) : ApiEntry service :=
  ⟨before, now, request, (process service now request before).1,
    (process service now request before).2⟩

/-- The history of these calls, the latest of which comes first. -/
def record (start : Db) : List Call → List (ApiEntry service)
  | [] => []
  | call :: calls =>
      let history := record start calls
      entryAt (10 * (calls.length + 1)) call ((history.head?.map Entry.after).getD start) :: history

def stateAfter (start : Db) (calls : List Call) : Db :=
  ((record start calls).head?.map Entry.after).getD start

theorem run_record (start : Db) (calls : List Call) :
    ApiRun service start (record start calls) (stateAfter start calls) := by
  induction calls with
  | nil => exact .nil
  | cons call calls ih =>
      refine Serial.cons (10 * (calls.length + 1)) call ih fun entry hentry => ?_
      cases calls with
      | nil => exact absurd hentry (Option.not_mem_none _)
      | cons last calls =>
          obtain rfl := Option.some.inj hentry
          simp only [entryAt, List.length_cons]
          omega

end Sample

end Skolva.Api
