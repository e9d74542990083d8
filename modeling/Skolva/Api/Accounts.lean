import Skolva.Api.Authors
import Skolva.Api.Writes
import Skolva.Auth.AuditedRequests

/-! # The log over the calls of all services

For an actor who is a user, a call does the same with the log as without. Its entries name the
actor, and there is one about each row of the audited tables that it changes.
-/

namespace Skolva.Api

open Dbexec Effect Audit

/-- The actor of the transactions of a call. -/
def Call.actorID : Call → Uuid
  | .auth call => call.actorID
  | .createContact _ actorID _ _ | .updateContact actorID _ _ _ | .deleteContact actorID _ _ =>
      actorID
  | .createGroup _ actorID _ _ _ | .updateGroup actorID _ _ _ _ _ | .deleteGroup actorID _ =>
      actorID
  | _ => Uuid.nil

/-- The audited table that a call can write to. -/
def Call.auditedTable : Call → Option String
  | .auth _ => some Auth.userTable.name
  | .createContact .. | .updateContact .. | .deleteContact .. => some Crm.contactTable.name
  | .createGroup .. | .updateGroup .. | .deleteGroup .. => some Groups.groupTable.name
  | _ => none

/-- The log has grown by these entries, all about one table and of one actor. There is one about
each row of the audited tables that has changed. -/
structure Accounted (actor : Option Uuid) (table : Option String) (store after : AuditedDb)
    (new : List AuditLog) : Prop where
  log : after.2 = new ++ store.2
  table : ∀ log ∈ new, table = some log.tableName
  users : Auth.userTable.trail.Accounts store.1.auth.users after.1.auth.users actor new
  contacts : Crm.contactTable.trail.Accounts store.1.contacts after.1.contacts actor new
  groups : Groups.groupTable.trail.Accounts store.1.groups after.1.groups actor new

/-! ## The tables that stay -/

/-- Rows that are as before need no entry. -/
theorem accounts_self {Item : Type} {authored : Authored Item} {items : List Item}
    {actor : Option Uuid} {new : List AuditLog} (hactor : ∀ log ∈ new, log.actorUserId = actor) :
    authored.trail.Accounts items items actor new where
  actor := hactor
  kept _ hrow _ := hrow

theorem Accounted.nothing {store after : AuditedDb} {table : Option String}
    (hleaves : LeavesAudited store.1 after.1) (hlog : after.2 = store.2) (actor : Option Uuid) :
    Accounted actor table store after [] where
  log := hlog
  table := nofun
  users := hleaves.users ▸ accounts_self nofun
  contacts := hleaves.contacts ▸ accounts_self nofun
  groups := hleaves.groups ▸ accounts_self nofun

/-- The calls that write to no audited table leave all three. -/
theorem leavesAudited_process (s : Auth.Service) (now : Nat) (db : Db) {call : Call}
    (hcall : call.auditedTable = none) : LeavesAudited db (process s now call db).2 := by
  cases call with
  | auth | createContact | updateContact | deleteContact | createGroup | updateGroup
  | deleteGroup => cases hcall
  | listUsers limit offset => exact .refl db
  | searchUsers hits =>
      simp only [process, runDirectory, Auth.Directory.run_searchUsers]
      exact .refl db
  | listUserRoles userID =>
      simp only [process, runDirectory, Auth.Directory.run_listUserRoles]
      exact .refl db
  | assignRole actorID userID roleSlug => exact leaves_assignRole db actorID userID roleSlug
  | removeRole userID roleSlug => exact leaves_removeRole db userID roleSlug
  | getGroup id =>
      simp only [process, runGroups, moment, Groups.Service.run_get]
      exact .refl db
  | getAddress | upsertAddress | getPreferences | upsertPreferences | listContacts =>
      exact leaves_runProfile db _ _
  | listGroups | addMember | listMembers | removeMember | listUserGroups =>
      exact leaves_runMembers db _ _

/-! ## One call -/

section Call

variable {s : Auth.Service} {now : Nat} {store : AuditedDb} {α : Type}

/-- The second result is that of a call with the log, of which the first is that without. -/
structure Agrees (actor : Option Uuid) (table : Option String) (store : AuditedDb)
    (result : Reply s.lib.Token × Db) (audited : Reply s.lib.Token × AuditedDb) : Prop where
  reply : audited.1 = result.1
  state : audited.2.1 = result.2
  accounted : ∃ new, Accounted actor table store audited.2 new

theorem agrees_contacts {actorID : Uuid} (answer : α → Answer s.lib.Token)
    {method : Crm.Prog (Except Crm.Err α)} (huses : method.Uses (Crm.Op.By actorID))
    (hknown : ∀ id ∈ Crm.actorNull actorID, id ∈ store.1.userIDs) :
    Agrees (Crm.actorNull actorID) (some Crm.contactTable.name) store
      (runContacts s now store.1 answer method) (runContactsAudited s now store answer method) := by
  have hsimulates := Crm.simulates_serveAudited actorID (moment now) (store.1.crm, store.2)
  obtain ⟨hresp, haccounted⟩ := Program.Simulates.run hsimulates huses (.refl hknown)
  obtain ⟨new, hlog, haccounts, htable⟩ := haccounted.entries
  refine ⟨?_, ?_, new, hlog, fun log hlog => ?_, ?_, ?_, ?_⟩
  · simp only [runContactsAudited, runContacts, hresp]
  · simp only [runContactsAudited, runContacts, haccounted.same]
  · rw [htable log hlog]
  · exact accounts_self haccounts.actor
  · simp only [runContactsAudited, haccounted.same]
    exact haccounts
  · exact accounts_self haccounts.actor

theorem agrees_groups {actorID : Uuid} (answer : α → Answer s.lib.Token)
    {method : Groups.Prog (Except Groups.Err α)} (huses : method.Uses (Groups.Op.By actorID))
    (hknown : ∀ id ∈ Groups.actorNull actorID, id ∈ store.1.userIDs) :
    Agrees (Groups.actorNull actorID) (some Groups.groupTable.name) store
      (runGroups s now store.1 answer method) (runGroupsAudited s now store answer method) := by
  have hsimulates := Groups.simulates_serveAudited actorID (moment now) (store.1.groupsDb, store.2)
  obtain ⟨hresp, haccounted⟩ := Program.Simulates.run hsimulates huses (.refl hknown)
  obtain ⟨new, hlog, haccounts, htable⟩ := haccounted.entries
  refine ⟨?_, ?_, new, hlog, fun log hlog => ?_, ?_, ?_, ?_⟩
  · simp only [runGroupsAudited, runGroups, hresp]
  · simp only [runGroupsAudited, runGroups, haccounted.same]
  · rw [htable log hlog]
  · exact accounts_self haccounts.actor
  · exact accounts_self haccounts.actor
  · simp only [runGroupsAudited, haccounted.same]
    exact haccounts

/-- What the log says of `users` says it of all three tables, where the others stay. -/
theorem accounted_of_users {actor : Option Uuid} {after : Auth.Db × List AuditLog}
    {db : Auth.Db}
    (haccounted : Auth.UsersAccounted actor (store.1.auth, store.2) db after) :
    ∃ new, Accounted actor (some Auth.userTable.name) store
      ({ store.1 with auth := after.1 }, after.2) new := by
  obtain ⟨new, hlog, haccounts, htable⟩ := haccounted.entries
  refine ⟨new, hlog, fun log hlog => ?_, ?_, accounts_self haccounts.actor,
    accounts_self haccounts.actor⟩
  · rw [htable log hlog]
  · simp only [haccounted.same]
    exact haccounts

theorem uses_inSession_call (call : Auth.ServiceCall) :
    (s.call call).Uses (Auth.Op.InSession call.actorID) := by
  cases call with
  | register | updateUser | deleteUser =>
      refine Auth.uses_inSession ?_ _
      exact not_false
  | _ => exact Program.uses_of_forall Auth.inSession_nil _

theorem agrees_auth (call : Auth.ServiceCall)
    (hknown : ∀ id ∈ Auth.actorNull call.actorID, id ∈ store.1.userIDs) :
    Agrees (Auth.actorNull call.actorID) (some Auth.userTable.name) store
      (runAuth s now store.1 call) (runAuthAudited s now store call) := by
  have hsimulates :=
    Auth.simulates_serveAudited s.lib call.actorID now (store.1.auth, store.2)
  obtain ⟨hresp, haccounted⟩ :=
    Program.Simulates.run hsimulates (uses_inSession_call call) (.refl hknown)
  refine ⟨?_, ?_, accounted_of_users haccounted⟩
  · simp only [runAuthAudited, Auth.Service.processAudited, hresp]
    rfl
  · simp only [runAuthAudited, Auth.Service.processAudited, haccounted.same]
    rfl

theorem agrees_unaudited {call : Call} (hcall : call.auditedTable = none) (actor : Option Uuid) :
    Agrees actor none store (process s now call store.1) (runUnaudited s now store call) := by
  have hleaves : LeavesAudited store.1 (runUnaudited s now store call).2.1 :=
    leavesAudited_process s now store.1 hcall
  exact ⟨rfl, rfl, [], .nothing hleaves rfl actor⟩

theorem by_of_readsContacts {actorID : Uuid} (op : Crm.Op) (hop : op.Reads) : op.By actorID := by
  cases op with
  | getContact id => trivial
  | _ => exact hop.elim

theorem by_of_readsGroups {actorID : Uuid} (op : Groups.Op) (hop : op.Reads) : op.By actorID := by
  cases op with
  | getByID id => trivial
  | _ => exact hop.elim

/-- For an actor who is a user, a call does the same with the log as without, and its entries
account for what it changes. -/
theorem agrees_processAudited (call : Call)
    (hknown : ∀ id ∈ Auth.actorNull call.actorID, id ∈ store.1.userIDs) :
    Agrees (Auth.actorNull call.actorID) call.auditedTable store (process s now call store.1)
      (processAudited s now call store) := by
  cases call with
  | auth call => exact agrees_auth call hknown
  | createContact id actorID userID req =>
      rw [process, processAudited]
      exact agrees_contacts .contact (Crm.Service.uses_createContact fun _ _ _ _ => rfl) hknown
  | updateContact actorID userID contactID req =>
      rw [process, processAudited]
      exact agrees_contacts .contact
        (Crm.Service.uses_updateContact by_of_readsContacts fun _ _ _ _ _ => rfl) hknown
  | deleteContact actorID userID contactID =>
      rw [process, processAudited]
      exact agrees_contacts (fun _ => .done)
        (Crm.Service.uses_deleteContact by_of_readsContacts rfl) hknown
  | createGroup id actorID name description groupType =>
      rw [process, processAudited]
      exact agrees_groups .group (Groups.Service.uses_create fun _ _ _ => rfl) hknown
  | updateGroup actorID id name description groupType isActive =>
      rw [process, processAudited]
      exact agrees_groups .group
        (Groups.Service.uses_update by_of_readsGroups fun _ _ _ _ => rfl) hknown
  | deleteGroup actorID id =>
      rw [process, processAudited]
      exact agrees_groups (fun _ => .done)
        (Groups.Service.uses_delete by_of_readsGroups rfl) hknown
  | _ =>
      simp only [processAudited]
      exact agrees_unaudited rfl _

end Call

end Skolva.Api
