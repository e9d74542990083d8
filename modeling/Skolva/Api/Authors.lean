import Skolva.Api.Calls
import Skolva.Auth.UserAuthors
import Skolva.Crm.ContactAuthors
import Skolva.Groups.GroupAuthors

/-! # The column `updated_by` and the audit trail

The calls of all services on their tables and `audit_logs`, and what they leave of the rule
that a row of `users`, `user_contact_points` or `groups` names the actor of its latest entry.
-/

namespace Skolva.Api

open Dbexec Effect Audit

/-! ## The calls with the log -/

/-- The tables of the modules, and `audit_logs` with its latest entry first. -/
abbrev AuditedDb := Db × List AuditLog

section Process

variable (s : Auth.Service) (now : Nat) (store : AuditedDb) {α : Type}

def runAuthAudited (call : Auth.ServiceCall) : Reply s.lib.Token × AuditedDb :=
  let (outcome, after, logs) := s.processAudited now call (store.1.auth, store.2)
  (reply .auth .auth outcome, { store.1 with auth := after }, logs)

def runContactsAudited (answer : α → Answer s.lib.Token) (method : Crm.Prog (Except Crm.Err α)) :
    Reply s.lib.Token × AuditedDb :=
  let (outcome, after, logs) := method.run Crm.serveAudited (moment now) (store.1.crm, store.2)
  (reply .crm answer outcome, { store.1 with contacts := after.contacts }, logs)

def runGroupsAudited (answer : α → Answer s.lib.Token)
    (method : Groups.Prog (Except Groups.Err α)) : Reply s.lib.Token × AuditedDb :=
  let (outcome, after, logs) := method.run Groups.serveAudited (moment now)
    (store.1.groupsDb, store.2)
  (reply .groups answer outcome, { store.1 with groups := after.groups }, logs)

/-- A call that writes to no audited table. -/
def runUnaudited (call : Call) : Reply s.lib.Token × AuditedDb :=
  let (outcome, after) := process s now call store.1
  (outcome, after, store.2)

end Process

def processAudited (s : Auth.Service) (now : Nat) :
    Call → AuditedDb → Reply s.lib.Token × AuditedDb
  | .auth call, store => runAuthAudited s now store call
  | .createContact id actorID userID req, store =>
      runContactsAudited s now store .contact (Crm.Service.createContact id actorID userID req)
  | .updateContact actorID userID contactID req, store =>
      runContactsAudited s now store .contact
        (Crm.Service.updateContact actorID userID contactID req)
  | .deleteContact actorID userID contactID, store =>
      runContactsAudited s now store (fun _ => .done)
        (Crm.Service.deleteContact actorID userID contactID)
  | .createGroup id actorID name description groupType, store =>
      runGroupsAudited s now store .group
        (Groups.Service.create id actorID name description groupType)
  | .updateGroup actorID id name description groupType isActive, store =>
      runGroupsAudited s now store .group
        (Groups.Service.update actorID id name description groupType isActive)
  | .deleteGroup actorID id, store =>
      runGroupsAudited s now store (fun _ => .done) (Groups.Service.delete actorID id)
  | call, store => runUnaudited s now store call

abbrev AuditedEntry (s : Auth.Service) := Entry Call (Reply s.lib.Token) AuditedDb

/-- Serial runs of calls under a clock that does not go back. -/
def AuditedRun (s : Auth.Service) (start : AuditedDb) : List (AuditedEntry s) → AuditedDb → Prop :=
  Serial (processAudited s) (fun history now _ => ClockForward history now) start

/-! ## The rule -/

/-- The audited tables and the log are empty. -/
structure Fresh (store : AuditedDb) : Prop where
  users : store.1.auth.users = []
  contacts : store.1.contacts = []
  groups : store.1.groups = []
  logs : store.2 = []

/-- In each row of the three tables `updated_by` is the actor of the latest entry about it. -/
structure AuthorsAgree (store : AuditedDb) : Prop where
  users : Auth.userTable.Agrees store.1.auth.users store.2
  contacts : Crm.contactTable.Agrees store.1.contacts store.2
  groups : Groups.groupTable.Agrees store.1.groups store.2

instance (store : AuditedDb) : Decidable (AuthorsAgree store) :=
  decidable_of_iff
    (Auth.userTable.Agrees store.1.auth.users store.2 ∧
      Crm.contactTable.Agrees store.1.contacts store.2 ∧
      Groups.groupTable.Agrees store.1.groups store.2)
    ⟨fun h => ⟨h.1, h.2.1, h.2.2⟩, fun h => ⟨h.users, h.contacts, h.groups⟩⟩

/-- The keys of the three tables. -/
structure Keyed (db : Db) : Prop where
  users : (db.auth.users.map Auth.User.id).Nodup
  contacts : (db.contacts.map Crm.ContactPoint.id).Nodup
  groups : (db.groups.map Groups.GroupRow.id).Nodup

/-- In all rows that the call writes, `updated_by` is afterwards the actor of the session. -/
def Call.Signs (s : Auth.Service) (now : Nat) (db : Db) : Call → Prop
  | .auth call => call.Signs s now db.auth
  | .createContact id actorID userID req => db.crm.CreateSigns id actorID userID req
  | .updateContact actorID userID contactID req => db.crm.UpdateSigns actorID userID contactID req
  | _ => True

/-! ## One call -/

section Call

variable {s : Auth.Service} {now : Nat} {store : AuditedDb}

/-- The keys are still distinct, and the rule still holds if and only if the call signs. -/
def Keeps (signs : Prop) (after : AuditedDb) : Prop :=
  Keyed after.1 ∧ (AuthorsAgree after ↔ signs)

theorem keeps_auth (hkeyed : Keyed store.1) (hagree : AuthorsAgree store)
    (call : Auth.ServiceCall) :
    Keeps (call.Signs s now store.1.auth) (runAuthAudited s now store call).2 := by
  have htraced := Auth.traced_processAudited s now call
    (show Auth.userTable.Lawful (store.1.auth, store.2).1.users store.2 from
      ⟨hkeyed.users, hagree.users⟩)
  have hcontacts := hagree.contacts.extends htraced.log (by decide)
  have hgroups := hagree.groups.extends htraced.log (by decide)
  refine ⟨⟨htraced.ids, hkeyed.contacts, hkeyed.groups⟩, ?_⟩
  rw [← htraced.agrees_iff_signs]
  exact ⟨fun h => h.users, fun husers => ⟨husers, hcontacts, hgroups⟩⟩

theorem keeps_contacts {α : Type} {answer : α → Answer s.lib.Token}
    {method : Crm.Prog (Except Crm.Err α)} {signs : Prop} (hkeyed : Keyed store.1)
    (hagree : AuthorsAgree store)
    (hleads : Crm.contactTable.Lawful store.1.contacts store.2 →
      Crm.Leads signs (store.1.crm, store.2)
        (method.run Crm.serveAudited (moment now) (store.1.crm, store.2)).2) :
    Keeps signs (runContactsAudited s now store answer method).2 := by
  have htraced := (hleads ⟨hkeyed.contacts, hagree.contacts⟩).2
  have husers := hagree.users.extends htraced.log (by decide)
  have hgroups := hagree.groups.extends htraced.log (by decide)
  refine ⟨⟨hkeyed.users, htraced.ids, hkeyed.groups⟩, ?_⟩
  rw [← htraced.agrees_iff_signs]
  exact ⟨fun h => h.contacts, fun hcontacts => ⟨husers, hcontacts, hgroups⟩⟩

theorem keeps_groups {α : Type} {answer : α → Answer s.lib.Token}
    {method : Groups.Prog (Except Groups.Err α)} (hkeyed : Keyed store.1)
    (hagree : AuthorsAgree store) (huses : method.Uses Groups.Op.Signs) :
    Keeps True (runGroupsAudited s now store answer method).2 := by
  have htraced := (Groups.leads_of_uses now (store.1.groupsDb, store.2) huses
    ⟨hkeyed.groups, hagree.groups⟩).2
  have husers := hagree.users.extends htraced.log (by decide)
  have hcontacts := hagree.contacts.extends htraced.log (by decide)
  refine ⟨⟨hkeyed.users, hkeyed.contacts, htraced.ids⟩, ?_⟩
  rw [← htraced.agrees_iff_signs]
  exact ⟨fun h => h.groups, fun hgroups => ⟨husers, hcontacts, hgroups⟩⟩

/-- The three tables are as before. -/
structure LeavesAudited (db after : Db) : Prop where
  users : after.auth.users = db.auth.users
  contacts : after.contacts = db.contacts
  groups : after.groups = db.groups

theorem LeavesAudited.refl (db : Db) : LeavesAudited db db := ⟨rfl, rfl, rfl⟩

theorem leaves_assignRole (db : Db) (actorID userID : Uuid) (roleSlug : String) :
    LeavesAudited db (process s now (.assignRole actorID userID roleSlug) db).2 := by
  simp only [process, runDirectory, Auth.Directory.run_assignRole]
  cases db.auth.liveUser userID with
  | none => exact .refl db
  | some user =>
      cases db.auth.liveRole roleSlug with
      | none => exact .refl db
      | some role =>
          unfold Auth.Db.assignRole
          split_ifs
          · exact .refl db
          · exact ⟨rfl, rfl, rfl⟩
          · exact .refl db

theorem leaves_removeRole (db : Db) (userID : Uuid) (roleSlug : String) :
    LeavesAudited db (process s now (.removeRole userID roleSlug) db).2 := by
  simp only [process, runDirectory, Auth.Directory.run_removeRole]
  cases db.auth.liveUser userID with
  | none => exact .refl db
  | some user => exact ⟨rfl, rfl, rfl⟩

theorem leaves_runProfile {α : Type} (db : Db) (answer : α → Answer s.lib.Token)
    (method : Crm.ProfileProg (Except Crm.Err α)) :
    LeavesAudited db (runProfile s now db answer method).2 := ⟨rfl, rfl, rfl⟩

theorem leaves_runMembers {α : Type} (db : Db) (answer : α → Answer s.lib.Token)
    (method : Groups.MembersProg (Except Groups.Err α)) :
    LeavesAudited db (runMembers s now db answer method).2 := ⟨rfl, rfl, rfl⟩

theorem keeps_unaudited (hkeyed : Keyed store.1) (hagree : AuthorsAgree store) {call : Call}
    (hleaves : LeavesAudited store.1 (process s now call store.1).2) :
    Keeps True (runUnaudited s now store call).2 := by
  refine ⟨⟨?_, ?_, ?_⟩, iff_of_true ⟨?_, ?_, ?_⟩ trivial⟩
  all_goals simp only [runUnaudited, hleaves.users, hleaves.contacts, hleaves.groups]
  · exact hkeyed.users
  · exact hkeyed.contacts
  · exact hkeyed.groups
  · exact hagree.users
  · exact hagree.contacts
  · exact hagree.groups

/-- A call keeps the rule if and only if it signs what it writes. -/
theorem keeps_processAudited (hkeyed : Keyed store.1) (hagree : AuthorsAgree store) (call : Call) :
    Keeps (call.Signs s now store.1) (processAudited s now call store).2 := by
  cases call with
  | auth call => exact keeps_auth hkeyed hagree call
  | createContact id actorID userID req =>
      rw [processAudited]
      exact keeps_contacts hkeyed hagree fun hlawful => Crm.leads_createContact hlawful id req
  | updateContact actorID userID contactID req =>
      rw [processAudited]
      exact keeps_contacts hkeyed hagree fun hlawful => Crm.leads_updateContact hlawful req
  | deleteContact actorID userID contactID =>
      rw [processAudited]
      exact keeps_contacts hkeyed hagree fun hlawful => Crm.leads_deleteContact hlawful
  | createGroup id actorID name description groupType =>
      rw [processAudited]
      exact keeps_groups hkeyed hagree (Groups.signs_create id actorID name description groupType)
  | updateGroup actorID id name description groupType isActive =>
      rw [processAudited]
      exact keeps_groups hkeyed hagree
        (Groups.signs_update actorID id name description groupType isActive)
  | deleteGroup actorID id =>
      rw [processAudited]
      exact keeps_groups hkeyed hagree (Groups.signs_delete actorID id)
  | listUsers limit offset =>
      simp only [processAudited]
      exact keeps_unaudited hkeyed hagree (.refl _)
  | searchUsers hits =>
      simp only [processAudited]
      refine keeps_unaudited hkeyed hagree ?_
      simp only [process, runDirectory, Auth.Directory.run_searchUsers]
      exact .refl _
  | listUserRoles userID =>
      simp only [processAudited]
      refine keeps_unaudited hkeyed hagree ?_
      simp only [process, runDirectory, Auth.Directory.run_listUserRoles]
      exact .refl _
  | assignRole actorID userID roleSlug =>
      simp only [processAudited]
      exact keeps_unaudited hkeyed hagree (leaves_assignRole store.1 actorID userID roleSlug)
  | removeRole userID roleSlug =>
      simp only [processAudited]
      exact keeps_unaudited hkeyed hagree (leaves_removeRole store.1 userID roleSlug)
  | getGroup id =>
      simp only [processAudited]
      refine keeps_unaudited hkeyed hagree ?_
      simp only [process, runGroups, moment, Groups.Service.run_get]
      exact .refl _
  | getAddress | upsertAddress | getPreferences | upsertPreferences | listContacts =>
      simp only [processAudited]
      refine keeps_unaudited hkeyed hagree ?_
      rw [process]
      exact leaves_runProfile store.1 _ _
  | listGroups | addMember | listMembers | removeMember | listUserGroups =>
      simp only [processAudited]
      refine keeps_unaudited hkeyed hagree ?_
      rw [process]
      exact leaves_runMembers store.1 _ _

end Call

/-! ## Every run -/

section Run

variable {s : Auth.Service} {start last : AuditedDb} {history : List (AuditedEntry s)}

/-- The call of the entry signs what it writes. -/
def Signed (entry : AuditedEntry s) : Prop :=
  entry.request.Signs s entry.instant entry.before.1

theorem keyed_fresh (hstart : Fresh start) : Keyed start.1 where
  users := by simp [hstart.users]
  contacts := by simp [hstart.contacts]
  groups := by simp [hstart.groups]

theorem authorsAgree_fresh (hstart : Fresh start) : AuthorsAgree start where
  users := by
    rw [hstart.users]
    exact Sql.Trail.Agrees.nil start.2
  contacts := by
    rw [hstart.contacts]
    exact Sql.Trail.Agrees.nil start.2
  groups := by
    rw [hstart.groups]
    exact Sql.Trail.Agrees.nil start.2

/-- From empty tables, the rule holds in every state that a run reaches if and only if all its
calls sign what they write. -/
theorem authorsAgree_iff_signed (hstart : Fresh start) (hrun : AuditedRun s start history last) :
    AuthorsAgree last ∧ (∀ entry ∈ history, AuthorsAgree entry.before) ↔
      ∀ entry ∈ history, Signed entry := by
  -- While the rule holds, the keys are distinct, too.
  suffices hmotive : (AuthorsAgree last ∧ (∀ entry ∈ history, AuthorsAgree entry.before) →
      Keyed last.1) ∧
      (AuthorsAgree last ∧ (∀ entry ∈ history, AuthorsAgree entry.before) ↔
        ∀ entry ∈ history, Signed entry) from hmotive.2
  refine hrun.invariant (motive := fun history last =>
    (AuthorsAgree last ∧ (∀ entry ∈ history, AuthorsAgree entry.before) → Keyed last.1) ∧
    (AuthorsAgree last ∧ (∀ entry ∈ history, AuthorsAgree entry.before) ↔
      ∀ entry ∈ history, Signed entry)) ?_ ?_
  · exact ⟨fun _ => keyed_fresh hstart,
      iff_of_true ⟨authorsAgree_fresh hstart, by simp⟩ (by simp)⟩
  · intro history before now request _ ⟨hkeyed, hiff⟩ _
    have hstep : AuthorsAgree before ∧ (∀ entry ∈ history, AuthorsAgree entry.before) →
        Keeps (request.Signs s now before.1) (processAudited s now request before).2 :=
      fun hagree => keeps_processAudited (hkeyed hagree) hagree.1 request
    rw [List.forall_mem_cons, List.forall_mem_cons]
    refine ⟨fun hagree => (hstep hagree.2).1, ?_, ?_⟩
    · rintro ⟨hafter, hbefore⟩
      exact ⟨(hstep hbefore).2.mp hafter, hiff.mp hbefore⟩
    · rintro ⟨hsigned, hearlier⟩
      have hbefore := hiff.mpr hearlier
      exact ⟨(hstep hbefore).2.mpr hsigned, hbefore⟩

end Run

namespace Sample

open Auth.Sample (service alice password resetDraw newPassword)

/-- No rows and no entries. -/
def empty : AuditedDb := (⟨{ Auth.Sample.db with users := [] }, [], [], [], [], []⟩, [])

theorem fresh_empty : Fresh empty := ⟨rfl, rfl, rfl, rfl⟩

/-- A history of given calls, the latest first, one every ten microseconds. -/
def audited : List Call → List (AuditedEntry service) :=
  Serial.record (processAudited service) (fun count => 10 * count) empty

def auditedState : List Call → AuditedDb :=
  Serial.recorded (processAudited service) (fun count => 10 * count) empty

theorem run_audited (calls : List Call) :
    AuditedRun service empty (audited calls) (auditedState calls) :=
  Serial.run_record (processAudited service) (fun count => 10 * count) empty
    (fun count => by omega) calls

def registerAlice : Call :=
  .auth (.register alice.id 0 Uuid.nil alice.email password alice.firstName alice.lastName)

def registerBob : Call :=
  .auth (.register 2 0 Uuid.nil "bob@example.org" password "Bob" "Bauer")

/-- A primary address by email for Alice. -/
def primaryContact (id actorID : Uuid) : Call :=
  .createContact id actorID alice.id
    { contactType := "email"
      label := none
      value := "alice@example.org"
      isPrimary := true
      isPreferred := false
      allowContact := none
      preferredTimeWindow := none
      note := none }

/-- Alice registers, and adds her address herself. -/
def ownContact : List Call := [primaryContact 5 alice.id, registerAlice]

theorem signed_ownContact : ∀ entry ∈ audited ownContact, Signed entry := by
  have hcontacts : (auditedState [registerAlice]).1.contacts = [] := rfl
  refine List.forall_mem_cons.mpr ⟨fun _ _ row hrow => ?_, List.forall_mem_singleton.mpr trivial⟩
  change row ∈ (auditedState [registerAlice]).1.contacts at hrow
  rw [hcontacts] at hrow
  cases hrow

theorem authorsAgree_ownContact : AuthorsAgree (auditedState ownContact) ∧
    ∀ entry ∈ audited ownContact, AuthorsAgree entry.before :=
  (authorsAgree_iff_signed fresh_empty (run_audited ownContact)).mpr signed_ownContact

/-- Bob adds another primary address for her. -/
def othersContact : List Call :=
  [primaryContact 6 2, primaryContact 5 alice.id, registerBob, registerAlice]

/-- Alice changes her name, and then resets her password. -/
def ownReset : List Call :=
  [.auth (.resetPassword 1 alice.id (resetDraw.plain service.lib) newPassword),
    .auth (.forgotPassword resetDraw alice.email),
    .auth (.updateUser alice.id alice.id "Alice" "Bauer" none), registerAlice]

end Sample

/-- The primary contact that another one takes the place of keeps its author, and so does a
user whose password is reset. -/
theorem not_forall_authorsAgree :
    ¬AuthorsAgree (Sample.auditedState Sample.othersContact) ∧
      ¬AuthorsAgree (Sample.auditedState Sample.ownReset) ∧
      ¬∀ (s : Auth.Service) (start last : AuditedDb) (history : List (AuditedEntry s)),
        Fresh start → AuditedRun s start history last → AuthorsAgree last := by
  have hcontact : ¬AuthorsAgree (Sample.auditedState Sample.othersContact) := by decide +kernel
  have hreset : ¬AuthorsAgree (Sample.auditedState Sample.ownReset) := by decide +kernel
  refine ⟨hcontact, hreset, fun hall => hcontact ?_⟩
  exact hall Auth.Sample.service Sample.empty _ _ Sample.fresh_empty
    (Sample.run_audited Sample.othersContact)

end Skolva.Api
