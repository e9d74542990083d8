import Skolva.Api.Calls
import Skolva.FlagUpdates

/-! # Bodies of PATCH requests

A body can leave members out. `json.Unmarshal` makes a nil pointer of such a member, or the
zero value where the request has no pointer.
-/

namespace Skolva.Crm

open Dbexec Effect

/-! ## The row of a contact -/

namespace Db

/-- The row with this key, unless it is deleted. -/
def liveContact (db : Db) (id : Uuid) : Option ContactPoint :=
  db.contacts.find? fun row => row.id = id ∧ row.deletedAt = none

/-- Clearing the former primary contact leaves the row that is excluded. -/
theorem liveContact_cleared (db : Db) (now : Nat) (clearPrimary : Bool) (userID : Uuid)
    (contactType : String) (id : Uuid) :
    (db.cleared now clearPrimary userID contactType id).liveContact id = db.liveContact id := by
  unfold cleared
  split
  next =>
    have hselects : ((fun row : ContactPoint => decide (row.id = id ∧ row.deletedAt = none)) ∘
        demote now userID contactType id) =
        fun row => decide (row.id = id ∧ row.deletedAt = none) := by
      funext row
      simp only [Function.comp_apply, demote]
      split <;> rfl
    rw [liveContact, edit, List.find?_map, hselects]
    cases hrow : db.contacts.find? fun row => row.id = id ∧ row.deletedAt = none with
    | none => rw [Option.map_none, liveContact, hrow]
    | some row =>
        have hexcluded : demote now userID contactType id row = row :=
          if_neg fun hother => hother.2 (findLive_some hrow).2.1
        rw [Option.map_some, hexcluded, liveContact, hrow]
  next => rfl

end Db

/-- An update that succeeds changes the live row. -/
theorem updateContactRow_liveContact {now : Nat} {params : UpdateContactParams} {db after : Db}
    {out : Contact} (hupdate : updateContactRow now params db = .ok (out, after)) :
    ∃ row, db.liveContact params.id = some row ∧
      after.liveContact params.id = some (Db.changedContact now params row) := by
  unfold updateContactRow at hupdate
  split at hupdate
  next => simp at hupdate
  next old hold =>
    split_ifs at hupdate
    obtain ⟨_, rfl⟩ := Prod.mk.inj (Except.ok.inj hupdate)
    have hafter := Sql.find?_updated
      (fun row : ContactPoint => row.id = params.id ∧ row.deletedAt = none)
      (fun row hrow => (by simpa [Db.changedContact] using hrow :
        (Db.changedContact now params row).id = params.id ∧
          (Db.changedContact now params row).deletedAt = none)) db.contacts
    rw [hold] at hafter
    exact ⟨old, hold, hafter⟩

/-- So does `UpdateContact`, from what it has read. -/
theorem Service.updateContact_ok {now : Nat} {db after : Db} {actorID userID contactID : Uuid}
    {req : UpdateContactRequest} {contact : Contact}
    (hrun : (updateContact actorID userID contactID req).run serve ⟨now, fun _ => false⟩ db =
      (.ok contact, after)) :
    ∃ row, db.liveContact contactID = some row ∧
      after.liveContact contactID = some
        (Db.changedContact now (updateParams actorID contactID req (contactFrom row)) row) := by
  have hread : serve ⟨now, fun _ => false⟩ (.getContact contactID) db =
      (db.getContact contactID, db) := rfl
  simp only [updateContact, Program.run_bind, Program.run_perform, hread] at hrun
  unfold Db.getContact at hrun
  cases hrow : db.contacts.find? fun row => row.id = contactID ∧ row.deletedAt = none with
  | none =>
      rw [hrow] at hrun
      cases hrun
  | some row =>
      rw [hrow] at hrun
      dsimp only at hrun
      split at hrun
      · cases hrun
      · simp only [Program.run_bind, Program.run_perform, serve] at hrun
        rcases updateContact_cases ⟨now, fun _ => false⟩ (contactFrom row).userId
            (contactFrom row).contactType req.isPrimary
            (updateParams actorID contactID req (contactFrom row)) db with
          ⟨err, htx, _⟩ | ⟨out, written, htx, hwrite⟩
        · rw [htx] at hrun
          cases hrun
        · rw [htx] at hrun
          obtain ⟨_, rfl⟩ := Prod.mk.inj hrun
          obtain ⟨old, hold, hafter⟩ := updateContactRow_liveContact hwrite
          rw [show (updateParams actorID contactID req (contactFrom row)).id = contactID from rfl,
            Db.liveContact_cleared] at hold
          obtain rfl : row = old := Option.some.inj (hrow.symm.trans hold)
          exact ⟨row, hrow, hafter⟩

end Skolva.Crm

namespace Skolva.Api

/-! ## Bodies -/

/-- A member of a JSON object, which can be left out. -/
inductive Field (α : Type) where
  | omitted
  | null
  | value (value : α)
  deriving DecidableEq

namespace Field

variable {α : Type}

/-- The member as a pointer. -/
def pointer : Field α → Option α
  | .value given => some given
  | .omitted | .null => none

/-- The member without a pointer. -/
def plain (zero : α) : Field α → α
  | .value given => given
  | .omitted | .null => zero

/-- A column that is written with the pointer loses its value to an omitted member. -/
theorem pointer_keeps_iff {field : Field α} {old : Option α} :
    (field = .omitted → field.pointer = old) ↔ (field = .omitted → old = none) := by
  refine forall_congr' fun homitted => ?_
  rw [homitted]
  exact eq_comm

theorem plain_keeps_iff {field : Field α} {zero old : α} :
    (field = .omitted → field.plain zero = old) ↔ (field = .omitted → old = zero) := by
  refine forall_congr' fun homitted => ?_
  rw [homitted]
  exact eq_comm

end Field

structure UserPatch where
  firstName : Field String
  lastName : Field String
  isActive : Field Bool

structure GroupPatch where
  name : Field String
  description : Field String
  groupType : Field String
  isActive : Field Bool

structure ContactPatch where
  label : Field String
  value : Field String
  isPrimary : Field Bool
  isPreferred : Field Bool
  allowContact : Field Bool
  preferredTimeWindow : Field String
  note : Field String

/-- A PATCH request with the identifiers of its path. -/
inductive Patch where
  | user (actorID id : Uuid) (body : UserPatch)
  | group (actorID id : Uuid) (body : GroupPatch)
  | contact (actorID userID contactID : Uuid) (body : ContactPatch)

/-! ## Handlers -/

def ContactPatch.request (body : ContactPatch) : Crm.UpdateContactRequest where
  label := body.label.pointer
  value := body.value.plain ""
  isPrimary := body.isPrimary.plain false
  isPreferred := body.isPreferred.plain false
  allowContact := body.allowContact.pointer
  preferredTimeWindow := body.preferredTimeWindow.pointer
  note := body.note.pointer

/-- `ShouldBindJSON`. A required member is not empty. -/
def Patch.bind : Patch → Except Err Call
  | user actorID id body =>
      let firstName := body.firstName.plain ""
      let lastName := body.lastName.plain ""
      if firstName = "" ∨ lastName = "" then
        .error (.auth (.validation "first_name and last_name are required"))
      else .ok (.auth (.updateUser actorID id firstName lastName body.isActive.pointer))
  | group actorID id body =>
      let name := body.name.plain ""
      let groupType := body.groupType.plain ""
      if name = "" ∨ groupType = "" then
        .error (.groups (.validation "name and group_type are required"))
      else
        .ok (.updateGroup actorID id name body.description.pointer groupType body.isActive.pointer)
  | contact actorID userID contactID body =>
      if body.value.plain "" = "" then .error (.crm (.validation "value is required"))
      else .ok (.updateContact actorID userID contactID body.request)

/-- The handlers `UpdateUser`, `Update` and `UpdateContact`. -/
def handlePatch (s : Auth.Service) (now : Nat) (patch : Patch) (db : Db) : Reply s.lib.Token × Db :=
  match patch.bind with
  | .error err => (.error err, db)
  | .ok call => process s now call db

/-! ## Omitted members -/

def UserPatch.Keeps (body : UserPatch) (before after : Auth.User) : Prop :=
  body.isActive = .omitted → after.isActive = before.isActive

structure GroupPatch.Keeps (body : GroupPatch) (before after : Groups.GroupRow) : Prop where
  description : body.description = .omitted → after.description = before.description
  isActive : body.isActive = .omitted → after.isActive = before.isActive

structure ContactPatch.Keeps (body : ContactPatch) (before after : Crm.ContactPoint) : Prop where
  label : body.label = .omitted → after.label = before.label
  isPrimary : body.isPrimary = .omitted → after.isPrimary = before.isPrimary
  isPreferred : body.isPreferred = .omitted → after.isPreferred = before.isPreferred
  allowContact : body.allowContact = .omitted → after.allowContact = before.allowContact
  preferredTimeWindow : body.preferredTimeWindow = .omitted →
    after.preferredTimeWindow = before.preferredTimeWindow
  note : body.note = .omitted → after.note = before.note

/-- The row has kept what the body omits. -/
def Patch.KeepsOmitted (before after : Db) : Patch → Prop
  | user _ id body => ∃ row changed, before.auth.liveUser id = some row ∧
      after.auth.liveUser id = some changed ∧ body.Keeps row changed
  | group _ id body => ∃ row changed, before.groupsDb.liveGroup id = some row ∧
      after.groupsDb.liveGroup id = some changed ∧ body.Keeps row changed
  | contact _ _ id body => ∃ row changed, before.crm.liveContact id = some row ∧
      after.crm.liveContact id = some changed ∧ body.Keeps row changed

/-- The members that the body omits have nothing to lose. -/
structure ContactPatch.Spares (body : ContactPatch) (row : Crm.ContactPoint) : Prop where
  label : body.label = .omitted → row.label = none
  isPrimary : body.isPrimary = .omitted → row.isPrimary = false
  isPreferred : body.isPreferred = .omitted → row.isPreferred = false
  preferredTimeWindow : body.preferredTimeWindow = .omitted → row.preferredTimeWindow = none
  note : body.note = .omitted → row.note = none

def Patch.Spares (db : Db) : Patch → Prop
  | user .. => True
  | group _ id body => ∀ row ∈ db.groupsDb.liveGroup id,
      body.description = .omitted → row.description = none
  | contact _ _ id body => ∀ row ∈ db.crm.liveContact id, body.Spares row

/-! ## What the updates do to omitted members -/

section Updates

variable (s : Auth.Service) {now : Nat} {db : Db} {answer : Answer s.lib.Token}

/-- A request whose body is accepted is a call of the service. -/
theorem handlePatch_bound {patch : Patch} (hok : (handlePatch s now patch db).1 = .ok answer) :
    ∃ call, patch.bind = .ok call ∧ handlePatch s now patch db = process s now call db := by
  unfold handlePatch at hok ⊢
  cases hbind : patch.bind with
  | error err =>
      rw [hbind] at hok
      cases hok
  | ok call => exact ⟨call, rfl, rfl⟩

theorem patchUser_keeps {actorID id : Uuid} {body : UserPatch}
    (hok : (handlePatch s now (.user actorID id body) db).1 = .ok answer) :
    (Patch.user actorID id body).KeepsOmitted db
      (handlePatch s now (.user actorID id body) db).2 := by
  obtain ⟨call, hbind, hhandle⟩ := handlePatch_bound s hok
  rw [hhandle] at hok ⊢
  simp only [Patch.bind] at hbind
  split at hbind
  · cases hbind
  · obtain rfl := Except.ok.inj hbind
    simp only [process, runAuth, Auth.Service.processCall, Auth.Service.call,
      Auth.Service.run_answering] at hok ⊢
    rcases hrun : (Auth.Service.updateUser actorID id (body.firstName.plain "")
      (body.lastName.plain "") body.isActive.pointer).run (Auth.serve s.lib) now db.auth with
      ⟨outcome, after⟩
    rw [hrun] at hok
    cases outcome with
    | error err => cases hok
    | ok response =>
        obtain ⟨user, hbefore, hafter⟩ := Auth.Service.updateUser_ok hrun
        refine ⟨user, _, hbefore, hafter, fun homitted => ?_⟩
        simp [homitted, Field.pointer, Auth.User.touch]

theorem patchGroup_keeps_iff {actorID id : Uuid} {body : GroupPatch}
    (hok : (handlePatch s now (.group actorID id body) db).1 = .ok answer) :
    (Patch.group actorID id body).KeepsOmitted db
        (handlePatch s now (.group actorID id body) db).2 ↔
      (Patch.group actorID id body).Spares db := by
  obtain ⟨call, hbind, hhandle⟩ := handlePatch_bound s hok
  rw [hhandle] at hok ⊢
  simp only [Patch.bind] at hbind
  split at hbind
  · cases hbind
  · obtain rfl := Except.ok.inj hbind
    simp only [process, runGroups] at hok ⊢
    rcases Groups.Service.update_cases now db.groupsDb actorID id (body.name.plain "")
        body.description.pointer (body.groupType.plain "") body.isActive.pointer with
      ⟨err, hrun⟩ | ⟨row, hlive, _, _, hrun⟩
    · rw [moment, hrun] at hok
      cases hok
    · rw [moment, hrun]
      have hafter := Groups.liveGroup_updateLiveGroup db.groupsDb now id
        (Groups.Service.updateParams actorID id (body.name.plain "") body.description.pointer
          (body.groupType.plain "") body.isActive.pointer (Groups.groupFrom row)).set
        (fun _ => rfl) fun _ => rfl
      rw [hlive] at hafter
      constructor
      · rintro ⟨old, changed, hold, hchanged, hkeeps⟩ other hother homitted
        obtain rfl := Option.some.inj (hlive.symm.trans hold)
        obtain rfl := Option.some.inj (hlive.symm.trans hother)
        obtain rfl := Option.some.inj (hafter.symm.trans hchanged)
        exact Field.pointer_keeps_iff.mp hkeeps.description homitted
      · intro hspares
        refine ⟨row, _, hlive, hafter, Field.pointer_keeps_iff.mpr (hspares row hlive),
          fun homitted => ?_⟩
        simp [Groups.Service.updateParams, Groups.UpdateGroupParams.set, homitted, Field.pointer,
          Groups.groupFrom]

theorem ContactPatch.keeps_iff (body : ContactPatch) (actorID id : Uuid)
    (row : Crm.ContactPoint) :
    body.Keeps row (Crm.Db.changedContact now
        (Crm.Service.updateParams actorID id body.request (Crm.contactFrom row)) row) ↔
      body.Spares row := by
  constructor
  · intro hkeeps
    exact ⟨Field.pointer_keeps_iff.mp hkeeps.label, Field.plain_keeps_iff.mp hkeeps.isPrimary,
      Field.plain_keeps_iff.mp hkeeps.isPreferred,
      Field.pointer_keeps_iff.mp hkeeps.preferredTimeWindow,
      Field.pointer_keeps_iff.mp hkeeps.note⟩
  · intro hspares
    refine ⟨Field.pointer_keeps_iff.mpr hspares.label, Field.plain_keeps_iff.mpr hspares.isPrimary,
      Field.plain_keeps_iff.mpr hspares.isPreferred, fun homitted => ?_,
      Field.pointer_keeps_iff.mpr hspares.preferredTimeWindow,
      Field.pointer_keeps_iff.mpr hspares.note⟩
    -- Only this flag is read before it is written.
    simp [homitted, Crm.Db.changedContact, Crm.Service.updateParams, request, Field.pointer,
      Crm.boolOr, Crm.contactFrom]

theorem patchContact_keeps_iff {actorID userID id : Uuid} {body : ContactPatch}
    (hok : (handlePatch s now (.contact actorID userID id body) db).1 = .ok answer) :
    (Patch.contact actorID userID id body).KeepsOmitted db
        (handlePatch s now (.contact actorID userID id body) db).2 ↔
      (Patch.contact actorID userID id body).Spares db := by
  obtain ⟨call, hbind, hhandle⟩ := handlePatch_bound s hok
  rw [hhandle] at hok ⊢
  simp only [Patch.bind] at hbind
  split at hbind
  · cases hbind
  · obtain rfl := Except.ok.inj hbind
    simp only [process, runContacts] at hok ⊢
    rcases hrun : (Crm.Service.updateContact actorID userID id body.request).run Crm.serve
      (moment now) db.crm with ⟨outcome, after⟩
    rw [hrun] at hok
    cases outcome with
    | error err => cases hok
    | ok contact =>
        obtain ⟨row, hbefore, hafter⟩ := Crm.Service.updateContact_ok hrun
        constructor
        · rintro ⟨old, changed, hold, hchanged, hkeeps⟩ other hother
          obtain rfl := Option.some.inj (hbefore.symm.trans hold)
          obtain rfl := Option.some.inj (hbefore.symm.trans hother)
          obtain rfl := Option.some.inj (hafter.symm.trans hchanged)
          exact (body.keeps_iff actorID id row).mp hkeeps
        · intro hspares
          exact ⟨row, _, hbefore, hafter,
            (body.keeps_iff actorID id row).mpr (hspares row hbefore)⟩

/-- An update that is accepted keeps what its body omits exactly if the omitted description of
a group, and the omitted label, flags, time window and note of a contact, were empty already. -/
theorem handlePatch_keeps_iff {patch : Patch}
    (hok : (handlePatch s now patch db).1 = .ok answer) :
    patch.KeepsOmitted db (handlePatch s now patch db).2 ↔ patch.Spares db := by
  cases patch with
  | user actorID id body => exact iff_of_true (patchUser_keeps s hok) trivial
  | group actorID id body => exact patchGroup_keeps_iff s hok
  | contact actorID userID contactID body => exact patchContact_keeps_iff s hok

end Updates

namespace Sample

/-- A contact of Alice. -/
def mail : Crm.ContactPoint where
  id := 4
  userId := 1
  contactType := "email"
  label := some "privat"
  value := "alice@example.org"
  isPrimary := true
  isPreferred := false
  allowContact := false
  preferredTimeWindow := none
  verifiedAt := none
  note := none
  createdAt := 0
  updatedAt := 0
  deletedAt := none
  createdBy := none
  updatedBy := none

def dbWithRows : Db := { db with contacts := [mail], groups := [team] }

/-- The body `{"value": "a@example.org"}`. -/
def newMail : Patch :=
  .contact 1 1 4 ⟨.omitted, .value "a@example.org", .omitted, .omitted, .omitted, .omitted, .omitted⟩

/-- The body `{"name": "Jugend", "group_type": "mannschaft"}`. -/
def renamed : Patch :=
  .group 1 3 ⟨.value "Jugend", .omitted, .value "mannschaft", .omitted⟩

theorem renamed_keeps :
    renamed.KeepsOmitted dbWithRows (handlePatch Auth.Sample.service 5 renamed dbWithRows).2 := by
  have hok : ∃ answer, (handlePatch Auth.Sample.service 5 renamed dbWithRows).1 = .ok answer :=
    ⟨_, rfl⟩
  obtain ⟨answer, hanswer⟩ := hok
  refine (handlePatch_keeps_iff Auth.Sample.service hanswer).mpr fun row hrow _ => ?_
  obtain rfl : team = row := Option.some.inj hrow
  rfl

/-- The label and the mark of the primary contact are gone. -/
theorem newMail_erases :
    (∃ answer, (handlePatch Auth.Sample.service 5 newMail dbWithRows).1 = .ok answer) ∧
      ¬newMail.KeepsOmitted dbWithRows
        (handlePatch Auth.Sample.service 5 newMail dbWithRows).2 := by
  have hok : ∃ answer, (handlePatch Auth.Sample.service 5 newMail dbWithRows).1 = .ok answer :=
    ⟨_, rfl⟩
  refine ⟨hok, fun hkeeps => ?_⟩
  obtain ⟨answer, hanswer⟩ := hok
  have hspares := (patchContact_keeps_iff Auth.Sample.service hanswer).mp hkeeps mail rfl
  exact absurd (hspares.label rfl) (by decide)

end Sample

end Skolva.Api
