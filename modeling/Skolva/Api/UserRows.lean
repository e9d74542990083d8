import Skolva.Api.Calls
import Skolva.Crm.ContactOwner

/-! # The rows of a deleted user

What each call does to the rows that belong to one user, once the user is deleted.
-/

namespace Skolva.Api

open Dbexec Effect

/-- The rows of all tables that belong to a user. -/
structure UserRows where
  users : List Auth.User
  roles : List (Uuid × String)
  addresses : List Crm.UserAddress
  contacts : List Crm.ContactPoint
  preferences : List Crm.UserPreferences
  members : List Groups.GroupMember

def Db.rowsOf (db : Db) (u : Uuid) : UserRows where
  users := db.auth.users.filter fun user => user.id = u
  roles := db.auth.userRoles.filter fun held => held.1 = u
  addresses := db.addresses.filter fun row => row.userId = u
  contacts := db.contacts.filter fun row => row.userId = u
  preferences := db.preferences.filter fun row => row.userId = u
  members := db.members.filter fun row => row.userId = u

/-- There is a row for the user, and no live one. -/
structure Db.Deleted (db : Db) (u : Uuid) : Prop where
  known : db.auth.Known u
  deleted : db.auth.liveUser u = none

/-- The primary key of `user_contact_points`. -/
def Db.ContactKeys (db : Db) : Prop := (db.contacts.map Crm.ContactPoint.id).Nodup

/-- The user is still deleted, and the rows are as before unless the call reached them. -/
structure Spares (u : Uuid) (reached : Prop) (before after : Db) : Prop where
  deleted : after.Deleted u
  rows : ¬reached → after.rowsOf u = before.rowsOf u

section Auth

variable {u : Uuid}

theorem users_updateLiveUser {db : Auth.Db} (now : Nat) (v : Uuid) {change : Auth.User → Auth.User}
    (hid : ∀ user, (change user).id = user.id) (hdeleted : db.liveUser u = none) :
    (db.updateLiveUser now v change).users.filter (fun user => user.id = u) =
      db.users.filter fun user => user.id = u := by
  unfold Auth.Db.liveUser at hdeleted
  rw [List.find?_eq_none] at hdeleted
  apply Sql.filter_map_of_selected
  · intro user _
    split
    · simp [Auth.User.touch, hid]
    · rfl
  · intro user huser hselected
    have hgone := hdeleted user huser
    simp only [decide_eq_true_eq, not_and] at hgone hselected
    rw [if_neg fun hlive => hgone hselected hlive.2]

/-- A call on the auth tables, with a deleted user in them. -/
theorem users_serve (lib : Auth.External) (now : Nat) (op : Auth.Op) {db : Auth.Db}
    (hknown : db.Known u) (hdeleted : db.liveUser u = none) :
    (Auth.serve lib now op db).2.users.filter (fun user => user.id = u) =
        db.users.filter (fun user => user.id = u) ∧
      (Auth.serve lib now op db).2.userRoles = db.userRoles := by
  cases op with
  | createUser id email passwordHash firstName lastName actor =>
      simp only [Auth.serve]
      split
      · exact ⟨rfl, rfl⟩
      next hfresh =>
          have hid : id ≠ u := by
            rintro rfl
            simp only [Bool.or_eq_true, List.any_eq_true, decide_eq_true_eq, not_or] at hfresh
            exact hfresh.1 (List.mem_map.mp hknown)
          refine ⟨?_, rfl⟩
          simp [Auth.newUser, hid]
  | updateUser | softDeleteUser | updatePassword =>
      refine ⟨users_updateLiveUser now _ ?_ hdeleted, rfl⟩
      exact fun _ => rfl
  | _ => exact ⟨rfl, rfl⟩

variable {s : Auth.Service} {now : Nat} {db : Db}

/-- What every call of the auth service preserves of a deleted user. -/
theorem keeps_processCall (hdb : db.Deleted u) (call : Auth.ServiceCall) :
    let after := (s.processCall now call db.auth).2
    after.Known u ∧ after.liveUser u = none ∧
      after.users.filter (fun user => user.id = u) =
        db.auth.users.filter (fun user => user.id = u) ∧
      after.userRoles = db.auth.userRoles := by
  apply Auth.Service.processCall_preserves (motive := fun after => after.Known u ∧
    after.liveUser u = none ∧ after.users.filter (fun user => user.id = u) =
      db.auth.users.filter (fun user => user.id = u) ∧ after.userRoles = db.auth.userRoles)
  · intro op store _ ⟨hknown, hdeleted, husers, hroles⟩
    obtain ⟨husers', hroles'⟩ := users_serve s.lib now op hknown hdeleted
    exact ⟨Auth.Db.known_serve s.lib now op hknown,
      Auth.Db.liveUser_serve_of_none s.lib now op hknown hdeleted, husers'.trans husers,
      hroles'.trans hroles⟩
  · exact ⟨hdb.known, hdb.deleted, rfl, rfl⟩

theorem spares_runAuth (hdb : db.Deleted u) (call : Auth.ServiceCall) :
    Spares u False db (runAuth s now db call).2 := by
  obtain ⟨hknown, hdeleted, husers, hroles⟩ := keeps_processCall hdb call
  refine ⟨⟨hknown, hdeleted⟩, fun _ => ?_⟩
  simp only [Db.rowsOf, runAuth, husers, hroles]

end Auth

section Calls

variable {s : Auth.Service} {now : Nat} {u : Uuid} {db : Db}

theorem Spares.refl (hdb : db.Deleted u) {reached : Prop} : Spares u reached db db :=
  ⟨hdb, fun _ => rfl⟩

theorem Spares.mono {reached other : Prop} {after : Db} (hspares : Spares u reached db after)
    (himp : reached → other) : Spares u other db after :=
  ⟨hspares.deleted, fun hother => hspares.rows fun hreached => hother (himp hreached)⟩

/-- Other users are told apart from a deleted one by their live rows. -/
theorem ne_of_liveUser (hdb : db.Deleted u) {v : Uuid} {user : Auth.User}
    (hlive : db.auth.liveUser v = some user) : v ≠ u := by
  rintro rfl
  rw [hdb.deleted] at hlive
  cases hlive

/-! ## Roles -/

theorem spares_userRoles (hdb : db.Deleted u) {roles : List (Uuid × String)}
    (hroles : roles.filter (fun held => held.1 = u) =
      db.auth.userRoles.filter fun held => held.1 = u) :
    Spares u False db { db with auth := { db.auth with userRoles := roles } } := by
  refine ⟨⟨hdb.known, hdb.deleted⟩, fun _ => ?_⟩
  simp only [Db.rowsOf, hroles]

theorem spares_assignRole (hdb : db.Deleted u) (actorID v : Uuid) (roleSlug : String) :
    Spares u False db (process s now (.assignRole actorID v roleSlug) db).2 := by
  simp only [process, runDirectory, Auth.Directory.run_assignRole]
  cases hlive : db.auth.liveUser v with
  | none => exact .refl hdb
  | some user =>
      have hne := ne_of_liveUser hdb hlive
      cases db.auth.liveRole roleSlug with
      | none => exact .refl hdb
      | some role =>
          unfold Auth.Db.assignRole
          split_ifs
          · exact .refl hdb
          · exact spares_userRoles hdb (by simp [hne])
          · exact .refl hdb

theorem spares_removeRole (hdb : db.Deleted u) (v : Uuid) (roleSlug : String) :
    Spares u False db (process s now (.removeRole v roleSlug) db).2 := by
  simp only [process, runDirectory, Auth.Directory.run_removeRole]
  cases hlive : db.auth.liveUser v with
  | none => exact .refl hdb
  | some user =>
      have hne := ne_of_liveUser hdb hlive
      refine spares_userRoles hdb ?_
      rw [List.filter_filter]
      apply List.filter_congr
      rintro ⟨holder, slug⟩ -
      by_cases hholder : holder = u
      · simp [hholder, hne.symm]
      · simp [hholder]

theorem spares_listUserRoles (hdb : db.Deleted u) (v : Uuid) :
    Spares u False db (process s now (.listUserRoles v) db).2 := by
  simp only [process, runDirectory, Auth.Directory.run_listUserRoles]
  exact .refl hdb

theorem spares_searchUsers (hdb : db.Deleted u) (hits : List Uuid) :
    Spares u False db (process s now (.searchUsers hits) db).2 := by
  simp only [process, runDirectory, Auth.Directory.run_searchUsers]
  exact .refl hdb

/-! ## Addresses and preferences -/

theorem spares_profile (hdb : db.Deleted u) {reached : Prop} {addresses : List Crm.UserAddress}
    {preferences : List Crm.UserPreferences}
    (haddresses : ¬reached → addresses.filter (fun row => row.userId = u) =
      db.addresses.filter fun row => row.userId = u)
    (hpreferences : ¬reached → preferences.filter (fun row => row.userId = u) =
      db.preferences.filter fun row => row.userId = u) :
    Spares u reached db { db with addresses := addresses, preferences := preferences } := by
  refine ⟨⟨hdb.known, hdb.deleted⟩, fun hreached => ?_⟩
  simp only [Db.rowsOf, haddresses hreached, hpreferences hreached]

/-- A row that replaces the rows of one user leaves those of another. -/
theorem filter_replaced {Row : Type} {userId : Row → Uuid} {v : Uuid} (hne : v ≠ u)
    {new : Row} (hnew : userId new = v) (rows : List Row) :
    (rows.filter (fun row => userId row ≠ v) ++ [new]).filter (fun row => userId row = u) =
      rows.filter fun row => userId row = u := by
  rw [List.filter_append, List.filter_filter]
  have hgone : ([new].filter fun row => userId row = u) = [] := by simp [hnew, hne]
  rw [hgone, List.append_nil]
  apply List.filter_congr
  intro row _
  by_cases hrow : userId row = u
  · simp [hrow, hne.symm]
  · simp [hrow]

theorem spares_getAddress (hdb : db.Deleted u) (v : Uuid) :
    Spares u False db (process s now (.getAddress v) db).2 := by
  simp only [process, runProfile, Crm.Service.run_getAddress]
  exact .refl hdb

theorem spares_getPreferences (hdb : db.Deleted u) (v : Uuid) :
    Spares u False db (process s now (.getPreferences v) db).2 := by
  simp only [process, runProfile, Crm.Service.run_getPreferences]
  exact .refl hdb

theorem spares_upsertAddress (hdb : db.Deleted u) (actorID v : Uuid) (req : Crm.AddressRequest) :
    Spares u (v = u) db (process s now (.upsertAddress actorID v req) db).2 := by
  simp only [process, runProfile]
  rw [Crm.Service.run_upsertAddress]
  dsimp only
  split
  · exact .refl hdb
  · unfold Crm.ProfileDb.upsertAddress
    dsimp only
    split_ifs
    · exact spares_profile hdb (fun hne => filter_replaced hne rfl _) fun _ => rfl
    · exact .refl hdb
    · exact .refl hdb

theorem spares_upsertPreferences (hdb : db.Deleted u) (actorID v : Uuid)
    (req : Crm.PreferencesRequest) :
    Spares u (v = u) db (process s now (.upsertPreferences actorID v req) db).2 := by
  simp only [process, runProfile]
  rw [Crm.Service.run_upsertPreferences]
  split
  · exact .refl hdb
  · unfold Crm.ProfileDb.upsertPreferences
    dsimp only
    split_ifs
    · exact .refl hdb
    · exact spares_profile hdb (fun _ => rfl) fun hne => filter_replaced hne rfl _
    · exact .refl hdb

/-! ## Contacts -/

theorem spares_contacts (hdb : db.Deleted u) {reached : Prop} {after : Crm.Db}
    (hleaves : Crm.Leaves u reached db.crm after) :
    Spares u reached db { db with contacts := after.contacts } := by
  refine ⟨⟨hdb.known, hdb.deleted⟩, fun hreached => ?_⟩
  have hrows := hleaves.rows hreached
  unfold Crm.Db.contactsOf at hrows
  simp only [Db.rowsOf, hrows, Db.crm]

theorem spares_createContact (hdb : db.Deleted u) (hkeys : db.ContactKeys) (id actorID v : Uuid)
    (req : Crm.CreateContactRequest) :
    Spares u (v = u) db (process s now (.createContact id actorID v req) db).2 :=
  spares_contacts hdb (Crm.leaves_createContact (moment now) db.crm actorID v u hkeys id req)

theorem spares_updateContact (hdb : db.Deleted u) (hkeys : db.ContactKeys)
    (actorID v contactID : Uuid) (req : Crm.UpdateContactRequest) :
    Spares u (v = u ∧ db.crm.OwnsLive v contactID) db
      (process s now (.updateContact actorID v contactID req) db).2 :=
  spares_contacts hdb
    (Crm.leaves_updateContact (moment now) db.crm actorID v u rfl hkeys contactID req)

theorem spares_deleteContact (hdb : db.Deleted u) (hkeys : db.ContactKeys)
    (actorID v contactID : Uuid) :
    Spares u (v = u ∧ db.crm.OwnsLive v contactID) db
      (process s now (.deleteContact actorID v contactID) db).2 :=
  spares_contacts hdb (Crm.leaves_deleteContact (moment now) db.crm actorID v u rfl hkeys contactID)

variable (s now) in
/-- Every call keeps the key of the contacts. -/
theorem contactKeys_process (hkeys : db.ContactKeys) (call : Call) :
    (process s now call db).2.ContactKeys := by
  cases call with
  | createContact id actorID v req =>
      exact (Crm.leaves_createContact (moment now) db.crm actorID v v hkeys id req).pkey
  | updateContact actorID v contactID req =>
      exact (Crm.leaves_updateContact (moment now) db.crm actorID v v rfl hkeys contactID req).pkey
  | deleteContact actorID v contactID =>
      exact (Crm.leaves_deleteContact (moment now) db.crm actorID v v rfl hkeys contactID).pkey
  | _ =>
      simp only [process, runAuth, runDirectory, runProfile, runGroups, runMembers, Db.ContactKeys]
      exact hkeys

/-! ## Groups and members -/

/-- The rows of groups belong to nobody. -/
theorem spares_runGroups (hdb : db.Deleted u) {α : Type} (answer : α → Answer s.lib.Token)
    (method : Groups.Prog (Except Groups.Err α)) :
    Spares u False db (runGroups s now db answer method).2 :=
  ⟨⟨hdb.known, hdb.deleted⟩, fun _ => rfl⟩

theorem spares_members (hdb : db.Deleted u) {reached : Prop} {members : List Groups.GroupMember}
    (hmembers : ¬reached → members.filter (fun row => row.userId = u) =
      db.members.filter fun row => row.userId = u) :
    Spares u reached db { db with members := members } := by
  refine ⟨⟨hdb.known, hdb.deleted⟩, fun hreached => ?_⟩
  simp only [Db.rowsOf, hmembers hreached]

theorem spares_listGroups (hdb : db.Deleted u) (groupType : String) (limit offset : Nat) :
    Spares u False db (process s now (.listGroups groupType limit offset) db).2 := by
  simp only [process, runMembers, Groups.Service.run_list]
  exact .refl hdb

theorem spares_listMembers (hdb : db.Deleted u) (g : Uuid) :
    Spares u False db (process s now (.listMembers g) db).2 := by
  simp only [process, runMembers, Groups.Service.run_listMembers]
  exact .refl hdb

theorem spares_addMember (hdb : db.Deleted u) (actorID g v : Uuid) (roleInGroup : String) :
    Spares u (v = u ∧ (db.membersDb.liveGroup g).isSome ∧
        ¬db.membersDb.HasRole g v (Groups.Service.roleOr roleInGroup)) db
      (process s now (.addMember actorID g v roleInGroup) db).2 := by
  simp only [process, runMembers]
  rw [Groups.Service.run_addMember]
  cases hgroup : db.membersDb.liveGroup g with
  | none => exact .refl hdb
  | some group =>
      dsimp only
      split_ifs with hrole
      · by_cases hhas : db.membersDb.HasRole g v (Groups.Service.roleOr roleInGroup)
        · rw [Groups.MembersDb.addMember_of_hasRole hrole hhas]
          exact .refl hdb
        · unfold Groups.MembersDb.addMember
          split_ifs
          · refine spares_members hdb fun hother => Sql.filter_map_of_selected ?_ ?_
            · intro row _
              split <;> rfl
            · intro row _ hrow
              refine if_neg fun hmatches => hother ⟨?_, rfl, hhas⟩
              exact hmatches.2.symm.trans (of_decide_eq_true hrow)
          · refine spares_members hdb fun hother => ?_
            have hne : v ≠ u := fun heq => hother ⟨heq, rfl, hhas⟩
            simp [Groups.AddMemberParams.row, hne, Db.membersDb]
          · exact .refl hdb
          · exact .refl hdb
      · exact .refl hdb

theorem spares_removeMember (hdb : db.Deleted u) (g v : Uuid) :
    Spares u (v = u) db (process s now (.removeMember g v) db).2 := by
  simp only [process, runMembers]
  rw [Groups.Service.run_removeMember]
  cases db.membersDb.liveGroup g with
  | none => exact .refl hdb
  | some group =>
      refine spares_members hdb fun hne => ?_
      unfold Groups.MembersDb.removeMember
      rw [List.filter_filter]
      apply List.filter_congr
      intro row _
      by_cases hrow : row.userId = u
      · simp [hrow, Ne.symm hne]
      · simp [hrow]

end Calls

end Skolva.Api
