import Skolva.Api.Calls
import Skolva.Api.Statements
import Skolva.Sql.Persistence

/-! # Records that stay

No method removes a row of users, contacts, addresses, preferences or groups. What identifies a
row and who made it when is never written again, and neither is a row that is marked as deleted.
-/

namespace Skolva.Auth

open Effect Sql

/-- The row without the columns that are written again. -/
def User.identity (user : User) : User :=
  { user with
    passwordHash := .other ""
    firstName := ""
    lastName := ""
    isActive := true
    updatedAt := 0
    deletedAt := none
    updatedBy := none }

abbrev UsersPersist : List User → List User → Prop := Persists User.identity User.deletedAt

theorem persists_updateLiveUser (db : Db) (now : Nat) (id : Uuid) {change : User → User}
    (hchange : ∀ user, (change user).identity = user.identity) :
    UsersPersist db.users (db.updateLiveUser now id change).users := by
  refine Persists.map fun user => Version.ite (fun hlive => hlive.2) ?_
  exact hchange user

theorem persists_serve (lib : External) (now : Nat) (op : Op) (db : Db) :
    UsersPersist db.users (serve lib now op db).2.users := by
  cases op with
  | createUser id email passwordHash firstName lastName actor =>
      simp only [serve]
      split
      · exact .refl _
      · exact .append _
  | updateUser id firstName lastName isActive updatedBy =>
      exact persists_updateLiveUser db now id fun _ => rfl
  | softDeleteUser id updatedBy => exact persists_updateLiveUser db now id fun _ => rfl
  | updatePassword id passwordHash => exact persists_updateLiveUser db now id fun _ => rfl
  | _ => exact .refl _

theorem users_serveDirectory (lib : External) (now : Nat) (op : DirectoryOp) (db : Db) :
    UsersPersist db.users (serveDirectory lib now op db).2.users := by
  cases op with
  | common op => exact persists_serve lib now op db
  | assignRole userID roleSlug assignedBy =>
      simp only [serveDirectory, Db.assignRole]
      split_ifs <;> exact .refl _
  | _ => exact .refl _

end Skolva.Auth

namespace Skolva.Crm

open Dbexec Effect Sql

def ContactPoint.identity (row : ContactPoint) : ContactPoint :=
  { row with
    label := none
    value := ""
    isPrimary := false
    isPreferred := false
    allowContact := false
    preferredTimeWindow := none
    note := none
    updatedAt := 0
    deletedAt := none
    updatedBy := none }

def UserAddress.identity (row : UserAddress) : Uuid × Nat × Option Uuid :=
  (row.userId, row.createdAt, row.createdBy)

abbrev ContactsPersist : List ContactPoint → List ContactPoint → Prop :=
  Persists ContactPoint.identity ContactPoint.deletedAt

abbrev AddressesPersist : List UserAddress → List UserAddress → Prop :=
  Persists UserAddress.identity fun _ => none

abbrev PreferencesPersist : List UserPreferences → List UserPreferences → Prop :=
  Persists UserPreferences.userId fun _ => none

/-! ## Contacts -/

section Contacts

theorem persists_cleared (now : Nat) (db : Db) (clearPrimary : Bool) (userID : Uuid) (contactType : String)
    (excludeID : Uuid) :
    ContactsPersist db.contacts (db.cleared now clearPrimary userID contactType excludeID).contacts := by
  unfold Db.cleared
  split
  · exact Persists.map fun row => Version.ite (fun hlive => hlive.1.2.2.1) rfl
  · exact .refl _

theorem persists_serve (moment : Moment) (op : Op) (db : Db) :
    ContactsPersist db.contacts (serve moment op db).2.contacts := by
  have hleaves := leaves_serve moment op db
  generalize (serve moment op db).2 = after at hleaves
  cases hleaves with
  | nothing => exact .refl _
  | created actorID id clearPrimary params =>
      have hcleared := persists_cleared moment.now db clearPrimary params.userID params.contactType
        Uuid.nil
      exact hcleared.trans (.append _)
  | updated actorID userID contactType clearPrimary params =>
      have hcleared := persists_cleared moment.now db clearPrimary userID contactType params.id
      exact hcleared.trans (Persists.map fun row => Version.ite (fun hlive => hlive.2) rfl)
  | deleted => exact Persists.map fun row => Version.ite (fun hlive => hlive.2) rfl

end Contacts

/-! ## Addresses and preferences -/

/-- Each user has at most one address, and one row of preferences. -/
structure ProfileKeys (addresses : List UserAddress) (preferences : List UserPreferences) : Prop where
  addresses : (addresses.map UserAddress.userId).Nodup
  preferences : (preferences.map UserPreferences.userId).Nodup

section Profile

variable {now : Nat} {db : ProfileDb}

theorem addressOf_of_mem (hkeys : (db.addresses.map UserAddress.userId).Nodup) {row : UserAddress}
    (hrow : row ∈ db.addresses) : db.addressOf row.userId = some row :=
  (Sql.find?_key_eq_some_iff UserAddress.userId hkeys row.userId row).mpr ⟨hrow, rfl⟩

/-- The rows stay, and there is still one for each user. -/
structure ProfilePersists (db after : ProfileDb) : Prop where
  keys : ProfileKeys after.addresses after.preferences
  addresses : AddressesPersist db.addresses after.addresses
  preferences : PreferencesPersist db.preferences after.preferences

theorem ProfilePersists.refl (hkeys : ProfileKeys db.addresses db.preferences) :
    ProfilePersists db db :=
  ⟨hkeys, .refl _, .refl _⟩

theorem persists_upsertAddress (hkeys : ProfileKeys db.addresses db.preferences)
    (params : UpsertAddressParams) : ProfilePersists db (db.upsertAddress now params).2 := by
  unfold ProfileDb.upsertAddress
  dsimp only
  split_ifs with hcheck hknown
  · refine ⟨⟨?_, hkeys.preferences⟩, ?_, .refl _⟩
    · exact nodup_upsert hkeys.addresses (params.row now (db.addressOf params.userID))
    · refine Persists.upsert fun row hrow huser => Version.of_live rfl ?_
      -- The row in the way keeps its stamps.
      have hfound : db.addressOf params.userID = some row :=
        huser ▸ addressOf_of_mem hkeys.addresses hrow
      rw [hfound]
      simp only [UserAddress.identity, UpsertAddressParams.row, Option.map_some, Option.getD_some,
        huser]
  · exact .refl hkeys
  · exact .refl hkeys

theorem persists_upsertPreferences (hkeys : ProfileKeys db.addresses db.preferences)
    (params : UpsertPreferencesParams) : ProfilePersists db (db.upsertPreferences now params).2 := by
  unfold ProfileDb.upsertPreferences
  dsimp only
  split_ifs with hcheck hknown
  · exact .refl hkeys
  · refine ⟨⟨hkeys.addresses, ?_⟩, .refl _, ?_⟩
    · exact nodup_upsert hkeys.preferences (params.row now)
    · exact Persists.upsert fun row _ huser => Version.of_live rfl huser.symm
  · exact .refl hkeys

theorem persists_serveProfile (now : Nat) (op : ProfileOp)
    (hkeys : ProfileKeys db.addresses db.preferences) :
    ProfilePersists db (serveProfile now op db).2 := by
  cases op with
  | upsertAddress params => exact persists_upsertAddress hkeys params
  | upsertPreferences params => exact persists_upsertPreferences hkeys params
  | _ => exact .refl hkeys

end Profile

end Skolva.Crm

namespace Skolva.Groups

open Dbexec Effect Sql

def GroupRow.identity (row : GroupRow) : GroupRow :=
  { row with
    name := ""
    description := none
    groupType := ""
    isActive := true
    updatedAt := 0
    deletedAt := none
    updatedBy := none }

abbrev GroupsPersist : List GroupRow → List GroupRow → Prop :=
  Persists GroupRow.identity GroupRow.deletedAt

theorem persists_updateLiveGroup (db : Db) (now : Nat) (id : Uuid) {change : GroupRow → GroupRow}
    (hchange : ∀ row, (change row).identity = row.identity) :
    GroupsPersist db.groups (db.updateLiveGroup now id change).groups := by
  refine Persists.map fun row => Version.ite (fun hlive => hlive.2) ?_
  exact hchange row

theorem persists_serve (moment : Moment) (op : Op) (db : Db) :
    GroupsPersist db.groups (serve moment op db).2.groups := by
  have hleaves := leaves_serve moment op db
  generalize (serve moment op db).2 = after at hleaves
  cases hleaves with
  | nothing => exact .refl _
  | created => exact .append _
  | updated actorID params => exact persists_updateLiveGroup db moment.now params.id fun _ => rfl
  | deleted actorID id => exact persists_updateLiveGroup db moment.now id fun _ => rfl

end Skolva.Groups

namespace Skolva.Api

open Effect Sql

/-- The rows of the database are all there, as later versions of themselves. -/
structure Persist (before after : Db) : Prop where
  users : Auth.UsersPersist before.auth.users after.auth.users
  contacts : Crm.ContactsPersist before.contacts after.contacts
  addresses : Crm.AddressesPersist before.addresses after.addresses
  preferences : Crm.PreferencesPersist before.preferences after.preferences
  groups : Groups.GroupsPersist before.groups after.groups

theorem Persist.refl (db : Db) : Persist db db := ⟨.refl _, .refl _, .refl _, .refl _, .refl _⟩

theorem Persist.trans {first second third : Db} (hone : Persist first second)
    (htwo : Persist second third) : Persist first third where
  users := hone.users.trans htwo.users
  contacts := hone.contacts.trans htwo.contacts
  addresses := hone.addresses.trans htwo.addresses
  preferences := hone.preferences.trans htwo.preferences
  groups := hone.groups.trans htwo.groups

abbrev Db.ProfileKeys (db : Db) : Prop := Crm.ProfileKeys db.addresses db.preferences

end Skolva.Api
