import Skolva.Api.Calls
import Skolva.Api.Statements
import Skolva.Api.Writes

/-! # Well-formed rows

What the rows of the database look like if every call has been well formed: the required
texts are there, the values of CHECK columns are among those allowed, and each hash is one of
a password that is long enough.
-/

namespace Skolva.Auth

open Effect

/-- The password has at least 8 characters. -/
def LongEnough (password : Bytes) : Prop := ∃ text : String, bytesOf text = password ∧ 8 ≤ text.length

/-- The hash is one of a password that is long enough. -/
def HashesLongEnough (lib : External) (hash : Text) : Prop :=
  ∃ salt password, LongEnough password ∧ hashPassword lib salt password = .ok hash

structure User.WellFormed (lib : External) (isEmail : String → Bool) (user : User) : Prop where
  email : user.email ≠ "" ∧ isEmail user.email = true
  passwordHash : HashesLongEnough lib user.passwordHash
  firstName : user.firstName ≠ ""
  lastName : user.lastName ≠ ""

/-- What the handlers have checked of the arguments. -/
def ServiceCall.WellFormed (isEmail : String → Bool) : ServiceCall → Prop
  | .register _ _ _ email password firstName lastName =>
      (email ≠ "" ∧ isEmail email = true) ∧ LongEnough password ∧ firstName ≠ "" ∧ lastName ≠ ""
  | .updateUser _ _ firstName lastName _ => firstName ≠ "" ∧ lastName ≠ ""
  | .resetPassword _ _ _ newPassword => LongEnough newPassword
  | _ => True

/-- What the call writes to `users` is well formed. -/
def Op.WellFormed (lib : External) (isEmail : String → Bool) : Op → Prop
  | .createUser _ email passwordHash firstName lastName _ =>
      (email ≠ "" ∧ isEmail email = true) ∧ HashesLongEnough lib passwordHash ∧ firstName ≠ "" ∧
        lastName ≠ ""
  | .updateUser _ firstName lastName _ _ => firstName ≠ "" ∧ lastName ≠ ""
  | .updatePassword _ passwordHash => HashesLongEnough lib passwordHash
  | _ => True

abbrev UsersWellFormed (lib : External) (isEmail : String → Bool) (db : Db) : Prop :=
  ∀ user ∈ db.users, user.WellFormed lib isEmail

section Call

variable {lib : External} {isEmail : String → Bool} (now : Nat) {db : Db}

theorem wellFormed_updateLiveUser (hdb : UsersWellFormed lib isEmail db)
    (id : Uuid) {change : User → User}
    (hchange : ∀ user : User, user.WellFormed lib isEmail → (change user).WellFormed lib isEmail) :
    UsersWellFormed lib isEmail (db.updateLiveUser now id change) := by
  intro written hwritten
  obtain ⟨user, huser, rfl⟩ := List.mem_map.mp hwritten
  split
  · obtain ⟨hemail, hhash, hfirst, hlast⟩ := hchange user (hdb user huser)
    exact ⟨hemail, hhash, hfirst, hlast⟩
  · exact hdb user huser

theorem wellFormed_serve {op : Op} (hop : op.WellFormed lib isEmail)
    (hdb : UsersWellFormed lib isEmail db) : UsersWellFormed lib isEmail (serve lib now op db).2 := by
  cases op with
  | createUser id email passwordHash firstName lastName actor =>
      simp only [serve]
      split
      · exact hdb
      · obtain ⟨hemail, hhash, hfirst, hlast⟩ := hop
        refine List.forall_mem_append.mpr ⟨hdb, List.forall_mem_singleton.mpr ?_⟩
        exact ⟨hemail, hhash, hfirst, hlast⟩
  | updateUser id firstName lastName isActive updatedBy =>
      refine wellFormed_updateLiveUser now hdb id fun user huser => ?_
      exact ⟨huser.email, huser.passwordHash, hop.1, hop.2⟩
  | softDeleteUser id updatedBy =>
      refine wellFormed_updateLiveUser now hdb id fun user huser => ?_
      exact ⟨huser.email, huser.passwordHash, huser.firstName, huser.lastName⟩
  | updatePassword id passwordHash =>
      refine wellFormed_updateLiveUser now hdb id fun user huser => ?_
      exact ⟨huser.email, hop, huser.firstName, huser.lastName⟩
  | _ => exact hdb

/-- A call with checked arguments writes what is well formed. -/
theorem wellFormed_of_puts {call : ServiceCall} (hcall : call.WellFormed isEmail) {op : Op}
    (hop : call.Puts lib op) : op.WellFormed lib isEmail := by
  cases op with
  | createUser id email passwordHash firstName lastName actor =>
      obtain ⟨salt, actorID, password, rfl, hhash, -⟩ := hop
      obtain ⟨hemail, hlong, hfirst, hlast⟩ := hcall
      exact ⟨hemail, ⟨salt, password, hlong, hhash⟩, hfirst, hlast⟩
  | updateUser id firstName lastName isActive updatedBy =>
      obtain ⟨actorID, active, rfl, -⟩ := hop
      exact hcall
  | updatePassword id passwordHash =>
      obtain ⟨salt, token, newPassword, rfl, hhash⟩ := hop
      exact ⟨salt, newPassword, hcall, hhash⟩
  | _ => trivial

theorem wellFormed_of_reads {op : Op} (hop : op.Reads) : op.WellFormed lib isEmail := by
  cases op with
  | createUser | updateUser | updatePassword => exact hop.elim
  | _ => trivial

end Call

/-! ## The directory -/

def DirectoryOp.WellFormed (lib : External) (isEmail : String → Bool) : DirectoryOp → Prop
  | .common op => op.WellFormed lib isEmail
  | _ => True

section Directory

variable {lib : External} {isEmail : String → Bool}

theorem wellFormed_serveDirectory (now : Nat) {op : DirectoryOp} {db : Db}
    (hop : op.WellFormed lib isEmail) (hdb : UsersWellFormed lib isEmail db) :
    UsersWellFormed lib isEmail (serveDirectory lib now op db).2 := by
  cases op with
  | common op => exact wellFormed_serve now hop hdb
  | assignRole userID roleSlug assignedBy =>
      simp only [serveDirectory, Db.assignRole]
      split_ifs <;> exact hdb
  | _ => exact hdb

end Directory

end Skolva.Auth

namespace Skolva.Crm

open Dbexec Effect

structure ContactPoint.WellFormed (row : ContactPoint) : Prop where
  contactType : row.contactType ∈ contactTypes
  value : row.value ≠ ""

structure UserAddress.WellFormed (row : UserAddress) : Prop where
  street1 : row.street1 ≠ ""
  postalCode : row.postalCode ≠ ""
  city : row.city ≠ ""
  countryCode : countryCodeCheck row.countryCode

def UserPreferences.WellFormed (row : UserPreferences) : Prop :=
  ∀ type ∈ row.preferredContactType, type ∈ preferredContactTypes

/-! ## Contacts -/

/-- The call writes no contact without a value. -/
def Op.WellFormed : Op → Prop
  | .createContact _ _ _ params => params.value ≠ ""
  | .updateContact _ _ _ _ params => params.value ≠ ""
  | _ => True

section Contacts

variable {db : Db}

theorem wellFormed_edit {change : ContactPoint → ContactPoint}
    (hdb : ∀ row ∈ db.contacts, row.WellFormed)
    (hchange : ∀ row : ContactPoint, row.WellFormed → (change row).WellFormed) :
    ∀ row ∈ (db.edit change).contacts, row.WellFormed := by
  intro written hwritten
  obtain ⟨row, hrow, rfl⟩ := List.mem_map.mp hwritten
  exact hchange row (hdb row hrow)

theorem wellFormed_cleared (now : Nat) (clearPrimary : Bool) (userID : Uuid) (contactType : String)
    (excludeID : Uuid) (hdb : ∀ row ∈ db.contacts, row.WellFormed) :
    ∀ row ∈ (db.cleared now clearPrimary userID contactType excludeID).contacts,
      row.WellFormed := by
  unfold Db.cleared
  split
  · refine wellFormed_edit hdb fun row hrow => ?_
    unfold demote
    split
    · exact ⟨hrow.contactType, hrow.value⟩
    · exact hrow
  · exact hdb

theorem wellFormed_serve (moment : Moment) {op : Op} (hop : op.WellFormed)
    (hdb : ∀ row ∈ db.contacts, row.WellFormed) :
    ∀ row ∈ (serve moment op db).2.contacts, row.WellFormed := by
  have hleaves := leaves_serve moment op db
  generalize (serve moment op db).2 = after at hleaves
  cases hleaves with
  | nothing => exact hdb
  | created actorID id clearPrimary params htype =>
      have hcleared := wellFormed_cleared moment.now clearPrimary params.userID params.contactType
        Uuid.nil hdb
      exact List.forall_mem_append.mpr ⟨hcleared, List.forall_mem_singleton.mpr ⟨htype, hop⟩⟩
  | updated actorID userID contactType clearPrimary params =>
      have hcleared := wellFormed_cleared moment.now clearPrimary userID contactType params.id hdb
      refine wellFormed_edit hcleared fun row hrow => ?_
      unfold rewrite
      split
      · exact ⟨hrow.contactType, hop⟩
      · exact hrow
  | deleted actorID id updatedBy =>
      refine wellFormed_edit hdb fun row hrow => ?_
      unfold retire
      split
      · exact ⟨hrow.contactType, hrow.value⟩
      · exact hrow

end Contacts

/-! ## Addresses and preferences -/

/-- The rows of the two tables are well formed. -/
structure ProfileDb.WellFormed (db : ProfileDb) : Prop where
  addresses : ∀ row ∈ db.addresses, row.WellFormed
  preferences : ∀ row ∈ db.preferences, row.WellFormed

/-- The call writes no address without its required texts. -/
def ProfileOp.WellFormed : ProfileOp → Prop
  | .upsertAddress params => params.street1 ≠ "" ∧ params.postalCode ≠ "" ∧ params.city ≠ ""
  | _ => True

theorem wellFormed_serveProfile {now : Nat} {op : ProfileOp} {db : ProfileDb} (hop : op.WellFormed)
    (hdb : db.WellFormed) : (serveProfile now op db).2.WellFormed := by
  cases op with
  | upsertAddress params =>
      obtain ⟨hstreet, hpostal, hcity⟩ := hop
      simp only [serveProfile, ProfileDb.upsertAddress]
      split_ifs with hcheck hknown
      · refine ⟨List.forall_mem_append.mpr ⟨fun row hrow => ?_, ?_⟩, hdb.preferences⟩
        · exact hdb.addresses row (List.mem_filter.mp hrow).1
        · exact List.forall_mem_singleton.mpr ⟨hstreet, hpostal, hcity, hcheck⟩
      · exact hdb
      · exact hdb
  | upsertPreferences params =>
      simp only [serveProfile, ProfileDb.upsertPreferences]
      split_ifs with hcheck hknown
      · exact hdb
      · refine ⟨hdb.addresses, List.forall_mem_append.mpr ⟨fun row hrow => ?_, ?_⟩⟩
        · exact hdb.preferences row (List.mem_filter.mp hrow).1
        · refine List.forall_mem_singleton.mpr fun type htype => ?_
          by_contra hother
          exact hcheck ⟨type, htype, hother⟩
      · exact hdb
  | _ => exact hdb

end Skolva.Crm

namespace Skolva.Groups

open Dbexec Effect

structure GroupRow.WellFormed (row : GroupRow) : Prop where
  name : row.name ≠ ""
  groupType : row.groupType ∈ groupTypes

def GroupMember.WellFormed (row : GroupMember) : Prop := row.roleInGroup ∈ memberRoles

/-- The call writes no group without a name. -/
def Op.WellFormed : Op → Prop
  | .create _ _ params => params.name ≠ ""
  | .update _ params => params.name ≠ ""
  | _ => True

section Groups

variable {now : Nat} {db : Db}

theorem wellFormed_updateLiveGroup {id : Uuid} {change : GroupRow → GroupRow}
    (hdb : ∀ row ∈ db.groups, row.WellFormed)
    (hchange : ∀ row : GroupRow, row.WellFormed → (change row).WellFormed) :
    ∀ row ∈ (db.updateLiveGroup now id change).groups, row.WellFormed := by
  intro written hwritten
  obtain ⟨row, hrow, rfl⟩ := List.mem_map.mp hwritten
  split
  · obtain ⟨hname, htype⟩ := hchange row (hdb row hrow)
    exact ⟨hname, htype⟩
  · exact hdb row hrow

theorem wellFormed_serve (moment : Moment) {op : Op} (hop : op.WellFormed)
    (hdb : ∀ row ∈ db.groups, row.WellFormed) :
    ∀ row ∈ (serve moment op db).2.groups, row.WellFormed := by
  have hleaves := leaves_serve moment op db
  generalize (serve moment op db).2 = after at hleaves
  cases hleaves with
  | nothing => exact hdb
  | created actorID id params htype =>
      exact List.forall_mem_append.mpr ⟨hdb, List.forall_mem_singleton.mpr ⟨hop, htype⟩⟩
  | updated actorID params htype => exact wellFormed_updateLiveGroup hdb fun _ _ => ⟨hop, htype⟩
  | deleted actorID id updatedBy =>
      exact wellFormed_updateLiveGroup hdb fun row hrow => ⟨hrow.name, hrow.groupType⟩

end Groups

theorem wellFormed_serveMembers {now : Nat} (op : MembersOp) {db : MembersDb}
    (hdb : ∀ row ∈ db.members, row.WellFormed) :
    ∀ row ∈ (serveMembers now op db).2.members, row.WellFormed := by
  cases op with
  | addMember params =>
      simp only [serveMembers, MembersDb.addMember]
      split_ifs with hrole hconflict hknown
      · refine List.forall_mem_map.mpr fun row hrow => ?_
        split
        · exact hrole
        · exact hdb row hrow
      · exact List.forall_mem_append.mpr ⟨hdb, List.forall_mem_singleton.mpr hrole⟩
      · exact hdb
      · exact hdb
  | removeMember groupID userID => exact fun row hrow => hdb row (List.mem_filter.mp hrow).1
  | _ => exact hdb

end Skolva.Groups

namespace Skolva.Api

open Effect

/-- The rows of all tables are well formed. -/
structure Db.WellFormed (lib : Auth.External) (isEmail : String → Bool) (db : Db) : Prop where
  users : Auth.UsersWellFormed lib isEmail db.auth
  contacts : ∀ row ∈ db.contacts, row.WellFormed
  addresses : ∀ row ∈ db.addresses, row.WellFormed
  preferences : ∀ row ∈ db.preferences, row.WellFormed
  groups : ∀ row ∈ db.groups, row.WellFormed
  members : ∀ row ∈ db.members, row.WellFormed

/-- What the handlers have checked of the arguments. -/
def Call.WellFormed (isEmail : String → Bool) : Call → Prop
  | .auth call => call.WellFormed isEmail
  | .upsertAddress _ _ req => req.street1 ≠ "" ∧ req.postalCode ≠ "" ∧ req.city ≠ ""
  | .createContact _ _ _ req => req.value ≠ ""
  | .updateContact _ _ _ req => req.value ≠ ""
  | .createGroup _ _ name _ _ => name ≠ ""
  | .updateGroup _ _ name _ _ _ => name ≠ ""
  | _ => True

end Skolva.Api
