import Skolva.Auth.Calls
import Skolva.Auth.Directory
import Skolva.Crm.Profile
import Skolva.Groups.Members

/-! # What each method writes

A method reads as it likes, and makes the writes that its name says.
-/

namespace Skolva.Auth

open Effect

/-- The call changes no table and sends no mail. -/
def Op.Reads : Op → Prop
  | .createUser .. | .updateUser .. | .softDeleteUser .. | .updatePassword .. => False
  | .upsertTOTPSecret .. | .deleteTOTPSecret .. | .metaSet .. | .metaDelete .. => False
  | .sendMail .. => False
  | _ => True

/-! ## Users and their factors -/

/-- The writes of a call, with the hashes and the authors that it puts into the rows. -/
def ServiceCall.Puts (lib : External) (request : ServiceCall) : Op → Prop
  | .createUser id email passwordHash firstName lastName actor =>
      ∃ salt actorID password,
        request = .register id salt actorID email password firstName lastName ∧
          hashPassword lib salt password = .ok passwordHash ∧ actor = actorNull actorID
  | .updateUser id firstName lastName _ updatedBy =>
      ∃ actorID isActive, request = .updateUser actorID id firstName lastName isActive ∧
        updatedBy = actorNull actorID
  | .softDeleteUser id updatedBy =>
      ∃ actorID, request = .deleteUser actorID id ∧ updatedBy = actorNull actorID
  | .updatePassword id passwordHash =>
      ∃ salt token newPassword, request = .resetPassword salt id token newPassword ∧
        hashPassword lib salt newPassword = .ok passwordHash
  | op => request.Writes op

/-- The calls that write the table of users. -/
def ServiceCall.WritesUsers : ServiceCall → Prop
  | .register .. | .updateUser .. | .deleteUser .. | .resetPassword .. => True
  | _ => False

theorem ServiceCall.Writes.puts {lib : External} {request : ServiceCall} {op : Op}
    (hop : request.Writes op) (hother : ¬request.WritesUsers) : request.Puts lib op := by
  cases op with
  | createUser id email passwordHash firstName lastName actor =>
      obtain ⟨salt, actorID, password, rfl⟩ := hop
      exact absurd trivial hother
  | updateUser id firstName lastName isActive updatedBy =>
      obtain ⟨actorID, active, rfl⟩ := hop
      exact absurd trivial hother
  | softDeleteUser id updatedBy =>
      obtain ⟨actorID, rfl⟩ := hop
      exact absurd trivial hother
  | updatePassword id passwordHash =>
      obtain ⟨salt, token, newPassword, rfl⟩ := hop
      exact absurd trivial hother
  | _ => exact hop

theorem uses_puts (s : Service) (request : ServiceCall) :
    (s.call request).Uses (request.Puts s.lib) := by
  cases request with
  | register id salt actorID email password firstName lastName =>
      exact Program.uses_map (s.uses_register salt actorID password trivial
        fun _ hhash => ⟨salt, actorID, password, rfl, hhash, rfl⟩)
  | updateUser actorID id firstName lastName isActive =>
      exact Program.uses_map (Service.uses_updateUser actorID isActive trivial
        fun _ => ⟨actorID, isActive, rfl, rfl⟩)
  | deleteUser actorID id =>
      exact Program.uses_map (Service.uses_deleteUser actorID trivial ⟨actorID, rfl, rfl⟩)
  | resetPassword salt userID token newPassword =>
      exact Program.uses_map (s.uses_resetPassword salt token newPassword trivial
        (fun _ => trivial) (fun _ hhash => ⟨salt, token, newPassword, rfl, hhash⟩)
        fun _ => .inr ⟨trivial, trivial⟩)
  | _ => exact (Service.uses_call _).imp fun op hop => hop.puts not_false

/-! ## The directory -/

def DirectoryOp.Reads : DirectoryOp → Prop
  | .common op => op.Reads
  | .assignRole .. | .removeRole .. => False
  | _ => True

namespace Directory

variable {allowed : DirectoryOp → Prop}

/-- What comes after a look at the user. -/
theorem uses_ensureUser {β : Type} (hreads : ∀ op : DirectoryOp, op.Reads → allowed op)
    (userID : Uuid) {rest : Except Err Unit → DirectoryProg β}
    (hrest : ∀ result, (rest result).Uses allowed) :
    (ensureUser userID >>= rest).Uses allowed := by
  refine Program.uses_bind (Program.uses_bind (Program.uses_perform ?_) fun found => ?_) hrest
  · exact hreads _ trivial
  · split <;> exact Program.uses_pure _

theorem uses_userRoles (hreads : ∀ op : DirectoryOp, op.Reads → allowed op) (userID : Uuid) :
    (userRoles userID).Uses allowed := by
  refine Program.uses_bind (Program.uses_perform (hreads _ trivial)) fun roles => ?_
  split <;> exact Program.uses_pure _

theorem uses_listUserRoles (hreads : ∀ op : DirectoryOp, op.Reads → allowed op) (userID : Uuid) :
    (listUserRoles userID).Uses allowed := by
  refine uses_ensureUser hreads userID fun found => ?_
  split
  · exact Program.uses_pure _
  · exact uses_userRoles hreads userID

theorem uses_assignRole (hreads : ∀ op : DirectoryOp, op.Reads → allowed op)
    {actorID userID : Uuid} {roleSlug : String}
    (hassign : allowed (.assignRole userID roleSlug (actorNull actorID))) :
    (assignRole actorID userID roleSlug).Uses allowed := by
  refine uses_ensureUser hreads userID fun found => ?_
  split
  · exact Program.uses_pure _
  · refine Program.uses_bind (Program.uses_perform (hreads _ trivial)) fun role => ?_
    split
    · exact Program.uses_pure _
    · refine Program.uses_bind (Program.uses_perform hassign) fun resp => ?_
      split
      · exact Program.uses_pure _
      · exact uses_userRoles hreads userID

theorem uses_removeRole (hreads : ∀ op : DirectoryOp, op.Reads → allowed op) {userID : Uuid}
    {roleSlug : String} (hremove : allowed (.removeRole userID roleSlug)) :
    (removeRole userID roleSlug).Uses allowed := by
  refine uses_ensureUser hreads userID fun found => ?_
  split
  · exact Program.uses_pure _
  · refine Program.uses_bind (Program.uses_perform hremove) fun resp => ?_
    split <;> exact Program.uses_pure _

theorem uses_listUsers (hreads : ∀ op : DirectoryOp, op.Reads → allowed op) (limit offset : Nat) :
    (listUsers limit offset).Uses allowed := by
  refine Program.uses_bind (Program.uses_perform (hreads _ trivial)) fun rows => ?_
  split <;> exact Program.uses_pure _

theorem uses_searchUsers (hreads : ∀ op : DirectoryOp, op.Reads → allowed op) (hits : List Uuid) :
    (searchUsers hits).Uses allowed := by
  have hrows : (searchUserRows hits).Uses allowed := by
    unfold searchUserRows
    split
    · exact Program.uses_pure _
    · refine Program.uses_bind (Program.uses_perform (hreads _ trivial)) fun rows => ?_
      split <;> exact Program.uses_pure _
  refine Program.uses_bind hrows fun rows => ?_
  split <;> exact Program.uses_pure _

end Directory

end Skolva.Auth

namespace Skolva.Crm

open Dbexec Effect

def ProfileOp.Reads : ProfileOp → Prop
  | .upsertAddress .. | .upsertPreferences .. => False
  | _ => True

def Op.Reads : Op → Prop
  | .getContact _ => True
  | _ => False

namespace Service

section Profile

variable {allowed : ProfileOp → Prop}

theorem uses_getAddress (hreads : ∀ op : ProfileOp, op.Reads → allowed op) (userID : Uuid) :
    (getAddress userID).Uses allowed := by
  refine Program.uses_bind (Program.uses_perform (hreads _ trivial)) fun row => ?_
  split <;> exact Program.uses_pure _

theorem uses_upsertAddress {actorID userID : Uuid} {req : AddressRequest}
    (hupsert : ∀ cc, allowed (.upsertAddress (addressParams actorID userID cc req))) :
    (upsertAddress actorID userID req).Uses allowed := by
  unfold upsertAddress
  dsimp only
  split
  · exact Program.uses_pure _
  · refine Program.uses_bind (Program.uses_perform (hupsert _)) fun row => ?_
    split <;> exact Program.uses_pure _

theorem uses_getPreferences (hreads : ∀ op : ProfileOp, op.Reads → allowed op) (userID : Uuid) :
    (getPreferences userID).Uses allowed := by
  refine Program.uses_bind (Program.uses_perform (hreads _ trivial)) fun row => ?_
  split <;> exact Program.uses_pure _

theorem uses_upsertPreferences {actorID userID : Uuid} {req : PreferencesRequest}
    (hupsert : ∀ params : UpsertPreferencesParams, params.userID = userID →
      params.actor = actorNull actorID → allowed (.upsertPreferences params)) :
    (upsertPreferences actorID userID req).Uses allowed := by
  unfold upsertPreferences
  split
  · exact Program.uses_pure _
  · refine Program.uses_bind (Program.uses_perform (hupsert _ rfl rfl)) fun row => ?_
    split <;> exact Program.uses_pure _

theorem uses_listContacts (hreads : ∀ op : ProfileOp, op.Reads → allowed op) (userID : Uuid) :
    (listContacts userID).Uses allowed := by
  refine Program.uses_bind (Program.uses_perform (hreads _ trivial)) fun rows => ?_
  split <;> exact Program.uses_pure _

end Profile

section Contacts

variable {allowed : Op → Prop}

theorem uses_createContact {id actorID userID : Uuid} {req : CreateContactRequest}
    (hcreate : ∀ params : CreateContactParams, params.userID = userID → params.value = req.value →
      params.actor = actorNull actorID → allowed (.createContact actorID id req.isPrimary params)) :
    (createContact id actorID userID req).Uses allowed := by
  unfold createContact
  split
  · exact Program.uses_pure _
  · refine Program.uses_bind (Program.uses_perform (hcreate _ rfl rfl rfl)) fun row => ?_
    split <;> exact Program.uses_pure _

/-- A contact is written under the user to whom it belongs. -/
theorem uses_updateContact (hreads : ∀ op : Op, op.Reads → allowed op)
    {actorID userID contactID : Uuid} {req : UpdateContactRequest}
    (hupdate : ∀ contactType (params : UpdateContactParams), params.id = contactID →
      params.value = req.value → params.updatedBy = actorNull actorID →
      allowed (.updateContact actorID userID contactType req.isPrimary params)) :
    (updateContact actorID userID contactID req).Uses allowed := by
  refine Program.uses_bind (Program.uses_perform (hreads _ trivial)) fun found => ?_
  split
  · exact Program.uses_pure _
  · exact Program.uses_pure _
  next existing =>
    by_cases howner : existing.userId ≠ userID
    · rw [if_pos howner]
      exact Program.uses_pure _
    · rw [if_neg howner, not_not.mp howner]
      refine Program.uses_bind (Program.uses_perform (hupdate _ _ rfl rfl rfl)) fun row => ?_
      split <;> exact Program.uses_pure _

theorem uses_deleteContact (hreads : ∀ op : Op, op.Reads → allowed op)
    {actorID userID contactID : Uuid}
    (hdelete : allowed (.softDeleteContact actorID contactID (actorNull actorID))) :
    (deleteContact actorID userID contactID).Uses allowed := by
  refine Program.uses_bind (Program.uses_perform (hreads _ trivial)) fun found => ?_
  split
  · exact Program.uses_pure _
  · exact Program.uses_pure _
  · split
    · exact Program.uses_pure _
    · refine Program.uses_bind (Program.uses_perform hdelete) fun resp => ?_
      split <;> exact Program.uses_pure _

end Contacts

end Service

end Skolva.Crm

namespace Skolva.Groups

open Dbexec Effect

def Op.Reads : Op → Prop
  | .getByID _ => True
  | _ => False

def MembersOp.Reads : MembersOp → Prop
  | .addMember .. | .removeMember .. => False
  | _ => True

namespace Service

section Groups

variable {allowed : Op → Prop}

theorem uses_create {drawn actorID : Uuid} {name : String} {description : Option String}
    {groupType : String} (hcreate : ∀ params : CreateGroupParams, params.name = name →
      params.actor = actorNull actorID → allowed (.create actorID drawn params)) :
    (create drawn actorID name description groupType).Uses allowed := by
  unfold create
  dsimp only
  by_cases hvalid : (if groupType = "" then "sonstige" else groupType) ∉ validGroupTypes
  · rw [if_pos hvalid]
    exact Program.uses_pure _
  · rw [if_neg hvalid]
    refine Program.uses_bind (Program.uses_perform (hcreate _ rfl rfl)) fun row => ?_
    split <;> exact Program.uses_pure _

theorem uses_get (hreads : ∀ op : Op, op.Reads → allowed op) (id : Uuid) :
    (get id).Uses allowed := by
  refine Program.uses_bind (Program.uses_perform (hreads _ trivial)) fun found => ?_
  split <;> exact Program.uses_pure _

theorem uses_update (hreads : ∀ op : Op, op.Reads → allowed op) {actorID id : Uuid}
    {name : String} {description : Option String} {groupType : String} {isActive : Option Bool}
    (hupdate : ∀ params : UpdateGroupParams, params.id = id → params.name = name →
      params.updatedBy = actorNull actorID → allowed (.update actorID params)) :
    (update actorID id name description groupType isActive).Uses allowed := by
  refine Program.uses_bind (Program.uses_perform (hreads _ trivial)) fun found => ?_
  split
  · exact Program.uses_pure _
  · exact Program.uses_pure _
  · split
    · exact Program.uses_pure _
    · refine Program.uses_bind (Program.uses_perform (hupdate _ rfl rfl rfl)) fun row => ?_
      split <;> exact Program.uses_pure _

theorem uses_delete (hreads : ∀ op : Op, op.Reads → allowed op) {actorID id : Uuid}
    (hdelete : allowed (.softDelete actorID id (actorNull actorID))) :
    (delete actorID id).Uses allowed := by
  refine Program.uses_bind (Program.uses_perform (hreads _ trivial)) fun found => ?_
  split
  · exact Program.uses_pure _
  · exact Program.uses_pure _
  · refine Program.uses_bind (Program.uses_perform hdelete) fun resp => ?_
    split <;> exact Program.uses_pure _

end Groups

section Members

variable {allowed : MembersOp → Prop}

theorem uses_list (hreads : ∀ op : MembersOp, op.Reads → allowed op) (groupType : String)
    (limit offset : Nat) : (list groupType limit offset).Uses allowed := by
  unfold list
  split
  · split
    · exact Program.uses_pure _
    · refine Program.uses_bind (Program.uses_perform (hreads _ trivial)) fun rows => ?_
      split <;> exact Program.uses_pure _
  · refine Program.uses_bind (Program.uses_perform (hreads _ trivial)) fun rows => ?_
    split <;> exact Program.uses_pure _

/-- What comes after a look at the group. -/
theorem uses_ensureGroup {β : Type} (hreads : ∀ op : MembersOp, op.Reads → allowed op) (id : Uuid)
    {rest : Except Err Unit → MembersProg β} (hrest : ∀ result, (rest result).Uses allowed) :
    (ensureGroup id >>= rest).Uses allowed := by
  refine Program.uses_bind (Program.uses_bind (Program.uses_perform ?_) fun found => ?_) hrest
  · exact hreads _ trivial
  · split <;> exact Program.uses_pure _

theorem uses_members (hreads : ∀ op : MembersOp, op.Reads → allowed op) (groupID : Uuid) :
    (members groupID).Uses allowed := by
  refine Program.uses_bind (Program.uses_perform (hreads _ trivial)) fun rows => ?_
  split <;> exact Program.uses_pure _

theorem uses_addMember (hreads : ∀ op : MembersOp, op.Reads → allowed op)
    {actorID groupID userID : Uuid} {roleInGroup : String}
    (hadd : ∀ params : AddMemberParams, params.groupID = groupID → params.userID = userID →
      params.createdBy = actorNull actorID → allowed (.addMember params)) :
    (addMember actorID groupID userID roleInGroup).Uses allowed := by
  refine uses_ensureGroup hreads groupID fun found => ?_
  split
  · exact Program.uses_pure _
  · dsimp only
    by_cases hvalid : (if roleInGroup = "" then "mitglied" else roleInGroup) ∉ validMemberRoles
    · rw [if_pos hvalid]
      exact Program.uses_pure _
    · rw [if_neg hvalid]
      refine Program.uses_bind (Program.uses_perform (hadd _ rfl rfl rfl)) fun resp => ?_
      split
      · exact Program.uses_pure _
      · exact uses_members hreads groupID

theorem uses_listMembers (hreads : ∀ op : MembersOp, op.Reads → allowed op) (groupID : Uuid) :
    (listMembers groupID).Uses allowed := by
  refine uses_ensureGroup hreads groupID fun found => ?_
  split
  · exact Program.uses_pure _
  · exact uses_members hreads groupID

theorem uses_removeMember (hreads : ∀ op : MembersOp, op.Reads → allowed op)
    {groupID userID : Uuid} (hremove : allowed (.removeMember groupID userID)) :
    (removeMember groupID userID).Uses allowed := by
  refine uses_ensureGroup hreads groupID fun found => ?_
  split
  · exact Program.uses_pure _
  · refine Program.uses_bind (Program.uses_perform hremove) fun resp => ?_
    split <;> exact Program.uses_pure _

theorem uses_listUserGroups (hreads : ∀ op : MembersOp, op.Reads → allowed op) (userID : Uuid) :
    (listUserGroups userID).Uses allowed := by
  refine Program.uses_bind (Program.uses_perform (hreads _ trivial)) fun rows => ?_
  split <;> exact Program.uses_pure _

end Members

end Service

end Skolva.Groups
