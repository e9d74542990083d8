import Skolva.Api.Calls
import Skolva.Crm.PrimaryContacts

/-! # Columns with a CHECK

Six methods write a column whose values a CHECK lists. The services test these values too,
before they call the database.
-/

namespace Skolva.Api

open Dbexec Effect

/-! ## The methods and their columns -/

/-- A call of a method that writes a column with a CHECK. -/
inductive CheckedCall where
  | upsertAddress (actorID userID : Uuid) (req : Crm.AddressRequest)
  | upsertPreferences (actorID userID : Uuid) (req : Crm.PreferencesRequest)
  | createContact (id actorID userID : Uuid) (req : Crm.CreateContactRequest)
  | createGroup (id actorID : Uuid) (name : String) (description : Option String)
      (groupType : String)
  | updateGroup (actorID id : Uuid) (name : String) (description : Option String)
      (groupType : String) (isActive : Option Bool)
  | addMember (actorID groupID userID : Uuid) (roleInGroup : String)

namespace CheckedCall

def call : CheckedCall → Call
  | upsertAddress actorID userID req => .upsertAddress actorID userID req
  | upsertPreferences actorID userID req => .upsertPreferences actorID userID req
  | createContact id actorID userID req => .createContact id actorID userID req
  | createGroup id actorID name description groupType =>
      .createGroup id actorID name description groupType
  | updateGroup actorID id name description groupType isActive =>
      .updateGroup actorID id name description groupType isActive
  | addMember actorID groupID userID roleInGroup => .addMember actorID groupID userID roleInGroup

/-- The CHECK admits the value of the request. An absent type of contact is `NULL`. -/
def Admits : CheckedCall → Prop
  | upsertAddress _ _ req => Crm.countryCodeCheck req.countryCode
  | upsertPreferences _ _ req => ∀ type ∈ req.preferredContactType, type ∈ Crm.preferredContactTypes
  | createContact _ _ _ req => req.contactType ∈ Crm.contactTypes
  | createGroup _ _ _ _ groupType | updateGroup _ _ _ _ groupType _ =>
      groupType ∈ Groups.groupTypes
  | addMember _ _ _ roleInGroup => roleInGroup ∈ Groups.memberRoles

/-- The value of the request is in the row that the request names. -/
def Stored (after : Db) : CheckedCall → Prop
  | upsertAddress _ userID req =>
      ∃ row ∈ after.addresses, row.userId = userID ∧ row.countryCode = req.countryCode
  | upsertPreferences _ userID req =>
      ∃ row ∈ after.preferences, row.userId = userID ∧
        row.preferredContactType = req.preferredContactType
  | createContact id _ _ req =>
      ∃ row ∈ after.contacts, row.id = id ∧ row.contactType = req.contactType
  | createGroup id _ _ _ groupType | updateGroup _ id _ _ groupType _ =>
      ∃ row ∈ after.groups, row.id = id ∧ row.groupType = groupType
  | addMember _ groupID userID roleInGroup =>
      ∃ row ∈ after.members, row.groupId = groupID ∧ row.userId = userID ∧
        row.roleInGroup = roleInGroup

end CheckedCall

/-! ## The statements -/

/-- The statement gets a value that the CHECK of its column admits. -/
def ProfileChecked : Crm.ProfileOp → Prop
  | .upsertAddress params => Crm.countryCodeCheck params.countryCode
  | .upsertPreferences params =>
      ∀ type ∈ params.preferredContactType, type ∈ Crm.preferredContactTypes
  | _ => True

def ContactsChecked : Crm.Op → Prop
  | .createContact _ _ _ params => params.contactType ∈ Crm.contactTypes
  | _ => True

def GroupsChecked : Groups.Op → Prop
  | .create _ _ params => params.groupType ∈ Groups.groupTypes
  | .update _ params => params.groupType ∈ Groups.groupTypes
  | _ => True

def MembersChecked : Groups.MembersOp → Prop
  | .addMember params => params.roleInGroup ∈ Groups.memberRoles
  | _ => True

/-- Whatever the database answers, the method passes only values that the CHECK admits. -/
def CheckedCall.Passes : CheckedCall → Prop
  | upsertAddress actorID userID req =>
      (Crm.Service.upsertAddress actorID userID req).Uses ProfileChecked
  | upsertPreferences actorID userID req =>
      (Crm.Service.upsertPreferences actorID userID req).Uses ProfileChecked
  | createContact id actorID userID req =>
      (Crm.Service.createContact id actorID userID req).Uses ContactsChecked
  | createGroup id actorID name description groupType =>
      (Groups.Service.create id actorID name description groupType).Uses GroupsChecked
  | updateGroup actorID id name description groupType isActive =>
      (Groups.Service.update actorID id name description groupType isActive).Uses GroupsChecked
  | addMember actorID groupID userID roleInGroup =>
      (Groups.Service.addMember actorID groupID userID roleInGroup).Uses MembersChecked

def Err.IsValidation : Err → Prop
  | .crm (.validation _) | .groups (.validation _) => True
  | _ => False

def Err.IsCheckViolation : Err → Prop
  | .crm (.call .checkViolation) | .groups (.call .checkViolation) => True
  | _ => False

/-- The service and the CHECK admit the same values. -/
structure CheckedCall.Agrees (checked : CheckedCall) (s : Auth.Service) : Prop where
  passes : checked.Passes
  noViolation : ∀ now db err, (process s now checked.call db).1 = .error err →
    ¬err.IsCheckViolation
  accepted : checked.Admits → ∀ now db err, (process s now checked.call db).1 = .error err →
    ¬err.IsValidation
  stored : checked.Admits → ∀ now db answer, (process s now checked.call db).1 = .ok answer →
    checked.Stored (process s now checked.call db).2

/-- A call is rejected for its value, fails otherwise, or succeeds. -/
inductive CheckedCall.Ends (checked : CheckedCall) {Token : Type} (result : Reply Token × Db) :
    Prop where
  | rejected (err : Err) (hreply : result.1 = .error err) (hvalue : ¬checked.Admits)
      (hvalidation : err.IsValidation)
  | failed (err : Err) (hreply : result.1 = .error err) (hvalidation : ¬err.IsValidation)
      (hviolation : ¬err.IsCheckViolation)
  | accepted (answer : Answer Token) (hreply : result.1 = .ok answer)
      (hstored : checked.Admits → checked.Stored result.2)

theorem Err.not_isCheckViolation {err : Err} (hvalidation : err.IsValidation) :
    ¬err.IsCheckViolation := by
  cases err with
  | auth err => exact hvalidation.elim
  | crm err => cases err <;> simp_all [IsValidation, IsCheckViolation]
  | groups err => cases err <;> simp_all [IsValidation, IsCheckViolation]

theorem CheckedCall.agrees_of_ends {checked : CheckedCall} {s : Auth.Service}
    (hpasses : checked.Passes) (hends : ∀ now db, checked.Ends (process s now checked.call db)) :
    checked.Agrees s where
  passes := hpasses
  noViolation now db err hreply := by
    cases hends now db with
    | rejected other hother _ hvalidation =>
        obtain rfl : other = err := Except.error.inj (hother.symm.trans hreply)
        exact Err.not_isCheckViolation hvalidation
    | failed other hother _ hnot =>
        obtain rfl : other = err := Except.error.inj (hother.symm.trans hreply)
        exact hnot
    | accepted answer hanswer => exact absurd (hanswer.symm.trans hreply) (by simp)
  accepted hadmits now db err hreply := by
    cases hends now db with
    | rejected _ _ hnot => exact absurd hadmits hnot
    | failed other hother hnot =>
        obtain rfl : other = err := Except.error.inj (hother.symm.trans hreply)
        exact hnot
    | accepted answer hanswer => exact absurd (hanswer.symm.trans hreply) (by simp)
  stored hadmits now db answer hreply := by
    cases hends now db with
    | rejected _ _ hnot => exact absurd hadmits hnot
    | failed other hother => exact absurd (hother.symm.trans hreply) (by simp)
    | accepted _ _ hstored => exact hstored hadmits

/-! ## The methods, one by one -/

section Methods

variable (s : Auth.Service) {actorID userID id : Uuid}

theorem upsertAddress_passes (req : Crm.AddressRequest) :
    (CheckedCall.upsertAddress actorID userID req).Passes := by
  change (Crm.Service.upsertAddress actorID userID req).Uses ProfileChecked
  unfold Crm.Service.upsertAddress
  dsimp only
  by_cases hvalid : Crm.validCountryCode (Crm.normalCountryCode req.countryCode) = true
  · rw [if_neg (not_not.mpr hvalid)]
    refine Program.uses_bind (Program.uses_perform ?_) fun row => ?_
    · exact Crm.validCountryCode_iff.mp hvalid
    · cases row <;> exact Program.uses_pure _
  · rw [if_pos hvalid]
    exact Program.uses_pure _

theorem upsertAddress_agrees (req : Crm.AddressRequest) :
    (CheckedCall.upsertAddress actorID userID req).Agrees s := by
  refine CheckedCall.agrees_of_ends (upsertAddress_passes req) fun now db => ?_
  simp only [CheckedCall.call, process, runProfile, Crm.Service.run_upsertAddress]
  by_cases hvalid : Crm.validCountryCode (Crm.normalCountryCode req.countryCode) = true
  · have hcheck := Crm.validCountryCode_iff.mp hvalid
    rw [if_neg (not_not.mpr hvalid)]
    rcases Crm.ProfileDb.upsertAddress_of_check now db.profile
      (Crm.Service.addressParams actorID userID (Crm.normalCountryCode req.countryCode) req)
      hcheck with hquery | ⟨address, after, hquery, hrow⟩
    · rw [hquery]
      exact .failed _ rfl not_false not_false
    · rw [hquery]
      refine .accepted _ rfl fun hadmits => ⟨_, hrow, rfl, ?_⟩
      exact Crm.normalCountryCode_eq hadmits
  · rw [if_pos hvalid]
    refine .rejected _ rfl (fun hadmits => hvalid ?_) trivial
    rw [Crm.normalCountryCode_eq hadmits]
    exact Crm.validCountryCode_iff.mpr hadmits

/-- The empty string is no value that the CHECK admits, but the service lets it pass. -/
theorem validPreferences_iff {req : Crm.PreferencesRequest}
    (hempty : req.preferredContactType ≠ some "") :
    (¬∃ type ∈ req.preferredContactType, type ≠ "" ∧ type ∉ Crm.validPreferredContactTypes) ↔
      ∀ type ∈ req.preferredContactType, type ∈ Crm.preferredContactTypes := by
  cases htype : req.preferredContactType with
  | none => simp
  | some type =>
      have hne : type ≠ "" := fun heq => hempty (heq ▸ htype)
      have hlists : Crm.validPreferredContactTypes = Crm.preferredContactTypes := rfl
      simp [hne, hlists]

theorem upsertPreferences_passes {req : Crm.PreferencesRequest}
    (hempty : req.preferredContactType ≠ some "") :
    (CheckedCall.upsertPreferences actorID userID req).Passes := by
  change (Crm.Service.upsertPreferences actorID userID req).Uses ProfileChecked
  unfold Crm.Service.upsertPreferences
  split
  next => exact Program.uses_pure _
  next htypes =>
    refine Program.uses_bind (Program.uses_perform ?_) fun row => ?_
    · exact (validPreferences_iff hempty).mp htypes
    · cases row <;> exact Program.uses_pure _

theorem upsertPreferences_agrees {req : Crm.PreferencesRequest}
    (hempty : req.preferredContactType ≠ some "") :
    (CheckedCall.upsertPreferences actorID userID req).Agrees s := by
  have hvalid := validPreferences_iff hempty
  refine CheckedCall.agrees_of_ends (upsertPreferences_passes hempty) fun now db => ?_
  simp only [CheckedCall.call, process, runProfile, Crm.Service.run_upsertPreferences]
  by_cases htypes : ∃ type ∈ req.preferredContactType,
      type ≠ "" ∧ type ∉ Crm.validPreferredContactTypes
  · rw [if_pos htypes]
    exact .rejected _ rfl (fun hadmits => hvalid.mpr hadmits htypes) trivial
  · rw [if_neg htypes]
    rcases Crm.ProfileDb.upsertPreferences_of_check now db.profile
      ⟨userID, req.preferredContactType, req.note, Crm.actorNull actorID⟩
      (hvalid.mp htypes) with hquery | ⟨preferences, after, hquery, hrow⟩
    · rw [hquery]
      exact .failed _ rfl not_false not_false
    · rw [hquery]
      exact .accepted _ rfl fun _ => ⟨_, hrow, rfl, rfl⟩

theorem createContact_passes (req : Crm.CreateContactRequest) :
    (CheckedCall.createContact id actorID userID req).Passes := by
  change (Crm.Service.createContact id actorID userID req).Uses ContactsChecked
  unfold Crm.Service.createContact
  split
  next => exact Program.uses_pure _
  next hvalid =>
    refine Program.uses_bind (Program.uses_perform ?_) fun row => ?_
    · exact not_not.mp hvalid
    · rcases row with _ | _ <;> exact Program.uses_pure _

theorem createContact_agrees (req : Crm.CreateContactRequest) :
    (CheckedCall.createContact id actorID userID req).Agrees s := by
  refine CheckedCall.agrees_of_ends (createContact_passes req) fun now db => ?_
  simp only [CheckedCall.call, process, runContacts, Crm.Service.createContact]
  by_cases hvalid : req.contactType ∈ Crm.validContactTypes
  · rw [if_neg (not_not.mpr hvalid)]
    simp only [Program.run_bind, Program.run_perform, Crm.serve]
    generalize hparams : Crm.CreateContactParams.mk .. = params
    have htype : params.contactType = req.contactType := by rw [← hparams]
    rcases Crm.createContact_cases (moment now) id req.isPrimary params db.crm with
      ⟨err, htx, hcause⟩ | ⟨contact, after, htx, hrow⟩
    · rw [htx]
      refine .failed _ rfl (fun hvalidation => hvalidation) ?_
      have hne : err ≠ .checkViolation := by
        rintro rfl
        rcases hcause with hcause | hcause
        · cases hcause
        · unfold Crm.createContactRow at hcause
          rw [if_neg (not_not.mpr (htype ▸ hvalid : params.contactType ∈ Crm.contactTypes))]
            at hcause
          split_ifs at hcause <;> cases hcause
      intro hviolation
      cases err <;> first | exact hne rfl | exact hviolation
    · rw [htx]
      obtain ⟨_, _, _, _, _, _, rfl⟩ := Crm.createContactRow_ok hrow
      refine .accepted _ rfl fun _ => ?_
      exact ⟨_, List.mem_append_right _ (List.mem_singleton_self _), rfl, htype⟩
  · rw [if_pos hvalid]
    exact .rejected _ rfl (fun hadmits => hvalid hadmits) trivial

theorem createGroup_passes (name : String) (description : Option String) (groupType : String) :
    (CheckedCall.createGroup id actorID name description groupType).Passes := by
  change (Groups.Service.create id actorID name description groupType).Uses GroupsChecked
  unfold Groups.Service.create
  dsimp only
  by_cases hvalid : (if groupType = "" then "sonstige" else groupType) ∈ Groups.validGroupTypes
  · rw [if_neg (not_not.mpr hvalid)]
    refine Program.uses_bind (Program.uses_perform hvalid) fun row => ?_
    rcases row with _ | _ <;> exact Program.uses_pure _
  · rw [if_pos hvalid]
    exact Program.uses_pure _

theorem createGroup_agrees (name : String) (description : Option String) (groupType : String) :
    (CheckedCall.createGroup id actorID name description groupType).Agrees s := by
  refine CheckedCall.agrees_of_ends (createGroup_passes name description groupType)
    fun now db => ?_
  simp only [CheckedCall.call, process, runGroups, moment, Groups.Service.run_create]
  generalize hparams : Groups.Service.createParams actorID name description groupType = params
  have htype : groupType ∈ Groups.groupTypes → params.groupType = groupType := by
    intro hadmits
    rw [← hparams]
    refine if_neg fun hempty => ?_
    exact absurd (hempty ▸ hadmits) (by decide)
  by_cases hvalid : params.groupType ∈ Groups.validGroupTypes
  · rw [if_neg (not_not.mpr hvalid)]
    have hnone : ¬params.groupType ∉ Groups.groupTypes := not_not.mpr hvalid
    unfold Groups.createGroup
    rw [if_neg hnone]
    split_ifs
    · exact .failed _ rfl not_false not_false
    · refine .accepted _ rfl fun hadmits => ?_
      exact ⟨_, List.mem_append_right _ (List.mem_singleton_self _), rfl, htype hadmits⟩
    · exact .failed _ rfl not_false not_false
  · rw [if_pos hvalid]
    refine .rejected _ rfl (fun hadmits => hvalid ?_) trivial
    rw [htype hadmits]
    exact hadmits

theorem updateGroup_passes (name : String) (description : Option String) (groupType : String)
    (isActive : Option Bool) :
    (CheckedCall.updateGroup actorID id name description groupType isActive).Passes := by
  change (Groups.Service.update actorID id name description groupType isActive).Uses GroupsChecked
  unfold Groups.Service.update
  refine Program.uses_bind (Program.uses_perform trivial) fun current => ?_
  rcases current with cause | current
  · cases cause <;> exact Program.uses_pure _
  · dsimp only
    split
    next => exact Program.uses_pure _
    next hvalid =>
      refine Program.uses_bind (Program.uses_perform ?_) fun row => ?_
      · exact not_not.mp hvalid
      · rcases row with _ | _ <;> exact Program.uses_pure _

theorem updateGroup_agrees (name : String) (description : Option String) (groupType : String)
    (isActive : Option Bool) :
    (CheckedCall.updateGroup actorID id name description groupType isActive).Agrees s := by
  refine CheckedCall.agrees_of_ends (updateGroup_passes name description groupType isActive)
    fun now db => ?_
  simp only [CheckedCall.call, process, runGroups, moment, Groups.Service.run_update]
  cases hlive : db.groupsDb.liveGroup id with
  | none => exact .failed _ rfl not_false not_false
  | some current =>
      dsimp only
      by_cases hvalid : groupType ∈ Groups.validGroupTypes
      · rw [if_neg (not_not.mpr hvalid)]
        rcases Groups.updateGroup_of_check now (Groups.Service.updateParams actorID id name
          description groupType isActive (Groups.groupFrom current)) hlive hvalid with
          hquery | ⟨group, after, hquery, row, hrow, hid, htype⟩
        · rw [hquery]
          exact .failed _ rfl not_false not_false
        · rw [hquery]
          exact .accepted _ rfl fun _ => ⟨row, hrow, hid, htype⟩
      · rw [if_pos hvalid]
        exact .rejected _ rfl (fun hadmits => hvalid hadmits) trivial

theorem addMember_passes (groupID : Uuid) (roleInGroup : String) :
    (CheckedCall.addMember actorID groupID userID roleInGroup).Passes := by
  change (Groups.Service.addMember actorID groupID userID roleInGroup).Uses MembersChecked
  unfold Groups.Service.addMember Groups.Service.ensureGroup
  refine Program.uses_bind (Program.uses_bind (Program.uses_perform trivial) fun row => ?_)
    fun group => ?_
  · rcases row with cause | _
    · cases cause <;> exact Program.uses_pure _
    · exact Program.uses_pure _
  · rcases group with _ | _
    · exact Program.uses_pure _
    · dsimp only
      by_cases hvalid : Groups.Service.roleOr roleInGroup ∈ Groups.validMemberRoles
      · refine (congrArg (Program.Uses MembersChecked) (if_neg (not_not.mpr hvalid))).mpr ?_
        refine Program.uses_bind (Program.uses_perform hvalid) fun added => ?_
        rcases added with _ | _
        · exact Program.uses_pure _
        · refine Program.uses_bind (Program.uses_perform trivial) fun rows => ?_
          rcases rows with _ | _ <;> exact Program.uses_pure _
      · refine (congrArg (Program.Uses MembersChecked) (if_pos hvalid)).mpr ?_
        exact Program.uses_pure _

theorem addMember_agrees (groupID : Uuid) (roleInGroup : String) :
    (CheckedCall.addMember actorID groupID userID roleInGroup).Agrees s := by
  refine CheckedCall.agrees_of_ends (addMember_passes groupID roleInGroup) fun now db => ?_
  simp only [CheckedCall.call, process, runMembers, Groups.Service.run_addMember]
  cases hlive : db.membersDb.liveGroup groupID with
  | none => exact .failed _ rfl not_false not_false
  | some group =>
      dsimp only
      have hrole : roleInGroup ∈ Groups.memberRoles →
          Groups.Service.roleOr roleInGroup = roleInGroup := by
        intro hadmits
        refine if_neg fun hempty => ?_
        exact absurd (hempty ▸ hadmits) (by decide)
      by_cases hvalid : Groups.Service.roleOr roleInGroup ∈ Groups.validMemberRoles
      · rw [if_neg (not_not.mpr hvalid)]
        rcases @Groups.MembersDb.addMember_of_check db.membersDb now
          ⟨groupID, userID, Groups.Service.roleOr roleInGroup, Groups.actorNull actorID⟩
          hvalid with hquery | ⟨after, hquery, row, hrow, hmatches, hwritten⟩
        · rw [hquery]
          exact .failed _ rfl not_false not_false
        · rw [hquery]
          refine .accepted _ rfl fun hadmits => ?_
          exact ⟨row, hrow, hmatches.1, hmatches.2, hwritten.trans (hrole hadmits)⟩
      · rw [if_pos hvalid]
        refine .rejected _ rfl (fun hadmits => hvalid ?_) trivial
        rw [hrole hadmits]
        exact hadmits

end Methods

/-! ## The type that passes the service -/

theorem not_agrees_of_empty (s : Auth.Service) (actorID userID : Uuid) (note : Option String) :
    ¬(CheckedCall.upsertPreferences actorID userID ⟨some "", note⟩).Agrees s := by
  intro hagrees
  have hpasses : (Crm.Service.upsertPreferences actorID userID ⟨some "", note⟩).Uses
      ProfileChecked := hagrees.passes
  unfold Crm.Service.upsertPreferences at hpasses
  rw [if_neg (by simp)] at hpasses
  exact absurd (hpasses.1 "" rfl) (by decide)

/-- The service and the CHECK admit the same values, except for the empty type of contact in
preferences: the service lets it pass as it would let none pass. -/
theorem agrees_iff (s : Auth.Service) (checked : CheckedCall) :
    checked.Agrees s ↔
      ∀ actorID userID note, checked ≠ .upsertPreferences actorID userID ⟨some "", note⟩ := by
  constructor
  · rintro hagrees actorID userID note rfl
    exact not_agrees_of_empty s actorID userID note hagrees
  · intro hother
    cases checked with
    | upsertAddress actorID userID req => exact upsertAddress_agrees s req
    | upsertPreferences actorID userID req =>
        refine upsertPreferences_agrees s fun hempty => hother actorID userID req.note ?_
        rw [← hempty]
    | createContact id actorID userID req => exact createContact_agrees s req
    | createGroup id actorID name description groupType =>
        exact createGroup_agrees s name description groupType
    | updateGroup actorID id name description groupType isActive =>
        exact updateGroup_agrees s name description groupType isActive
    | addMember actorID groupID userID roleInGroup => exact addMember_agrees s groupID roleInGroup

namespace Sample

/-- The database rejects what the service has let pass. -/
theorem empty_contactType_violates :
    (process Auth.Sample.service 5 (.upsertPreferences 1 1 ⟨some "", none⟩) db).1 =
        .error (.crm (.call .checkViolation)) ∧
      ¬(CheckedCall.upsertPreferences 1 1 ⟨some "", none⟩).Agrees Auth.Sample.service := by
  have hreply : (process Auth.Sample.service 5 (.upsertPreferences 1 1 ⟨some "", none⟩) db).1 =
      .error (.crm (.call .checkViolation)) := by
    simp only [process, runProfile, Crm.Service.run_upsertPreferences]
    rfl
  exact ⟨hreply, fun hagrees => hagrees.noViolation 5 db _ hreply trivial⟩

end Sample

end Skolva.Api
