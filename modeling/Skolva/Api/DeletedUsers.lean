import Skolva.Api.UserRows
import Skolva.Api.Calls

/-! # Deleted users

The role methods check that the user is live, and the lists join live users. The methods for
addresses, preferences and contacts, `ListUserGroups` and `AddMember` do not look at the user.
For them a deleted user is as good as a live one.
-/

namespace Skolva.Api

open Dbexec Effect

namespace Call

/-- The call is about this user. -/
def AddressedTo (u : Uuid) : Call → Prop
  | .auth (.getUser v) | .auth (.updateUser _ v _ _ _) | .auth (.deleteUser _ v)
  | .listUserRoles v | .assignRole _ v _ | .removeRole v _
  | .getAddress v | .upsertAddress _ v _ | .getPreferences v | .upsertPreferences _ v _
  | .listContacts v | .createContact _ _ v _ | .updateContact _ v _ _ | .deleteContact _ v _
  | .listUserGroups v | .addMember _ _ v _ => v = u
  | _ => False

/-- The call removes the user from a group. -/
def Removes (u : Uuid) : Call → Prop
  | .removeMember _ v => v = u
  | _ => False

/-- The call goes on with this user, whom it does not look up. -/
def Reaches (u : Uuid) (db : Db) : Call → Prop
  | .upsertAddress _ v _ | .upsertPreferences _ v _ | .createContact _ _ v _ => v = u
  | .getAddress v => v = u ∧ db.profile.addressOf v ≠ none
  | .getPreferences v => v = u ∧ db.profile.preferencesOf v ≠ none
  | .listContacts v => v = u ∧ ∃ row ∈ db.contacts, row.userId = v ∧ row.deletedAt = none
  | .updateContact _ v contactID _ | .deleteContact _ v contactID =>
      v = u ∧ db.crm.OwnsLive v contactID
  | .listUserGroups v =>
      v = u ∧ ∃ row ∈ db.members, row.userId = v ∧ db.membersDb.liveGroup row.groupId ≠ none
  | .addMember _ g v roleInGroup =>
      v = u ∧ db.membersDb.liveGroup g ≠ none ∧
        -- A role that the user has already is not written, and an empty list is returned.
        ¬(Groups.Service.roleOr roleInGroup ∈ Groups.validMemberRoles ∧
          db.membersDb.HasRole g v (Groups.Service.roleOr roleInGroup) ∧
          db.membersDb.NobodyLive g)
  | _ => False

theorem Reaches.addressedTo {u : Uuid} {db : Db} {call : Call} (hreaches : call.Reaches u db) :
    call.AddressedTo u := by
  cases call <;> first | exact hreaches | exact hreaches.1 | exact hreaches.elim

end Call

/-- The answer holds nothing. -/
def Answer.IsEmpty {Token : Type} : Answer Token → Prop
  | .users list => list = []
  | .roles list => list = []
  | .contacts list => list = []
  | .groups list => list = []
  | .members list => list = []
  | .userGroups list => list = []
  | _ => False

inductive NotFoundOrEmpty {Token : Type} : Reply Token → Prop
  | notFound {err : Err} (herr : err.IsNotFound) : NotFoundOrEmpty (.error err)
  | empty {answer : Answer Token} (hanswer : answer.IsEmpty) : NotFoundOrEmpty (.ok answer)

@[simp] theorem notFoundOrEmpty_error {Token : Type} {err : Err} :
    NotFoundOrEmpty (.error err : Reply Token) ↔ err.IsNotFound :=
  ⟨fun | .notFound herr => herr, .notFound⟩

@[simp] theorem notFoundOrEmpty_ok {Token : Type} {answer : Answer Token} :
    NotFoundOrEmpty (.ok answer) ↔ answer.IsEmpty :=
  ⟨fun | .empty hanswer => hanswer, .empty⟩

/-- The answer is a list of users or of members with this one in it. -/
def Answer.Shows {Token : Type} (u : Uuid) : Answer Token → Prop
  | .users list => ∃ user ∈ list, user.id = u
  | .members list => ∃ member ∈ list, member.userId = u
  | _ => False

/-- What a call may do once this user is deleted. -/
structure OutOfReach {s : Auth.Service} (u : Uuid) (entry : ApiEntry s) : Prop where
  addressed : entry.request.AddressedTo u → NotFoundOrEmpty entry.reply
  lists : ∀ answer, entry.reply = .ok answer → ¬answer.Shows u
  rows : ¬entry.request.Removes u → entry.after.rowsOf u = entry.before.rowsOf u

section Calls

variable {s : Auth.Service} {now : Nat} {u : Uuid} {db : Db}

variable (s now) in
/-- Only these calls write rows of a deleted user. -/
theorem spares_process (hdb : db.Deleted u) (hkeys : db.ContactKeys) (call : Call) :
    Spares u (call.Reaches u db ∨ call.Removes u) db (process s now call db).2 := by
  cases call with
  | auth call => exact (spares_runAuth hdb call).mono False.elim
  | listUsers => exact .refl hdb
  | searchUsers hits => exact (spares_searchUsers hdb hits).mono False.elim
  | listUserRoles v => exact (spares_listUserRoles hdb v).mono False.elim
  | assignRole actorID v slug => exact (spares_assignRole hdb actorID v slug).mono False.elim
  | removeRole v slug => exact (spares_removeRole hdb v slug).mono False.elim
  | getAddress v => exact (spares_getAddress hdb v).mono False.elim
  | upsertAddress actorID v req => exact (spares_upsertAddress hdb actorID v req).mono Or.inl
  | getPreferences v => exact (spares_getPreferences hdb v).mono False.elim
  | upsertPreferences actorID v req =>
      exact (spares_upsertPreferences hdb actorID v req).mono Or.inl
  | listContacts v => exact .refl hdb
  | createContact id actorID v req =>
      exact (spares_createContact hdb hkeys id actorID v req).mono Or.inl
  | updateContact actorID v contactID req =>
      exact (spares_updateContact hdb hkeys actorID v contactID req).mono Or.inl
  | deleteContact actorID v contactID =>
      exact (spares_deleteContact hdb hkeys actorID v contactID).mono Or.inl
  | createGroup | getGroup | updateGroup | deleteGroup =>
      exact (spares_runGroups hdb _ _).mono False.elim
  | listGroups groupType limit offset =>
      exact (spares_listGroups hdb groupType limit offset).mono False.elim
  | addMember actorID g v role =>
      refine (spares_addMember hdb actorID g v role).mono fun ⟨heq, hgroup, hrole⟩ => Or.inl ?_
      exact ⟨heq, Option.isSome_iff_ne_none.mp hgroup, fun hsettled => hrole hsettled.2.1⟩
  | listMembers g => exact (spares_listMembers hdb g).mono False.elim
  | removeMember g v => exact (spares_removeMember hdb g v).mono Or.inr
  | listUserGroups v => exact .refl hdb

/-! ## Lists -/

theorem ne_of_live (hdb : db.Deleted u) {user : Auth.User} (huser : user ∈ db.auth.users)
    (hlive : user.deletedAt = none) : user.id ≠ u := by
  have hnone := List.find?_eq_none.mp hdb.deleted user huser
  simp only [decide_eq_true_eq, not_and] at hnone
  exact fun hid => hnone hid hlive

theorem not_mem_listUsers (hdb : db.Deleted u) (limit offset : Nat) :
    ∀ user ∈ db.auth.listUsers limit offset, user.id ≠ u := by
  intro response hresponse
  obtain ⟨user, huser, rfl⟩ := List.mem_map.mp hresponse
  have hrow := List.mem_mergeSort.mp (List.mem_of_mem_drop (List.mem_of_mem_take huser))
  obtain ⟨hmem, hlive⟩ := List.mem_filter.mp hrow
  exact ne_of_live hdb hmem (of_decide_eq_true hlive)

theorem not_mem_getUsersByIDs (hdb : db.Deleted u) (ids : List Uuid) :
    ∀ user ∈ db.auth.getUsersByIDs ids, user.id ≠ u := by
  intro response hresponse
  obtain ⟨user, huser, rfl⟩ := List.mem_map.mp hresponse
  obtain ⟨hmem, hlive⟩ := List.mem_filter.mp huser
  exact ne_of_live hdb hmem (of_decide_eq_true hlive).2

theorem not_mem_listMembers {store : Groups.MembersDb} (hdeleted : store.liveUser u = none)
    (g : Uuid) : ∀ member ∈ store.listMembers g, member.userId ≠ u := by
  intro member hmember
  obtain ⟨row, _, _, user, hlive, rfl⟩ := Groups.MembersDb.mem_listMembers_iff.mp hmember
  rintro rfl
  exact absurd (hdeleted.symm.trans hlive) (by simp)

theorem not_shows_addMember (hdb : db.Deleted u) (actorID g v : Uuid) (roleInGroup : String)
    {answer : Answer s.lib.Token}
    (hreply : (process s now (.addMember actorID g v roleInGroup) db).1 = .ok answer) :
    ¬answer.Shows u := by
  simp only [process, runMembers] at hreply
  obtain ⟨list, hlist, rfl⟩ := reply_ok hreply
  rw [Groups.Service.run_addMember] at hlist
  rintro ⟨member, hmember, hid⟩
  split at hlist
  · cases hlist
  · split_ifs at hlist
    split at hlist
    next => cases hlist
    next after hadd =>
      obtain rfl := Except.ok.inj hlist
      have hdeleted : after.liveUser u = none := by
        have husers := Groups.MembersDb.users_addMember db.membersDb now
          ⟨g, v, Groups.Service.roleOr roleInGroup, Groups.actorNull actorID⟩
        rw [hadd] at husers
        unfold Groups.MembersDb.liveUser
        rw [husers]
        exact hdb.deleted
      exact not_mem_listMembers hdeleted g member hmember hid

theorem not_shows_process (hdb : db.Deleted u) (call : Call) {answer : Answer s.lib.Token}
    (hreply : (process s now call db).1 = .ok answer) : ¬answer.Shows u := by
  cases call with
  | listUsers limit offset =>
      simp only [process, runDirectory] at hreply
      obtain ⟨list, hlist, rfl⟩ := reply_ok hreply
      rw [Auth.Directory.run_listUsers] at hlist
      obtain rfl := Except.ok.inj hlist
      rintro ⟨user, huser, hid⟩
      exact not_mem_listUsers hdb limit offset user huser hid
  | searchUsers hits =>
      simp only [process, runDirectory] at hreply
      obtain ⟨list, hlist, rfl⟩ := reply_ok hreply
      rw [Auth.Directory.run_searchUsers] at hlist
      obtain rfl := Except.ok.inj hlist
      rintro ⟨user, huser, hid⟩
      obtain ⟨_, _, hfound⟩ := List.mem_filterMap.mp huser
      have hmem := List.mem_reverse.mp (List.mem_of_find?_eq_some hfound)
      exact not_mem_getUsersByIDs hdb hits user hmem hid
  | listMembers g =>
      simp only [process, runMembers] at hreply
      obtain ⟨list, hlist, rfl⟩ := reply_ok hreply
      rw [Groups.Service.run_listMembers] at hlist
      rintro ⟨member, hmember, hid⟩
      cases hgroup : db.membersDb.liveGroup g with
      | none =>
          rw [hgroup] at hlist
          cases hlist
      | some group =>
          rw [hgroup] at hlist
          obtain rfl := Except.ok.inj hlist
          have hdeleted : db.membersDb.liveUser u = none := hdb.deleted
          exact not_mem_listMembers hdeleted g member hmember hid
  | addMember actorID g v role => exact not_shows_addMember hdb actorID g v role hreply
  | _ =>
      simp only [process, runAuth, runDirectory, runProfile, runContacts, runGroups, runMembers]
        at hreply
      obtain ⟨value, _, rfl⟩ := reply_ok hreply
      exact id

/-! ## Replies -/

section User

theorem notFound_getUser (hdb : db.Deleted u) :
    NotFoundOrEmpty (process s now (.auth (.getUser u)) db).1 := by
  simp only [process, runAuth, Auth.Service.processCall, Auth.Service.call,
    Auth.Service.run_answering, Auth.Service.run_getUser, hdb.deleted]
  exact .notFound trivial

theorem notFound_updateUser (hdb : db.Deleted u) (actorID : Uuid) (firstName lastName : String)
    (isActive : Option Bool) : NotFoundOrEmpty
      (process s now (.auth (.updateUser actorID u firstName lastName isActive)) db).1 := by
  simp only [process, runAuth, Auth.Service.processCall, Auth.Service.call,
    Auth.Service.run_answering, Auth.Service.run_updateUser_of_none _ _ _ _ _ _ hdb.deleted]
  exact .notFound trivial

theorem notFound_deleteUser (hdb : db.Deleted u) (actorID : Uuid) :
    NotFoundOrEmpty (process s now (.auth (.deleteUser actorID u)) db).1 := by
  simp only [process, runAuth, Auth.Service.processCall, Auth.Service.call,
    Auth.Service.run_answering, Auth.Service.run_deleteUser, hdb.deleted]
  exact .notFound trivial

theorem notFound_listUserRoles (hdb : db.Deleted u) :
    NotFoundOrEmpty (process s now (.listUserRoles u) db).1 := by
  simp only [process, runDirectory, Auth.Directory.run_listUserRoles, hdb.deleted]
  exact .notFound trivial

theorem notFound_assignRole (hdb : db.Deleted u) (actorID : Uuid) (roleSlug : String) :
    NotFoundOrEmpty (process s now (.assignRole actorID u roleSlug) db).1 := by
  simp only [process, runDirectory, Auth.Directory.run_assignRole, hdb.deleted]
  exact .notFound trivial

theorem notFound_removeRole (hdb : db.Deleted u) (roleSlug : String) :
    NotFoundOrEmpty (process s now (.removeRole u roleSlug) db).1 := by
  simp only [process, runDirectory, Auth.Directory.run_removeRole, hdb.deleted]
  exact .notFound trivial

end User

section Profile

variable (db) (v actorID : Uuid)

theorem reply_getAddress : NotFoundOrEmpty (process s now (.getAddress v) db).1 ↔
    db.profile.addressOf v = none := by
  simp only [process, runProfile, Crm.Service.run_getAddress]
  cases db.profile.addressOf v <;>
    simp [reply, Err.IsNotFound, Answer.IsEmpty]

theorem reply_getPreferences : NotFoundOrEmpty (process s now (.getPreferences v) db).1 ↔
    db.profile.preferencesOf v = none := by
  simp only [process, runProfile, Crm.Service.run_getPreferences]
  cases db.profile.preferencesOf v <;>
    simp [reply, Err.IsNotFound, Answer.IsEmpty]

theorem reply_upsertAddress (req : Crm.AddressRequest) :
    ¬NotFoundOrEmpty (process s now (.upsertAddress actorID v req) db).1 := by
  simp only [process, runProfile]
  rw [Crm.Service.run_upsertAddress]
  dsimp only
  split
  · simp [reply, Err.IsNotFound]
  · rcases db.profile.upsertAddress now _ with ⟨_ | _, after⟩ <;>
      simp [reply, Err.IsNotFound, Answer.IsEmpty]

theorem reply_upsertPreferences (req : Crm.PreferencesRequest) :
    ¬NotFoundOrEmpty (process s now (.upsertPreferences actorID v req) db).1 := by
  simp only [process, runProfile]
  rw [Crm.Service.run_upsertPreferences]
  split
  · simp [reply, Err.IsNotFound]
  · rcases db.profile.upsertPreferences now _ with ⟨_ | _, after⟩ <;>
      simp [reply, Err.IsNotFound, Answer.IsEmpty]

theorem reply_listContacts : NotFoundOrEmpty (process s now (.listContacts v) db).1 ↔
    ¬∃ row ∈ db.contacts, row.userId = v ∧ row.deletedAt = none := by
  simp only [process, runProfile, Crm.Service.run_listContacts, reply, notFoundOrEmpty_ok,
    Answer.IsEmpty]
  rw [Crm.ProfileDb.listContacts_eq_nil_iff]
  simp [Db.profile]

theorem reply_createContact (id : Uuid) (req : Crm.CreateContactRequest) :
    ¬NotFoundOrEmpty (process s now (.createContact id actorID v req) db).1 := by
  simp only [process, runContacts]
  rcases Crm.run_createContact (moment now) actorID v db.crm id req with
    ⟨_, hrun⟩ | ⟨_, hrun⟩ | ⟨_, _, _, _, hrun, _⟩ <;>
  · rw [hrun]
    simp [reply, Err.IsNotFound, Answer.IsEmpty]

variable {db} in
theorem reply_updateContact (hpkey : (db.contacts.map Crm.ContactPoint.id).Nodup)
    (contactID : Uuid) (req : Crm.UpdateContactRequest) :
    NotFoundOrEmpty (process s now (.updateContact actorID v contactID req) db).1 ↔
      ¬db.crm.OwnsLive v contactID := by
  simp only [process, runContacts]
  rcases Crm.run_updateContact (moment now) actorID v db.crm contactID rfl hpkey req with
    ⟨hother, hrun⟩ | ⟨howns, ⟨_, hrun⟩ | ⟨_, _, _, _, _, hrun, _⟩⟩
  · rw [hrun]
    simp [reply, Err.IsNotFound, hother]
  · rw [hrun]
    simp [reply, Err.IsNotFound, howns]
  · rw [hrun]
    simp [reply, Answer.IsEmpty, howns]

variable {db} in
theorem reply_deleteContact (hpkey : (db.contacts.map Crm.ContactPoint.id).Nodup)
    (contactID : Uuid) :
    NotFoundOrEmpty (process s now (.deleteContact actorID v contactID) db).1 ↔
      ¬db.crm.OwnsLive v contactID := by
  simp only [process, runContacts]
  rcases Crm.run_deleteContact (moment now) actorID v db.crm contactID rfl hpkey with
    ⟨hother, hrun⟩ | ⟨howns, ⟨_, hrun⟩ | hrun⟩
  · rw [hrun]
    simp [reply, Err.IsNotFound, hother]
  · rw [hrun]
    simp [reply, Err.IsNotFound, howns]
  · rw [hrun]
    simp [reply, Answer.IsEmpty, howns]

theorem reply_listUserGroups : NotFoundOrEmpty (process s now (.listUserGroups v) db).1 ↔
    ¬∃ row ∈ db.members, row.userId = v ∧ db.membersDb.liveGroup row.groupId ≠ none := by
  simp only [process, runMembers, Groups.Service.run_listUserGroups, reply, notFoundOrEmpty_ok,
    Answer.IsEmpty]
  rw [Groups.MembersDb.listUserGroups_eq_nil_iff]
  simp [Db.membersDb]

end Profile

/-! ## Adding a member -/

section AddMember

variable (actorID g v : Uuid) (roleInGroup : String)

/-- The group is not live, or there is nothing to write and nobody to list. -/
theorem reply_addMember (hother : ¬(Call.addMember actorID g v roleInGroup).Reaches v db) :
    NotFoundOrEmpty (process s now (.addMember actorID g v roleInGroup) db).1 := by
  simp only [process, runMembers]
  rw [Groups.Service.run_addMember]
  cases hgroup : db.membersDb.liveGroup g with
  | none => exact .notFound trivial
  | some group =>
      have hsettled : Groups.Service.roleOr roleInGroup ∈ Groups.validMemberRoles ∧
          db.membersDb.HasRole g v (Groups.Service.roleOr roleInGroup) ∧
          db.membersDb.NobodyLive g := by
        by_contra hnot
        exact hother ⟨rfl, by simp [hgroup], hnot⟩
      obtain ⟨hrole, hhas, hnobody⟩ := hsettled
      dsimp only
      rw [if_neg (not_not.mpr hrole), Groups.MembersDb.addMember_of_hasRole hrole hhas]
      exact .empty (Groups.MembersDb.listMembers_eq_nil_iff.mpr hnobody)

/-- Otherwise members are listed, or a row of the user is written. -/
theorem reached_addMember (hreaches : (Call.addMember actorID g v roleInGroup).Reaches v db)
    (hempty : NotFoundOrEmpty (process s now (.addMember actorID g v roleInGroup) db).1) :
    (process s now (.addMember actorID g v roleInGroup) db).2.rowsOf v ≠ db.rowsOf v := by
  obtain ⟨-, hgroup, hsettled⟩ := hreaches
  obtain ⟨group, hgroup⟩ := Option.ne_none_iff_exists'.mp hgroup
  simp only [process, runMembers] at hempty ⊢
  rw [Groups.Service.run_addMember, hgroup] at hempty ⊢
  dsimp only at hempty ⊢
  by_cases hrole : Groups.Service.roleOr roleInGroup ∈ Groups.validMemberRoles
  · rw [if_neg (not_not.mpr hrole)] at hempty ⊢
    rcases hadd : db.membersDb.addMember now
      ⟨g, v, Groups.Service.roleOr roleInGroup, Groups.actorNull actorID⟩ with ⟨_ | _, after⟩
    · rw [hadd] at hempty
      simp [reply, Err.IsNotFound] at hempty
    · rw [hadd] at hempty
      have hnone := Groups.MembersDb.listMembers_eq_nil_iff.mp (notFoundOrEmpty_ok.mp hempty)
      have hnobody := hnone.of_addMember hadd
      have hhas : ¬db.membersDb.HasRole g v (Groups.Service.roleOr roleInGroup) :=
        fun hhas => hsettled ⟨hrole, hhas, hnobody⟩
      intro hsame
      exact Groups.MembersDb.addMember_of_not_hasRole hadd hhas (congrArg UserRows.members hsame)
  · rw [if_pos hrole] at hempty
    simp [reply, Err.IsNotFound] at hempty

end AddMember

/-! ## A call after the deletion -/

/-- A call that does not go on with the user finds nothing. -/
theorem notFoundOrEmpty_process (hdb : db.Deleted u) (hkeys : db.ContactKeys) {call : Call}
    (haddressed : call.AddressedTo u) (hreaches : ¬call.Reaches u db) :
    NotFoundOrEmpty (process s now call db).1 := by
  cases call with
  | auth call =>
      cases call with
      | getUser v =>
          obtain rfl := haddressed
          exact notFound_getUser hdb
      | updateUser actorID v firstName lastName isActive =>
          obtain rfl := haddressed
          exact notFound_updateUser hdb actorID firstName lastName isActive
      | deleteUser actorID v =>
          obtain rfl := haddressed
          exact notFound_deleteUser hdb actorID
      | _ => exact haddressed.elim
  | listUserRoles v =>
      obtain rfl := haddressed
      exact notFound_listUserRoles hdb
  | assignRole actorID v slug =>
      obtain rfl := haddressed
      exact notFound_assignRole hdb actorID slug
  | removeRole v slug =>
      obtain rfl := haddressed
      exact notFound_removeRole hdb slug
  | getAddress v =>
      refine (reply_getAddress db v).mpr ?_
      by_contra hrow
      exact hreaches ⟨haddressed, hrow⟩
  | getPreferences v =>
      refine (reply_getPreferences db v).mpr ?_
      by_contra hrow
      exact hreaches ⟨haddressed, hrow⟩
  | listContacts v =>
      exact (reply_listContacts db v).mpr fun hrow => hreaches ⟨haddressed, hrow⟩
  | updateContact actorID v contactID req =>
      exact (reply_updateContact v actorID hkeys contactID req).mpr fun howns =>
        hreaches ⟨haddressed, howns⟩
  | deleteContact actorID v contactID =>
      exact (reply_deleteContact v actorID hkeys contactID).mpr fun howns =>
        hreaches ⟨haddressed, howns⟩
  | listUserGroups v =>
      exact (reply_listUserGroups db v).mpr fun hrow => hreaches ⟨haddressed, hrow⟩
  | addMember actorID g v role =>
      obtain rfl := haddressed
      exact reply_addMember actorID g v role hreaches
  | upsertAddress _ v | upsertPreferences _ v | createContact _ _ v =>
      have heq : v = u := haddressed
      exact absurd heq hreaches
  | _ => exact haddressed.elim

/-- A call that goes on with the user answers with data, fails for another reason, or writes
to a row of the user. -/
theorem reached_process (hkeys : db.ContactKeys) {call : Call} (hreaches : call.Reaches u db)
    (hempty : NotFoundOrEmpty (process s now call db).1) :
    (process s now call db).2.rowsOf u ≠ db.rowsOf u := by
  cases call with
  | getAddress v => exact absurd ((reply_getAddress db v).mp hempty) hreaches.2
  | getPreferences v => exact absurd ((reply_getPreferences db v).mp hempty) hreaches.2
  | upsertAddress actorID v req => exact absurd hempty (reply_upsertAddress db v actorID req)
  | upsertPreferences actorID v req =>
      exact absurd hempty (reply_upsertPreferences db v actorID req)
  | createContact id actorID v req => exact absurd hempty (reply_createContact db v actorID id req)
  | listContacts v => exact absurd hreaches.2 ((reply_listContacts db v).mp hempty)
  | updateContact actorID v contactID req =>
      exact absurd hreaches.2 ((reply_updateContact v actorID hkeys contactID req).mp hempty)
  | deleteContact actorID v contactID =>
      exact absurd hreaches.2 ((reply_deleteContact v actorID hkeys contactID).mp hempty)
  | listUserGroups v => exact absurd hreaches.2 ((reply_listUserGroups db v).mp hempty)
  | addMember actorID g v role =>
      obtain rfl := hreaches.1
      exact reached_addMember actorID g v role hreaches hempty
  | _ => exact hreaches.elim

theorem Call.Reaches.not_removes {call : Call} (hreaches : call.Reaches u db) :
    ¬call.Removes u := by
  cases call <;> first | exact hreaches.elim | exact id

/-- Once the user is deleted, a call keeps out of reach exactly if it does not go on with the
user. -/
theorem outOfReach_iff {entry : ApiEntry s} (hdb : entry.before.Deleted u)
    (hkeys : entry.before.ContactKeys)
    (hprocess : process s entry.instant entry.request entry.before = (entry.reply, entry.after)) :
    OutOfReach u entry ↔ ¬entry.request.Reaches u entry.before := by
  have hreply : entry.reply = (process s entry.instant entry.request entry.before).1 := by
    rw [hprocess]
  have hafter : entry.after = (process s entry.instant entry.request entry.before).2 := by
    rw [hprocess]
  constructor
  · intro hout hreaches
    have hempty := hout.addressed hreaches.addressedTo
    have hrows := hout.rows hreaches.not_removes
    rw [hreply] at hempty
    rw [hafter] at hrows
    exact reached_process hkeys hreaches hempty hrows
  · intro hreaches
    constructor
    · intro haddressed
      rw [hreply]
      exact notFoundOrEmpty_process hdb hkeys haddressed hreaches
    · intro answer hanswer
      rw [hreply] at hanswer
      exact not_shows_process hdb entry.request hanswer
    · intro hremoves
      rw [hafter]
      exact (spares_process s entry.instant hdb hkeys entry.request).rows fun hor => hor.elim hreaches hremoves

end Calls

/-! ## Runs -/

section Runs

variable {s : Auth.Service} {u : Uuid} {start last : Db} {history : List (ApiEntry s)}

theorem ApiRun.contactKeys (hrun : ApiRun s start history last) (hkeys : start.ContactKeys) :
    last.ContactKeys :=
  Serial.invariant (motive := fun _ db => db.ContactKeys) hrun hkeys
    fun _ _ now request _ hbefore _ => contactKeys_process s now hbefore request

/-- A deletion that succeeds finds a live user, and leaves a deleted one. -/
theorem deleted_of_deleteUser {db : Db} {now : Nat} {actorID : Uuid} {answer : Answer s.lib.Token}
    (hreply : (process s now (.auth (.deleteUser actorID u)) db).1 = .ok answer) :
    (process s now (.auth (.deleteUser actorID u)) db).2.Deleted u := by
  simp only [process, runAuth, Auth.Service.processCall, Auth.Service.call,
    Auth.Service.run_answering, Auth.Service.run_deleteUser] at hreply ⊢
  cases hlive : db.auth.liveUser u with
  | none =>
      rw [hlive] at hreply
      cases hreply
  | some user =>
      have hknown : db.auth.Known u := by
        have hid := List.find?_some hlive
        simp only [decide_eq_true_eq] at hid
        exact List.mem_map.mpr ⟨user, List.mem_of_find?_eq_some hlive, hid.1⟩
      constructor
      · refine Auth.Db.known_updateLiveUser now u ?_ hknown
        exact fun _ => rfl
      · refine Auth.Db.liveUser_updateLiveUser_self now ?_
        simp

variable {later earlier : List (ApiEntry s)} {deletion : ApiEntry s} {actorID : Uuid}
variable {answer : Answer s.lib.Token}

/-- Nothing brings the user back. -/
theorem ApiRun.deleted (hkeys : start.ContactKeys)
    (hrun : ApiRun s start (later ++ deletion :: earlier) last)
    (hrequest : deletion.request = .auth (.deleteUser actorID u))
    (hreply : deletion.reply = .ok answer) : last.Deleted u ∧ last.ContactKeys := by
  apply Serial.along hrun rfl (motive := fun _ db => db.Deleted u ∧ db.ContactKeys)
  · intro state hstate
    refine ⟨?_, ApiRun.contactKeys hstate hkeys⟩
    cases hstate with
    | cons now request _ _ =>
        obtain rfl : request = .auth (.deleteUser actorID u) := hrequest
        exact deleted_of_deleteUser hreply
  · intro _ entry _ hprocess ⟨hdb, hkeys⟩
    have hspares := spares_process s entry.instant hdb hkeys entry.request
    have hafter := contactKeys_process s entry.instant hkeys entry.request
    rw [hprocess] at hspares hafter
    exact ⟨hspares.deleted, hafter⟩

theorem outOfReach_iff_of_deleted (hkeys : start.ContactKeys)
    (hrun : ApiRun s start (later ++ deletion :: earlier) last)
    (hrequest : deletion.request = .auth (.deleteUser actorID u))
    (hreply : deletion.reply = .ok answer) {entry : ApiEntry s} (hentry : entry ∈ later) :
    OutOfReach u entry ↔ ¬entry.request.Reaches u entry.before := by
  obtain ⟨newer, older, rfl⟩ := List.append_of_mem hentry
  rw [List.append_assoc, List.cons_append] at hrun
  obtain ⟨hbefore, -, hprocess⟩ := Serial.entry hrun rfl
  obtain ⟨hdb, hkeys'⟩ := ApiRun.deleted hkeys hbefore hrequest hreply
  exact outOfReach_iff hdb hkeys' hprocess

/-- In a run with a successful deletion, the later calls keep the user out of reach exactly if
none of them goes on with the user. -/
theorem deleted_user_outOfReach_iff (hkeys : start.ContactKeys)
    (hrun : ApiRun s start history last) (hsplit : history = later ++ deletion :: earlier)
    (hrequest : deletion.request = .auth (.deleteUser actorID u))
    (hreply : deletion.reply = .ok answer) :
    (∀ entry ∈ later, OutOfReach u entry) ↔
      ∀ entry ∈ later, ¬entry.request.Reaches u entry.before := by
  subst hsplit
  exact forall₂_congr fun _ hentry =>
    outOfReach_iff_of_deleted hkeys hrun hrequest hreply hentry

end Runs

/-! ## Samples -/

namespace Sample

open Auth.Sample (alice service)

/-- Alice deletes herself. -/
def deletion : ApiEntry service := entryAt 10 (.auth (.deleteUser alice.id alice.id)) db

def contactRequest : Crm.CreateContactRequest where
  contactType := "email"
  label := none
  value := "alice@example.org"
  isPrimary := true
  isPreferred := false
  allowContact := none
  preferredTimeWindow := none
  note := none

/-- The creation of a contact for Alice. -/
def contactCall : Call := .createContact 5 alice.id alice.id contactRequest

theorem contactCall_reaches (before : Db) : contactCall.Reaches alice.id before := by
  simp [contactCall, Call.Reaches]

/-- The next call after the deletion. -/
def callAfter (request : Call) : ApiEntry service := entryAt 20 request deletion.after

theorem run_callAfter (request : Call) :
    ApiRun service db [callAfter request, deletion] (callAfter request).after := by
  refine Serial.cons 20 request (Serial.cons 10 _ Serial.nil ?_) ?_
  · exact fun _ hentry => absurd hentry (Option.not_mem_none _)
  · intro entry hentry
    obtain rfl := Option.some.inj hentry
    decide

theorem deletion_ok : deletion.reply = .ok (.auth .done) := rfl

/-- The list of users is empty after the deletion. -/
theorem listUsers_outOfReach : deletion.reply = .ok (.auth .done) ∧
    ∀ entry ∈ [callAfter (.listUsers 10 0)], OutOfReach alice.id entry := by
  have hsplit : [callAfter (.listUsers 10 0), deletion] =
      [callAfter (.listUsers 10 0)] ++ deletion :: [] := rfl
  refine ⟨deletion_ok, (deleted_user_outOfReach_iff (by simp [Db.ContactKeys, db])
    (run_callAfter (.listUsers 10 0)) hsplit rfl deletion_ok).mpr ?_⟩
  simp [callAfter, entryAt, Call.Reaches]

end Sample

/-- `CreateContact` stores a contact of a deleted user. -/
theorem not_forall_outOfReach :
    (Sample.callAfter Sample.contactCall).after.contacts.map Crm.ContactPoint.userId =
        [Auth.Sample.alice.id] ∧
      ¬∀ (s : Auth.Service) (u : Uuid) (start last : Db) (later earlier : List (ApiEntry s))
        (deletion : ApiEntry s) (actorID : Uuid) (answer : Answer s.lib.Token),
        start.ContactKeys → ApiRun s start (later ++ deletion :: earlier) last →
        deletion.request = .auth (.deleteUser actorID u) → deletion.reply = .ok answer →
        ∀ entry ∈ later, OutOfReach u entry := by
  refine ⟨by decide +kernel, fun hall => ?_⟩
  have hkeys : Sample.db.ContactKeys := by simp [Db.ContactKeys, Sample.db]
  have hmem : Sample.callAfter Sample.contactCall ∈ [Sample.callAfter Sample.contactCall] :=
    List.mem_singleton_self _
  have hrun : ApiRun Auth.Sample.service Sample.db
      ([Sample.callAfter Sample.contactCall] ++ Sample.deletion :: []) _ :=
    Sample.run_callAfter Sample.contactCall
  have hout := hall Auth.Sample.service Auth.Sample.alice.id Sample.db _
    [Sample.callAfter Sample.contactCall] [] Sample.deletion Auth.Sample.alice.id (.auth .done)
    hkeys hrun rfl Sample.deletion_ok (Sample.callAfter Sample.contactCall) hmem
  have hiff := outOfReach_iff_of_deleted hkeys hrun rfl Sample.deletion_ok hmem
  exact hiff.mp hout (Sample.contactCall_reaches _)

end Skolva.Api
