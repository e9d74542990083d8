import Skolva.Api.Calls

/-! # Deleted groups

Each method looks the group up before anything else, and the lists select live groups. So a
deleted group is terminal: no call answers for it, lists it, or writes to its rows.
-/

namespace Skolva.Api

open Dbexec Effect

/-! ## The rows of a group -/

/-- The rows of both tables that belong to a group. -/
structure GroupRows where
  groups : List Groups.GroupRow
  members : List Groups.GroupMember

def Db.rowsOfGroup (db : Db) (g : Uuid) : GroupRows where
  groups := db.groups.filter fun row => row.id = g
  members := db.members.filter fun row => row.groupId = g

/-- There is a row for the group, and no live one. -/
structure GroupRows.Gone (rows : GroupRows) : Prop where
  known : rows.groups ≠ []
  deleted : ∀ row ∈ rows.groups, row.deletedAt ≠ none

namespace GroupRows.Gone

variable {db : Db} {g : Uuid}

theorem mem_ids (hgone : (db.rowsOfGroup g).Gone) : g ∈ db.groups.map Groups.GroupRow.id := by
  obtain ⟨row, hrow⟩ := List.exists_mem_of_ne_nil _ hgone.known
  obtain ⟨hmem, hid⟩ := List.mem_filter.mp hrow
  exact List.mem_map.mpr ⟨row, hmem, of_decide_eq_true hid⟩

/-- A live row is one of another group. -/
theorem id_ne (hgone : (db.rowsOfGroup g).Gone) {row : Groups.GroupRow} (hrow : row ∈ db.groups)
    (hlive : row.deletedAt = none) : row.id ≠ g :=
  fun hid => hgone.deleted row (List.mem_filter.mpr ⟨hrow, decide_eq_true hid⟩) hlive

theorem liveGroup (hgone : (db.rowsOfGroup g).Gone) : db.groupsDb.liveGroup g = none := by
  refine List.find?_eq_none.mpr fun row hrow hfound => ?_
  rw [decide_eq_true_eq] at hfound
  exact hgone.id_ne hrow hfound.2 hfound.1

theorem ne_of_liveGroup (hgone : (db.rowsOfGroup g).Gone) {v : Uuid} {row : Groups.GroupRow}
    (hlive : db.groupsDb.liveGroup v = some row) : row.id = v ∧ v ≠ g := by
  have hfound := List.find?_some hlive
  rw [decide_eq_true_eq] at hfound
  have hne := hgone.id_ne (List.mem_of_find?_eq_some hlive) hfound.2
  exact ⟨hfound.1, hfound.1 ▸ hne⟩

end GroupRows.Gone

/-! ## What calls are about -/

/-- The call is about this group. -/
def Call.AboutGroup (g : Uuid) : Call → Prop
  | .getGroup v | .updateGroup _ v _ _ _ _ | .deleteGroup _ v | .listMembers v
  | .addMember _ v _ _ | .removeMember v _ => v = g
  | _ => False

/-- The answer is this group, or a list with it. -/
def Answer.ShowsGroup {Token : Type} (g : Uuid) : Answer Token → Prop
  | .group row => row.id = g
  | .groups list => ∃ group ∈ list, group.id = g
  | .userGroups list => ∃ group ∈ list, group.groupId = g
  | _ => False

/-- What a call may do once this group is deleted. -/
structure Terminal {s : Auth.Service} (g : Uuid) (entry : ApiEntry s) : Prop where
  refused : entry.request.AboutGroup g →
    entry.reply = .error (.groups (.notFound "group")) ∧ entry.after = entry.before
  rows : entry.after.rowsOfGroup g = entry.before.rowsOfGroup g
  unlisted : ∀ answer, entry.reply = .ok answer → ¬answer.ShowsGroup g

section Calls

variable {s : Auth.Service} {now : Nat} {g : Uuid} {db : Db}

/-! ## Calls about the group -/

theorem refused_process (hgone : (db.rowsOfGroup g).Gone) {call : Call}
    (habout : call.AboutGroup g) :
    process s now call db = (.error (.groups (.notFound "group")), db) := by
  have hgroup := hgone.liveGroup
  have hgroup' : db.membersDb.liveGroup g = none := hgone.liveGroup
  cases call with
  | getGroup v =>
      obtain rfl := habout
      simp only [process, runGroups, moment, Groups.Service.run_get, hgroup]
      rfl
  | updateGroup actorID v name description groupType isActive =>
      obtain rfl := habout
      simp only [process, runGroups, moment, Groups.Service.run_update, hgroup]
      rfl
  | deleteGroup actorID v =>
      obtain rfl := habout
      simp only [process, runGroups, moment, Groups.Service.run_delete, hgroup]
      rfl
  | listMembers v =>
      obtain rfl := habout
      simp only [process, runMembers, Groups.Service.run_listMembers, hgroup']
      rfl
  | addMember actorID v u role =>
      obtain rfl := habout
      simp only [process, runMembers, Groups.Service.run_addMember, hgroup']
      rfl
  | removeMember v u =>
      obtain rfl := habout
      simp only [process, runMembers, Groups.Service.run_removeMember, hgroup']
      rfl
  | _ => exact habout.elim

/-! ## The rows -/

theorem rowsOfGroup_groups (rows : List Groups.GroupRow)
    (hrows : rows.filter (fun row => row.id = g) = db.groups.filter fun row => row.id = g) :
    ({ db with groups := rows }).rowsOfGroup g = db.rowsOfGroup g := by
  simp only [Db.rowsOfGroup, hrows]

theorem rowsOfGroup_members (rows : List Groups.GroupMember)
    (hrows : rows.filter (fun row => row.groupId = g) =
      db.members.filter fun row => row.groupId = g) :
    ({ db with members := rows }).rowsOfGroup g = db.rowsOfGroup g := by
  simp only [Db.rowsOfGroup, hrows]

/-- What is written to live rows leaves a deleted group alone. -/
theorem filter_updateLiveGroup (hgone : (db.rowsOfGroup g).Gone) (v : Uuid)
    {change : Groups.GroupRow → Groups.GroupRow} (hid : ∀ row, (change row).id = row.id) :
    (db.groupsDb.updateLiveGroup now v change).groups.filter (fun row => row.id = g) =
      db.groups.filter fun row => row.id = g := by
  apply Sql.filter_map_of_selected
  · intro row _
    split
    · simp [hid]
    · rfl
  · intro row hrow hselected
    exact if_neg fun hlive => hgone.id_ne hrow hlive.2 (of_decide_eq_true hselected)

theorem rows_createGroup (hgone : (db.rowsOfGroup g).Gone) (id actorID : Uuid) (name : String)
    (description : Option String) (groupType : String) :
    (process s now (.createGroup id actorID name description groupType) db).2.rowsOfGroup g =
      db.rowsOfGroup g := by
  simp only [process, runGroups, moment]
  rcases Groups.Service.create_cases now db.groupsDb id actorID name description groupType with
    ⟨err, hrun⟩ | ⟨_, hfresh, _, hrun⟩
  · rw [hrun]
    rfl
  · rw [hrun]
    have hne : id ≠ g := fun heq => hfresh (heq ▸ hgone.mem_ids)
    apply rowsOfGroup_groups
    simp [Groups.newGroup, hne, Db.groupsDb]

theorem rows_updateGroup (hgone : (db.rowsOfGroup g).Gone) (actorID v : Uuid) (name : String)
    (description : Option String) (groupType : String) (isActive : Option Bool) :
    (process s now (.updateGroup actorID v name description groupType isActive) db).2.rowsOfGroup
      g = db.rowsOfGroup g := by
  simp only [process, runGroups, moment]
  rcases Groups.Service.update_cases now db.groupsDb actorID v name description groupType isActive
    with ⟨err, hrun⟩ | ⟨current, _, _, _, hrun⟩
  · rw [hrun]
    rfl
  · rw [hrun]
    exact rowsOfGroup_groups _ (filter_updateLiveGroup hgone v fun _ => rfl)

theorem rows_deleteGroup (hgone : (db.rowsOfGroup g).Gone) (actorID v : Uuid) :
    (process s now (.deleteGroup actorID v) db).2.rowsOfGroup g = db.rowsOfGroup g := by
  simp only [process, runGroups, moment]
  rcases Groups.Service.delete_cases now db.groupsDb actorID v with
    ⟨err, hrun⟩ | ⟨current, _, _, hrun⟩
  · rw [hrun]
    rfl
  · rw [hrun]
    exact rowsOfGroup_groups _ (filter_updateLiveGroup hgone v fun _ => rfl)

/-- Members are added to live groups only. -/
theorem rows_addMember (hgone : (db.rowsOfGroup g).Gone) (actorID v u : Uuid)
    (roleInGroup : String) :
    (process s now (.addMember actorID v u roleInGroup) db).2.rowsOfGroup g =
      db.rowsOfGroup g := by
  simp only [process, runMembers]
  rcases Groups.Service.addMember_cases now db.membersDb actorID v u roleInGroup with
    ⟨err, hrun⟩ | ⟨group, after, hlive, hadd, hrun⟩
  · rw [hrun]
    rfl
  · rw [hrun]
    have hne := (hgone.ne_of_liveGroup hlive).2
    apply rowsOfGroup_members
    rcases Groups.MembersDb.addMember_cases hadd with ⟨_, hafter⟩ | ⟨_, hafter⟩
    · rw [hafter]
      apply Sql.filter_map_of_selected
      · intro row _
        split <;> rfl
      · intro row _ hrow
        exact if_neg fun hmatches => hne (hmatches.1.symm.trans (of_decide_eq_true hrow))
    · simp [hafter, Groups.AddMemberParams.row, hne, Db.membersDb]

theorem rows_removeMember (hgone : (db.rowsOfGroup g).Gone) (v u : Uuid) :
    (process s now (.removeMember v u) db).2.rowsOfGroup g = db.rowsOfGroup g := by
  simp only [process, runMembers, Groups.Service.run_removeMember]
  cases hlive : db.membersDb.liveGroup v with
  | none => rfl
  | some group =>
      have hne := (hgone.ne_of_liveGroup hlive).2
      apply rowsOfGroup_members
      unfold Groups.MembersDb.removeMember
      rw [List.filter_filter]
      apply List.filter_congr
      intro row _
      by_cases hrow : row.groupId = g
      · simp [hrow, hne.symm]
      · simp [hrow]

variable (s now) in
/-- No call writes to the rows of a deleted group. -/
theorem rowsOfGroup_process (hgone : (db.rowsOfGroup g).Gone) (call : Call) :
    (process s now call db).2.rowsOfGroup g = db.rowsOfGroup g := by
  cases call with
  | createGroup id actorID name description groupType =>
      exact rows_createGroup hgone id actorID name description groupType
  | updateGroup actorID v name description groupType isActive =>
      exact rows_updateGroup hgone actorID v name description groupType isActive
  | deleteGroup actorID v => exact rows_deleteGroup hgone actorID v
  | getGroup v =>
      simp only [process, runGroups, moment, Groups.Service.run_get]
      rfl
  | addMember actorID v u role => exact rows_addMember hgone actorID v u role
  | removeMember v u => exact rows_removeMember hgone v u
  | listMembers v =>
      simp only [process, runMembers, Groups.Service.run_listMembers]
      rfl
  | listGroups groupType limit offset =>
      simp only [process, runMembers, Groups.Service.run_list]
      rfl
  | _ =>
      simp only [process, runAuth, runDirectory, runProfile, runContacts, runMembers,
        Groups.Service.run_listUserGroups, Db.rowsOfGroup, Db.membersDb]

/-! ## Answers -/

theorem not_shows_listGroups (hgone : (db.rowsOfGroup g).Gone) (groupType : Option String)
    (limit offset : Nat) :
    ∀ group ∈ db.membersDb.listGroups groupType limit offset, group.id ≠ g := by
  intro group hgroup
  obtain ⟨row, hrow, rfl⟩ := List.mem_map.mp hgroup
  have hmem := List.mem_mergeSort.mp (List.mem_of_mem_drop (List.mem_of_mem_take hrow))
  obtain ⟨hrow, hselected⟩ := List.mem_filter.mp hmem
  exact hgone.id_ne hrow (of_decide_eq_true hselected).1

theorem not_shows_listUserGroups (hgone : (db.rowsOfGroup g).Gone) (u : Uuid) :
    ∀ group ∈ db.membersDb.listUserGroups u, group.groupId ≠ g := by
  intro group hgroup
  have hgroup := List.mem_mergeSort.mp hgroup
  obtain ⟨row, _, hfound⟩ := List.mem_filterMap.mp hgroup
  obtain ⟨other, hlive, rfl⟩ := Option.map_eq_some_iff.mp hfound
  obtain ⟨hid, hne⟩ := hgone.ne_of_liveGroup hlive
  exact hid.trans_ne hne

/-- No answer is the group or a list with it. -/
theorem not_showsGroup_process (hgone : (db.rowsOfGroup g).Gone) {call : Call}
    {answer : Answer s.lib.Token} (hreply : (process s now call db).1 = .ok answer) :
    ¬answer.ShowsGroup g := by
  cases call with
  | createGroup id actorID name description groupType =>
      simp only [process, runGroups, moment] at hreply
      rcases Groups.Service.create_cases now db.groupsDb id actorID name description groupType with
        ⟨err, hrun⟩ | ⟨_, hfresh, _, hrun⟩
      · rw [hrun] at hreply
        cases hreply
      · rw [hrun] at hreply
        obtain rfl := Except.ok.inj hreply
        rintro rfl
        exact hfresh hgone.mem_ids
  | getGroup v =>
      simp only [process, runGroups, moment, Groups.Service.run_get] at hreply
      cases hlive : db.groupsDb.liveGroup v with
      | none =>
          rw [hlive] at hreply
          cases hreply
      | some row =>
          rw [hlive] at hreply
          obtain rfl := Except.ok.inj hreply
          obtain ⟨hid, hne⟩ := hgone.ne_of_liveGroup hlive
          exact hid.trans_ne hne
  | updateGroup actorID v name description groupType isActive =>
      simp only [process, runGroups, moment] at hreply
      rcases Groups.Service.update_cases now db.groupsDb actorID v name description groupType
        isActive with ⟨err, hrun⟩ | ⟨current, hlive, _, _, hrun⟩
      · rw [hrun] at hreply
        cases hreply
      · rw [hrun] at hreply
        obtain rfl := Except.ok.inj hreply
        obtain ⟨hid, hne⟩ := hgone.ne_of_liveGroup hlive
        exact hid.trans_ne hne
  | listGroups groupType limit offset =>
      simp only [process, runMembers, Groups.Service.run_list] at hreply
      split_ifs at hreply
      · obtain rfl := Except.ok.inj hreply
        rintro ⟨group, hgroup, hid⟩
        exact not_shows_listGroups hgone none limit offset group hgroup hid
      · obtain rfl := Except.ok.inj hreply
        rintro ⟨group, hgroup, hid⟩
        exact not_shows_listGroups hgone (some groupType) limit offset group hgroup hid
      · cases hreply
  | listUserGroups u =>
      simp only [process, runMembers, Groups.Service.run_listUserGroups] at hreply
      obtain rfl := Except.ok.inj hreply
      rintro ⟨group, hgroup, hid⟩
      exact not_shows_listUserGroups hgone u group hgroup hid
  | _ =>
      simp only [process, runAuth, runDirectory, runProfile, runContacts, runGroups, runMembers]
        at hreply
      obtain ⟨value, _, rfl⟩ := reply_ok hreply
      exact id

theorem terminal_of_gone {entry : ApiEntry s} (hgone : (entry.before.rowsOfGroup g).Gone)
    (hprocess : process s entry.instant entry.request entry.before = (entry.reply, entry.after)) :
    Terminal g entry where
  refused habout := by
    rw [refused_process hgone habout] at hprocess
    obtain ⟨hreply, hafter⟩ := Prod.mk.inj hprocess
    exact ⟨hreply.symm, hafter.symm⟩
  rows := by
    have hrows := rowsOfGroup_process s entry.instant hgone entry.request
    rwa [hprocess] at hrows
  unlisted answer hanswer := by
    have hreply := congrArg Prod.fst hprocess
    exact not_showsGroup_process hgone (hreply.trans hanswer)

end Calls

/-! ## Runs -/

section Runs

variable {s : Auth.Service} {g : Uuid} {start last : Db} {history : List (ApiEntry s)}
variable {later earlier : List (ApiEntry s)} {deletion : ApiEntry s} {actorID : Uuid}
variable {answer : Answer s.lib.Token}

/-- A deletion that succeeds finds a live group, and leaves no live row of it. -/
theorem gone_of_deleteGroup {db : Db} {now : Nat}
    (hreply : (process s now (.deleteGroup actorID g) db).1 = .ok answer) :
    ((process s now (.deleteGroup actorID g) db).2.rowsOfGroup g).Gone := by
  simp only [process, runGroups, moment] at hreply ⊢
  rcases Groups.Service.delete_cases now db.groupsDb actorID g with
    ⟨err, hrun⟩ | ⟨current, hlive, _, hrun⟩
  · rw [hrun] at hreply
    cases hreply
  · rw [hrun]
    have hmem := List.mem_of_find?_eq_some hlive
    have hfound := List.find?_some hlive
    rw [decide_eq_true_eq] at hfound
    constructor
    · apply List.ne_nil_of_mem
      refine List.mem_filter.mpr ⟨List.mem_map_of_mem hmem, ?_⟩
      rw [if_pos hfound]
      exact decide_eq_true hfound.1
    · intro row hrow
      obtain ⟨hrow, hid⟩ := List.mem_filter.mp hrow
      obtain ⟨old, _, rfl⟩ := List.mem_map.mp hrow
      split
      next => exact Option.some_ne_none now
      next hother =>
        rw [if_neg hother, decide_eq_true_eq] at hid
        exact fun hlive => hother ⟨hid, hlive⟩

/-- Nothing brings the group or its rows back. -/
theorem ApiRun.rowsOfGroup (hrun : ApiRun s start (later ++ deletion :: earlier) last)
    (hrequest : deletion.request = .deleteGroup actorID g) (hreply : deletion.reply = .ok answer) :
    (last.rowsOfGroup g).Gone ∧ last.rowsOfGroup g = deletion.after.rowsOfGroup g := by
  apply Serial.along hrun rfl (motive := fun _ db =>
    (db.rowsOfGroup g).Gone ∧ db.rowsOfGroup g = deletion.after.rowsOfGroup g)
  · intro state hstate
    cases hstate with
    | cons now request _ _ =>
        obtain rfl : request = .deleteGroup actorID g := hrequest
        exact ⟨gone_of_deleteGroup hreply, rfl⟩
  · intro _ entry _ hprocess ⟨hgone, hrows⟩
    have hsame := (terminal_of_gone hgone hprocess).rows
    rw [hsame]
    exact ⟨hgone, hrows⟩

/-- After a successful deletion of a group, every later call treats it as one that is not there,
and its rows stay as the deletion left them. -/
theorem deleted_group_terminal (hrun : ApiRun s start history last)
    (hsplit : history = later ++ deletion :: earlier)
    (hrequest : deletion.request = .deleteGroup actorID g) (hreply : deletion.reply = .ok answer) :
    ∀ entry ∈ later,
      Terminal g entry ∧ entry.after.rowsOfGroup g = deletion.after.rowsOfGroup g := by
  subst hsplit
  intro entry hentry
  obtain ⟨newer, older, rfl⟩ := List.append_of_mem hentry
  rw [List.append_assoc, List.cons_append] at hrun
  obtain ⟨hbefore, -, hprocess⟩ := Serial.entry hrun rfl
  obtain ⟨hgone, hrows⟩ := ApiRun.rowsOfGroup hbefore hrequest hreply
  have hterminal := terminal_of_gone hgone hprocess
  exact ⟨hterminal, hterminal.rows.trans hrows⟩

end Runs

/-! ## Samples -/

namespace Sample

open Auth.Sample (alice service)

/-- Alice leads a group. -/
def dbWithTeam : Db :=
  { db with groups := [team], members := [⟨team.id, alice.id, "leiter", 0, none, none⟩] }

/-- The deletion of the group. -/
def teamDeletion : ApiEntry service := entryAt 10 (.deleteGroup alice.id team.id) dbWithTeam

/-- Once the group is deleted, Alice is not removed from it. -/
theorem removeMember_terminal : teamDeletion.reply = .ok .done ∧
    ∀ entry ∈ [entryAt 20 (.removeMember team.id alice.id) teamDeletion.after],
      Terminal team.id entry ∧
        entry.after.rowsOfGroup team.id = teamDeletion.after.rowsOfGroup team.id := by
  have hreply : teamDeletion.reply = .ok .done := rfl
  have hrun := run_record dbWithTeam
    [.removeMember team.id alice.id, .deleteGroup alice.id team.id]
  exact ⟨hreply, deleted_group_terminal hrun rfl rfl hreply⟩

end Sample

end Skolva.Api
