import Skolva.Api.Calls
import Skolva.Sql.Query

/-! # Members of groups and groups of users

Both lists are joins of one table, with the other table of each filtered. The table holds for
each pair what the last successful call on it has left: a map of last writers.
-/

namespace Skolva.Api

open Dbexec Effect

/-- What the lists show of a user in a group. -/
structure Membership where
  roleInGroup : String
  joinedAt : Nat
  deriving DecidableEq

def membershipOfRow (row : Groups.GroupMember) : Membership := ⟨row.roleInGroup, row.joinedAt⟩

def membershipOfMember (member : Groups.Member) : Membership :=
  ⟨member.roleInGroup, member.joinedAt⟩

def membershipOfGroup (group : Groups.UserGroup) : Membership :=
  ⟨group.roleInGroup, group.joinedAt⟩

/-! ## The history of a pair -/

section History

variable {s : Auth.Service} (g u : Uuid)

/-- The role that a successful `AddMember` gives the user in the group. -/
def addedRole (entry : ApiEntry s) : Option String :=
  match entry.request, entry.reply with
  | .addMember _ v w roleInGroup, .ok _ =>
      if v = g ∧ w = u then some (Groups.Service.roleOr roleInGroup) else none
  | _, _ => none

/-- The call is a successful `RemoveMember` of the user from the group. -/
def removesMember (entry : ApiEntry s) : Bool :=
  match entry.request, entry.reply with
  | .removeMember v w, .ok _ => v = g ∧ w = u
  | _, _ => false

/-- The role of the last successful `AddMember` or `RemoveMember`, if it was an `AddMember`. -/
def lastRole (history : List (ApiEntry s)) : Option String :=
  (history.find? fun entry => removesMember g u entry || (addedRole g u entry).isSome).bind
    (addedRole g u)

/-- The successful calls of `AddMember` after the last `RemoveMember`. -/
def additions (history : List (ApiEntry s)) : List (ApiEntry s) :=
  (history.takeWhile fun entry => !removesMember g u entry).filter fun entry =>
    (addedRole g u entry).isSome

/-- The membership that the history leaves: the role of the last successful call, if it was an
`AddMember`, and the instant of the first `AddMember` after the last `RemoveMember`. -/
def membershipAfter (history : List (ApiEntry s)) : Option Membership :=
  match lastRole g u history, (additions g u history).getLast? with
  | some roleInGroup, some first => some ⟨roleInGroup, first.instant⟩
  | _, _ => none

variable {g u}

theorem addedRole_of_removes {entry : ApiEntry s} (hremoves : removesMember g u entry = true) :
    addedRole g u entry = none := by
  unfold removesMember at hremoves
  unfold addedRole
  split at hremoves
  next hrequest _ => rw [hrequest]
  next => cases hremoves

/-- The last call was an addition exactly if there is one after the last removal. -/
theorem isSome_lastRole (history : List (ApiEntry s)) :
    (lastRole g u history).isSome = (additions g u history).getLast?.isSome := by
  induction history with
  | nil => rfl
  | cons entry history ih =>
      cases hremoves : removesMember g u entry with
      | true => simp [lastRole, additions, hremoves, addedRole_of_removes hremoves]
      | false =>
          cases hadded : addedRole g u entry with
          | none => simpa [lastRole, additions, hremoves, hadded] using ih
          | some role => simp [lastRole, additions, hremoves, hadded]

variable (g u) in
/-- What a call makes of the membership. -/
def nextMembership (entry : ApiEntry s) (before : Option Membership) : Option Membership :=
  if removesMember g u entry then none
  else
    match addedRole g u entry with
    | some role => some ⟨role, (before.map Membership.joinedAt).getD entry.instant⟩
    | none => before

/-- An addition sets the role, and the instant unless the user is a member already. -/
theorem membershipAfter_added {entry : ApiEntry s} (history : List (ApiEntry s))
    (hremoves : removesMember g u entry = false) {role : String}
    (hadded : addedRole g u entry = some role) :
    membershipAfter g u (entry :: history) =
      some ⟨role, ((membershipAfter g u history).map Membership.joinedAt).getD entry.instant⟩ := by
  have hrole : lastRole g u (entry :: history) = some role := by
    simp [lastRole, hadded]
  have hfirst : additions g u (entry :: history) = entry :: additions g u history := by
    simp [additions, hremoves, hadded]
  have hsome := isSome_lastRole (g := g) (u := u) history
  unfold membershipAfter
  rw [hrole, hfirst, List.getLast?_cons]
  cases hlast : lastRole g u history with
  | none =>
      rw [hlast] at hsome
      have hnone := Option.isSome_eq_false_iff.mp hsome.symm
      rw [Option.isNone_iff_eq_none] at hnone
      simp [hnone]
  | some old =>
      rw [hlast] at hsome
      obtain ⟨first, hsome⟩ := Option.isSome_iff_exists.mp hsome.symm
      simp [hsome]

theorem membershipAfter_cons (entry : ApiEntry s) (history : List (ApiEntry s)) :
    membershipAfter g u (entry :: history) =
      nextMembership g u entry (membershipAfter g u history) := by
  cases hremoves : removesMember g u entry with
  | true =>
      simp [nextMembership, membershipAfter, lastRole, hremoves, addedRole_of_removes hremoves]
  | false =>
      cases hadded : addedRole g u entry with
      | none => simp [nextMembership, membershipAfter, lastRole, additions, hremoves, hadded]
      | some role =>
          rw [membershipAfter_added history hremoves hadded]
          simp [nextMembership, hremoves, hadded]

end History

/-! ## The rows of a pair -/

def Call.writesMembers : Call → Bool
  | .addMember .. | .removeMember .. => true
  | _ => false

def Db.pairRows (db : Db) (g u : Uuid) : List Groups.GroupMember :=
  db.members.filter fun row => row.groupId = g ∧ row.userId = u

/-- The table holds this membership, and no other. -/
def Db.Holds (db : Db) (g u : Uuid) (membership : Option Membership) : Prop :=
  (db.pairRows g u).map membershipOfRow = membership.toList

section Step

variable {s : Auth.Service} {now : Nat} {g u : Uuid} {db after : Db}
variable {membership : Option Membership}

theorem holds_congr (hholds : db.Holds g u membership) (hrows : after.pairRows g u = db.pairRows g u) :
    after.Holds g u membership := by
  unfold Db.Holds
  rwa [hrows]

section AddMember

variable {params : Groups.AddMemberParams}

/-- A row that `AddMember` meets gets the role, and keeps the instant. -/
theorem holds_rerole (hholds : db.Holds params.groupID params.userID membership)
    (hconflict : ∃ row ∈ db.members, params.Matches row)
    (hmembers : after.members = db.members.map fun row =>
      if params.Matches row then { row with roleInGroup := params.roleInGroup } else row) :
    after.Holds params.groupID params.userID
      (some ⟨params.roleInGroup, (membership.map Membership.joinedAt).getD now⟩) := by
  have hrows : after.pairRows params.groupID params.userID =
      (db.pairRows params.groupID params.userID).map fun row =>
        { row with roleInGroup := params.roleInGroup } := by
    unfold Db.pairRows
    rw [hmembers, List.filter_map]
    have hkeys : ∀ row : Groups.GroupMember,
        (if params.Matches row then { row with roleInGroup := params.roleInGroup }
          else row).groupId = row.groupId ∧
        (if params.Matches row then { row with roleInGroup := params.roleInGroup }
          else row).userId = row.userId := by
      intro row
      split <;> exact ⟨rfl, rfl⟩
    simp only [Function.comp_def, hkeys]
    apply List.map_congr_left
    intro row hrow
    exact if_pos (of_decide_eq_true (List.mem_filter.mp hrow).2)
  unfold Db.Holds at hholds ⊢
  rw [hrows, List.map_map]
  change (db.pairRows params.groupID params.userID).map
    ((fun old => Membership.mk params.roleInGroup old.joinedAt) ∘ membershipOfRow) = _
  rw [← List.map_map, hholds]
  cases membership with
  | some old => rfl
  | none =>
      obtain ⟨row, hrow, hmatches⟩ := hconflict
      rw [Option.toList_none, List.map_eq_nil_iff] at hholds
      have hmem : row ∈ db.pairRows params.groupID params.userID :=
        List.mem_filter.mpr ⟨hrow, decide_eq_true hmatches⟩
      rw [hholds] at hmem
      cases hmem

/-- A row that `AddMember` inserts has the instant of the call. -/
theorem holds_insert (hholds : db.Holds params.groupID params.userID membership)
    (hfresh : ¬∃ row ∈ db.members, params.Matches row)
    (hmembers : after.members = db.members ++ [params.row now]) :
    after.Holds params.groupID params.userID
      (some ⟨params.roleInGroup, (membership.map Membership.joinedAt).getD now⟩) := by
  have hnone : db.pairRows params.groupID params.userID = [] := by
    refine List.filter_eq_nil_iff.mpr fun row hrow hmatches => hfresh ⟨row, hrow, ?_⟩
    exact of_decide_eq_true hmatches
  have hrows : after.pairRows params.groupID params.userID = [params.row now] := by
    unfold Db.pairRows at hnone ⊢
    rw [hmembers, List.filter_append, hnone]
    simp [Groups.AddMemberParams.row]
  unfold Db.Holds at hholds ⊢
  rw [hnone] at hholds
  have hempty := Option.toList_eq_nil_iff.mp hholds.symm
  rw [hrows, hempty]
  rfl

/-- Another pair is left alone. -/
theorem pairRows_addMember {store : Groups.MembersDb} (hother : ¬(params.groupID = g ∧ params.userID = u))
    (hadd : db.membersDb.addMember now params = (.ok (), store))
    (hmembers : after.members = store.members) : after.pairRows g u = db.pairRows g u := by
  unfold Db.pairRows
  rw [hmembers]
  rcases Groups.MembersDb.addMember_cases hadd with ⟨_, hstore⟩ | ⟨_, hstore⟩
  · rw [hstore]
    apply Sql.filter_map_of_selected
    · intro row _
      split <;> rfl
    · intro row _ hrow
      have hpair := of_decide_eq_true hrow
      refine if_neg fun hmatches => hother ⟨?_, ?_⟩
      · exact hmatches.1.symm.trans hpair.1
      · exact hmatches.2.symm.trans hpair.2
  · rw [hstore, List.filter_append]
    have hnew : ([params.row now].filter fun row => row.groupId = g ∧ row.userId = u) = [] := by
      simpa [Groups.AddMemberParams.row] using hother
    rw [hnew, List.append_nil]
    rfl

end AddMember

theorem pairRows_removeMember (v w : Uuid) :
    ({ db with members := (db.membersDb.removeMember v w).members }).pairRows g u =
      if v = g ∧ w = u then [] else db.pairRows g u := by
  unfold Db.pairRows Groups.MembersDb.removeMember
  dsimp only
  rw [List.filter_filter]
  split
  next hpair =>
    obtain ⟨rfl, rfl⟩ := hpair
    refine List.filter_eq_nil_iff.mpr fun row _ hrow => ?_
    rw [Bool.and_eq_true, decide_eq_true_eq, decide_eq_true_eq] at hrow
    exact hrow.2 hrow.1
  next hother =>
    apply List.filter_congr
    intro row _
    by_cases hrow : row.groupId = g ∧ row.userId = u
    · have hkept : ¬(row.groupId = v ∧ row.userId = w) := fun hremoved =>
        hother ⟨hremoved.1.symm.trans hrow.1, hremoved.2.symm.trans hrow.2⟩
      simp only [hkept, not_false_eq_true, decide_true, Bool.and_true]
    · simp [hrow]

section Next

variable {entry : ApiEntry s} {answer : Answer s.lib.Token} {v w : Uuid}

theorem nextMembership_added {actorID : Uuid} {role : String}
    (hrequest : entry.request = .addMember actorID v w role) (hreply : entry.reply = .ok answer) :
    nextMembership g u entry membership =
      if v = g ∧ w = u then
        some ⟨Groups.Service.roleOr role,
          (membership.map Membership.joinedAt).getD entry.instant⟩
      else membership := by
  unfold nextMembership removesMember addedRole
  rw [hrequest, hreply]
  by_cases hpair : v = g ∧ w = u
  · simp [hpair]
  · simp [hpair]

theorem nextMembership_removed (hrequest : entry.request = .removeMember v w)
    (hreply : entry.reply = .ok answer) :
    nextMembership g u entry membership = if v = g ∧ w = u then none else membership := by
  unfold nextMembership removesMember addedRole
  rw [hrequest, hreply]
  by_cases hpair : v = g ∧ w = u
  · simp [hpair]
  · simp [hpair]

/-- A call that fails is no part of the history. -/
theorem nextMembership_error {err : Err} (hreply : entry.reply = .error err) :
    nextMembership g u entry membership = membership := by
  unfold nextMembership removesMember addedRole
  rw [hreply]
  cases entry.request <;> rfl

end Next

theorem holds_addMember (hholds : db.Holds g u membership) (actorID v w : Uuid) (role : String) :
    let result := process s now (.addMember actorID v w role) db
    result.2.Holds g u (nextMembership g u
      ⟨db, now, .addMember actorID v w role, result.1, result.2⟩ membership) := by
  dsimp only
  simp only [process, runMembers]
  rcases Groups.Service.addMember_cases now db.membersDb actorID v w role with
    ⟨err, hrun⟩ | ⟨group, store, _, hadd, hrun⟩
  · rw [hrun, nextMembership_error rfl]
    exact hholds
  · rw [hrun, nextMembership_added rfl rfl]
    split
    next hpair =>
      obtain ⟨rfl, rfl⟩ := hpair
      rcases Groups.MembersDb.addMember_cases hadd with ⟨hconflict, hstore⟩ | ⟨hfresh, hstore⟩
      · exact holds_rerole hholds hconflict hstore
      · exact holds_insert hholds hfresh hstore
    next hother => exact holds_congr hholds (pairRows_addMember hother hadd rfl)

theorem holds_removeMember (hholds : db.Holds g u membership) (v w : Uuid) :
    let result := process s now (.removeMember v w) db
    result.2.Holds g u (nextMembership g u
      ⟨db, now, .removeMember v w, result.1, result.2⟩ membership) := by
  dsimp only
  simp only [process, runMembers, Groups.Service.run_removeMember]
  cases db.membersDb.liveGroup v with
  | none =>
      rw [nextMembership_error rfl]
      exact hholds
  | some group =>
      rw [nextMembership_removed rfl rfl]
      have hrows : ({ db with members := (db.membersDb.removeMember v w).members }).pairRows g u =
          if v = g ∧ w = u then [] else db.pairRows g u := pairRows_removeMember v w
      by_cases hpair : v = g ∧ w = u
      · rw [if_pos hpair] at hrows ⊢
        unfold Db.Holds
        rw [hrows]
        rfl
      · rw [if_neg hpair] at hrows ⊢
        exact holds_congr hholds hrows

/-- The other calls do not write to the table. -/
theorem members_process (db : Db) {call : Call} (hcall : call.writesMembers = false) :
    (process s now call db).2.members = db.members := by
  cases call with
  | addMember | removeMember => cases hcall
  | listGroups groupType limit offset =>
      simp only [process, runMembers, Groups.Service.run_list]
      rfl
  | listMembers v =>
      simp only [process, runMembers, Groups.Service.run_listMembers]
      rfl
  | listUserGroups w =>
      simp only [process, runMembers, Groups.Service.run_listUserGroups]
      rfl
  | _ => simp only [process, runAuth, runDirectory, runProfile, runContacts, runGroups]

/-- The table follows the history, call by call. -/
theorem holds_process (hholds : db.Holds g u membership) (call : Call) :
    let result := process s now call db
    result.2.Holds g u (nextMembership g u ⟨db, now, call, result.1, result.2⟩ membership) := by
  cases call with
  | addMember actorID v w role => exact holds_addMember hholds actorID v w role
  | removeMember v w => exact holds_removeMember hholds v w
  | _ =>
      refine holds_congr hholds ?_
      unfold Db.pairRows
      rw [members_process db rfl]

end Step

/-! ## The lists -/

section Lists

variable {db : Db} {g u : Uuid} {membership : Option Membership}

theorem memberships_listMembers (hholds : db.Holds g u membership)
    (huser : (db.membersDb.liveUser u).isSome) :
    ((db.membersDb.listMembers g).filter fun member => member.userId = u).map membershipOfMember =
      membership.toList := by
  obtain ⟨user, huser⟩ := Option.isSome_iff_exists.mp huser
  apply Sql.eq_toList_of_perm
  rw [← hholds]
  refine (((List.mergeSort_perm ..).filter _).map _).trans (List.Perm.of_eq ?_)
  apply Sql.map_filter_filterMap
  intro row _
  by_cases hgroup : row.groupId = g
  · by_cases hrow : row.userId = u
    · simp [hgroup, hrow, huser, Groups.memberFrom, membershipOfMember, membershipOfRow]
    · cases hother : db.membersDb.liveUser row.userId with
      | none => simp [hgroup, hrow]
      | some other => simp [hgroup, hrow, Groups.memberFrom]
  · simp [hgroup]

theorem memberships_listUserGroups (hholds : db.Holds g u membership)
    (hgroup : (db.membersDb.liveGroup g).isSome) :
    ((db.membersDb.listUserGroups u).filter fun group => group.groupId = g).map
      membershipOfGroup = membership.toList := by
  obtain ⟨group, hgroup⟩ := Option.isSome_iff_exists.mp hgroup
  have hid : ∀ {v : Uuid} {row : Groups.GroupRow}, db.membersDb.liveGroup v = some row →
      row.id = v := by
    intro v row hlive
    have hfound := List.find?_some hlive
    rw [decide_eq_true_eq] at hfound
    exact hfound.1
  apply Sql.eq_toList_of_perm
  rw [← hholds]
  refine (((List.mergeSort_perm ..).filter _).map _).trans (List.Perm.of_eq ?_)
  apply Sql.map_filter_filterMap
  intro row _
  by_cases huser : row.userId = u
  · by_cases hrow : row.groupId = g
    · simp [hgroup, hrow, huser, hid hgroup, Groups.userGroupFrom, membershipOfGroup,
        membershipOfRow]
    · cases hother : db.membersDb.liveGroup row.groupId with
      | none => simp [hrow, huser]
      | some other => simp [hrow, huser, hid hother, Groups.userGroupFrom]
  · simp [huser]

end Lists

/-! ## Runs -/

section Runs

variable {s : Auth.Service} {start last : Db} {history : List (ApiEntry s)}

/-- The table is the map of last writers. -/
theorem ApiRun.holds (hrun : ApiRun s start history last) (hstart : start.members = [])
    (g u : Uuid) : last.Holds g u (membershipAfter g u history) := by
  apply Serial.invariant hrun (motive := fun history db =>
    db.Holds g u (membershipAfter g u history))
  · simp [Db.Holds, Db.pairRows, hstart, membershipAfter, lastRole]
  · intro history before now request _ hholds _
    rw [membershipAfter_cons]
    exact holds_process hholds request

/-- For a live user and a live group, the members of the group and the groups of the user show
the membership that the history of the pair leaves, once each, or both show none. -/
theorem memberships_agree (hstart : start.members = []) (hrun : ApiRun s start history last)
    {g u : Uuid} (hgroup : (last.membersDb.liveGroup g).isSome)
    (huser : (last.membersDb.liveUser u).isSome) (now : Nat) :
    ∃ members groups,
      (process s now (.listMembers g) last).1 = .ok (.members members) ∧
      (process s now (.listUserGroups u) last).1 = .ok (.userGroups groups) ∧
      (members.filter fun member => member.userId = u).map membershipOfMember =
        (membershipAfter g u history).toList ∧
      (groups.filter fun group => group.groupId = g).map membershipOfGroup =
        (membershipAfter g u history).toList := by
  have hholds := ApiRun.holds hrun hstart g u
  refine ⟨last.membersDb.listMembers g, last.membersDb.listUserGroups u, ?_, rfl,
    memberships_listMembers hholds huser, memberships_listUserGroups hholds hgroup⟩
  obtain ⟨row, hgroup⟩ := Option.isSome_iff_exists.mp hgroup
  simp only [process, runMembers, Groups.Service.run_listMembers, hgroup]
  rfl

end Runs

/-! ## Samples -/

namespace Sample

open Auth.Sample (alice)

def dbWithEmptyTeam : Db := { db with groups := [team] }

/-- Alice joins the group, leaves it, joins it again and becomes its trainer. -/
def membershipCalls : List Call :=
  [.addMember alice.id team.id alice.id "trainer", .addMember alice.id team.id alice.id "",
    .removeMember team.id alice.id, .addMember alice.id team.id alice.id "leiter"]

def membershipHistory : List (ApiEntry Auth.Sample.service) :=
  record dbWithEmptyTeam membershipCalls

theorem membershipHistory_agree :
    let last := stateAfter dbWithEmptyTeam membershipCalls
    membershipAfter team.id alice.id membershipHistory = some ⟨"trainer", 30⟩ ∧
    ∃ members groups,
      (process Auth.Sample.service 50 (.listMembers team.id) last).1 = .ok (.members members) ∧
      (process Auth.Sample.service 50 (.listUserGroups alice.id) last).1 =
        .ok (.userGroups groups) ∧
      (members.filter fun member => member.userId = alice.id).map membershipOfMember =
        (membershipAfter team.id alice.id membershipHistory).toList ∧
      (groups.filter fun group => group.groupId = team.id).map membershipOfGroup =
        (membershipAfter team.id alice.id membershipHistory).toList :=
  ⟨by decide +kernel, memberships_agree rfl (run_record dbWithEmptyTeam membershipCalls)
    (by decide +kernel) (by decide +kernel) 50⟩

end Sample

end Skolva.Api
