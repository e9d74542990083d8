import Skolva.Api.Writes
import Skolva.Http.Changes
import Skolva.Http.Programs

/-! # What each request writes

A request that its guard lets pass makes the writes of its handler, with the identity of its
token as their author.
-/

namespace Skolva.Http

open Effect
open Auth (Actor)

/-! ## Methods -/

/-- The writes of a call. -/
def CallWrites (lib : Auth.External) (call : Api.Call) : Op → Prop
  | .auth op => ∃ request, call = .auth request ∧ request.Puts lib op
  | .directory (.assignRole userID roleSlug assignedBy) =>
      ∃ actorID, call = .assignRole actorID userID roleSlug ∧ assignedBy = Auth.actorNull actorID
  | .directory (.removeRole userID roleSlug) => call = .removeRole userID roleSlug
  | .directory op => op.Reads
  | .profile (.upsertAddress params) =>
      ∃ actorID userID cc req, call = .upsertAddress actorID userID req ∧
        params = Crm.Service.addressParams actorID userID cc req
  | .profile (.upsertPreferences params) =>
      ∃ actorID req, call = .upsertPreferences actorID params.userID req ∧
        params.actor = Crm.actorNull actorID
  | .contacts (.createContact actorID id _ params) =>
      ∃ req, call = .createContact id actorID params.userID req ∧ params.value = req.value ∧
        params.actor = Crm.actorNull actorID
  | .contacts (.updateContact actorID userID _ _ params) =>
      ∃ req, call = .updateContact actorID userID params.id req ∧ params.value = req.value ∧
        params.updatedBy = Crm.actorNull actorID
  | .contacts (.softDeleteContact actorID id updatedBy) =>
      ∃ userID, call = .deleteContact actorID userID id ∧ updatedBy = Crm.actorNull actorID
  | .groups (.create actorID id params) =>
      ∃ description groupType,
        call = .createGroup id actorID params.name description groupType ∧
          params.actor = Groups.actorNull actorID
  | .groups (.update actorID params) =>
      ∃ description groupType isActive,
        call = .updateGroup actorID params.id params.name description groupType isActive ∧
          params.updatedBy = Groups.actorNull actorID
  | .groups (.softDelete actorID id updatedBy) =>
      call = .deleteGroup actorID id ∧ updatedBy = Groups.actorNull actorID
  | .members (.addMember params) =>
      ∃ actorID roleInGroup, call = .addMember actorID params.groupID params.userID roleInGroup ∧
        params.createdBy = Groups.actorNull actorID
  | .members (.removeMember groupID userID) => call = .removeMember groupID userID
  | .search .. => False
  | _ => True

section Method

variable {lib : Auth.External} {call : Api.Call}

theorem callWrites_directory {op : Auth.DirectoryOp} (hop : op.Reads) :
    CallWrites lib call (.directory op) := by
  cases op with
  | assignRole | removeRole => exact hop.elim
  | _ => exact hop

theorem callWrites_profile {op : Crm.ProfileOp} (hop : op.Reads) :
    CallWrites lib call (.profile op) := by
  cases op with
  | upsertAddress | upsertPreferences => exact hop.elim
  | _ => trivial

theorem callWrites_contacts {op : Crm.Op} (hop : op.Reads) : CallWrites lib call (.contacts op) := by
  cases op with
  | getContact => trivial
  | _ => exact hop.elim

theorem callWrites_groups {op : Groups.Op} (hop : op.Reads) : CallWrites lib call (.groups op) := by
  cases op with
  | getByID => trivial
  | _ => exact hop.elim

theorem callWrites_members {op : Groups.MembersOp} (hop : op.Reads) :
    CallWrites lib call (.members op) := by
  cases op with
  | addMember | removeMember => exact hop.elim
  | _ => trivial

/-- A method makes no other writes than its own. -/
theorem uses_method (s : Auth.Service) (call : Api.Call) :
    (method s call).Uses (CallWrites s.lib call) := by
  cases call with
  | auth call =>
      refine uses_replying (Program.uses_lift ?_)
      exact (Auth.uses_puts s call).imp fun op hop => ⟨call, rfl, hop⟩
  | listUsers limit offset =>
      exact uses_replying (Program.uses_lift
        (Auth.Directory.uses_listUsers (fun _ => callWrites_directory) limit offset))
  | searchUsers hits =>
      exact uses_replying (Program.uses_lift
        (Auth.Directory.uses_searchUsers (fun _ => callWrites_directory) hits))
  | listUserRoles userID =>
      exact uses_replying (Program.uses_lift
        (Auth.Directory.uses_listUserRoles (fun _ => callWrites_directory) userID))
  | assignRole actorID userID roleSlug =>
      exact uses_replying (Program.uses_lift
        (Auth.Directory.uses_assignRole (fun _ => callWrites_directory) ⟨actorID, rfl, rfl⟩))
  | removeRole userID roleSlug =>
      exact uses_replying (Program.uses_lift
        (Auth.Directory.uses_removeRole (fun _ => callWrites_directory) rfl))
  | getAddress userID =>
      exact uses_replying (Program.uses_lift
        (Crm.Service.uses_getAddress (fun _ => callWrites_profile) userID))
  | upsertAddress actorID userID req =>
      exact uses_replying (Program.uses_lift
        (Crm.Service.uses_upsertAddress fun cc => ⟨actorID, userID, cc, req, rfl, rfl⟩))
  | getPreferences userID =>
      exact uses_replying (Program.uses_lift
        (Crm.Service.uses_getPreferences (fun _ => callWrites_profile) userID))
  | upsertPreferences actorID userID req =>
      refine uses_replying (Program.uses_lift (Crm.Service.uses_upsertPreferences ?_))
      rintro params rfl hactor
      exact ⟨actorID, req, rfl, hactor⟩
  | listContacts userID =>
      exact uses_replying (Program.uses_lift
        (Crm.Service.uses_listContacts (fun _ => callWrites_profile) userID))
  | createContact id actorID userID req =>
      refine uses_replying (Program.uses_lift (Crm.Service.uses_createContact ?_))
      rintro params rfl hvalue hactor
      exact ⟨req, rfl, hvalue, hactor⟩
  | updateContact actorID userID contactID req =>
      refine uses_replying (Program.uses_lift
        (Crm.Service.uses_updateContact (fun _ => callWrites_contacts) ?_))
      rintro contactType params rfl hvalue hactor
      exact ⟨req, rfl, hvalue, hactor⟩
  | deleteContact actorID userID contactID =>
      exact uses_replying (Program.uses_lift
        (Crm.Service.uses_deleteContact (fun _ => callWrites_contacts) ⟨userID, rfl, rfl⟩))
  | createGroup id actorID name description groupType =>
      refine uses_replying (Program.uses_lift (Groups.Service.uses_create ?_))
      rintro params rfl hactor
      exact ⟨description, groupType, rfl, hactor⟩
  | getGroup id =>
      exact uses_replying (Program.uses_lift
        (Groups.Service.uses_get (fun _ => callWrites_groups) id))
  | listGroups groupType limit offset =>
      exact uses_replying (Program.uses_lift
        (Groups.Service.uses_list (fun _ => callWrites_members) groupType limit offset))
  | updateGroup actorID id name description groupType isActive =>
      refine uses_replying (Program.uses_lift
        (Groups.Service.uses_update (fun _ => callWrites_groups) ?_))
      rintro params rfl rfl hactor
      exact ⟨description, groupType, isActive, rfl, hactor⟩
  | deleteGroup actorID id =>
      exact uses_replying (Program.uses_lift
        (Groups.Service.uses_delete (fun _ => callWrites_groups) ⟨rfl, rfl⟩))
  | addMember actorID groupID userID roleInGroup =>
      refine uses_replying (Program.uses_lift
        (Groups.Service.uses_addMember (fun _ => callWrites_members) ?_))
      rintro params rfl rfl hactor
      exact ⟨actorID, roleInGroup, rfl, hactor⟩
  | listMembers groupID =>
      exact uses_replying (Program.uses_lift
        (Groups.Service.uses_listMembers (fun _ => callWrites_members) groupID))
  | removeMember groupID userID =>
      exact uses_replying (Program.uses_lift
        (Groups.Service.uses_removeMember (fun _ => callWrites_members) rfl))
  | listUserGroups userID =>
      exact uses_replying (Program.uses_lift
        (Groups.Service.uses_listUserGroups (fun _ => callWrites_members) userID))

end Method

/-! ## Requests -/

/-- The calls of a search. -/
def Op.Searches : Op → Prop
  | .search .. => True
  | .directory op => op.Reads
  | _ => False

namespace Server

variable (s : Server)

/-- The writes of an action. The auth handlers read what they answer with. -/
def ActionWrites (readings : Nat → Nat) : Action s.Token → Op → Prop
  | .auth request, op =>
      ∃ authOp, op = .auth authOp ∧ (authOp.Reads ∨
        ∃ now, IsReading readings now ∧ ∃ call, s.service.callOf now request = some call ∧
          call.Puts s.service.lib authOp)
  | .call call, op => CallWrites s.service.lib call op
  | .reject _, _ | .page, _ => False

/-- The writes of a request with these readings of the clock before its first call. -/
def RequestWrites (readings : Nat → Nat) (request : Request) (op : Op) : Prop :=
  op.Searches ∨ ∃ actor db, s.pass (readings 0) request emptyDb = .ok actor ∧
    s.ActionWrites readings (s.action (s.actorID actor) request db) op

theorem usesAt_performing (readings : Nat → Nat) (action : Action s.Token) :
    (s.performing action).UsesAt (IsReading readings) (s.ActionWrites readings action) := by
  cases action with
  | auth request =>
      refine Program.usesAt_map (Program.usesAt_lift (fun _ => id) ?_)
      refine Auth.usesAt_handle_of_calls ⟨0, rfl⟩ ?_ ?_
      · intro now hnow call hcall
        exact (Auth.uses_puts s.service call).imp fun op hop =>
          ⟨op, rfl, .inr ⟨now, hnow, call, hcall, hop⟩⟩
      · -- The handlers of the pending tokens issue the access token themselves, and only read.
        intro jti userID
        exact Program.uses_map (s.service.uses_issueAccessForUser jti ⟨_, rfl, .inl trivial⟩
          ⟨_, rfl, .inl trivial⟩ ⟨_, rfl, .inl trivial⟩)
  | call call => exact (Program.uses_map (uses_method s.service call)).usesAt
  | reject err => exact trivial
  | page => exact trivial

/-- A request makes no other writes than its own. -/
theorem uses_request (request : Request) (readings : Nat → Nat) :
    ((s.program request).settle readings).Uses (s.RequestWrites readings request) := by
  -- The search is not behind the service, and so its calls are no writes of an action.
  refine uses_program readings (fun _ => ⟨.inl trivial, fun hits => ?_⟩) fun actor db hpass => ?_
  · refine uses_replying (Program.uses_lift ?_)
    exact Auth.Directory.uses_searchUsers (fun _ hop => .inl hop) hits
  · exact (s.usesAt_performing readings _).imp fun op hop => .inr ⟨actor, db, hpass, hop⟩

end Server

end Skolva.Http
