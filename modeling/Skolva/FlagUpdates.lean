import Skolva.Auth.LoginFaults
import Skolva.Auth.Users
import Skolva.Auth.Login
import Skolva.Crm.PrimaryContacts
import Skolva.Effect.WriteBack
import Skolva.Groups.Service
import Skolva.Sql.RowTrigger

/-! # Updates with an optional flag

`UpdateUser`, `Update` of a group and `UpdateContact` take a flag that a request may leave
out. They read the row first, and the transaction that comes later writes the flag in any
case.
-/

namespace Skolva

open Dbexec Effect

/-! ## Users -/

namespace Auth

/-- The flag of a user. -/
def userIsActive (id : Uuid) (db : Db) : Option Bool := (db.liveUser id).map User.isActive

/-- How `UpdateUser` deals with the flag. -/
def userFlag (id : Uuid) : WriteBack Op Op.Resp Bool where
  reads op := op = .getUserByID id
  found
    | .getUserByID _, .ok row => some row.isActive
    | _, _ => none
  writes
    | .updateUser user _ _ isActive _ => if user = id then some isActive else none
    | _ => none
  committed _ resp := resp.isOk

/-- Where the call is a write of the flag, it is the update of this user. -/
theorem userFlag_writes {id : Uuid} {op : Op} {new : Bool}
    (hwrites : (userFlag id).writes op = some new) :
    ∃ firstName lastName updatedBy, op = .updateUser id firstName lastName new updatedBy := by
  cases op with
  | updateUser user firstName lastName isActive updatedBy =>
      obtain ⟨rfl, hnew⟩ := (Option.ite_none_right_eq_some ..).mp hwrites
      obtain rfl := Option.some.inj hnew
      exact ⟨firstName, lastName, updatedBy, rfl⟩
  | _ => simp [userFlag] at hwrites

/-- The update finds no user, or it sets the flag. -/
theorem updateUser_flag (lib : External) (now : Nat) (id : Uuid) (firstName lastName : String)
    (active : Bool) (updatedBy : Option Uuid) (db : Db) :
    let answer := serve lib now (.updateUser id firstName lastName active updatedBy) db
    (answer.1.isOk = false ∧ userIsActive id answer.2 = userIsActive id db) ∨
    (answer.1.isOk = true ∧ (userIsActive id db).isSome ∧
      userIsActive id answer.2 = some active) := by
  have hafter := db.liveUser_updateLiveUser now id
    (fun user => { user with firstName, lastName, isActive := active, updatedBy })
    (fun _ => rfl) (fun _ => rfl)
  simp only [serve, userIsActive, hafter]
  cases db.liveUser id with
  | none => exact Or.inl ⟨rfl, rfl⟩
  | some user => exact Or.inr ⟨rfl, rfl, rfl⟩

theorem userFlag_lawful (lib : External) (id : Uuid) :
    (userFlag id).Lawful (serve lib) (userIsActive id) where
  reads_writes := by
    rintro op rfl
    rfl
  reads_value := by
    rintro now op db rfl
    rfl
  found_value := by
    rintro now op db read rfl hread
    cases huser : db.liveUser id with
    | none => simp [userFlag, serve, huser, one] at hread
    | some user => simpa [userFlag, serve, userIsActive, huser, one] using hread
  written := by
    intro now op db new hwrites
    obtain ⟨firstName, lastName, updatedBy, rfl⟩ := userFlag_writes hwrites
    exact updateUser_flag lib now id firstName lastName new updatedBy db

/-- A request to update a user. -/
structure UserUpdate where
  actorID : Uuid
  firstName : String
  lastName : String
  isActive : Option Bool

def UserUpdate.program (id : Uuid) (request : UserUpdate) : Prog (Except Err UserResponse) :=
  Service.updateUser request.actorID id request.firstName request.lastName request.isActive

theorem UserUpdate.follows (id : Uuid) (request : UserUpdate) :
    (request.program id).Follows ((userFlag id).session request.isActive) (fun _ _ => True)
      none := by
  unfold UserUpdate.program Service.updateUser
  apply Program.follows_perform (Or.inl rfl)
  intro resp
  cases resp with
  | error cause => exact Program.follows_pure trivial
  | ok current =>
      apply Program.follows_perform (Or.inr ⟨current.isActive, rfl, if_pos rfl⟩)
      intro resp
      cases resp <;> exact Program.follows_pure trivial

end Auth

/-! ## Groups -/

namespace Groups

/-- The flag of a group. -/
def groupIsActive (id : Uuid) (db : Db) : Option Bool := (db.liveGroup id).map GroupRow.isActive

/-- How `Update` deals with the flag. -/
def groupFlag (id : Uuid) : WriteBack Op Op.Resp Bool where
  reads op := op = .getByID id
  found
    | .getByID _, .ok row => some row.isActive
    | _, _ => none
  writes
    | .update _ params => if params.id = id then some params.isActive else none
    | _ => none
  committed
    | .update _ _, .ok _ => true
    | _, _ => false

theorem liveGroup_updateLiveGroup (db : Db) (now : Nat) (id : Uuid) (change : GroupRow → GroupRow)
    (hid : ∀ row, (change row).id = row.id)
    (hdeleted : ∀ row, (change row).deletedAt = row.deletedAt) :
    (db.updateLiveGroup now id change).liveGroup id =
      (db.liveGroup id).map fun row => { change row with updatedAt := now } := by
  apply Sql.find?_updated fun row : GroupRow => row.id = id ∧ row.deletedAt = none
  intro row hrow
  simpa [hid, hdeleted] using hrow

theorem groupFlag_writes {id : Uuid} {op : Op} {new : Bool}
    (hwrites : (groupFlag id).writes op = some new) :
    ∃ actorID params, op = .update actorID params ∧ params.id = id ∧ params.isActive = new := by
  cases op with
  | update actorID params =>
      obtain ⟨hid, hnew⟩ := (Option.ite_none_right_eq_some ..).mp hwrites
      exact ⟨actorID, params, rfl, hid, Option.some.inj hnew⟩
  | _ => simp [groupFlag] at hwrites

/-- An update that succeeds has found the group, and it sets the flag. -/
theorem updateGroup_flag {now : Nat} {params : UpdateGroupParams} {db after : Db} {row : Group}
    (hupdate : updateGroup now params db = .ok (row, after)) :
    (groupIsActive params.id db).isSome ∧ groupIsActive params.id after = some params.isActive := by
  unfold updateGroup at hupdate
  split at hupdate
  next => simp at hupdate
  next old hold =>
    split_ifs at hupdate
    obtain ⟨_, rfl⟩ := Prod.mk.inj (Except.ok.inj hupdate)
    have hafter := liveGroup_updateLiveGroup db now params.id params.set (fun _ => rfl)
      fun _ => rfl
    rw [groupIsActive, groupIsActive, hafter, hold]
    exact ⟨rfl, rfl⟩

theorem groupFlag_lawful (id : Uuid) : (groupFlag id).Lawful serve (groupIsActive id) where
  reads_writes := by
    rintro op rfl
    rfl
  reads_value := by
    rintro moment op db rfl
    rfl
  found_value := by
    rintro moment op db read rfl hread
    by_cases hfails : moment.fails .read = true
    · simp [groupFlag, serve, hfails] at hread
    · cases hgroup : db.liveGroup id with
      | none => simp [groupFlag, serve, hfails, getGroupByID, hgroup] at hread
      | some row =>
          simpa [groupFlag, serve, hfails, getGroupByID, groupIsActive, hgroup, groupFrom]
            using hread
  written := by
    intro moment op db new hwrites
    obtain ⟨actorID, params, rfl, rfl, rfl⟩ := groupFlag_writes hwrites
    simp only [serve]
    rcases withActor_cases moment
        (Tx.statement moment .write (updateGroup moment.now params)) db with
      ⟨err, htx, _⟩ | ⟨row, after, htx, hbody⟩
    · rw [htx]
      exact Or.inl ⟨rfl, rfl⟩
    · rw [htx]
      exact Or.inr ⟨rfl, updateGroup_flag (statement_ok hbody)⟩

/-- A request to update a group. -/
structure GroupUpdate where
  actorID : Uuid
  name : String
  description : Option String
  groupType : String
  isActive : Option Bool

def GroupUpdate.program (id : Uuid) (request : GroupUpdate) : Prog (Except Err Group) :=
  Service.update request.actorID id request.name request.description request.groupType
    request.isActive

theorem GroupUpdate.follows (id : Uuid) (request : GroupUpdate) :
    (request.program id).Follows ((groupFlag id).session request.isActive) (fun _ _ => True)
      none := by
  unfold GroupUpdate.program Service.update
  apply Program.follows_perform (Or.inl rfl)
  intro resp
  cases resp with
  | error cause => cases cause <;> exact Program.follows_pure trivial
  | ok current =>
      dsimp only
      split
      · exact Program.follows_pure trivial
      · apply Program.follows_perform (Or.inr ⟨current.isActive, rfl, if_pos rfl⟩)
        intro resp
        cases resp <;> exact Program.follows_pure trivial

end Groups

/-! ## Contacts -/

namespace Crm

/-- The flag of a contact. -/
def contactAllows (id : Uuid) (db : Db) : Option Bool :=
  (db.contacts.find? fun row => row.id = id ∧ row.deletedAt = none).map ContactPoint.allowContact

/-- How `UpdateContact` deals with the flag. -/
def contactFlag (id : Uuid) : WriteBack Op Op.Resp Bool where
  reads op := op = .getContact id
  found
    | .getContact _, .ok row => some row.allowContact
    | _, _ => none
  writes
    | .updateContact _ _ _ _ params => if params.id = id then some params.allowContact else none
    | _ => none
  committed
    | .updateContact _ _ _ _ _, .ok _ => true
    | _, _ => false

theorem contactFlag_writes {id : Uuid} {op : Op} {new : Bool}
    (hwrites : (contactFlag id).writes op = some new) :
    ∃ actorID userID contactType clearPrimary params,
      op = .updateContact actorID userID contactType clearPrimary params ∧ params.id = id ∧
        params.allowContact = new := by
  cases op with
  | updateContact actorID userID contactType clearPrimary params =>
      obtain ⟨hid, hnew⟩ := (Option.ite_none_right_eq_some ..).mp hwrites
      exact ⟨actorID, userID, contactType, clearPrimary, params, rfl, hid, Option.some.inj hnew⟩
  | _ => simp [contactFlag] at hwrites

/-- Clearing the former primary contact leaves the flags. -/
theorem contactAllows_cleared (now : Nat) (clearPrimary : Bool) (userID : Uuid)
    (contactType : String) (excludeID id : Uuid) (db : Db) :
    contactAllows id (db.cleared now clearPrimary userID contactType excludeID) =
      contactAllows id db := by
  unfold Db.cleared
  split
  · have hselects : ((fun row : ContactPoint => decide (row.id = id ∧ row.deletedAt = none)) ∘
        demote now userID contactType excludeID) =
        fun row => decide (row.id = id ∧ row.deletedAt = none) := by
      funext row
      simp only [Function.comp_apply, demote]
      split <;> rfl
    have hflag : ContactPoint.allowContact ∘ demote now userID contactType excludeID =
        ContactPoint.allowContact := by
      funext row
      simp only [Function.comp_apply, demote]
      split <;> rfl
    rw [contactAllows, Db.edit, List.find?_map, Option.map_map, hselects, hflag, contactAllows]
  · rfl

/-- An update that succeeds has found the contact, and it sets the flag. -/
theorem updateContactRow_flag {now : Nat} {params : UpdateContactParams} {db after : Db}
    {out : Contact} (hupdate : updateContactRow now params db = .ok (out, after)) :
    (contactAllows params.id db).isSome ∧
      contactAllows params.id after = some params.allowContact := by
  unfold updateContactRow at hupdate
  split at hupdate
  next => simp at hupdate
  next old hold =>
    split_ifs at hupdate
    obtain ⟨_, rfl⟩ := Prod.mk.inj (Except.ok.inj hupdate)
    have hafter := Sql.find?_updated
      (fun row : ContactPoint => row.id = params.id ∧ row.deletedAt = none)
      (fun row hrow => (by simpa [Db.changedContact] using hrow :
        (Db.changedContact now params row).id = params.id ∧
          (Db.changedContact now params row).deletedAt = none)) db.contacts
    rw [contactAllows, contactAllows, hafter, hold]
    exact ⟨rfl, rfl⟩

theorem getContact_flag {id : Uuid} {db : Db} {row : Contact} (hread : db.getContact id = .ok row) :
    contactAllows id db = some row.allowContact := by
  unfold Db.getContact at hread
  split at hread
  next found hfound =>
    obtain rfl := Except.ok.inj hread
    rw [contactAllows, hfound]
    rfl
  next => simp at hread

theorem contactFlag_lawful (id : Uuid) :
    (contactFlag id).Lawful serve (contactAllows id) where
  reads_writes := by
    rintro op rfl
    rfl
  reads_value := by
    rintro moment op db rfl
    rfl
  found_value := by
    rintro moment op db read rfl hread
    by_cases hfails : moment.fails .read = true
    · simp [contactFlag, serve, hfails] at hread
    · cases hcontact : db.getContact id with
      | error err => simp [contactFlag, serve, hfails, hcontact] at hread
      | ok row =>
          rw [getContact_flag hcontact]
          simpa [contactFlag, serve, hfails, hcontact] using hread
  written := by
    intro moment op db new hwrites
    obtain ⟨actorID, userID, contactType, clearPrimary, params, rfl, rfl, rfl⟩ :=
      contactFlag_writes hwrites
    simp only [serve]
    rcases updateContact_cases moment userID contactType clearPrimary params db with
      ⟨err, htx, _⟩ | ⟨out, after, htx, hwrite⟩
    · rw [htx]
      exact Or.inl ⟨rfl, rfl⟩
    · rw [htx]
      obtain ⟨hpresent, hset⟩ := updateContactRow_flag hwrite
      rw [contactAllows_cleared] at hpresent
      exact Or.inr ⟨rfl, hpresent, hset⟩

/-- A request to update a contact of a user. -/
structure ContactUpdate where
  actorID : Uuid
  userID : Uuid
  body : UpdateContactRequest

def ContactUpdate.program (id : Uuid) (request : ContactUpdate) : Prog (Except Err Contact) :=
  Service.updateContact request.actorID request.userID id request.body

theorem ContactUpdate.follows (id : Uuid) (request : ContactUpdate) :
    (request.program id).Follows ((contactFlag id).session request.body.allowContact)
      (fun _ _ => True) none := by
  unfold ContactUpdate.program Service.updateContact
  apply Program.follows_perform (Or.inl rfl)
  intro resp
  cases resp with
  | error cause => cases cause <;> exact Program.follows_pure trivial
  | ok existing =>
      dsimp only
      split
      · exact Program.follows_pure trivial
      · apply Program.follows_perform (Or.inr ⟨existing.allowContact, rfl, if_pos rfl⟩)
        intro resp
        cases resp <;> exact Program.follows_pure trivial

end Crm

/-! ## All three -/

/-- Where no other flag is supplied between the reading and the write of a request that
leaves it out, no update of a flag is lost. -/
theorem no_lost_flag_update {Thread : Type} [DecidableEq Thread] :
    (∀ (lib : Auth.External) (fails : Nat → Auth.Op → Option Auth.CallError) (id : Uuid)
      (requests : Thread → Auth.UserUpdate) (store : Nat × Auth.Db),
      (Auth.userFlag id).NoLostUpdate (fun thread => (requests thread).isActive)
        (Auth.serveFailing lib fails) (fun store => Auth.userIsActive id store.2)
        ((Auth.userFlag id).Fresh (fun thread => (requests thread).isActive)
          (Auth.userIsActive id store.2))
        (Pool.start store fun thread => (requests thread).program id)) ∧
    (∀ (id : Uuid) (requests : Thread → Groups.GroupUpdate) (store : Groups.Db),
      (Groups.groupFlag id).NoLostUpdate (fun thread => (requests thread).isActive)
        Groups.serve (Groups.groupIsActive id)
        ((Groups.groupFlag id).Fresh (fun thread => (requests thread).isActive)
          (Groups.groupIsActive id store))
        (Pool.start store fun thread => (requests thread).program id)) ∧
    ∀ (id : Uuid) (requests : Thread → Crm.ContactUpdate) (store : Crm.Db),
      (Crm.contactFlag id).NoLostUpdate (fun thread => (requests thread).body.allowContact)
        Crm.serve (Crm.contactAllows id)
        ((Crm.contactFlag id).Fresh (fun thread => (requests thread).body.allowContact)
          (Crm.contactAllows id store))
        (Pool.start store fun thread => (requests thread).program id) := by
  refine ⟨fun lib fails id requests store => ?_, fun id requests store => ?_,
    fun id requests store => ?_⟩
  · have hlawful : (Auth.userFlag id).Lawful (Auth.serveFailing lib fails)
        fun store => Auth.userIsActive id store.2 := by
      apply (Auth.userFlag_lawful lib id).withFaults
      · intro index op resp hfault
        obtain ⟨cause, _, rfl⟩ := Option.map_eq_some_iff.mp hfault
        cases op <;> rfl
      · intro index op resp hfault
        obtain ⟨cause, _, rfl⟩ := Option.map_eq_some_iff.mp hfault
        rfl
    exact WriteBack.noLostUpdate_of_fresh hlawful store _
      fun thread => (requests thread).follows id
  · exact WriteBack.noLostUpdate_of_fresh (Groups.groupFlag_lawful id) store _
      fun thread => (requests thread).follows id
  · exact WriteBack.noLostUpdate_of_fresh (Crm.contactFlag_lawful id) store _
      fun thread => (requests thread).follows id

/-! ## Races

A request that changes a name, and one that takes the flag away in between.
-/

/-- The first request reads the row, the second one comes and goes, and the first one then
writes. -/
def raceOrder {Time : Type} (now : Time) : List (Bool × Time) :=
  [(false, now), (true, now), (true, now), (false, now)]

namespace Auth

def userRaceRequests (deactivates : Bool) : UserUpdate where
  actorID := 1
  firstName := "Alice"
  lastName := "Berg"
  isActive := if deactivates then some false else none

def userRaceStart : Pool Bool Nat Op Op.Resp (Except Err UserResponse) (Nat × Db) :=
  Pool.start (0, Sample.db) fun thread => (userRaceRequests thread).program 1

def userRace : Pool Bool Nat Op Op.Resp (Except Err UserResponse) (Nat × Db) :=
  userRaceStart.schedule (serveFailing Reference.external fun _ _ => none) (raceOrder 10)

end Auth

namespace Groups

def groupRaceRequests (deactivates : Bool) : GroupUpdate where
  actorID := 7
  name := "Chor"
  description := none
  groupType := "sonstige"
  isActive := if deactivates then some false else none

def groupRaceDb : Db where
  users := [7]
  groups := [newGroup 0 1
    { name := "Choir", description := none, groupType := "sonstige", actor := none }]

def groupRaceStart : Pool Bool Moment Op Op.Resp (Except Err Group) Db :=
  Pool.start groupRaceDb fun thread => (groupRaceRequests thread).program 1

def groupRace : Pool Bool Moment Op Op.Resp (Except Err Group) Db :=
  groupRaceStart.schedule serve (raceOrder ⟨10, fun _ => false⟩)

end Groups

namespace Crm

def contactRaceRequests (withdraws : Bool) : ContactUpdate where
  actorID := 7
  userID := 7
  body :=
    { label := none
      value := "a@b.de"
      isPrimary := true
      isPreferred := false
      allowContact := if withdraws then some false else none
      preferredTimeWindow := none
      note := none }

def contactRaceStart : Pool Bool Moment Op Op.Resp (Except Err Contact) Db :=
  Pool.start (sampleDb 1) fun thread => (contactRaceRequests thread).program 1

def contactRace : Pool Bool Moment Op Op.Resp (Except Err Contact) Db :=
  contactRaceStart.schedule serve (raceOrder ⟨10, fun _ => false⟩)

end Crm

/-- The account is active again, and so is the group, and the consent is back, although the
last request that supplied the flag has taken it away. -/
theorem flag_update_lost :
    (Pool.Reaches (Auth.serveFailing Auth.Reference.external fun _ _ => none)
        (fun _ _ _ => True) Auth.userRaceStart Auth.userRace ∧
      (∀ thread, ∃ result, Auth.userRace.program thread = .done result) ∧
      Auth.userIsActive 1 Auth.userRace.store.2 = some true ∧
      (Auth.userFlag 1).lastSupplied (fun thread => (Auth.userRaceRequests thread).isActive)
        Auth.userRace.trace = some false) ∧
    (Pool.Reaches Groups.serve (fun _ _ _ => True) Groups.groupRaceStart Groups.groupRace ∧
      (∀ thread, ∃ result, Groups.groupRace.program thread = .done result) ∧
      Groups.groupIsActive 1 Groups.groupRace.store = some true ∧
      (Groups.groupFlag 1).lastSupplied
        (fun thread => (Groups.groupRaceRequests thread).isActive)
        Groups.groupRace.trace = some false) ∧
    (Pool.Reaches Crm.serve (fun _ _ _ => True) Crm.contactRaceStart Crm.contactRace ∧
      (∀ thread, ∃ result, Crm.contactRace.program thread = .done result) ∧
      Crm.contactAllows 1 Crm.contactRace.store = some true ∧
      (Crm.contactFlag 1).lastSupplied
        (fun thread => (Crm.contactRaceRequests thread).body.allowContact)
        Crm.contactRace.trace = some false) := by
  refine ⟨⟨.schedule .refl (fun _ _ _ => trivial) _, ?_, by decide, by decide⟩,
    ⟨.schedule .refl (fun _ _ _ => trivial) _, ?_, by decide, by decide⟩,
    ⟨.schedule .refl (fun _ _ _ => trivial) _, ?_, by decide, by decide⟩⟩
  · intro thread
    cases thread <;> exact ⟨_, rfl⟩
  · intro thread
    cases thread <;> exact ⟨_, rfl⟩
  · intro thread
    cases thread <;> exact ⟨_, rfl⟩

end Skolva
