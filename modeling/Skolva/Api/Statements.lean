import Skolva.Crm.PrimaryContacts
import Skolva.Groups.Service

/-! # What a call leaves of its table

A call of the repository of contacts or of groups leaves the table, or it writes what its
statements say.
-/

namespace Skolva.Crm

open Dbexec

/-- What the table can be after the call. -/
inductive Op.Leaves (now : Nat) (db : Db) : Op → Db → Prop where
  | nothing (op : Op) : Op.Leaves now db op db
  | created (actorID id : Uuid) (clearPrimary : Bool) (params : CreateContactParams)
      (htype : params.contactType ∈ contactTypes) :
      Op.Leaves now db (.createContact actorID id clearPrimary params)
        ((db.cleared now clearPrimary params.userID params.contactType Uuid.nil).insert
          (Db.newContact now id params))
  | updated (actorID userID : Uuid) (contactType : String) (clearPrimary : Bool)
      (params : UpdateContactParams) :
      Op.Leaves now db (.updateContact actorID userID contactType clearPrimary params)
        ((db.cleared now clearPrimary userID contactType params.id).edit (rewrite now params))
  | deleted (actorID id : Uuid) (updatedBy : Option Uuid) :
      Op.Leaves now db (.softDeleteContact actorID id updatedBy)
        (db.edit (retire now id updatedBy))

theorem leaves_serve (moment : Moment) (op : Op) (db : Db) :
    op.Leaves moment.now db (serve moment op db).2 := by
  cases op with
  | getContact id => exact .nothing _
  | createContact actorID id clearPrimary params =>
      simp only [serve]
      rcases createContact_cases moment id clearPrimary params db with
        ⟨err, htx, -⟩ | ⟨out, after, htx, hrow⟩
      · rw [htx]
        exact .nothing _
      · obtain ⟨htype, -, -, -, -, -, rfl⟩ := createContactRow_ok hrow
        rw [htx]
        exact .created actorID id clearPrimary params htype
  | updateContact actorID userID contactType clearPrimary params =>
      simp only [serve]
      rcases updateContact_cases moment userID contactType clearPrimary params db with
        ⟨err, htx, -⟩ | ⟨out, after, htx, hrow⟩
      · rw [htx]
        exact .nothing _
      · obtain ⟨_, -, -, -, -, -, -, rfl⟩ := updateContactRow_ok hrow
        rw [htx]
        exact .updated actorID userID contactType clearPrimary params
  | softDeleteContact actorID id updatedBy =>
      simp only [serve]
      rcases withActor_cases moment (Repository.softDeleteContact moment id updatedBy) db with
        ⟨err, htx, -⟩ | ⟨out, after, htx, hbody⟩
      · rw [htx]
        exact .nothing _
      · obtain ⟨rfl, -⟩ := softDeleteContactRow_ok (statement_ok hbody)
        rw [htx]
        exact .deleted actorID id updatedBy

theorem users_cleared (now : Nat) (clearPrimary : Bool) (userID : Uuid) (contactType : String)
    (excludeID : Uuid) (db : Db) :
    (db.cleared now clearPrimary userID contactType excludeID).users = db.users := by
  unfold Db.cleared
  split <;> rfl

theorem Op.Leaves.users {now : Nat} {op : Op} {db after : Db} (hleaves : op.Leaves now db after) :
    after.users = db.users := by
  cases hleaves with
  | nothing => rfl
  | created => exact users_cleared ..
  | updated => exact users_cleared ..
  | deleted => rfl

end Skolva.Crm

namespace Skolva.Groups

open Dbexec

/-- What the table can be after the call. -/
inductive Op.Leaves (now : Nat) (db : Db) : Op → Db → Prop where
  | nothing (op : Op) : Op.Leaves now db op db
  | created (actorID id : Uuid) (params : CreateGroupParams)
      (htype : params.groupType ∈ groupTypes) :
      Op.Leaves now db (.create actorID id params)
        { db with groups := db.groups ++ [newGroup now id params] }
  | updated (actorID : Uuid) (params : UpdateGroupParams) (htype : params.groupType ∈ groupTypes) :
      Op.Leaves now db (.update actorID params) (db.updateLiveGroup now params.id params.set)
  | deleted (actorID id : Uuid) (updatedBy : Option Uuid) :
      Op.Leaves now db (.softDelete actorID id updatedBy) (db.updateLiveGroup now id fun row =>
        { row with deletedAt := some now, updatedBy := updatedBy })

/-- A transaction leaves the table, or what its statement leaves. -/
theorem state_withActor {α : Type} (moment : Moment) (body : Tx α) (db : Db) :
    (withActor moment (Tx.statement moment .write body) db).2 = db ∨
      ∃ out after, body db = .ok (out, after) ∧
        (withActor moment (Tx.statement moment .write body) db).2 = after := by
  rcases withActor_cases moment (Tx.statement moment .write body) db with
    ⟨err, htx, -⟩ | ⟨out, after, htx, hok⟩
  · exact .inl (congrArg Prod.snd htx)
  · exact .inr ⟨out, after, statement_ok hok, congrArg Prod.snd htx⟩

theorem leaves_serve (moment : Moment) (op : Op) (db : Db) :
    op.Leaves moment.now db (serve moment op db).2 := by
  cases op with
  | getByID id => exact .nothing _
  | create actorID id params =>
      rcases state_withActor moment (createGroup moment.now id params) db with
        hsame | ⟨out, after, hok, hafter⟩
      · rw [serve, hsame]
        exact .nothing _
      · rcases createGroup_cases moment.now id params db with ⟨err, herr⟩ | ⟨htype, -, -, hcreated⟩
        · rw [herr] at hok
          cases hok
        · rw [hcreated] at hok
          cases hok
          rw [serve, hafter]
          exact .created actorID id params htype
  | update actorID params =>
      rcases state_withActor moment (updateGroup moment.now params) db with
        hsame | ⟨out, after, hok, hafter⟩
      · rw [serve, hsame]
        exact .nothing _
      · unfold updateGroup at hok
        split at hok
        · cases hok
        · split_ifs at hok with htype hactor
          cases hok
          rw [serve, hafter]
          exact .updated actorID params htype
  | softDelete actorID id updatedBy =>
      rcases state_withActor moment (softDeleteGroup moment.now id updatedBy) db with
        hsame | ⟨out, after, hok, hafter⟩
      · rw [serve, hsame]
        exact .nothing _
      · unfold softDeleteGroup at hok
        split_ifs at hok
        cases hok
        rw [serve, hafter]
        exact .deleted actorID id updatedBy

theorem Op.Leaves.users {now : Nat} {op : Op} {db after : Db} (hleaves : op.Leaves now db after) :
    after.users = db.users := by
  cases hleaves <;> rfl

end Skolva.Groups
