import Skolva.Audit.Accounts
import Skolva.Groups.Service

/-! # Who has written a group

The transactions of the repository on `groups` and `audit_logs`.
-/

namespace Skolva.Groups

open Dbexec Effect Audit

/-- The table `groups`. -/
def groupTable : Authored GroupRow where
  name := "groups"
  columns := [("updated_at", fun row => .timestamp row.updatedAt),
    ("deleted_at", fun row => instantJson row.deletedAt)]
  id := GroupRow.id
  updatedBy := GroupRow.updatedBy

theorem groupTable_audited : groupTable.table ∈ auditedTables := by decide

/-! ## The repository -/

/-- What a statement on a live row writes. -/
def liveWrite (now : Nat) (id : Uuid) (change : GroupRow → GroupRow) : Sql.RowWrite GroupRow :=
  .update (fun row => row.id = id ∧ row.deletedAt = none) fun row =>
    { change row with updatedAt := now }

/-- A statement in the session of a request. -/
def audited {α : Type} (actorID : Uuid) (now : Nat) (write : Sql.RowWrite GroupRow) (body : Tx α) :
    Dbexec.Tx (Db × List AuditLog) α :=
  groupTable.statement (actorNull actorID) Db.users Db.groups now write body

/-- The answer of the repository, with the log. -/
def serveAudited (moment : Moment) : (op : Op) → Db × List AuditLog → op.Resp × Db × List AuditLog
  | .getByID id, store =>
      (if moment.fails .read then .error .unavailable else getGroupByID id store.1, store)
  | .create actorID id params, store =>
      withActor moment (Tx.statement moment .write
        (audited actorID moment.now (.insert (newGroup moment.now id params))
          (createGroup moment.now id params))) store
  | .update actorID params, store =>
      withActor moment (Tx.statement moment .write
        (audited actorID moment.now (liveWrite moment.now params.id params.set)
          (updateGroup moment.now params))) store
  | .softDelete actorID id updatedBy, store =>
      withActor moment (Tx.statement moment .write
        (audited actorID moment.now
          (liveWrite moment.now id fun row =>
            { row with deletedAt := some moment.now, updatedBy := updatedBy })
          (softDeleteGroup moment.now id updatedBy))) store

/-- The call writes the actor of its session to `updated_by`. -/
def Op.Signs : Op → Prop
  | .getByID _ => True
  | .create actorID _ params => params.actor = actorNull actorID
  | .update actorID params => params.updatedBy = actorNull actorID
  | .softDelete actorID _ updatedBy => updatedBy = actorNull actorID

/-! ## What a call leaves -/

section Calls

variable {now : Nat} {actorID : Uuid} {store : Db × List AuditLog} {db : Db}

theorem groups_updateLiveGroup (now : Nat) (id : Uuid) (change : GroupRow → GroupRow) (db : Db) :
    (db.updateLiveGroup now id change).groups = (liveWrite now id change).after db.groups := by
  simp only [Db.updateLiveGroup, liveWrite, Sql.RowWrite.after, decide_eq_true_eq]

theorem ids_updateLiveGroup (now : Nat) (id : Uuid) {change : GroupRow → GroupRow}
    (hid : ∀ row, (change row).id = row.id) (db : Db) :
    (db.updateLiveGroup now id change).groups.map GroupRow.id = db.groups.map GroupRow.id := by
  unfold Db.updateLiveGroup
  rw [List.map_map]
  refine List.map_congr_left fun row _ => ?_
  simp only [Function.comp_apply]
  split
  · exact hid row
  · rfl

/-- What a transaction leaves of the table and the log. -/
abbrev Leads : Prop → Db × List AuditLog → Db × List AuditLog → Prop :=
  groupTable.Leads Db.users Db.groups

/-- A statement on a live row that signs. -/
theorem performs_liveWrite {id : Uuid} {change : GroupRow → GroupRow}
    (hid : ∀ row, (change row).id = row.id)
    (hsigns : ∀ row, (change row).updatedBy = actorNull actorID)
    (hids : (db.groups.map GroupRow.id).Nodup) :
    groupTable.Performs (actorNull actorID) Db.users Db.groups (liveWrite now id change) db
      (db.updateLiveGroup now id change) := by
  refine ⟨rfl, groups_updateLiveGroup .., ?_, ?_⟩
  · exact (ids_updateLiveGroup now id hid db).symm ▸ hids
  · intro row hrow
    obtain ⟨source, -, rfl⟩ := List.mem_map.mp hrow
    exact hsigns source

theorem performs_create {id : Uuid} {params : CreateGroupParams} {out : Group} {after : Db}
    (hsigns : params.actor = actorNull actorID) (hids : (db.groups.map GroupRow.id).Nodup)
    (hrow : createGroup now id params db = .ok (out, after)) :
    groupTable.Performs (actorNull actorID) Db.users Db.groups (.insert (newGroup now id params)) db
      after := by
  rcases createGroup_cases now id params db with ⟨err, herr⟩ | ⟨-, hfresh, -, hok⟩
  · rw [herr] at hrow
    cases hrow
  · rw [hok] at hrow
    obtain ⟨-, rfl⟩ := Prod.mk.inj (Except.ok.inj hrow)
    refine ⟨rfl, rfl, ?_, ?_⟩
    · rw [List.map_append, List.map_singleton, ← List.concat_eq_append]
      exact hids.concat hfresh
    · intro row hmem
      rw [List.mem_singleton.mp hmem]
      exact hsigns

theorem updateGroup_ok {params : UpdateGroupParams} {out : Group} {after : Db}
    (hrow : updateGroup now params db = .ok (out, after)) :
    after = db.updateLiveGroup now params.id params.set := by
  unfold updateGroup at hrow
  split at hrow
  · cases hrow
  · split_ifs at hrow
    exact (Prod.mk.inj (Except.ok.inj hrow)).2.symm

theorem softDeleteGroup_ok {id : Uuid} {updatedBy : Option Uuid} {out : Unit} {after : Db}
    (hrow : softDeleteGroup now id updatedBy db = .ok (out, after)) :
    after = db.updateLiveGroup now id fun row =>
      { row with deletedAt := some now, updatedBy := updatedBy } := by
  unfold softDeleteGroup at hrow
  split_ifs at hrow
  exact (Prod.mk.inj (Except.ok.inj hrow)).2.symm

theorem leads_serveAudited (now : Nat) {op : Op} (hsigns : op.Signs)
    (hlawful : groupTable.Lawful store.1.groups store.2) :
    Leads True store (serveAudited ⟨now, fun _ => false⟩ op store).2 := by
  cases op with
  | getByID id => exact hlawful.leads trivial
  | create actorID id params =>
      simp only [serveAudited, withActor_eq_committed]
      exact Authored.leads_statement hlawful fun _ _ hrow =>
        performs_create hsigns hlawful.ids hrow
  | update actorID params =>
      simp only [serveAudited, withActor_eq_committed]
      refine Authored.leads_statement hlawful fun _ _ hrow => ?_
      rw [updateGroup_ok hrow]
      exact performs_liveWrite (fun _ => rfl) (fun _ => hsigns) hlawful.ids
  | softDelete actorID id updatedBy =>
      simp only [serveAudited, withActor_eq_committed]
      refine Authored.leads_statement hlawful fun _ _ hrow => ?_
      rw [softDeleteGroup_ok hrow]
      exact performs_liveWrite (fun _ => rfl) (fun _ => hsigns) hlawful.ids

/-- A method whose calls sign. -/
theorem leads_of_uses {α : Type} (now : Nat) (store : Db × List AuditLog) {method : Prog α} (huses : method.Uses Op.Signs)
    (hlawful : groupTable.Lawful store.1.groups store.2) :
    Leads True store (method.run serveAudited ⟨now, fun _ => false⟩ store).2 := by
  refine Program.run_preserves serveAudited ⟨now, fun _ => false⟩ huses
    (motive := Leads True store) ?_ (hlawful.leads trivial)
  intro op later hop hlater
  have hlaterLawful := hlater.2.lawful trivial
  have hnext := leads_serveAudited now hop hlaterLawful
  exact ⟨hnext.1.trans hlater.1,
    .of_lawful (hnext.2.lawful trivial) (hnext.2.log.trans hlater.2.log) trivial⟩

end Calls

/-! ## The calls of the methods -/

theorem signs_create (drawn actorID : Uuid) (name : String) (description : Option String)
    (groupType : String) :
    (Service.create drawn actorID name description groupType).Uses Op.Signs := by
  unfold Service.create
  dsimp only
  by_cases hvalid : (if groupType = "" then "sonstige" else groupType) ∉ validGroupTypes
  · rw [if_pos hvalid]
    exact Program.uses_pure _
  · rw [if_neg hvalid]
    refine Program.uses_bind (Program.uses_perform rfl) fun resp => ?_
    split <;> exact Program.uses_pure _

theorem signs_update (actorID id : Uuid) (name : String) (description : Option String)
    (groupType : String) (isActive : Option Bool) :
    (Service.update actorID id name description groupType isActive).Uses Op.Signs := by
  refine Program.uses_bind (Program.uses_perform trivial) fun current => ?_
  split
  · exact Program.uses_pure _
  · exact Program.uses_pure _
  · split
    · exact Program.uses_pure _
    · refine Program.uses_bind (Program.uses_perform rfl) fun resp => ?_
      split <;> exact Program.uses_pure _

theorem signs_delete (actorID id : Uuid) : (Service.delete actorID id).Uses Op.Signs := by
  refine Program.uses_bind (Program.uses_perform trivial) fun current => ?_
  split
  · exact Program.uses_pure _
  · exact Program.uses_pure _
  · refine Program.uses_bind (Program.uses_perform rfl) fun resp => ?_
    split <;> exact Program.uses_pure _

/-! ## With and without the log -/

/-- The transaction of the call, if it makes one, has this actor. -/
def Op.By (actorID : Uuid) : Op → Prop
  | .getByID _ => True
  | .create actor _ _ | .update actor _ | .softDelete actor _ _ => actor = actorID

/-- The log has grown by entries that account for what has changed in `groups`. -/
abbrev GroupsAccounted (actor : Option Uuid) : Db × List AuditLog → Db → Db × List AuditLog → Prop :=
  groupTable.Accounted actor Db.users Db.groups

section Accounts

variable {actorID : Uuid}

/-- For an actor who is a user, only the log tells a call from one without the trigger. -/
theorem simulates_serveAudited (actorID : Uuid) (moment : Moment) (start : Db × List AuditLog) :
    Program.Simulates serve serveAudited moment (Op.By actorID)
      (GroupsAccounted (actorNull actorID) start) := by
  intro op db store hby haccounted
  cases op with
  | getByID id =>
      obtain rfl := haccounted.same
      exact ⟨rfl, haccounted⟩
  | create actor id params =>
      obtain rfl : actor = actorID := hby
      refine Tx.Mirrors.withActor moment (.statement moment .write
        (Authored.mirrors_statement fun db out after hrow => ?_)) haccounted
      rcases createGroup_cases moment.now id params db with ⟨err, herr⟩ | ⟨-, -, -, hok⟩
      · rw [herr] at hrow
        cases hrow
      · rw [hok] at hrow
        obtain ⟨-, rfl⟩ := Prod.mk.inj (Except.ok.inj hrow)
        exact ⟨rfl, rfl⟩
  | update actor params =>
      obtain rfl : actor = actorID := hby
      refine Tx.Mirrors.withActor moment (.statement moment .write
        (Authored.mirrors_statement fun db out after hrow => ?_)) haccounted
      rw [updateGroup_ok hrow]
      exact ⟨rfl, groups_updateLiveGroup moment.now params.id params.set db⟩
  | softDelete actor id updatedBy =>
      obtain rfl : actor = actorID := hby
      refine Tx.Mirrors.withActor moment (.statement moment .write
        (Authored.mirrors_statement fun db out after hrow => ?_)) haccounted
      rw [softDeleteGroup_ok hrow]
      exact ⟨rfl, groups_updateLiveGroup moment.now id _ db⟩

end Accounts

end Skolva.Groups
